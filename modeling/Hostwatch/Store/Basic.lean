import Hostwatch.Store.Access
import Hostwatch.Store.Event

/-!
# The store

The store holds the hosts and the probes of all accounts. Each operation is done on behalf of an
actor and is refused if it touches what is not the actor's business. A change answers with the new
store and the events that announce it; a refusal leaves the store as it is and announces nothing.

Hosts and probes are listed in the order of their identifiers.
-/

namespace Hostwatch

/-- All hosts and probes, by identifier. -/
structure Store (α τ : Type) where
  hosts : Table (Host τ) := []
  probes : Table (Probe α) := []
  hosts_filed : hosts.Filed Host.id := by exact .empty
  probes_filed : probes.Filed Probe.id := by exact .empty

/-- A store after a change, and the events that announce the change. -/
structure Revision (α τ : Type) where
  store : Store α τ
  events : List Event := []

namespace Store

variable {α τ : Type}

/-- Nothing is stored. -/
def empty : Store α τ := {}

/-- The host with that identifier. -/
def host? (s : Store α τ) (id : String) : Option (Host τ) :=
  s.hosts.get? id

/-- The probe with that identifier. -/
def probe? (s : Store α τ) (id : String) : Option (Probe α) :=
  s.probes.get? id

/-- Files a host under its identifier, in the place of the one that was there. -/
def setHost (s : Store α τ) (h : Host τ) : Store α τ :=
  { s with hosts := s.hosts.insert h.id h, hosts_filed := s.hosts_filed.insert h }

/-- Files a probe under its identifier, in the place of the one that was there. -/
def setProbe (s : Store α τ) (p : Probe α) : Store α τ :=
  { s with probes := s.probes.insert p.id p, probes_filed := s.probes_filed.insert p }

/-- Takes a probe out. -/
def eraseProbe (s : Store α τ) (id : String) : Store α τ :=
  { s with probes := s.probes.erase id, probes_filed := s.probes_filed.filter _ }

/-- Takes a host out and all probes that are bound to it. -/
def eraseHost (s : Store α τ) (id : String) : Store α τ :=
  { hosts := s.hosts.erase id
    probes := s.probes.filter fun entry => entry.2.hostId != id
    hosts_filed := s.hosts_filed.filter _
    probes_filed := s.probes_filed.filter _ }

@[simp] theorem host?_setHost (s : Store α τ) (h : Host τ) (id : String) :
    (s.setHost h).host? id = if id = h.id then some h else s.host? id :=
  Table.get?_insert ..

@[simp] theorem probe?_setHost (s : Store α τ) (h : Host τ) (id : String) :
    (s.setHost h).probe? id = s.probe? id := rfl

@[simp] theorem host?_setProbe (s : Store α τ) (p : Probe α) (id : String) :
    (s.setProbe p).host? id = s.host? id := rfl

@[simp] theorem probe?_setProbe (s : Store α τ) (p : Probe α) (id : String) :
    (s.setProbe p).probe? id = if id = p.id then some p else s.probe? id :=
  Table.get?_insert ..

@[simp] theorem host?_eraseProbe (s : Store α τ) (gone id : String) :
    (s.eraseProbe gone).host? id = s.host? id := rfl

@[simp] theorem probe?_eraseProbe (s : Store α τ) (gone id : String) :
    (s.eraseProbe gone).probe? id = if id = gone then none else s.probe? id :=
  Table.get?_erase ..

@[simp] theorem host?_eraseHost (s : Store α τ) (gone id : String) :
    (s.eraseHost gone).host? id = if id = gone then none else s.host? id :=
  Table.get?_erase ..

@[simp] theorem probe?_eraseHost (s : Store α τ) (gone id : String) :
    (s.eraseHost gone).probe? id = (s.probe? id).filter (·.hostId != gone) :=
  s.probes_filed.sorted.get?_filter (·.hostId != gone) id

theorem id_of_host? {s : Store α τ} {id : String} {h : Host τ} (found : s.host? id = some h) :
    h.id = id :=
  s.hosts_filed.ident_eq found

theorem id_of_probe? {s : Store α τ} {id : String} {p : Probe α} (found : s.probe? id = some p) :
    p.id = id :=
  s.probes_filed.ident_eq found

/-- Refuses what is not the actor's business. -/
def checkAccess (actor : Actor) (entity : Entity) (id account : String) : Except StoreError Unit :=
  if actor.canAccess account then .ok () else .error (.accessDenied entity id)

/-! ### Reading -/

def findProbe (s : Store α τ) (id : String) : Except StoreError (Probe α) :=
  match s.probe? id with
  | some p => .ok p
  | none => .error (.notFound .probe id)

def findHost (s : Store α τ) (id : String) : Except StoreError (Host τ) :=
  match s.host? id with
  | some h => .ok h
  | none => .error (.notFound .host id)

/-- A probe that the actor may see. -/
def getProbe (s : Store α τ) (actor : Actor) (id : String) : Except StoreError (Probe α) := do
  let p ← s.findProbe id
  checkAccess actor .probe id p.account
  return p

/-- A host that the actor may see. -/
def getHost (s : Store α τ) (actor : Actor) (id : String) : Except StoreError (Host τ) := do
  let h ← s.findHost id
  checkAccess actor .host id h.account
  return h

/-- The probes in a scope that the actor may see. -/
def listProbes (s : Store α τ) (actor : Actor) (scope : Scope) : List (Probe α) :=
  s.probes.values.filter fun p => actor.canAccess p.account && scope.holdsProbe p

/-- The hosts in a scope that the actor may see. -/
def listHosts (s : Store α τ) (actor : Actor) (scope : Scope) : List (Host τ) :=
  s.hosts.values.filter fun h => actor.canAccess h.account && scope.holdsHost h

/-! ### Changing -/

section Changes

variable [Plugin α] [Plugin τ]

/-- Stores a probe and announces its record. -/
def putProbe (s : Store α τ) (change : Change) (p : Probe α) : Revision α τ :=
  { store := s.setProbe p, events := [⟨.probe, change, p.toJson⟩] }

/-- Stores a host and announces its record. -/
def putHost (s : Store α τ) (change : Change) (h : Host τ) : Revision α τ :=
  { store := s.setHost h, events := [⟨.host, change, h.toJson⟩] }

/-- Adds a probe, bound to a host that the actor may see. -/
def addProbe (s : Store α τ) (actor : Actor) (p : Probe α) : Except StoreError (Revision α τ) := do
  checkAccess actor .probe p.id p.account
  let _ ← s.getHost actor p.hostId
  if (s.probe? p.id).isSome then throw (.alreadyExists .probe p.id)
  return s.putProbe .added p

/-- Puts a probe in the place of the one with its identifier. -/
def updateProbe (s : Store α τ) (actor : Actor) (p : Probe α) : Except StoreError (Revision α τ) := do
  checkAccess actor .probe p.id p.account
  let _ ← s.getProbe actor p.id
  return s.putProbe .updated p

def deleteProbe (s : Store α τ) (actor : Actor) (id : String) : Except StoreError (Revision α τ) := do
  let _ ← s.getProbe actor id
  return { store := s.eraseProbe id, events := [.deleted .probe id] }

/-- Sets when a probe runs next. -/
def reschedule (s : Store α τ) (actor : Actor) (id : String) (next : Timestamp) :
    Except StoreError (Revision α τ) := do
  let p ← s.getProbe actor id
  return s.putProbe .updated { p with nextCheck := some next }

/-- Stores the outcome of a run: when it ended and what it found. The next run is one interval
later. If that is beyond the calendar, the time of this run is stored all the same, without an
event. -/
def recordRun (s : Store α τ) (actor : Actor) (id : String) (time : Timestamp)
    (points : Option (List Point)) : Except StoreError Unit × Revision α τ :=
  match s.getProbe actor id with
  | .error e => (.error e, { store := s })
  | .ok p =>
    let p := { p with lastCheck := some time }
    match time.add? p.interval with
    | none => (.error .beyondCalendar, { store := s.setProbe p })
    | some next => (.ok (), s.putProbe .updated { p with nextCheck := some next, lastPoints := points })

def addHost (s : Store α τ) (actor : Actor) (h : Host τ) : Except StoreError (Revision α τ) := do
  checkAccess actor .host h.id h.account
  if (s.host? h.id).isSome then throw (.alreadyExists .host h.id)
  return s.putHost .added h

/-- Puts a host in the place of the one with its identifier. -/
def updateHost (s : Store α τ) (actor : Actor) (h : Host τ) : Except StoreError (Revision α τ) := do
  checkAccess actor .host h.id h.account
  let _ ← s.getHost actor h.id
  return s.putHost .updated h

/-- Deletes a host together with the probes bound to it, whoever they belong to. -/
def deleteHost (s : Store α τ) (actor : Actor) (id : String) : Except StoreError (Revision α τ) := do
  let _ ← s.getHost actor id
  let bound := s.probes.filter fun entry => entry.2.hostId == id
  return {
    store := s.eraseHost id
    events := bound.map (fun entry => .deleted .probe entry.1) ++ [.deleted .host id] }

end Changes

end Store

end Hostwatch
