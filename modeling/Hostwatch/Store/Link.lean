import Hostwatch.Store.Basic

/-!
# A link to a store

The scheduler reaches the store over a link that can let it down: a call may fail before it gets to
the store, and a listing may be older than the store is. What the scheduler does has to be right
over any link; a plain link does neither.
-/

namespace Hostwatch

/-- The calls that the scheduler makes. -/
inductive StoreCall where
  | listProbes
  | getProbe
  | recordRun
  | reschedule
  | getHost
  | addHost
  deriving Repr, DecidableEq

namespace StoreCall

def all : List StoreCall :=
  [.listProbes, .getProbe, .recordRun, .reschedule, .getHost, .addHost]

/-- The name of a call in reports. -/
def name : StoreCall → String
  | .listProbes => "get_all_probes"
  | .getProbe => "get_probe"
  | .recordRun => "record_run"
  | .reschedule => "reschedule"
  | .getHost => "get_host"
  | .addHost => "add_host"

end StoreCall

/-- A link. -/
structure Link (α τ : Type) where
  store : Store α τ := {}
  /-- An earlier state of the store that is listed instead of the current one. -/
  listed : Option (Store α τ) := none
  /-- What the next calls of a kind fail with, if they do. -/
  faults : List (StoreCall × List (Option StoreError)) := []

namespace Link

variable {α τ : Type}

/-- Whether the next call of a kind fails, and the link after it. -/
def interrupt (l : Link α τ) (call : StoreCall) : Option StoreError × Link α τ :=
  match l.faults.lookup call with
  | some (fault :: rest) =>
    (fault, { l with faults := (call, rest) :: l.faults.filter fun entry => entry.1 != call })
  | _ => (none, l)

/-- A call that reads. -/
def read {β : Type} (l : Link α τ) (call : StoreCall) (f : Store α τ → Except StoreError β) :
    Except StoreError β × Link α τ :=
  match l.interrupt call with
  | (some e, l) => (.error e, l)
  | (none, l) => (f l.store, l)

/-- A call that changes the store. -/
def change (l : Link α τ) (call : StoreCall)
    (f : Store α τ → Except StoreError (Revision α τ)) : Except StoreError Unit × Link α τ :=
  match l.interrupt call with
  | (some e, l) => (.error e, l)
  | (none, l) =>
    match f l.store with
    | .ok r => (.ok (), { l with store := r.store })
    | .error e => (.error e, l)

def listProbes (l : Link α τ) (actor : Actor) (scope : Scope) :
    Except StoreError (List (Probe α)) × Link α τ :=
  l.read .listProbes fun s => .ok ((l.listed.getD s).listProbes actor scope)

def getProbe (l : Link α τ) (actor : Actor) (id : String) :
    Except StoreError (Probe α) × Link α τ :=
  l.read .getProbe (·.getProbe actor id)

def getHost (l : Link α τ) (actor : Actor) (id : String) : Except StoreError (Host τ) × Link α τ :=
  l.read .getHost (·.getHost actor id)

section Changes

variable [Plugin α] [Plugin τ]

def addHost (l : Link α τ) (actor : Actor) (h : Host τ) : Except StoreError Unit × Link α τ :=
  l.change .addHost (·.addHost actor h)

def reschedule (l : Link α τ) (actor : Actor) (id : String) (next : Timestamp) :
    Except StoreError Unit × Link α τ :=
  l.change .reschedule (·.reschedule actor id next)

def recordRun (l : Link α τ) (actor : Actor) (id : String) (time : Timestamp)
    (points : Option (List Point)) : Except StoreError Unit × Link α τ :=
  match l.interrupt .recordRun with
  | (some e, l) => (.error e, l)
  | (none, l) =>
    let (answer, r) := l.store.recordRun actor id time points
    (answer, { l with store := r.store })

end Changes

end Link

end Hostwatch
