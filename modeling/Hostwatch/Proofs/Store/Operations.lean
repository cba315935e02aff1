import Hostwatch.Proofs.Except
import Hostwatch.Proofs.Table
import Hostwatch.Store.Operation

/-!
# What the operations of a store do

For each operation that changes the store, when it is granted and what it leaves behind. The
relation `Store.Moves` puts these together: it says all that can become of a store when an actor
carries out an operation, and later proofs go by its cases instead of opening the operations.
-/

namespace Hostwatch

namespace Store

variable {α τ : Type} {s : Store α τ} {actor : Actor} {r : Revision α τ}

/-- Stores with the same hosts and the same record of each probe are the same. -/
theorem eq_of_probes {t : Store α τ} (hosts : s.hosts = t.hosts)
    (probes : ∀ id, s.probe? id = t.probe? id) : s = t := by
  have filed : s.probes = t.probes :=
    Table.Sorted.ext s.probes_filed.sorted t.probes_filed.sorted probes
  cases s
  cases t
  cases hosts
  cases filed
  rfl

theorem checkAccess_eq_ok_iff {entity : Entity} {id account : String} {u : Unit} :
    checkAccess actor entity id account = .ok u ↔ actor.canAccess account = true := by
  unfold checkAccess
  split
  · next granted => simp [granted]
  · next refused => simp [refused]

/-- What was found is handed out if it is the actor's business. -/
theorem checked_eq_ok_iff {γ : Type} {found : Except StoreError γ} {entity : Entity} {id : String}
    {account : γ → String} {c : γ} :
    (do let e ← found; checkAccess actor entity id (account e); return e) = .ok c ↔
      found = .ok c ∧ actor.canAccess (account c) = true := by
  simp only [bind_eq_ok_iff, checkAccess_eq_ok_iff, pure, Except.pure, Except.ok.injEq]
  constructor
  · rintro ⟨_, same, _, granted, rfl⟩
    exact ⟨same, granted⟩
  · rintro ⟨same, granted⟩
    exact ⟨c, same, (), granted, rfl⟩

theorem findProbe_eq_ok_iff {id : String} {p : Probe α} :
    s.findProbe id = .ok p ↔ s.probe? id = some p := by
  unfold findProbe
  cases s.probe? id with
  | none => simp
  | some q => simp

theorem findHost_eq_ok_iff {id : String} {h : Host τ} :
    s.findHost id = .ok h ↔ s.host? id = some h := by
  unfold findHost
  cases s.host? id with
  | none => simp
  | some q => simp

theorem getProbe_eq_ok_iff {id : String} {p : Probe α} :
    s.getProbe actor id = .ok p ↔ s.probe? id = some p ∧ actor.canAccess p.account = true := by
  rw [← findProbe_eq_ok_iff]
  exact checked_eq_ok_iff

theorem getHost_eq_ok_iff {id : String} {h : Host τ} :
    s.getHost actor id = .ok h ↔ s.host? id = some h ∧ actor.canAccess h.account = true := by
  rw [← findHost_eq_ok_iff]
  exact checked_eq_ok_iff

theorem getProbe_system (s : Store α τ) (id : String) :
    s.getProbe .system id = s.findProbe id := by
  unfold getProbe
  cases s.findProbe id with
  | error e => rfl
  | ok p => rfl

theorem getHost_system (s : Store α τ) (id : String) : s.getHost .system id = s.findHost id := by
  unfold getHost
  cases s.findHost id with
  | error e => rfl
  | ok h => rfl

/-- A listing has at most one record of a probe. -/
theorem listProbes_pairwise (s : Store α τ) (actor : Actor) (scope : Scope) :
    (s.listProbes actor scope).Pairwise fun a b => a.id ≠ b.id :=
  s.probes_filed.pairwise_values.filter _

theorem deleteProbe_eq_ok_iff {id : String} :
    s.deleteProbe actor id = .ok r ↔
      (∃ old, s.probe? id = some old ∧ actor.canAccess old.account = true) ∧
      { store := s.eraseProbe id, events := [.deleted .probe id] } = r := by
  simp [deleteProbe, bind_eq_ok_iff, getProbe_eq_ok_iff, pure, Except.pure]

theorem deleteHost_eq_ok_iff {id : String} :
    s.deleteHost actor id = .ok r ↔
      (∃ old, s.host? id = some old ∧ actor.canAccess old.account = true) ∧
      { store := s.eraseHost id
        events := (s.probes.filter fun entry => entry.2.hostId == id).map
          (fun entry => .deleted .probe entry.1) ++ [.deleted .host id] } = r := by
  simp [deleteHost, bind_eq_ok_iff, getHost_eq_ok_iff, pure, Except.pure]

section Probes

variable [Plugin α]

theorem addProbe_eq_ok_iff {p : Probe α} :
    s.addProbe actor p = .ok r ↔
      actor.canAccess p.account = true ∧
      (∃ h, s.host? p.hostId = some h ∧ actor.canAccess h.account = true) ∧
      s.probe? p.id = none ∧ s.putProbe .added p = r := by
  simp only [addProbe, bind_eq_ok_iff, checkAccess_eq_ok_iff, getHost_eq_ok_iff]
  cases s.probe? p.id with
  | none => simp [pure, Except.pure]
  | some q => simp [throw, throwThe, MonadExceptOf.throw, bind, Except.bind]

theorem updateProbe_eq_ok_iff {p : Probe α} :
    s.updateProbe actor p = .ok r ↔
      actor.canAccess p.account = true ∧
      (∃ old, s.probe? p.id = some old ∧ actor.canAccess old.account = true) ∧
      s.putProbe .updated p = r := by
  simp [updateProbe, bind_eq_ok_iff, checkAccess_eq_ok_iff, getProbe_eq_ok_iff, pure, Except.pure]

theorem reschedule_eq_ok_iff {id : String} {next : Timestamp} :
    s.reschedule actor id next = .ok r ↔
      ∃ old, s.probe? id = some old ∧ actor.canAccess old.account = true ∧
        s.putProbe .updated { old with nextCheck := some next } = r := by
  simp [reschedule, bind_eq_ok_iff, getProbe_eq_ok_iff, pure, Except.pure, and_assoc]

/-- A run is recorded whole if the next check lies in the calendar. Otherwise only its time is
stored, and the record falls apart. -/
theorem recordRun_eq {id : String} {time : Timestamp} {points : Option (List Point)} {p : Probe α}
    (found : s.probe? id = some p) (granted : actor.canAccess p.account = true) :
    s.recordRun actor id time points =
      match time.add? p.interval with
      | none => (.error .beyondCalendar, { store := s.setProbe { p with lastCheck := some time } })
      | some next =>
        (.ok (), s.putProbe .updated
          { p with lastCheck := some time, nextCheck := some next, lastPoints := points }) := by
  have read : s.getProbe actor id = .ok p := getProbe_eq_ok_iff.mpr ⟨found, granted⟩
  cases sum : time.add? p.interval with
  | none => simp only [recordRun, read, sum]
  | some next => simp only [recordRun, read, sum]

/-- Nothing changes when a run is recorded that the actor cannot see a probe of. -/
theorem recordRun_eq_error {id : String} {time : Timestamp} {points : Option (List Point)}
    {e : StoreError} (refused : s.getProbe actor id = .error e) :
    s.recordRun actor id time points = (.error e, { store := s }) := by
  unfold recordRun
  rw [refused]

end Probes

section Hosts

variable [Plugin τ]

theorem addHost_eq_ok_iff {h : Host τ} :
    s.addHost actor h = .ok r ↔
      actor.canAccess h.account = true ∧ s.host? h.id = none ∧ s.putHost .added h = r := by
  simp only [addHost, bind_eq_ok_iff, checkAccess_eq_ok_iff]
  cases s.host? h.id with
  | none => simp [pure, Except.pure]
  | some q => simp [throw, throwThe, MonadExceptOf.throw, bind, Except.bind]

theorem updateHost_eq_ok_iff {h : Host τ} :
    s.updateHost actor h = .ok r ↔
      actor.canAccess h.account = true ∧
      (∃ old, s.host? h.id = some old ∧ actor.canAccess old.account = true) ∧
      s.putHost .updated h = r := by
  simp [updateHost, bind_eq_ok_iff, checkAccess_eq_ok_iff, getHost_eq_ok_iff, pure, Except.pure]

end Hosts

/-! ### All operations -/

/-- What can become of a store when an actor carries out an operation: it stays as it is, which is
all that reading and refusals do, or one of the changes happens, under its conditions. -/
inductive Moves (s : Store α τ) (actor : Actor) : Operation α τ → Store α τ → Prop where
  | kept (op : Operation α τ) : Moves s actor op s
  | addProbe {p : Probe α} {h : Host τ} :
    actor.canAccess p.account = true → s.host? p.hostId = some h →
    actor.canAccess h.account = true → s.probe? p.id = none →
    Moves s actor (.addProbe p) (s.setProbe p)
  | updateProbe {p old : Probe α} :
    actor.canAccess p.account = true → s.probe? p.id = some old →
    actor.canAccess old.account = true → Moves s actor (.updateProbe p) (s.setProbe p)
  | deleteProbe {id : String} {old : Probe α} :
    s.probe? id = some old → actor.canAccess old.account = true →
    Moves s actor (.deleteProbe id) (s.eraseProbe id)
  | recordRun {id : String} {time next : Timestamp} {points : Option (List Point)} {old : Probe α} :
    s.probe? id = some old → actor.canAccess old.account = true →
    time.add? old.interval = some next →
    Moves s actor (.recordRun id time points) (s.setProbe
      { old with lastCheck := some time, nextCheck := some next, lastPoints := points })
  | recordBeyond {id : String} {time : Timestamp} {points : Option (List Point)} {old : Probe α} :
    s.probe? id = some old → actor.canAccess old.account = true →
    time.add? old.interval = none →
    Moves s actor (.recordRun id time points) (s.setProbe { old with lastCheck := some time })
  | reschedule {id : String} {next : Timestamp} {old : Probe α} :
    s.probe? id = some old → actor.canAccess old.account = true →
    Moves s actor (.reschedule id next) (s.setProbe { old with nextCheck := some next })
  | addHost {h : Host τ} :
    actor.canAccess h.account = true → s.host? h.id = none →
    Moves s actor (.addHost h) (s.setHost h)
  | updateHost {h old : Host τ} :
    actor.canAccess h.account = true → s.host? h.id = some old →
    actor.canAccess old.account = true → Moves s actor (.updateHost h) (s.setHost h)
  | deleteHost {id : String} {old : Host τ} :
    s.host? id = some old → actor.canAccess old.account = true →
    Moves s actor (.deleteHost id) (s.eraseHost id)

/-- A change that may be refused leaves the store as it is or as the change makes it. -/
theorem ofChange_store {motive : Store α τ → Prop} {x : Except StoreError (Revision α τ)}
    (refused : motive s) (granted : ∀ r, x = .ok r → motive r.store) :
    motive (Outcome.ofChange s x).store := by
  cases x with
  | error e => exact refused
  | ok r => exact granted r rfl

theorem perform_moves [Plugin α] [Plugin τ] (s : Store α τ) (actor : Actor) (op : Operation α τ) :
    s.Moves actor op (s.perform actor op).store := by
  cases op with
  | getProbe | listProbes | getHost | listHosts => exact .kept _
  | addProbe p =>
      refine ofChange_store (.kept _) ?_
      intro r h
      obtain ⟨own, ⟨host, found, visible⟩, fresh, rfl⟩ := addProbe_eq_ok_iff.mp h
      exact .addProbe own found visible fresh
  | updateProbe p =>
      refine ofChange_store (.kept _) ?_
      intro r h
      obtain ⟨own, ⟨old, found, visible⟩, rfl⟩ := updateProbe_eq_ok_iff.mp h
      exact .updateProbe own found visible
  | deleteProbe id =>
      refine ofChange_store (.kept _) ?_
      intro r h
      obtain ⟨⟨old, found, visible⟩, rfl⟩ := deleteProbe_eq_ok_iff.mp h
      exact .deleteProbe found visible
  | recordRun id time points =>
      change s.Moves actor _ (s.recordRun actor id time points).2.store
      cases h : s.getProbe actor id with
      | error e =>
          rw [recordRun_eq_error h]
          exact .kept _
      | ok p =>
          obtain ⟨found, visible⟩ := getProbe_eq_ok_iff.mp h
          rw [recordRun_eq found visible]
          cases sum : time.add? p.interval with
          | none => exact .recordBeyond found visible sum
          | some next => exact .recordRun found visible sum
  | reschedule id next =>
      refine ofChange_store (.kept _) ?_
      intro r h
      obtain ⟨old, found, visible, rfl⟩ := reschedule_eq_ok_iff.mp h
      exact .reschedule found visible
  | addHost h =>
      refine ofChange_store (.kept _) ?_
      intro r granted
      obtain ⟨own, fresh, rfl⟩ := addHost_eq_ok_iff.mp granted
      exact .addHost own fresh
  | updateHost h =>
      refine ofChange_store (.kept _) ?_
      intro r granted
      obtain ⟨own, ⟨old, found, visible⟩, rfl⟩ := updateHost_eq_ok_iff.mp granted
      exact .updateHost own found visible
  | deleteHost id =>
      refine ofChange_store (.kept _) ?_
      intro r h
      obtain ⟨⟨old, found, visible⟩, rfl⟩ := deleteHost_eq_ok_iff.mp h
      exact .deleteHost found visible

end Store

end Hostwatch
