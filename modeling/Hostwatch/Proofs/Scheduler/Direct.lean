import Hostwatch.Proofs.Scheduler.Elsewhere

/-!
# A scheduler with nothing in its way

Over a link without faults, a scheduler that sees everything gets from the store what is there, and
its changes are made.
-/

namespace Hostwatch.Scheduler

variable {β τ : Type} {s s' : Scheduler β τ} {id : String} {q : Probe AgentRef}

/-- The scheduler sees everything, and nothing stands between it and the store. -/
structure Direct (s : Scheduler β τ) : Prop where
  sound : s.link.faults = []
  system : s.actor = .system

namespace Direct

variable (direct : s.Direct)
include direct

theorem keeps (keeps : Keeps id s s') : s'.Direct :=
  ⟨keeps.sound direct.sound, keeps.actor.trans direct.system⟩

theorem getHost (id : String) :
    s.link.getHost s.actor id = (s.link.store.findHost id, s.link) := by
  rw [Link.getHost, Link.read_of_sound direct.sound, direct.system, Store.getHost_system]

theorem getProbe (id : String) :
    s.link.getProbe s.actor id = (s.link.store.findProbe id, s.link) := by
  rw [Link.getProbe, Link.read_of_sound direct.sound, direct.system, Store.getProbe_system]

theorem recordRun (id : String) (now : Timestamp) (points : Option (List Point)) :
    s.link.recordRun s.actor id now points =
      ((s.link.store.recordRun .system id now points).1,
        { s.link with store := (s.link.store.recordRun .system id now points).2.store }) := by
  rw [Link.recordRun_of_sound direct.sound, direct.system]

theorem store_plan (id : String) (next : Timestamp) :
    (s.plan id next).link.store =
      match s.link.store.probe? id with
      | some q => s.link.store.setProbe { q with nextCheck := some next }
      | none => s.link.store := by
  unfold plan Link.reschedule Link.change
  rw [Link.interrupt_of_sound direct.sound, direct.system]
  cases found : s.link.store.probe? id with
  | none =>
      simp [Store.reschedule, Store.getProbe_system, Store.findProbe, found, bind, Except.bind]
  | some q =>
      have granted : s.link.store.reschedule .system id next =
          .ok (s.link.store.putProbe .updated { q with nextCheck := some next }) :=
        Store.reschedule_eq_ok_iff.mpr ⟨q, found, rfl, rfl⟩
      simp only [granted, Store.putProbe]

/-- A listing of the current store has the record that is stored. -/
theorem find?_listing (current : s.link.listed = none) (id : String) :
    s.listing.find? (·.id == id) = s.link.store.probe? id := by
  have all : s.listing = s.link.store.probes.values := by
    simp only [listing, Link.listProbes, Link.read_of_sound direct.sound, direct.system, current,
      Option.getD_none, Store.listProbes]
    exact List.filter_eq_self.mpr fun _ _ => rfl
  rw [all]
  exact s.link.store.probes_filed.find?_values id

/-- A marked probe that is still due begins its run. -/
theorem confirm_of_due (stored : s.link.store.probe? q.id = some q) {now : Timestamp}
    (due : q.state now false = .due) : s.confirm now q.id = (true, s.launch q) := by
  have found : s.link.store.findProbe q.id = .ok q := Store.findProbe_eq_ok_iff.mpr stored
  unfold confirm
  simp only [direct.getProbe, found, due, if_true]

end Direct

end Hostwatch.Scheduler
