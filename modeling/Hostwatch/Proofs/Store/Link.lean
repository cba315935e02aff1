import Hostwatch.Store.Link
import Hostwatch.Proofs.Store.Operations

/-!
# What comes over a link

Whatever a link does to a call, an answer that does come is one of the store. Over a link without
faults every call reaches the store, and the link stays without faults.
-/

namespace Hostwatch.Link

variable {α τ : Type} {l : Link α τ} {actor : Actor} {id : String}

theorem store_interrupt (l : Link α τ) (call : StoreCall) :
    (l.interrupt call).2.store = l.store := by
  unfold interrupt
  split
  · rfl
  · rfl

/-- A call that reads leaves the store alone, and if it is answered, the store has answered it. -/
theorem read_cases {β : Type} (l : Link α τ) (call : StoreCall)
    (f : Store α τ → Except StoreError β) :
    (l.read call f).2.store = l.store ∧
      ((l.read call f).1 = f l.store ∨ ∃ e, (l.read call f).1 = .error e) := by
  have same := l.store_interrupt call
  simp only [read]
  split
  · next e link interrupted =>
      rw [interrupted] at same
      exact ⟨same, .inr ⟨e, rfl⟩⟩
  · next link interrupted =>
      rw [interrupted] at same
      exact ⟨same, .inl (congrArg f same)⟩

theorem store_read {β : Type} (l : Link α τ) (call : StoreCall)
    (f : Store α τ → Except StoreError β) : (l.read call f).2.store = l.store :=
  (l.read_cases call f).1

theorem read_eq_ok {β : Type} {call : StoreCall} {f : Store α τ → Except StoreError β} {b : β}
    (answer : (l.read call f).1 = .ok b) : f l.store = .ok b := by
  obtain same | ⟨e, failed⟩ := (l.read_cases call f).2
  · rw [← same, answer]
  · cases answer.symm.trans failed

theorem probe?_of_getProbe {p : Probe α} (answer : (l.getProbe actor id).1 = .ok p) :
    l.store.probe? id = some p :=
  (Store.getProbe_eq_ok_iff.mp (read_eq_ok answer)).1

theorem listProbes_pairwise {scope : Scope} {probes : List (Probe α)}
    (answer : (l.listProbes actor scope).1 = .ok probes) :
    probes.Pairwise fun a b => a.id ≠ b.id := by
  cases read_eq_ok answer
  exact Store.listProbes_pairwise _ actor scope

/-- A change that is answered has been made, and one that fails has not. -/
theorem change_cases (l : Link α τ) (call : StoreCall)
    (f : Store α τ → Except StoreError (Revision α τ)) :
    (∃ r, f l.store = .ok r ∧ (l.change call f).1 = .ok () ∧
      (l.change call f).2.store = r.store) ∨
    (∃ e, (l.change call f).1 = .error e ∧ (l.change call f).2.store = l.store) := by
  have same := l.store_interrupt call
  unfold change
  split
  · next e link interrupted =>
      rw [interrupted] at same
      exact .inr ⟨e, rfl, same⟩
  · next link interrupted =>
      rw [interrupted] at same
      replace same : link.store = l.store := same
      rw [same]
      cases answer : f l.store with
      | ok r => exact .inl ⟨r, rfl, rfl, rfl⟩
      | error e => exact .inr ⟨e, rfl, same⟩

theorem reschedule_cases [Plugin α] (l : Link α τ) (actor : Actor) (id : String)
    (next : Timestamp) :
    (∃ old, l.store.probe? id = some old ∧ (l.reschedule actor id next).1 = .ok () ∧
      (l.reschedule actor id next).2.store =
        l.store.setProbe { old with nextCheck := some next }) ∨
    (∃ e, (l.reschedule actor id next).1 = .error e ∧
      (l.reschedule actor id next).2.store = l.store) := by
  obtain ⟨r, granted, answer, after⟩ | refused :=
    l.change_cases .reschedule (·.reschedule actor id next)
  · obtain ⟨old, found, -, rfl⟩ := Store.reschedule_eq_ok_iff.mp granted
    exact .inl ⟨old, found, answer, after⟩
  · exact .inr refused

/-! ### Without faults -/

section Sound

variable (sound : l.faults = [])
include sound

theorem interrupt_of_sound (call : StoreCall) : l.interrupt call = (none, l) := by
  simp [interrupt, sound]

theorem read_of_sound {β : Type} (call : StoreCall) (f : Store α τ → Except StoreError β) :
    l.read call f = (f l.store, l) := by
  rw [read, l.interrupt_of_sound sound]

theorem faults_read {β : Type} (call : StoreCall) (f : Store α τ → Except StoreError β) :
    (l.read call f).2.faults = [] := by
  rw [l.read_of_sound sound]
  exact sound

theorem recordRun_of_sound [Plugin α] (time : Timestamp) (points : Option (List Point)) :
    l.recordRun actor id time points =
      ((l.store.recordRun actor id time points).1,
        { l with store := (l.store.recordRun actor id time points).2.store }) := by
  rw [recordRun, l.interrupt_of_sound sound]

theorem faults_change (call : StoreCall) (f : Store α τ → Except StoreError (Revision α τ)) :
    (l.change call f).2.faults = [] := by
  rw [change, l.interrupt_of_sound sound]
  dsimp only
  split
  · exact sound
  · exact sound

end Sound

end Hostwatch.Link
