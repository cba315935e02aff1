import Hostwatch.Scheduler.Timing

/-!
# Where a probe stands

A planned check divides time in three: before it the probe is idle, for two intervals from then on
it is due, and after that it counts as new again.
-/

namespace Hostwatch

namespace Timestamp

theorem le_iff {a b : Timestamp} : a ≤ b ↔ a.toNanos ≤ b.toNanos := Iff.rfl

@[simp] theorem toNanos_ofNanos (nanos : Int) : (ofNanos nanos).toNanos = nanos := by
  simp only [toNanos, ofNanos]
  omega

theorem toNanos_of_add? {t later : Timestamp} {s : Span} (sum : t.add? s = some later) :
    later.toNanos = t.toNanos + s.nanos := by
  unfold add? at sum
  dsimp only at sum
  split at sum
  · cases sum
    exact toNanos_ofNanos _
  · cases sum

end Timestamp

namespace Probe

variable {α : Type} {p : Probe α} {now : Timestamp}

theorem state_ne_running (p : Probe α) (now : Timestamp) : p.state now false ≠ .running := by
  simp only [state, Bool.false_eq_true, if_false]
  split
  · simp
  · split
    · simp
    · split
      · simp
      · simp

theorem state_of_unplanned (unplanned : p.nextCheck = none) (now : Timestamp) :
    p.state now false = .unscheduled := by
  simp [state, unplanned]

section Planned

variable {next : Timestamp} (planned : p.nextCheck = some next)
include planned

theorem state_of_planned :
    p.state now false =
      if next.toNanos + 2 * p.interval.nanos < now.toNanos then .unscheduled
      else if next ≤ now then .due
      else .idle := by
  have late : p.interval.double < now.since next ↔
      next.toNanos + 2 * p.interval.nanos < now.toNanos := by
    change 2 * p.interval.nanos < now.toNanos - next.toNanos ↔ _
    omega
  simp only [state, planned, Bool.false_eq_true, if_false, late]

/-- A probe is due from its next check on, for two intervals. -/
theorem state_eq_due_iff :
    p.state now false = .due ↔
      next ≤ now ∧ now.toNanos ≤ next.toNanos + 2 * p.interval.nanos := by
  rw [state_of_planned planned, ← Int.not_lt]
  split
  · next late => simp [late]
  · next timely =>
      split
      · next come => simp [come, timely]
      · next ahead => simp [ahead]

theorem state_eq_unscheduled_iff :
    p.state now false = .unscheduled ↔
      next.toNanos + 2 * p.interval.nanos < now.toNanos := by
  rw [state_of_planned planned]
  split
  · next late => simp [late]
  · next timely =>
      split
      · simp [timely]
      · simp [timely]

theorem state_eq_idle_of_lt (nonneg : 0 ≤ p.interval.nanos) (early : now < next) :
    p.state now false = .idle := by
  have before : now.toNanos < next.toNanos := early
  have ahead : ¬ next ≤ now := Int.not_le.mpr early
  rw [state_of_planned planned, if_neg (by omega), if_neg ahead]

end Planned

theorem exists_le_of_due (due : p.state now false = .due) : ∃ next ∈ p.nextCheck, next ≤ now := by
  cases planned : p.nextCheck with
  | none => cases due.symm.trans (state_of_unplanned planned now)
  | some next => exact ⟨next, rfl, ((state_eq_due_iff planned).mp due).1⟩

end Probe

/-- A first check does not lie in the past. -/
theorem le_of_jitteredStart {now next : Timestamp} {interval : Span} {words : List Nat}
    (first : (jitteredStart now interval words).1 = some next) : now ≤ next := by
  unfold jitteredStart at first
  dsimp only at first
  split at first
  · cases first
    exact Int.le_refl _
  · rw [Timestamp.le_iff, Timestamp.toNanos_of_add? first]
    exact Int.le_add_of_nonneg_right (Int.mul_nonneg (Int.natCast_nonneg _) (by decide))

end Hostwatch
