import Hostwatch.Agent.DiskUsage
import Hostwatch.Proofs.Number.Rounding

/-!
# The whole of which space is used

The used share is taken of the sum of what is used and what is available. Both are words, and so is
their sum if no more is available than is free, as it is on every real file system. Nothing keeps a
host from reporting otherwise, and then the sum may be no word. In that case no points come of the
reading at all.
-/

namespace Hostwatch

namespace FsUsage

/-- No number of octets goes past the greatest word. -/
structure InWords (u : FsUsage) : Prop where
  total : u.total ≤ wordMax
  free : u.free ≤ wordMax
  available : u.available ≤ wordMax

theorem inWords_ofBlocks (blockSize blocks free available files filesFree : Nat) :
    (ofBlocks blockSize blocks free available files filesFree).InWords :=
  ⟨Nat.min_le_right _ _, Nat.min_le_right _ _, Nat.min_le_right _ _⟩

variable {u : FsUsage}

theorem InWords.used_add_available_le_iff (inWords : u.InWords) :
    u.used + u.available ≤ wordMax ↔ u.total + u.available ≤ wordMax + u.free := by
  have := inWords.available
  have := inWords.free
  rw [used]
  omega

end FsUsage

namespace DiskUsage

open Binary64 FsUsage

variable {u : FsUsage} {whole : Nat}

/-- A sum is the true one or there is none. -/
theorem usable_eq_some_iff :
    usable u = some whole ↔ u.used + u.available ≤ wordMax ∧ u.used + u.available = whole := by
  simp only [usable, Option.ite_none_right_eq_some, Option.some.injEq]

theorem usable_eq_none_iff : usable u = none ↔ wordMax < u.used + u.available := by
  rw [Option.eq_none_iff_forall_ne_some, ← Nat.not_le]
  exact ⟨fun never word => never _ (usable_eq_some_iff.mpr ⟨word, rfl⟩),
    fun long _ sum => long (usable_eq_some_iff.mp sum).1⟩

theorem usedPercent_le_hundred (part : u.used ≤ whole) (word : whole ≤ wordMax) :
    usedPercent u whole ≤ 100.0 := by
  rw [usedPercent]
  split
  · next above => exact percent_le_hundred part above (Nat.lt_of_le_of_lt word (by decide))
  · exact (le_iff _ _).mpr rfl

theorem get?_used_percent (p : Params) (u : FsUsage) (whole : Nat) (time : Timestamp) :
    (point p u whole time).fields.get? "used_percent" = some (.number (usedPercent u whole)) := by
  simp [point, Point.number, Point.field]

/-- The sum of what is used and what is available is a word exactly if the available space is not
more than the free space by more than a word has left above the total. Then it is at least what is
used, zero only if both are, and one point is reported with the used share of it in percent, which
is at most a hundred. Else there is no sum, and working out the points breaks off. -/
theorem usable_is_exact_iff (blockSize blocks free available files filesFree : Nat) (p : Params)
    (time : Timestamp) :
    (let u := ofBlocks blockSize blocks free available files filesFree
    (usable u = some (u.used + u.available) ↔ u.total + u.available ≤ wordMax + u.free) ∧
    (∀ sum, usable u = some sum →
      sum = u.used + u.available ∧ u.used ≤ sum ∧ (sum = 0 ↔ u.used = 0 ∧ u.available = 0) ∧
      ∃ reported percent, points p (some (u, time)) = some [reported] ∧
        reported.fields.get? "used_percent" = some (.number percent) ∧
        (0 < sum → percent = ofInt u.used / ofInt sum * 100.0) ∧ (sum = 0 → percent = 0.0) ∧
        percent ≤ 100.0) ∧
    (usable u = none ↔ wordMax < u.used + u.available) ∧
    (points p (some (u, time)) = none ↔ usable u = none) ∧
    (u.available ≤ u.free → usable u = some (u.used + u.available))) := by
  intro u
  have inWords : u.InWords := inWords_ofBlocks _ _ _ _ _ _
  have exact_iff : usable u = some (u.used + u.available) ↔
      u.total + u.available ≤ wordMax + u.free := by
    rw [usable_eq_some_iff, ← inWords.used_add_available_le_iff, and_iff_left rfl]
  refine ⟨exact_iff, ?_, usable_eq_none_iff, Option.map_eq_none_iff, ?_⟩
  · intro sum summed
    obtain ⟨word, true_⟩ := usable_eq_some_iff.mp summed
    have part : u.used ≤ sum := by omega
    refine ⟨true_.symm, part, by omega, point p u sum time, usedPercent u sum, ?_,
      get?_used_percent .., fun above => if_pos above, fun zero => if_neg (by omega),
      usedPercent_le_hundred part (true_ ▸ word)⟩
    rw [points, summed, Option.map_some]
  · intro consistent
    have := inWords.total
    exact exact_iff.mpr (by omega)

/-- More is available than is free, and the total is the greatest word. -/
theorem sum_of_words_overflows :
    let u := ofBlocks 1 18446744073709551615 0 2 0 0
    u.used = 18446744073709551615 ∧ u.available = 2 ∧ usable u = none ∧
      points {} (some (u, ⟨1700000000, 0⟩)) = none := by
  exact ⟨by decide, by decide, by decide, rfl⟩

end DiskUsage

end Hostwatch
