import Hostwatch.Dns.Message

/-!
# Names that are read fit in a message

Reading a name checks every label as it is completed, and with it the length of the whole. These are
the bounds that a message sets, so a name that was read can always be written.
-/

namespace Hostwatch.Dns.Name

theorem fits_iff {name : Name} :
    name.fits = true ↔
      (∀ label ∈ name, label.length ≤ maxLabel) ∧ encodedLength name ≤ maxLength := by
  simp [fits]

theorem length_le_of_isLabel {label : List Char} (isLabel : isLabel label = true) :
    label.length ≤ maxLabel := by
  cases label with
  | nil => cases isLabel
  | cons c rest =>
      simp only [Name.isLabel, Bool.and_eq_true, decide_eq_true_eq] at isLabel
      exact isLabel.1.1

theorem fits_append? {name longer : Name} {label : List Char} (fits : name.fits = true)
    (appended : name.append? label = some longer) : longer.fits = true := by
  unfold append? at appended
  dsimp only at appended
  split at appended
  · next good =>
      cases appended
      simp only [Bool.and_eq_true, decide_eq_true_eq] at good
      refine fits_iff.mpr ⟨?_, good.2⟩
      intro other member
      obtain old | new := List.mem_append.mp member
      · exact (fits_iff.mp fits).1 other old
      · rw [List.mem_singleton.mp new]
        exact length_le_of_isLabel good.1
  · cases appended

theorem fits_readFrom {name found : Name} {label cs : List Char} {escape : Escape}
    (fits : name.fits = true) (read : readFrom name label escape cs = some found) :
    found.fits = true := by
  fun_induction readFrom name label escape cs with
  | case1 name label escape ended =>
      cases read
      exact fits
  | case2 name label escape open_ => exact fits_append? fits read
  | case3 name label c rest dot ih =>
      obtain ⟨longer, appended, read⟩ := Option.bind_eq_some_iff.mp read
      exact ih longer (fits_append? fits appended) read
  | case5 => cases read
  | case4 | case6 | case8 =>
      next ih => exact ih fits read
  | case7 | case9 | case10 =>
      next ih =>
        obtain ⟨digit, found, read⟩ := Option.bind_eq_some_iff.mp read
        exact ih digit fits read

/-- A name that was read fits in a message. -/
theorem fits_read? {text : String} {name : Name} (read : read? text = some name) :
    name.fits = true := by
  unfold read? at read
  split at read
  · cases read
    rfl
  · have empty : fits [] = true := rfl
    exact fits_readFrom empty read

end Hostwatch.Dns.Name
