import Hostwatch.Proofs.Text.Spacing

/-!
# Rows on a sheet

A report prints rows, each on a line of its own, and may have other lines between them. Whoever
reads such a text line by line and passes the other lines by reads the rows in turn.
-/

namespace Hostwatch.Text

variable {ρ : Type} {Prints : ρ → List Char → Prop} {Aside : List Char → Prop}
variable {rows : List ρ} {ls : List (List Char)}

/-- A text of whole lines. -/
def unlines (ls : List (List Char)) : List Char :=
  ls.flatMap fun line => line ++ ['\n']

theorem lines_unlines (whole : ∀ line ∈ ls, '\n' ∉ line) :
    lines (unlines ls) = ls.map withoutReturn := by
  induction ls with
  | nil => rfl
  | cons line ls ih =>
      obtain ⟨first, later⟩ := List.forall_mem_cons.mp whole
      rw [unlines, List.flatMap_cons, List.append_assoc]
      exact (lines_append_newline first _).trans (congrArg _ (ih later))

/-- What may be printed on a line, whether or not its last carriage return belongs to its end. -/
structure OnLine (Printed : List Char → Prop) : Prop where
  newline_not_mem : ∀ line, Printed line → '\n' ∉ line
  withoutReturn : ∀ line, Printed line → Printed (withoutReturn line)

theorem onLine_spaced (ws : List (List Char)) : OnLine (Spaced ws) :=
  ⟨fun _ spaced => spaced.newline_not_mem, fun _ spaced => spaced.withoutReturn⟩

theorem OnLine.exists {ι : Type} {Printed : ι → List Char → Prop} (each : ∀ i, OnLine (Printed i)) :
    OnLine fun line => ∃ i, Printed i line := by
  refine ⟨?_, ?_⟩
  · rintro line ⟨i, printed⟩
    exact (each i).newline_not_mem line printed
  · rintro line ⟨i, printed⟩
    exact ⟨i, (each i).withoutReturn line printed⟩

/-- Lines that print these rows in turn, with any number of other lines between them. -/
inductive Sheet (Prints : ρ → List Char → Prop) (Aside : List Char → Prop) :
    List ρ → List (List Char) → Prop where
  | nil : Sheet Prints Aside [] []
  | row {r : ρ} {line : List Char} {rows : List ρ} {ls : List (List Char)} :
    Prints r line → Sheet Prints Aside rows ls → Sheet Prints Aside (r :: rows) (line :: ls)
  | aside {line : List Char} {rows : List ρ} {ls : List (List Char)} :
    Aside line → Sheet Prints Aside rows ls → Sheet Prints Aside rows (line :: ls)

namespace Sheet

theorem newline_not_mem (prints : ∀ r, OnLine (Prints r)) (aside : OnLine Aside)
    (sheet : Sheet Prints Aside rows ls) : ∀ line ∈ ls, '\n' ∉ line := by
  induction sheet with
  | nil => exact nofun
  | row printed _ ih =>
      exact List.forall_mem_cons.mpr ⟨(prints _).newline_not_mem _ printed, ih⟩
  | aside printed _ ih => exact List.forall_mem_cons.mpr ⟨aside.newline_not_mem _ printed, ih⟩

theorem withoutReturn (prints : ∀ r, OnLine (Prints r)) (aside : OnLine Aside)
    (sheet : Sheet Prints Aside rows ls) : Sheet Prints Aside rows (ls.map withoutReturn) := by
  induction sheet with
  | nil => exact .nil
  | row printed _ ih => exact .row ((prints _).withoutReturn _ printed) ih
  | aside printed _ ih => exact .aside (aside.withoutReturn _ printed) ih

/-- The lines of the text are a sheet with the same rows. -/
theorem lines_unlines (prints : ∀ r, OnLine (Prints r)) (aside : OnLine Aside)
    (sheet : Sheet Prints Aside rows ls) : Sheet Prints Aside rows (lines (unlines ls)) := by
  rw [Text.lines_unlines (sheet.newline_not_mem prints aside)]
  exact sheet.withoutReturn prints aside

variable {σ τ : Type}

/-- If a line adds its row to what is seen of the state, and other lines add nothing to that, then a
sheet adds its rows. -/
theorem foldl_eq (addLine : σ → List Char → σ) (view : σ → τ) (addRow : τ → ρ → τ)
    (row : ∀ s r line, Prints r line → view (addLine s line) = addRow (view s) r)
    (other : ∀ s line, Aside line → view (addLine s line) = view s)
    (sheet : Sheet Prints Aside rows ls) (s : σ) :
    view (ls.foldl addLine s) = rows.foldl addRow (view s) := by
  induction sheet generalizing s with
  | nil => rfl
  | row printed _ ih => rw [List.foldl_cons, List.foldl_cons, ih, row s _ _ printed]
  | aside printed _ ih => rw [List.foldl_cons, ih, other s _ printed]

end Sheet

end Hostwatch.Text
