import Hostwatch.Text.Split

/-!
# Lines

How a text falls into lines. A line reaches up to the next newline, whatever comes behind, so that a
text which ends with a newline and a text that follows it are cut independently of each other.
-/

namespace Hostwatch.Text

variable {l : List Char} {rest line : List Char} {done : List (List Char)}

/-- A line without the carriage return that belongs to its end. -/
def withoutReturn (line : List Char) : List Char :=
  if line.getLast? = some '\r' then line.dropLast else line

theorem withoutReturn_of_not_mem (plain : '\r' ∉ l) : withoutReturn l = l := by
  refine if_neg fun last => plain ?_
  exact List.mem_of_getLast? last

theorem withoutReturn_append (l : List Char) : withoutReturn (l ++ ['\r']) = l := by
  rw [withoutReturn, if_pos List.getLast?_concat, List.dropLast_concat]

theorem lines_go_newline :
    lines.go ('\n' :: rest) line done = lines.go rest [] (withoutReturn line.reverse :: done) := by
  cases line with
  | nil => rfl
  | cons c line =>
      by_cases return_ : c = '\r'
      · subst return_
        rw [lines.go, List.reverse_cons, withoutReturn_append]
      · rw [lines.go, withoutReturn, if_neg]
        · simpa using return_
        · rintro _ same
          exact return_ (List.cons.inj same).1

theorem lines_go_char {c : Char} (inside : c ≠ '\n') :
    lines.go (c :: rest) line done = lines.go rest (c :: line) done := by
  rw [lines.go]
  · exact inside
  · exact fun _ _ same => inside same

theorem lines_go_of_not_mem (whole : '\n' ∉ l) :
    lines.go (l ++ rest) line done = lines.go rest (l.reverse ++ line) done := by
  induction l generalizing line with
  | nil => rfl
  | cons c l ih =>
      obtain ⟨first, later⟩ := not_or.mp (mt List.mem_cons.mpr whole)
      rw [List.cons_append, lines_go_char (Ne.symm first), ih later, List.reverse_cons,
        List.append_assoc]
      rfl

theorem lines_go_done : lines.go rest line done = done.reverse ++ lines.go rest line [] := by
  induction rest generalizing line done with
  | nil =>
      cases line with
      | nil => exact (List.append_nil _).symm
      | cons c line => simp [lines.go]
  | cons c rest ih =>
      by_cases newline : c = '\n'
      · subst newline
        rw [lines_go_newline, lines_go_newline, ih, @ih _ [_]]
        simp
      · rw [lines_go_char newline, lines_go_char newline, ih]

/-- The first line of a text. -/
theorem lines_append_newline (whole : '\n' ∉ l) (rest : List Char) :
    lines (l ++ '\n' :: rest) = withoutReturn l :: lines rest := by
  rw [lines, lines_go_of_not_mem whole, lines_go_newline, lines_go_done, List.append_nil,
    List.reverse_reverse]
  rfl

/-- The last line of a text may do without a newline. -/
theorem lines_of_not_mem (whole : '\n' ∉ l) (some_ : l ≠ []) : lines l = [l] := by
  have alone : lines.go (l ++ []) [] [] = lines.go [] (l.reverse ++ []) [] :=
    lines_go_of_not_mem whole
  rw [List.append_nil, List.append_nil] at alone
  rw [lines, alone]
  cases reversed : l.reverse with
  | nil => exact absurd (List.reverse_eq_nil_iff.mp reversed) some_
  | cons c cs =>
      rw [lines.go, ← reversed, List.reverse_reverse]
      · rfl
      · exact List.cons_ne_nil c cs

/-- Nothing, or lines that are all ended by a newline. -/
def Ended (text : List Char) : Prop :=
  text = [] ∨ text.getLast? = some '\n'

theorem Ended.of_append_newline (ended : Ended (l ++ '\n' :: rest)) : Ended rest := by
  cases rest with
  | nil => exact .inl rfl
  | cons c rest =>
      right
      obtain none_ | last := ended
      · simp at none_
      · simpa using last

/-- A text of whole lines and a text that follows it are cut each for itself. -/
theorem Ended.lines_append {a : List Char} (ended : Ended a) (b : List Char) :
    lines (a ++ b) = lines a ++ lines b := by
  induction size : a.length using Nat.strongRecOn generalizing a with
  | ind n ih =>
      obtain rfl | last := ended
      · rfl
      · obtain ⟨l, rest, rfl, whole⟩ := List.eq_append_cons_of_mem (List.mem_of_getLast? last)
        rw [List.append_assoc, List.cons_append, lines_append_newline whole,
          lines_append_newline whole, List.cons_append]
        congr 1
        refine ih rest.length ?_ (Ended.of_append_newline (.inr last)) rfl
        rw [← size, List.length_append, List.length_cons]
        omega

end Hostwatch.Text
