import Hostwatch.Text.Split
import Mathlib.Data.List.Infix

/-!
# Pieces of text

What comes of cutting a text at blanks, or at the first occurrence of a mark. Both can be read off
from the left: what holds no blank is the beginning of a word, and what does not hold the first
character of a mark is skipped when the mark is looked for.
-/

namespace Hostwatch.Text

variable {l rest mark before behind : List Char}

/-! ### Words -/

theorem isBlank_of_isDigit {c : Char} (digit : c.isDigit = true) : isBlank c = false := by
  obtain ⟨low, high⟩ := Char.isDigit_iff_toNat.mp digit
  change 48 ≤ c.toNat at low
  change c.toNat ≤ 57 at high
  simp only [isBlank, Bool.or_eq_false_iff, Bool.and_eq_false_iff, decide_eq_false_iff_not,
    beq_eq_false_iff_ne]
  omega

section Pieces

variable {p : Char → Bool} {piece : List Char} {done : List (List Char)}

theorem splitBy_go_append (inside : ∀ c ∈ l, p c = false) :
    splitBy.go p (l ++ rest) piece done = splitBy.go p rest (l.reverse ++ piece) done := by
  induction l generalizing piece with
  | nil => rfl
  | cons c l ih =>
      obtain ⟨first, later⟩ := List.forall_mem_cons.mp inside
      rw [List.cons_append, splitBy.go, if_neg (by rw [first]; exact Bool.false_ne_true), ih later,
        List.reverse_cons, List.append_assoc]
      rfl

theorem splitBy_go_done :
    splitBy.go p rest piece done = done.reverse ++ splitBy.go p rest piece [] := by
  induction rest generalizing piece done with
  | nil => simp [splitBy.go]
  | cons c rest ih =>
      rw [splitBy.go, splitBy.go]
      split
      · rw [ih, @ih [] [_]]
        simp
      · exact ih

/-- A piece reaches up to the first character that cuts. -/
theorem splitBy_append {c : Char} (inside : ∀ c ∈ l, p c = false) (cuts : p c = true)
    (rest : List Char) : splitBy p (l ++ c :: rest) = l :: splitBy p rest := by
  rw [splitBy, splitBy_go_append inside, splitBy.go, if_pos cuts, splitBy_go_done, List.append_nil,
    List.reverse_reverse]
  rfl

theorem mem_of_mem_splitBy_go {c : Char} {found : List Char}
    (among : found ∈ splitBy.go p rest piece []) (member : c ∈ found) : c ∈ piece ∨ c ∈ rest := by
  induction rest generalizing piece with
  | nil =>
      rw [List.mem_singleton.mp among] at member
      exact .inl (List.mem_reverse.mp member)
  | cons d rest ih =>
      rw [splitBy.go] at among
      split at among
      · rw [splitBy_go_done] at among
        rcases List.mem_append.mp among with first | later
        · rw [List.mem_singleton.mp first] at member
          exact .inl (List.mem_reverse.mp member)
        · exact (ih later).elim nofun fun kept => .inr (List.mem_cons_of_mem d kept)
      · rcases ih among with earlier | later
        · exact (List.mem_cons.mp earlier).elim (fun here => .inr (here ▸ List.mem_cons_self)) .inl
        · exact .inr (List.mem_cons_of_mem d later)

/-- Pieces hold nothing but what was cut. -/
theorem mem_of_mem_splitBy {c : Char} {cs found : List Char} (among : found ∈ splitBy p cs)
    (member : c ∈ found) : c ∈ cs :=
  (mem_of_mem_splitBy_go among member).elim nofun id

end Pieces

/-- What is joined holds nothing but the pieces and the separator. -/
theorem mem_intercalate {c : Char} {separator : List Char} {pieces : List (List Char)}
    (member : c ∈ separator.intercalate pieces) :
    c ∈ separator ∨ ∃ piece ∈ pieces, c ∈ piece := by
  induction pieces with
  | nil =>
      rw [List.intercalate_nil] at member
      cases member
  | cons piece pieces ih =>
      cases pieces with
      | nil =>
          rw [List.intercalate_singleton] at member
          exact .inr ⟨piece, List.mem_cons_self, member⟩
      | cons next pieces =>
          rw [List.intercalate_cons_cons, List.mem_append, List.mem_append] at member
          rcases member with (first | between) | later
          · exact .inr ⟨piece, List.mem_cons_self, first⟩
          · exact .inl between
          · refine (ih later).imp_right ?_
            rintro ⟨found, among, member⟩
            exact ⟨found, List.mem_cons_of_mem piece among, member⟩

/-- The first word of a text that begins with one. -/
theorem words_append {c : Char} (some_ : l ≠ []) (solid : ∀ c ∈ l, isBlank c = false)
    (blank : isBlank c = true) (rest : List Char) : words (l ++ c :: rest) = l :: words rest := by
  have kept : (!l.isEmpty) = true := by simpa using some_
  rw [words, splitBy_append solid blank, List.filter_cons, if_pos kept]
  rfl

/-! ### The first occurrence of a mark -/

theorem splitAtText_go (cs before : List Char) :
    splitAtText.go mark cs before =
      (splitAtText.go mark cs []).map fun parts => (before.reverse ++ parts.1, parts.2) := by
  induction cs generalizing before with
  | nil =>
      rw [splitAtText.go, splitAtText.go]
      split
      · exact congrArg (fun b => some (b, [])) (List.append_nil _).symm
      · rfl
  | cons c cs ih =>
      rw [splitAtText.go, splitAtText.go]
      split
      · exact congrArg (fun b => some (b, _)) (List.append_nil _).symm
      · rw [ih, ih [c], Option.map_map]
        simp [Function.comp_def]

theorem splitAtText_nil (some_ : mark ≠ []) : splitAtText mark [] = none := by
  rw [splitAtText, splitAtText.go, if_neg (by simpa using some_)]

theorem splitAtText_cons_of_after? {c : Char} {cs : List Char}
    (here : after? mark (c :: cs) = some behind) : splitAtText mark (c :: cs) = some ([], behind) := by
  rw [splitAtText, splitAtText.go, here]
  rfl

/-- A character at which no mark begins is skipped. -/
theorem splitAtText_cons_elsewhere {c : Char} (elsewhere : ¬ mark <+: c :: rest) :
    splitAtText mark (c :: rest) =
      (splitAtText mark rest).map fun parts => (c :: parts.1, parts.2) := by
  have none_ : after? mark (c :: rest) = none := by
    rw [Option.eq_none_iff_forall_ne_some]
    exact fun behind found => elsewhere ⟨behind, (after?_eq_some_iff.mp found).symm⟩
  rw [splitAtText, splitAtText.go, none_]
  exact splitAtText_go rest [c]

/-- A mark at the very beginning. -/
theorem splitAtText_self (some_ : mark ≠ []) (rest : List Char) :
    splitAtText mark (mark ++ rest) = some ([], rest) := by
  cases mark with
  | nil => exact absurd rfl some_
  | cons c mark =>
      exact splitAtText_cons_of_after? (after?_eq_some_iff.mpr rfl)

/-- What does not hold the first character of a mark is skipped. -/
theorem splitAtText_append {c : Char} (without : c ∉ l) (mark rest : List Char) :
    splitAtText (c :: mark) (l ++ rest) =
      (splitAtText (c :: mark) rest).map fun parts => (l ++ parts.1, parts.2) := by
  induction l with
  | nil => exact (congrFun Option.map_id _).symm
  | cons d l ih =>
      obtain ⟨different, later⟩ := not_or.mp (mt List.mem_cons.mpr without)
      have elsewhere : ¬ c :: mark <+: d :: (l ++ rest) :=
        fun begins => different (List.cons_prefix_cons.mp begins).1
      rw [List.cons_append, splitAtText_cons_elsewhere elsewhere, ih later, Option.map_map]
      rfl

/-- Nothing is lost when a text is cut at a mark. -/
theorem eq_of_splitAtText {cs : List Char} (cut : splitAtText mark cs = some (before, behind)) :
    cs = before ++ mark ++ behind := by
  induction cs generalizing before with
  | nil =>
      rw [splitAtText, splitAtText.go] at cut
      split at cut
      · next none_ =>
          cases cut
          rw [List.isEmpty_iff.mp none_]
          rfl
      · cases cut
  | cons c cs ih =>
      by_cases here : mark <+: c :: cs
      · obtain ⟨rest, whole⟩ := here
        rw [splitAtText_cons_of_after? (after?_eq_some_iff.mpr whole.symm)] at cut
        cases cut
        exact whole.symm
      · rw [splitAtText_cons_elsewhere here, Option.map_eq_some_iff] at cut
        obtain ⟨parts, found, same⟩ := cut
        cases same
        rw [ih found]
        rfl

theorem splitAtText_eq_none_iff (some_ : mark ≠ []) {cs : List Char} :
    splitAtText mark cs = none ↔ ¬ mark <:+: cs := by
  induction cs with
  | nil => simp [splitAtText_nil some_, some_]
  | cons c cs ih =>
      rw [List.infix_cons_iff]
      by_cases here : mark <+: c :: cs
      · obtain ⟨rest, split⟩ := id here
        rw [← split, splitAtText_self some_]
        simp
      · rw [splitAtText_cons_elsewhere here, Option.map_eq_none_iff, ih]
        simp [here]

end Hostwatch.Text
