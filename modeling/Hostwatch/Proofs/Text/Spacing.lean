import Hostwatch.Proofs.Text.Lines
import Hostwatch.Proofs.Text.Split
import Mathlib.Data.List.TakeWhile

/-!
# Words on a line

Words are set on a line with any white space around them, and cutting the line gives the words back.
A carriage return is white space, so it does not matter whether the last one of a line counts as
part of its end.
-/

namespace Hostwatch.Text

variable {gap line rest text word : List Char} {ws : List (List Char)}

/-- White space within a line. -/
def Space (gap : List Char) : Prop :=
  ∀ c ∈ gap, isBlank c = true ∧ c ≠ '\n'

-- The characters of the text are asked one by one. Instances are found that ask all characters.
instance : DecidablePred Space :=
  List.decidableBAll fun c => isBlank c = true ∧ c ≠ '\n'

/-- Some characters without white space. -/
def IsWord (word : List Char) : Prop :=
  word ≠ [] ∧ ∀ c ∈ word, isBlank c = false

instance : DecidablePred IsWord := fun word =>
  have := List.decidableBAll (fun c => isBlank c = false) word
  inferInstanceAs (Decidable (word ≠ [] ∧ ∀ c ∈ word, isBlank c = false))

/-- A text with no white space at either end. -/
def Trimmed (text : List Char) : Prop :=
  (∀ c ∈ text.head?, isBlank c = false) ∧ ∀ c ∈ text.getLast?, isBlank c = false

/-- Words in this order, with white space around them. Only in front of the first word and behind
the last one it may be missing. -/
inductive Spaced : List (List Char) → List Char → Prop where
  | space {gap : List Char} : Space gap → Spaced [] gap
  | word {gap word rest : List Char} {ws : List (List Char)} : Space gap → IsWord word →
    (∀ c ∈ rest.head?, isBlank c = true) → Spaced ws rest →
    Spaced (word :: ws) (gap ++ (word ++ rest))

/-! ### White space -/

theorem Space.blank (space : Space gap) : ∀ c ∈ gap, isBlank c = true :=
  fun c member => (space c member).1

theorem Space.newline_not_mem (space : Space gap) : '\n' ∉ gap :=
  fun member => (space _ member).2 rfl

theorem IsWord.trimmed (isWord : IsWord word) : Trimmed word :=
  ⟨fun c head => isWord.2 c (List.mem_of_head? head),
    fun c last => isWord.2 c (List.mem_of_getLast? last)⟩

theorem not_mem_of_solid {c : Char} (solid : ∀ c ∈ word, isBlank c = false)
    (blank : isBlank c = true) : c ∉ word := by
  intro member
  rw [solid c member] at blank
  cases blank

/-- What does not end with a carriage return does not lose one. -/
theorem withoutReturn_append_of_getLast? (kept : ∀ c ∈ text.getLast?, c ≠ '\r') (rest : List Char) :
    withoutReturn (text ++ rest) = text ++ withoutReturn rest := by
  unfold withoutReturn
  rw [List.getLast?_append]
  cases last : rest.getLast? with
  | some c =>
      have some_ : rest ≠ [] := by
        rintro rfl
        cases last
      rw [Option.some_or, List.dropLast_append_of_ne_nil some_]
      split
      · rfl
      · rfl
  | none =>
      rw [List.getLast?_eq_none_iff.mp last, Option.none_or, if_neg, if_neg nofun]
      intro return_
      exact kept _ return_ rfl

theorem IsWord.getLast?_append (isWord : IsWord word) (gap : List Char) :
    ∀ c ∈ (gap ++ word).getLast?, c ≠ '\r' := by
  rintro c last rfl
  rw [List.getLast?_append_of_ne_nil gap isWord.1] at last
  exact absurd (isWord.trimmed.2 _ last) (by decide)

theorem withoutReturn_isPrefix (line : List Char) : withoutReturn line <+: line := by
  unfold withoutReturn
  split
  · exact List.dropLast_prefix line
  · exact List.prefix_rfl

theorem Space.withoutReturn (space : Space gap) : Space (withoutReturn gap) :=
  fun c member => space c ((withoutReturn_isPrefix gap).mem member)

/-- What is dropped in front of a text ends where the text begins. -/
theorem dropWhile_front {p : Char → Bool} {before : List Char} (front : ∀ c ∈ before, p c = true)
    (some_ : text ≠ []) (first : ∀ c ∈ text.head?, p c = false) (rest : List Char) :
    (before ++ (text ++ rest)).dropWhile p = text ++ rest := by
  obtain ⟨c, cs, rfl⟩ := List.exists_cons_of_ne_nil some_
  have stops : ¬ p c = true := by
    rw [first c rfl]
    exact Bool.false_ne_true
  rw [List.dropWhile_append_of_pos front, List.cons_append, List.dropWhile_cons_of_neg stops]

/-- What is dropped behind a text begins where the text ends. -/
theorem dropWhile_behind {p : Char → Bool} {behind : List Char}
    (last : ∀ c ∈ text.getLast?, p c = false) (back : ∀ c ∈ behind, p c = true) :
    ((text ++ behind).reverse.dropWhile p).reverse = text := by
  rw [List.reverse_append, List.dropWhile_append_of_pos fun c member =>
    back c (List.mem_reverse.mp member)]
  cases reversed : text.reverse with
  | nil => rw [List.dropWhile_nil, ← reversed, List.reverse_reverse]
  | cons d ds =>
      have stops : ¬ p d = true := by
        have ends : text.getLast? = some d := by
          rw [List.getLast?_eq_head?_reverse, reversed]
          rfl
        rw [last d ends]
        exact Bool.false_ne_true
      rw [List.dropWhile_cons_of_neg stops, ← reversed, List.reverse_reverse]

theorem trim_append {before behind : List Char} (front : ∀ c ∈ before, isBlank c = true)
    (trimmed : Trimmed text) (back : ∀ c ∈ behind, isBlank c = true) :
    trim (before ++ (text ++ behind)) = text := by
  rw [trim, trimRight, trimLeft]
  by_cases some_ : text = []
  · rw [some_, List.nil_append, List.dropWhile_append_of_pos front,
      List.dropWhile_eq_nil_iff.mpr back]
    rfl
  · rw [dropWhile_front front some_ trimmed.1, dropWhile_behind trimmed.2 back]

theorem Trimmed.trim_eq (trimmed : Trimmed text) : trim text = text := by
  have padded : trim ([] ++ (text ++ [])) = text := trim_append nofun trimmed nofun
  rwa [List.nil_append, List.append_nil] at padded

/-! ### Cutting at marks -/

/-- Every character that cuts ends what comes before it, and what follows is cut for itself. -/
theorem splitBy_append_cons {p : Char → Bool} {c : Char} (cuts : p c = true)
    (front behind : List Char) :
    splitBy p (front ++ c :: behind) = splitBy p front ++ splitBy p behind := by
  have step (piece : List Char) (done : List (List Char)) :
      splitBy.go p (front ++ c :: behind) piece done =
        splitBy.go p front piece done ++ splitBy p behind := by
    induction front generalizing piece done with
    | nil =>
        change (if p c = true then splitBy.go p behind [] (piece.reverse :: done) else _) = _
        rw [if_pos cuts, splitBy_go_done]
        rfl
    | cons d front ih =>
        rw [List.cons_append, splitBy.go, splitBy.go]
        split
        · exact ih [] _
        · exact ih _ done
  exact step [] []

theorem splitBy_of_inside {p : Char → Bool} (inside : ∀ c ∈ text, p c = false) :
    splitBy p text = [text] := by
  have whole : splitBy.go p (text ++ []) [] [] = splitBy.go p [] (text.reverse ++ []) [] :=
    splitBy_go_append inside
  rw [List.append_nil, List.append_nil] at whole
  rw [splitBy, whole, splitBy.go, List.reverse_reverse]
  rfl

theorem splitBy_mark_append (mark : Char) (front behind : List Char) :
    splitBy (· == mark) (front ++ mark :: behind) =
      splitBy (· == mark) front ++ splitBy (· == mark) behind :=
  splitBy_append_cons (p := (· == mark)) (beq_self_eq_true mark) front behind

theorem splitBy_mark_of_not_mem {mark : Char} (absent : mark ∉ text) :
    splitBy (· == mark) text = [text] := by
  refine splitBy_of_inside fun c member => beq_eq_false_iff_ne.mpr ?_
  rintro rfl
  exact absent member

/-- Only the first mark cuts. -/
theorem splitOnce_append {mark : Char} {before : List Char} (without : mark ∉ before)
    (behind : List Char) : splitOnce mark (before ++ mark :: behind) = some (before, behind) := by
  have passes : ∀ c ∈ before, (!(c == mark)) = true := by
    intro c member
    have other : c ≠ mark := by
      rintro rfl
      exact without member
    rw [beq_eq_false_iff_ne.mpr other]
    rfl
  have cut :
      (before ++ mark :: behind).span (fun c => !(c == mark)) = (before, mark :: behind) := by
    rw [List.span_eq_takeWhile_dropWhile, List.takeWhile_append_of_pos passes,
      List.dropWhile_append_of_pos passes]
    simp
  unfold splitOnce splitOnceBy
  rw [cut]

theorem eq_of_splitOnce {mark : Char} {before behind : List Char}
    (cut : splitOnce mark line = some (before, behind)) : line = before ++ mark :: behind := by
  unfold splitOnce splitOnceBy at cut
  rw [List.span_eq_takeWhile_dropWhile] at cut
  split at cut
  · next front c back found =>
      obtain ⟨rfl, back⟩ := Prod.mk.inj found
      cases cut
      have head := List.head?_dropWhile_not (fun c => !(c == mark)) line
      rw [back] at head
      have same : c = mark := by simpa using head
      subst same
      rw [← back, List.takeWhile_append_dropWhile]
  · cases cut

/-- Only the last mark cuts. -/
theorem splitLast_append {mark : Char} {behind : List Char} (without : mark ∉ behind)
    (before : List Char) : splitLast mark (before ++ mark :: behind) = some (before, behind) := by
  have mirrored : (before ++ mark :: behind).reverse = behind.reverse ++ mark :: before.reverse := by
    simp
  rw [splitLast, mirrored, splitOnce_append (mt List.mem_reverse.mp without)]
  simp

/-! ### Words -/

/-- Every blank ends a word. -/
theorem words_append_blank {c : Char} (blank : isBlank c = true) (front behind : List Char) :
    words (front ++ c :: behind) = words front ++ words behind := by
  rw [words, splitBy_append_cons blank, List.filter_append]
  rfl

theorem words_cons_blank {c : Char} (blank : isBlank c = true) (behind : List Char) :
    words (c :: behind) = words behind :=
  words_append_blank blank [] behind

theorem words_space_append (space : Space gap) (rest : List Char) :
    words (gap ++ rest) = words rest := by
  induction gap with
  | nil => rfl
  | cons c gap ih =>
      obtain ⟨first, later⟩ := List.forall_mem_cons.mp space
      rw [List.cons_append, words_cons_blank first.1, ih later]

theorem words_word_append (isWord : IsWord word) (ends : ∀ c ∈ rest.head?, isBlank c = true) :
    words (word ++ rest) = word :: words rest := by
  cases rest with
  | nil =>
      have kept : (!word.isEmpty) = true := by simpa using isWord.1
      rw [List.append_nil, words, splitBy_of_inside isWord.2, List.filter_cons, if_pos kept]
      rfl
  | cons c rest =>
      rw [words_append isWord.1 isWord.2 (ends c rfl), words_cons_blank (ends c rfl)]

/-- The words of a line are those that were set on it. -/
theorem Spaced.words_eq (spaced : Spaced ws line) : words line = ws := by
  induction spaced with
  | @space gap space =>
      rw [← List.append_nil gap, words_space_append space]
      rfl
  | word space isWord ends _ ih =>
      rw [words_space_append space, words_word_append isWord ends, ih]

theorem Spaced.newline_not_mem (spaced : Spaced ws line) : '\n' ∉ line := by
  induction spaced with
  | space space => exact space.newline_not_mem
  | word space isWord _ _ ih =>
      rw [List.mem_append, List.mem_append]
      rintro (inside | inside | inside)
      · exact space.newline_not_mem inside
      · exact not_mem_of_solid isWord.2 (by decide) inside
      · exact ih inside

theorem Spaced.withoutReturn (spaced : Spaced ws line) : Spaced ws (withoutReturn line) := by
  induction spaced with
  | space space => exact .space space.withoutReturn
  | @word gap word rest ws space isWord ends _ ih =>
      have shorter : ∀ c ∈ (Text.withoutReturn rest).head?, isBlank c = true := by
        intro c head
        refine ends c ?_
        obtain ⟨behind, same⟩ := withoutReturn_isPrefix rest
        rw [← same, List.head?_append, Option.mem_def.mp head]
        rfl
      have kept : Text.withoutReturn (gap ++ (word ++ rest)) =
          gap ++ (word ++ Text.withoutReturn rest) := by
        rw [← List.append_assoc, ← List.append_assoc,
          withoutReturn_append_of_getLast? (isWord.getLast?_append gap)]
      rw [kept]
      exact .word space isWord shorter ih

theorem Spaced.cons {c : Char} (blank : isBlank c = true) (inside : c ≠ '\n')
    (spaced : Spaced ws line) : Spaced ws (c :: line) := by
  cases spaced with
  | space space => exact .space (List.forall_mem_cons.mpr ⟨⟨blank, inside⟩, space⟩)
  | word space isWord ends spaced =>
      exact .word (List.forall_mem_cons.mpr ⟨⟨blank, inside⟩, space⟩) isWord ends spaced

/-- Every line is its words, set on it. -/
theorem spaced_words (whole : '\n' ∉ line) : Spaced (words line) line := by
  induction size : line.length using Nat.strongRecOn generalizing line with
  | ind n ih =>
      cases line with
      | nil => exact .space nofun
      | cons c cs =>
          obtain ⟨inside, later⟩ := not_or.mp (mt List.mem_cons.mpr whole)
          by_cases blank : isBlank c = true
          · rw [words_cons_blank blank]
            exact (ih cs.length (by rw [← size]; exact Nat.lt_succ_self _) later rfl).cons blank
              (Ne.symm inside)
          -- The line begins with a word, which reaches up to the next blank.
          · have first : (!isBlank c) = true := by simpa using blank
            have word : IsWord ((c :: cs).takeWhile fun d => !isBlank d) := by
              refine ⟨?_, fun d member => by simpa using List.mem_takeWhile_imp member⟩
              rw [List.takeWhile_cons, if_pos first]
              exact List.cons_ne_nil _ _
            have ends : ∀ d ∈ ((c :: cs).dropWhile fun d => !isBlank d).head?,
                isBlank d = true := by
              intro d head
              have stopped := List.head?_dropWhile_not (fun d => !isBlank d) (c :: cs)
              rw [Option.mem_def.mp head] at stopped
              simpa using stopped
            have parts := List.takeWhile_append_dropWhile (p := fun d => !isBlank d) (l := c :: cs)
            generalize (c :: cs).takeWhile (fun d => !isBlank d) = front at word parts
            generalize (c :: cs).dropWhile (fun d => !isBlank d) = rest at ends parts
            rw [← parts] at whole size ⊢
            rw [words_word_append word ends]
            have shorter : rest.length < n := by
              have := List.length_pos_of_ne_nil word.1
              rw [List.length_append] at size
              omega
            have spaced := ih _ shorter (fun member => whole (List.mem_append_right _ member)) rfl
            exact .word (show Space [] from nofun) word ends spaced

theorem spaced_iff : Spaced ws line ↔ '\n' ∉ line ∧ words line = ws := by
  refine ⟨fun spaced => ⟨spaced.newline_not_mem, spaced.words_eq⟩, ?_⟩
  rintro ⟨whole, rfl⟩
  exact spaced_words whole

instance : Decidable (Spaced ws line) :=
  decidable_of_iff _ spaced_iff.symm

end Hostwatch.Text
