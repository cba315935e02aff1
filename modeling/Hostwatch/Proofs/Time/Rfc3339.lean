import Hostwatch.Proofs.Text.Split
import Hostwatch.Proofs.Time.Calendar
import Hostwatch.Time.Rfc3339

/-!
# Dates are read back

A timestamp is written with a fixed number of digits for everything but the year, so each reader
finds its own digits and stops where the next mark stands.
-/

namespace Hostwatch

namespace Number

/-! ### Padded numbers -/

theorem digitsValue_zeros (k : Nat) (digits : List Char) :
    digitsValue (List.replicate k '0' ++ digits) = digitsValue digits := by
  induction k with
  | zero => rfl
  | succ k ih => exact ih

theorem digitsValue_padded (width n : Nat) : digitsValue (padded width n).toList = n := by
  rw [padded, String.toList_ofList, digitsValue_zeros, digitsValue_toDigits]

theorem isDigit_padded {width n : Nat} {c : Char} (member : c ∈ (padded width n).toList) :
    c.isDigit = true := by
  rw [padded, String.toList_ofList] at member
  rcases List.mem_append.mp member with zero | digit
  · rw [List.eq_of_mem_replicate zero]
    rfl
  · exact isDigit_of_mem_toDigits digit

theorem length_padded {width n : Nat} (positive : 0 < width) (small : n < Word.pow10 width) :
    (padded width n).toList.length = width := by
  have digits := (Nat.length_toDigits_le_iff (n := n) (by decide : 1 < 10) positive).mpr small
  rw [padded, String.toList_ofList, List.length_append, List.length_replicate]
  omega

theorem padded_ne_nil (width n : Nat) : (padded width n).toList ≠ [] := by
  rw [padded, String.toList_ofList]
  simp [Nat.toDigits_ne_nil]

end Number

/-- A timestamp in the years of the calendar. Only the last second of a minute can be a leap
second. -/
structure Timestamp.Valid (t : Timestamp) : Prop where
  inRange : t.inRange = true
  nano : t.nano < 1000000000 ∨ t.nano < 2000000000 ∧ t.second % 60 = 59

namespace Rfc3339

/-! ### Readers -/

variable {α β : Type}

/-- What a reader makes of a text, and the rest that it leaves. -/
def Takes (r : Reader α) (text rest : List Char) (value : α) : Prop :=
  r.run text = .ok (value, rest)

theorem Takes.bind {r : Reader α} {f : α → Reader β} {text middle rest : List Char} {a : α}
    {b : β} (before : Takes r text middle a) (after : Takes (f a) middle rest b) :
    Takes (r >>= f) text rest b := by
  unfold Takes at before after ⊢
  rw [StateT.run_bind, before]
  exact after

theorem Takes.get_bind {f : List Char → Reader β} {text rest : List Char} {b : β}
    (after : Takes (f text) text rest b) : Takes (get >>= f) text rest b :=
  after

/-- What is set is what is read from then on. -/
theorem Takes.set_bind {f : PUnit → Reader β} {text text' rest : List Char} {b : β}
    (after : Takes (f ⟨⟩) text' rest b) : Takes (set text' >>= f) text rest b :=
  after

/-! ### Characters and numbers -/

/-- There are no blanks in front of a character that is none. -/
theorem Takes.blanks_bind {f : Unit → Reader β} {c : Char} {text rest : List Char} {b : β}
    (ink : Text.isBlank c = false) (after : Takes (f ()) (c :: text) rest b) :
    Takes (blanks >>= f) (c :: text) rest b := by
  have same : Text.trimLeft (c :: text) = c :: text := by
    rw [Text.trimLeft, List.dropWhile_cons_of_neg (by simp [ink])]
  have skipped : Takes blanks (c :: text) (c :: text) () := by
    change Except.ok ((), Text.trimLeft (c :: text)) = _
    rw [same]
  exact skipped.bind after

theorem takes_mark {c : Char} (ink : Text.isBlank c = false) (rest : List Char) :
    Takes (mark c) (c :: rest) rest () := by
  refine Takes.blanks_bind ink (.get_bind ?_)
  dsimp only
  rw [if_pos (by simp)]
  rfl

/-- No digit comes first. -/
def Stops (text : List Char) : Prop :=
  ∀ c ∈ text.head?, c.isDigit = false

theorem takeWhile_append_of_stops {digits rest : List Char}
    (all : ∀ c ∈ digits, c.isDigit = true) (stops : Stops rest) :
    (digits ++ rest).takeWhile Char.isDigit = digits := by
  rw [List.takeWhile_append_of_pos all]
  cases rest with
  | nil => simp
  | cons c rest =>
      have other : ¬ c.isDigit = true := by simp [stops c rfl]
      simp [other]

theorem length_encode (cs : List Char) : cs.length ≤ (Utf8.encode cs).length := by
  induction cs with
  | nil => exact Nat.le_refl 0
  | cons c cs ih =>
      have octet : 1 ≤ (Utf8.encodeChar c).length := by
        dsimp only [Utf8.encodeChar]
        split
        · simp
        · split
          · simp
          · split
            · simp
            · simp
      rw [Utf8.encode, List.flatMap_cons, List.length_append, List.length_cons]
      rw [Utf8.encode] at ih
      omega

/-- The part of a text in which a number with at most so many digits stands. -/
def window (most : Option Nat) (text : List Char) : List Char :=
  most.elim text text.take

theorem takes_number {least : Nat} {most : Option Nat} {digits rest other : List Char}
    (enough : least ≤ digits.length) (all : ∀ c ∈ digits, c.isDigit = true)
    (fits : (Number.digitsValue digits : Int) ≤ Span.wordMax)
    (seen : window most (digits ++ rest) = digits ++ other) (stops : Stops other) :
    Takes (number least most) (digits ++ rest) rest (Number.digitsValue digits) := by
  have octets := length_encode (digits ++ rest)
  rw [List.length_append] at octets
  have run := takeWhile_append_of_stops all stops
  rw [← seen] at run
  have left : (digits ++ rest).drop digits.length = rest := List.drop_left
  refine .get_bind ?_
  cases most with
  | none =>
      dsimp only [window, Option.elim] at run ⊢
      rw [if_neg (by omega), run, if_neg (by omega), if_neg (by omega), left]
      rfl
  | some n =>
      dsimp only [window, Option.elim] at run ⊢
      rw [if_neg (by omega), run, if_neg (by omega), if_neg (by omega), left]
      rfl

/-! ### The parts of a date -/

/-- A padded number with no more digits than there may be, in front of something else. -/
theorem takes_padded {width n : Nat} {most : Option Nat} {rest other : List Char}
    (fits : (n : Int) ≤ Span.wordMax)
    (seen : window most ((Number.padded width n).toList ++ rest) =
      (Number.padded width n).toList ++ other) (stops : Stops other) :
    Takes (number 1 most) ((Number.padded width n).toList ++ rest) rest n := by
  have value := Number.digitsValue_padded width n
  have some_digit : 1 ≤ (Number.padded width n).toList.length :=
    List.length_pos_iff.mpr (Number.padded_ne_nil width n)
  have taken := takes_number some_digit (fun c => Number.isDigit_padded) (by rwa [value]) seen stops
  rwa [value] at taken

/-- There are no blanks in front of digits. -/
theorem Takes.blanks_padded {width n : Nat} {f : Unit → Reader β} {text rest : List Char} {b : β}
    (after : Takes (f ()) ((Number.padded width n).toList ++ text) rest b) :
    Takes (blanks >>= f) ((Number.padded width n).toList ++ text) rest b := by
  have digit (c : Char) : c ∈ (Number.padded width n).toList → c.isDigit = true :=
    Number.isDigit_padded
  cases digits : (Number.padded width n).toList with
  | nil => exact absurd digits (Number.padded_ne_nil width n)
  | cons c text =>
      rw [digits] at after digit
      exact .blanks_bind (Text.isBlank_of_isDigit (digit c List.mem_cons_self)) after

theorem padded_append_ne {width n : Nat} {c : Char} (other : c.isDigit = false)
    (rest rest' : List Char) : (Number.padded width n).toList ++ rest ≠ c :: rest' := by
  have digit (d : Char) : d ∈ (Number.padded width n).toList → d.isDigit = true :=
    Number.isDigit_padded
  cases digits : (Number.padded width n).toList with
  | nil => exact absurd digits (Number.padded_ne_nil width n)
  | cons d text =>
      intro same
      rw [digits] at digit
      cases same
      rw [digit c List.mem_cons_self] at other
      cases other

theorem window_padded (width n : Nat) (positive : 0 < width) (small : n < Word.pow10 width)
    (rest : List Char) :
    window (some width) ((Number.padded width n).toList ++ rest) =
      (Number.padded width n).toList ++ [] := by
  rw [window, Option.elim, List.take_left' (Number.length_padded positive small), List.append_nil]

/-- Two digits between bounds. -/
theorem takes_field {low high n : Nat} (above : low ≤ n) (below : n ≤ high) (small : high < 100)
    (rest : List Char) :
    Takes (field low high) ((Number.padded 2 n).toList ++ rest) rest n := by
  have seen := window_padded 2 n (by decide) (by omega : n < 100) rest
  have fits : (n : Int) ≤ Span.wordMax := by
    rw [Span.wordMax, Word.greatest]
    omega
  refine .blanks_padded (.bind (takes_padded fits seen nofun) ?_)
  rw [if_neg (by simp; omega)]
  rfl

/-- A year of four digits, before a dash. -/
theorem takes_common_year {n : Nat} (small : n < 10000) (rest : List Char) :
    Takes year ((Number.padded 4 n).toList ++ '-' :: rest) ('-' :: rest) n := by
  have fits : (n : Int) ≤ Span.wordMax := by
    rw [Span.wordMax, Word.greatest]
    omega
  have bounds : (decide ((n : Int) < -0x80000000) || decide ((n : Int) > 0x7FFFFFFF)) = false := by
    simp only [Bool.or_eq_false_iff, decide_eq_false_iff_not]
    omega
  have seen := window_padded 4 n (by decide) small ('-' :: rest)
  refine .blanks_padded (.get_bind ?_)
  split
  · next minus => exact absurd minus (padded_append_ne rfl _ _)
  · next plus => exact absurd plus (padded_append_ne rfl _ _)
  · refine .bind (takes_padded fits seen nofun) ?_
    dsimp only
    rw [pure_bind, bounds, if_neg (by decide)]
    rfl

/-- A year of any length behind its sign, before a dash. -/
theorem takes_signed_year {y : Int} (first : -262143 ≤ y) (last : y ≤ 262142) (rest : List Char) :
    Takes year ((if y < 0 then '-' else '+') :: ((Number.padded 4 y.natAbs).toList ++ '-' :: rest))
      ('-' :: rest) y := by
  have fits : (y.natAbs : Int) ≤ Span.wordMax := by
    rw [Span.wordMax, Word.greatest]
    omega
  have stops : Stops ('-' :: rest) := by
    intro c member
    cases member
    rfl
  have bounds : (decide (y < -0x80000000) || decide (y > 0x7FFFFFFF)) = false := by
    simp only [Bool.or_eq_false_iff, decide_eq_false_iff_not]
    omega
  have seen : window none ((Number.padded 4 y.natAbs).toList ++ '-' :: rest) =
    (Number.padded 4 y.natAbs).toList ++ '-' :: rest := rfl
  have number := takes_padded fits seen stops
  by_cases negative : y < 0
  · have value : -(y.natAbs : Int) = y := by omega
    rw [if_pos negative]
    refine .blanks_bind (by decide) (.get_bind ?_)
    dsimp only
    refine .set_bind (.bind number ?_)
    rw [pure_bind, value, bounds, if_neg (by decide)]
    rfl
  · have value : (y.natAbs : Int) = y := by omega
    rw [if_neg negative]
    refine .blanks_bind (by decide) (.get_bind ?_)
    dsimp only
    refine .set_bind (.bind number ?_)
    rw [pure_bind, value, bounds, if_neg (by decide)]
    rfl

/-- A year in the bounds of the calendar, before a dash. -/
theorem takes_year {y : Int} (first : -262143 ≤ y) (last : y ≤ 262142) (rest : List Char) :
    Takes year ((yearText y).toList ++ '-' :: rest) ('-' :: rest) y := by
  unfold yearText
  split
  · next common =>
      simp only [Bool.and_eq_true, decide_eq_true_eq] at common
      have value : (y.natAbs : Int) = y := by omega
      have taken := takes_common_year (by omega : y.natAbs < 10000) rest
      rwa [value] at taken
  · have sign : (if y < 0 then "-" else "+").toList = [if y < 0 then '-' else '+'] := by
      split
      · rfl
      · rfl
    rw [String.toList_append, sign, List.singleton_append, List.cons_append]
    exact takes_signed_year first last rest

/-- A fraction of so many digits, before the offset. -/
theorem takes_point (width n : Nat) (positive : 0 < width) (short : width ≤ 9)
    (small : n < Word.pow10 width) :
    Takes fraction ('.' :: ((Number.padded width n).toList ++ ['Z'])) ['Z']
      (n * Word.pow10 (9 - width)) := by
  have length := Number.length_padded positive small
  have fits : (n : Int) ≤ Span.wordMax := by
    have most : Word.pow10 width ≤ 1000000000 := Nat.pow_le_pow_right (by decide : 0 < 10) short
    rw [Span.wordMax, Word.greatest]
    omega
  have seen : window (some 9) ((Number.padded width n).toList ++ ['Z']) =
      (Number.padded width n).toList ++ ['Z'].take (9 - width) := by
    rw [window, Option.elim, List.take_append, length,
      List.take_of_length_le (by rw [length]; exact short)]
  have stops : Stops (['Z'].take (9 - width)) := by
    intro c member
    cases more : 9 - width with
    | zero =>
        rw [more] at member
        cases member
    | succ k =>
        rw [more] at member
        cases member
        rfl
  have used : ((Number.padded width n).toList ++ ['Z']).length - ['Z'].length = width := by
    rw [List.length_append, length]
    omega
  unfold fraction
  refine .get_bind (.set_bind (.bind (takes_padded fits seen stops) (.get_bind ?_)))
  rw [used]
  rfl

/-- A fraction of a second, before the offset. -/
theorem takes_fraction {nano : Nat} (small : nano < 1000000000) :
    Takes fraction ((fractionText nano).toList ++ ['Z']) ['Z'] nano := by
  have point (text : String) : ("." ++ text).toList ++ ['Z'] = '.' :: (text.toList ++ ['Z']) := by
    rw [String.toList_append]
    rfl
  unfold fractionText
  split
  · next none =>
      rw [beq_iff_eq.mp none]
      rfl
  · split
    · next millis =>
        have whole : nano % 1000000 = 0 := beq_iff_eq.mp millis
        have part : nano / 1000000 < 1000 := by omega
        have digits := takes_point 3 (nano / 1000000) (by decide) (by decide) part
        have value : nano / 1000000 * Word.pow10 (9 - 3) = nano :=
          Nat.div_mul_cancel (Nat.dvd_of_mod_eq_zero whole)
        rwa [value, ← point] at digits
    · split
      · next micros =>
          have whole : nano % 1000 = 0 := beq_iff_eq.mp micros
          have part : nano / 1000 < 1000000 := by omega
          have digits := takes_point 6 (nano / 1000) (by decide) (by decide) part
          have value : nano / 1000 * Word.pow10 (9 - 6) = nano :=
            Nat.div_mul_cancel (Nat.dvd_of_mod_eq_zero whole)
          rwa [value, ← point] at digits
      · have digits := takes_point 9 nano (by decide) (by decide) small
        have value : nano * Word.pow10 (9 - 9) = nano := Nat.mul_one nano
        rwa [value, ← point] at digits

/-! ### Timestamps -/

/-- The text of a timestamp, part by part. `second` is 60 for a leap second. -/
def parts (date : Date) (hour minute second nano : Nat) : List Char :=
  (yearText date.year).toList ++ ('-' :: ((Number.padded 2 date.month).toList ++
    ('-' :: ((Number.padded 2 date.day).toList ++ ('T' :: ((Number.padded 2 hour).toList ++
      (':' :: ((Number.padded 2 minute).toList ++ (':' :: ((Number.padded 2 second).toList ++
        ((fractionText nano).toList ++ ['Z'])))))))))))

theorem takes_parts {date : Date} {hour minute second nano : Nat}
    (year : -262143 ≤ date.year ∧ date.year ≤ 262142)
    (month : 1 ≤ date.month ∧ date.month ≤ 12) (day : 1 ≤ date.day ∧ date.day ≤ 31)
    (valid : date.isValid = true) (hours : hour ≤ 23) (minutes : minute ≤ 59)
    (seconds : second ≤ 60) (small : nano < 1000000000) {t : Timestamp}
    (time : t = ⟨date.toDays * 86400 + (hour * 3600 + minute * 60 +
        if (second == 60) = true then 59 else second : Nat) - 0,
      nano + if (second == 60) = true then 1000000000 else 0⟩) (inRange : t.inRange = true) :
    Takes reader (parts date hour minute second nano) [] t := by
  refine .bind (takes_year year.1 year.2 _) ?_
  refine .bind (takes_mark (by decide) _) ?_
  refine .bind (takes_field month.1 month.2 (by decide) _) ?_
  refine .bind (takes_mark (by decide) _) ?_
  refine .bind (takes_field day.1 day.2 (by decide) _) ?_
  refine .get_bind ?_
  dsimp only
  rw [if_pos (by decide)]
  refine .set_bind ?_
  refine .bind (takes_field (Nat.zero_le hour) hours (by decide) _) ?_
  refine .bind (takes_mark (by decide) _) ?_
  refine .bind (takes_field (Nat.zero_le minute) minutes (by decide) _) ?_
  refine .bind (takes_mark (by decide) _) ?_
  refine .bind (takes_field (Nat.zero_le second) seconds (by decide) _) ?_
  refine .bind (takes_fraction small) ?_
  have zulu : Takes offset ['Z'] [] 0 := rfl
  have none : Takes blanks [] [] () := rfl
  refine .bind zulu (.bind none (.get_bind ?_))
  have calendar : (date.year < -262143 || 262142 < date.year || !date.isValid) = false := by
    simp only [valid, Bool.not_true, Bool.or_false, Bool.or_eq_false_iff,
      decide_eq_false_iff_not]
    omega
  rw [calendar, if_neg (by decide), if_neg (by decide), if_neg (by decide), ← time, if_pos inRange]
  rfl

theorem write_eq (t : Timestamp) :
    (write t).toList = parts (Date.ofDays (t.second / 86400)) ((t.second % 86400).toNat / 3600)
      ((t.second % 86400).toNat / 60 % 60)
      ((t.second % 86400).toNat % 60 + if t.nano ≥ 1000000000 then 1 else 0)
      (if t.nano ≥ 1000000000 then t.nano - 1000000000 else t.nano) := by
  simp [write, parts]

/-- A timestamp is read back from its text. -/
theorem read_write {t : Timestamp} (valid : t.Valid) : read (write t) = .ok t := by
  have days := Date.isValid_ofDays (t.second / 86400)
  have bounds := Date.bounds_of_isValid days
  have first : (Date.mk (-262143) 1 1).toDays = -96465292 := by decide
  have last : (Date.mk 262143 1 1).toDays = 95026237 := by decide
  have inside := Timestamp.inRange_iff.mp valid.inRange
  simp only [Timestamp.firstSecond, Timestamp.lastSecond, first, last] at inside
  have year := @Date.year_ofDays_bounds (t.second / 86400) (by omega) (by omega)
  have nano := valid.nano
  have taken : Takes reader (write t).toList [] t := by
    rw [write_eq]
    refine takes_parts year bounds.1 bounds.2 days (by omega) (by omega) ?_ ?_ ?_ valid.inRange
    · split
      · omega
      · omega
    · split
      · omega
      · omega
    · rw [Date.toDays_ofDays]
      obtain ⟨second, part⟩ := t
      dsimp only at nano
      by_cases leap : part ≥ 1000000000
      · have last : (second % 86400).toNat % 60 + 1 = 60 := by omega
        simp only [leap, if_true, last, beq_self_eq_true, Timestamp.mk.injEq]
        omega
      · have other : ((second % 86400).toNat % 60 + 0 == 60) = false := by
          rw [beq_eq_false_iff_ne]
          omega
        simp only [leap, if_false, other, Bool.false_eq_true, Timestamp.mk.injEq]
        omega
  unfold read
  rw [taken]
  rfl

end Rfc3339

end Hostwatch
