import Hostwatch.Number.Word
import Hostwatch.Number.Shortest
import Hostwatch.Text.Split

/-!
# Numbers as text

Doubles are written with their shortest digits in one of two layouts: `plain` never uses an
exponent, and `compact` moves to scientific notation for very large and very small numbers and
marks whole ones with `.0`. `readFloat?` accepts every such text and the usual variations (signs,
missing integer or fraction part, `inf`, `nan`), correctly rounded.
-/

namespace Hostwatch.Number

open Shortest (Decimal)

/-- The digits of a natural number. -/
def natText (n : Nat) : String :=
  String.ofList (Nat.toDigits 10 n)

/-- The digits of an integer, with a minus sign if it is negative. -/
def intText (n : Int) : String :=
  if n < 0 then "-" ++ natText n.natAbs else natText n.natAbs

/-- The digits of `n`, with zeros in front up to the given width. -/
def padded (width n : Nat) : String :=
  let ds := Nat.toDigits 10 n
  String.ofList (List.replicate (width - ds.length) '0' ++ ds)

/-- Positional notation without an exponent, and without a point when the number is whole. -/
def positional (d : Decimal) : String :=
  let ds := Nat.toDigits 10 d.coefficient
  if d.exponent ≥ 0 then String.ofList (ds ++ List.replicate d.exponent.toNat '0')
  else
    let places := (-d.exponent).toNat
    let ds := List.replicate (places + 1 - ds.length) '0' ++ ds
    let whole := ds.length - places
    String.ofList (ds.take whole ++ '.' :: ds.drop whole)

private def signed (negative : Bool) (text : String) : String :=
  if negative then "-" ++ text else text

/-- The shortest text that reads back, in positional notation: `5`, `0.1`, `-0`, `NaN`, `inf`. -/
def plain (x : Float) : String :=
  match Binary64.decode x with
  | .nan => "NaN"
  | .infinite negative => signed negative "inf"
  | .finite negative 0 _ => signed negative "0"
  | .finite negative mantissa exponent =>
    signed negative (positional (Shortest.digits mantissa exponent))

/-- Positional notation from `1e-5` up to `1e16`, a whole number ending in `.0`; outside of that a
digit, a point with the rest if there is any, and an exponent with its sign. -/
def compactDecimal (d : Decimal) : String :=
  let ds := Nat.toDigits 10 d.coefficient
  let point := (ds.length : Int) + d.exponent
  if 0 ≤ d.exponent && point ≤ 16 then positional d ++ ".0"
  else if -5 < point && point ≤ 16 then positional d
  else
    let exponent := (if point < 1 then "e" else "e+") ++ intText (point - 1)
    match ds with
    | [] => exponent
    | [c] => c.toString ++ exponent
    | c :: rest => c.toString ++ "." ++ String.ofList rest ++ exponent

/-- The shortest text that reads back as a double and not as an integer; the two kinds of value
that have no digits are written `null`. -/
def compact (x : Float) : String :=
  match Binary64.decode x with
  | .nan | .infinite _ => "null"
  | .finite negative 0 _ => signed negative "0.0"
  | .finite negative mantissa exponent =>
    signed negative (compactDecimal (Shortest.digits mantissa exponent))

/-- The value of a run of decimal digits. -/
def digitsValue (ds : List Char) : Nat :=
  ds.foldl (fun n c => n * 10 + (c.toNat - '0'.toNat)) 0

/-- A natural number written in digits only. -/
def readNat? (cs : List Char) : Option Nat :=
  if cs.isEmpty || !cs.all Char.isDigit then none else some (digitsValue cs)

private def unsign : List Char → Bool × List Char
  | '-' :: rest => (true, rest)
  | '+' :: rest => (false, rest)
  | cs => (false, cs)

/-- An integer: an optional sign and digits. -/
def readInt? (cs : List Char) : Option Int :=
  let (negative, rest) := unsign cs
  (readNat? rest).map fun n => if negative then -(n : Int) else n

private def infinity (negative : Bool) : Float :=
  Binary64.ofRatio negative (Word.pow2 1100) 1

private def readExponent? : List Char → Option Int
  | [] => some 0
  | c :: rest => if c == 'e' || c == 'E' then readInt? rest else none

private def readDecimal? (negative : Bool) (cs : List Char) : Option Float := do
  let (whole, rest) := cs.span Char.isDigit
  let (fraction, rest) := match rest with
    | '.' :: rest => rest.span Char.isDigit
    | _ => ([], rest)
  if whole.isEmpty && fraction.isEmpty then none
  let exponent ← readExponent? rest
  some (Binary64.ofDecimal negative (digitsValue (whole ++ fraction)) (exponent - fraction.length))

/-- A decimal number with an optional sign, point and exponent, or the name of a special value in
any case. At least one digit has to stand before or after the point. -/
def readFloat? (cs : List Char) : Option Float :=
  let (negative, rest) := unsign cs
  let name := String.ofList (rest.map Char.toLower)
  if name == "inf" || name == "infinity" then some (infinity negative)
  else if name == "nan" then some (0.0 / 0.0)
  else readDecimal? negative rest

/-! ### The characters of numbers -/

/-- A character of a number in positional notation, or of the name of a special value. -/
def isPlain (c : Char) : Bool :=
  c.isDigit || ['-', '.', 'N', 'a', 'i', 'n', 'f'].contains c

theorem isDigit_of_mem_toDigits {n : Nat} {c : Char} (member : c ∈ Nat.toDigits 10 n) :
    c.isDigit = true :=
  Nat.isDigit_of_mem_toDigits (by decide) (by decide) member

theorem isDigit_of_mem_natText {n : Nat} {c : Char} (member : c ∈ (natText n).toList) :
    c.isDigit = true := by
  rw [natText, String.toList_ofList] at member
  exact isDigit_of_mem_toDigits member

theorem isPlain_of_mem_toDigits {n : Nat} {c : Char} (member : c ∈ Nat.toDigits 10 n) :
    isPlain c = true := by
  have digit := isDigit_of_mem_toDigits member
  simp [isPlain, digit]

theorem isPlain_of_mem_positional {d : Decimal} {c : Char} (member : c ∈ (positional d).toList) :
    isPlain c = true := by
  have zero {k : Nat} (member : c ∈ List.replicate k '0') : isPlain c = true := by
    rw [List.eq_of_mem_replicate member]
    decide
  unfold positional at member
  split at member
  · rw [String.toList_ofList] at member
    rcases List.mem_append.mp member with digit | padding
    · exact isPlain_of_mem_toDigits digit
    · exact zero padding
  · rw [String.toList_ofList] at member
    rcases List.mem_append.mp member with whole | fraction
    · rcases List.mem_append.mp (List.mem_of_mem_take whole) with padding | digit
      · exact zero padding
      · exact isPlain_of_mem_toDigits digit
    · rcases List.mem_cons.mp fraction with rfl | fraction
      · decide
      · rcases List.mem_append.mp (List.mem_of_mem_drop fraction) with padding | digit
        · exact zero padding
        · exact isPlain_of_mem_toDigits digit

theorem isPlain_of_mem_signed {negative : Bool} {text : String} {c : Char}
    (plain : c ∈ text.toList → isPlain c = true) (member : c ∈ (signed negative text).toList) :
    isPlain c = true := by
  unfold signed at member
  split at member
  · rw [String.toList_append] at member
    rcases List.mem_append.mp member with sign | rest
    · rw [List.mem_singleton.mp sign]
      decide
    · exact plain rest
  · exact plain member

theorem isPlain_of_mem_plain {x : Float} {c : Char} (member : c ∈ (plain x).toList) :
    isPlain c = true := by
  unfold plain at member
  split at member
  · exact List.all_eq_true.mp (by decide : "NaN".toList.all isPlain = true) c member
  · refine isPlain_of_mem_signed (fun digit => ?_) member
    exact List.all_eq_true.mp (by decide : "inf".toList.all isPlain = true) c digit
  · refine isPlain_of_mem_signed (fun digit => ?_) member
    exact List.all_eq_true.mp (by decide : "0".toList.all isPlain = true) c digit
  · exact isPlain_of_mem_signed isPlain_of_mem_positional member

theorem plain_ne_empty (x : Float) : (plain x).toList ≠ [] := by
  have signed_ne {negative : Bool} {text : String} (some_text : text.toList ≠ []) :
      (signed negative text).toList ≠ [] := by
    unfold signed
    split
    · simp
    · exact some_text
  unfold plain
  split
  · decide
  · exact signed_ne (by decide)
  · exact signed_ne (by decide)
  · refine signed_ne ?_
    unfold positional
    split
    · simp [Nat.toDigits_ne_nil]
    · simp

theorem isPlain_of_mem_intText {n : Int} {c : Char} (member : c ∈ (intText n).toList) :
    isPlain c = true := by
  have digits {k : Nat} (member : c ∈ (natText k).toList) : isPlain c = true := by
    rw [natText, String.toList_ofList] at member
    exact isPlain_of_mem_toDigits member
  unfold intText at member
  split at member
  · rw [String.toList_append] at member
    rcases List.mem_append.mp member with sign | digit
    · rw [List.mem_singleton.mp sign]
      decide
    · exact digits digit
  · exact digits member

/-! ### Reading integers back -/

theorem digitsValue_append (first : List Char) (c : Char) :
    digitsValue (first ++ [c]) = digitsValue first * 10 + (c.toNat - '0'.toNat) := by
  simp [digitsValue]

theorem digitsValue_toDigits (n : Nat) : digitsValue (Nat.toDigits 10 n) = n := by
  induction n using Nat.strongRecOn with
  | ind n ih =>
      rw [Nat.toDigits_eq_if (by decide)]
      split
      · next small => simp [digitsValue, Nat.toNat_digitChar_sub_48_of_lt_ten small]
      · next large =>
          have last : n % 10 < 10 := Nat.mod_lt n (by decide)
          have unit : (n % 10).digitChar.toNat - '0'.toNat = n % 10 :=
            Nat.toNat_digitChar_sub_48_of_lt_ten last
          rw [digitsValue_append, ih (n / 10) (by omega), unit]
          omega

theorem readNat?_toDigits (n : Nat) : readNat? (Nat.toDigits 10 n) = some n := by
  have digits : (Nat.toDigits 10 n).all Char.isDigit = true := by
    rw [List.all_eq_true]
    exact fun c member => isDigit_of_mem_toDigits member
  simp [readNat?, digits, digitsValue_toDigits]

theorem unsign_toDigits (n : Nat) : unsign (Nat.toDigits 10 n) = (false, Nat.toDigits 10 n) := by
  have digit {c : Char} (member : c ∈ Nat.toDigits 10 n) : c.isDigit = true :=
    isDigit_of_mem_toDigits member
  unfold unsign
  split
  · next digits =>
      rw [digits] at digit
      exact absurd (digit List.mem_cons_self) (by decide)
  · next digits =>
      rw [digits] at digit
      exact absurd (digit List.mem_cons_self) (by decide)
  · rfl

/-- An integer is read back from its text. -/
theorem readInt?_intText (n : Int) : readInt? (intText n).toList = some n := by
  by_cases negative : n < 0
  · have text : (intText n).toList = '-' :: Nat.toDigits 10 n.natAbs := by
      simp [intText, natText, negative]
    have sign : unsign (intText n).toList = (true, Nat.toDigits 10 n.natAbs) := by
      rw [text]
      rfl
    simp only [readInt?, sign, readNat?_toDigits]
    simp only [Option.pure_def, Option.bind_eq_bind, Option.bind_some, Option.map_some, if_true,
      Option.some.injEq]
    omega
  · have text : (intText n).toList = Nat.toDigits 10 n.natAbs := by
      simp [intText, natText, negative]
    simp only [readInt?, text, unsign_toDigits, readNat?_toDigits]
    simp only [Option.pure_def, Option.bind_eq_bind, Option.bind_some, Option.map_some,
      Bool.false_eq_true, if_false, Option.some.injEq]
    omega

end Hostwatch.Number
