import Hostwatch.Number.Word
import Hostwatch.Json.Basic

/-!
# JSON text

Reading happens in two steps. `Written.read?` checks the grammar and yields what was written: the
digits of each number, the characters of each text, members in their order and repeated if they
were. `Written.value?` then gives it a meaning, which can still fail: a number may be too great for
a double and a text may hold half of a surrogate pair. Whoever skips a member without looking at it
only needs the first step.
-/

namespace Hostwatch.Json

/-- A number as it was written. -/
structure Numeral where
  negative : Bool
  whole : List Char
  fraction : Option (List Char)
  /-- Whether the exponent is negative, and its digits. -/
  exponent : Option (Bool × List Char)

/-- What was written. A text is none when its escapes hold half of a surrogate pair. -/
inductive Written where
  | null
  | bool (value : Bool)
  | number (n : Numeral)
  | str (value : Option String)
  | arr (items : List Written)
  | obj (members : List (Option String × Written))

/-! ## The double of a numeral

A numeral contributes as many leading digits as a 64-bit word holds; the digits after them count
for the magnitude only while they stand before the point. The significand is then scaled by powers
of ten in double arithmetic, which is exact for the numbers that people write.
-/

namespace Numeral

/-- The digits that a word holds, as a number, and the digits left over. -/
def significand (n : Nat) : List Char → Nat × List Char
  | [] => (n, [])
  | c :: rest =>
    let next := n * 10 + (c.toNat - '0'.toNat)
    if next ≥ Word.count64 then (n, c :: rest) else significand next rest

/-- A power of ten as a double. -/
def powerOfTen (n : Nat) : Float :=
  Binary64.ofRatio false (Word.pow10 n) 1

/-- Scales by a power of ten. A result that is not finite is refused; powers below the smallest
double are applied in steps. -/
def scale? (x : Float) (exponent : Int) : Option Float :=
  if exponent ≥ 0 then
    if exponent ≤ 308 then
      let y := x * powerOfTen exponent.toNat
      if y.isInf then none else some y
    else if x == 0.0 then some x
    else none
  else go 4 x (-exponent).toNat
where
  /-- Four steps bring any 64-bit significand to zero. -/
  go : Nat → Float → Nat → Option Float
    | 0, x, _ => some (x * 0.0)
    | steps + 1, x, n =>
      if n ≤ 308 then some (x / powerOfTen n)
      else if x == 0.0 then some x
      else go steps (x / powerOfTen 308) (n - 308)

/-- The size of a numeral as a double, without its sign. -/
def magnitude? (n : Numeral) : Option Float := do
  let (digits, dropped) := significand 0 n.whole
  let (digits, places) := match n.fraction with
    | none => (digits, 0)
    | some fraction =>
      let (all, left) := significand digits fraction
      (all, fraction.length - left.length)
  let shift : Int := (dropped.length : Int) - places
  let x := Binary64.ofRatio false digits 1
  match n.exponent with
  | none => scale? x shift
  | some (negative, exponent) =>
    let size := Number.digitsValue exponent
    if size ≥ 0x80000000 then
      if digits != 0 && !negative then none else some 0.0
    else scale? x (if negative then shift - size else shift + size)

/-- The value of a numeral: an integer if it is written as one, fits a word and is not `-0`. -/
def value? (n : Numeral) : Option Json :=
  let size := Number.digitsValue n.whole
  let isWhole := n.fraction.isNone && n.exponent.isNone
  if isWhole && !n.negative && size < Word.count64 then some (.int size)
  else if isWhole && n.negative && 0 < size && size ≤ Word.count64 / 2 then some (.int (-(size : Int)))
  else if isWhole && n.negative && size < Word.count64 then
    some (.float (Binary64.ofRatio true size 1))
  else n.magnitude?.map fun x => .float (if n.negative then -x else x)

end Numeral

/-! ## The grammar -/

namespace Written

private def isSpace (c : Char) : Bool :=
  c == ' ' || c == '\n' || c == '\t' || c == '\r'

private def skip (cs : List Char) : List Char :=
  cs.dropWhile isSpace

/-- A run of at least one digit, and the rest. -/
private def digits? (cs : List Char) : Option (List Char × List Char) :=
  match cs.span Char.isDigit with
  | ([], _) => none
  | run => some run

private def exponent? (cs : List Char) : Option (Option (Bool × List Char) × List Char) :=
  match cs with
  | c :: rest =>
    if c == 'e' || c == 'E' then
      let (negative, rest) := match rest with
        | '-' :: rest => (true, rest)
        | '+' :: rest => (false, rest)
        | _ => (false, rest)
      (digits? rest).map fun (ds, rest) => (some (negative, ds), rest)
    else some (none, cs)
  | [] => some (none, cs)

private def numeral? (cs : List Char) : Option (Numeral × List Char) := do
  let (negative, cs) := match cs with
    | '-' :: rest => (true, rest)
    | _ => (false, cs)
  let (whole, cs) ← digits? cs
  if whole.head? == some '0' && whole.length > 1 then none
  let (fraction, cs) ← match cs with
    | '.' :: rest => (digits? rest).map fun (ds, rest) => (some ds, rest)
    | _ => some (none, cs)
  let (exponent, cs) ← exponent? cs
  some (⟨negative, whole, fraction, exponent⟩, cs)

private def hexValue? (c : Char) : Option Nat :=
  if '0' ≤ c && c ≤ '9' then some (c.toNat - 48)
  else if 'a' ≤ c && c ≤ 'f' then some (c.toNat - 87)
  else if 'A' ≤ c && c ≤ 'F' then some (c.toNat - 55)
  else none

private def unit? (a b c d : Char) : Option Nat := do
  return ((← hexValue? a) * 16 + (← hexValue? b)) * 256 + (← hexValue? c) * 16 + (← hexValue? d)

private def simpleEscape? (c : Char) : Option Char :=
  match c with
  | '"' => some '"'
  | '\\' => some '\\'
  | '/' => some '/'
  | 'b' => some '\x08'
  | 'f' => some '\x0c'
  | 'n' => some '\n'
  | 'r' => some '\r'
  | 't' => some '\t'
  | _ => none

/-- The characters up to the closing quote. `done` holds them in reverse, or nothing once half of a
surrogate pair stood alone. -/
private def text? : (cs : List Char) → (done : Option (List Char)) →
    Option (Option String × List Char)
  | [], _ => none
  | '"' :: rest, done => some (done.map fun cs => String.ofList cs.reverse, rest)
  | '\\' :: 'u' :: a :: b :: c :: d :: '\\' :: 'u' :: e :: f :: g :: h :: rest, done => do
    let high ← unit? a b c d
    if 0xD800 ≤ high && high < 0xDC00 then
      let low ← unit? e f g h
      if 0xDC00 ≤ low && low < 0xE000 then
        let c := Char.ofNat (0x10000 + (high - 0xD800) * 0x400 + (low - 0xDC00))
        text? rest (done.map (c :: ·))
      else text? rest none
    else if 0xDC00 ≤ high && high < 0xE000 then text? ('\\' :: 'u' :: e :: f :: g :: h :: rest) none
    else text? ('\\' :: 'u' :: e :: f :: g :: h :: rest) (done.map (Char.ofNat high :: ·))
  | '\\' :: 'u' :: a :: b :: c :: d :: rest, done => do
    let n ← unit? a b c d
    if 0xD800 ≤ n && n < 0xE000 then text? rest none
    else text? rest (done.map (Char.ofNat n :: ·))
  | '\\' :: c :: rest, done => do
    let c ← simpleEscape? c
    text? rest (done.map (c :: ·))
  | c :: rest, done => if c.toNat < 0x20 then none else text? rest (done.map (c :: ·))

mutual

/-- A value in front of the text. The fuel bounds the number of values and is never used up when it
is the length of the text. -/
private def value (fuel : Nat) (cs : List Char) : Option (Written × List Char) :=
  match fuel with
  | 0 => none
  | fuel + 1 =>
    match skip cs with
    | 'n' :: 'u' :: 'l' :: 'l' :: rest => some (.null, rest)
    | 't' :: 'r' :: 'u' :: 'e' :: rest => some (.bool true, rest)
    | 'f' :: 'a' :: 'l' :: 's' :: 'e' :: rest => some (.bool false, rest)
    | '"' :: rest => (text? rest (some [])).map fun (s, rest) => (.str s, rest)
    | '[' :: rest =>
      match skip rest with
      | ']' :: rest => some (.arr [], rest)
      | rest => items fuel rest []
    | '{' :: rest =>
      match skip rest with
      | '}' :: rest => some (.obj [], rest)
      | rest => members fuel rest []
    | cs => (numeral? cs).map fun (n, rest) => (.number n, rest)

/-- The items up to the closing bracket; `done` holds the earlier ones in reverse. -/
private def items (fuel : Nat) (cs : List Char) (done : List Written) :
    Option (Written × List Char) :=
  match fuel with
  | 0 => none
  | fuel + 1 =>
    match value fuel cs with
    | none => none
    | some (item, rest) =>
      match skip rest with
      | ',' :: rest => items fuel rest (item :: done)
      | ']' :: rest => some (.arr (item :: done).reverse, rest)
      | _ => none

/-- The members up to the closing brace; `done` holds the earlier ones in reverse. -/
private def members (fuel : Nat) (cs : List Char) (done : List (Option String × Written)) :
    Option (Written × List Char) :=
  match fuel with
  | 0 => none
  | fuel + 1 =>
    match skip cs with
    | '"' :: rest =>
      match text? rest (some []) with
      | none => none
      | some (key, rest) =>
        match skip rest with
        | ':' :: rest =>
          match value fuel rest with
          | none => none
          | some (item, rest) =>
            match skip rest with
            | ',' :: rest => members fuel rest ((key, item) :: done)
            | '}' :: rest => some (.obj ((key, item) :: done).reverse, rest)
            | _ => none
        | _ => none
    | _ => none

end

/-- What a text writes, if it is one value and nothing but white space around it. -/
def read? (text : String) : Option Written := do
  let cs := text.toList
  let (w, rest) ← value (cs.length + 1) cs
  if (skip rest).isEmpty then some w else none

mutual

/-- The value of what was written. -/
def value? : Written → Option Json
  | .null => some .null
  | .bool b => some (.bool b)
  | .number n => n.value?
  | .str s => s.map .str
  | .arr items => (itemValues? items).map .arr
  | .obj members => (memberValues? members).map Json.ofMembers

def itemValues? : List Written → Option (List Json)
  | [] => some []
  | item :: rest => do return (← value? item) :: (← itemValues? rest)

def memberValues? : List (Option String × Written) → Option (List (String × Json))
  | [] => some []
  | (key, item) :: rest => do return (← key, ← value? item) :: (← memberValues? rest)

end

/-- Reads the members that have a reader, each at most once, and skips the others unseen. -/
private def pick? (readers : List (String × (Written → Option Json))) (seen : List String) :
    List (Option String × Written) → Option (List (String × Json))
  | [] => some []
  | (none, _) :: _ => none
  | (some key, item) :: rest =>
    match readers.lookup key with
    | none => pick? readers seen rest
    | some read =>
      if seen.contains key then none
      else do return (key, ← read item) :: (← pick? readers (key :: seen) rest)

private def pickItems? : List (String × (Written → Option Json)) → List Written →
    Option (List Json)
  | _, [] => some []
  | [], _ :: _ => none
  | (_, read) :: readers, item :: rest => do return (← read item) :: (← pickItems? readers rest)

/-- The value of a record with the given fields, written as an object or as the array of them. -/
def recordValue? (readers : List (String × (Written → Option Json))) : Written → Option Json
  | .obj members => (pick? readers [] members).map Json.ofMembers
  | .arr items => (pickItems? readers items).map .arr
  | w => w.value?

/-- The value of a list whose items have a reader of their own. -/
def listValue? (read : Written → Option Json) : Written → Option Json
  | .arr items => (items.mapM read).map .arr
  | w => w.value?

end Written

/-- The value of a JSON text. -/
def parse? (text : String) : Option Json := do
  (← Written.read? text).value?

end Hostwatch.Json
