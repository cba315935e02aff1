import Hostwatch.Text.Utf8
import Hostwatch.Number.Word
import Hostwatch.Time.Timestamp
import Hostwatch.Text.Split

/-!
# RFC 3339 dates

Timestamps are written in UTC with the fewest of 0, 3, 6 or 9 fraction digits that are exact.
Reading is more liberal than the standard: blanks may stand between the parts, the year may have
any number of digits after a sign, a space or `t` may stand for `T`, `UTC` in any case for the
offset, and the colon of an offset may be missing or be blanks.
-/

namespace Hostwatch.Rfc3339

/-- Why a text is no date. -/
inductive ReadError where
  | tooShort
  | invalid
  | outOfRange
  | impossible
  | tooLong
  deriving Repr, DecidableEq

def ReadError.message : ReadError → String
  | .tooShort => "premature end of input"
  | .invalid => "input contains invalid characters"
  | .outOfRange => "input is out of range"
  | .impossible => "no possible date and time matching input"
  | .tooLong => "trailing input"

/-- A year, with a sign unless it has exactly the four digits of a common one. -/
def yearText (year : Int) : String :=
  if 0 ≤ year && year ≤ 9999 then Number.padded 4 year.natAbs
  else (if year < 0 then "-" else "+") ++ Number.padded 4 year.natAbs

/-- The fraction of a second, in the fewest groups of three digits that hold it. -/
def fractionText (nano : Nat) : String :=
  if nano == 0 then ""
  else if nano % 1000000 == 0 then "." ++ Number.padded 3 (nano / 1000000)
  else if nano % 1000 == 0 then "." ++ Number.padded 6 (nano / 1000)
  else "." ++ Number.padded 9 nano

/-- The text of a timestamp. -/
def write (t : Timestamp) : String :=
  let date := Date.ofDays (t.second / 86400)
  let secondOfDay := (t.second % 86400).toNat
  let leap := t.nano ≥ 1000000000
  let second := secondOfDay % 60 + if leap then 1 else 0
  let nano := if leap then t.nano - 1000000000 else t.nano
  yearText date.year ++ "-" ++ Number.padded 2 date.month ++ "-" ++ Number.padded 2 date.day
    ++ "T" ++ Number.padded 2 (secondOfDay / 3600) ++ ":" ++ Number.padded 2 (secondOfDay / 60 % 60)
    ++ ":" ++ Number.padded 2 second ++ fractionText nano ++ "Z"

/-- Reading consumes the text from the left. -/
abbrev Reader := StateT (List Char) (Except ReadError)

def blanks : Reader Unit :=
  modify Text.trimLeft

/-- A run of `least` to `most` digits, `most` being none when there is no limit. The value has to
fit a signed 64-bit word. -/
def number (least : Nat) (most : Option Nat) : Reader Nat := do
  let cs ← get
  -- a text of fewer bytes than digits are needed is too short whatever it holds
  if (Utf8.encode cs).length < least then throw .tooShort
  let digits := (match most with | some n => cs.take n | none => cs).takeWhile Char.isDigit
  if digits.length < least then throw .invalid
  let value := Number.digitsValue digits
  if (value : Int) > Span.wordMax then throw .outOfRange
  set (cs.drop digits.length)
  return value

def year : Reader Int := do
  blanks
  let value : Int ← match ← get with
    | '-' :: rest => set rest; let n ← number 1 none; pure (-(n : Int))
    | '+' :: rest => set rest; let n ← number 1 none; pure (n : Int)
    | _ => let n ← number 1 (some 4); pure (n : Int)
  if value < -0x80000000 || value > 0x7FFFFFFF then throw .outOfRange
  return value

/-- A number of at most two digits in the given bounds. -/
def field (low high : Nat) : Reader Nat := do
  blanks
  let value ← number 1 (some 2)
  if value < low || high < value then throw .outOfRange
  return value

def mark (c : Char) : Reader Unit := do
  blanks
  match ← get with
  | [] => throw .tooShort
  | d :: rest => if c == d then set rest else throw .invalid

/-- The nanoseconds of a fraction; digits beyond the ninth are dropped. -/
def fraction : Reader Nat := do
  match ← get with
  | '.' :: rest =>
    set rest
    let before := rest.length
    let value ← number 1 (some 9)
    let used := before - (← get).length
    modify (·.dropWhile Char.isDigit)
    return value * Word.pow10 (9 - used)
  | _ => return 0

/-- Two digits, of which the first is at most `tens`. -/
def twoDigits (tens : Char) : Reader Nat := do
  match ← get with
  | a :: b :: rest =>
    if !a.isDigit || !b.isDigit then throw .invalid
    if tens < a then throw .outOfRange
    set rest
    return Number.digitsValue [a, b]
  | cs =>
    -- one character of several bytes is not a digit, one of a single byte is not enough
    throw (if (Utf8.encode cs).length < 2 then .tooShort else .invalid)

/-- The offset from UTC in seconds. -/
def offset : Reader Int := do
  blanks
  let cs ← get
  if (cs.take 3).map Char.toUpper == "UTC".toList then
    set (cs.drop 3)
    return 0
  let sign : Int ← match cs with
    | [] => throw .tooShort
    | c :: rest =>
      if c == 'Z' || c == 'z' then set rest; return 0
      set rest
      if c == '+' then pure 1
      else if c == '-' || c == '\u2212' then pure (-1)
      else throw .invalid
  let hours ← twoDigits '9'
  modify (·.dropWhile fun c => c == ':' || Text.isBlank c)
  let minutes ← twoDigits '5'
  return sign * ((hours * 3600 + minutes * 60 : Nat) : Int)

def reader : Reader Timestamp := do
  let year ← year
  mark '-'
  let month ← field 1 12
  mark '-'
  let day ← field 1 31
  match ← get with
  | [] => throw .tooShort
  | c :: rest => if c == 'T' || c == 't' || c == ' ' then set rest else throw .invalid
  let hour ← field 0 23
  mark ':'
  let minute ← field 0 59
  mark ':'
  let second ← field 0 60
  let nano ← fraction
  let offset ← offset
  blanks
  if !(← get).isEmpty then throw .tooLong
  if offset ≤ -86400 || 86400 ≤ offset then throw .outOfRange
  let date : Date := ⟨year, month, day⟩
  if year < -262143 || 262142 < year || !date.isValid then throw .outOfRange
  let leap := second == 60
  let secondOfDay := hour * 3600 + minute * 60 + if leap then 59 else second
  let utc : Timestamp :=
    ⟨date.toDays * 86400 + secondOfDay - offset, nano + if leap then 1000000000 else 0⟩
  if utc.inRange then return utc else throw .impossible

/-- The timestamp that a text stands for. -/
def read (text : String) : Except ReadError Timestamp :=
  (reader.run text.toList).map (·.1)

end Hostwatch.Rfc3339
