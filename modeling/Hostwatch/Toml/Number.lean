import Hostwatch.Number.Word
import Hostwatch.Time.Calendar
import Hostwatch.Toml.Basic

/-!
# Numbers and dates in TOML

Underscores may stand between digits. A number is an integer in base ten, two, eight or sixteen
that fits a signed 64-bit word, or a double; one without a point or exponent is an integer. Dates
and times are checked and kept as text in their normal form.

The functions here read what stands in front of a text and answer with the rest.
-/

namespace Hostwatch.Toml

private def isHexDigit (c : Char) : Bool :=
  c.isDigit || ('a' ≤ c && c ≤ 'f') || ('A' ≤ c && c ≤ 'F')

/-- The value of a digit in any base up to sixteen. -/
def digitValue (c : Char) : Nat :=
  if c.isDigit then c.toNat - '0'.toNat
  else if 'a' ≤ c then c.toNat - 'a'.toNat + 10
  else c.toNat - 'A'.toNat + 10

/-- The longest run of digits with single underscores between them, without the underscores. -/
def digits (isDigit : Char → Bool) : List Char → List Char × List Char
  | [] => ([], [])
  | '_' :: c :: rest =>
    if isDigit c then
      let (ds, rest) := digits isDigit rest
      (c :: ds, rest)
    else ([], '_' :: c :: rest)
  | c :: rest =>
    if isDigit c then
      let (ds, rest) := digits isDigit rest
      (c :: ds, rest)
    else ([], c :: rest)

/-- A run that begins with a digit. -/
def run? (isDigit : Char → Bool) (cs : List Char) : Option (List Char × List Char) :=
  match cs with
  | c :: rest =>
    if isDigit c then
      let (ds, rest) := digits isDigit rest
      some (c :: ds, rest)
    else none
  | [] => none

/-- An optional sign: whether it is a minus, and the rest. -/
def sign : List Char → Bool × List Char
  | '-' :: rest => (true, rest)
  | '+' :: rest => (false, rest)
  | cs => (false, cs)

/-- The digits of a whole number, which does not begin with zero unless it is zero. -/
def whole? : List Char → Option (List Char × List Char)
  | '0' :: rest => some (['0'], rest)
  | cs => run? Char.isDigit cs

/-- An integer that fits a signed 64-bit word. -/
def word? (n : Int) : Option Toml :=
  if Word.fits n then some (.int n) else none

private def based? (base : Nat) (isDigit : Char → Bool) (cs : List Char) :
    Option (Toml × List Char) := do
  let (ds, rest) ← run? isDigit cs
  let n := ds.foldl (fun n c => n * base + digitValue c) 0
  return (← word? n, rest)

private def signText (negative : Bool) : List Char :=
  if negative then ['-'] else []

/-- An exponent with its mark; empty if there is none. -/
def exponent? (cs : List Char) : Option (List Char × List Char) :=
  match cs with
  | c :: rest =>
    if c == 'e' || c == 'E' then do
      let (negative, rest) := sign rest
      let (ds, rest) ← run? Char.isDigit rest
      return ('e' :: signText negative ++ ds, rest)
    else some ([], cs)
  | [] => some ([], [])

/-- A double in decimal notation. One that is too great is refused, one that is too small is not. -/
def double? (text : List Char) : Option Toml := do
  let x ← Number.readFloat? text
  if x.isInf && x > 0.0 then none else some (.float x)

/-- A number that begins with a digit or a sign. -/
def number? (cs : List Char) : Option (Toml × List Char) :=
  match cs with
  | '0' :: 'x' :: rest => based? 16 isHexDigit rest
  | '0' :: 'o' :: rest => based? 8 (fun c => '0' ≤ c && c ≤ '7') rest
  | '0' :: 'b' :: rest => based? 2 (fun c => c == '0' || c == '1') rest
  | _ =>
    let (negative, cs) := sign cs
    match cs with
    | 'i' :: 'n' :: 'f' :: rest => some (.float (if negative then -1.0 / 0.0 else 1.0 / 0.0), rest)
    | 'n' :: 'a' :: 'n' :: rest => some (.float (0.0 / 0.0), rest)
    | _ => do
      let (ds, rest) ← whole? cs
      let (fraction, after) ← match rest with
        | '.' :: rest => (run? Char.isDigit rest).map fun (ds, rest) => ('.' :: ds, rest)
        | _ => some ([], rest)
      let (exponent, after) ← exponent? after
      if fraction.isEmpty && exponent.isEmpty then
        let n := Number.digitsValue ds
        return (← word? (if negative then -n else n), rest)
      else return (← double? (signText negative ++ ds ++ fraction ++ exponent), after)

/-! ### Dates -/

/-- A number of exactly that many digits. -/
def fixed? (count : Nat) (cs : List Char) : Option (Nat × List Char) :=
  let ds := cs.take count
  if ds.length == count && ds.all Char.isDigit then
    some (Number.digitsValue ds, cs.drop count)
  else none

/-- The rest behind a character that has to be there. -/
def expect? (c : Char) : List Char → Option (List Char)
  | d :: rest => if c == d then some rest else none
  | [] => none

private def two (n : Nat) : String := Number.padded 2 n

/-- A day of the calendar. -/
def date? (cs : List Char) : Option (String × List Char) := do
  let (year, cs) ← fixed? 4 cs
  let cs ← expect? '-' cs
  let (month, cs) ← fixed? 2 cs
  let cs ← expect? '-' cs
  let (day, cs) ← fixed? 2 cs
  if 1 ≤ month && month ≤ 12 && 1 ≤ day && day ≤ Date.daysInMonth year month then
    return (Number.padded 4 year ++ "-" ++ two month ++ "-" ++ two day, cs)
  else none

/-- A fraction of a second, of which nine digits count. -/
def secondFraction? (cs : List Char) : Option (String × List Char) :=
  match cs with
  | '.' :: rest =>
    match rest.span Char.isDigit with
    | ([], _) => none
    | (ds, rest) =>
      let kept := ((ds.take 9).reverse.dropWhile (· == '0')).reverse
      some (if kept.isEmpty then "" else String.ofList ('.' :: kept), rest)
  | _ => some ("", cs)

/-- A time of the day. -/
def time? (cs : List Char) : Option (String × List Char) := do
  let (hour, cs) ← fixed? 2 cs
  let cs ← expect? ':' cs
  let (minute, cs) ← fixed? 2 cs
  let cs ← expect? ':' cs
  let (second, cs) ← fixed? 2 cs
  if hour > 23 || minute > 59 || second > 60 then none
  let (fraction, cs) ← secondFraction? cs
  return (two hour ++ ":" ++ two minute ++ ":" ++ two second ++ fraction, cs)

/-- The offset of a time from UTC; empty if there is none. -/
def offset? (cs : List Char) : Option (String × List Char) :=
  match cs with
  | c :: rest =>
    if c == 'Z' || c == 'z' then some ("Z", rest)
    else if c == '+' || c == '-' then do
      let (hour, rest) ← fixed? 2 rest
      let rest ← expect? ':' rest
      let (minute, rest) ← fixed? 2 rest
      if hour > 23 || minute > 59 then none
      let mark := if c == '-' && hour + minute > 0 then "-" else "+"
      return (mark ++ two hour ++ ":" ++ two minute, rest)
    else some ("", cs)
  | [] => some ("", [])

/-- A day and the time that follows it, if one does. -/
private def dateAndTime? (cs : List Char) : Option (String × List Char) := do
  let (day, cs) ← date? cs
  match cs with
  | c :: rest =>
    if c == 'T' || c == 't' || c == ' ' then
      match time? rest with
      | some (time, rest) =>
        let (offset, rest) ← offset? rest
        return (day ++ "T" ++ time ++ offset, rest)
      | none => return (day, cs)
    else return (day, cs)
  | [] => return (day, [])

/-- A date, a time or both. -/
def datetime? (cs : List Char) : Option (Toml × List Char) :=
  ((dateAndTime? cs).orElse fun _ => time? cs).map fun (text, rest) => (.datetime text, rest)

end Hostwatch.Toml
