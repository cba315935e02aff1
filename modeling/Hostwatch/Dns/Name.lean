import Hostwatch.Text.Split
import Hostwatch.Text.Utf8

/-!
# Names in the domain name system

A name is a list of labels. `read?` takes its text, with backslash escapes for characters that
would end a label, and `encode` gives its octets in a message.
-/

namespace Hostwatch.Dns

/-- The labels of a name, from the left. -/
abbrev Name := List (List Char)

namespace Name

/-- The greatest number of octets of a name in a message. -/
def maxLength : Nat := 255

/-- The greatest number of octets of a label. -/
def maxLabel : Nat := 63

/-- The number of octets of a name in a message: each label has its length in front, and a zero
ends the name. -/
def encodedLength : Name → Nat
  | [] => 1
  | label :: rest => label.length + 1 + encodedLength rest

/-- Whether a label may hold the character. Dots get there by escapes. -/
def isLabelChar (c : Char) (first : Bool) : Bool :=
  c.isAlphanum || (c == '-' && !first) || c == '_' || (c == '*' && first) || c == '.'

/-- Whether a text is a label. -/
def isLabel (label : List Char) : Bool :=
  match label with
  | [] => false
  | c :: rest =>
    label.length ≤ maxLabel && isLabelChar c true && rest.all (isLabelChar · false)

/-- Adds a label at the end, if it is one and the name does not become too long. -/
def append? (name : Name) (label : List Char) : Option Name :=
  let longer := name ++ [label]
  if isLabel label && encodedLength longer ≤ maxLength then some longer else none

/-- How far an escape has been read. -/
inductive Escape where
  | none
  | begun
  | oneDigit (a : Nat)
  | twoDigits (a b : Nat)

/-- The value of a digit in an escape. -/
def octal? (c : Char) : Option Nat :=
  if '0' ≤ c && c ≤ '7' then some (c.toNat - '0'.toNat) else .none

/-- Whether a character controls a device. -/
def isControl (c : Char) : Bool :=
  c.toNat < 0x20 || (0x7F ≤ c.toNat && c.toNat < 0xA0)

/-- Reads the characters of a name. `label` holds those of the current label in reverse. -/
def readFrom (name : Name) (label : List Char) : Escape → List Char → Option Name
  | _, [] => if label.isEmpty then some name else name.append? label.reverse
  | .none, c :: rest =>
    if c == '.' then do readFrom (← name.append? label.reverse) [] .none rest
    else if c == '\\' then readFrom name label .begun rest
    else if isControl c || Text.isBlank c then .none
    else readFrom name (c :: label) .none rest
  | .begun, c :: rest =>
    if c.isDigit then do readFrom name label (.oneDigit (← octal? c)) rest
    else readFrom name (c :: label) .none rest
  | .oneDigit a, c :: rest => do readFrom name label (.twoDigits a (← octal? c)) rest
  | .twoDigits a b, c :: rest => do
    readFrom name (Char.ofNat (a * 64 + b * 8 + (← octal? c)) :: label) .none rest

/-- The name that a text stands for. A dot alone is the root, and a dot at the end of another name
changes nothing. -/
def read? (text : String) : Option Name :=
  if text == "." then some [] else readFrom [] [] .none text.toList

/-- Whether a message can hold the name. -/
def fits (name : Name) : Bool :=
  name.all (fun label => label.length ≤ maxLabel) && encodedLength name ≤ maxLength

/-- The octets of a name that fits. -/
def encode (name : Name) : Octets :=
  name.flatMap (fun label =>
    UInt8.ofNat label.length :: label.map fun c => UInt8.ofNat c.toNat) ++ [0]

end Name

end Hostwatch.Dns
