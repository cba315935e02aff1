import Hostwatch.Number.Text
import Hostwatch.Table

/-!
# JSON values

Integers and doubles are kept apart: a number that was written without point and exponent, and
that fits a 64-bit word with or without sign, is an integer. The members of an object are a table,
so they are listed by key and no key occurs twice.
-/

namespace Hostwatch

/-- A JSON value. -/
inductive Json where
  | null
  | bool (value : Bool)
  | int (value : Int)
  | float (value : Float)
  | str (value : String)
  | arr (items : List Json)
  | obj (members : List (String × Json))
  deriving Inhabited

namespace Json

/-- The object with the given members; of equal keys the last one counts. -/
def ofMembers (members : List (String × Json)) : Json :=
  .obj (Table.ofList members)

/-- A text or `null`. -/
def ofText? : Option String → Json
  | some s => .str s
  | none => .null

/-- A double as a JSON number. The special values have no such text and become `null`. -/
def ofFloat (x : Float) : Json :=
  match Binary64.decode x with
  | .finite .. => .float x
  | _ => .null

/-- The member of an object, or `null` if there is none. -/
def member (j : Json) (key : String) : Json :=
  match j with
  | .obj members => (Table.get? members key).getD .null
  | _ => .null

/-- The members of an object; none if it is no object. -/
def members : Json → Table Json
  | .obj members => members
  | _ => []

/-- The items of an array; none if it is no array. -/
def items : Json → List Json
  | .arr items => items
  | _ => []

/-- The text, if it is one. -/
def text? : Json → Option String
  | .str s => some s
  | _ => none

/-- The integer, if it is one. -/
def int? : Json → Option Int
  | .int n => some n
  | _ => none

def isNull : Json → Bool
  | .null => true
  | _ => false

private def hexDigit (n : Nat) : Char :=
  (Nat.digitChar n)

/-- A character inside of a JSON text. -/
def escape (c : Char) : List Char :=
  if c == '"' then ['\\', '"']
  else if c == '\\' then ['\\', '\\']
  else if c == '\n' then ['\\', 'n']
  else if c == '\r' then ['\\', 'r']
  else if c == '\t' then ['\\', 't']
  else if c == '\x08' then ['\\', 'b']
  else if c == '\x0c' then ['\\', 'f']
  else if c.toNat < 0x20 then
    ['\\', 'u', '0', '0', hexDigit (c.toNat / 16), hexDigit (c.toNat % 16)]
  else [c]

/-- A text in quotes. -/
def quote (s : String) : String :=
  String.ofList ('"' :: s.toList.flatMap escape ++ ['"'])

mutual

/-- The text of a value without any white space. -/
def compact : Json → String
  | .null => "null"
  | .bool true => "true"
  | .bool false => "false"
  | .int n => Number.intText n
  | .float x => Number.compact x
  | .str s => quote s
  | .arr items => "[" ++ ",".intercalate (compactItems items) ++ "]"
  | .obj members => "\x7b" ++ ",".intercalate (compactMembers members) ++ "\x7d"

def compactItems : List Json → List String
  | [] => []
  | item :: rest => compact item :: compactItems rest

def compactMembers : List (String × Json) → List String
  | [] => []
  | (key, value) :: rest => (quote key ++ ":" ++ compact value) :: compactMembers rest

end

end Json

end Hostwatch
