import Hostwatch.Number.Word
import Hostwatch.Json.Basic
import Hostwatch.Text.Quoted
import Hostwatch.Time.Rfc3339

/-!
# Decoding JSON values

Parameters and records arrive as JSON values and are decoded against a shape. A shape is a list of
fields, each with the decoder that its value has to pass; the value may be an object or the array of
the fields in order. `Shape.read` checks all of it in the order in which faults are reported, and
hands out the fields that are there.
-/

namespace Hostwatch.Json

/-- Why a value does not fit. -/
inductive Mismatch where
  /-- The kind of value that was found and what was expected instead. -/
  | invalidType (found expected : String)
  | invalidValue (found expected : String)
  | invalidLength (length : Nat) (expected : String)
  | unknownField (name : String) (expected : List String)
  | missingField (name : String)
  | other (text : String)
  deriving Repr, DecidableEq

private def ticked (s : String) : String :=
  "\x60" ++ s ++ "\x60"

private def oneOf : List String → String
  | [] => "there are no fields"
  | [a] => "expected " ++ ticked a
  | [a, b] => "expected " ++ ticked a ++ " or " ++ ticked b
  | names => "expected one of " ++ ", ".intercalate (names.map ticked)

def Mismatch.message : Mismatch → String
  | .invalidType found expected => "invalid type: " ++ found ++ ", expected " ++ expected
  | .invalidValue found expected => "invalid value: " ++ found ++ ", expected " ++ expected
  | .invalidLength n expected =>
    "invalid length " ++ Number.natText n ++ ", expected " ++ expected
  | .unknownField name names => "unknown field " ++ ticked name ++ ", " ++ oneOf names
  | .missingField name => "missing field " ++ ticked name
  | .other text => text

/-- What kind of value this is, in the words of a mismatch. -/
def describe : Json → String
  | .null => "null"
  | .bool b => "boolean " ++ ticked (if b then "true" else "false")
  | .int n => "integer " ++ ticked (Number.intText n)
  | .float x => "floating point " ++ ticked (Number.compact x)
  | .str s => "string " ++ Text.quoted s
  | .arr _ => "sequence"
  | .obj _ => "map"

/-- A decoder. -/
abbrev Decoder (α : Type) := Json → Except Mismatch α

namespace Decoder

/-- Any value. -/
def any : Decoder Json := .ok

/-- A text. -/
def string : Decoder String
  | .str s => .ok s
  | j => .error (.invalidType j.describe "a string")

/-- An integer between bounds; `name` says which. -/
def integer (low high : Int) (name : String) : Decoder Int
  | .int n =>
    if low ≤ n && n ≤ high then .ok n
    else .error (.invalidValue (describe (.int n)) name)
  | j => .error (.invalidType j.describe name)

/-- An unsigned integer of that many bits. -/
def unsigned (bits : Nat) (name : String) : Decoder Nat := fun j =>
  (integer 0 ((Word.pow2 bits : Nat) - 1) name j).map Int.toNat

def word16 : Decoder Nat := unsigned 16 "u16"
def word32 : Decoder Nat := unsigned 32 "u32"
def word64 : Decoder Nat := unsigned 64 "u64"

/-- Nothing, or what `d` decodes. -/
def optional {α : Type} (d : Decoder α) : Decoder (Option α)
  | .null => .ok none
  | j => (d j).map some

/-- A list. -/
def list {α : Type} (d : Decoder α) : Decoder (List α)
  | .arr items => items.mapM d
  | j => .error (.invalidType j.describe "a sequence")

/-- An object whose values are all alike. -/
def table {α : Type} (d : Decoder α) : Decoder (Table α)
  | .obj members => members.mapM fun (key, value) => (d value).map (key, ·)
  | j => .error (.invalidType j.describe "a map")

/-- A date in RFC 3339 form. -/
def timestamp : Decoder Timestamp
  | .str s => (Rfc3339.read s).mapError fun e => .other e.message
  | j => .error (.invalidType j.describe "an RFC 3339 formatted date and time string")

end Decoder

/-- A field of a shape. `check` is its decoder without the result. -/
structure Field where
  name : String
  required : Bool
  check : Decoder Unit

/-- A field that has to be there. -/
def Field.mandatory {α : Type} (name : String) (d : Decoder α) : Field :=
  ⟨name, true, fun j => (d j).map fun _ => ()⟩

/-- A field that may be left out. -/
def Field.optional {α : Type} (name : String) (d : Decoder α) : Field :=
  ⟨name, false, fun j => (d j).map fun _ => ()⟩

/-- What an object has to look like. -/
structure Shape where
  name : String
  fields : List Field
  /-- Whether members of other names are refused; else they are ignored. -/
  closed : Bool
  /-- Whether an array may have more items than there are fields; they are then ignored. -/
  openEnded : Bool := false

namespace Shape

def find? (s : Shape) (name : String) : Option Field :=
  s.fields.find? (·.name == name)

/-- The members that name fields, each checked, in the order of the members. -/
def readMembers (s : Shape) : List (String × Json) → Except Mismatch (Table Json)
  | [] => .ok []
  | (key, value) :: rest =>
    match s.find? key with
    | some field => do
      field.check value
      return (key, value) :: (← readMembers s rest)
    | none =>
      if s.closed then .error (.unknownField key (s.fields.map (·.name)))
      else readMembers s rest

private def lengthText (s : Shape) : String :=
  "struct " ++ s.name ++ " with " ++ Number.natText s.fields.length ++
    (if s.fields.length == 1 then " element" else " elements")

/-- The items as fields in order; fields that may be left out may be missing at the end. -/
private def readItems (s : Shape) (index : Nat) : List Field → List Json →
    Except Mismatch (Table Json)
  | [], [] => .ok []
  | [], rest =>
    if s.openEnded then .ok []
    else .error (.invalidLength (index + rest.length) "fewer elements in array")
  | field :: fields, [] =>
    if field.required then .error (.invalidLength index s.lengthText)
    else readItems s (index + 1) fields []
  | field :: fields, item :: items => do
    field.check item
    return (field.name, item) :: (← readItems s (index + 1) fields items)

/-- The first required field that is not among the members. -/
def missing? (s : Shape) (members : Table Json) : Option String :=
  (s.fields.find? fun f => f.required && (members.get? f.name).isNone).map (·.name)

/-- The fields of a value that fits the shape. -/
def read (s : Shape) : Json → Except Mismatch (Table Json)
  | .obj members => do
    let found ← s.readMembers members
    match s.missing? found with
    | some name => .error (.missingField name)
    | none => .ok found
  | .arr items => s.readItems 0 s.fields items
  | j => .error (.invalidType j.describe ("struct " ++ s.name))

end Shape

/-- The value of a required field. -/
def field {α : Type} (fields : Table Json) (name : String) (d : Decoder α) : Except Mismatch α :=
  match fields.get? name with
  | some value => d value
  | none => .error (.missingField name)

/-- The value of a field that has a default. -/
def fieldD {α : Type} (fields : Table Json) (name : String) (default : α) (d : Decoder α) :
    Except Mismatch α :=
  match fields.get? name with
  | some value => d value
  | none => .ok default

end Hostwatch.Json
