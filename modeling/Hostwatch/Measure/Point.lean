import Hostwatch.Json.Schema
import Hostwatch.Json.Written

/-!
# Points

A point is one observation: a metric's name, tags that say what was observed, fields that say what
was seen, and the time. It is the unit that agents produce, that a run stores and that the database
receives.
-/

namespace Hostwatch

/-- The value of a field. -/
inductive FieldValue where
  | bool (value : Bool)
  | number (value : Float)
  | text (value : String)
  deriving Inhabited

namespace FieldValue

/-- The numeric view: a boolean counts as `0` or `1`, a text has none. -/
def toFloat? : FieldValue → Option Float
  | .bool b => some (if b then 1.0 else 0.0)
  | .number x => some x
  | .text _ => none

/-- The bare JSON scalar; a number without a decimal text becomes `null`. -/
def toJson : FieldValue → Json
  | .bool b => .bool b
  | .number x => Json.ofFloat x
  | .text s => .str s

open Json (Mismatch) in
/-- Any JSON scalar but `null`. -/
def ofJson : Json.Decoder FieldValue
  | .bool b => .ok (.bool b)
  | .int n => .ok (.number (Binary64.ofInt n))
  | .float x => .ok (.number x)
  | .str s => .ok (.text s)
  | _ => .error (.other "data did not match any variant of untagged enum FieldValue")

end FieldValue

/-- One observation. -/
structure Point where
  /-- The metric, in parts joined by dots. -/
  name : String
  tags : Table String := []
  fields : Table FieldValue := []
  time : Timestamp
  deriving Inhabited

namespace Point

/-- Sets a tag. -/
def tag (p : Point) (key value : String) : Point :=
  { p with tags := p.tags.insert key value }

/-- Sets a field. -/
def field (p : Point) (key : String) (value : FieldValue) : Point :=
  { p with fields := p.fields.insert key value }

/-- Sets a numeric field. -/
def number (p : Point) (key : String) (value : Float) : Point :=
  p.field key (.number value)

/-- Sets every given pair as a numeric field. -/
def numbers (p : Point) (values : Table Float) : Point :=
  { p with fields := p.fields.insertAll (values.mapValues .number) }

/-- The record of a point. -/
def toJson (p : Point) : Json :=
  Json.ofMembers
    [("name", .str p.name), ("tags", Json.ofMembers (p.tags.mapValues .str)),
      ("fields", Json.ofMembers (p.fields.mapValues FieldValue.toJson)),
      ("time", .str (Rfc3339.write p.time))]

open Json Decoder in
/-- What the record of a point looks like. -/
def shape : Shape :=
  { name := "Point"
    closed := false
    fields :=
      [.mandatory "name" string, .optional "tags" (table string),
        .mandatory "fields" (table FieldValue.ofJson), .mandatory "time" timestamp] }

open Json Decoder in
/-- Reads the record of a point. -/
def ofJson : Decoder Point := fun j => do
  let r ← shape.read j
  return {
    name := ← Json.field r "name" string
    tags := ← fieldD r "tags" [] (table string)
    fields := ← Json.field r "fields" (table FieldValue.ofJson)
    time := ← Json.field r "time" timestamp }

/-- Reads a point from JSON text. -/
def ofText? (text : String) : Option Point := do
  let written ← Json.Written.read? text
  let value ← written.recordValue? (shape.fields.map fun f => (f.name, Json.Written.value?))
  (ofJson value).toOption

end Point

end Hostwatch
