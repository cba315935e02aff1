import Hostwatch.Number.Word
import Hostwatch.Measure.Point

/-!
# Line protocol

The text in which a time-series database takes points, one line each: measurement and tags, fields,
and the time in nanoseconds. Points without fields and tags without a value are left out.
-/

namespace Hostwatch.LineProtocol

/-- Puts a backslash before every character of a set. -/
def escape (special : List Char) (s : String) : List Char :=
  s.toList.flatMap fun c => if special.contains c then ['\\', c] else [c]

/-- The measurement of a line. -/
def measurement (s : String) : List Char :=
  escape [',', ' '] s

/-- A key or the value of a tag. -/
def key (s : String) : List Char :=
  escape [',', '=', ' '] s

/-- The value of a field. -/
def value : FieldValue → List Char
  | .bool b => (if b then "true" else "false").toList
  | .number x => (Number.plain x).toList
  | .text s => '"' :: escape ['\\', '"'] s ++ ['"']

/-- The tags of a line, each after a comma. -/
def tags (tags : Table String) : List Char :=
  (tags.filter fun (_, v) => v != "").flatMap fun (k, v) => ',' :: key k ++ '=' :: key v

/-- The fields of a line, separated by commas. -/
def fields (fields : Table FieldValue) : List Char :=
  [','].intercalate (fields.map fun (k, v) => key k ++ '=' :: value v)

/-- The time of a line after a space, unless a signed 64-bit word is too short for it. -/
def time (t : Timestamp) : List Char :=
  let n := t.toNanos
  if Word.fits n then ' ' :: (Number.intText n).toList else []

/-- The line of a point with fields. -/
def line (p : Point) : List Char :=
  measurement p.name ++ tags p.tags ++ ' ' :: fields p.fields ++ time p.time ++ ['\n']

/-- The lines of a batch. -/
def render (points : List Point) : String :=
  String.ofList ((points.filter fun p => !p.fields.isEmpty).flatMap line)

end Hostwatch.LineProtocol
