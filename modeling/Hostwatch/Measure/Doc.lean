import Hostwatch.Json.Schema
import Hostwatch.Json.Written

/-!
# Descriptions of agents and transports

What an operator is shown about an agent or a transport: a summary, its parameters and the metrics
that it emits.
-/

namespace Hostwatch

/-- One parameter. -/
structure ParamDoc where
  name : String
  /-- The kind of value, as shown to operators. -/
  kind : String
  description : String
  default? : Option String := none
  deriving Repr, DecidableEq

/-- What an agent or a transport does. -/
structure Doc where
  summary : String
  params : List ParamDoc := []
  /-- Metrics and what they say. -/
  metrics : List (String × String) := []
  deriving Repr, DecidableEq

namespace ParamDoc

open Json Decoder in
def shape : Shape :=
  { name := "ParamDoc"
    closed := false
    fields :=
      [.mandatory "name" string, .mandatory "kind" string, .mandatory "description" string,
        .optional "default" (optional string)] }

open Json Decoder in
def ofJson : Decoder ParamDoc := fun j => do
  let r ← shape.read j
  return {
    name := ← field r "name" string
    kind := ← field r "kind" string
    description := ← field r "description" string
    default? := ← fieldD r "default" none (optional string) }

def toJson (p : ParamDoc) : Json :=
  Json.ofMembers <|
    [("name", .str p.name), ("kind", .str p.kind), ("description", .str p.description)]
      ++ (match p.default? with | some d => [("default", .str d)] | none => [])

end ParamDoc

namespace Doc

/-- Adds a parameter, with the text of its default if it has one. -/
def param (d : Doc) (name kind description : String) (default? : Option String := none) : Doc :=
  { d with params := d.params ++ [⟨name, kind, description, default?⟩] }

/-- Adds a metric. -/
def metric (d : Doc) (name description : String) : Doc :=
  { d with metrics := d.metrics ++ [(name, description)] }

open Json Decoder in
private def pair : Decoder (String × String)
  | .arr [a, b] => do return (← string a, ← string b)
  | j => .error (.invalidType j.describe "a tuple of size 2")

open Json Decoder in
def shape : Shape :=
  { name := "Doc"
    closed := false
    fields :=
      [.mandatory "summary" string, .optional "params" (list ParamDoc.ofJson),
        .optional "metrics" (list pair)] }

open Json Decoder in
def ofJson : Decoder Doc := fun j => do
  let r ← shape.read j
  return {
    summary := ← field r "summary" string
    params := ← fieldD r "params" [] (list ParamDoc.ofJson)
    metrics := ← fieldD r "metrics" [] (list pair) }

def toJson (d : Doc) : Json :=
  Json.ofMembers
    [("summary", .str d.summary), ("params", .arr (d.params.map ParamDoc.toJson)),
      ("metrics", .arr (d.metrics.map fun (name, text) => .arr [.str name, .str text]))]

open Json (Written) in
/-- Reads a description from JSON text. -/
def ofText? (text : String) : Option Doc := do
  let param := Written.recordValue? (ParamDoc.shape.fields.map fun f => (f.name, Written.value?))
  let value ← (← Written.read? text).recordValue?
    [("summary", Written.value?), ("params", Written.listValue? param), ("metrics", Written.value?)]
  (ofJson value).toOption

end Doc

end Hostwatch
