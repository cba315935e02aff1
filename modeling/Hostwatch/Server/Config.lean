import Hostwatch.Store.Host
import Hostwatch.Text.Utf8
import Hostwatch.Toml.Document
import Hostwatch.Transport.Error

/-!
# Configuration

The server is configured by a TOML file: how often it looks for work, what happens to points that
cannot be written, which database takes them, and which hosts and probes there are from the start.
-/

namespace Hostwatch

/-- The database that takes the points. -/
structure InfluxConfig where
  url : String
  database : String
  deriving Repr, DecidableEq

/-- A host that is there from the start. -/
structure HostSeed where
  /-- Without an identifier one is generated. -/
  id : Option String := none
  account : String := Host.systemAccount
  name : String
  transport : PluginSpec

/-- A probe that is there from the start. -/
structure ProbeSeed where
  /-- The identifier or the name of the host. -/
  host : String := Host.localId
  agent : PluginSpec
  intervalSeconds : Nat := 10
  account : String := Host.systemAccount

/-- A configuration. -/
structure Config where
  /-- Milliseconds between two looks for work. -/
  tickMillis : Nat := 100
  /-- How often a failed write is repeated. -/
  maxRetries : Nat := 3
  /-- Milliseconds between two writes. -/
  backoffMillis : Nat := 500
  /-- Without a database points are only logged. -/
  influx : Option InfluxConfig := none
  hosts : List HostSeed := []
  probes : List ProbeSeed := []

namespace Config

/-- The milliseconds between two looks for work, of which there is at least one. -/
def tick (c : Config) : Nat :=
  max c.tickMillis 1

open Json Decoder

/-- An object of the configuration. Other members than the fields are ignored. -/
private def record (name : String) (fields : List Field) : Shape :=
  { name, fields, closed := false, openEnded := true }

mutual

/-- The value with `null` for each double that has no JSON text. -/
private def finite : Json → Json
  | .float x => Json.ofFloat x
  | .arr items => .arr (finiteItems items)
  | .obj members => .obj (finiteMembers members)
  | j => j

private def finiteItems : List Json → List Json
  | [] => []
  | item :: rest => finite item :: finiteItems rest

private def finiteMembers : List (String × Json) → List (String × Json)
  | [] => []
  | (key, value) :: rest => (key, finite value) :: finiteMembers rest

end

private def params : Decoder Json := fun j => .ok (finite j)

private def pluginSpec : Decoder PluginSpec := fun j => do
  let r ← (record "plugin" [.mandatory "type" string, .optional "params" params]).read j
  return { kind := ← field r "type" string, params := ← fieldD r "params" .null params }

private def influxConfig : Decoder InfluxConfig := fun j => do
  let r ← (record "database"
    [.mandatory "url" string, .mandatory "database" string]).read j
  return { url := ← field r "url" string, database := ← field r "database" string }

private def hostSeed : Decoder HostSeed := fun j => do
  let r ← (record "host"
    [.optional "id" (optional string), .optional "account_id" string, .mandatory "name" string,
      .mandatory "transport" pluginSpec]).read j
  return {
    id := ← fieldD r "id" none (optional string)
    account := ← fieldD r "account_id" Host.systemAccount string
    name := ← field r "name" string
    transport := ← field r "transport" pluginSpec }

private def probeSeed : Decoder ProbeSeed := fun j => do
  let r ← (record "probe"
    [.optional "host" string, .mandatory "agent" pluginSpec, .optional "interval_secs" word64,
      .optional "account_id" string]).read j
  return {
    host := ← fieldD r "host" Host.localId string
    agent := ← field r "agent" pluginSpec
    intervalSeconds := ← fieldD r "interval_secs" 10 word64
    account := ← fieldD r "account_id" Host.systemAccount string }

/-- The configuration that a table describes. -/
def ofJson : Decoder Config := fun j => do
  let r ← (record "configuration"
    [.optional "tick_millis" word64, .optional "sink_max_retries" word32,
      .optional "sink_backoff_millis" word64, .optional "influxdb" influxConfig,
      .optional "hosts" (list hostSeed), .optional "probes" (list probeSeed)]).read j
  return {
    tickMillis := ← fieldD r "tick_millis" 100 word64
    maxRetries := ← fieldD r "sink_max_retries" 3 word32
    backoffMillis := ← fieldD r "sink_backoff_millis" 500 word64
    influx := ← fieldD r "influxdb" none (fun j => (influxConfig j).map some)
    hosts := ← fieldD r "hosts" [] (list hostSeed)
    probes := ← fieldD r "probes" [] (list probeSeed) }

/-- Why a file is no configuration. -/
inductive LoadError where
  | io (e : IoError)
  /-- The text is no TOML, or not a configuration. -/
  | toml
  deriving Repr, DecidableEq

/-- The configuration that a text describes. -/
def ofText (text : String) : Except LoadError Config :=
  match Toml.read? text with
  | none => .error .toml
  | some document => (ofJson document.toJson).mapError fun _ => .toml

/-- The configuration in a file, of which the octets are given or why it cannot be read. -/
def load (file : Except IoError Octets) : Except LoadError Config :=
  match file with
  | .error e => .error (.io e)
  | .ok octets =>
    match Utf8.decodeStrict? octets with
    | none => .error (.io .notText)
    | some cs => ofText (String.ofList cs)

end Config

end Hostwatch
