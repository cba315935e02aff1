import Hostwatch.Store.Host

/-!
# Probes

A probe is an agent bound to a host, to be run once per interval. The store keeps with it when it
last ran, when it runs next and what the last run found. Its record has a reference in place of the
agent.
-/

namespace Hostwatch

/-- An agent bound to a host. -/
structure Probe (α : Type) where
  id : String
  /-- The account that the probe belongs to. -/
  account : String
  hostId : String
  agent : α
  interval : Span
  lastCheck : Option Timestamp := none
  /-- When the probe is to run next; nothing if that is not decided yet. -/
  nextCheck : Option Timestamp := none
  /-- What the last run found; nothing if it failed. -/
  lastPoints : Option (List Point) := none
  deriving Inhabited

namespace Probe

variable {α β : Type}

/-- A probe with a generated identifier, which never ran. -/
def create (ids : IdSource) (account hostId : String) (agent : α) (interval : Span) :
    Probe α × IdSource :=
  let (id, ids) := ids.nextText
  ({ id, account, hostId, agent, interval }, ids)

/-- The same probe with another agent. -/
def withAgent (p : Probe α) (agent : β) : Probe β :=
  { id := p.id, account := p.account, hostId := p.hostId, agent, interval := p.interval
    lastCheck := p.lastCheck, nextCheck := p.nextCheck, lastPoints := p.lastPoints }

/-- The interval as a record has it: whole milliseconds, and none below zero. -/
def intervalMillis (p : Probe α) : Nat :=
  p.interval.millis.toNat

/-- The interval of a record. What a signed 64-bit word cannot count is cut. -/
def intervalOfMillis (millis : Nat) : Span :=
  .ofMillis (min millis Span.wordMax)

/-- The record of a probe. -/
def toRecord [Plugin α] (p : Probe α) : Probe PluginSpec :=
  { p.withAgent (Plugin.spec p.agent) with interval := intervalOfMillis p.intervalMillis }

/-- The probe of a record, with a fresh agent. -/
def ofRecord (registry : Registry) (r : Probe PluginSpec) : Except RegistryError (Probe Agent) := do
  return r.withAgent (← registry.decodeAgent r.agent.kind r.agent.params)

open Json Decoder in
/-- What the record of a probe looks like. -/
def shape : Shape :=
  { name := "ProbeRecord"
    closed := false
    fields :=
      [.mandatory "id" string, .mandatory "account_id" string, .mandatory "host_id" string,
        .mandatory "agent" PluginSpec.ofJson, .mandatory "interval_millis" word64,
        .optional "last_check" (optional timestamp), .optional "next_check" (optional timestamp),
        .optional "last_points" (optional (list Point.ofJson))] }

open Json Decoder in
/-- Reads a record. -/
def ofJson : Decoder (Probe PluginSpec) := fun j => do
  let r ← shape.read j
  return {
    id := ← field r "id" string
    account := ← field r "account_id" string
    hostId := ← field r "host_id" string
    agent := ← field r "agent" PluginSpec.ofJson
    interval := intervalOfMillis (← field r "interval_millis" word64)
    lastCheck := ← fieldD r "last_check" none (optional timestamp)
    nextCheck := ← fieldD r "next_check" none (optional timestamp)
    lastPoints := ← fieldD r "last_points" none (optional (list Point.ofJson)) }

/-- Writes the record. What is not there is left out. -/
def toJson [Plugin α] (p : Probe α) : Json :=
  let time (name : String) (t : Option Timestamp) :=
    t.toList.map fun t => (name, Json.str (Rfc3339.write t))
  Json.ofMembers
    ([("id", .str p.id), ("account_id", .str p.account), ("host_id", .str p.hostId),
        ("agent", (Plugin.spec p.agent).toJson), ("interval_millis", .int p.intervalMillis)]
      ++ time "last_check" p.lastCheck ++ time "next_check" p.nextCheck
      ++ p.lastPoints.toList.map fun points => ("last_points", .arr (points.map Point.toJson)))

/-- A one-line description for diagnostics. The agent of a probe that is running cannot be asked
for its name. -/
def describe [Plugin α] (p : Probe α) (running : Bool) : String :=
  let agent := if running then "<busy>" else Plugin.name p.agent
  let time (t : Option Timestamp) := match t with
    | some t => "Some(" ++ Rfc3339.write t ++ ")"
    | none => "None"
  "Probe \x7b id: " ++ Text.quoted p.id ++ ", account_id: " ++ Text.quoted p.account
    ++ ", host_id: " ++ Text.quoted p.hostId ++ ", agent: " ++ Text.quoted agent
    ++ ", interval: TimeDelta \x7b secs: " ++ Number.intText (p.interval.nanos / 1000000000)
    ++ ", nanos: " ++ Number.intText (p.interval.nanos % 1000000000)
    ++ " \x7d, last_check: " ++ time p.lastCheck ++ ", next_check: " ++ time p.nextCheck ++ " \x7d"

end Probe

end Hostwatch
