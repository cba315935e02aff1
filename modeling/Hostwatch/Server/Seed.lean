import Hostwatch.Scheduler.Fleet
import Hostwatch.Server.Failure
import Hostwatch.Store.Basic

/-!
# Seeding the store

At the start the hosts and the probes of the configuration are put into the store, in the order of
the configuration. A host whose identifier is taken already is left alone. A probe names its host
by identifier or by name, and an identifier counts before a name. The first failure ends the
seeding, and what was stored up to then stays.
-/

namespace Hostwatch

/-- How many hosts and probes were stored. -/
structure SeedSummary where
  hosts : Nat := 0
  probes : Nat := 0
  deriving Repr, DecidableEq

/-- What seeding changes. -/
structure Seeding where
  store : Store AgentRef Transport
  fleet : Fleet Agent
  ids : IdSource
  summary : SeedSummary := {}

namespace Seeding

/-- A step of seeding, which may fail. -/
abbrev Step := ExceptT StartFailure (StateM Seeding)

def orFail {ε α : Type} (f : ε → StartFailure) : Except ε α → Step α
  | .ok a => pure a
  | .error e => throw (f e)

def storeFailure (e : StoreError) : StartFailure := { cause := .store e }

/-- The given identifier, or a generated one. -/
def identifier : Option String → Step String
  | some id => pure id
  | none => do
    let s ← get
    let (id, ids) := s.ids.nextText
    set { s with ids }
    return id

/-- Stores a host of the configuration unless its identifier is taken. -/
def addHost (registry : Registry) (seed : HostSeed) : Step Unit := do
  let id ← identifier seed.id
  let record : Host PluginSpec :=
    { id, account := seed.account, name := seed.name, transport := seed.transport }
  let host ← orFail (fun e =>
      { context := ["host '" ++ seed.name ++ "'"], cause := .store (.registry e) })
    (Host.ofRecord registry record)
  let s ← get
  match s.store.addHost .system host with
  | .ok r => set { s with store := r.store, summary.hosts := s.summary.hosts + 1 }
  | .error (.alreadyExists ..) => pure ()
  | .error e => throw (storeFailure e)

/-- The host that a probe names: by identifier, else by name. -/
def hostOf? (hosts : List (Host Transport)) (name : String) : Option (Host Transport) :=
  (hosts.find? (·.id == name)).or (hosts.find? (·.name == name))

/-- The interval of a probe. -/
def interval? (seconds : Nat) : Option Span :=
  Span.ofSeconds? (min seconds Span.wordMax)

/-- Stores a probe of the configuration, bound to one of the hosts. -/
def addProbe (registry : Registry) (hosts : List (Host Transport)) (seed : ProbeSeed) :
    Step Unit := do
  let kind := seed.agent.kind
  let named := "probe '" ++ kind ++ "' on '" ++ seed.host ++ "'"
  let some host := hostOf? hosts seed.host
    | throw { cause := .other ("probe '" ++ kind ++ "' refers to unknown host '" ++ seed.host ++ "'") }
  if seed.intervalSeconds == 0 then
    throw { cause := .other (named ++ " has a zero interval") }
  let agent ← orFail (fun e => { context := [named], cause := .registry e })
    (registry.decodeAgent kind seed.agent.params)
  let some interval := interval? seed.intervalSeconds
    | throw { cause := .intervalTooLong }
  let s ← get
  let (ref, fleet) := s.fleet.enlist agent
  let (probe, ids) := Probe.create s.ids seed.account host.id ref interval
  set { s with fleet, ids }
  match s.store.addProbe .system probe with
  | .ok r =>
    set { s with store := r.store, fleet, ids, summary.probes := s.summary.probes + 1 }
  | .error e => throw (storeFailure e)

/-- Stores all hosts and then all probes. -/
def addAll (registry : Registry) (config : Config) : Step Unit := do
  config.hosts.forM (addHost registry)
  let hosts := (← get).store.listHosts .system .all
  config.probes.forM (addProbe registry hosts)

/-- Seeds with a configuration: the summary or the failure, and what has become of the store. -/
def apply (s : Seeding) (registry : Registry) (config : Config) :
    Except StartFailure SeedSummary × Seeding :=
  let (result, s) := (addAll registry config).run.run { s with summary := {} }
  (result.map fun _ => s.summary, s)

end Seeding

end Hostwatch
