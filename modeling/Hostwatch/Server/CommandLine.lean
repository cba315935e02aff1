import Hostwatch.Scheduler.Start
import Hostwatch.Server.Seed

/-!
# The command line

The server is started with the path of its configuration, and can be asked which agents there are.
What it does before its first look for work needs nothing from outside but the configuration, and is
decided here: it either ends at once, or has all that it needs to run.
-/

namespace Hostwatch.CommandLine

/-- What the server is asked to do. -/
inductive Request where
  | help
  | listAgents
  /-- Run with the configuration at a path. -/
  | serve (path : String)
  deriving Repr, DecidableEq

/-- The configuration that is used if none is named. -/
def defaultPath : String := "config/server.toml"

/-- What the arguments ask for. Only the first one counts. -/
def Request.ofArgs : List String → Request
  | [] => .serve defaultPath
  | "-h" :: _ | "--help" :: _ => .help
  | "agents" :: _ => .listAgents
  | path :: _ => .serve path

/-- The end of a program: its status and what it printed. -/
structure Exit where
  status : Nat := 0
  output : String := ""
  errors : String := ""
  deriving Repr, DecidableEq

def usage : String :=
  "Usage:\n"
    ++ "  oxprobe-server [config.toml]     Start the scheduler (default: config/server.toml)\n"
    ++ "  oxprobe-server agents            List registered agents and their parameters\n"

/-- A parameter as a line of the list of agents. -/
def parameterLine (p : ParamDoc) : String :=
  let kind := match p.default? with
    | some default => p.kind ++ ", default " ++ default
    | none => p.kind
  "    " ++ p.name ++ " (" ++ kind ++ "): " ++ p.description ++ "\n"

/-- An agent and its parameters as lines of the list of agents. -/
def agentLines (name : String) (doc : Doc) : String :=
  name ++ ": " ++ doc.summary ++ "\n" ++ String.join (doc.params.map parameterLine)

/-- The list of the agents in a registry. -/
def agentList (r : Registry) : String :=
  String.join (r.agents.map fun (name, agent) => agentLines name agent.doc)

/-- All that a server needs to run. -/
structure Ready where
  config : Config
  link : Link AgentRef Transport
  fleet : Fleet Agent

/-- Prepares a server: the host that stands for the machine, and what the configuration asks for. -/
def prepare (r : Registry) (config : Config) (ids : IdSource) : Except StartFailure Ready := do
  let link : Link AgentRef Transport := {}
  let (present, link) := link.ensureLocalhost r id
  present
  let (seeded, s) := ({ store := link.store, fleet := {}, ids } : Seeding).apply r config
  let _ ← seeded
  return { config, link := { link with store := s.store }, fleet := s.fleet }

/-- The end of a server that could not be started. -/
def failed (f : StartFailure) : Exit :=
  { status := 1, errors := f.report ++ "\n" }

/-- The end of a server whose configuration cannot be had. -/
def unconfigured (path : String) (e : Config.LoadError) : Exit :=
  let f : StartFailure := { context := ["loading " ++ path], cause := .config e }
  { status := 1, errors := usage ++ f.report ++ "\n" }

/-- Follows a request up to the first look for work. `read` reads a file. -/
def start (r : Registry) (ids : IdSource) (read : String → Except IoError Octets) :
    Request → Except Exit Ready
  | .help => .error { errors := usage }
  | .listAgents => .error { output := agentList r }
  | .serve path => do
    let config ← (Config.load (read path)).mapError (unconfigured path)
    (prepare r config ids).mapError failed

end Hostwatch.CommandLine
