import Hostwatch.Agent
import Hostwatch.Transport

/-!
# The registry

The registry says which agents and transports there are, by name. What it hands out under a name is
always the same fresh instance, so instances do not share anything.
-/

namespace Hostwatch

/-- The two kinds of things that a registry holds. -/
inductive PluginKind where
  | agent
  | transport
  deriving Repr, DecidableEq

def PluginKind.text : PluginKind → String
  | .agent => "agent"
  | .transport => "transport"

/-- Why a registry could not make something. -/
inductive RegistryError where
  | notFound (kind : PluginKind) (name : String)
  | invalidParams (kind : PluginKind) (name reason : String)
  deriving Repr, DecidableEq

namespace RegistryError

def message : RegistryError → String
  | .notFound kind name => "Registry: unknown " ++ kind.text ++ " '" ++ name ++ "'"
  | .invalidParams kind name reason =>
    "Registry: invalid parameters for " ++ kind.text ++ " '" ++ name ++ "': " ++ reason

/-- The word by which reports classify the error. -/
def kind : RegistryError → String
  | .notFound .. => "RegistryNotFound"
  | .invalidParams .. => "RegistryInvalidParams"

end RegistryError

/-- The agents and transports by name. -/
structure Registry where
  agents : Table Agent := []
  transports : Table Transport := []

namespace Registry

/-- The registry of all agents and transports that there are. -/
def defaults : Registry :=
  { agents := Table.ofList (Agent.fresh.map fun a => (a.name, a))
    transports := Table.ofList (Transport.fresh.map fun t => (t.name, t)) }

def agentNames (r : Registry) : List String := r.agents.keys

def transportNames (r : Registry) : List String := r.transports.keys

/-- A fresh agent. -/
def agent (r : Registry) (name : String) : Except RegistryError Agent :=
  match r.agents.get? name with
  | some a => .ok a
  | none => .error (.notFound .agent name)

/-- A fresh transport. -/
def transport (r : Registry) (name : String) : Except RegistryError Transport :=
  match r.transports.get? name with
  | some t => .ok t
  | none => .error (.notFound .transport name)

/-- A fresh agent with parameters. -/
def decodeAgent (r : Registry) (name : String) (params : Json) : Except RegistryError Agent := do
  let a ← r.agent name
  (a.configure params).mapError fun e => .invalidParams .agent name e.message

/-- A fresh transport with parameters. -/
def decodeTransport (r : Registry) (name : String) (params : Json) :
    Except RegistryError Transport := do
  let t ← r.transport name
  (t.configure params).mapError fun e => .invalidParams .transport name e.message

/-- Enters an agent under a name. The name is free exactly if `agents` has no entry for it; one that
is there is replaced. -/
def registerAgent (r : Registry) (name : String) (a : Agent) : Registry :=
  { r with agents := r.agents.insert name a }

/-- Enters a transport under a name; one that is there is replaced. -/
def registerTransport (r : Registry) (name : String) (t : Transport) : Registry :=
  { r with transports := r.transports.insert name t }

end Registry

end Hostwatch
