import Hostwatch.Store.Plugin

/-!
# Agents at work

An agent remembers its last readings, so a probe has to come back to the same agent at every run,
whatever else is changed about the probe in between. Probes therefore hold the number of an agent,
and the agents themselves live in a fleet.
-/

namespace Hostwatch

/-- An agent of a fleet, by number. Its kind and parameters never change. -/
structure AgentRef where
  number : Nat
  spec : PluginSpec
  deriving Inhabited

instance : Plugin AgentRef := ⟨fun a => a.spec.kind, fun a => a.spec.params⟩

/-- The agents at work; the number of an agent is its place. -/
structure Fleet (β : Type) where
  agents : List β := []

namespace Fleet

variable {β : Type}

/-- Takes an agent on. -/
def enlist [Plugin β] (f : Fleet β) (agent : β) : AgentRef × Fleet β :=
  ({ number := f.agents.length, spec := Plugin.spec agent }, { agents := f.agents ++ [agent] })

/-- The agent of that number, as it is now. -/
def agent? (f : Fleet β) (a : AgentRef) : Option β :=
  f.agents[a.number]?

/-- Replaces what an agent remembers. -/
def update (f : Fleet β) (a : AgentRef) (agent : β) : Fleet β :=
  { agents := f.agents.set a.number agent }

end Fleet

end Hostwatch
