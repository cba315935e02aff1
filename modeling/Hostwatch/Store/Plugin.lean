import Hostwatch.Registry

/-!
# Kinds and parameters

Configurations and records do not hold agents and transports but refer to them by kind and
parameters. A `PluginSpec` is such a reference, and whatever has a name and parameters can be
referred to.
-/

namespace Hostwatch

/-- A reference to an agent or a transport. -/
structure PluginSpec where
  kind : String
  params : Json := .null
  deriving Inhabited

namespace PluginSpec

open Json Decoder in
def shape : Shape :=
  { name := "PluginSpec"
    closed := false
    fields := [.mandatory "type" string, .optional "params" any] }

open Json Decoder in
def ofJson : Decoder PluginSpec := fun j => do
  let r ← shape.read j
  return { kind := ← field r "type" string, params := ← fieldD r "params" .null any }

def toJson (s : PluginSpec) : Json :=
  Json.ofMembers [("type", .str s.kind), ("params", s.params)]

end PluginSpec

/-- What a record can refer to. -/
class Plugin (α : Type) where
  name : α → String
  params : α → Json

namespace Plugin

/-- The reference to a plugin. -/
def spec {α : Type} [Plugin α] (a : α) : PluginSpec :=
  { kind := name a, params := params a }

instance : Plugin PluginSpec := ⟨PluginSpec.kind, PluginSpec.params⟩
instance : Plugin Agent := ⟨Agent.name, Agent.params⟩
instance : Plugin Transport := ⟨Transport.name, Transport.params⟩

end Plugin

end Hostwatch
