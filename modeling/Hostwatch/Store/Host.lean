import Hostwatch.Ident
import Hostwatch.Store.Plugin

/-!
# Hosts

A host is a monitored machine and the transport that reaches it. Its record is the same host with a
reference in place of the transport.
-/

namespace Hostwatch

/-- A monitored machine. -/
structure Host (τ : Type) where
  id : String
  /-- The account that the host belongs to. -/
  account : String
  name : String
  transport : τ
  deriving Inhabited

namespace Host

variable {σ τ : Type}

/-- The identifier and the name of the machine that the server runs on. -/
def localId : String := "localhost"

/-- The account of what belongs to no tenant. -/
def systemAccount : String := "system"

/-- The machine that the server runs on, reached by `transport`. -/
def localhost (transport : τ) : Host τ :=
  { id := localId, account := systemAccount, name := localId, transport }

/-- A host with a generated identifier. -/
def create (ids : IdSource) (account name : String) (transport : τ) : Host τ × IdSource :=
  let (id, ids) := ids.nextText
  ({ id, account, name, transport }, ids)

/-- The same host with another transport. -/
def withTransport (h : Host τ) (transport : σ) : Host σ :=
  { id := h.id, account := h.account, name := h.name, transport }

/-- The record of a host. -/
def toRecord [Plugin τ] (h : Host τ) : Host PluginSpec :=
  h.withTransport (Plugin.spec h.transport)

/-- The host of a record. -/
def ofRecord (registry : Registry) (r : Host PluginSpec) : Except RegistryError (Host Transport) := do
  return r.withTransport (← registry.decodeTransport r.transport.kind r.transport.params)

open Json Decoder in
/-- What the record of a host looks like. -/
def shape : Shape :=
  { name := "HostRecord"
    closed := false
    fields :=
      [.mandatory "id" string, .mandatory "account_id" string, .mandatory "name" string,
        .mandatory "transport" PluginSpec.ofJson] }

open Json Decoder in
/-- Reads a record. -/
def ofJson : Decoder (Host PluginSpec) := fun j => do
  let r ← shape.read j
  return {
    id := ← field r "id" string
    account := ← field r "account_id" string
    name := ← field r "name" string
    transport := ← field r "transport" PluginSpec.ofJson }

/-- Writes the record. -/
def toJson [Plugin τ] (h : Host τ) : Json :=
  Json.ofMembers
    [("id", .str h.id), ("account_id", .str h.account), ("name", .str h.name),
      ("transport", (Plugin.spec h.transport).toJson)]

/-- A one-line description for diagnostics. -/
def describe [Plugin τ] (h : Host τ) : String :=
  "Host \x7b id: " ++ Text.quoted h.id ++ ", account_id: " ++ Text.quoted h.account
    ++ ", name: " ++ Text.quoted h.name ++ ", transport: "
    ++ Text.quoted (Plugin.name h.transport) ++ " \x7d"

end Host

end Hostwatch
