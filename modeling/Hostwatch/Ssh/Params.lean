import Hostwatch.Json.Schema
import Hostwatch.Measure.Doc

/-!
# Parameters of a remote host

Where a host is reached over a secure shell, and as whom.
-/

namespace Hostwatch.Ssh

structure Params where
  host : String := ""
  port : Nat := 22
  username : String := ""
  /-- The path of a private key. Without one the password is used, and without that the agent that
  holds the user's keys. -/
  privateKey : Option String := none
  password : Option String := none
  deriving Repr, DecidableEq

namespace Params

open Json Decoder in
/-- Members that are not known are ignored. -/
def shape : Shape :=
  { name := "SshParams"
    closed := false
    fields :=
      [.mandatory "host" string, .optional "port" word16, .mandatory "username" string,
        .optional "private_key" (optional string), .optional "password" (optional string)] }

open Json Decoder in
def ofJson : Decoder Params := fun j => do
  let r ← shape.read j
  return {
    host := ← field r "host" string
    port := ← fieldD r "port" 22 word16
    username := ← field r "username" string
    privateKey := ← fieldD r "private_key" none (optional string)
    password := ← fieldD r "password" none (optional string) }

def toJson (p : Params) : Json :=
  let text (name : String) (value : Option String) := value.toList.map fun v => (name, Json.str v)
  Json.ofMembers ([("host", .str p.host), ("port", .int p.port), ("username", .str p.username)]
    ++ text "private_key" p.privateKey ++ text "password" p.password)

end Params

end Hostwatch.Ssh
