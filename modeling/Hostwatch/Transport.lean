import Hostwatch.Ssh.Params
import Hostwatch.Transport.Error

/-!
# Transports

A host is reached in one of two ways: it is the machine itself, or it is reached over a secure
shell.
-/

namespace Hostwatch

/-- A way to reach a host. -/
inductive Transport where
  | thisMachine
  | shell (params : Ssh.Params)
  deriving Repr, DecidableEq

namespace Transport

/-- One transport of each kind, with its default parameters. -/
def fresh : List Transport :=
  [.thisMachine, .shell {}]

/-- The name under which configurations refer to the kind of transport. -/
def name : Transport → String
  | .thisMachine => "local"
  | .shell _ => "ssh"

/-- The current parameters as a JSON value; an empty object if there are none. -/
def params : Transport → Json
  | .thisMachine => .obj []
  | .shell p => p.toJson

/-- The transport with new parameters. -/
def configure (t : Transport) (j : Json) : Except TransportError Transport :=
  match t, j with
  | .thisMachine, .null => .ok t
  | .thisMachine, .obj _ => .ok t
  | .thisMachine, j =>
    .error (.invalidParams (.other ("local transport takes no parameters, got " ++ j.compact)))
  | .shell _, j => ((Ssh.Params.ofJson j).map .shell).mapError .invalidParams

/-- What the transport is for. -/
def doc : Transport → Doc
  | .thisMachine => { summary := "Runs probes directly on the machine hosting the scheduler." }
  | .shell _ =>
    ({ summary := "Runs probes on a remote host over a pooled SSH connection." } : Doc)
      |>.param "host" "string" "Remote host name or address"
      |>.param "port" "integer" "SSH port" (some "22")
      |>.param "username" "string" "Login user"
      |>.param "private_key" "string" "Path to a private key file"
      |>.param "password" "string" "Password, used when no key is given"

end Transport

end Hostwatch
