import Hostwatch.Ssh.Params
import Hostwatch.Text.Utf8
import Hostwatch.Transport.Error

/-!
# What a session is asked

The secure shell itself is left to a library, and this is what that library is asked: to connect, to
open channels on a session, to run a line on a channel and to read what came of it. A `Wire` is
anything that answers these calls, be it the real thing or a script.
-/

namespace Hostwatch.Ssh

/-- A session to a host, known by a number. -/
structure Session where
  number : Nat
  deriving Repr, DecidableEq, Inhabited

/-- A channel of a session. -/
structure Channel where
  session : Session
  number : Nat
  deriving Repr, DecidableEq, Inhabited

/-- What a user proves to be himself with. -/
inductive Credential where
  /-- A private key in a file. -/
  | key (path : String)
  | password (password : String)
  /-- The keys that an agent of the user holds. -/
  | agent
  deriving Repr, DecidableEq

/-- A key counts before a password, and a password before the agent. -/
def Params.credential (p : Params) : Credential :=
  match p.privateKey, p.password with
  | some path, _ => .key path
  | none, some password => .password password
  | none, none => .agent

/-- A call of the secure shell library. -/
inductive Call where
  /-- Connect to a port of the first address that a name stands for, without any session yet. Says
  whether it stands for any. -/
  | connect (host : String) (port : Nat)
  /-- Make a session over the connection. -/
  | create
  /-- Let each further call give up after some milliseconds. -/
  | limit (session : Session) (millis : Nat)
  | handshake (session : Session)
  /-- Send a sign of life every so many seconds, and perhaps want an answer to it. -/
  | keepAlive (session : Session) (wantReply : Bool) (seconds : Nat)
  | authenticate (session : Session) (username : String) (credential : Credential)
  | isAuthenticated (session : Session)
  | disconnect (session : Session)
  /-- Open a channel to run a line on. -/
  | openChannel (session : Session)
  /-- Open a channel to a port that the host connects to. -/
  | openDirect (session : Session) (host : String) (port : Nat)
  | exec (channel : Channel) (line : String)
  /-- Read the output up to its end. -/
  | output (channel : Channel)
  /-- Read the error output up to its end. -/
  | errorOutput (channel : Channel)
  | awaitEnd (channel : Channel)
  | exitStatus (channel : Channel)
  | send (channel : Channel) (data : Octets)
  /-- The monotonic clock, in nanoseconds. -/
  | uptime
  deriving Repr, DecidableEq

/-- What a call is answered with. -/
def Call.Reply : Call → Type
  | .connect .. => Except IoError Bool
  | .create => Except ShellError Session
  | .limit .. | .keepAlive .. | .disconnect _ => Unit
  | .handshake _ | .authenticate .. | .exec .. | .awaitEnd _ => Except ShellError Unit
  | .isAuthenticated _ => Bool
  | .openChannel _ | .openDirect .. => Except ShellError Channel
  | .output _ | .errorOutput _ => Except IoError Octets
  | .send .. => Except IoError Unit
  | .exitStatus _ => Except ShellError Int
  | .uptime => Nat

/-- Answers the calls; each may move the state of the world. -/
abbrev Wire (σ : Type) := σ → (call : Call) → call.Reply × σ

/-- A command and its arguments as one line for a shell. Nothing is quoted, so an argument with
blanks or other special characters is whatever the shell makes of it. -/
def shellLine (command : String) (args : List String) : String :=
  " ".intercalate (command :: args)

end Hostwatch.Ssh
