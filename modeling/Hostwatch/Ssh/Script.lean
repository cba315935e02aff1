import Hostwatch.Ssh.Call

/-!
# A scripted secure shell

A world in which it is written down beforehand what becomes of each session and of each channel. It
answers the calls of the secure shell without any network and notes what it was asked.
-/

namespace Hostwatch.Ssh.Script

/-- What becomes of a channel. -/
structure ChannelPlan where
  openError? : Option ShellError := none
  execError? : Option ShellError := none
  output : Octets := []
  /-- An error after the output. -/
  readError? : Option IoError := none
  errorOutput : Octets := []
  endError? : Option ShellError := none
  statusError? : Option ShellError := none
  status : Int := 0
  deriving Inhabited

/-- What becomes of a session. -/
structure SessionPlan where
  createError? : Option ShellError := none
  handshakeError? : Option ShellError := none
  authError? : Option ShellError := none
  /-- Whether the user is authenticated in the end. -/
  authenticated : Bool := true
  /-- The channels to come; after them all channels succeed and yield nothing. -/
  channels : List ChannelPlan := []
  deriving Inhabited

/-- The world and what was asked of it. -/
structure World where
  /-- The sessions to come; after them all sessions succeed. -/
  plans : List SessionPlan := []
  /-- The ports on which nobody answers. -/
  closedPorts : List Nat := []
  /-- The sessions so far. -/
  sessions : List SessionPlan := []
  /-- The channels so far. -/
  channels : List ChannelPlan := []
  /-- What was asked, the latest first. -/
  calls : List Call := []

namespace World

private def orError {α : Type} (a : α) : Option ShellError → Except ShellError α
  | some e => .error e
  | none => .ok a

private def session (w : World) (s : Session) : SessionPlan :=
  w.sessions.getD (s.number - 1) {}

private def channel (w : World) (c : Channel) : ChannelPlan :=
  w.channels.getD c.number {}

/-- Starts the next session. A session that cannot be made has a number as well. -/
private def create (w : World) : Except ShellError Session × World :=
  let plan := w.plans.headD {}
  (orError ⟨w.sessions.length + 1⟩ plan.createError?,
    { w with plans := w.plans.tail, sessions := w.sessions ++ [plan] })

/-- Starts the next channel of a session. -/
private def openChannel (w : World) (s : Session) : Except ShellError Channel × World :=
  let plan := (w.session s).channels.headD {}
  (orError ⟨s, w.channels.length⟩ plan.openError?,
    { w with
      channels := w.channels ++ [plan]
      sessions := w.sessions.modify (s.number - 1) fun p => { p with channels := p.channels.tail } })

/-- Takes the output of a channel. -/
private def output (w : World) (c : Channel) : Except IoError Octets × World :=
  let plan := w.channel c
  let w := { w with channels := w.channels.modify c.number fun p => { p with output := [] } }
  match plan.readError? with
  | some e => (.error e, w)
  | none => (.ok plan.output, w)

/-- Answers a call. -/
def answer (w : World) (c : Call) : c.Reply × World :=
  let w := { w with calls := c :: w.calls }
  match c with
  | .connect _ port =>
    (if w.closedPorts.contains port then .error .connectionRefused else .ok true, w)
  | .create => w.create
  | .limit .. | .keepAlive .. | .disconnect _ => ((), w)
  | .handshake s => (orError () (w.session s).handshakeError?, w)
  | .authenticate s .. => (orError () (w.session s).authError?, w)
  | .isAuthenticated s => ((w.session s).authenticated, w)
  | .openChannel s | .openDirect s .. => w.openChannel s
  | .exec c _ => (orError () (w.channel c).execError?, w)
  | .output c => w.output c
  | .errorOutput c => (.ok (w.channel c).errorOutput, w)
  | .awaitEnd c => (orError () (w.channel c).endError?, w)
  | .exitStatus c => (orError (w.channel c).status (w.channel c).statusError?, w)
  | .send .. => (.ok (), w)
  | .uptime => ((0 : Nat), w)

end World

/-- The line that a log has for a call, if it has one. -/
def logLine? (c : Call) : Option String :=
  let line (s : Session) (words : List String) :=
    some (" ".intercalate (("s" ++ Number.natText s.number) :: words))
  match c with
  | .limit s millis => line s ["timeout", Number.natText millis]
  | .handshake s => line s ["handshake"]
  | .keepAlive s wantReply seconds =>
    line s ["keepalive", if wantReply then "true" else "false", Number.natText seconds]
  | .authenticate s user (.key path) => line s ["auth key", user, path]
  | .authenticate s user (.password password) => line s ["auth password", user, password]
  | .authenticate s user .agent => line s ["auth agent", user]
  | .disconnect s => line s ["disconnect idle"]
  | .openChannel s => line s ["channel"]
  | .openDirect s host port => line s ["direct-tcpip", host, Number.natText port]
  | .exec c text => line c.session ["exec", text]
  | .send c data => line c.session ["write", String.ofList (Utf8.decode data)]
  | .connect .. | .create | .isAuthenticated _ | .output _ | .errorOutput _ | .awaitEnd _
  | .exitStatus _ | .uptime => none

end Hostwatch.Ssh.Script
