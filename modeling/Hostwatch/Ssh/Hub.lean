import Hostwatch.Ssh.Call
import Hostwatch.Ssh.Pool
import Hostwatch.Table
import Hostwatch.Transport.Address
import Hostwatch.Transport.FsUsage
import Hostwatch.Transport.Printed

/-!
# Hosts behind a secure shell

All hosts that are reached over a secure shell share one pool of sessions. Files are read by running
`cat` on the host and file systems looked at by running `stat`, so each question to a host is a line
that is run on a channel of its own.

Each question takes a lease on the session and gives it back, whatever comes of the question; only a
connection that was dialed through the host keeps its lease until it is closed. If a question shows
the session to be broken, the session is taken out of the pool and closed: the next question to the
host connects anew.
-/

namespace Hostwatch.Ssh

/-- All sessions, the connections that go through them, and the world that they lead to. -/
structure Hub (σ : Type) where
  wire : Wire σ
  world : σ
  pool : Pool Session := {}
  /-- The dialed connections, by names that their users give them. -/
  connections : Table (Pooled Channel Session) := []

/-- A course of calls, which may fail and may change the hub. -/
abbrev Task (σ : Type) := ExceptT TransportError (StateM (Hub σ))

namespace Hub

variable {σ α : Type}

/-- How long a call may take, in milliseconds. -/
def callLimit : Nat := 30000

/-- Seconds between two signs of life. -/
def keepAliveInterval : Nat := 15

/-! ### Calls -/

/-- Changes the hub. -/
def step (f : Hub σ → α × Hub σ) : Task σ α :=
  ExceptT.lift f

def call (c : Call) : Task σ c.Reply :=
  step fun h =>
    let (reply, world) := h.wire h.world c
    (reply, { h with world })

def uptime : Task σ Nat :=
  call .uptime

/-- A failure of the secure shell ends the task. -/
def orShell (result : Except ShellError α) : Task σ α :=
  ExceptT.mk (pure (result.mapError .shell))

/-- A failure to read or write ends the task. -/
def orIo (result : Except IoError α) : Task σ α :=
  ExceptT.mk (pure (result.mapError .io))

/-- What comes of a task, be it a failure. -/
def outcome (t : Task σ α) : Task σ (Except TransportError α) :=
  ExceptT.lift t.run

/-- Changes the pool. -/
def onPool (f : Pool Session → α × Pool Session) : Task σ α :=
  step fun h =>
    let (a, pool) := f h.pool
    (a, { h with pool })

/-- Closes sessions that the pool gave away. -/
def disconnectAll : List Session → Task σ Unit
  | [] => pure ()
  | session :: rest => do
    call (.disconnect session)
    disconnectAll rest

/-! ### Sessions -/

/-- Connects to a host. -/
def connect (p : Params) : Task σ Session := do
  let found : Bool ← orIo (← call (.connect p.host p.port))
  if !found then throw (.invalidAddress (p.host ++ ":" ++ Number.natText p.port))
  let session ← orShell (← call .create)
  call (.limit session callLimit)
  orShell (← call (.handshake session))
  call (.keepAlive session true keepAliveInterval)
  orShell (← call (.authenticate session p.username p.credential))
  let authenticated : Bool ← call (.isAuthenticated session)
  if authenticated then return session
  throw (.authFailed p.username p.host)

/-- Takes a lease on the session to a host, and connects if there is none. -/
def acquire (p : Params) : Task σ (Lease Session) := do
  let now ← uptime
  let found ← onPool fun pool =>
    match pool.reuse? p.key now with
    | some (lease, pool) => (some lease, pool)
    | none => (none, pool)
  match found with
  | some lease => return lease
  | none =>
    let fresh ← connect p
    let now ← uptime
    let (lease, surplus) ← onPool fun pool =>
      let (lease, surplus, pool) := pool.store p.key fresh now
      ((lease, surplus), pool)
    disconnectAll surplus.toList
    return lease

/-- Gives a lease back. -/
def giveBack (lease : Lease Session) : Task σ Unit := do
  let now ← uptime
  let _ ← onPool fun pool => pool.release lease now

/-- Closes the session of a lease, unless that has happened already. -/
def invalidate (lease : Lease Session) : Task σ Unit := do
  let broken ← onPool fun pool => pool.evict lease
  disconnectAll broken.toList

/-- Closes the sessions that have been idle for too long at some time, and says how many. -/
def sweep (now : Nat) : Task σ Nat := do
  let idle ← onPool fun pool => pool.sweep now
  disconnectAll idle
  return idle.length

/-! ### Questions -/

/-- Runs a line on a new channel of a session. A status other than zero is a failure. -/
def runOn (session : Session) (line : String) : Task σ Printed := do
  let channel ← orShell (← call (.openChannel session))
  orShell (← call (.exec channel line))
  let output ← orIo (← call (.output channel))
  let errors ← orIo (← call (.errorOutput channel))
  orShell (← call (.awaitEnd channel))
  let code ← orShell (← call (.exitStatus channel))
  let printed : Printed := { output, errors }
  if code ≠ 0 then throw (.exitStatus line code printed.complaint)
  return printed

/-- Whether a failure on the way of a line shows the session to be broken. When a channel cannot be
read any more, the connection below it is gone. -/
def breaksSession (e : TransportError) : Bool :=
  e.isSessionFailure || match e with
    | .io _ => true
    | _ => false

/-- Runs a line on a host. -/
def run (p : Params) (line : String) : Task σ Printed := do
  let lease ← acquire p
  let result ← outcome (runOn lease.client line)
  if let .error e := result then
    if breaksSession e then invalidate lease
  giveBack lease
  ExceptT.mk (pure result)

/-- Runs a command. -/
def exec (p : Params) (command : String) (args : List String) : Task σ Printed :=
  run p (shellLine command args)

/-- Reads a file. -/
def fetch (p : Params) (path : String) : Task σ Octets := do
  return (← run p (shellLine "cat" [path])).output

/-- Looks at the file system that a path lies on. -/
def stat (p : Params) (path : String) : Task σ FsUsage := do
  let line := shellLine "stat" ["-f", "-c", "'%S %b %f %a %c %d'", path]
  let output := (← run p line).output
  match FsUsage.ofStat? (Utf8.decode output) with
  | some usage => return usage
  | none => throw (.unexpectedOutput line (Printed.trimmed output))

/-! ### Connections through a host -/

/-- The networks that a host can connect to on behalf of others. -/
def networks : List String := ["tcp", "tcp4", "tcp6"]

/-- Closes a connection and gives its lease back. A second time nothing happens. -/
def close (name : String) : Task σ Unit := do
  let now ← uptime
  step fun h =>
    match h.connections.get? name with
    | none => ((), h)
    | some connection =>
      let (connection, pool) := connection.close h.pool now
      ((), { h with pool, connections := h.connections.insert name connection })

/-- Connects to an address as seen from a host. The connection gets a name, and one that had the
name before is closed. -/
def dial (p : Params) (network address name : String) : Task σ Unit := do
  unless networks.contains network do throw (.unsupportedNetwork network)
  let some (host, port) := Address.split? address
    | throw (.invalidAddress address)
  let lease ← acquire p
  match ← call (.openDirect lease.client host port) with
  | .ok channel =>
    close name
    step fun h => ((), { h with
      connections := h.connections.insert name { lease, stream? := some channel } })
  | .error e =>
    let e := TransportError.shell e
    if e.isSessionFailure then invalidate lease
    giveBack lease
    throw e

/-- The channel of a connection that is open. -/
def channelOf (h : Hub σ) (name : String) : Except IoError Channel :=
  match (h.connections.get? name).bind (·.stream?) with
  | some channel => .ok channel
  | none => .error Pooled.closedError

/-- Reads what is still to come on a connection. -/
def receive (name : String) : Task σ (Except IoError Octets) := do
  match (← get).channelOf name with
  | .ok channel => call (.output channel)
  | .error e => return .error e

/-- Writes to a connection. -/
def send (name : String) (data : Octets) : Task σ (Except IoError Unit) := do
  match (← get).channelOf name with
  | .ok channel => call (.send channel data)
  | .error e => return .error e

/-- Closes a connection and forgets it. Says whether there was one. -/
def drop (name : String) : Task σ Bool := do
  let known := ((← get).connections.get? name).isSome
  close name
  step fun h => (known, { h with connections := h.connections.erase name })

end Hub

end Hostwatch.Ssh
