import Hostwatch.Agent.Cpu
import Hostwatch.Agent.Disk
import Hostwatch.Agent.DiskUsage
import Hostwatch.Agent.Dns
import Hostwatch.Agent.Load
import Hostwatch.Agent.Memory
import Hostwatch.Agent.Mysql
import Hostwatch.Agent.Network
import Hostwatch.Agent.Nginx
import Hostwatch.Agent.PhpFpm
import Hostwatch.Agent.Ping
import Hostwatch.Agent.Sockets
import Hostwatch.Agent.TcpPort

/-!
# Agents

An agent measures one thing. It has parameters, and between two gathers it remembers its last
reading, or the last two if it reports rates. All that an agent does to a host is the `Dialogue` of
`gather`; its points follow from what it remembers.
-/

namespace Hostwatch

/-- An agent: its parameters, if it takes any, and what it remembers. -/
inductive Agent where
  | cpu (history : History Cpu.Report)
  | disk (history : History Disk.Report)
  | diskUsage (params : DiskUsage.Params) (last : Option (FsUsage × Timestamp))
  | dns (params : Resolver.Params) (last : Option (Resolver.Answer × Timestamp))
  | load (last : Option (Load.Report × Timestamp))
  | memory (last : Option (Counters × Timestamp))
  | mysql (params : Mysql.Params) (history : History Mysql.Report)
  | network (history : History Sample)
  | nginx (params : Nginx.Params) (history : History Nginx.Page)
  | phpFpm (params : PhpFpm.Params) (history : History PhpFpm.Page)
  | ping (params : Ping.Params) (last : Option (Counters × Timestamp))
  | sockets (last : Option (Counters × Timestamp))
  | tcpPort (params : TcpPort.Params) (last : Option (TcpPort.Outcome × Timestamp))

namespace Agent

/-- One agent of each kind, with its default parameters and without memory. -/
def fresh : List Agent :=
  [.cpu {}, .disk {}, .diskUsage {} none, .dns {} none, .load none, .memory none, .mysql {} {},
    .network {}, .nginx {} {}, .phpFpm {} {}, .ping { target := "127.0.0.1" } none, .sockets none,
    .tcpPort {} none]

/-- The name under which configurations refer to the kind of agent. -/
def name : Agent → String
  | .cpu _ => "cpu"
  | .disk _ => "disk"
  | .diskUsage .. => "diskusage"
  | .dns .. => "dns"
  | .load _ => "load"
  | .memory _ => "memory"
  | .mysql .. => "mysql"
  | .network _ => "network"
  | .nginx .. => "nginx"
  | .phpFpm .. => "phpfpm"
  | .ping .. => "ping"
  | .sockets _ => "sockets"
  | .tcpPort .. => "tcpport"

/-- The current parameters as a JSON value; an empty object if there are none. -/
def params : Agent → Json
  | .cpu _ | .disk _ | .load _ | .memory _ | .network _ | .sockets _ => .obj []
  | .diskUsage p _ => p.toJson
  | .dns p _ => p.toJson
  | .mysql p _ => p.toJson
  | .nginx p _ => p.toJson
  | .phpFpm p _ => p.toJson
  | .ping p _ => p.toJson
  | .tcpPort p _ => p.toJson

/-- An agent without parameters takes `null` or an empty object. -/
def takeNone (a : Agent) : Json → Except Failure Agent
  | .null => .ok a
  | .obj [] => .ok a
  | j => .error (.other ("agent '" ++ a.name ++ "' takes no parameters, got " ++ j.compact))

/-- Parameters that have to name a page. -/
def withPage {α : Type} (p : α) (url : String) : Except Failure α :=
  (Url.read url).map fun _ => p

/-- The agent with new parameters. What it remembers stays. -/
def configure (a : Agent) (j : Json) : Except Failure Agent :=
  match a with
  | .diskUsage _ last => do
    return .diskUsage (← (DiskUsage.Params.ofJson j).mapError Failure.params) last
  | .dns _ last => do
    let p ← (Resolver.Params.ofJson j).mapError Failure.params
    let _ ← p.check
    return .dns p last
  | .mysql _ h => do return .mysql (← (Mysql.Params.ofJson j).mapError Failure.params) h
  | .nginx _ h => do
    let p ← (Nginx.Params.ofJson j).mapError Failure.params
    return .nginx (← withPage p p.url) h
  | .phpFpm _ h => do
    let p ← (PhpFpm.Params.ofJson j).mapError Failure.params
    return .phpFpm (← withPage p p.url) h
  | .ping _ last => do return .ping (← (Ping.Params.ofJson j).mapError Failure.params) last
  | .tcpPort _ last => do return .tcpPort (← (TcpPort.Params.ofJson j).mapError Failure.params) last
  | a => a.takeNone j

/-- What came of a gather, and the agent after it. -/
abbrev Gathered := Except Failure Unit × Agent

/-- Remembers a reading; a failed one leaves the agent at `otherwise`. -/
def remember {α : Type} (reading : Dialogue (Except Failure (α × Timestamp)))
    (otherwise : Agent) (push : α → Timestamp → Agent) : Dialogue Gathered := do
  match ← reading with
  | .ok (value, time) => return (.ok (), push value time)
  | .error e => return (.error e, otherwise)

/-- Takes a measurement. A failed one leaves the agent as it is, but for the check of a port, which
forgets its last outcome before it dials. -/
def gather (a : Agent) : Dialogue Gathered :=
  match a with
  | .cpu h => remember Cpu.read a fun v t => .cpu (h.push v t)
  | .disk h => remember Disk.read a fun v t => .disk (h.push v t)
  | .diskUsage p _ => remember (DiskUsage.read p) a fun v t => .diskUsage p (some (v, t))
  | .dns p _ => remember (Resolver.read p) a fun v t => .dns p (some (v, t))
  | .load _ => remember Load.read a fun v t => .load (some (v, t))
  | .memory _ => remember Memory.read a fun v t => .memory (some (v, t))
  | .mysql p h => remember (Mysql.read p) a fun v t => .mysql p (h.push v t)
  | .network h => remember Network.read a fun v t => .network (h.push v t)
  | .nginx p h => remember (Nginx.read p) a fun v t => .nginx p (h.push v t)
  | .phpFpm p h => remember (PhpFpm.read p) a fun v t => .phpFpm p (h.push v t)
  | .ping p _ => remember (Ping.read p) a fun v t => .ping p (some (v, t))
  | .sockets _ => remember Sockets.read a fun v t => .sockets (some (v, t))
  | .tcpPort p _ => remember (TcpPort.read p) (.tcpPort p none) fun v t => .tcpPort p (some (v, t))

/-- The points that follow from what the agent remembers. Only with the space of a file system can
working them out break off, and then nothing comes of it. -/
def points : Agent → Option (List Point)
  | .cpu h => some (Cpu.points h)
  | .disk h => some (Disk.points h)
  | .diskUsage p last => DiskUsage.points p last
  | .dns p last => some (Resolver.points p last)
  | .load last => some (Load.points last)
  | .memory last => some (Memory.points last)
  | .mysql _ h => some (Mysql.points h)
  | .network h => some (Network.points h)
  | .nginx _ h => some (Nginx.points h)
  | .phpFpm _ h => some (PhpFpm.points h)
  | .ping p last => some (Ping.points p last)
  | .sockets last => some (Sockets.points last)
  | .tcpPort p last => some (TcpPort.points p last)

/-- What the agent is for. -/
def doc : Agent → Doc
  | .cpu _ => Cpu.doc
  | .disk _ => Disk.doc
  | .diskUsage .. => DiskUsage.doc
  | .dns .. => Resolver.doc
  | .load _ => Load.doc
  | .memory _ => Memory.doc
  | .mysql .. => Mysql.doc
  | .network _ => Network.doc
  | .nginx .. => Nginx.doc
  | .phpFpm .. => PhpFpm.doc
  | .ping .. => Ping.doc
  | .sockets _ => Sockets.doc
  | .tcpPort .. => TcpPort.doc

end Agent

end Hostwatch
