import Hostwatch.Transport.Dialogue
import Hostwatch.Table

/-!
# A scripted host

A host whose answers are written down beforehand, with the time that each one takes. It carries out
dialogues without a machine and notes what it was asked.
-/

namespace Hostwatch.Scripted

/-- What a file or a command yields: some octets, and then perhaps an error. -/
structure Content where
  data : Octets
  error? : Option IoError := none
  /-- Nanoseconds until it is there. -/
  delay : Nat := 0

/-- Who answers a connection. -/
structure Peer where
  data : Octets := []
  /-- Nanoseconds that dialing takes, whether it succeeds or not. -/
  delay : Nat := 0
  /-- Why nobody answers, if so. -/
  refusal? : Option TransportError := none
  /-- Nanoseconds until the first octet of the answer. -/
  answerDelay : Nat := 0
  /-- The most octets that come at once, if that is limited. -/
  chunk? : Option Nat := none
  readError? : Option IoError := none
  writeError? : Option IoError := none
  closeError? : Option TransportError := none

/-- All that a host answers. -/
structure Script where
  files : Table (Except TransportError Content) := []
  commands : Table (Except TransportError Content) := []
  fileSystem? : Option (Except TransportError FsUsage) := none
  peer? : Option Peer := none
  /-- The random number that is drawn. -/
  random : Nat := 0

/-- Something that the host was asked. -/
inductive Call where
  | open (path : String)
  | exec (command : String) (args : List String)
  | stat (path : String)
  | dial (network address : String)
  /-- The request, noted when the first answer to it is awaited. -/
  | sent (request : Octets)
  | close

/-- A host in the course of a dialogue. -/
structure Stage where
  script : Script
  time : Timestamp
  uptime : Nat := 0
  /-- What was asked, the latest first. -/
  calls : List Call := []
  /-- The open connection: what is still to come and what was sent so far. -/
  peer : Peer := {}
  request : Octets := []
  answered : Bool := false

namespace Stage

def note (s : Stage) (c : Call) : Stage :=
  { s with calls := c :: s.calls }

/-- Lets time pass. -/
def pass (s : Stage) (nanos : Nat) : Stage :=
  { s with time := .ofNanos (s.time.toNanos + nanos), uptime := s.uptime + nanos }

private def missing (name : String) : TransportError :=
  .io ⟨.notFound, name⟩

/-- What a file or a command answers. -/
def content (s : Stage) (contents : Table (Except TransportError Content)) (name : String) :
    Except TransportError Octets × Stage :=
  match contents.get? name with
  | none => (.error (missing name), s)
  | some (.error e) => (.error e, s)
  | some (.ok c) =>
    let s := s.pass c.delay
    match c.error? with
    | some e => (.error (.io e), s)
    | none => (.ok c.data, s)

/-- The next octets from the connection, at most `limit`. -/
def receive (s : Stage) (limit : Nat) : Except IoError Octets × Stage :=
  let s := if s.answered then s
    else { (s.note (.sent s.request)).pass s.peer.answerDelay with answered := true }
  if s.peer.data.isEmpty then
    match s.peer.readError? with
    | some e => (.error e, s)
    | none => (.ok [], s)
  else
    let size := match s.peer.chunk? with
      | some n => min n limit
      | none => limit
    (.ok (s.peer.data.take size), { s with peer := { s.peer with data := s.peer.data.drop size } })

/-- Answers a query. -/
def answer (s : Stage) : (q : Query) → q.Reply × Stage
  | .readFile path => (s.note (.open path)).content s.script.files path
  | .exec command args => (s.note (.exec command args)).content s.script.commands command
  | .stat path =>
    (match s.script.fileSystem? with
      | some r => r
      | none => .error (missing path), s.note (.stat path))
  | .dial network address =>
    let s := s.note (.dial network address)
    match s.script.peer? with
    | none => (.error (.io ⟨.connectionRefused, "refused"⟩), s)
    | some peer =>
      let s := s.pass peer.delay
      match peer.refusal? with
      | some e => (.error e, s)
      | none => (.ok (), { s with peer, request := [], answered := false })
  | .send data =>
    match s.peer.writeError? with
    | some e => (.error e, s)
    | none => (.ok (), { s with request := s.request ++ data })
  | .receive limit => s.receive limit
  | .close =>
    (match s.peer.closeError? with
      | some e => .error e
      | none => .ok (), s.note .close)
  | .random => (s.script.random, s)
  | .now => (s.time, s)
  | .uptime => (s.uptime, s)

/-- Carries out a dialogue. -/
def run {α : Type} (s : Stage) (d : Dialogue α) : α × Stage :=
  d.run answer s

end Stage

end Hostwatch.Scripted
