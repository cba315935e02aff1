import Hostwatch.Local.Clock
import Hostwatch.Server.CommandLine

/-!
# The program

The server on a real machine: it reads the files of the machine and its clocks. Running commands and
opening connections are left to the machines that offer them; here they are answered as not
supported, and a database, which could only be reached over a connection, takes no batch.
-/

namespace Hostwatch

/-- Why a file could not be read. -/
def readError : IO.Error → IoError
  | .noFileOrDirectory .. => .noSuchFile
  | .permissionDenied .. => .permissionDenied
  | .inappropriateType .. => .isADirectory
  | e => ⟨.other, toString e⟩

/-- Reads a file of the machine. -/
def machineFile (path : String) : IO (Except IoError Octets) := do
  try
    return .ok (← IO.FS.readBinFile path).toList
  catch e => return .error (readError e)

/-- A report of the kernel as text. -/
def report (path : String) : IO (List Char) := do
  match ← machineFile path with
  | .ok octets => return Utf8.decode octets
  | .error _ => return []

def timeOfDay : IO Timestamp := do
  return Local.Clock.time (← report "/proc/stat") (← report "/proc/uptime")

/-- Answers a question to the machine. -/
def ask : (q : Query) → IO q.Reply
  | .readFile path => return (← machineFile path).mapError .io
  | .exec .. => return .error (.unsupported "exec")
  | .stat _ => return .error (.unsupported "stat_filesystem")
  | .dial .. => return .error (.unsupported "dial")
  | .send _ => return .error (.noSuchFile)
  | .receive _ => return .error (.noSuchFile)
  | .close => return .ok ()
  | .random => IO.rand 0 0xFFFF
  | .now => timeOfDay
  | .uptime => IO.monoNanosNow

/-- Carries out a dialogue with the machine. -/
def converse {α : Type} : Dialogue α → IO α
  | .done result => return result
  | .ask q next => do converse (next (← ask q))

/-- A server at work. -/
abbrev Working := Scheduler Agent Transport

/-- Has the agent of a run gather, which only works on the machine itself. -/
def gather (s : Working) (run : Run Transport) (host : Host Transport) : IO Working := do
  match s.fleet.agent? run.probe.agent, host.transport with
  | none, _ => return s.finish run.probe.id
  | some agent, .shell _ => return s.gathered run.probe.id none agent
  | some agent, .thisMachine =>
    let (result, agent) ← converse agent.gather
    let points := match result with
      | .ok () => agent.points
      | .error _ => none
    return s.gathered run.probe.id points agent

/-- Takes a run one phase further. -/
def advance (taken : Bool) (s : Working) (run : Run Transport) : IO Working := do
  let id := run.probe.id
  match run.phase with
  | .starting => return s.lookUp id
  | .postponing => return s.postpone id (← timeOfDay)
  | .gathering host => gather s run host
  | .recording .. => return s.record id (← timeOfDay)
  | .forwarding _ =>
    unless taken do IO.sleep (UInt32.ofNat s.forwarder.backoffMillis)
    return s.write id taken

/-- Takes all runs to their ends. -/
def finishRuns (taken : Bool) : (rounds : Nat) → Working → IO Working
  | 0, s => return s
  | rounds + 1, s => do
    if s.runs.isEmpty then return s
    finishRuns taken rounds (← s.runs.foldlM (advance taken) s)

/-- Random words, some for each probe that may need a first check. -/
def randomWords (s : Working) : IO (List Nat) :=
  (s.link.store.listProbes .system .all).flatMapM fun _ =>
    (List.replicate 4 ()).mapM fun _ => IO.rand 0 (Word.count64 - 1)

/-- Looks for work at every tick. Without a database, batches count as taken. -/
partial def serve (tick : Nat) (taken : Bool) (s : Working) : IO Unit := do
  let words ← randomWords s
  let pass := s.dispatch (← timeOfDay) words
  let s ← finishRuns taken (s.forwarder.maxRetries + 5) pass.scheduler
  if pass.broken then throw (IO.userError "the first check of a probe is out of range")
  IO.sleep (UInt32.ofNat tick)
  serve tick taken { s with delivered := [] }

end Hostwatch

open Hostwatch in
def main (args : List String) : IO UInt32 := do
  let request := CommandLine.Request.ofArgs args
  let file ← match request with
    | .serve path => machineFile path
    | _ => pure (.error .noSuchFile)
  let ids := IdSource.start (← timeOfDay) 1 1
  match CommandLine.start .defaults ids (fun _ => file) request with
  | .error exit =>
    IO.print exit.output
    IO.eprint exit.errors
    return UInt32.ofNat exit.status
  | .ok ready =>
    let forwarder : Forwarder := {
      maxRetries := ready.config.maxRetries, backoffMillis := ready.config.backoffMillis }
    serve ready.config.tick ready.config.influx.isNone
      { link := ready.link, fleet := ready.fleet, forwarder }
    return 0
