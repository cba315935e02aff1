import Hostwatch.Scheduler.Basic
import Hostwatch.Transport.Scripted

/-!
# Rehearsing the scheduler

A rehearsal carries out the runs of a scheduler without machines and without waiting. Hosts are
scripted, agents can be, the database fails a given number of writes, and time only passes as far
as someone waits. Some scripted agents are held at a gate until they are let go.
-/

namespace Hostwatch.Rehearsal

/-- What comes of one gather of a scripted agent. -/
structure Turn where
  /-- Milliseconds that pass first. -/
  advance : Nat := 0
  /-- What is found; nothing if the gather fails or breaks off. -/
  points : Option (List Point)

/-- An agent of a rehearsal. -/
inductive Player where
  | agent (a : Agent)
  /-- The turns to come; the last one is taken over again. -/
  | scripted (turns : List Turn) (gated : Bool)

instance : Plugin Player where
  name
    | .agent a => a.name
    | .scripted .. => "script"
  params
    | .agent a => a.params
    | .scripted .. => .null

/-- A transport of a rehearsal: a script, or one that leads nowhere. -/
inductive Stand where
  | transport (t : Transport)
  | scripted (script : Scripted.Script)

instance : Plugin Stand where
  name
    | .transport t => t.name
    | .scripted _ => "script"
  params
    | .transport t => t.params
    | .scripted _ => .null

end Rehearsal

open Rehearsal in
/-- A rehearsal. -/
structure Rehearsal where
  scheduler : Scheduler Player Stand
  /-- The time of day, which only agents move. -/
  wall : Timestamp
  /-- The time that waiting takes, in milliseconds. -/
  clock : Nat := 0
  /-- How many more writes fail. -/
  failures : Nat := 0
  /-- How many writes there were. -/
  writes : Nat := 0
  /-- When the runs that wait for another write go on. -/
  waiting : List (String × Nat) := []

namespace Rehearsal

/-- Lets the time of day pass. -/
def passMillis (r : Rehearsal) (millis : Nat) : Rehearsal :=
  { r with wall := .ofNanos (r.wall.toNanos + millis * 1000000) }

/-- Has the agent of a run gather on its host. -/
def gather (r : Rehearsal) (run : Run Stand) (host : Host Stand) : Rehearsal :=
  let id := run.probe.id
  let done (r : Rehearsal) (points : Option (List Point)) (p : Player) : Rehearsal :=
    { r with scheduler := r.scheduler.gathered id points p }
  match r.scheduler.fleet.agent? run.probe.agent, host.transport with
  | none, _ => { r with scheduler := r.scheduler.finish id }
  | some (.scripted [] gated), _ => done r none (.scripted [] gated)
  | some (.scripted (turn :: rest) gated), _ =>
    let rest := if rest.isEmpty then [turn] else rest
    done (r.passMillis turn.advance) turn.points (.scripted rest gated)
  | some (.agent a), .scripted script =>
    let stage : Scripted.Stage := { script, time := r.wall }
    let ((result, a), stage) := stage.run a.gather
    let points := match result with
      | .ok () => a.points
      | .error _ => none
    done { r with wall := stage.time } points (.agent a)
  | some (.agent a), .transport _ => done r none (.agent a)

/-- Whether the agent of a run waits at the gate. -/
def isGated (r : Rehearsal) (run : Run Stand) : Bool :=
  match r.scheduler.fleet.agent? run.probe.agent with
  | some (.scripted _ gated) => gated
  | _ => false

/-- Writes the batch of a run. -/
def write (r : Rehearsal) (id : String) : Rehearsal :=
  let r := { r with writes := r.writes + 1, waiting := r.waiting.filter (·.1 != id) }
  if r.failures == 0 then { r with scheduler := r.scheduler.write id true }
  else
    { r with
      failures := r.failures - 1
      scheduler := r.scheduler.write id false
      waiting := (id, r.clock + r.scheduler.forwarder.backoffMillis) :: r.waiting }

/-- Takes a run one phase further, unless it waits. -/
def advance (r : Rehearsal) (run : Run Stand) : Rehearsal :=
  let id := run.probe.id
  match run.phase with
  | .starting => { r with scheduler := (r.scheduler.lookUp id).postpone id r.wall }
  | .postponing => { r with scheduler := r.scheduler.postpone id r.wall }
  | .gathering host => if r.isGated run then r else r.gather run host
  | .recording .. => { r with scheduler := r.scheduler.record id r.wall }
  | .forwarding _ =>
    match r.waiting.lookup id with
    | some wake => if wake ≤ r.clock then r.write id else r
    | none => r.write id

/-- Whether a run only waits for the gate. -/
def isHeld (r : Rehearsal) (run : Run Stand) : Bool :=
  match run.phase with
  | .gathering _ => r.isGated run
  | _ => false

/-- Whether a run waits for the clock. -/
def isWaiting (r : Rehearsal) (run : Run Stand) : Bool :=
  match run.phase with
  | .forwarding _ => (r.waiting.lookup run.probe.id).any (r.clock < ·)
  | _ => false

/-- When the next run that waits for the clock goes on. -/
def nextWake? (r : Rehearsal) : Option Nat :=
  ((r.scheduler.runs.filter r.isWaiting).filterMap fun run =>
    r.waiting.lookup run.probe.id).min?

/-- Takes all runs as far as they get before the clock reaches `limit`. -/
def settle (limit : Option Nat) : (fuel : Nat) → Rehearsal → Rehearsal
  | 0, r => r
  | fuel + 1, r =>
    if r.scheduler.runs.all fun run => r.isHeld run || r.isWaiting run then
      match r.nextWake? with
      | none => r
      | some wake =>
        if limit.all (wake < ·) then settle limit fuel { r with clock := wake } else r
    else settle limit fuel (r.scheduler.runs.foldl advance r)

/-- Enough rounds for all runs: each has four phases, and each write that fails costs two. -/
def rounds (r : Rehearsal) : Nat :=
  4 * r.scheduler.runs.length + 2 * r.failures + 4

/-- Takes all runs as far as they get. -/
def settleAll (r : Rehearsal) : Rehearsal :=
  settle none r.rounds r

/-- Looks for work; nothing if that breaks off. -/
def dispatch (r : Rehearsal) (now : Timestamp) : Option Nat × Rehearsal :=
  let pass := r.scheduler.dispatch now []
  (if pass.broken then none else some pass.started, { r with scheduler := pass.scheduler })

/-- Looks for work every `tick` milliseconds. -/
def ticks (tick : Nat) : (count : Nat) → Rehearsal → Bool × Rehearsal
  | 0, r => (true, r)
  | count + 1, r =>
    let next := r.clock + tick
    match r.dispatch r.wall with
    | (none, r) => (false, r)
    | (some _, r) => ticks tick count { settle (some next) r.rounds r with clock := next }

/-- Looks for work for that many milliseconds, at their start and then at every tick. -/
def runFor (r : Rehearsal) (tick millis : Nat) : Bool × Rehearsal :=
  let tick := max tick 1
  ticks tick (millis / tick + 1) r

/-- Lets the agent go that waits at the gate the longest. -/
def release (r : Rehearsal) : Bool × Rehearsal :=
  match r.scheduler.runs.find? r.isHeld with
  | some run =>
    match run.phase with
    | .gathering host => (true, r.gather run host)
    | _ => (false, r)
  | none => (false, r)

end Rehearsal

end Hostwatch
