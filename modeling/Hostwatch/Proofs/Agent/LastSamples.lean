import Hostwatch.Proofs.Agent.Memory
import Hostwatch.Proofs.Agent.QueryNumber
import Hostwatch.Proofs.Measure.Rates
import Hostwatch.Proofs.Transport.Streams

/-!
# Points follow from the last readings

What an agent reports after a gather that succeeded, after one that failed, and whatever number a
query was given. The rates that it reports are those of a tracker, though all that is remembered for
them are the last two readings.
-/

namespace Hostwatch

namespace History

open Rates (Tracker)

variable {α : Type}

def pushAll (h : History α) (readings : List (α × Timestamp)) : History α :=
  readings.foldl (fun h reading => h.push reading.1 reading.2) h

/-- A tracker that was given something of each reading holds what it was given of the last one. -/
theorem tracker_eq (places : Nat) (give : α → Rates.Reading) (readings : List (α × Timestamp)) :
    (inTurn Tracker.take { places } (readings.map fun r => ⟨give r.1, r.2⟩)).2 =
      { places, last := (pushAll {} readings).last.map fun r => ((give r.1).sample, r.2) } := by
  induction readings using List.reverseRecOn with
  | nil => rfl
  | append_singleton before reading _ =>
      rw [List.map_append, List.map_singleton, Tracker.state_concat, pushAll, List.foldl_append]
      rfl

/-- The rates of a history are what a tracker answers to the last reading, if it was given the
readings before. -/
theorem rates_eq_update (places : Nat) (select : α → Sample) (readings : List (α × Timestamp))
    (value : α) (time : Timestamp) :
    let t := (inTurn Tracker.take { places } (readings.map fun r => ⟨.all (select r.1), r.2⟩)).2
    ((pushAll {} readings).push value time).rates places select =
      (t.update (select value) time).1 := by
  intro t
  have held : t = _ := tracker_eq places (fun value => .all (select value)) readings
  rw [held]
  rfl

/-- As `rates_eq_update`, for a tracker that is given the counters of one entity. -/
theorem ratesOfOne_eq_updateOne (places : Nat) (select : α → Counters)
    (readings : List (α × Timestamp)) (value : α) (time : Timestamp) :
    let t := (inTurn Tracker.take { places } (readings.map fun r => ⟨.one (select r.1), r.2⟩)).2
    ((pushAll {} readings).push value time).ratesOfOne places select =
      (t.updateOne (select value) time).1.getD [] := by
  intro t
  have held : t = _ := tracker_eq places (fun value => .one (select value)) readings
  rw [held]
  rfl

end History

namespace Agent

theorem transcript_remember {α σ : Type} (answer : σ → (q : Query) → q.Reply × σ)
    (reading : Dialogue (Except Failure (α × Timestamp))) (otherwise : Agent)
    (push : α → Timestamp → Agent) (s : σ) :
    (remember reading otherwise push).transcript answer s = reading.transcript answer s := by
  show (Dialogue.bind reading _).transcript answer s = _
  rw [Dialogue.transcript_bind]
  cases (reading.run answer s).1 with
  | ok taken => exact List.append_nil _
  | error e => exact List.append_nil _

/-- What a gather that succeeds leaves is made of what was read. -/
theorem read_of_gatherIn {p : Resolver.Params} {last : Option (Resolver.Answer × Timestamp)}
    {w : Surroundings} (succeeded : ((Agent.dns p last).gatherIn w).1 = .ok ()) :
    ∃ reading, ((Resolver.read p).run w.answer w.start).1 = .ok reading ∧
      ((Agent.dns p last).gatherIn w).2 = .dns p (some reading) := by
  have gathers : (Agent.dns p last).gather = remember (Resolver.read p) (.dns p last)
      fun value time => .dns p (some (value, time)) := rfl
  cases came : ((Resolver.read p).run w.answer w.start).1 with
  | ok reading =>
      rw [gatherIn_of_reading gathers came]
      exact ⟨reading, rfl, rfl⟩
  | error e =>
      rw [gatherIn_of_no_reading gathers came] at succeeded
      cases succeeded

/-- Two gathers that ask the same question and differ at most in the number of the query leave the
same agent if both succeed. -/
theorem dns_eq_of_withoutNumber {p : Resolver.Params}
    {last last' : Option (Resolver.Answer × Timestamp)} {w w' : Surroundings}
    (succeeded : ((Agent.dns p last).gatherIn w).1 = .ok ())
    (succeeded' : ((Agent.dns p last').gatherIn w').1 = .ok ())
    (same : Resolver.withoutNumber p ((Agent.dns p last).transcriptIn w) =
      Resolver.withoutNumber p ((Agent.dns p last').transcriptIn w')) :
    ((Agent.dns p last).gatherIn w).2 = ((Agent.dns p last').gatherIn w').2 := by
  obtain ⟨reading, came, left⟩ := read_of_gatherIn succeeded
  obtain ⟨reading', came', left'⟩ := read_of_gatherIn succeeded'
  rw [transcriptIn, transcriptIn, gather, gather, transcript_remember, transcript_remember] at same
  rw [left, left', Resolver.twins_read p _ _ _ _ same reading reading' came came']

/-- After a gather that succeeds, the points of an agent are what they would be if of all gathers
only the last ones that succeeded had taken place: the last one, or the last two of an agent that
reports rates. This holds of every agent, for gathers in any surroundings. A gather that fails
leaves the points as they are, but for the check of a port, which is left without any. The random
number of a query to a name server does not show in the points. -/
theorem points_of_last_successes :
    (∀ (a : Agent) (before : List Surroundings) (w : Surroundings),
      ((a.gatherAll before).gatherIn w).1 = .ok () →
        let good := a.successes (before ++ [w])
        (a.gatherAll (before ++ [w])).points =
          (a.gatherAll (good.drop (good.length - a.span))).points) ∧
    (∀ (a : Agent) (w : Surroundings) (e : Failure), (a.gatherIn w).1 = .error e →
      (a.gatherIn w).2.points = if a.name = "tcpport" then some [] else a.points) ∧
    (∀ (p : Resolver.Params) (last last' : Option (Resolver.Answer × Timestamp))
      (w w' : Surroundings),
      ((Agent.dns p last).gatherIn w).1 = .ok () → ((Agent.dns p last').gatherIn w').1 = .ok () →
      Resolver.withoutNumber p ((Agent.dns p last).transcriptIn w) =
        Resolver.withoutNumber p ((Agent.dns p last').transcriptIn w') →
      ((Agent.dns p last).gatherIn w).2.points = ((Agent.dns p last').gatherIn w').2.points) := by
  refine ⟨?_, ?_, ?_⟩
  · intro a before w succeeded good
    rw [gatherAll_eq_last_successes (by rw [succeeded]; rfl)]
  · intro a w e failed
    rw [gatherIn_of_error failed, points_afterFailure]
  · intro p last last' w w' succeeded succeeded' same
    rw [dns_eq_of_withoutNumber succeeded succeeded' same]

/-- A host with one file, at some second. -/
def machine (second : Int) (file : Except TransportError Octets) : Surroundings where
  State := Unit
  start := ()
  answer := fun _ q =>
    (match q with
      | .readFile _ | .exec .. => file
      | .stat _ => .error (.unsupported "stat")
      | .dial .. | .close => .error (.unsupported "dial")
      | .send _ => .ok ()
      | .receive _ => .ok []
      | .random | .uptime => (0 : Nat)
      | .now => Timestamp.ofNanos (second * 1000000000), ())

/-- A name server that gives a query its number and answers with an empty message of that number. -/
def nameServer (number : UInt8) : Surroundings where
  State := Unit
  start := ()
  answer := fun _ q =>
    (match q with
      | .readFile _ | .exec .. => .error (.unsupported "read")
      | .stat _ => .error (.unsupported "stat")
      | .dial .. | .close | .send _ => .ok ()
      | .receive _ => .ok [0, number, 0x81, 0x80, 0, 0, 0, 0, 0, 0, 0, 0]
      | .random => number.toNat
      | .uptime => (0 : Nat)
      | .now => Timestamp.ofNanos 0, ())

/-- Twice the host cannot be reached. The rates are those between the last two readings. -/
theorem rates_of_last_two :
    let down := machine 0 (.error (.unsupported "read"))
    let before := [machine 1 (.ok []), machine 2 (.ok []), down, machine 3 (.ok []), down]
    (((Agent.network {}).gatherAll before).gatherIn (machine 4 (.ok []))).1 = .ok () ∧
      ((Agent.network {}).gatherAll (before ++ [machine 4 (.ok [])])).points =
        ((Agent.network {}).gatherAll [machine 3 (.ok []), machine 4 (.ok [])]).points ∧
      ((Agent.network {}).gatherIn down).2.points = some [] ∧
      ((Agent.dns {} none).gatherIn (nameServer 1)).2.points =
        ((Agent.dns {} none).gatherIn (nameServer 2)).2.points := by
  intro down before
  obtain ⟨last, failed, number⟩ := points_of_last_successes
  have succeeded :
      (((Agent.network {}).gatherAll before).gatherIn (machine 4 (.ok []))).1 = .ok () := rfl
  refine ⟨succeeded, last (.network {}) before _ succeeded, failed (.network {}) down _ rfl, ?_⟩
  exact number {} none none (nameServer 1) (nameServer 2) rfl rfl rfl

end Agent

end Hostwatch
