import Hostwatch.Scheduler.Fleet
import Hostwatch.Scheduler.Forwarder
import Hostwatch.Scheduler.Timing
import Hostwatch.Store.Link

/-!
# The scheduler

The scheduler looks for work at a fixed period. Each probe that is due gets a run of its own, and a
run goes through four phases: it looks its host up, gathers, records the outcome in the store, and
forwards what was found. Between two phases anything may happen, to the store and to other runs, so
each phase is a step of its own and nothing here says in which order the steps of several runs come.

While a run is under way its probe is marked as in flight, and a marked probe is not started again.
-/

namespace Hostwatch

/-- How far a run has come. -/
inductive Phase (τ : Type) where
  /-- It has yet to look its host up. -/
  | starting
  /-- Its host cannot be had, and its probe has yet to be put off. -/
  | postponing
  | gathering (host : Host τ)
  /-- The outcome has yet to be recorded; there are no points if gathering failed. -/
  | recording (host : Host τ) (points : Option (List Point))
  | forwarding (delivery : Delivery)

/-- A run of a probe, which works with the probe as it was at the start. -/
structure Run (τ : Type) where
  probe : Probe AgentRef
  phase : Phase τ := .starting

/-- The scheduler, its agents and the database that it writes to. -/
structure Scheduler (β τ : Type) where
  link : Link AgentRef τ := {}
  /-- On whose behalf the scheduler works. -/
  actor : Actor := .system
  forwarder : Forwarder
  fleet : Fleet β := {}
  /-- The probes that are marked as being run. -/
  inFlight : List String := []
  /-- The runs under way, in the order in which they were started. -/
  runs : List (Run τ) := []
  /-- The batches that the database has taken, the latest first. -/
  delivered : List (List Point) := []

namespace Scheduler

variable {β τ : Type}

/-- Whether a probe is marked as being run. -/
def isRunning (s : Scheduler β τ) (id : String) : Bool :=
  s.inFlight.contains id

/-- The probes that are being run, one for each run under way. -/
def running (s : Scheduler β τ) : List String :=
  s.runs.map (·.probe.id)

/-- The run of a probe. -/
def run? (s : Scheduler β τ) (id : String) : Option (Run τ) :=
  s.runs.find? (·.probe.id == id)

/-- Marks a probe, unless it is marked already. -/
def claim (s : Scheduler β τ) (id : String) : Option (Scheduler β τ) :=
  if s.isRunning id then none else some { s with inFlight := id :: s.inFlight }

/-- Takes the mark of a probe away. -/
def release (s : Scheduler β τ) (id : String) : Scheduler β τ :=
  { s with inFlight := s.inFlight.filter (· != id) }

/-- The run of a marked probe begins. -/
def launch (s : Scheduler β τ) (probe : Probe AgentRef) : Scheduler β τ :=
  { s with runs := s.runs ++ [{ probe }] }

/-- Ends the run of a probe and takes the mark away. -/
def finish (s : Scheduler β τ) (id : String) : Scheduler β τ :=
  { s with runs := s.runs.filter (·.probe.id != id) }.release id

/-- Moves the run of a probe on. -/
def enter (s : Scheduler β τ) (id : String) (phase : Phase τ) : Scheduler β τ :=
  { s with runs := s.runs.map fun r => if r.probe.id == id then { r with phase } else r }

/-- Sets when a probe runs next. -/
def plan (s : Scheduler β τ) (id : String) (next : Timestamp) : Scheduler β τ :=
  { s with link := (s.link.reschedule s.actor id next).2 }

theorem claim_eq_some_iff {s s' : Scheduler β τ} {id : String} :
    s.claim id = some s' ↔ id ∉ s.inFlight ∧ { s with inFlight := id :: s.inFlight } = s' := by
  simp [claim, isRunning]

section Marks

variable (s : Scheduler β τ) (id : String)

@[simp] theorem inFlight_release : (s.release id).inFlight = s.inFlight.filter (· != id) := rfl

@[simp] theorem running_release : (s.release id).running = s.running := rfl

@[simp] theorem inFlight_launch (probe : Probe AgentRef) :
    (s.launch probe).inFlight = s.inFlight := rfl

@[simp] theorem running_launch (probe : Probe AgentRef) :
    (s.launch probe).running = s.running ++ [probe.id] := by
  simp [launch, running]

@[simp] theorem inFlight_finish : (s.finish id).inFlight = s.inFlight.filter (· != id) := rfl

@[simp] theorem running_finish : (s.finish id).running = s.running.filter (· != id) := by
  simp [finish, running, release, List.filter_map, Function.comp_def]

@[simp] theorem inFlight_enter (phase : Phase τ) : (s.enter id phase).inFlight = s.inFlight := rfl

@[simp] theorem running_enter (phase : Phase τ) : (s.enter id phase).running = s.running := by
  simp only [enter, running, List.map_map]
  refine List.map_congr_left fun r _ => ?_
  simp only [Function.comp_apply]
  split
  · rfl
  · rfl

@[simp] theorem inFlight_plan (next : Timestamp) : (s.plan id next).inFlight = s.inFlight := rfl

@[simp] theorem running_plan (next : Timestamp) : (s.plan id next).running = s.running := rfl

@[simp] theorem run?_release (other : String) : (s.release other).run? id = s.run? id := rfl

@[simp] theorem run?_launch (probe : Probe AgentRef) :
    (s.launch probe).run? id = (s.run? id).or (if probe.id = id then some { probe } else none) := by
  rw [run?, launch, List.find?_append, List.find?_singleton]
  simp [run?]

@[simp] theorem run?_finish (other : String) :
    (s.finish other).run? id = if id = other then none else s.run? id := by
  simp only [run?, finish, release, List.find?_filter]
  split
  · next same =>
      refine List.find?_eq_none.mpr fun r _ => ?_
      simp [same]
  · next different =>
      refine congrArg (List.find? · s.runs) (funext fun r => ?_)
      by_cases own : r.probe.id = id
      · simp [own, different]
      · simp [own]

@[simp] theorem run?_enter (other : String) (phase : Phase τ) :
    (s.enter other phase).run? id =
      (s.run? id).map fun r => if id = other then { r with phase } else r := by
  have same : ((·.probe.id == id) ∘ fun r : Run τ =>
      if r.probe.id == other then { r with phase } else r) = (·.probe.id == id) := by
    funext r
    simp only [Function.comp_apply]
    split
    · rfl
    · rfl
  simp only [run?, enter, List.find?_map, same]
  refine Option.map_congr fun r found => ?_
  have own : r.probe.id = id := by simpa using List.find?_some found
  simp [own]

@[simp] theorem run?_plan (other : String) (next : Timestamp) :
    (s.plan other next).run? id = s.run? id := rfl

variable {s id}

theorem id_of_run? {r : Run τ} (found : s.run? id = some r) : r.probe.id = id := by
  simpa using List.find?_some found

theorem run?_enter_self {r : Run τ} (found : s.run? id = some r) (phase : Phase τ) :
    (s.enter id phase).run? id = some { r with phase } := by
  simp [found]

theorem mem_running_of_run? {r : Run τ} (found : s.run? id = some r) : id ∈ s.running := by
  exact List.mem_map.mpr ⟨r, List.mem_of_find?_eq_some found, id_of_run? found⟩

end Marks

/-! ### Looking for work -/

/-- A look for work under way. -/
structure Pass (β τ : Type) where
  scheduler : Scheduler β τ
  /-- The random words that are left. -/
  words : List Nat
  /-- How many runs were started. -/
  started : Nat := 0
  /-- Whether a first check came to lie beyond the calendar, which ends the pass. -/
  broken : Bool := false

section Steps

variable [Plugin τ]

/-- Reads a marked probe again, for it may have been run since it was listed. If it is still due its
run begins, else the mark is taken away. Says which. -/
def confirm (s : Scheduler β τ) (now : Timestamp) (id : String) : Bool × Scheduler β τ :=
  match s.link.getProbe s.actor id with
  | (.ok probe, link) =>
    if probe.state now false = .due then (true, { s with link }.launch probe)
    else (false, { s with link }.release id)
  | (.error _, link) => (false, { s with link }.release id)

/-- Starts a probe that was listed as due, if nobody else has it and it still is due. -/
def startDue (p : Pass β τ) (now : Timestamp) (id : String) : Pass β τ :=
  match p.scheduler.claim id with
  | none => p
  | some s =>
    let (started, s) := s.confirm now id
    { p with scheduler := s, started := p.started + started.toNat }

/-- Gives a new probe its first check. -/
def schedule (p : Pass β τ) (now : Timestamp) (probe : Probe AgentRef) : Pass β τ :=
  match jitteredStart now probe.interval p.words with
  | (none, words) => { p with words, broken := true }
  | (some next, words) => { p with scheduler := p.scheduler.plan probe.id next, words }

/-- Deals with one listed probe. -/
def visit (now : Timestamp) (p : Pass β τ) (probe : Probe AgentRef) : Pass β τ :=
  if p.broken then p
  else
    match probe.state now (p.scheduler.isRunning probe.id) with
    | .running | .idle => p
    | .unscheduled => schedule p now probe
    | .due => startDue p now probe.id

/-- Looks for work at `now`. Random words decide when new probes have their first check. -/
def dispatch (s : Scheduler β τ) (now : Timestamp) (words : List Nat) : Pass β τ :=
  let (listing, link) := s.link.listProbes s.actor .all
  let pass : Pass β τ := { scheduler := { s with link }, words }
  match listing with
  | .error _ => pass
  | .ok probes => probes.foldl (visit now) pass

/-! ### The phases of a run -/

/-- The first phase: the run reads its host. -/
def lookUp (s : Scheduler β τ) (id : String) : Scheduler β τ :=
  match s.run? id with
  | some { probe, phase := .starting } =>
    match s.link.getHost s.actor probe.hostId with
    | (.ok host, link) => { s with link }.enter id (.gathering host)
    | (.error _, link) => { s with link }.enter id .postponing
  | _ => s

/-- The end of a run whose host cannot be had: its probe has the next check one interval later. -/
def postpone (s : Scheduler β τ) (id : String) (now : Timestamp) : Scheduler β τ :=
  match s.run? id with
  | some { probe, phase := .postponing } =>
    match now.add? probe.interval with
    | none => s.finish id
    | some next => (s.plan id next).finish id
  | _ => s

/-- The second phase: what the agent found, if anything, and what it remembers now. -/
def gathered (s : Scheduler β τ) (id : String) (points : Option (List Point)) (agent : β) :
    Scheduler β τ :=
  match s.run? id with
  | some { probe, phase := .gathering host } =>
    { s with fleet := s.fleet.update probe.agent agent }.enter id (.recording host points)
  | _ => s

/-- The third phase: the outcome is recorded. A run whose probe is gone ends here, and so does one
whose next check is beyond the calendar; any other failure does not keep the points from being
forwarded. -/
def record (s : Scheduler β τ) (id : String) (now : Timestamp) : Scheduler β τ :=
  match s.run? id with
  | some { phase := .recording host points, .. } =>
    let (result, link) := s.link.recordRun s.actor id now points
    let s := { s with link }
    match result with
    | .error (.notFound ..) | .error .beyondCalendar => s.finish id
    | _ =>
      match points.bind fun ps => Forwarder.delivery? ps host with
      | some delivery => s.enter id (.forwarding delivery)
      | none => s.finish id
  | _ => s

/-- The fourth phase, once for each write: the database accepted the batch or did not. -/
def write (s : Scheduler β τ) (id : String) (accepted : Bool) : Scheduler β τ :=
  match s.run? id with
  | some { phase := .forwarding delivery, .. } =>
    match s.forwarder.fate delivery accepted with
    | .delivered => { s with delivered := delivery.batch :: s.delivered }.finish id
    | .retry next => s.enter id (.forwarding next)
    | .dropped => s.finish id
  | _ => s

/-- The end of a run that breaks off, in whatever phase it is. -/
def breakOff (s : Scheduler β τ) (id : String) : Scheduler β τ :=
  match s.run? id with
  | none => s
  | some _ => s.finish id

end Steps

end Scheduler

end Hostwatch
