import Hostwatch.Proofs.Scheduler.Waiting

/-!
# The pace of a probe

A probe that only the scheduler writes should run at most once per interval: its next check lies at
least one interval after its last run. The invariant ties the next check to the run under way: a run
begins at or after the next check, and no clock in it goes back behind its beginning, so both what
it records and what it puts off lead to a check that is late enough.

That fails in one place. If one interval after a run is beyond the calendar, only the time of the
run is recorded, and the next check stays where it was: before the run.
-/

namespace Hostwatch

/-- The next check is at least the interval later than the last run. -/
def Probe.SpacedBy {α : Type} (q : Probe α) (interval : Span) : Prop :=
  ∀ last ∈ q.lastCheck, ∀ next ∈ q.nextCheck, last.toNanos + interval.nanos ≤ next.toNanos

instance {α : Type} (q : Probe α) (interval : Span) : Decidable (q.SpacedBy interval) :=
  inferInstanceAs (Decidable (∀ last ∈ q.lastCheck, ∀ next ∈ q.nextCheck,
    last.toNanos + interval.nanos ≤ next.toNanos))

/-- Whether a run is about to record its outcome. -/
def Run.isRecording {τ : Type} (r : Run τ) : Bool :=
  match r.phase with
  | .recording .. => true
  | _ => false

theorem Run.isRecording_iff {τ : Type} {r : Run τ} :
    r.isRecording = true ↔ ∃ host points, r.phase = .recording host points := by
  unfold isRecording
  split
  · next host points phase => exact iff_of_true rfl ⟨host, points, phase⟩
  · next other => exact iff_of_false (by simp) fun ⟨host, points, phase⟩ => other host points phase

namespace World

variable {β τ : Type} {p q q' : Probe AgentRef} {begun : Option Timestamp}

/-! ### The record and the run of a probe -/

/-- When the look for work was that started the latest run. -/
def Step.begunAfter (next : Step β τ) (begun : Option Timestamp) (run run' : Option (Run τ)) :
    Option Timestamp :=
  match next with
  | .dispatch now _ => if run.isNone && run'.isSome then some now else begun
  | _ => begun

/-- A clock that is read in the run of a probe is not behind the beginning of the run. -/
def Step.Follows (next : Step β τ) (id : String) (begun : Option Timestamp)
    (run : Option (Run τ)) : Prop :=
  match next with
  | .postpone other now | .record other now => other = id → run ≠ none → ∀ b ∈ begun, b ≤ now
  | _ => True

/-- The outcome of the run of a probe is recorded, and one interval later is beyond the calendar. -/
def Step.Overruns (next : Step β τ) (p : Probe AgentRef) (run : Option (Run τ)) : Prop :=
  match next with
  | .record id now =>
    id = p.id ∧ (∃ r ∈ run, r.isRecording = true) ∧ now.add? p.interval = none
  | _ => False

/-- A probe is in step: its next check is late enough, and a run that has yet to record its outcome
has begun at or after it. -/
structure InStep (p : Probe AgentRef) (begun : Option Timestamp) (q : Probe AgentRef)
    (run : Option (Run τ)) : Prop where
  interval : q.interval = p.interval
  unplanned : q.nextCheck = none → q.lastCheck = none
  spaced : q.SpacedBy p.interval
  running : ∀ r ∈ run, r.probe.interval = p.interval
  come : ∀ r ∈ run, r.phase.recorded = false → ∃ b ∈ begun, ∃ next ∈ q.nextCheck, next ≤ b

theorem begunAfter_same (next : Step β τ) (begun : Option Timestamp) (run : Option (Run τ)) :
    next.begunAfter begun run run = begun := by
  unfold Step.begunAfter
  split
  · cases run with
    | none => rfl
    | some r => rfl
  · rfl

theorem begunAfter_some (next : Step β τ) (begun : Option Timestamp) (r : Run τ)
    (run' : Option (Run τ)) : next.begunAfter begun (some r) run' = begun := by
  unfold Step.begunAfter
  split
  · rfl
  · rfl

namespace InStep

variable {run run' : Option (Run τ)} {next : Step β τ}
variable (inStep : InStep p begun q run)
include inStep

/-- When a look for work sets the next check anew, the old one has passed. -/
theorem le_of_unscheduled (nonneg : 0 ≤ p.interval.nanos) {now : Timestamp}
    (state : q.state now false = .unscheduled) :
    ∀ last ∈ q.lastCheck, last.toNanos + p.interval.nanos ≤ now.toNanos := by
  intro last checked
  cases planned : q.nextCheck with
  | none => cases checked.symm.trans (inStep.unplanned planned)
  | some next =>
      have spaced := inStep.spaced last checked next planned
      have late := (Probe.state_eq_unscheduled_iff planned).mp state
      rw [inStep.interval] at late
      omega

/-- A run does not begin before one interval has passed since the last one. -/
theorem spaced_of_due {now : Timestamp} (state : q.state now false = .due) :
    ∀ last ∈ q.lastCheck, last.toNanos + p.interval.nanos ≤ now.toNanos := by
  intro last checked
  obtain ⟨next, planned, come⟩ := Probe.exists_le_of_due state
  have spaced := inStep.spaced last checked next planned
  rw [Timestamp.le_iff] at come
  omega

/-- Until a run records its outcome, the clock in it is at or after the next check. -/
theorem le_clock {r : Run τ} (under : run = some r) (unrecorded : r.phase.recorded = false)
    {now : Timestamp} (follows : ∀ b ∈ begun, b ≤ now) : ∃ next ∈ q.nextCheck, next ≤ now := by
  obtain ⟨b, since, next, planned, come⟩ := inStep.come r under unrecorded
  refine ⟨next, planned, ?_⟩
  have later := follows b since
  rw [Timestamp.le_iff] at come later ⊢
  omega

theorem becomes (nonneg : 0 ≤ p.interval.nanos) (own : q.id = p.id)
    (becomes : Becomes q run next q' run') (follows : next.Follows p.id begun run)
    (whole : ¬ next.Overruns p run) :
    InStep p (next.begunAfter begun run run') q' run' := by
  obtain ⟨interval, unplanned, spaced, running, come⟩ := id inStep
  cases becomes with
  | stays =>
      rw [begunAfter_same]
      exact inStep
  | starts words state =>
      refine ⟨interval, unplanned, spaced, ?_, ?_⟩
      · rintro r ⟨⟩
        exact interval
      · rintro r ⟨⟩ -
        exact ⟨_, rfl, Probe.exists_le_of_due state⟩
  | plans words state ahead =>
      refine ⟨interval, by simp, ?_, by simp, by simp⟩
      rintro last checked _ ⟨⟩
      have passed := inStep.le_of_unscheduled nonneg state last checked
      rw [Timestamp.le_iff] at ahead
      omega
  | @moves r next phase same =>
      rw [begunAfter_some]
      refine ⟨interval, unplanned, spaced, ?_, ?_⟩
      · rintro _ ⟨⟩
        exact running r rfl
      · rintro _ ⟨⟩ unrecorded
        exact come r rfl (same.symm.trans unrecorded)
  | ends => exact ⟨interval, unplanned, spaced, by simp, by simp⟩
  | putsOff phase sum =>
      refine ⟨interval, by simp, ?_, by simp, by simp⟩
      rintro last checked _ ⟨⟩
      obtain ⟨old, planned, passed⟩ :=
        inStep.le_clock rfl (by simp [phase, Phase.recorded]) (follows own (Option.some_ne_none _))
      have before := spaced last checked old planned
      have later := Timestamp.toNanos_of_add? sum
      rw [running _ rfl] at later
      rw [Timestamp.le_iff] at passed
      omega
  | @records r host points now next run phase sum forwarding =>
      refine ⟨interval, by simp, ?_, ?_, ?_⟩
      · rintro _ ⟨⟩ _ ⟨⟩
        exact Int.le_of_eq (by rw [Timestamp.toNanos_of_add? sum, interval])
      · intro r' entered
        obtain ⟨delivery, rfl⟩ := forwarding r' entered
        exact running r rfl
      · intro r' entered unrecorded
        obtain ⟨delivery, rfl⟩ := forwarding r' entered
        cases unrecorded
  | @overruns r host points now phase beyond =>
      rw [interval] at beyond
      exact absurd ⟨own, ⟨r, rfl, by simp [Run.isRecording, phase]⟩, beyond⟩ whole

end InStep

/-! ### What is stored -/

/-- The next check of a probe is late enough in the store. -/
def Spaced (w : World β τ) (p : Probe AgentRef) : Prop :=
  ∀ q ∈ w.store.probe? p.id, q.SpacedBy p.interval

instance (w : World β τ) (p : Probe AgentRef) : Decidable (w.Spaced p) :=
  inferInstanceAs (Decidable (∀ q ∈ w.store.probe? p.id, q.SpacedBy p.interval))

/-- What is stored of a probe is in step with its run. -/
structure Paced (w : World β τ) (p : Probe AgentRef) (begun : Option Timestamp) : Prop where
  plain : w.Plain
  inStep : ∃ q, w.store.probe? p.id = some q ∧ InStep p begun q (w.scheduler.run? p.id)

/-- A probe that was never run and has no next check is stored, and nobody is busy with it. -/
structure Added (w : World β τ) (p : Probe AgentRef) : Prop where
  stored : w.store.probe? p.id = some p
  unchecked : p.lastCheck = none
  unplanned : p.nextCheck = none
  free : w.scheduler.isRunning p.id = false
  looks : w.looks = []

theorem Added.paced {w : World β τ} (added : w.Added p) (plain : w.Plain) : w.Paced p none := by
  refine ⟨plain, p, added.stored, rfl, fun _ => added.unchecked, ?_, ?_, ?_⟩
  · simp [Probe.SpacedBy, added.unchecked]
  · simp [plain.run?_eq_none added.free]
  · simp [plain.run?_eq_none added.free]

theorem Paced.spaced {w : World β τ} (paced : w.Paced p begun) : w.Spaced p := by
  obtain ⟨q, stored, inStep⟩ := paced.inStep
  intro q' stored'
  cases stored.symm.trans stored'
  exact inStep.spaced

/-! ### One step -/

variable [Plugin β] [Plugin τ] {w : World β τ} {steps : List (Step β τ)}

/-- When the look for work was that started the latest run of a probe, after one more step. -/
def begunAfter (w : World β τ) (id : String) (begun : Option Timestamp) (next : Step β τ) :
    Option Timestamp :=
  next.begunAfter begun (w.scheduler.run? id) ((w.step next).scheduler.run? id)

/-- In each of several steps, the clock in the run of a probe is not behind the beginning of the
run. -/
def Punctual (w : World β τ) (id : String) (begun : Option Timestamp) : List (Step β τ) → Prop
  | [] => True
  | next :: rest =>
    next.Follows id begun (w.scheduler.run? id) ∧
      (w.step next).Punctual id (w.begunAfter id begun next) rest

/-- No step of several steps overruns. -/
def Whole (w : World β τ) (p : Probe AgentRef) (steps : List (Step β τ)) : Prop :=
  ∀ n (next : Step β τ), steps[n]? = some next →
    ¬ next.Overruns p ((w.run (steps.take n)).scheduler.run? p.id)

theorem whole_cons {next : Step β τ} {rest : List (Step β τ)} :
    w.Whole p (next :: rest) ↔
      ¬ next.Overruns p (w.scheduler.run? p.id) ∧ (w.step next).Whole p rest := by
  constructor
  · intro whole
    exact ⟨whole 0 next rfl, fun n => whole (n + 1)⟩
  · rintro ⟨first, later⟩ (_ | n) other at_
    · cases at_
      exact first
    · exact later n other at_

namespace Paced

section Next

variable {next : Step β τ} (paced : w.Paced p begun)
variable (follows : next.Follows p.id begun (w.scheduler.run? p.id))
include paced follows

theorem step (nonneg : 0 ≤ p.interval.nanos) (alone : w.LeftAlone p.id next)
    (whole : ¬ next.Overruns p (w.scheduler.run? p.id)) :
    (w.step next).Paced p (w.begunAfter p.id begun next) := by
  obtain ⟨q, stored, inStep⟩ := paced.inStep
  obtain ⟨q', stored', becomes⟩ := paced.plain.becomes stored alone
  have own : q.id = p.id := Store.id_of_probe? stored
  exact ⟨paced.plain.step alone, q', stored', inStep.becomes nonneg own becomes follows whole⟩

/-- A run that overruns leaves the next check where it was, before the run. -/
theorem not_spaced (positive : 0 < p.interval.nanos)
    (overruns : next.Overruns p (w.scheduler.run? p.id)) : ¬ (w.step next).Spaced p := by
  obtain ⟨q, stored, inStep⟩ := paced.inStep
  have own : q.id = p.id := Store.id_of_probe? stored
  cases next with
  | record id now =>
      obtain ⟨rfl, ⟨r, under, recording⟩, beyond⟩ := overruns
      obtain ⟨host, points, phase⟩ := Run.isRecording_iff.mp recording
      have recording : w.scheduler.run? p.id = some { r with phase := .recording host points } := by
        rw [← phase]
        exact under
      obtain ⟨next, planned, come⟩ :=
        inStep.le_clock recording rfl (follows rfl (by simp [recording]))
      rw [← inStep.interval] at beyond
      rw [← own] at stored recording
      obtain ⟨after, -⟩ := paced.plain.record_beyond stored recording beyond
      intro spaced
      rw [own] at after
      have late := spaced _ after now rfl next planned
      rw [Timestamp.le_iff] at come
      omega
  | _ => exact overruns.elim

end Next

/-! ### Several steps -/

theorem run (paced : w.Paced p begun) (nonneg : 0 ≤ p.interval.nanos) (alone : w.Alone p.id steps)
    (punctual : w.Punctual p.id begun steps) (whole : w.Whole p steps) :
    ∃ begun', (w.run steps).Paced p begun' := by
  induction steps generalizing w begun with
  | nil => exact ⟨begun, paced⟩
  | cons next rest ih =>
      obtain ⟨first, later⟩ := whole_cons.mp whole
      exact ih (paced.step punctual.1 nonneg alone.1 first) alone.2 punctual.2 later

/-- The next check stays late enough exactly as long as no run overruns. -/
theorem spaced_iff (paced : w.Paced p begun) (positive : 0 < p.interval.nanos)
    (alone : w.Alone p.id steps) (punctual : w.Punctual p.id begun steps) :
    (∀ n, (w.run (steps.take n)).Spaced p) ↔ w.Whole p steps := by
  induction steps generalizing w begun with
  | nil =>
      refine iff_of_true (fun n => ?_) (by simp [Whole])
      rw [List.take_nil]
      exact paced.spaced
  | cons next rest ih =>
      rw [whole_cons]
      by_cases overruns : next.Overruns p (w.scheduler.run? p.id)
      · refine iff_of_false (fun spaced => ?_) (fun whole => whole.1 overruns)
        exact paced.not_spaced punctual.1 positive overruns (spaced 1)
      · have after := paced.step punctual.1 (Int.le_of_lt positive) alone.1 overruns
        have later := ih after alone.2 punctual.2
        constructor
        · intro spaced
          exact ⟨overruns, later.mp fun n => spaced (n + 1)⟩
        · rintro ⟨-, whole⟩ (_ | n)
          · exact paced.spaced
          · exact later.mpr whole n

/-- A run that begins does so at least one interval after the last one has ended. -/
theorem starts (paced : w.Paced p begun) {now : Timestamp} {words : List Nat}
    (current : w.LeftAlone p.id (.dispatch now words)) (free : w.scheduler.run? p.id = none)
    (started : (w.step (.dispatch now words)).scheduler.run? p.id ≠ none) :
    ∃ q, w.store.probe? p.id = some q ∧
      ∀ last ∈ q.lastCheck, last.toNanos + p.interval.nanos ≤ now.toNanos := by
  obtain ⟨q, stored, inStep⟩ := paced.inStep
  refine ⟨q, stored, ?_⟩
  obtain ⟨q', stored', becomes⟩ := paced.plain.becomes stored current
  generalize (w.step (.dispatch now words)).scheduler.run? p.id = run' at becomes started
  rw [free] at becomes
  cases becomes with
  | stays => exact absurd rfl started
  | starts words due => exact inStep.spaced_of_due due
  | plans => exact absurd rfl started

end Paced

/-- From the moment its outcome is recorded, a probe waits until one interval later. -/
theorem Plain.waits_after_record (plain : w.Plain) (stored : w.store.probe? q.id = some q)
    (nonneg : 0 ≤ q.interval.nanos) {probe : Probe AgentRef} {host : Host τ}
    {points : Option (List Point)} {finish due : Timestamp}
    (recording : w.scheduler.run? q.id = some { probe, phase := .recording host points })
    (sum : finish.add? q.interval = some due) :
    (w.step (.record q.id finish)).Waits
      { q with lastCheck := some finish, nextCheck := some due, lastPoints := points } due := by
  have alone : w.LeftAlone q.id (.record q.id finish) := trivial
  obtain ⟨record, forwarding⟩ := plain.record_stored stored recording sum
  refine ⟨plain.step alone, record, rfl, nonneg, ?_⟩
  intro r entered
  obtain ⟨delivery, rfl⟩ := forwarding r entered
  rfl

/-- The first look for work that comes one interval after a run or later and finds no run starts the
probe, if it comes at most three intervals after the run. -/
theorem Plain.runs_again {id : String} (plain : w.Plain) (stored : w.store.probe? id = some q)
    (nonneg : 0 ≤ q.interval.nanos) {probe : Probe AgentRef} {host : Host τ}
    {points : Option (List Point)} {finish due now : Timestamp} {words : List Nat}
    (recording : w.scheduler.run? id = some { probe, phase := .recording host points })
    (sum : finish.add? q.interval = some due)
    (alone : (w.step (.record id finish)).Alone id steps)
    (current : ((w.step (.record id finish)).run steps).LeftAlone id (.dispatch now words))
    (misses : (w.step (.record id finish)).Misses id due steps)
    (free : ((w.step (.record id finish)).run steps).scheduler.isRunning id = false)
    (come : due ≤ now) (timely : now.toNanos ≤ finish.toNanos + 3 * q.interval.nanos) :
    ((w.step (.record id finish)).run steps).StartsAt id now words := by
  have own : q.id = id := Store.id_of_probe? stored
  subst own
  have waits := plain.waits_after_record stored nonneg recording sum
  obtain ⟨ripe, -⟩ := waits.run alone misses
  have later := Timestamp.toNanos_of_add? sum
  exact ripe.dispatch (ripe.plain.run?_eq_none free) current come (by dsimp only; omega)

/-! ### From the moment a probe is added -/

theorem Punctual.prefix {first second : List (Step β τ)}
    (punctual : w.Punctual p.id begun (first ++ second)) : w.Punctual p.id begun first := by
  induction first generalizing w begun with
  | nil => trivial
  | cons next rest ih => exact ⟨punctual.1, ih punctual.2⟩

/-- The pace of a probe that only the scheduler writes, from the moment it is added. Its next check
is always at least one interval later than its last run, exactly if no run overruns; and as long as
none has, no run begins earlier than that. Once a run has recorded its outcome, the first look for
work that comes one interval later or after that and finds no run starts the probe, unless it comes
more than three intervals after the run or breaks off before it gets to the probe. -/
theorem pace_of_a_probe {store : Store AgentRef τ} {forwarder : Forwarder} {fleet : Fleet β}
    {earlier steps : List (Step β τ)}
    (added : ((start { store } .system forwarder fleet).run earlier).Added p)
    (positive : 0 < p.interval.nanos)
    (alone : ((start { store } .system forwarder fleet).run earlier).Alone p.id steps)
    (punctual : ((start { store } .system forwarder fleet).run earlier).Punctual p.id none steps) :
    let w := (start { store } .system forwarder fleet).run earlier
    ((∀ n, (w.run (steps.take n)).Spaced p) ↔ w.Whole p steps) ∧
    (∀ before now words after, steps = before ++ .dispatch now words :: after → w.Whole p before →
      (w.run before).scheduler.run? p.id = none →
      ((w.run before).step (.dispatch now words)).scheduler.run? p.id ≠ none →
      ∃ q, (w.run before).store.probe? p.id = some q ∧
        ∀ last ∈ q.lastCheck, last.toNanos + p.interval.nanos ≤ now.toNanos) ∧
    ∀ before finish between now words after,
      steps = before ++ .record p.id finish :: (between ++ .dispatch now words :: after) →
      (∃ r ∈ (w.run before).scheduler.run? p.id, r.isRecording = true) →
      ∀ due, finish.add? p.interval = some due →
      ((w.run before).step (.record p.id finish)).Misses p.id due between →
      let ready := ((w.run before).step (.record p.id finish)).run between
      ready.scheduler.isRunning p.id = false → due ≤ now →
      now.toNanos ≤ finish.toNanos + 3 * p.interval.nanos →
      ready.StartsAt p.id now words := by
  intro w
  have plain : w.Plain := plain_run_start store forwarder fleet added.looks
  have paced : w.Paced p none := added.paced plain
  have nonneg : 0 ≤ p.interval.nanos := Int.le_of_lt positive
  refine ⟨paced.spaced_iff positive alone punctual, ?_, ?_⟩
  · rintro before now words after rfl whole free started
    obtain ⟨calm, current, -⟩ := alone_append.mp alone
    obtain ⟨begun, paced⟩ := paced.run nonneg calm punctual.prefix whole
    exact paced.starts current free started
  · rintro before finish between now words after rfl ⟨r, under, recording⟩ due sum misses ready free
      come timely
    obtain ⟨host, points, phase⟩ := Run.isRecording_iff.mp recording
    have recording : (w.run before).scheduler.run? p.id =
        some { r with phase := .recording host points } := by
      rw [← phase]
      exact under
    obtain ⟨calm, -, alone⟩ := alone_append.mp alone
    obtain ⟨plain, q, stored, same⟩ := plain.run added.stored calm
    obtain ⟨between, current, -⟩ := alone_append.mp alone
    rw [← same] at nonneg sum timely
    exact plain.runs_again stored nonneg recording sum between current misses free come timely

/-- A probe that was never run and has no next check. -/
def newEvery (millis : Int) : Probe AgentRef :=
  { dueEvery millis with nextCheck := none }

/-- The probe has just been added. -/
def addedEvery (millis : Int) : World Agent Transport :=
  (start { store := .empty } .system { maxRetries := 1, backoffMillis := 0 } {}).run
    [.client .system (.addHost web), .client .system (.addProbe (newEvery millis))]

theorem addedEvery_added (millis : Int) : (addedEvery millis).Added (newEvery millis) where
  stored := by with_unfolding_all rfl
  unchecked := rfl
  unplanned := rfl
  free := by with_unfolding_all rfl
  looks := rfl

/-- A look for work plans the probe, the next one starts it, and its agent gathers. -/
def gathersOnce : List (Step Agent Transport) :=
  [.dispatch ⟨1700000000, 0⟩ [], .dispatch ⟨1700000000, 0⟩ [], .lookUp "load",
    .gathered "load" (some []) (.load none)]

/-- A probe that runs every second is run until five seconds past. A look for work half a second
later comes too early, and the next one, three intervals after the run, starts it again. -/
theorem started_three_intervals_later :
    let w := addedEvery 1000
    let recorded := (w.run gathersOnce).step (.record "load" ⟨1700000005, 0⟩)
    let ready := recorded.run [.dispatch ⟨1700000005, 500000000⟩ []]
    w.Added (newEvery 1000) ∧ ready.StartsAt "load" ⟨1700000008, 0⟩ [] := by
  intro w recorded ready
  let steps : List (Step Agent Transport) :=
    gathersOnce ++ .record "load" ⟨1700000005, 0⟩ ::
      ([.dispatch ⟨1700000005, 500000000⟩ []] ++ [.dispatch ⟨1700000008, 0⟩ []])
  have alone : w.Alone "load" steps := by
    refine ⟨?_, ?_, trivial, trivial, trivial, ?_, ?_, trivial⟩ <;>
      exact Option.isNone_iff_eq_none.mp (by decide)
  have punctual : w.Punctual "load" none steps :=
    ⟨trivial, trivial, trivial, trivial, fun _ _ => by decide, trivial, trivial, trivial⟩
  have pace := pace_of_a_probe (addedEvery_added 1000) (by decide) alone punctual
  refine ⟨addedEvery_added 1000, ?_⟩
  refine pace.2.2 gathersOnce ⟨1700000005, 0⟩ [.dispatch ⟨1700000005, 500000000⟩ []]
    ⟨1700000008, 0⟩ [] [] rfl (by decide) ⟨1700000006, 0⟩ (by decide) ?_ ?_ (by decide) (by decide)
  · exact ⟨.inl (by decide), trivial⟩
  · decide

/-- If one interval after the first run lies just beyond the calendar, the next check stays where it
was, at the beginning of the run, and the probe is started again at once. -/
theorem restarted_at_once :
    let millis := 8208566876799000
    let ended := ((addedEvery millis).run gathersOnce).step (.record "load" ⟨1700000001, 0⟩)
    ¬ ended.Spaced (newEvery millis) ∧ ended.scheduler.running = [] ∧
      (ended.step (.dispatch ⟨1700000001, 0⟩ [])).scheduler.running = ["load"] := by
  decide

end World

end Hostwatch
