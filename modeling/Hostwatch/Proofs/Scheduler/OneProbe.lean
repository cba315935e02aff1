import Hostwatch.Proofs.Scheduler.Course
import Hostwatch.Proofs.Scheduler.FreshListing
import Hostwatch.Proofs.Scheduler.OneRun

/-!
# A probe that is left alone

Often only the scheduler itself writes a probe, while everybody else goes on with other things.
Then only looks for work and the run of the probe touch its record. `Becomes` says all that a step
can make of the record and the run of such a probe, so that proofs about them need not look at the
rest of the world.
-/

namespace Hostwatch

/-- Whether a run in that phase has recorded its outcome. -/
def Phase.recorded {τ : Type} : Phase τ → Bool
  | .forwarding _ => true
  | _ => false

namespace Scheduler

variable {β τ : Type} {s s' : Scheduler β τ} {id other : String}

@[simp] theorem run?_withStore (s : Scheduler β τ) (store : Store AgentRef τ) (id : String) :
    (s.withStore store).run? id = s.run? id := rfl

/-! ### What the runs of other probes leave alone -/

theorem Turn.run?_of_ne (turn : s.Turn other s') (different : id ≠ other) :
    s'.run? id = s.run? id := by
  cases turn with
  | waits => rfl
  | moves link fleet phase =>
      rw [run?_enter]
      simp only [different, if_false, Option.map_id_fun', id_eq]
      rfl
  | ends link delivered =>
      rw [run?_finish, if_neg different]
      rfl

theorem probe?_postpone_of_ne (s : Scheduler β τ) (different : id ≠ other) (now : Timestamp) :
    (s.postpone other now).link.store.probe? id = s.link.store.probe? id := by
  unfold postpone
  split
  · split
    · rfl
    · exact (Spares.plan s different _).record
  · rfl

theorem probe?_recordRun_of_ne (store : Store AgentRef τ) (different : id ≠ other)
    (now : Timestamp) (points : Option (List Point)) :
    (store.recordRun .system other now points).2.store.probe? id = store.probe? id := by
  cases read : store.getProbe .system other with
  | error e => rw [Store.recordRun_eq_error read]
  | ok p =>
      obtain ⟨found, visible⟩ := Store.getProbe_eq_ok_iff.mp read
      have own : id ≠ p.id := fun same => different (same.trans (Store.id_of_probe? found))
      rw [Store.recordRun_eq found visible]
      split
      · simp [own]
      · simp [Store.putProbe, own]

theorem Direct.probe?_record_of_ne (direct : s.Direct) (different : id ≠ other) (now : Timestamp) :
    (s.record other now).link.store.probe? id = s.link.store.probe? id := by
  unfold record
  split
  · next host points found =>
      have same := probe?_recordRun_of_ne s.link.store different now points
      simp only [direct.recordRun]
      split
      · exact same
      · exact same
      · split
        · exact same
        · exact same
  · rfl

end Scheduler

namespace World

variable {β τ : Type} {w : World β τ} {id : String} {q : Probe AgentRef}

/-- What a step can make of the record and the run of a probe that is left alone. -/
inductive Becomes (q : Probe AgentRef) :
    Option (Run τ) → Step β τ → Probe AgentRef → Option (Run τ) → Prop where
  | stays (run : Option (Run τ)) (next : Step β τ) : Becomes q run next q run
  | starts {now : Timestamp} (words : List Nat) : q.state now false = .due →
    Becomes q none (.dispatch now words) q (some { probe := q })
  | plans {now next : Timestamp} (words : List Nat) :
    q.state now false = .unscheduled → now ≤ next →
    Becomes q none (.dispatch now words) { q with nextCheck := some next } none
  | moves {r : Run τ} (next : Step β τ) (phase : Phase τ) : phase.recorded = r.phase.recorded →
    Becomes q (some r) next q (some { r with phase })
  | ends (r : Run τ) (next : Step β τ) : Becomes q (some r) next q none
  | putsOff {r : Run τ} {now next : Timestamp} :
    r.phase = .postponing → now.add? r.probe.interval = some next →
    Becomes q (some r) (.postpone q.id now) { q with nextCheck := some next } none
  | records {r : Run τ} {host : Host τ} {points : Option (List Point)} {now next : Timestamp}
    {run : Option (Run τ)} :
    r.phase = .recording host points → now.add? q.interval = some next →
    (∀ r' ∈ run, ∃ delivery, r' = { r with phase := .forwarding delivery }) →
    Becomes q (some r) (.record q.id now)
      { q with lastCheck := some now, nextCheck := some next, lastPoints := points } run
  | overruns {r : Run τ} {host : Host τ} {points : Option (List Point)} {now : Timestamp} :
    r.phase = .recording host points → now.add? q.interval = none →
    Becomes q (some r) (.record q.id now) { q with lastCheck := some now } none

theorem Becomes.interval_eq {q q' : Probe AgentRef} {run run' : Option (Run τ)} {next : Step β τ}
    (becomes : Becomes q run next q' run') : q'.interval = q.interval := by
  cases becomes with
  | stays | starts | plans | moves | ends | putsOff | records | overruns => rfl

/-- The marks are those of the runs, and nothing stands between the scheduler and the store. -/
structure Plain (w : World β τ) : Prop where
  marked : w.Marked
  looks : w.looks = []
  direct : w.scheduler.Direct

/-- A probe is marked exactly if it has a run. -/
theorem Plain.isRunning_eq (plain : w.Plain) (id : String) :
    w.scheduler.isRunning id = (w.scheduler.run? id).isSome := by
  have perm := plain.marked.perm
  rw [held, plain.looks, List.flatMap_nil, List.nil_append] at perm
  rw [Bool.eq_iff_iff, Scheduler.isRunning, List.contains_iff_mem, perm.mem_iff,
    Scheduler.running, Scheduler.run?, List.find?_isSome, List.mem_map]
  simp only [beq_iff_eq]

theorem Plain.run?_eq_none (plain : w.Plain) (free : w.scheduler.isRunning id = false) :
    w.scheduler.run? id = none := by
  rw [plain.isRunning_eq, Option.isSome_eq_false_iff] at free
  exact Option.isNone_iff_eq_none.mp free

/-- There is always a probe that a step is not about. -/
theorem exists_elsewhere (next : Step β τ) : ∃ id, next.run? ≠ some id := by
  by_cases empty : next.run? = some ""
  · exact ⟨"a", by simp [empty]⟩
  · exact ⟨"", empty⟩

variable [Plugin β] [Plugin τ]

/-- Only the scheduler writes a probe, and it looks for work at once and in the current listing. -/
def LeftAlone (w : World β τ) (id : String) : Step β τ → Prop
  | .client actor op => (w.store.perform actor op).store.probe? id = w.store.probe? id
  | .dispatch .. => w.scheduler.link.listed = none
  | .list _ | .look .. | .abandon _ => False
  | _ => True

/-- A probe is left alone in each of several steps. -/
def Alone (w : World β τ) (id : String) : List (Step β τ) → Prop
  | [] => True
  | next :: rest => w.LeftAlone id next ∧ (w.step next).Alone id rest

theorem direct_step (direct : w.scheduler.Direct) (next : Step β τ) :
    (w.step next).scheduler.Direct := by
  obtain ⟨id, elsewhere⟩ := exists_elsewhere next
  exact direct.keeps (w.step_keeps elsewhere)

theorem direct_run (direct : w.scheduler.Direct) (steps : List (Step β τ)) :
    (w.run steps).scheduler.Direct := by
  induction steps generalizing w with
  | nil => exact direct
  | cons next rest ih => exact ih (direct_step direct next)

theorem Plain.step (plain : w.Plain) {next : Step β τ} (alone : w.LeftAlone id next) :
    (w.step next).Plain := by
  refine ⟨plain.marked.step next, ?_, direct_step plain.direct next⟩
  cases next with
  | list | look | abandon => exact alone.elim
  | _ => exact plain.looks

/-- Whether a step may touch the store. -/
def Step.writes : Step β τ → Bool
  | .dispatch .. | .look .. | .postpone .. | .record .. | .client .. => true
  | _ => false

theorem store_step (w : World β τ) {next : Step β τ} (reads : next.writes = false) :
    (w.step next).store = w.store := by
  cases next with
  | dispatch | look | postpone | record | client => cases reads
  | list now =>
      have same : (w.scheduler.link.listProbes w.scheduler.actor .all).2.store = w.store :=
        w.scheduler.link.store_read _ _
      simp only [step]
      split
      · next answer => rwa [answer] at same
      · next answer => rwa [answer] at same
  | abandon place =>
      simp only [step, Look.abandon]
      split
      · rfl
      · split
        · rfl
        · rfl
  | lookUp id =>
      simp only [step, Scheduler.lookUp]
      split
      · next probe found =>
          have same : (w.scheduler.link.getHost w.scheduler.actor probe.hostId).2.store = w.store :=
            w.scheduler.link.store_read _ _
          split
          · next answer => rwa [answer] at same
          · next answer => rwa [answer] at same
      · rfl
  | gathered id points agent =>
      simp only [step, Scheduler.gathered]
      split
      · rfl
      · rfl
  | write id accepted => exact store_write w id accepted
  | crash id =>
      simp only [step, Scheduler.breakOff]
      split
      · rfl
      · rfl
  | freeze | enlist => rfl

/-- The record and the run of a probe after a step are what the step can make of them. -/
def StepsTo (w : World β τ) (q : Probe AgentRef) (next : Step β τ) : Prop :=
  ∃ q', (w.step next).store.probe? q.id = some q' ∧
    Becomes q (w.scheduler.run? q.id) next q' ((w.step next).scheduler.run? q.id)

section Steps

variable (stored : w.store.probe? q.id = some q)
include stored

theorem stepsTo_of_same {next : Step β τ}
    (record : (w.step next).store.probe? q.id = w.store.probe? q.id)
    (run : (w.step next).scheduler.run? q.id = w.scheduler.run? q.id) : w.StepsTo q next := by
  refine ⟨q, record.trans stored, ?_⟩
  rw [run]
  exact .stays _ next

/-- A step that does not write can only change the run. -/
theorem stepsTo_of_reads {next : Step β τ} (reads : next.writes = false)
    (run : Becomes q (w.scheduler.run? q.id) next q ((w.step next).scheduler.run? q.id)) :
    w.StepsTo q next := by
  refine ⟨q, ?_, run⟩
  rw [w.store_step reads]
  exact stored

theorem stepsTo_lookUp : w.StepsTo q (.lookUp q.id) := by
  refine stepsTo_of_reads stored rfl ?_
  simp only [step, Scheduler.lookUp]
  split
  · next probe found =>
      rw [found]
      split
      · next host link answer =>
          have after := Scheduler.run?_enter_self (s := { w.scheduler with link }) found
            (.gathering host)
          rw [after]
          exact .moves _ _ rfl
      · next link answer =>
          have after := Scheduler.run?_enter_self (s := { w.scheduler with link }) found .postponing
          rw [after]
          exact .moves _ _ rfl
  · exact .stays _ _

theorem stepsTo_gathered (points : Option (List Point)) (agent : β) :
    w.StepsTo q (.gathered q.id points agent) := by
  refine stepsTo_of_reads stored rfl ?_
  simp only [step, Scheduler.gathered]
  split
  · next probe host found =>
      have after := Scheduler.run?_enter_self
        (s := { w.scheduler with fleet := w.scheduler.fleet.update probe.agent agent }) found
        (.recording host points)
      rw [found, after]
      exact .moves _ _ rfl
  · exact .stays _ _

theorem stepsTo_write (accepted : Bool) : w.StepsTo q (.write q.id accepted) := by
  refine stepsTo_of_reads stored rfl ?_
  simp only [step, Scheduler.write]
  split
  · next probe delivery found =>
      rw [found]
      split
      · rw [Scheduler.run?_finish, if_pos rfl]
        exact .ends _ _
      · next again =>
          rw [Scheduler.run?_enter_self found]
          exact .moves _ _ rfl
      · rw [Scheduler.run?_finish, if_pos rfl]
        exact .ends _ _
  · exact .stays _ _

theorem stepsTo_crash : w.StepsTo q (.crash q.id) := by
  refine stepsTo_of_reads stored rfl ?_
  simp only [step, Scheduler.breakOff]
  split
  · exact .stays _ _
  · next r found =>
      rw [found, Scheduler.run?_finish, if_pos rfl]
      exact .ends _ _

theorem Plain.stepsTo_postpone (plain : w.Plain) (now : Timestamp) :
    w.StepsTo q (.postpone q.id now) := by
  simp only [StepsTo, World.step, store, Scheduler.postpone]
  split
  · next probe found =>
      rw [found]
      split
      · refine ⟨q, stored, ?_⟩
        rw [Scheduler.run?_finish, if_pos rfl]
        exact .ends _ _
      · next next sum =>
          refine ⟨{ q with nextCheck := some next }, ?_, ?_⟩
          · exact (plain.direct.plan stored next).record
          · rw [Scheduler.run?_finish, if_pos rfl]
            exact .putsOff rfl sum
  · exact ⟨q, stored, .stays _ _⟩

section Recording

variable {probe : Probe AgentRef} {host : Host τ} {points : Option (List Point)} {now : Timestamp}
variable (recording : w.scheduler.run? q.id = some { probe, phase := .recording host points })
include recording

theorem Plain.record_beyond (plain : w.Plain) (beyond : now.add? q.interval = none) :
    (w.step (.record q.id now)).store.probe? q.id = some { q with lastCheck := some now } ∧
      (w.step (.record q.id now)).scheduler.run? q.id = none := by
  have own : probe.id = q.id := Scheduler.id_of_run? recording
  have runs : w.scheduler.RunsAt probe (.recording host points) :=
    ⟨plain.direct.sound, plain.direct.system, own ▸ recording⟩
  have after := runs.record_beyond (own ▸ stored) beyond
  rw [own] at after
  simp only [World.step, store, after]
  exact ⟨by simp [Scheduler.withStore, Scheduler.finish, Scheduler.release], by simp⟩

theorem Plain.record_stored (plain : w.Plain) {next : Timestamp}
    (sum : now.add? q.interval = some next) :
    (w.step (.record q.id now)).store.probe? q.id =
        some { q with lastCheck := some now, nextCheck := some next, lastPoints := points } ∧
      ∀ r ∈ (w.step (.record q.id now)).scheduler.run? q.id,
        ∃ delivery, r = { probe, phase := .forwarding delivery } := by
  have own : probe.id = q.id := Scheduler.id_of_run? recording
  have runs : w.scheduler.RunsAt probe (.recording host points) :=
    ⟨plain.direct.sound, plain.direct.system, own ▸ recording⟩
  have after := runs.record_stored (own ▸ stored) sum
  rw [own] at after
  simp only [World.step, store, after]
  split
  · next delivery handed =>
      refine ⟨by simp [Scheduler.withStore, Scheduler.enter], ?_⟩
      intro r entered
      rw [Scheduler.run?_enter, Scheduler.run?_withStore, recording, Option.map_some,
        if_pos rfl] at entered
      exact ⟨delivery, (Option.mem_some.mp entered).symm⟩
  · exact ⟨by simp [Scheduler.withStore, Scheduler.finish, Scheduler.release], by simp⟩

end Recording

theorem Plain.stepsTo_record (plain : w.Plain) (now : Timestamp) :
    w.StepsTo q (.record q.id now) := by
  by_cases recording : ∃ probe host points,
      w.scheduler.run? q.id = some { probe, phase := .recording host points }
  · obtain ⟨probe, host, points, found⟩ := recording
    cases sum : now.add? q.interval with
    | none =>
        obtain ⟨record, ended⟩ := plain.record_beyond stored found sum
        refine ⟨_, record, ?_⟩
        rw [found, ended]
        exact .overruns rfl sum
    | some next =>
        obtain ⟨record, forwarding⟩ := plain.record_stored stored found sum
        refine ⟨_, record, ?_⟩
        rw [found]
        exact .records rfl sum forwarding
  · -- A run that is not about to record does nothing.
    have nothing : w.scheduler.record q.id now = w.scheduler := by
      unfold Scheduler.record
      split
      · next found => exact absurd ⟨_, _, _, found⟩ recording
      · rfl
    exact stepsTo_of_same stored (congrArg (·.link.store.probe? q.id) nothing)
      (congrArg (·.run? q.id) nothing)

/-- The run of another probe. -/
theorem Plain.stepsTo_elsewhere (plain : w.Plain) {next : Step β τ} {other : String}
    (own : next.run? = some other) (different : q.id ≠ other) : w.StepsTo q next := by
  cases next with
  | dispatch | list | look | abandon | client | freeze | enlist => cases own
  | lookUp id =>
      cases own
      exact stepsTo_of_same stored (congrArg (·.probe? q.id) (w.store_step rfl))
        ((w.scheduler.lookUp_turn _).run?_of_ne different)
  | postpone id now =>
      cases own
      exact stepsTo_of_same stored (w.scheduler.probe?_postpone_of_ne different now)
        ((w.scheduler.postpone_turn _ now).run?_of_ne different)
  | gathered id points agent =>
      cases own
      exact stepsTo_of_same stored (congrArg (·.probe? q.id) (w.store_step rfl))
        ((w.scheduler.gathered_turn _ points agent).run?_of_ne different)
  | record id now =>
      cases own
      exact stepsTo_of_same stored (plain.direct.probe?_record_of_ne different now)
        ((w.scheduler.record_turn _ now).run?_of_ne different)
  | write id accepted =>
      cases own
      exact stepsTo_of_same stored (congrArg (·.probe? q.id) (w.store_step rfl))
        ((w.scheduler.write_turn _ accepted).run?_of_ne different)
  | crash id =>
      cases own
      exact stepsTo_of_same stored (congrArg (·.probe? q.id) (w.store_step rfl))
        ((w.scheduler.breakOff_turn _).run?_of_ne different)

theorem Plain.stepsTo_dispatch (plain : w.Plain) (current : w.scheduler.link.listed = none)
    (now : Timestamp) (words : List Nat) : w.StepsTo q (.dispatch now words) := by
  have spared (spares : Scheduler.Spares q.id w.scheduler
      (w.scheduler.dispatch now words).scheduler) : w.StepsTo q (.dispatch now words) :=
    stepsTo_of_same stored spares.record spares.run?
  cases plain.direct.dispatch current stored now words with
  | running marked spares => exact spared spares
  | brokenOff broken spares => exact spared spares
  | idle state spares => exact spared spares
  | beyond free going state spares => exact spared spares
  | starts free going due record run =>
      refine ⟨q, record, ?_⟩
      rw [plain.run?_eq_none free] at run ⊢
      rw [World.step, run]
      exact .starts words due
  | plans next free going state ahead resets =>
      refine ⟨{ q with nextCheck := some next }, resets.record, ?_⟩
      have run := resets.run?
      rw [plain.run?_eq_none free] at run ⊢
      rw [World.step, run]
      exact .plans words state ahead

/-- All that can happen to a stored probe in a step that leaves it alone. -/
theorem Plain.stepsTo (plain : w.Plain) {next : Step β τ} (alone : w.LeftAlone q.id next) :
    w.StepsTo q next := by
  cases own : next.run? with
  | some other =>
      by_cases same : other = q.id
      · subst same
        cases next with
        | dispatch | list | look | abandon | client | freeze | enlist => cases own
        | lookUp id =>
            cases own
            exact stepsTo_lookUp stored
        | postpone id now =>
            cases own
            exact plain.stepsTo_postpone stored now
        | gathered id points agent =>
            cases own
            exact stepsTo_gathered stored points agent
        | record id now =>
            cases own
            exact plain.stepsTo_record stored now
        | write id accepted =>
            cases own
            exact stepsTo_write stored accepted
        | crash id =>
            cases own
            exact stepsTo_crash stored
      · exact plain.stepsTo_elsewhere stored own (Ne.symm same)
  | none =>
      cases next with
      | lookUp | postpone | gathered | record | write | crash => cases own
      | list | look | abandon => exact alone.elim
      | dispatch now words => exact plain.stepsTo_dispatch stored alone now words
      | client actor op => exact stepsTo_of_same stored alone rfl
      | freeze | enlist => exact stepsTo_of_same stored rfl rfl

end Steps

/-- What a step that leaves a stored probe alone makes of its record and its run. -/
theorem Plain.becomes (plain : w.Plain) (stored : w.store.probe? id = some q) {next : Step β τ}
    (alone : w.LeftAlone id next) :
    ∃ q', (w.step next).store.probe? id = some q' ∧
      Becomes q (w.scheduler.run? id) next q' ((w.step next).scheduler.run? id) := by
  obtain rfl : q.id = id := Store.id_of_probe? stored
  exact plain.stepsTo stored alone

/-! ### Several steps -/

theorem alone_append {first second : List (Step β τ)} :
    w.Alone id (first ++ second) ↔ w.Alone id first ∧ (w.run first).Alone id second := by
  induction first generalizing w with
  | nil => simp [Alone, run]
  | cons next rest ih => simp [Alone, ih, and_assoc]

/-- A scheduler that has run from the start and is not busy looking for work. -/
theorem plain_run_start (store : Store AgentRef τ) (forwarder : Forwarder) (fleet : Fleet β)
    {earlier : List (Step β τ)}
    (looks : ((start { store } .system forwarder fleet).run earlier).looks = []) :
    ((start { store } .system forwarder fleet).run earlier).Plain where
  marked := Marked.run ⟨List.nodup_nil, .refl _⟩ earlier
  looks := looks
  direct := direct_run ⟨rfl, rfl⟩ earlier

/-- A probe that is left alone stays stored, and so does its interval. -/
theorem Plain.run (plain : w.Plain) (stored : w.store.probe? id = some q) {steps : List (Step β τ)}
    (alone : w.Alone id steps) :
    (w.run steps).Plain ∧
      ∃ q', (w.run steps).store.probe? id = some q' ∧ q'.interval = q.interval := by
  induction steps generalizing w q with
  | nil => exact ⟨plain, q, stored, rfl⟩
  | cons next rest ih =>
      obtain ⟨first, later⟩ := alone
      obtain ⟨q', stored', becomes⟩ := plain.becomes stored first
      obtain ⟨plainly, q'', there, same⟩ := ih (plain.step first) stored' later
      exact ⟨plainly, q'', there, same.trans becomes.interval_eq⟩

end World

end Hostwatch
