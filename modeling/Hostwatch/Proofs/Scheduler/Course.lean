import Hostwatch.Proofs.Scheduler.Direct

/-!
# The course of a run

A run looks its host up, gathers, records the outcome and forwards the points. Each of these works
with the store as the others have left it by then. What the run itself does to the store and to the
database in the end depends only on what it finds at these moments.

The one thing that goes wrong is the calendar. If the next check lies beyond it, the record of the
run stays a fragment, and its points are not forwarded.
-/

namespace Hostwatch

namespace Scheduler

variable {β τ : Type} {s : Scheduler β τ} {id : String} {p : Probe AgentRef}

/-! ### The phases over a link without faults -/

/-- The scheduler with another store at the end of its link. -/
def withStore (s : Scheduler β τ) (store : Store AgentRef τ) : Scheduler β τ :=
  { s with link := { s.link with store } }

/-- The run of a probe is in a phase. The scheduler sees everything, and nothing stands between it
and the store. -/
structure RunsAt (s : Scheduler β τ) (p : Probe AgentRef) (phase : Phase τ) : Prop where
  sound : s.link.faults = []
  system : s.actor = .system
  here : s.run? p.id = some { probe := p, phase }

namespace RunsAt

variable {phase : Phase τ}

theorem keeps {s' : Scheduler β τ} (runs : s.RunsAt p phase) (keeps : Keeps p.id s s') :
    s'.RunsAt p phase :=
  ⟨keeps.sound runs.sound, keeps.actor.trans runs.system, keeps.run _ runs.here⟩

theorem enter (runs : s.RunsAt p phase) (next : Phase τ) : (s.enter p.id next).RunsAt p next :=
  ⟨runs.sound, runs.system, run?_enter_self runs.here next⟩

theorem direct (runs : s.RunsAt p phase) : s.Direct :=
  ⟨runs.sound, runs.system⟩

theorem lookUp_found {host : Host τ} (runs : s.RunsAt p .starting)
    (found : s.link.store.host? p.hostId = some host) :
    s.lookUp p.id = s.enter p.id (.gathering host) := by
  unfold lookUp
  rw [runs.here]
  simp only [runs.direct.getHost, Store.findHost, found]

theorem lookUp_missing (runs : s.RunsAt p .starting)
    (missing : s.link.store.host? p.hostId = none) :
    s.lookUp p.id = s.enter p.id .postponing := by
  unfold lookUp
  rw [runs.here]
  simp only [runs.direct.getHost, Store.findHost, missing]

theorem gathered {host : Host τ} (runs : s.RunsAt p (.gathering host))
    (points : Option (List Point)) (agent : β) :
    s.gathered p.id points agent =
      { s with fleet := s.fleet.update p.agent agent }.enter p.id (.recording host points) := by
  unfold Scheduler.gathered
  rw [runs.here]

section Recording

variable {host : Host τ} {points : Option (List Point)} {now : Timestamp} {q : Probe AgentRef}
variable (runs : s.RunsAt p (.recording host points))
include runs

theorem record_gone (gone : s.link.store.probe? p.id = none) :
    s.record p.id now = s.finish p.id := by
  have refused : s.link.store.getProbe .system p.id = .error (.notFound .probe p.id) := by
    simp only [Store.getProbe_system, Store.findProbe, gone]
  unfold record
  rw [runs.here]
  simp only [runs.direct.recordRun, Store.recordRun_eq_error refused]

/-- A record that falls apart ends the run. -/
theorem record_beyond (stored : s.link.store.probe? p.id = some q)
    (beyond : now.add? q.interval = none) :
    s.record p.id now =
      (s.withStore (s.link.store.setProbe { q with lastCheck := some now })).finish p.id := by
  have seen : Actor.system.canAccess q.account = true := rfl
  unfold record
  rw [runs.here]
  simp only [runs.direct.recordRun, Store.recordRun_eq stored seen, beyond]
  rfl

theorem record_stored {next : Timestamp} (stored : s.link.store.probe? p.id = some q)
    (sum : now.add? q.interval = some next) :
    s.record p.id now =
      let s' := s.withStore (s.link.store.setProbe
        { q with lastCheck := some now, nextCheck := some next, lastPoints := points })
      match points.bind fun ps => Forwarder.delivery? ps host with
      | some delivery => s'.enter p.id (.forwarding delivery)
      | none => s'.finish p.id := by
  have seen : Actor.system.canAccess q.account = true := rfl
  unfold record
  rw [runs.here]
  simp only [runs.direct.recordRun, Store.recordRun_eq stored seen, sum, Store.putProbe]
  rfl

end Recording

end RunsAt

end Scheduler

namespace World

variable {β τ : Type} [Plugin β] [Plugin τ] {w : World β τ} {id : String}

/-! ### Forwarding -/

/-- The writes of a run, each after a pause: those that fail and are repeated, and the last one. -/
def writes (id : String) (last : List (Step β τ)) (accepted : Bool) :
    (pauses : List (List (Step β τ))) → List (Step β τ)
  | [] => last ++ [.write id accepted]
  | pause :: rest => pause ++ .write id false :: writes id last accepted rest

/-- From here on a run hands the batch to the database, again and again until that takes it or the
retries are used up, and then is over. -/
def HandsOver (w : World β τ) (id : String) (batch : List Point) : Prop :=
  ∀ (pauses : List (List (Step β τ))) (last : List (Step β τ)) (accepted : Bool),
    (∀ pause ∈ last :: pauses, Elsewhere id pause) →
    pauses.length ≤ w.scheduler.forwarder.maxRetries →
    (accepted = true ∨ pauses.length = w.scheduler.forwarder.maxRetries) →
    w.effectsOf id (writes id last accepted pauses) =
        List.replicate pauses.length (.write id batch false) ++ [.write id batch accepted] ∧
      (w.run (writes id last accepted pauses)).scheduler.run? id = none

/-- One write is an effect of the run. -/
theorem effectsOf_write {p : Probe AgentRef} {d : Delivery}
    (forwarding : w.scheduler.run? id = some { probe := p, phase := .forwarding d })
    (accepted : Bool) (rest : List (Step β τ)) :
    w.effectsOf id (.write id accepted :: rest) =
      .write id d.batch accepted :: (w.step (.write id accepted)).effectsOf id rest := by
  simp [effectsOf, effects, effect?, forwarding, Effect.id]

/-- A run is over after the write that the database accepts, or the last one that it may make. -/
theorem run?_last_write {p : Probe AgentRef} {d : Delivery} {accepted : Bool}
    (forwarding : w.scheduler.run? id = some { probe := p, phase := .forwarding d })
    (ends : accepted = true ∨ d.failures = w.scheduler.forwarder.maxRetries) :
    (w.step (.write id accepted)).scheduler.run? id = none := by
  simp only [step, Scheduler.write, forwarding, Forwarder.fate]
  cases accepted with
  | true => simp
  | false =>
      have spent : d.failures = w.scheduler.forwarder.maxRetries := ends.resolve_left (by simp)
      simp [spent]

theorem scheduler_failed_write {p : Probe AgentRef} {d : Delivery}
    (forwarding : w.scheduler.run? id = some { probe := p, phase := .forwarding d })
    (left : d.failures < w.scheduler.forwarder.maxRetries) :
    (w.step (.write id false)).scheduler =
      w.scheduler.enter id (.forwarding { d with failures := d.failures + 1 }) := by
  simp [step, Scheduler.write, forwarding, Forwarder.fate, left]

theorem handsOver_from {p : Probe AgentRef} {d : Delivery}
    (forwarding : w.scheduler.run? id = some { probe := p, phase := .forwarding d })
    {pauses : List (List (Step β τ))} {last : List (Step β τ)} {accepted : Bool}
    (elsewhere : ∀ pause ∈ last :: pauses, Elsewhere id pause)
    (within : d.failures + pauses.length ≤ w.scheduler.forwarder.maxRetries)
    (ends : accepted = true ∨ d.failures + pauses.length = w.scheduler.forwarder.maxRetries) :
    w.effectsOf id (writes id last accepted pauses) =
        List.replicate pauses.length (.write id d.batch false) ++ [.write id d.batch accepted] ∧
      (w.run (writes id last accepted pauses)).scheduler.run? id = none := by
  -- The failures so far and the pauses that are left add up to the same number at each write.
  induction pauses generalizing w d with
  | nil =>
      have away := elsewhere last List.mem_cons_self
      have keeps := w.run_keeps away
      have still := keeps.run _ forwarding
      rw [← keeps.forwarder] at ends
      constructor
      · rw [writes, effectsOf_append, effectsOf_elsewhere w away, effectsOf_write still]
        rfl
      · rw [writes, run_append, run_cons]
        exact run?_last_write still ends
  | cons pause rest ih =>
      have away := elsewhere pause (List.mem_cons_of_mem _ List.mem_cons_self)
      have keeps := w.run_keeps away
      have still := keeps.run _ forwarding
      rw [List.length_cons, ← keeps.forwarder] at within ends
      have failed := scheduler_failed_write still (by omega)
      have again : ((w.run pause).step (.write id false)).scheduler.run? id =
          some { probe := p, phase := .forwarding { d with failures := d.failures + 1 } } := by
        rw [failed]
        exact Scheduler.run?_enter_self still _
      have others : ∀ other ∈ last :: rest, Elsewhere id other := by
        intro other member
        refine elsewhere other ?_
        rcases List.mem_cons.mp member with rfl | member
        · exact List.mem_cons_self
        · exact List.mem_cons_of_mem _ (List.mem_cons_of_mem _ member)
      have same : ((w.run pause).step (.write id false)).scheduler.forwarder =
          (w.run pause).scheduler.forwarder := by
        rw [failed]
        rfl
      rw [← same] at within ends
      obtain ⟨effects, ended⟩ := ih again others (by dsimp only; omega)
        (ends.imp_right fun spent => by dsimp only; omega)
      constructor
      · rw [writes, effectsOf_append, effectsOf_elsewhere w away, effectsOf_write still, effects]
        rfl
      · rw [writes, run_append, run_cons]
        exact ended

theorem handsOver_of_forwarding {p : Probe AgentRef} {batch : List Point}
    (forwarding : w.scheduler.run? id = some { probe := p, phase := .forwarding { batch } }) :
    w.HandsOver id batch := by
  intro pauses last accepted elsewhere within ends
  exact handsOver_from forwarding elsewhere (by simpa using within) (by simpa using ends)

/-- Forwarding does not touch the store. -/
theorem store_write (w : World β τ) (id : String) (accepted : Bool) :
    (w.step (.write id accepted)).store = w.store := by
  simp only [step, store, Scheduler.write]
  split
  · split
    · rfl
    · rfl
    · rfl
  · rfl

/-! ### The whole run -/

theorem effectsOf_silent {next : Step β τ} (silent : w.effect? next = none)
    (rest : List (Step β τ)) : w.effectsOf id (next :: rest) = (w.step next).effectsOf id rest := by
  simp [effectsOf, effects, silent]

theorem effectsOf_gathered {p : Probe AgentRef} {host : Host τ}
    (gathering : w.scheduler.run? id = some { probe := p, phase := .gathering host })
    (points : Option (List Point)) (agent : β) (rest : List (Step β τ)) :
    w.effectsOf id (.gathered id points agent :: rest) =
      .gather id :: (w.step (.gathered id points agent)).effectsOf id rest := by
  simp [effectsOf, effects, effect?, gathering, Effect.id]

/-- A run that has recorded its outcome hands over a batch, unless the batch is empty, and is over.
-/
def Concludes (w : World β τ) (id : String) (batch : List Point) : Prop :=
  if batch.isEmpty then w.scheduler.run? id = none else w.HandsOver id batch

/-- The run of a probe whose host is missing ends here. The next check of the probe, if that is
still stored, is one interval later, if that is in the calendar. -/
def PutsOff (w : World β τ) (p : Probe AgentRef) (now : Timestamp) : Prop :=
  let ended := w.step (.postpone p.id now)
  ended.scheduler.run? p.id = none ∧
    ended.store =
      match now.add? p.interval with
      | none => w.store
      | some next =>
        match w.store.probe? p.id with
        | some q => w.store.setProbe { q with nextCheck := some next }
        | none => w.store

/-- The outcome of a run is recorded here. Nothing comes of a run whose probe is gone. If the next
check is beyond the calendar, only the time of the run is stored and the run is over. Otherwise the
whole outcome is stored, and what was found goes to the database. -/
def Records (w : World β τ) (id : String) (host : Host τ) (points : Option (List Point))
    (now : Timestamp) : Prop :=
  let recorded := w.step (.record id now)
  match w.store.probe? id with
  | none => recorded.store = w.store ∧ recorded.scheduler.run? id = none
  | some q =>
    match now.add? q.interval with
    | none =>
      recorded.store = w.store.setProbe { q with lastCheck := some now } ∧
        recorded.scheduler.run? id = none
    | some next =>
      recorded.store = w.store.setProbe
          { q with lastCheck := some now, nextCheck := some next, lastPoints := points } ∧
        recorded.Concludes id ((points.getD []).map (Forwarder.tagged host))

theorem putsOff {p : Probe AgentRef} (runs : w.scheduler.RunsAt p .postponing) (now : Timestamp) :
    w.PutsOff p now := by
  unfold PutsOff step store Scheduler.postpone
  simp only [runs.here]
  cases now.add? p.interval with
  | none => exact ⟨by simp, rfl⟩
  | some next => exact ⟨by simp, runs.direct.store_plan p.id next⟩

theorem records {p : Probe AgentRef} {host : Host τ} {points : Option (List Point)}
    (runs : w.scheduler.RunsAt p (.recording host points)) (now : Timestamp) :
    w.Records p.id host points now := by
  simp only [Records, step]
  split
  · next gone =>
      rw [runs.record_gone gone]
      exact ⟨rfl, by simp⟩
  · next q stored =>
      split
      · next beyond =>
          rw [runs.record_beyond stored beyond]
          exact ⟨rfl, by simp⟩
      · next next sum =>
          rw [runs.record_stored stored sum]
          cases points with
          | none => exact ⟨rfl, by simp [Concludes]⟩
          | some ps =>
              cases ps with
              | nil => exact ⟨rfl, by simp [Concludes, Forwarder.delivery?]⟩
              | cons point rest =>
                  refine ⟨rfl, handsOver_of_forwarding (p := p) ?_⟩
                  exact Scheduler.run?_enter_self (s := w.scheduler.withStore _) runs.here _

/-- The course of a run that does not break off, whatever its agent finds and whatever the others do
in between. The store is touched only when the run puts its probe off or records its outcome, and
nothing goes to the database before that. If the host is missing when the run looks it up, nothing
is gathered. -/
theorem run_end_to_end {w : World β τ} {p : Probe AgentRef} {before during after : List (Step β τ)}
    (begun : w.scheduler.RunsAt p .starting)
    (elsewhere : Elsewhere p.id (before ++ during ++ after))
    (points : Option (List Point)) (agent : β) (now : Timestamp) :
    let looking := w.run before
    let looked := looking.step (.lookUp p.id)
    let waiting := looked.run during
    let gathered := waiting.step (.gathered p.id points agent)
    let recording := gathered.run after
    looked.store = looking.store ∧
    (looking.store.host? p.hostId = none →
      w.effectsOf p.id (before ++ .lookUp p.id :: (during ++ [.postpone p.id now])) = [] ∧
      waiting.PutsOff p now) ∧
    (∀ host, looking.store.host? p.hostId = some host →
      w.effectsOf p.id (before ++ .lookUp p.id :: (during ++ .gathered p.id points agent ::
        (after ++ [.record p.id now]))) = [.gather p.id] ∧
      gathered.store = waiting.store ∧ recording.Records p.id host points now) ∧
    ∀ (v : World β τ) accepted, (v.step (.write p.id accepted)).store = v.store := by
  intro looking looked waiting gathered recording
  have away₁ : Elsewhere p.id before := fun next member => elsewhere next (by simp [member])
  have away₂ : Elsewhere p.id during := fun next member => elsewhere next (by simp [member])
  have away₃ : Elsewhere p.id after := fun next member => elsewhere next (by simp [member])
  -- What happens elsewhere leaves the run where its own last step has taken it.
  have begun := begun.keeps (w.run_keeps away₁)
  refine ⟨?_, ?_, ?_, fun v accepted => store_write v p.id accepted⟩
  · cases found : looking.store.host? p.hostId with
    | none => exact congrArg (·.link.store) (begun.lookUp_missing found)
    | some host => exact congrArg (·.link.store) (begun.lookUp_found found)
  · intro missing
    have phase : looked.scheduler = looking.scheduler.enter p.id .postponing :=
      begun.lookUp_missing missing
    have postponing : looked.scheduler.RunsAt p .postponing := by
      rw [phase]
      exact begun.enter _
    refine ⟨?_, putsOff (postponing.keeps (looked.run_keeps away₂)) now⟩
    rw [effectsOf_append, effectsOf_elsewhere w away₁, effectsOf_silent rfl, effectsOf_append,
      effectsOf_elsewhere _ away₂, effectsOf_silent rfl]
    rfl
  · intro host found
    have phase : looked.scheduler = looking.scheduler.enter p.id (.gathering host) :=
      begun.lookUp_found found
    have gathering : looked.scheduler.RunsAt p (.gathering host) := by
      rw [phase]
      exact begun.enter _
    have gathering := gathering.keeps (looked.run_keeps away₂)
    have phase : gathered.scheduler =
        { waiting.scheduler with fleet := waiting.scheduler.fleet.update p.agent agent }.enter p.id
          (.recording host points) :=
      gathering.gathered points agent
    have untouched : gathered.store = waiting.store := congrArg (·.link.store) phase
    have recorded : gathered.scheduler.RunsAt p (.recording host points) := by
      rw [phase]
      exact ⟨gathering.sound, gathering.system, Scheduler.run?_enter_self gathering.here _⟩
    refine ⟨?_, untouched, records (recorded.keeps (gathered.run_keeps away₃)) now⟩
    rw [effectsOf_append, effectsOf_elsewhere w away₁, effectsOf_silent rfl, effectsOf_append,
      effectsOf_elsewhere _ away₂, effectsOf_gathered gathering.here, effectsOf_append,
      effectsOf_elsewhere _ away₃, effectsOf_silent rfl]
    rfl

/-- The machine that the probe below looks at. -/
def web : Host Transport :=
  { id := "web", account := "system", name := "web", transport := .thisMachine }

/-- A probe that is due at the second 1700000000. -/
def dueEvery (millis : Int) : Probe AgentRef :=
  { id := "load", account := "system", hostId := "web"
    agent := { number := 0, spec := { kind := "load" } }, interval := .ofMillis millis
    nextCheck := some ⟨1700000000, 0⟩ }

/-- A run of the probe has just begun. -/
def begunEvery (millis : Int) : World Agent Transport :=
  let store := (Store.performAll .empty
    [(.system, .addHost web), (.system, .addProbe (dueEvery millis))]).store
  (start { store } .system { maxRetries := 1, backoffMillis := 0 } {}).run
    [.dispatch ⟨1700000000, 0⟩ []]

/-- The interval is changed while the agent gathers, and the next check goes by the new one. -/
theorem hourly_run_now_daily :
    let w := begunEvery 3600000
    let recording := ((w.step (.lookUp "load")).run
      [.client .system (.updateProbe (dueEvery 86400000))]).step
        (.gathered "load" (some []) (.load none))
    w.scheduler.RunsAt (dueEvery 3600000) .starting ∧
      recording.Records "load" web (some []) ⟨1700000002, 0⟩ := by
  intro w recording
  have begun : w.scheduler.RunsAt (dueEvery 3600000) .starting :=
    ⟨rfl, rfl, by with_unfolding_all rfl⟩
  have found : w.store.host? "web" = some web := by with_unfolding_all rfl
  have elsewhere : Elsewhere "load" (([] ++ [.client .system (.updateProbe (dueEvery 86400000))] ++
      [] : List (Step Agent Transport))) := by
    intro next member
    cases List.mem_singleton.mp member
    simp [Step.run?]
  have course := run_end_to_end begun elsewhere (some []) (.load none) ⟨1700000002, 0⟩
  exact ⟨begun, (course.2.2.1 web found).2.2⟩

/-- If the next check lies just beyond the calendar, only the time of the run is stored, and the run
is over before anything is written. -/
theorem run_beyond_calendar :
    let ended := (begunEvery 8208566876800000).run [.lookUp "load",
      .gathered "load" (some [{ name := "load", time := ⟨1700000000, 0⟩ }]) (.load none),
      .record "load" ⟨1700000000, 0⟩]
    (ended.store.probe? "load").map (fun q => (q.lastCheck, q.nextCheck, q.lastPoints.isSome)) =
        some (some ⟨1700000000, 0⟩, some ⟨1700000000, 0⟩, false) ∧
      ended.scheduler.running = [] ∧ ended.scheduler.delivered.isEmpty = true := by
  decide

end World

end Hostwatch
