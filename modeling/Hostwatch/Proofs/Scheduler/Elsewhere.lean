import Hostwatch.Proofs.Scheduler.Moves

/-!
# What the rest of the world does to a run

Only its own steps move a run on or end it. Whatever else happens between two of them leaves it
where it is, and has no effect that counts as one of its own.
-/

namespace Hostwatch

namespace Scheduler

variable {β τ : Type} {s s' : Scheduler β τ} {id other : String}

/-- What is left alone by everything but the run of a probe: that run itself, and how the scheduler
has been set up. -/
structure Keeps (id : String) (s s' : Scheduler β τ) : Prop where
  run : ∀ r, s.run? id = some r → s'.run? id = some r
  actor : s'.actor = s.actor
  forwarder : s'.forwarder = s.forwarder
  sound : s.link.faults = [] → s'.link.faults = []

namespace Keeps

theorem refl (s : Scheduler β τ) : Keeps id s s :=
  ⟨fun _ found => found, rfl, rfl, fun sound => sound⟩

theorem trans {s'' : Scheduler β τ} (first : Keeps id s s') (second : Keeps id s' s'') :
    Keeps id s s'' :=
  ⟨fun r found => second.run r (first.run r found), second.actor.trans first.actor,
    second.forwarder.trans first.forwarder, fun sound => second.sound (first.sound sound)⟩

theorem link (s : Scheduler β τ) {link : Link AgentRef τ}
    (sound : s.link.faults = [] → link.faults = []) : Keeps id s { s with link } :=
  ⟨fun _ found => found, rfl, rfl, sound⟩

theorem plan (s : Scheduler β τ) (other : String) (next : Timestamp) :
    Keeps id s (s.plan other next) :=
  .link s fun sound => Link.faults_change sound _ _

theorem claim (claimed : s.claim other = some s') : Keeps id s s' := by
  obtain ⟨-, rfl⟩ := claim_eq_some_iff.mp claimed
  exact ⟨fun _ found => found, rfl, rfl, fun sound => sound⟩

theorem launch (s : Scheduler β τ) (probe : Probe AgentRef) : Keeps id s (s.launch probe) := by
  refine ⟨fun r found => ?_, rfl, rfl, fun sound => sound⟩
  rw [run?_launch, found, Option.some_or]

theorem release (s : Scheduler β τ) (other : String) : Keeps id s (s.release other) :=
  ⟨fun _ found => found, rfl, rfl, fun sound => sound⟩

theorem confirm (s : Scheduler β τ) (now : Timestamp) (other : String) :
    Keeps id s (s.confirm now other).2 := by
  have read : Keeps id s { s with link := (s.link.getProbe s.actor other).2 } :=
    .link s fun sound => Link.faults_read sound _ _
  obtain ⟨probe, -, -, -, starts⟩ | ⟨-, gives⟩ := s.confirm_cases now other
  · rw [starts]
    exact read.trans (.launch _ probe)
  · rw [gives]
    exact read.trans (.release _ other)

theorem visitAll (p : Pass β τ) (now : Timestamp) (probes : List (Probe AgentRef)) :
    Keeps id p.scheduler (probes.foldl (visit now) p).scheduler := by
  refine visitAll_induction (motive := Keeps id p.scheduler) ?_ ?_ (.refl _)
  · intro s' listed _ next keeps
    exact keeps.trans (.plan s' listed.id next)
  · intro s' s'' listed _ claimed keeps
    exact (keeps.trans (.claim claimed)).trans (.confirm s'' now listed.id)

theorem dispatch (s : Scheduler β τ) (now : Timestamp) (words : List Nat) :
    Keeps id s (s.dispatch now words).scheduler := by
  rw [dispatch_eq_foldl]
  have listed : Keeps id s { s with link := (s.link.listProbes s.actor .all).2 } :=
    .link s fun sound => Link.faults_read sound _ _
  exact listed.trans (.visitAll { scheduler := _, words } now _)

/-- The run of another probe. -/
theorem turn (turn : s.Turn other s') (different : id ≠ other) : Keeps id s s' := by
  cases turn with
  | waits => exact .refl s
  | moves link fleet phase found sound =>
      refine ⟨fun r own => ?_, rfl, rfl, sound⟩
      rw [run?_enter]
      simp only [different, if_false, Option.map_id_fun', id_eq]
      exact own
  | ends link delivered found sound =>
      refine ⟨fun r own => ?_, rfl, rfl, sound⟩
      rw [run?_finish, if_neg different]
      exact own

theorem advance (l : Look) (s : Scheduler β τ) (words : List Nat) :
    Keeps id s (l.advance s words).2 := by
  have access := l.advance_access s words
  generalize l.held? = before, (l.advance s words).1.bind Look.held? = after,
    (l.advance s words).2 = s' at access ⊢
  cases access with
  | nothing => exact .refl s
  | schedules other next => exact .plan s other next
  | claims claimed => exact .claim claimed
  | confirms now other => exact .confirm s now other

theorem abandon (l : Look) (s : Scheduler β τ) : Keeps id s (l.abandon s) := by
  unfold Look.abandon
  split
  · exact .refl s
  · exact .release s _

end Keeps

end Scheduler

namespace World

variable {β τ : Type} {w : World β τ} {id : String}

theorem run?_of_effect? {next : Step β τ} {e : Effect} (effect : w.effect? next = some e) :
    next.run? = some e.id := by
  unfold effect? at effect
  split at effect
  · split at effect
    · cases effect
      rfl
    · cases effect
  · split at effect
    · cases effect
      rfl
    · cases effect
  · cases effect

variable [Plugin β] [Plugin τ]

/-- None of the steps is one of the run of a probe. -/
def Elsewhere (id : String) (steps : List (Step β τ)) : Prop :=
  ∀ next ∈ steps, next.run? ≠ some id

/-- What the run of a probe does outside in the course of several steps. -/
def effectsOf (w : World β τ) (id : String) (steps : List (Step β τ)) : List Effect :=
  (w.effects steps).filter (·.id == id)

theorem step_keeps (w : World β τ) {next : Step β τ} (elsewhere : next.run? ≠ some id) :
    w.scheduler.Keeps id (w.step next).scheduler := by
  have apart {other : String} (own : next.run? = some other) : id ≠ other :=
    fun same => elsewhere (same ▸ own)
  cases next with
  | dispatch now words => exact .dispatch _ now words
  | list now =>
      have sound : w.scheduler.link.faults = [] →
          (w.scheduler.link.listProbes w.scheduler.actor .all).2.faults = [] :=
        fun sound => Link.faults_read sound _ _
      simp only [step]
      split
      · next answer =>
          rw [answer] at sound
          exact .link _ sound
      · next answer =>
          rw [answer] at sound
          exact .link _ sound
  | look place words =>
      simp only [step]
      split
      · exact .refl _
      · next l there =>
          have keeps : w.scheduler.Keeps id (l.advance w.scheduler words).2 := .advance l _ words
          split
          · next advanced =>
              rw [advanced] at keeps
              exact keeps
          · next advanced =>
              rw [advanced] at keeps
              exact keeps
  | abandon place =>
      simp only [step]
      split
      · exact .refl _
      · exact .abandon _ _
  | lookUp other => exact .turn (w.scheduler.lookUp_turn other) (apart rfl)
  | postpone other now => exact .turn (w.scheduler.postpone_turn other now) (apart rfl)
  | gathered other points agent =>
      exact .turn (w.scheduler.gathered_turn other points agent) (apart rfl)
  | record other now => exact .turn (w.scheduler.record_turn other now) (apart rfl)
  | write other accepted => exact .turn (w.scheduler.write_turn other accepted) (apart rfl)
  | crash other => exact .turn (w.scheduler.breakOff_turn other) (apart rfl)
  | client actor operation => exact .link _ fun sound => sound
  | freeze listed => exact .link _ fun sound => sound
  | enlist agent => exact ⟨fun _ found => found, rfl, rfl, fun sound => sound⟩

theorem run_keeps (w : World β τ) {steps : List (Step β τ)} (elsewhere : Elsewhere id steps) :
    w.scheduler.Keeps id (w.run steps).scheduler := by
  induction steps generalizing w with
  | nil => exact .refl _
  | cons next rest ih =>
      have head := w.step_keeps (elsewhere next List.mem_cons_self)
      exact head.trans (ih _ fun other member => elsewhere other (List.mem_cons_of_mem _ member))

theorem effectsOf_append (w : World β τ) (first second : List (Step β τ)) :
    w.effectsOf id (first ++ second) =
      w.effectsOf id first ++ (w.run first).effectsOf id second := by
  simp [effectsOf, effects_append]

theorem effectsOf_elsewhere (w : World β τ) {steps : List (Step β τ)}
    (elsewhere : Elsewhere id steps) : w.effectsOf id steps = [] := by
  induction steps generalizing w with
  | nil => rfl
  | cons next rest ih =>
      have tail := ih (w.step next) fun other member =>
        elsewhere other (List.mem_cons_of_mem _ member)
      have foreign : (w.effect? next).toList.filter (·.id == id) = [] := by
        refine List.filter_eq_nil_iff.mpr fun e member => ?_
        have own := run?_of_effect? (Option.mem_toList.mp member)
        intro same
        exact elsewhere next List.mem_cons_self (own.trans (congrArg some (beq_iff_eq.mp same)))
      rw [effectsOf, effects, List.filter_append, foreign]
      exact tail

end World

end Hostwatch
