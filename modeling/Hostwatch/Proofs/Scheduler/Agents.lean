import Hostwatch.Scheduler.Deeds
import Hostwatch.Proofs.Scheduler.Elsewhere

/-!
# What becomes of agents

Probes are read, listed, read again and written back all the time, and each reading carries the
number of the agent along. Only gathers change what an agent remembers, and only other users of the
store can give a probe another agent. `Faithful` says this of everything else that happens.
-/

namespace Hostwatch

universe u

/-- What a run has yet to record. -/
def Phase.pending? {τ : Type} : Phase τ → Option (Option (List Point))
  | .recording _ points => some points
  | _ => none

namespace Store

variable {α τ : Type}

/-- No record of a probe has come to hold another agent, and none has been added. -/
def KeepsAgents (s s' : Store α τ) : Prop :=
  ∀ id p', s'.probe? id = some p' → ∃ p, s.probe? id = some p ∧ p.agent = p'.agent

theorem KeepsAgents.refl (s : Store α τ) : s.KeepsAgents s :=
  fun _ p found => ⟨p, found, rfl⟩

theorem KeepsAgents.setProbe {s : Store α τ} {id : String} {old p : Probe α}
    (found : s.probe? id = some old) (own : p.id = old.id) (same : old.agent = p.agent) :
    s.KeepsAgents (s.setProbe p) := by
  intro other p' found'
  rw [probe?_setProbe] at found'
  split at found'
  · next here =>
      cases found'
      refine ⟨old, ?_, same⟩
      rw [here, own, id_of_probe? found]
      exact found
  · exact ⟨p', found', rfl⟩

end Store

/-- If it stores a certain probe, then with the agent of number `n`. -/
def Operation.LeavesAgent {τ : Type} (id : String) (n : Nat) : Operation AgentRef τ → Prop
  | .addProbe p | .updateProbe p => p.id = id → p.agent.number = n
  | _ => True

theorem Store.agent_of_perform {τ : Type} [Plugin τ] {s : Store AgentRef τ} {actor : Actor}
    {operation : Operation AgentRef τ} {id : String} {n : Nat}
    (leaves : operation.LeavesAgent id n)
    (before : ∀ p, s.probe? id = some p → p.agent.number = n) :
    ∀ p, (s.perform actor operation).store.probe? id = some p → p.agent.number = n := by
  have kept {s' : Store AgentRef τ} (keeps : s.KeepsAgents s') :
      ∀ p, s'.probe? id = some p → p.agent.number = n := by
    intro p' found'
    obtain ⟨p, found, same⟩ := keeps id p' found'
    rw [← same]
    exact before p found
  have set {new : Probe AgentRef} (leaves : new.id = id → new.agent.number = n) :
      ∀ p, (s.setProbe new).probe? id = some p → p.agent.number = n := by
    intro p found
    rw [probe?_setProbe] at found
    split at found
    · next own =>
        cases found
        exact leaves own.symm
    · exact before p found
  have move := s.perform_moves actor operation
  generalize (s.perform actor operation).store = after at move ⊢
  cases move with
  | kept => exact before
  | addProbe => exact set leaves
  | updateProbe => exact set leaves
  | recordRun found | recordBeyond found | reschedule found =>
      exact kept (.setProbe found rfl rfl)
  | addHost | updateHost => exact before
  | deleteProbe =>
      intro p found
      rw [probe?_eraseProbe] at found
      split at found
      · cases found
      · exact before p found
  | deleteHost =>
      intro p found
      rw [probe?_eraseHost] at found
      exact before p (Option.filter_eq_some_iff.mp found).1

namespace Link

variable {α τ : Type} [Plugin α]

theorem keepsAgents_reschedule (l : Link α τ) (actor : Actor) (id : String) (next : Timestamp) :
    l.store.KeepsAgents (l.reschedule actor id next).2.store := by
  obtain ⟨old, found, -, after⟩ | ⟨e, -, after⟩ := l.reschedule_cases actor id next
  · rw [after]
    exact .setProbe found rfl rfl
  · rw [after]
    exact .refl _

theorem keepsAgents_recordRun (l : Link α τ) (actor : Actor) (id : String) (time : Timestamp)
    (points : Option (List Point)) :
    l.store.KeepsAgents (l.recordRun actor id time points).2.store := by
  have same := l.store_interrupt .recordRun
  unfold recordRun
  split
  · next e link interrupted =>
      rw [interrupted] at same
      exact same ▸ .refl _
  · next link interrupted =>
      rw [interrupted] at same
      replace same : link.store = l.store := same
      simp only [same]
      cases read : l.store.getProbe actor id with
      | error e =>
          rw [Store.recordRun_eq_error read]
          exact .refl _
      | ok p =>
          obtain ⟨found, visible⟩ := Store.getProbe_eq_ok_iff.mp read
          rw [Store.recordRun_eq found visible]
          split
          · exact .setProbe found rfl rfl
          · exact .setProbe found rfl rfl

/-- What a run found is stored if the store says so. -/
theorem lastPoints_of_recordRun {l : Link α τ} {actor : Actor} {id : String} {time : Timestamp}
    {points : Option (List Point)} (done : (l.recordRun actor id time points).1 = .ok ()) :
    ((l.recordRun actor id time points).2.store.probe? id).map (·.lastPoints) = some points := by
  unfold recordRun at done ⊢
  split
  · next e link interrupted =>
      rw [interrupted] at done
      cases done
  · next link interrupted =>
      simp only [interrupted] at done ⊢
      cases read : link.store.getProbe actor id with
      | error e =>
          rw [Store.recordRun_eq_error read] at done
          cases done
      | ok p =>
          obtain ⟨found, visible⟩ := Store.getProbe_eq_ok_iff.mp read
          have own : p.id = id := Store.id_of_probe? found
          rw [Store.recordRun_eq found visible] at done ⊢
          split at done
          · cases done
          · simp [Store.putProbe, own]

end Link

namespace Scheduler

variable {β τ : Type} {s s' : Scheduler β τ} {id other : String}

/-- What the run of a probe has yet to record. -/
def pending? (s : Scheduler β τ) (id : String) : Option (Option (List Point)) :=
  (s.run? id).bind (·.phase.pending?)

@[simp] theorem pending?_enter (s : Scheduler β τ) (id other : String) (phase : Phase τ) :
    (s.enter other phase).pending? id =
      if id = other then (s.run? id).bind fun _ => phase.pending? else s.pending? id := by
  rw [pending?, pending?, run?_enter]
  split
  · rw [Option.bind_map]
    rfl
  · rw [Option.map_id']

@[simp] theorem pending?_finish (s : Scheduler β τ) (id other : String) :
    (s.finish other).pending? id = if id = other then none else s.pending? id := by
  rw [pending?, run?_finish]
  split
  · rfl
  · rfl

/-- A probe has that agent, in the store or in its run. -/
def Refers (s : Scheduler β τ) (id : String) (a : AgentRef) : Prop :=
  (∃ p, s.link.store.probe? id = some p ∧ p.agent = a) ∨
    ∃ r, s.run? id = some r ∧ r.probe.agent = a

/-- No agent gathers, a probe does not come to another agent, and there is nothing new for its run
to record. -/
structure Faithful (id : String) (s s' : Scheduler β τ) : Prop where
  fleet : s'.fleet = s.fleet
  refers : ∀ a, s'.Refers id a → s.Refers id a
  pending : ∀ points, s'.pending? id = some points → s.pending? id = some points

namespace Faithful

theorem refl (s : Scheduler β τ) : Faithful id s s :=
  ⟨rfl, fun _ known => known, fun _ outcome => outcome⟩

theorem trans {s'' : Scheduler β τ} (first : Faithful id s s') (second : Faithful id s' s'') :
    Faithful id s s'' :=
  ⟨second.fleet.trans first.fleet, fun a known => first.refers a (second.refers a known),
    fun points outcome => first.pending points (second.pending points outcome)⟩

theorem link {link : Link AgentRef τ} (keeps : s.link.store.KeepsAgents link.store) :
    Faithful id s { s with link } := by
  refine ⟨rfl, ?_, fun _ outcome => outcome⟩
  rintro a (⟨p', found, agent⟩ | running)
  · obtain ⟨p, before, same⟩ := keeps id p' found
    exact .inl ⟨p, before, same.trans agent⟩
  · exact .inr running

theorem read {γ : Type} (s : Scheduler β τ) (call : StoreCall)
    (f : Store AgentRef τ → Except StoreError γ) :
    Faithful id s { s with link := (s.link.read call f).2 } := by
  refine .link ?_
  rw [Link.store_read]
  exact .refl _

theorem plan (s : Scheduler β τ) (other : String) (next : Timestamp) :
    Faithful id s (s.plan other next) :=
  .link (s.link.keepsAgents_reschedule s.actor other next)

theorem claim (claimed : s.claim other = some s') : Faithful id s s' := by
  obtain ⟨-, rfl⟩ := claim_eq_some_iff.mp claimed
  exact ⟨rfl, fun _ known => known, fun _ outcome => outcome⟩

theorem release (s : Scheduler β τ) (other : String) : Faithful id s (s.release other) :=
  ⟨rfl, fun _ known => known, fun _ outcome => outcome⟩

/-- A run begins with the agent that is stored. -/
theorem launch {probe : Probe AgentRef} (stored : s.link.store.probe? probe.id = some probe) :
    Faithful id s (s.launch probe) := by
  refine ⟨rfl, ?_, ?_⟩
  · rintro a (known | ⟨r, running, agent⟩)
    · exact .inl known
    · rw [run?_launch, Option.or_eq_some_iff] at running
      obtain running | ⟨-, begun⟩ := running
      · exact .inr ⟨r, running, agent⟩
      · split at begun
        · next own =>
            cases begun
            exact .inl ⟨probe, own ▸ stored, agent⟩
        · cases begun
  · intro points outcome
    rw [pending?, run?_launch] at outcome
    rw [pending?]
    cases running : s.run? id with
    | some r =>
        rw [running] at outcome
        exact outcome
    | none =>
        rw [running, Option.none_or] at outcome
        split at outcome
        · cases outcome
        · cases outcome

theorem finish (s : Scheduler β τ) (other : String) : Faithful id s (s.finish other) := by
  refine ⟨rfl, ?_, ?_⟩
  · rintro a (known | ⟨r, running, agent⟩)
    · exact .inl known
    · rw [run?_finish] at running
      split at running
      · cases running
      · exact .inr ⟨r, running, agent⟩
  · intro points outcome
    rw [pending?_finish] at outcome
    split at outcome
    · cases outcome
    · exact outcome

/-- A run that moves on keeps its agent. -/
theorem refers_of_enter {phase : Phase τ} {a : AgentRef}
    (known : (s.enter other phase).Refers id a) : s.Refers id a := by
  obtain known | ⟨r, running, agent⟩ := known
  · exact .inl known
  · rw [run?_enter, Option.map_eq_some_iff] at running
    obtain ⟨r', running, rfl⟩ := running
    refine .inr ⟨r', running, ?_⟩
    split at agent
    · exact agent
    · exact agent

/-- A run that moves on has nothing to record, unless it enters the phase in which it records. -/
theorem enter (s : Scheduler β τ) (other : String) {phase : Phase τ}
    (silent : phase.pending? = none) : Faithful id s (s.enter other phase) := by
  refine ⟨rfl, fun a known => refers_of_enter known, ?_⟩
  intro points outcome
  rw [pending?_enter, silent, Option.bind_fun_none] at outcome
  split at outcome
  · cases outcome
  · exact outcome

/-! ### Runs and looks for work -/

theorem lookUp (s : Scheduler β τ) (other : String) : Faithful id s (s.lookUp other) := by
  unfold Scheduler.lookUp
  split
  · next probe found =>
      have read : Faithful id s { s with link := (s.link.getHost s.actor probe.hostId).2 } :=
        .read s _ _
      split
      · next host link answer =>
          rw [answer] at read
          exact read.trans (.enter _ other rfl)
      · next link answer =>
          rw [answer] at read
          exact read.trans (.enter _ other rfl)
  · exact .refl s

theorem postpone (s : Scheduler β τ) (other : String) (now : Timestamp) :
    Faithful id s (s.postpone other now) := by
  unfold Scheduler.postpone
  split
  · split
    · exact .finish s other
    · next next sum => exact (Faithful.plan s other next).trans (.finish _ other)
  · exact .refl s

theorem record (s : Scheduler β τ) (other : String) (now : Timestamp) :
    Faithful id s (s.record other now) := by
  unfold Scheduler.record
  split
  · next host points found =>
      have recorded : Faithful id s
          { s with link := (s.link.recordRun s.actor other now points).2 } :=
        .link (s.link.keepsAgents_recordRun s.actor other now points)
      dsimp only
      split
      · exact recorded.trans (.finish _ other)
      · exact recorded.trans (.finish _ other)
      · split
        · exact recorded.trans (.enter _ other rfl)
        · exact recorded.trans (.finish _ other)
  · exact .refl s

theorem write (s : Scheduler β τ) (other : String) (accepted : Bool) :
    Faithful id s (s.write other accepted) := by
  unfold Scheduler.write
  split
  · next delivery found =>
      split
      · have delivered : Faithful id s { s with delivered := delivery.batch :: s.delivered } :=
          ⟨rfl, fun _ known => known, fun _ outcome => outcome⟩
        exact delivered.trans (.finish _ other)
      · exact .enter s other rfl
      · exact .finish s other
  · exact .refl s

theorem breakOff (s : Scheduler β τ) (other : String) : Faithful id s (s.breakOff other) := by
  unfold Scheduler.breakOff
  split
  · exact .refl s
  · exact .finish s other

theorem confirm (s : Scheduler β τ) (now : Timestamp) (other : String) :
    Faithful id s (s.confirm now other).2 := by
  have read : Faithful id s { s with link := (s.link.getProbe s.actor other).2 } := .read s _ _
  obtain ⟨probe, answer, own, -, starts⟩ | ⟨-, gives⟩ := s.confirm_cases now other
  · rw [starts]
    refine read.trans (.launch ?_)
    subst own
    have same : (s.link.getProbe s.actor probe.id).2.store = s.link.store := Link.store_read _ _ _
    rw [same]
    exact Link.probe?_of_getProbe answer
  · rw [gives]
    exact read.trans (.release _ other)

theorem dispatch (s : Scheduler β τ) (now : Timestamp) (words : List Nat) :
    Faithful id s (s.dispatch now words).scheduler := by
  rw [dispatch_eq_foldl]
  refine visitAll_induction (motive := Faithful id s) ?_ ?_ (.read s _ _)
  · intro s' listed _ next faithful
    exact faithful.trans (.plan s' listed.id next)
  · intro s' s'' listed _ claimed faithful
    exact (faithful.trans (.claim claimed)).trans (.confirm s'' now listed.id)

theorem advance (l : Look) (s : Scheduler β τ) (words : List Nat) :
    Faithful id s (l.advance s words).2 := by
  have access := l.advance_access s words
  generalize l.held? = before, (l.advance s words).1.bind Look.held? = after,
    (l.advance s words).2 = s' at access ⊢
  cases access with
  | nothing => exact .refl s
  | schedules other next => exact .plan s other next
  | claims claimed => exact .claim claimed
  | confirms now other => exact .confirm s now other

theorem abandon (l : Look) (s : Scheduler β τ) : Faithful id s (l.abandon s) := by
  unfold Look.abandon
  split
  · exact .refl s
  · exact .release s _

end Faithful

end Scheduler

namespace World

variable {β τ : Type} {ω : Type u} {act : β → ω → Option (List Point) × β} {w : World β τ}

/-! ### Gathers and other deeds -/

theorem gather?_eq_some {d : Deed β τ ω} {g : Gather β ω} (done : w.gather? d = some g) :
    d = .gather g.id g.surroundings ∧ ∃ probe host,
      w.scheduler.run? g.id = some { probe, phase := .gathering host } ∧
        w.scheduler.fleet.agents[g.agent]? = some g.start ∧ probe.agent.number = g.agent := by
  cases d with
  | plain next => cases done
  | gather id surroundings =>
      simp only [gather?] at done
      split at done
      · next probe host found =>
          obtain ⟨start, there, rfl⟩ := Option.map_eq_some_iff.mp done
          exact ⟨rfl, probe, host, found, there, rfl⟩
      · cases done

variable [Plugin β] [Plugin τ]

/-- The world of a deed that is a gather. -/
theorem deed_of_gather {d : Deed β τ ω} {g : Gather β ω} (done : w.gather? d = some g) :
    w.deed act d = w.step (g.step act) := by
  obtain ⟨rfl, -⟩ := gather?_eq_some done
  simp only [deed, done]

/-- A deed that is not a gather is a step that is not one either, or nothing. -/
theorem deed_of_no_gather (act : β → ω → Option (List Point) × β) {d : Deed β τ ω}
    (none : w.gather? d = none) :
    w.deed act d = w ∨ ∃ next : Step β τ, d = .plain next ∧ next.isGather = false ∧
      w.deed act d = w.step next := by
  cases d with
  | gather id surroundings =>
      left
      simp only [deed, none]
  | plain next =>
      cases gathers : next.isGather with
      | true => exact .inl (if_pos gathers)
      | false => exact .inr ⟨next, rfl, gathers, if_neg (by rw [gathers]; exact Bool.false_ne_true)⟩

/-- The scheduler after a gather. -/
theorem scheduler_of_gather (act : β → ω → Option (List Point) × β) {d : Deed β τ ω}
    {g : Gather β ω} (done : w.gather? d = some g) {probe : Probe AgentRef} {host : Host τ}
    (found : w.scheduler.run? g.id = some { probe, phase := .gathering host }) :
    (w.deed act d).scheduler =
      { w.scheduler with
        fleet := w.scheduler.fleet.update probe.agent (act g.start g.surroundings).2 }.enter
        g.id (.recording host (g.outcome act)) := by
  rw [deed_of_gather done]
  simp only [Gather.step, step, Scheduler.gathered, found]

/-- Whether a step can change an agent or bring a probe to another one. -/
def Step.isOfAgents : Step β τ → Bool
  | .gathered .. | .client .. | .enlist _ => true
  | _ => false

theorem step_faithful (w : World β τ) {next : Step β τ} (other : next.isOfAgents = false)
    (id : String) : w.scheduler.Faithful id (w.step next).scheduler := by
  cases next with
  | gathered | client | enlist => cases other
  | dispatch now words => exact .dispatch _ now words
  | list now =>
      have read : w.scheduler.Faithful id { w.scheduler with
          link := (w.scheduler.link.listProbes w.scheduler.actor .all).2 } := .read _ _ _
      simp only [step]
      split
      · next answer =>
          rw [answer] at read
          exact read
      · next answer =>
          rw [answer] at read
          exact read
  | look place words =>
      simp only [step]
      split
      · exact .refl _
      · next l there =>
          have faithful : w.scheduler.Faithful id (l.advance w.scheduler words).2 :=
            .advance l _ words
          split
          · next advanced =>
              rw [advanced] at faithful
              exact faithful
          · next advanced =>
              rw [advanced] at faithful
              exact faithful
  | abandon place =>
      simp only [step]
      split
      · exact .refl _
      · exact .abandon _ _
  | lookUp id => exact .lookUp _ id
  | postpone id now => exact .postpone _ id now
  | record id now => exact .record _ id now
  | write id accepted => exact .write _ id accepted
  | crash id => exact .breakOff _ id
  | freeze listed => exact .link (.refl _)

end World

end Hostwatch
