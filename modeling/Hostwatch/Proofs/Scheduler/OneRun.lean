import Hostwatch.Proofs.Scheduler.Marks

/-!
# At most one run at a time for each probe

The runs, the looks for work and the other users of the store take their steps in any order. The
invariant of `Marks` holds all the while, so the probes that are marked are those with a run and
those that a look for work has just marked. Once there are neither, nothing is marked.

A look for work that nobody interrupts goes through the same accesses as one that is interrupted
between them: `exists_run_eq_dispatch` puts a whole pass together from them.
-/

namespace Hostwatch.World

variable {β τ : Type}

/-- Every mark belongs either to one run or to one look for work. -/
def Marked (w : World β τ) : Prop :=
  w.scheduler.Marked w.held

section Looks

variable {w : World β τ} {place : Nat} {l : Look}

/-- What the looks for work hold apart from the one at a place. -/
def heldBeside (w : World β τ) (place : Nat) : List String :=
  (w.looks.eraseIdx place).flatMap (·.held?.toList)

theorem held_perm (there : w.looks[place]? = some l) :
    w.held.Perm (l.held?.toList ++ w.heldBeside place) := by
  obtain ⟨inside, rfl⟩ := List.getElem?_eq_some_iff.mp there
  exact (List.getElem_cons_eraseIdx_perm inside).symm.flatMap_right _

theorem held_set_perm (there : w.looks[place]? = some l) (next : Look) :
    ((w.looks.set place next).flatMap (·.held?.toList)).Perm
      (next.held?.toList ++ w.heldBeside place) := by
  obtain ⟨inside, rfl⟩ := List.getElem?_eq_some_iff.mp there
  exact (List.set_perm_cons_eraseIdx inside next).flatMap_right _

end Looks

variable [Plugin β] [Plugin τ] {w : World β τ}

theorem Marked.look (marked : w.Marked) (place : Nat) (words : List Nat) :
    (w.step (.look place words)).Marked := by
  simp only [step]
  split
  · exact marked
  · next l there =>
      have advanced := (marked.perm_held (held_perm there)).advance words
      split
      · next l' s taken =>
          rw [taken] at advanced
          exact advanced.perm_held (held_set_perm there l').symm
      · next s taken =>
          rw [taken] at advanced
          exact advanced

theorem Marked.abandon (marked : w.Marked) (place : Nat) : (w.step (.abandon place)).Marked := by
  simp only [step]
  split
  · exact marked
  · next l there => exact (marked.perm_held (held_perm there)).abandon

theorem Marked.step (marked : w.Marked) (next : Step β τ) : (w.step next).Marked := by
  cases next with
  | dispatch now words => exact marked.dispatch now words
  | list now =>
      simp only [World.step]
      split
      · exact Scheduler.Marked.congr marked rfl rfl
      · exact Scheduler.Marked.congr marked rfl rfl
  | look place words => exact marked.look place words
  | abandon place => exact marked.abandon place
  | lookUp id => exact Scheduler.Marked.turn marked (w.scheduler.lookUp_turn id)
  | postpone id now => exact Scheduler.Marked.turn marked (w.scheduler.postpone_turn id now)
  | gathered id points agent =>
      exact Scheduler.Marked.turn marked (w.scheduler.gathered_turn id points agent)
  | record id now => exact Scheduler.Marked.turn marked (w.scheduler.record_turn id now)
  | write id accepted => exact Scheduler.Marked.turn marked (w.scheduler.write_turn id accepted)
  | crash id => exact Scheduler.Marked.turn marked (w.scheduler.breakOff_turn id)
  | client actor operation => exact Scheduler.Marked.congr marked rfl rfl
  | freeze listed => exact Scheduler.Marked.congr marked rfl rfl
  | enlist agent => exact Scheduler.Marked.congr marked rfl rfl

theorem Marked.run (marked : w.Marked) (steps : List (Step β τ)) : (w.run steps).Marked := by
  induction steps generalizing w with
  | nil => exact marked
  | cons next rest ih => exact ih (marked.step next)

/-! ### A look for work that nobody interrupts -/

/-- One access of the latest look for work. -/
theorem step_look_zero (s : Scheduler β τ) (l : Look) (looks : List Look) (words : List Nat) :
    step { scheduler := s, looks := l :: looks } (.look 0 words) =
      match l.advance s words with
      | (some l, scheduler) => { scheduler, looks := l :: looks }
      | (none, scheduler) => { scheduler, looks } := rfl

/-- Dealing with one listed probe takes up to three accesses. Afterwards the look for work is at the
next probe, unless it has come to an end. -/
theorem exists_looks_eq_visit {p : Scheduler.Pass β τ} (going : p.broken = false) (now : Timestamp)
    (probe : Probe AgentRef) (rest : List (Probe AgentRef)) (looks : List Look) :
    ∃ accesses : List (List Nat),
      run { scheduler := p.scheduler, looks := { now, listed := probe :: rest } :: looks }
        (accesses.map (.look 0)) =
      { scheduler := (Scheduler.visit now p probe).scheduler
        looks := if (Scheduler.visit now p probe).broken then looks
          else { now, listed := rest } :: looks } := by
  cases state : probe.state now (p.scheduler.isRunning probe.id) with
  | running | idle =>
      refine ⟨[[]], ?_⟩
      simp [run, step_look_zero, Look.advance, Errand.of?, Scheduler.visit, state, going]
  | unscheduled =>
      refine ⟨[[], p.words], ?_⟩
      cases first : jitteredStart now probe.interval p.words with
      | mk next words =>
          cases next with
          | none =>
              simp [run, step_look_zero, Look.advance, Errand.of?, Scheduler.visit,
                Scheduler.schedule, state, going, first]
          | some next =>
              simp [run, step_look_zero, Look.advance, Errand.of?, Scheduler.visit,
                Scheduler.schedule, state, going, first]
  | due =>
      cases claimed : p.scheduler.claim probe.id with
      | none =>
          refine ⟨[[], []], ?_⟩
          simp [run, step_look_zero, Look.advance, Errand.of?, Scheduler.visit,
            Scheduler.startDue, state, going, claimed]
      | some s =>
          refine ⟨[[], [], []], ?_⟩
          simp [run, step_look_zero, Look.advance, Errand.of?, Scheduler.visit,
            Scheduler.startDue, state, going, claimed]

theorem exists_looks_eq_visitAll {p : Scheduler.Pass β τ} (going : p.broken = false)
    (now : Timestamp) (probes : List (Probe AgentRef)) (looks : List Look) :
    ∃ accesses : List (List Nat),
      run { scheduler := p.scheduler, looks := { now, listed := probes } :: looks }
        (accesses.map (.look 0)) =
      { scheduler := (probes.foldl (Scheduler.visit now) p).scheduler, looks } := by
  induction probes generalizing p with
  | nil => exact ⟨[[]], rfl⟩
  | cons probe rest ih =>
      obtain ⟨accesses, visited⟩ := exists_looks_eq_visit going now probe rest looks
      rw [List.foldl_cons]
      cases broken : (Scheduler.visit now p probe).broken with
      | true =>
          rw [Scheduler.visitAll_of_broken broken]
          refine ⟨accesses, ?_⟩
          rw [visited, broken]
          rfl
      | false =>
          obtain ⟨more, remaining⟩ := ih broken
          refine ⟨accesses ++ more, ?_⟩
          rw [List.map_append, run_append, visited, broken]
          exact remaining

/-- A whole pass is a look for work whose accesses follow one another. -/
theorem exists_run_eq_dispatch (w : World β τ) (now : Timestamp) (words : List Nat) :
    ∃ accesses : List (List Nat),
      w.run (.list now :: accesses.map (.look 0)) = w.step (.dispatch now words) := by
  cases listing : w.scheduler.link.listProbes w.scheduler.actor .all with
  | mk listed link =>
      cases listed with
      | error e =>
          refine ⟨[], ?_⟩
          simp [run, step, Scheduler.dispatch, listing]
      | ok probes =>
          obtain ⟨accesses, visited⟩ := exists_looks_eq_visitAll
            (p := { scheduler := { w.scheduler with link }, words }) rfl now probes w.looks
          refine ⟨accesses, ?_⟩
          rw [run_cons]
          simp only [step, Scheduler.dispatch, listing]
          exact visited

/-! ### The marks in every reachable world -/

/-- A look for work that has marked a probe and finds it no longer due, or cannot read it any more,
gives up the mark, and this is all that it does to marks and runs. -/
theorem giving_up {w : World β τ} {place : Nat} {l : Look} {id : String}
    (there : w.looks[place]? = some l) (holds : l.held? = some id)
    (vain : ∀ probe, (w.scheduler.link.getProbe w.scheduler.actor id).1 = .ok probe →
      probe.state l.now false ≠ .due) (words : List Nat) :
    (w.step (.look place words)).scheduler.running = w.scheduler.running ∧
      (w.step (.look place words)).scheduler.inFlight = w.scheduler.inFlight.filter (· != id) := by
  obtain ⟨now, listed, errand⟩ := l
  have marking : errand = some (.confirm id) := by
    unfold Look.held? at holds
    dsimp only at holds
    split at holds
    · cases holds
      rfl
    · cases holds
  subst marking
  obtain ⟨probe, answer, -, due, -⟩ | ⟨-, released⟩ := w.scheduler.confirm_cases now id
  · exact absurd due (vain probe answer)
  · simp only [World.step, there, Look.advance, released]
    exact ⟨rfl, rfl⟩

/-- Whatever happens in whatever order, no probe has two runs at a time. The marked probes are those
that have a run and those that an interrupted look for work has marked; so they are the former as
long as no look for work is interrupted, and there are none once there are no runs. A look for work
that gives up a probe takes its mark away, and leaves all others. -/
theorem one_run_for_each_probe (link : Link AgentRef τ) (actor : Actor) (forwarder : Forwarder)
    (fleet : Fleet β) (steps : List (Step β τ)) :
    let w := (start link actor forwarder fleet).run steps
    w.scheduler.running.Nodup ∧ w.scheduler.inFlight.Nodup ∧
      (∀ id, w.scheduler.isRunning id = true ↔ id ∈ w.scheduler.running ∨ id ∈ w.held) ∧
      (w.looks = [] → w.scheduler.inFlight.Perm w.scheduler.running) ∧
      (w.held = [] → w.scheduler.running = [] → w.scheduler.inFlight = []) ∧
      ∀ place l id, w.looks[place]? = some l → l.held? = some id →
        (∀ probe, (w.scheduler.link.getProbe w.scheduler.actor id).1 = .ok probe →
          probe.state l.now false ≠ .due) →
        ∀ words, (w.step (.look place words)).scheduler.running = w.scheduler.running ∧
          ∀ other, (w.step (.look place words)).scheduler.isRunning other = true ↔
            other ≠ id ∧ w.scheduler.isRunning other = true := by
  intro w
  have marked : w.Marked := Marked.run ⟨List.nodup_nil, .refl _⟩ steps
  refine ⟨(List.nodup_append.mp marked.owners_nodup).2.1, marked.once, ?_, ?_, ?_, ?_⟩
  · intro id
    rw [Scheduler.isRunning, List.contains_iff_mem, marked.perm.mem_iff, List.mem_append, or_comm]
  · intro none
    have perm := marked.perm
    rwa [held, none] at perm
  · intro free idle
    have perm := marked.perm
    rw [free, idle] at perm
    exact perm.eq_nil
  · intro place l id there holds vain words
    obtain ⟨same, released⟩ := giving_up there holds vain words
    refine ⟨same, fun other => ?_⟩
    rw [Scheduler.isRunning, released]
    simp [Scheduler.isRunning, and_comm]

end Hostwatch.World
