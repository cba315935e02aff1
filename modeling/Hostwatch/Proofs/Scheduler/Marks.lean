import Hostwatch.Proofs.Scheduler.Moves
import Mathlib.Data.List.Perm.Basic

/-!
# One run for each probe

A probe is marked first, then read again, and only then started, and the mark has to go on every way
out of the attempt and of the run. The invariant counts the marks: each belongs either to one run
under way or to one look for work that has marked the probe and has yet to read it again. It holds
after any steps in any order, so a probe never has two runs, and no mark is left behind.
-/

namespace Hostwatch

namespace Scheduler

variable {β τ : Type} {s s' : Scheduler β τ} {id : String} {held : List String}

/-- The marks are those of the runs under way and those that are held, and no probe has two. -/
structure Marked (s : Scheduler β τ) (held : List String) : Prop where
  once : s.inFlight.Nodup
  perm : s.inFlight.Perm (held ++ s.running)

namespace Marked

theorem owners_nodup (marked : s.Marked held) : (held ++ s.running).Nodup :=
  marked.perm.nodup_iff.mp marked.once

theorem congr (marked : s.Marked held) (marks : s'.inFlight = s.inFlight)
    (runs : s'.running = s.running) : s'.Marked held := by
  constructor
  · rw [marks]
    exact marked.once
  · rw [marks, runs]
    exact marked.perm

theorem perm_held {held' : List String} (marked : s.Marked held) (same : held.Perm held') :
    s.Marked held' :=
  ⟨marked.once, marked.perm.trans (same.append_right _)⟩

theorem claim (marked : s.Marked held) (claimed : s.claim id = some s') :
    s'.Marked (id :: held) := by
  obtain ⟨fresh, rfl⟩ := claim_eq_some_iff.mp claimed
  exact ⟨List.nodup_cons.mpr ⟨fresh, marked.once⟩, marked.perm.cons id⟩

theorem launch {probe : Probe AgentRef} (marked : s.Marked (probe.id :: held)) :
    (s.launch probe).Marked held := by
  refine ⟨marked.once, marked.perm.trans ?_⟩
  rw [running_launch, ← List.append_assoc]
  exact (List.perm_append_singleton _ _).symm

theorem release (marked : s.Marked (id :: held)) : (s.release id).Marked held := by
  have absent : id ∉ held ++ s.running := (List.nodup_cons.mp marked.owners_nodup).1
  have rest : (held ++ s.running).filter (· != id) = held ++ s.running :=
    List.filter_eq_self.mpr fun other member => bne_iff_ne.mpr fun same => absent (same ▸ member)
  refine ⟨marked.once.filter _, ?_⟩
  have remaining := marked.perm.filter (· != id)
  rwa [List.cons_append, List.filter_cons_of_neg (by simp), rest] at remaining

/-- The mark of a run goes with the run. That of a look for work is another probe's. -/
theorem finish (marked : s.Marked held) (running : id ∈ s.running) : (s.finish id).Marked held := by
  have apart := (List.nodup_append.mp marked.owners_nodup).2.2
  have others : held.filter (· != id) = held :=
    List.filter_eq_self.mpr fun other member => bne_iff_ne.mpr (apart other member id running)
  refine ⟨marked.once.filter _, ?_⟩
  have remaining := marked.perm.filter (· != id)
  rwa [List.filter_append, others, ← running_finish] at remaining

theorem turn (marked : s.Marked held) (turn : s.Turn id s') : s'.Marked held := by
  cases turn with
  | waits => exact marked
  | moves link fleet phase => exact marked.congr rfl (running_enter ..)
  | ends link delivered found =>
      exact Marked.finish (marked.congr rfl rfl) (mem_running_of_run? found)

end Marked

/-! ### Looks for work -/

theorem Marked.confirm (marked : s.Marked (id :: held)) (now : Timestamp) :
    (s.confirm now id).2.Marked held := by
  obtain ⟨probe, -, rfl, -, starts⟩ | ⟨-, gives⟩ := s.confirm_cases now id
  · rw [starts]
    exact Marked.launch (marked.congr rfl rfl)
  · rw [gives]
    exact Marked.release (marked.congr rfl rfl)

/-- One access of a look for work moves its mark to a run, or takes it away, or adds it. -/
theorem Marked.advance {l : Look} (marked : s.Marked (l.held?.toList ++ held)) (words : List Nat) :
    (l.advance s words).2.Marked (((l.advance s words).1.bind Look.held?).toList ++ held) := by
  have access := l.advance_access s words
  generalize l.held? = before, (l.advance s words).1.bind Look.held? = after,
    (l.advance s words).2 = s' at access marked ⊢
  cases access with
  | nothing => exact marked
  | schedules => exact marked.congr rfl rfl
  | claims claimed => exact marked.claim claimed
  | confirms now id => exact Marked.confirm marked now

theorem Marked.abandon {l : Look} (marked : s.Marked (l.held?.toList ++ held)) :
    (l.abandon s).Marked held := by
  unfold Look.abandon
  cases holds : l.held? with
  | none =>
      rw [holds] at marked
      exact marked
  | some id =>
      rw [holds] at marked
      exact Marked.release marked

theorem Marked.dispatch (marked : s.Marked held) (now : Timestamp) (words : List Nat) :
    (s.dispatch now words).scheduler.Marked held := by
  rw [dispatch_eq_foldl]
  refine visitAll_induction (motive := (·.Marked held)) ?_ ?_ (marked.congr rfl rfl)
  · intro s listed member next marked
    exact marked.congr rfl rfl
  · intro s s' listed member claimed marked
    exact (marked.claim claimed).confirm now

end Scheduler

end Hostwatch
