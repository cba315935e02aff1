import Hostwatch.Proofs.Scheduler.Direct
import Hostwatch.Proofs.Scheduler.StaleListing
import Hostwatch.Proofs.Scheduler.Timing

/-!
# Looking for work in the current listing

As long as nobody else writes the store meanwhile, a look for work comes to each stored probe with
the record that is stored. What it does about the probe then depends on where the probe stands, and
on whether the pass has broken off before: the first check of an earlier probe may lie beyond the
calendar.
-/

namespace Hostwatch.Scheduler

variable {β τ : Type} {s s' : Scheduler β τ} {id : String} {now : Timestamp} {q : Probe AgentRef}

theorem Spares.run? (spares : Spares id s s') : s'.run? id = s.run? id := by
  unfold Scheduler.run?
  rw [← List.head?_filter, ← List.head?_filter, spares.runs]

theorem Resets.run? {next : Option Timestamp} (resets : Resets q next s s') :
    s'.run? q.id = s.run? q.id := by
  unfold Scheduler.run?
  rw [← List.head?_filter, ← List.head?_filter, resets.runs]

/-- What a look for work does about a stored probe, given whether it has broken off before it comes
to the probe. -/
inductive Dispatched (q : Probe AgentRef) (now : Timestamp) (broken : Bool)
    (s s' : Scheduler β τ) : Prop where
  | running : s.isRunning q.id = true → Spares q.id s s' → Dispatched q now broken s s'
  | brokenOff : broken = true → Spares q.id s s' → Dispatched q now broken s s'
  | idle : q.state now false = .idle → Spares q.id s s' → Dispatched q now broken s s'
  | starts : s.isRunning q.id = false → broken = false → q.state now false = .due →
    s'.link.store.probe? q.id = some q →
    s'.run? q.id = (s.run? q.id).or (some { probe := q }) → Dispatched q now broken s s'
  | plans (next : Timestamp) : s.isRunning q.id = false → broken = false →
    q.state now false = .unscheduled → now ≤ next → Resets q (some next) s s' →
    Dispatched q now broken s s'
  | beyond : s.isRunning q.id = false → broken = false → q.state now false = .unscheduled →
    Spares q.id s s' → Dispatched q now broken s s'

/-- What is done about a probe does not change if others are dealt with before and after it. -/
theorem Dispatched.among {s₀ s₁ : Scheduler β τ} {broken : Bool}
    (done : Dispatched q now broken s s') (before : Spares q.id s₀ s) (after : Spares q.id s' s₁) :
    Dispatched q now broken s₀ s₁ := by
  cases done with
  | running marked spares =>
      exact .running (before.mark.symm.trans marked) ((before.trans spares).trans after)
  | brokenOff broken spares => exact .brokenOff broken ((before.trans spares).trans after)
  | idle state spares => exact .idle state ((before.trans spares).trans after)
  | starts free going due record run =>
      refine .starts (before.mark.symm.trans free) going due (after.record.trans record) ?_
      rw [after.run?, run, before.run?]
  | plans next free going state ahead resets =>
      exact .plans next (before.mark.symm.trans free) going state ahead
        ((resets.after_spares before).spared after)
  | beyond free going state spares =>
      exact .beyond (before.mark.symm.trans free) going state ((before.trans spares).trans after)

namespace Direct

theorem plan (direct : s.Direct) (stored : s.link.store.probe? q.id = some q) (next : Timestamp) :
    Resets q (some next) s (s.plan q.id next) := by
  refine ⟨?_, rfl, rfl⟩
  rw [direct.store_plan, stored]
  simp

/-- A probe that is still due and not marked is started. -/
theorem startDue {p : Pass β τ} (direct : p.scheduler.Direct)
    (stored : p.scheduler.link.store.probe? q.id = some q)
    (free : p.scheduler.isRunning q.id = false) (due : q.state now false = .due) :
    (Scheduler.startDue p now q.id).scheduler =
      { p.scheduler with inFlight := q.id :: p.scheduler.inFlight }.launch q := by
  have claimed : p.scheduler.claim q.id =
      some { p.scheduler with inFlight := q.id :: p.scheduler.inFlight } := by
    rw [claim, free]
    rfl
  have marked : Direct { p.scheduler with inFlight := q.id :: p.scheduler.inFlight } :=
    ⟨direct.sound, direct.system⟩
  unfold Scheduler.startDue
  simp only [claimed, marked.confirm_of_due stored due]

theorem visit {p : Pass β τ} (direct : p.scheduler.Direct)
    (stored : p.scheduler.link.store.probe? q.id = some q) (now : Timestamp) :
    Dispatched q now p.broken p.scheduler (Scheduler.visit now p q).scheduler := by
  have kept : Spares q.id p.scheduler p.scheduler := .refl _
  unfold Scheduler.visit
  cases going : p.broken with
  | true => exact .brokenOff rfl kept
  | false =>
      cases free : p.scheduler.isRunning q.id with
      | true => exact .running free kept
      | false =>
          simp only [Bool.false_eq_true, if_false]
          cases state : q.state now false with
          | running => exact absurd state (q.state_ne_running now)
          | idle => exact .idle state kept
          | unscheduled =>
              unfold schedule
              cases first : jitteredStart now q.interval p.words with
              | mk next words =>
                  cases next with
                  | none => exact .beyond free rfl state kept
                  | some next =>
                      have ahead : now ≤ next := le_of_jitteredStart (congrArg Prod.fst first)
                      exact .plans next free rfl state ahead (direct.plan stored next)
          | due =>
              refine .starts free rfl state ?_ ?_
              · rw [direct.startDue stored free state]
                exact stored
              · rw [direct.startDue stored free state, run?_launch, if_pos rfl]
                rfl

/-- What a look for work in the current listing does about a stored probe. -/
theorem dispatch (direct : s.Direct) (current : s.link.listed = none)
    (stored : s.link.store.probe? q.id = some q) (now : Timestamp) (words : List Nat) :
    Dispatched q now (s.passUntil now words q.id).broken s (s.dispatch now words).scheduler := by
  have entry : s.listing.find? (·.id == q.id) = some q :=
    (direct.find?_listing current q.id).trans stored
  obtain ⟨-, before, later, split, taken, earlier, after⟩ := s.listing_split entry
  have listed : Spares q.id s { s with link := (s.link.listProbes s.actor .all).2 } :=
    .link s (s.link.store_read _ _)
  have reached : Spares q.id s (s.passUntil now words q.id).scheduler := by
    rw [passUntil, taken]
    exact listed.trans (.visitAll { scheduler := _, words } now earlier)
  have keeps : Keeps q.id s (s.passUntil now words q.id).scheduler := by
    have listed : Keeps q.id s { s with link := (s.link.listProbes s.actor .all).2 } :=
      .link s fun sound => Link.faults_read sound _ _
    exact listed.trans (.visitAll { scheduler := _, words } now _)
  have visited := (direct.keeps keeps).visit (reached.record.trans stored) now
  have whole : (s.dispatch now words).scheduler =
      (later.foldl (Scheduler.visit now)
        (Scheduler.visit now (s.passUntil now words q.id) q)).scheduler := by
    rw [dispatch_eq_foldl, passUntil, taken, split, List.foldl_append, List.foldl_cons]
  rw [whole]
  exact visited.among reached (.visitAll _ now after)

end Direct

end Hostwatch.Scheduler
