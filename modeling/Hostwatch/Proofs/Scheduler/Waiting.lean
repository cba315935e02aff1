import Hostwatch.Proofs.Scheduler.OneProbe

/-!
# Waiting for the next check

Between two checks a probe that is left alone only waits: no look for work does anything about it
until its next check has come and it has no run. The first one that comes then starts it, if it
comes in time.
-/

namespace Hostwatch.World

variable {β τ : Type} {w : World β τ} {q : Probe AgentRef} {due : Timestamp}

/-- The next check of a stored probe is planned, and its run, if it has one, has recorded its
outcome already. -/
structure Waits (w : World β τ) (q : Probe AgentRef) (due : Timestamp) : Prop where
  plain : w.Plain
  stored : w.store.probe? q.id = some q
  planned : q.nextCheck = some due
  nonneg : 0 ≤ q.interval.nanos
  recorded : ∀ r ∈ w.scheduler.run? q.id, r.phase.recorded = true

/-- A look for work comes before the time, or finds the probe running. -/
def Passes (w : World β τ) (id : String) (due : Timestamp) : Step β τ → Prop
  | .dispatch now _ => now < due ∨ w.scheduler.isRunning id = true
  | _ => True

/-- Nothing comes of a step that misses a waiting probe, but that its run may go on or end. -/
theorem Becomes.of_waiting {run run' : Option (Run τ)} {next : Step β τ} {q' : Probe AgentRef}
    (becomes : Becomes q run next q' run') (planned : q.nextCheck = some due)
    (nonneg : 0 ≤ q.interval.nanos) (recorded : ∀ r ∈ run, r.phase.recorded = true)
    (passes : ∀ now words, next = .dispatch now words → now < due ∨ run ≠ none) :
    q' = q ∧ (∀ r ∈ run', r.phase.recorded = true) ∧ (run = none → run' = none) := by
  -- A look for work that finds no run comes too early.
  have early {now : Timestamp} {words : List Nat} (first : next = .dispatch now words)
      (free : run = none) : q.state now false = .idle := by
    obtain early | running := passes now words first
    · exact Probe.state_eq_idle_of_lt planned nonneg early
    · exact absurd free running
  cases becomes with
  | stays => exact ⟨rfl, recorded, id⟩
  | starts words state => cases state.symm.trans (early rfl rfl)
  | plans words state => cases state.symm.trans (early rfl rfl)
  | moves next phase same =>
      refine ⟨rfl, ?_, by simp⟩
      rintro r ⟨⟩
      exact same.trans (recorded _ rfl)
  | ends => exact ⟨rfl, by simp, fun _ => rfl⟩
  | putsOff phase => exact absurd (recorded _ rfl) (by simp [phase, Phase.recorded])
  | records phase => exact absurd (recorded _ rfl) (by simp [phase, Phase.recorded])
  | overruns phase => exact absurd (recorded _ rfl) (by simp [phase, Phase.recorded])

variable [Plugin β] [Plugin τ]

/-- All looks for work come before the time, or find the probe running. -/
def Misses (w : World β τ) (id : String) (due : Timestamp) : List (Step β τ) → Prop
  | [] => True
  | next :: rest => w.Passes id due next ∧ (w.step next).Misses id due rest

/-- A look for work starts a probe, unless it breaks off before it gets to it. Either way the record
of the probe stays as it is. -/
def StartsAt (w : World β τ) (id : String) (now : Timestamp) (words : List Nat) : Prop :=
  ∃ q, w.store.probe? id = some q ∧
    (w.step (.dispatch now words)).store.probe? id = some q ∧
    (w.step (.dispatch now words)).scheduler.run? id =
      if (w.scheduler.passUntil now words id).broken then none else some { probe := q }

namespace Waits

theorem step (waits : w.Waits q due) {next : Step β τ} (alone : w.LeftAlone q.id next)
    (passes : w.Passes q.id due next) :
    (w.step next).Waits q due ∧
      (w.scheduler.run? q.id = none → (w.step next).scheduler.run? q.id = none) := by
  obtain ⟨q', stored, becomes⟩ := waits.plain.stepsTo waits.stored alone
  have missed : ∀ now words, next = .dispatch now words →
      now < due ∨ w.scheduler.run? q.id ≠ none := by
    rintro now words rfl
    rw [Passes, waits.plain.isRunning_eq, Option.isSome_iff_ne_none] at passes
    exact passes
  obtain ⟨rfl, recorded, free⟩ :=
    becomes.of_waiting waits.planned waits.nonneg waits.recorded missed
  exact ⟨⟨waits.plain.step alone, stored, waits.planned, waits.nonneg, recorded⟩, free⟩

theorem run (waits : w.Waits q due) {steps : List (Step β τ)} (alone : w.Alone q.id steps)
    (misses : w.Misses q.id due steps) :
    (w.run steps).Waits q due ∧
      (w.scheduler.run? q.id = none → (w.run steps).scheduler.run? q.id = none) := by
  induction steps generalizing w with
  | nil => exact ⟨waits, id⟩
  | cons next rest ih =>
      obtain ⟨waits, free⟩ := waits.step alone.1 misses.1
      obtain ⟨waits, free'⟩ := ih waits alone.2 misses.2
      exact ⟨waits, fun none => free' (free none)⟩

/-- The first look for work at or after the next check finds the probe due if it comes at most two
intervals after the check. -/
theorem dispatch (waits : w.Waits q due) (free : w.scheduler.run? q.id = none)
    {now : Timestamp} {words : List Nat} (current : w.LeftAlone q.id (.dispatch now words))
    (come : due ≤ now) (timely : now.toNanos ≤ due.toNanos + 2 * q.interval.nanos) :
    w.StartsAt q.id now words := by
  have state : q.state now false = .due :=
    (Probe.state_eq_due_iff waits.planned).mpr ⟨come, timely⟩
  refine ⟨q, waits.stored, ?_⟩
  cases waits.plain.direct.dispatch current waits.stored now words with
  | running marked => simp [waits.plain.isRunning_eq, free] at marked
  | idle idle => cases state.symm.trans idle
  | plans next marked going unscheduled => cases state.symm.trans unscheduled
  | beyond marked going unscheduled => cases state.symm.trans unscheduled
  | brokenOff broken spares =>
      rw [broken, if_pos rfl]
      exact ⟨spares.record.trans waits.stored, spares.run?.trans free⟩
  | starts marked going due record run =>
      rw [free] at run
      rw [going]
      exact ⟨record, run⟩

end Waits

end Hostwatch.World
