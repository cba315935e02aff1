import Hostwatch.Proofs.Scheduler.Pacing

/-!
# Looking for work at a fixed period

A new probe gets its first check at a random moment of the coming interval, and the first tick at or
after that moment should start it. Until then no tick does anything about it. But the tick has to
come in time: if it comes more than two intervals after the check, the probe counts as new again and
gets another first check. So no probe is thrown back if the period is at most two of its intervals,
and one may be thrown back again and again if the period is longer.
-/

namespace Hostwatch

/-- Looks for work at a fixed period, and what happens after each until the next. -/
structure Ticking (β τ : Type) where
  first : Timestamp
  period : Span
  /-- The random words of each look for work. -/
  words : Nat → List Nat
  between : Nat → List (World.Step β τ)

namespace Ticking

variable {β τ : Type}

/-- The time of a tick. -/
def tick (t : Ticking β τ) (n : Nat) : Timestamp :=
  .ofNanos (t.first.toNanos + n * t.period.nanos)

theorem toNanos_tick (t : Ticking β τ) (n : Nat) :
    (t.tick n).toNanos = t.first.toNanos + n * t.period.nanos :=
  Timestamp.toNanos_ofNanos _

theorem toNanos_tick_succ (t : Ticking β τ) (n : Nat) :
    (t.tick (n + 1)).toNanos = (t.tick n).toNanos + t.period.nanos := by
  rw [toNanos_tick, toNanos_tick, Int.natCast_succ, Int.add_mul, Int.one_mul, Int.add_assoc]

/-- The first tick at or after the first check comes at most one period after it. -/
theorem tick_le {t : Ticking β τ} {due : Timestamp} {n : Nat} (ahead : t.tick 0 ≤ due)
    (early : ∀ j, 0 < j → j ≤ n → t.tick j < due) :
    (t.tick (n + 1)).toNanos ≤ due.toNanos + t.period.nanos := by
  have last : (t.tick n).toNanos ≤ due.toNanos := by
    cases n with
    | zero => exact ahead
    | succ n => exact Int.le_of_lt (early (n + 1) (Nat.succ_pos n) (Nat.le_refl _))
  rw [toNanos_tick_succ]
  omega

variable [Plugin β] [Plugin τ]

/-- The world just before a tick. -/
def before (t : Ticking β τ) (w : World β τ) : Nat → World β τ
  | 0 => w
  | n + 1 => ((t.before w n).step (.dispatch (t.tick n) (t.words n))).run (t.between n)

/-- From a tick to the next, nobody but the scheduler writes a probe, and it does not look for work
again. -/
structure Leaves (t : Ticking β τ) (w : World β τ) (id : String) (n : Nat) : Prop where
  current : (t.before w n).LeftAlone id (.dispatch (t.tick n) (t.words n))
  alone : ((t.before w n).step (.dispatch (t.tick n) (t.words n))).Alone id (t.between n)
  once : ∀ next ∈ t.between n, ∀ now words, next ≠ .dispatch now words

end Ticking

namespace World

variable {β τ : Type} [Plugin β] [Plugin τ] {w : World β τ} {p q : Probe AgentRef}
  {due now : Timestamp} {steps : List (Step β τ)}

theorem misses_of_no_dispatch {id : String} (none : ∀ next ∈ steps, ∀ now words,
    next ≠ .dispatch now words) : w.Misses id due steps := by
  induction steps generalizing w with
  | nil => trivial
  | cons next rest ih =>
      refine ⟨?_, ih fun other member => none other (List.mem_cons_of_mem _ member)⟩
      cases next with
      | dispatch now words => exact absurd rfl (none _ List.mem_cons_self now words)
      | _ => trivial

/-- A look for work that gives a probe a new check leaves it waiting for that. The check does not
lie in the past. -/
theorem Plain.waits_after_plan (plain : w.Plain) (stored : w.store.probe? p.id = some p)
    (nonneg : 0 ≤ p.interval.nanos) {words : List Nat}
    (current : w.LeftAlone p.id (.dispatch now words)) (changed : p.nextCheck ≠ some due)
    (planned : (w.step (.dispatch now words)).store.probe? p.id =
      some { p with nextCheck := some due }) :
    (w.step (.dispatch now words)).Waits { p with nextCheck := some due } due ∧
      (w.step (.dispatch now words)).scheduler.run? p.id = none ∧ now ≤ due := by
  obtain ⟨p', stored', becomes⟩ := plain.stepsTo stored current
  have same : p'.nextCheck = some due := by
    rw [Option.some.inj (stored'.symm.trans planned)]
  have unstarted : (w.step (.dispatch now words)).scheduler.run? p.id = none ∧ now ≤ due := by
    generalize w.scheduler.run? p.id = run,
      (w.step (.dispatch now words)).scheduler.run? p.id = run' at becomes
    cases becomes with
    | plans words state ahead =>
        cases same
        exact ⟨rfl, ahead⟩
    | _ => exact absurd same changed
  refine ⟨⟨plain.step current, planned, rfl, nonneg, ?_⟩, unstarted⟩
  rw [unstarted.1]
  simp

/-- A look for work that comes too early does nothing about a probe. -/
theorem Waits.dispatch_early (waits : w.Waits q due) (free : w.scheduler.run? q.id = none)
    {words : List Nat} (current : w.LeftAlone q.id (.dispatch now words)) (early : now < due) :
    q.state now false = .idle ∧
      (w.step (.dispatch now words)).store.probe? q.id = some q ∧
      (w.step (.dispatch now words)).scheduler.run? q.id = none := by
  obtain ⟨waits', unstarted⟩ := waits.step current (.inl early)
  exact ⟨Probe.state_eq_idle_of_lt waits.planned waits.nonneg early, waits'.stored, unstarted free⟩

end World

namespace Ticking

open World

variable {β τ : Type} [Plugin β] [Plugin τ] {t : Ticking β τ} {w : World β τ}
  {p q : Probe AgentRef} {due : Timestamp} {n : Nat}

/-- A probe that waits without a run after one tick does so before the next. -/
theorem waits_between (leaves : t.Leaves w q.id n)
    (waits : ((t.before w n).step (.dispatch (t.tick n) (t.words n))).Waits q due)
    (free : ((t.before w n).step (.dispatch (t.tick n) (t.words n))).scheduler.run? q.id = none) :
    (t.before w (n + 1)).Waits q due ∧ (t.before w (n + 1)).scheduler.run? q.id = none := by
  obtain ⟨waits, unstarted⟩ := waits.run leaves.alone (misses_of_no_dispatch leaves.once)
  exact ⟨waits, unstarted free⟩

/-- A probe that waits without a run after the first tick still does so before each later one, up to
the first that comes at or after its next check. -/
theorem waits_before (leaves : ∀ j ≤ n, t.Leaves w q.id j)
    (waits : (t.before w 1).Waits q due) (free : (t.before w 1).scheduler.run? q.id = none)
    (early : ∀ j, 0 < j → j ≤ n → t.tick j < due) :
    (t.before w (n + 1)).Waits q due ∧ (t.before w (n + 1)).scheduler.run? q.id = none := by
  induction n with
  | zero => exact ⟨waits, free⟩
  | succ n ih =>
      obtain ⟨waits, free⟩ := ih (fun j below => leaves j (by omega))
        (fun j later below => early j later (by omega))
      have round := leaves (n + 1) (Nat.le_refl _)
      have passes := early (n + 1) (Nat.succ_pos n) (Nat.le_refl _)
      obtain ⟨waits, unstarted⟩ := waits.step round.current (.inl passes)
      exact waits_between round waits (unstarted free)

/-- A probe gets a new first check at the first tick. As long as the ticks come before that check,
they leave the probe idle and waiting. The next one finds it due and starts it, unless it breaks off
before it gets to the probe, if it comes at most two intervals after the check; then only does the
probe not count as new again. It always comes in time if the period is at most two intervals. -/
theorem first_check_is_kept {store : Store AgentRef τ} {forwarder : Forwarder} {fleet : Fleet β}
    {earlier : List (Step β τ)}
    (looks : ((start { store } .system forwarder fleet).run earlier).looks = [])
    (stored : ((start { store } .system forwarder fleet).run earlier).store.probe? p.id = some p)
    (nonneg : 0 ≤ p.interval.nanos)
    (leaves : ∀ j ≤ n + 1, t.Leaves ((start { store } .system forwarder fleet).run earlier) p.id j)
    (changed : p.nextCheck ≠ some due)
    (planned : (((start { store } .system forwarder fleet).run earlier).step
      (.dispatch (t.tick 0) (t.words 0))).store.probe? p.id = some { p with nextCheck := some due })
    (early : ∀ j, 0 < j → j ≤ n → t.tick j < due) :
    let ready := t.before ((start { store } .system forwarder fleet).run earlier) (n + 1)
    let q := { p with nextCheck := some due }
    let now := t.tick (n + 1)
    let ticked := ready.step (.dispatch now (t.words (n + 1)))
    ready.store.probe? p.id = some q ∧ ready.scheduler.isRunning p.id = false ∧
    (now < due → q.state now false = .idle ∧
      ticked.store.probe? p.id = some q ∧ ticked.scheduler.run? p.id = none) ∧
    (due ≤ now → now.toNanos ≤ due.toNanos + 2 * p.interval.nanos →
      q.state now false = .due ∧ ready.StartsAt p.id now (t.words (n + 1))) ∧
    (q.state now false = .unscheduled ↔ due.toNanos + 2 * p.interval.nanos < now.toNanos) ∧
    (t.period.nanos ≤ 2 * p.interval.nanos →
      now.toNanos ≤ due.toNanos + 2 * p.interval.nanos) := by
  intro ready q now ticked
  have plain := plain_run_start store forwarder fleet looks
  replace leaves : ∀ j ≤ n + 1, t.Leaves _ q.id j := leaves
  have first := leaves 0 (Nat.zero_le _)
  have last := leaves (n + 1) (Nat.le_refl _)
  obtain ⟨waits, free, ahead⟩ := plain.waits_after_plan stored nonneg first.current changed planned
  obtain ⟨waits, free⟩ := waits_between (q := q) first waits free
  obtain ⟨waits, free⟩ := waits_before (fun j below => leaves j (by omega)) waits free early
  refine ⟨waits.stored, ?_, ?_, ?_, ?_, ?_⟩
  · rw [waits.plain.isRunning_eq]
    exact Option.isSome_eq_false_iff.mpr (Option.isNone_iff_eq_none.mpr free)
  · exact waits.dispatch_early free last.current
  · intro come timely
    exact ⟨(Probe.state_eq_due_iff rfl).mpr ⟨come, timely⟩,
      waits.dispatch free last.current come timely⟩
  · exact Probe.state_eq_unscheduled_iff rfl
  · intro short
    have soon : now.toNanos ≤ due.toNanos + t.period.nanos := tick_le ahead early
    omega

/-- A tick every `seconds`, without chance and with nothing in between. -/
def every (seconds : Int) : Ticking Agent Transport :=
  { first := ⟨1700000000, 0⟩, period := ⟨seconds * 1000000000⟩
    words := fun _ => [], between := fun _ => [] }

/-- A probe with an interval of one second is started in time if there is a tick every two seconds.
-/
theorem started_at_second_tick :
    (every 2).tick 1 = ⟨1700000002, 0⟩ ∧
      ((every 2).before (addedEvery 1000) 1).StartsAt "load" ⟨1700000002, 0⟩ [] := by
  have leaves : ∀ j ≤ 0 + 1, (every 2).Leaves (addedEvery 1000) "load" j := by
    intro j below
    have current : ((every 2).before (addedEvery 1000) j).scheduler.link.listed.isNone = true := by
      revert j
      decide
    exact ⟨Option.isNone_iff_eq_none.mp current, trivial, by simp [every]⟩
  have planned : ((addedEvery 1000).step (.dispatch ((every 2).tick 0) [])).store.probe? "load" =
      some { newEvery 1000 with nextCheck := some ⟨1700000000, 0⟩ } := by
    with_unfolding_all rfl
  have kept := first_check_is_kept (addedEvery_added 1000).looks (addedEvery_added 1000).stored
    (by decide) leaves (by decide) planned (by omega)
  exact ⟨by decide, (kept.2.2.2.1 (by decide) (by decide)).2⟩

/-- With a tick every four seconds, the second tick comes too late for the same probe: it counts as
new again and gets another first check. -/
theorem thrown_back_at_second_tick :
    let before := (every 4).before (addedEvery 1000)
    ((before 1).store.probe? "load").map
        (fun q => (q.nextCheck, q.state ((every 4).tick 1) false)) =
        some (some ⟨1700000000, 0⟩, .unscheduled) ∧
      ((before 2).store.probe? "load").map (·.nextCheck) = some (some ⟨1700000004, 0⟩) ∧
      (before 2).scheduler.running = [] := by
  decide

end Ticking

end Hostwatch
