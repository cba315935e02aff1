import Hostwatch.Proofs.Scheduler.Moves

/-!
# Looking for work in an old listing

By the time a look for work comes to a probe, the listing may be older than the record in the store:
a run may have ended in between and set the next check. A probe that is listed as due is therefore
read again before it is started, so an idle probe is never started by mistake. A probe that is
listed as new is not: its next check is overwritten, whatever the store says by then. The equation
below says when exactly that happens.
-/

namespace Hostwatch.Scheduler

variable {β τ : Type} {s s' : Scheduler β τ} {id : String}

/-! ### Which check is overwritten -/

/-- A look for work when it comes to a probe. -/
def passUntil (s : Scheduler β τ) (now : Timestamp) (words : List Nat) (id : String) : Pass β τ :=
  (s.listing.takeWhile (·.id != id)).foldl (visit now)
    { scheduler := { s with link := (s.link.listProbes s.actor .all).2 }, words }

/-- The first check that a look for work sets for a probe that is listed as new. There is none if a
first check lay beyond the calendar, this one or an earlier one, or if the store refuses it. -/
def Pass.firstCheck? (p : Pass β τ) (now : Timestamp) (listed : Probe AgentRef) :
    Option Timestamp :=
  if p.broken = false ∧ listed.state now false = .unscheduled then
    (jitteredStart now listed.interval p.words).1.filter fun next =>
      (p.scheduler.link.reschedule p.scheduler.actor listed.id next).1.isOk
  else none

/-- The first check that a look for work sets for a probe, going by what is listed of it. -/
def firstCheck? (s : Scheduler β τ) (now : Timestamp) (words : List Nat) (id : String) :
    Option Timestamp :=
  (s.listing.find? (·.id == id)).bind ((s.passUntil now words id).firstCheck? now)

/-! ### Leaving a probe alone -/

/-- Nothing happens to a probe: its record, its mark and its runs stay. -/
structure Spares (id : String) (s s' : Scheduler β τ) : Prop where
  record : s'.link.store.probe? id = s.link.store.probe? id
  mark : s'.isRunning id = s.isRunning id
  runs : s'.runs.filter (·.probe.id == id) = s.runs.filter (·.probe.id == id)

namespace Spares

variable {other : String}

theorem refl (s : Scheduler β τ) : Spares id s s :=
  ⟨rfl, rfl, rfl⟩

theorem trans {s'' : Scheduler β τ} (first : Spares id s s') (second : Spares id s' s'') :
    Spares id s s'' :=
  ⟨second.record.trans first.record, second.mark.trans first.mark, second.runs.trans first.runs⟩

/-- Reading over the link. -/
theorem link (s : Scheduler β τ) {link : Link AgentRef τ} (same : link.store = s.link.store) :
    Spares id s { s with link } :=
  ⟨congrArg (·.probe? id) same, rfl, rfl⟩

theorem claim (claimed : s.claim other = some s') (different : id ≠ other) : Spares id s s' := by
  obtain ⟨-, rfl⟩ := claim_eq_some_iff.mp claimed
  refine ⟨rfl, ?_, rfl⟩
  simp [isRunning, different]

theorem release (s : Scheduler β τ) (different : id ≠ other) : Spares id s (s.release other) := by
  refine ⟨rfl, ?_, rfl⟩
  simp [isRunning, Scheduler.release, different]

theorem launch (s : Scheduler β τ) {probe : Probe AgentRef} (different : id ≠ probe.id) :
    Spares id s (s.launch probe) := by
  refine ⟨rfl, rfl, ?_⟩
  simp [Scheduler.launch, Ne.symm different]

theorem plan (s : Scheduler β τ) (different : id ≠ other) (next : Timestamp) :
    Spares id s (s.plan other next) := by
  refine ⟨?_, rfl, rfl⟩
  obtain ⟨old, found, -, after⟩ | ⟨e, -, after⟩ := s.link.reschedule_cases s.actor other next
  · have owned : old.id = other := Store.id_of_probe? found
    simp [Scheduler.plan, after, owned, different]
  · simp only [Scheduler.plan, after]

theorem confirm (s : Scheduler β τ) (now : Timestamp) (different : id ≠ other) :
    Spares id s (s.confirm now other).2 := by
  have read : Spares id s { s with link := (s.link.getProbe s.actor other).2 } :=
    .link s (s.link.store_read _ _)
  obtain ⟨probe, -, rfl, -, starts⟩ | ⟨-, gives⟩ := s.confirm_cases now other
  · rw [starts]
    exact read.trans (.launch _ different)
  · rw [gives]
    exact read.trans (.release _ different)

/-- Dealing with other probes. -/
theorem visitAll (p : Pass β τ) (now : Timestamp) {probes : List (Probe AgentRef)}
    (different : ∀ listed ∈ probes, id ≠ listed.id) :
    Spares id p.scheduler (probes.foldl (visit now) p).scheduler := by
  refine visitAll_induction (motive := Spares id p.scheduler) ?_ ?_ (.refl _)
  · intro s listed member next spares
    exact spares.trans (.plan s (different listed member) next)
  · intro s s' listed member claimed spares
    have different := different listed member
    exact (spares.trans (.claim claimed different)).trans (.confirm s' now different)

end Spares

/-! ### An idle probe -/

/-- A probe is idle in the store and nobody has marked it. -/
structure Resting (s : Scheduler β τ) (now : Timestamp) (q : Probe AgentRef) : Prop where
  stored : s.link.store.probe? q.id = some q
  idle : q.state now false = .idle
  free : s.isRunning q.id = false

variable {now : Timestamp} {q : Probe AgentRef}

theorem Resting.spared (resting : s.Resting now q) (spares : Spares q.id s s') :
    s'.Resting now q :=
  ⟨spares.record.trans resting.stored, resting.idle, spares.mark.trans resting.free⟩

/-- An attempt to start an idle probe finds out when it reads the probe again. -/
theorem Resting.confirm (stored : s.link.store.probe? q.id = some q)
    (idle : q.state now false = .idle) :
    s.confirm now q.id =
      (false, { s with link := (s.link.getProbe s.actor q.id).2 }.release q.id) := by
  obtain ⟨probe, answer, -, due, -⟩ | ⟨-, gives⟩ := s.confirm_cases now q.id
  · cases stored.symm.trans (Link.probe?_of_getProbe answer)
    cases idle.symm.trans due
  · exact gives

theorem Resting.startDue {p : Pass β τ} (resting : p.scheduler.Resting now q) :
    Spares q.id p.scheduler (startDue p now q.id).scheduler := by
  have fresh : q.id ∉ p.scheduler.inFlight := by simpa [isRunning] using resting.free
  unfold Scheduler.startDue claim
  rw [resting.free]
  have gives := Resting.confirm (s := { p.scheduler with inFlight := q.id :: p.scheduler.inFlight })
    resting.stored resting.idle
  simp only [Bool.false_eq_true, if_false, gives]
  refine ⟨?_, ?_, rfl⟩
  · exact congrArg (·.probe? q.id) (p.scheduler.link.store_read _ _)
  · rw [resting.free]
    simp [isRunning, release]

/-- Nothing happens to a probe but that its next check is set, if that. -/
structure Resets (q : Probe AgentRef) (next : Option Timestamp) (s s' : Scheduler β τ) : Prop where
  record : s'.link.store.probe? q.id = some { q with nextCheck := next.or q.nextCheck }
  mark : s'.isRunning q.id = s.isRunning q.id
  runs : s'.runs.filter (·.probe.id == q.id) = s.runs.filter (·.probe.id == q.id)

theorem Spares.resets (spares : Spares q.id s s') (stored : s.link.store.probe? q.id = some q) :
    Resets q none s s' :=
  ⟨spares.record.trans stored, spares.mark, spares.runs⟩

theorem Resets.after_spares {s₀ : Scheduler β τ} {next : Option Timestamp}
    (spares : Spares q.id s₀ s) (resets : Resets q next s s') : Resets q next s₀ s' :=
  ⟨resets.record, resets.mark.trans spares.mark, resets.runs.trans spares.runs⟩

theorem Resets.spared {s₁ : Scheduler β τ} {next : Option Timestamp} (resets : Resets q next s s')
    (spares : Spares q.id s' s₁) : Resets q next s s₁ :=
  ⟨spares.record.trans resets.record, spares.mark.trans resets.mark,
    spares.runs.trans resets.runs⟩

theorem resets_plan (stored : s.link.store.probe? q.id = some q) (next : Timestamp) :
    Resets q ((some next).filter fun next => (s.link.reschedule s.actor q.id next).1.isOk) s
      (s.plan q.id next) := by
  refine ⟨?_, rfl, rfl⟩
  obtain ⟨old, found, answer, after⟩ | ⟨e, answer, after⟩ :=
    s.link.reschedule_cases s.actor q.id next
  · cases stored.symm.trans found
    have granted : (s.link.reschedule s.actor q.id next).1.isOk = true := by rw [answer]; rfl
    simp [plan, after, Option.filter_some, granted]
  · have refused : (s.link.reschedule s.actor q.id next).1.isOk = false := by rw [answer]; rfl
    simp [plan, after, Option.filter_some, refused, stored]

/-- What a look for work does about the listed record of an idle probe. -/
theorem Resting.visit {p : Pass β τ} (resting : p.scheduler.Resting now q)
    {listed : Probe AgentRef} (same : listed.id = q.id) :
    Resets q (p.firstCheck? now listed) p.scheduler (visit now p listed).scheduler := by
  have kept := (Spares.refl p.scheduler).resets resting.stored
  unfold Scheduler.visit Pass.firstCheck?
  rw [same, resting.free]
  cases broken : p.broken with
  | true => simpa using kept
  | false =>
      cases state : listed.state now false with
      | running | idle => simpa using kept
      | due => simpa [same] using resting.startDue.resets resting.stored
      | unscheduled =>
          unfold schedule
          cases first : jitteredStart now listed.interval p.words with
          | mk next words =>
              cases next with
              | none => simpa [first] using kept
              | some next => simpa [first, same] using resets_plan resting.stored next

/-- The records before that of a probe are those that a look for work deals with until it comes to
the probe, and none of those after it is of the probe. -/
theorem listing_split (s : Scheduler β τ) {record : Probe AgentRef}
    (entry : s.listing.find? (·.id == id) = some record) :
    record.id = id ∧ ∃ before later, s.listing = before ++ record :: later ∧
      s.listing.takeWhile (·.id != id) = before ∧
      (∀ other ∈ before, id ≠ other.id) ∧ (∀ other ∈ later, id ≠ other.id) := by
  obtain ⟨same, before, later, split, others⟩ := List.find?_eq_some_iff_append.mp entry
  replace same : record.id = id := beq_iff_eq.mp same
  have apart := s.listing_pairwise
  rw [split] at apart
  obtain ⟨-, tail, -⟩ := List.pairwise_append.mp apart
  have earlier : ∀ other ∈ before, (other.id != id) = true := others
  refine ⟨same, before, later, split, ?_, ?_, ?_⟩
  · rw [split, List.takeWhile_append_of_pos earlier, List.takeWhile_cons_of_neg (by simp [same]),
      List.append_nil]
  · intro other member
    exact Ne.symm (bne_iff_ne.mp (earlier other member))
  · intro other member
    rw [← same]
    exact (List.pairwise_cons.mp tail).1 other member

theorem Resting.dispatch (resting : s.Resting now q) (words : List Nat) :
    Resets q (s.firstCheck? now words q.id) s (s.dispatch now words).scheduler := by
  have listed : Spares q.id s { s with link := (s.link.listProbes s.actor .all).2 } :=
    .link s (s.link.store_read _ _)
  rw [dispatch_eq_foldl, firstCheck?, passUntil]
  cases entry : s.listing.find? (·.id == q.id) with
  | none =>
      have others : ∀ other ∈ s.listing, q.id ≠ other.id := by
        intro other member same
        exact List.find?_eq_none.mp entry other member (beq_iff_eq.mpr same.symm)
      have spared := listed.trans (.visitAll { scheduler := _, words } now others)
      exact spared.resets resting.stored
  | some record =>
      obtain ⟨same, before, later, split, taken, earlier, after⟩ := s.listing_split entry
      rw [taken, split, List.foldl_append, List.foldl_cons]
      -- Up to the record and after it other probes are dealt with.
      have reached := listed.trans (.visitAll { scheduler := _, words } now earlier)
      exact (((resting.spared reached).visit same).after_spares reached).spared
        (.visitAll _ now after)

/-- What becomes of an idle probe that nobody has marked when a scheduler looks for work, in
whatever listing: it is neither started nor marked, and of its record at most the next check
changes. That is overwritten exactly if the listing shows the probe as new. -/
theorem idle_probe_after_dispatch (resting : s.Resting now q) (words : List Nat) :
    let after := (s.dispatch now words).scheduler
    after.runs.filter (·.probe.id == q.id) = s.runs.filter (·.probe.id == q.id) ∧
      after.isRunning q.id = false ∧
      after.link.store.probe? q.id =
        some { q with nextCheck := (s.firstCheck? now words q.id).or q.nextCheck } ∧
      ((∀ listed ∈ s.listing, listed.id = q.id → listed.state now false ≠ .unscheduled) →
        after.link.store.probe? q.id = some q) := by
  have resets := resting.dispatch words
  refine ⟨resets.runs, resets.mark.trans resting.free, resets.record, ?_⟩
  intro known
  have kept : s.firstCheck? now words q.id = none := by
    refine Option.bind_eq_none_iff.mpr fun record entry => ?_
    have same := (s.listing_split entry).1
    have scheduled := known record (List.mem_of_find?_eq_some entry) same
    simp [Pass.firstCheck?, scheduled]
  rw [resets.record, kept, Option.none_or]

/-- A probe that is due at the second 1700000000 and every millisecond from then on. -/
def beat : Probe AgentRef :=
  { id := "beat", account := "system", hostId := "web"
    agent := { number := 0, spec := { kind := "load" } }, interval := .ofMillis 1
    nextCheck := some ⟨1700000000, 0⟩ }

/-- The probe and its host. -/
def beating : Store AgentRef Transport :=
  (Store.performAll .empty [
    (.system, .addHost
      { id := "web", account := "system", name := "web", transport := .thisMachine }),
    (.system, .addProbe beat)]).store

/-- The probe has been run, until `finish`, and the store is listed as it was before the run. -/
def beaten (finish : Timestamp) : Scheduler Agent Transport :=
  ((World.start { store := beating } .system { maxRetries := 0, backoffMillis := 0 } {}).run [
    .freeze (some beating), .dispatch ⟨1700000000, 0⟩ [], .lookUp "beat",
    .gathered "beat" (some []) (.load none), .record "beat" finish]).scheduler

/-- What is stored of the probe after a run that took no time. -/
def beatOnce : Probe AgentRef :=
  { beat with
    lastCheck := some ⟨1700000000, 0⟩, nextCheck := some ⟨1700000000, 1000000⟩
    lastPoints := some [] }

theorem beatOnce_resting :
    (beaten ⟨1700000000, 0⟩).Resting ⟨1700000000, 0⟩ beatOnce where
  stored := by
    change (beaten ⟨1700000000, 0⟩).link.store.probe? "beat" = some beatOnce
    with_unfolding_all rfl
  idle := by decide
  free := by decide

/-- After a short run the old listing has the probe as due, which does no harm. -/
theorem beat_listed_as_due :
    (beaten ⟨1700000000, 0⟩).Resting ⟨1700000000, 0⟩ beatOnce ∧
      ((beaten ⟨1700000000, 0⟩).dispatch ⟨1700000000, 0⟩ []).scheduler.link.store.probe? "beat" =
        some beatOnce :=
  ⟨beatOnce_resting, (idle_probe_after_dispatch beatOnce_resting []).2.2.2 (by decide)⟩

/-- After a long run the old listing has the probe as new, and the next check that the run has set
is overwritten. -/
theorem beat_listed_as_new :
    let now : Timestamp := ⟨1700000010, 0⟩
    (beaten now).isRunning "beat" = false ∧
      ((beaten now).link.store.probe? "beat").map (fun q => (q.state now false, q.nextCheck)) =
        some (.idle, some ⟨1700000010, 1000000⟩) ∧
      (((beaten now).dispatch now []).scheduler.link.store.probe? "beat").map (·.nextCheck) =
        some (some now) := by
  decide

end Hostwatch.Scheduler
