import Hostwatch.Proofs.Scheduler.StaleListing
import Hostwatch.Proofs.Scheduler.Timing

/-!
# Which runs a look for work starts

A look for work goes through listed records, but a run begins with the record that is stored when
its probe is read again. So whatever the listing says, a started probe is due by what is stored of
it, nobody had marked it, and it is started once.
-/

namespace Hostwatch

namespace Probe

variable {α : Type} {p : Probe α} {now : Timestamp} {running : Bool}

/-- The next check has come, and that not more than two intervals ago. -/
def timely (now : Timestamp) (p : Probe α) : Bool :=
  p.nextCheck.any fun next =>
    next ≤ now && decide (now.toNanos ≤ next.toNanos + 2 * p.interval.nanos)

/-- The next check is more than two intervals ago, if there is one. -/
def lapsed (now : Timestamp) (p : Probe α) : Bool :=
  p.nextCheck.all fun next => next.toNanos + 2 * p.interval.nanos < now.toNanos

theorem state_eq_due_iff_timely :
    p.state now running = .due ↔ running = false ∧ p.timely now = true := by
  cases running with
  | true => simp [state]
  | false =>
      cases planned : p.nextCheck with
      | none => simp [state_of_unplanned planned, timely, planned]
      | some next => simp [state_eq_due_iff planned, timely, planned]

theorem state_eq_unscheduled_iff_lapsed :
    p.state now running = .unscheduled ↔ running = false ∧ p.lapsed now = true := by
  cases running with
  | true => simp [state]
  | false =>
      cases planned : p.nextCheck with
      | none => simp [state_of_unplanned planned, lapsed, planned]
      | some next => simp [state_eq_unscheduled_iff planned, lapsed, planned]

end Probe

namespace Scheduler

variable {β τ : Type} {p : Pass β τ} {now : Timestamp} {listed q : Probe AgentRef}
variable {probes : List (Probe AgentRef)}

/-- The scheduler when the runs of some probes have begun, over another link. -/
def launchAll (s : Scheduler β τ) (link : Link AgentRef τ) (probes : List (Probe AgentRef)) :
    Scheduler β τ :=
  { s with
    link
    runs := s.runs ++ probes.map ({ probe := · })
    inFlight := (probes.map (·.id)).reverse ++ s.inFlight }

@[simp] theorem launchAll_nil (s : Scheduler β τ) (link : Link AgentRef τ) :
    s.launchAll link [] = { s with link } := by
  simp [launchAll]

@[simp] theorem launchAll_launchAll (s : Scheduler β τ) (link link' : Link AgentRef τ)
    (probes probes' : List (Probe AgentRef)) :
    (s.launchAll link probes).launchAll link' probes' =
      s.launchAll link' (probes ++ probes') := by
  simp [launchAll]

theorem isRunning_launchAll {s : Scheduler β τ} {link : Link AgentRef τ} {id : String} :
    (s.launchAll link probes).isRunning id = true ↔
      (∃ q ∈ probes, q.id = id) ∨ s.isRunning id = true := by
  simp [isRunning, launchAll]

/-! ### One listed probe -/

/-- The record with which the run of a listed probe begins, if it does. -/
def Pass.starts? (p : Pass β τ) (now : Timestamp) (listed : Probe AgentRef) :
    Option (Probe AgentRef) :=
  if p.broken = false ∧ listed.state now (p.scheduler.isRunning listed.id) = .due then
    match (p.scheduler.link.getProbe p.scheduler.actor listed.id).1 with
    | .ok probe => if probe.state now false = .due then some probe else none
    | .error _ => none
  else none

/-- A run that begins is that of the stored record, which is due, and nobody had marked it. -/
theorem Pass.of_starts? (starts : p.starts? now listed = some q) :
    q.id = listed.id ∧ p.scheduler.isRunning q.id = false ∧
      p.scheduler.link.store.probe? q.id = some q ∧
      p.scheduler.actor.canAccess q.account = true ∧ q.timely now = true := by
  simp only [Pass.starts?, Option.ite_none_right_eq_some] at starts
  obtain ⟨⟨-, state⟩, starts⟩ := starts
  obtain ⟨free, -⟩ := Probe.state_eq_due_iff_timely.mp state
  split at starts
  · next probe answer =>
      obtain ⟨due, begun⟩ := Option.ite_none_right_eq_some.mp starts
      cases begun
      obtain ⟨stored, visible⟩ := Store.getProbe_eq_ok_iff.mp (Link.read_eq_ok answer)
      have same : q.id = listed.id := Store.id_of_probe? stored
      rw [same]
      exact ⟨rfl, free, stored, visible, (Probe.state_eq_due_iff_timely.mp due).2⟩
  · cases starts

/-- A listed probe that is taken for due is marked and read again. -/
theorem startDue_scheduler (p : Pass β τ) (now : Timestamp) {id : String}
    (free : p.scheduler.isRunning id = false) :
    let read := p.scheduler.link.getProbe p.scheduler.actor id
    (∃ probe, read.1 = .ok probe ∧ probe.state now false = .due ∧
      startDue p now id =
        { p with
          scheduler := p.scheduler.launchAll read.2 [probe]
          started := p.started + 1 }) ∨
    ((∀ probe, read.1 = .ok probe → probe.state now false ≠ .due) ∧
      startDue p now id = { p with scheduler := { p.scheduler with link := read.2 } }) := by
  let marked := { p.scheduler with inFlight := id :: p.scheduler.inFlight }
  have claimed : p.scheduler.claim id = some marked := by
    rw [claim, free]
    rfl
  have absent : ∀ other ∈ p.scheduler.inFlight, other ≠ id := by
    rintro other member rfl
    simp [isRunning, member] at free
  unfold startDue
  rw [claimed]
  obtain ⟨probe, answer, same, due, begun⟩ | ⟨never, released⟩ := marked.confirm_cases now id
  · refine .inl ⟨probe, answer, due, ?_⟩
    simp only [begun]
    subst same
    rfl
  · refine .inr ⟨never, ?_⟩
    simp only [released]
    have unmarked : marked.inFlight.filter (· != id) = p.scheduler.inFlight := by
      simpa [marked] using absent
    simp [release, unmarked, marked]

theorem visit_scheduler (p : Pass β τ) (now : Timestamp) (listed : Probe AgentRef) :
    (visit now p listed).scheduler =
        p.scheduler.launchAll (visit now p listed).scheduler.link
          (p.starts? now listed).toList ∧
      (visit now p listed).started = p.started + (p.starts? now listed).toList.length := by
  unfold visit Pass.starts?
  cases broken : p.broken with
  | true => simp
  | false =>
      cases state : listed.state now (p.scheduler.isRunning listed.id) with
      | running | idle => simp
      | unscheduled =>
          simp only [Bool.false_eq_true, if_false, schedule]
          split
          · simp
          · simp [plan]
      | due =>
          obtain ⟨free, -⟩ := Probe.state_eq_due_iff_timely.mp state
          obtain ⟨probe, answer, due, begun⟩ | ⟨never, refused⟩ := startDue_scheduler p now free
          · simp [begun, answer, due, launchAll]
          · simp only [Bool.false_eq_true, if_false, refused]
            cases answer : (p.scheduler.link.getProbe p.scheduler.actor listed.id).1 with
            | error e => simp
            | ok probe => simp [never probe answer]

/-! ### A listing -/

/-- The records with which runs begin when listed probes are dealt with in turn. -/
def startsOf (now : Timestamp) : List (Probe AgentRef) → Pass β τ → List (Probe AgentRef)
  | [], _ => []
  | listed :: rest, p => (p.starts? now listed).toList ++ startsOf now rest (visit now p listed)

theorem visitAll_scheduler (probes : List (Probe AgentRef)) (p : Pass β τ) :
    (probes.foldl (visit now) p).scheduler =
        p.scheduler.launchAll (probes.foldl (visit now) p).scheduler.link
          (startsOf now probes p) ∧
      (probes.foldl (visit now) p).started = p.started + (startsOf now probes p).length := by
  induction probes generalizing p with
  | nil => simp [startsOf]
  | cons listed rest ih =>
      obtain ⟨first, one⟩ := visit_scheduler p now listed
      obtain ⟨others, more⟩ := ih (visit now p listed)
      simp only [List.foldl_cons, startsOf]
      constructor
      · refine others.trans ?_
        rw [first, launchAll_launchAll]
      · rw [more, one, List.length_append, Nat.add_assoc]

/-- Each run begins when the look for work has come to its probe, with what is stored by then. -/
theorem mem_startsOf {p : Pass β τ} (started : q ∈ startsOf now probes p) :
    ∃ before listed later, probes = before ++ listed :: later ∧
      (before.foldl (visit now) p).starts? now listed = some q := by
  induction probes generalizing p with
  | nil => cases started
  | cons listed rest ih =>
      obtain first | others := List.mem_append.mp started
      · exact ⟨[], listed, rest, rfl, Option.mem_toList.mp first⟩
      · obtain ⟨before, other, later, rfl, starts⟩ := ih others
        exact ⟨listed :: before, other, later, rfl, starts⟩

/-- A mark is not taken away when listed probes are dealt with. -/
theorem isRunning_visitAll (probes : List (Probe AgentRef)) {p : Pass β τ} {id : String}
    (marked : p.scheduler.isRunning id = true) :
    (probes.foldl (visit now) p).scheduler.isRunning id = true := by
  rw [(visitAll_scheduler probes p).1]
  exact isRunning_launchAll.mpr (.inr marked)

theorem free_of_mem_startsOf {p : Pass β τ} (started : q ∈ startsOf now probes p) :
    p.scheduler.isRunning q.id = false := by
  obtain ⟨before, listed, later, -, starts⟩ := mem_startsOf started
  obtain ⟨-, free, -⟩ := Pass.of_starts? starts
  refine Bool.eq_false_iff.mpr fun marked => ?_
  rw [isRunning_visitAll before marked] at free
  cases free

/-- No probe is started twice, not even if it is listed twice. -/
theorem startsOf_pairwise (probes : List (Probe AgentRef)) (p : Pass β τ) :
    (startsOf now probes p).Pairwise fun a b => a.id ≠ b.id := by
  induction probes generalizing p with
  | nil => exact .nil
  | cons listed rest ih =>
      refine List.pairwise_append.mpr ⟨?_, ih _, ?_⟩
      · cases p.starts? now listed <;> simp
      · intro first here other later same
        have marked : (visit now p listed).scheduler.isRunning first.id = true := by
          rw [(visit_scheduler p now listed).1]
          exact isRunning_launchAll.mpr (.inl ⟨first, here, rfl⟩)
        rw [same, free_of_mem_startsOf later] at marked
        cases marked

/-- Of probes that are listed once each, those are started that were stored as due before. -/
theorem stored_of_mem_startsOf {p : Pass β τ} (apart : probes.Pairwise fun a b => a.id ≠ b.id)
    (started : q ∈ startsOf now probes p) : p.scheduler.link.store.probe? q.id = some q := by
  obtain ⟨before, listed, later, rfl, starts⟩ := mem_startsOf started
  obtain ⟨same, -, stored, -⟩ := Pass.of_starts? starts
  have others : ∀ other ∈ before, q.id ≠ other.id := fun other member =>
    same ▸ Ne.symm ((List.pairwise_append.mp apart).2.2 other member listed List.mem_cons_self)
  exact (Spares.visitAll p now others).record.symm.trans stored

end Scheduler

end Hostwatch
