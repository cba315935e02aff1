import Hostwatch.Scheduler.World
import Hostwatch.Proofs.Store.Link

/-!
# What a scheduler can do

Two things change a scheduler: its runs go on, and it looks for work. `Turn` says all that a run can
do at once, and `visitAll_induction` reduces a look for work to setting a first check and to
starting a probe. Later proofs go by these cases instead of opening the phases.
-/

namespace Hostwatch

namespace Scheduler

variable {β τ : Type} {s s' : Scheduler β τ} {id : String}

/-! ### Runs -/

/-- What a run can do at once: nothing, or it moves on, or it ends. It does the latter two only
while it is under way, and a link without faults stays so. -/
inductive Turn (s : Scheduler β τ) (id : String) : Scheduler β τ → Prop where
  | waits : Turn s id s
  | moves {r : Run τ} (link : Link AgentRef τ) (fleet : Fleet β) (phase : Phase τ) :
    s.run? id = some r → (s.link.faults = [] → link.faults = []) →
    Turn s id ({ s with link, fleet }.enter id phase)
  | ends {r : Run τ} (link : Link AgentRef τ) (delivered : List (List Point)) :
    s.run? id = some r → (s.link.faults = [] → link.faults = []) →
    Turn s id ({ s with link, delivered }.finish id)

theorem lookUp_turn (s : Scheduler β τ) (id : String) : s.Turn id (s.lookUp id) := by
  unfold lookUp
  split
  · next probe found =>
      have sound : s.link.faults = [] → (s.link.getHost s.actor probe.hostId).2.faults = [] :=
        fun sound => Link.faults_read sound _ _
      split
      · next answer =>
          rw [answer] at sound
          exact .moves _ s.fleet _ found sound
      · next answer =>
          rw [answer] at sound
          exact .moves _ s.fleet _ found sound
  · exact .waits

theorem postpone_turn (s : Scheduler β τ) (id : String) (now : Timestamp) :
    s.Turn id (s.postpone id now) := by
  unfold postpone
  split
  · next found =>
      split
      · exact .ends s.link s.delivered found fun sound => sound
      · exact .ends _ s.delivered found fun sound => Link.faults_change sound _ _
  · exact .waits

theorem gathered_turn (s : Scheduler β τ) (id : String) (points : Option (List Point)) (agent : β) :
    s.Turn id (s.gathered id points agent) := by
  unfold gathered
  split
  · next found => exact .moves s.link _ _ found fun sound => sound
  · exact .waits

theorem record_turn (s : Scheduler β τ) (id : String) (now : Timestamp) :
    s.Turn id (s.record id now) := by
  unfold record
  split
  · next host points found =>
      have sound : s.link.faults = [] →
          (s.link.recordRun s.actor id now points).2.faults = [] := by
        intro sound
        rw [Link.recordRun_of_sound sound]
        exact sound
      dsimp only
      split
      · exact .ends _ s.delivered found sound
      · exact .ends _ s.delivered found sound
      · split
        · exact .moves _ s.fleet _ found sound
        · exact .ends _ s.delivered found sound
  · exact .waits

theorem write_turn (s : Scheduler β τ) (id : String) (accepted : Bool) :
    s.Turn id (s.write id accepted) := by
  unfold write
  split
  · next found =>
      split
      · exact .ends s.link _ found fun sound => sound
      · exact .moves s.link s.fleet _ found fun sound => sound
      · exact .ends s.link s.delivered found fun sound => sound
  · exact .waits

theorem breakOff_turn (s : Scheduler β τ) (id : String) : s.Turn id (s.breakOff id) := by
  simp only [breakOff]
  split
  · exact .waits
  · next found => exact .ends s.link s.delivered found fun sound => sound

/-! ### Looks for work -/

/-- A marked probe that is read again begins its run if it is due. Otherwise the mark is taken away.
-/
theorem confirm_cases (s : Scheduler β τ) (now : Timestamp) (id : String) :
    (∃ probe, (s.link.getProbe s.actor id).1 = .ok probe ∧ probe.id = id ∧
      probe.state now false = .due ∧
      s.confirm now id =
        (true, { s with link := (s.link.getProbe s.actor id).2 }.launch probe)) ∨
    ((∀ probe, (s.link.getProbe s.actor id).1 = .ok probe → probe.state now false ≠ .due) ∧
      s.confirm now id =
        (false, { s with link := (s.link.getProbe s.actor id).2 }.release id)) := by
  simp only [confirm]
  cases answer : s.link.getProbe s.actor id with
  | mk result link =>
      cases result with
      | error e => exact .inr ⟨by simp, rfl⟩
      | ok probe =>
          by_cases due : probe.state now false = .due
          · have found := Link.probe?_of_getProbe (congrArg Prod.fst answer)
            exact .inl ⟨probe, rfl, Store.id_of_probe? found, due, by simp [due]⟩
          · exact .inr ⟨by simpa using due, by simp [due]⟩

/-- What holds of a scheduler still holds after it has dealt with listed probes, if neither setting
the first check of one of them nor starting one of them breaks it. -/
theorem visitAll_induction {motive : Scheduler β τ → Prop} {now : Timestamp}
    {probes : List (Probe AgentRef)} {p : Pass β τ}
    (plan : ∀ s, ∀ listed ∈ probes, ∀ next, motive s → motive (s.plan listed.id next))
    (start : ∀ s s', ∀ listed ∈ probes, s.claim listed.id = some s' → motive s →
      motive (s'.confirm now listed.id).2)
    (before : motive p.scheduler) : motive (probes.foldl (visit now) p).scheduler := by
  induction probes generalizing p with
  | nil => exact before
  | cons listed rest ih =>
      refine ih (fun s other member => plan s other (List.mem_cons_of_mem _ member))
        (fun s s' other member => start s s' other (List.mem_cons_of_mem _ member)) ?_
      unfold visit
      split
      · exact before
      · split
        · exact before
        · exact before
        · unfold schedule
          split
          · exact before
          · exact plan _ listed List.mem_cons_self _ before
        · unfold startDue
          split
          · exact before
          · next claimed => exact start _ _ listed List.mem_cons_self claimed before

theorem visitAll_of_broken {p : Pass β τ} (broken : p.broken = true) (now : Timestamp)
    (probes : List (Probe AgentRef)) : probes.foldl (visit now) p = p := by
  induction probes with
  | nil => rfl
  | cons probe rest ih =>
      have ended : visit now p probe = p := by simp [visit, broken]
      rw [List.foldl_cons, ended]
      exact ih

/-- The records that a look for work goes by, in its order. -/
def listing (s : Scheduler β τ) : List (Probe AgentRef) :=
  match (s.link.listProbes s.actor .all).1 with
  | .ok probes => probes
  | .error _ => []

theorem dispatch_eq_foldl (s : Scheduler β τ) (now : Timestamp) (words : List Nat) :
    s.dispatch now words = s.listing.foldl (visit now)
      { scheduler := { s with link := (s.link.listProbes s.actor .all).2 }, words } := by
  unfold dispatch listing
  cases s.link.listProbes s.actor .all with
  | mk answer link =>
      cases answer with
      | error e => rfl
      | ok probes => rfl

theorem listing_pairwise (s : Scheduler β τ) : s.listing.Pairwise fun a b => a.id ≠ b.id := by
  simp only [listing]
  split
  · next answer => exact Link.listProbes_pairwise answer
  · exact .nil

end Scheduler

/-- What one access of a look for work does to the scheduler and to the mark that the look holds. -/
inductive Look.Access {β τ : Type} (s : Scheduler β τ) :
    (before after : Option String) → Scheduler β τ → Prop where
  | nothing : Access s none none s
  | schedules (id : String) (next : Timestamp) : Access s none none (s.plan id next)
  | claims {id : String} {s' : Scheduler β τ} : s.claim id = some s' → Access s none (some id) s'
  | confirms (now : Timestamp) (id : String) : Access s (some id) none (s.confirm now id).2

theorem Look.advance_access {β τ : Type} (l : Look) (s : Scheduler β τ) (words : List Nat) :
    Access s l.held? ((l.advance s words).1.bind held?) (l.advance s words).2 := by
  obtain ⟨now, listed, errand⟩ := l
  cases errand with
  | none =>
      cases listed with
      | nil => exact .nothing
      | cons probe rest =>
          have free (running : Bool) :
              held? { now, listed := rest, errand := Errand.of? now probe running } = none := by
            simp only [held?, Errand.of?]
            cases probe.state now running with
            | running | idle | unscheduled | due => rfl
          simp only [advance, Option.bind_some, free]
          exact .nothing
  | some errand =>
      cases errand with
      | schedule probe =>
          simp only [advance]
          split
          · exact .nothing
          · exact .schedules _ _
      | claim id =>
          simp only [advance]
          split
          · exact .nothing
          · next claimed => exact .claims claimed
      | confirm id => exact .confirms now id

end Hostwatch
