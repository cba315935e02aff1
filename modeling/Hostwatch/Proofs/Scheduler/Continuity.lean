import Hostwatch.Scheduler.Deeds
import Hostwatch.Proofs.Agent.LastSamples
import Hostwatch.Proofs.Scheduler.Agents
import Hostwatch.Proofs.Scheduler.Course
import Mathlib.Data.List.Induction

/-!
# An agent goes on where it stopped

A probe has the same agent at every run, so each of its gathers starts from what the last one has
left, whatever happens to the probe and its record in between. The agents that other probes have
make no difference. What the runs of a probe record is therefore what a fresh agent finds that
gathers as often, in the same surroundings.
-/

namespace Hostwatch

universe u

variable {β τ : Type} {ω : Type u} {act : β → ω → Option (List Point) × β}

namespace Gather

/-- The agent after several gathers that started from `a`. -/
def leave (act : β → ω → Option (List Point) × β) (a : β) (gs : List (Gather β ω)) : β :=
  gs.foldl (fun a g => (act a g.surroundings).2) a

theorem continue_concat {a : β} {gs : List (Gather β ω)} {g : Gather β ω}
    (sofar : Continue act a gs) (next : g.start = leave act a gs) :
    Continue act a (gs ++ [g]) := by
  induction gs generalizing a with
  | nil => exact ⟨next, trivial⟩
  | cons head rest ih => exact ⟨sofar.1, ih sofar.2 next⟩

/-- Gathers that go on from one another find what one agent finds. -/
theorem Continue.outcomes_eq {a : β} {gs : List (Gather β ω)} (going : Continue act a gs) :
    gs.map (·.outcome act) = outcomes act a (gs.map (·.surroundings)) := by
  induction gs generalizing a with
  | nil => rfl
  | cons g rest ih =>
      obtain ⟨rfl, later⟩ := going
      exact congrArg (g.outcome act :: ·) (ih later)

end Gather

namespace World

variable {w : World β τ} {id : String} {n : Nat} {first : β}

/-- What holds after several deeds, of which `past` are the gathers: the agent of number `n` is what
its gathers have left of the first one, each of them started from what the one before had left, the
gathers of a probe were all with that agent, and what its run has yet to record is what the latest
of them has found. -/
structure Carried (act : β → ω → Option (List Point) × β) (first : β) (n : Nat) (id : String)
    (w : World β τ) (past : List (Gather β ω)) : Prop where
  agent : w.scheduler.fleet.agents[n]? = some (Gather.leave act first (past.filter (·.agent == n)))
  going : Gather.Continue act first (past.filter (·.agent == n))
  own : ∀ g ∈ past, g.id = id → g.agent = n
  pending : ∀ points, w.scheduler.pending? id = some points →
    ∃ g, (past.filter (·.id == id)).getLast? = some g ∧ g.outcome act = points

/-- Nothing has been gathered yet, and no run of the probe is under way. -/
theorem Carried.start (idle : w.scheduler.run? id = none)
    (there : w.scheduler.fleet.agents[n]? = some first) : Carried act first n id w [] := by
  refine ⟨there, trivial, ?_, ?_⟩
  · intro g member
    cases member
  · intro points outcome
    rw [Scheduler.pending?, idle] at outcome
    cases outcome

variable [Plugin β] [Plugin τ]

/-- A probe and its run come to another agent only if some user of the store gives the probe one. -/
theorem refers_deed {d : Deed β τ ω} {a : AgentRef}
    (known : (w.deed act d).scheduler.Refers id a) :
    w.scheduler.Refers id a ∨ ∃ actor operation p, d = .plain (.client actor operation) ∧
      (w.store.perform actor operation).store.probe? id = some p ∧ p.agent = a := by
  cases done : w.gather? d with
  | some g =>
      obtain ⟨-, probe, host, found, -, -⟩ := gather?_eq_some done
      rw [scheduler_of_gather act done found] at known
      exact .inl (Scheduler.Faithful.refers_of_enter known)
  | none =>
      obtain same | ⟨next, rfl, other, same⟩ := deed_of_no_gather act done
      · rw [same] at known
        exact .inl known
      · rw [same] at known
        cases elsewhere : next.isOfAgents with
        | false => exact .inl ((w.step_faithful elsewhere id).refers a known)
        | true =>
            cases next with
            | gathered => cases other
            | enlist agent => exact .inl known
            | client actor operation =>
                obtain ⟨p, stored, same⟩ | running := known
                · exact .inr ⟨actor, operation, p, rfl, stored, same⟩
                · exact .inl (.inr running)
            | _ => cases elsewhere

/-- If the stored probe has the agent of number `n` all the while, then so have its runs. -/
theorem refers_did (before : ∀ a, w.scheduler.Refers id a → a.number = n)
    {deeds : List (Deed β τ ω)}
    (kept : ∀ past, past <+: deeds →
      ∀ p, (w.did act past).store.probe? id = some p → p.agent.number = n) :
    ∀ a, (w.did act deeds).scheduler.Refers id a → a.number = n := by
  induction deeds using List.reverseRecOn with
  | nil => exact before
  | append_singleton earlier d ih =>
      intro a known
      have now := kept _ (List.prefix_refl _)
      rw [did_append] at known now
      obtain known | ⟨actor, operation, p, rfl, stored, rfl⟩ := refers_deed known
      · exact ih (fun past part => kept past (part.trans (List.prefix_append _ _))) a known
      · exact now p stored

/-- It is enough that no operation of another user gives the probe another agent. -/
theorem refers_did_of_operations (before : ∀ a, w.scheduler.Refers id a → a.number = n)
    {deeds : List (Deed β τ ω)}
    (leaves : ∀ actor operation, .plain (.client actor operation) ∈ deeds →
      operation.LeavesAgent id n) :
    ∀ a, (w.did act deeds).scheduler.Refers id a → a.number = n := by
  induction deeds using List.reverseRecOn with
  | nil => exact before
  | append_singleton earlier d ih =>
      intro a known
      replace ih := ih fun actor operation member =>
        leaves actor operation (List.mem_append_left _ member)
      rw [did_append] at known
      obtain known | ⟨actor, operation, p, rfl, stored, rfl⟩ := refers_deed known
      · exact ih a known
      · exact Store.agent_of_perform (leaves actor operation (by simp))
          (fun p stored => ih p.agent (.inl ⟨p, stored, rfl⟩)) p stored

namespace Carried

variable {past : List (Gather β ω)}

/-- A step other than a gather. The agents that there are keep their numbers when one joins them. -/
theorem step (carried : Carried act first n id w past) {next : Step β τ}
    (other : next.isGather = false) : Carried act first n id (w.step next) past := by
  cases elsewhere : next.isOfAgents with
  | false =>
      have faithful := w.step_faithful elsewhere id
      refine ⟨?_, carried.going, carried.own, ?_⟩
      · rw [faithful.fleet]
        exact carried.agent
      · intro points outcome
        exact carried.pending points (faithful.pending points outcome)
  | true =>
      cases next with
      | gathered => cases other
      | client actor operation => exact ⟨carried.agent, carried.going, carried.own, carried.pending⟩
      | enlist agent =>
          refine ⟨?_, carried.going, carried.own, carried.pending⟩
          obtain ⟨inside, -⟩ := List.getElem?_eq_some_iff.mp carried.agent
          show (w.scheduler.fleet.agents ++ [agent])[n]? = _
          rw [List.getElem?_append_left inside]
          exact carried.agent
      | _ => cases elsewhere

theorem gather (carried : Carried act first n id w past)
    (refers : ∀ a, w.scheduler.Refers id a → a.number = n) {d : Deed β τ ω} {g : Gather β ω}
    (done : w.gather? d = some g) : Carried act first n id (w.deed act d) (past ++ [g]) := by
  obtain ⟨-, probe, host, found, start, number⟩ := gather?_eq_some done
  have after := scheduler_of_gather act done found
  have here (same : g.agent = n) :
      g.start = Gather.leave act first (past.filter (·.agent == n)) := by
    rw [same] at start
    exact Option.some.inj (start.symm.trans carried.agent)
  refine ⟨?_, ?_, ?_, ?_⟩
  · rw [after, List.filter_append]
    show (w.scheduler.fleet.agents.set probe.agent.number _)[n]? = _
    rw [number]
    by_cases same : g.agent = n
    · obtain ⟨inside, -⟩ := List.getElem?_eq_some_iff.mp start
      rw [← same, List.getElem?_set_self inside, here same, same]
      simp [Gather.leave, same]
    · rw [List.getElem?_set_ne same, carried.agent]
      simp [same]
  · rw [List.filter_append]
    by_cases same : g.agent = n
    · simpa [same] using Gather.continue_concat carried.going (here same)
    · simpa [same] using carried.going
  · intro g' member mine
    obtain earlier | rfl := by simpa using member
    · exact carried.own g' earlier mine
    · subst mine
      rw [← number]
      exact refers probe.agent (.inr ⟨_, found, rfl⟩)
  · intro points outcome
    rw [after, Scheduler.pending?_enter] at outcome
    rw [List.filter_append]
    by_cases same : g.id = id
    · subst same
      rw [if_pos rfl] at outcome
      obtain ⟨r, -, found⟩ := Option.bind_eq_some_iff.mp outcome
      exact ⟨g, by simp, Option.some.inj found⟩
    · rw [if_neg (Ne.symm same)] at outcome
      simpa [same] using carried.pending points outcome

theorem deed (carried : Carried act first n id w past)
    (refers : ∀ a, w.scheduler.Refers id a → a.number = n) (d : Deed β τ ω) :
    Carried act first n id (w.deed act d) (past ++ (w.gather? d).toList) := by
  cases done : w.gather? d with
  | some g => exact carried.gather refers done
  | none =>
      rw [Option.toList_none, List.append_nil]
      obtain same | ⟨next, -, other, same⟩ := deed_of_no_gather act done
      · rw [same]
        exact carried
      · rw [same]
        exact carried.step other

theorem did (carried : Carried act first n id w [])
    (before : ∀ a, w.scheduler.Refers id a → a.number = n) {deeds : List (Deed β τ ω)}
    (kept : ∀ past, past <+: deeds →
      ∀ p, (w.did act past).store.probe? id = some p → p.agent.number = n) :
    Carried act first n id (w.did act deeds) (w.gathers act deeds) := by
  induction deeds using List.reverseRecOn with
  | nil => exact carried
  | append_singleton earlier d ih =>
      replace kept past (part : past <+: earlier) :=
        kept past (part.trans (List.prefix_append _ [d]))
      have one : (w.did act earlier).gathers act [d] = ((w.did act earlier).gather? d).toList :=
        List.append_nil _
      rw [did_append, gathers_append, one]
      exact (ih kept).deed (refers_did before kept) d

end Carried

/-- What a run records is stored, unless recording it fails. -/
theorem lastPoints_of_record {now : Timestamp} {points : Option (List Point)}
    (pending : w.scheduler.pending? id = some points)
    (recorded : (w.scheduler.link.recordRun w.scheduler.actor id now points).1 = .ok ()) :
    ((w.step (.record id now)).store.probe? id).map (·.lastPoints) = some points := by
  obtain ⟨⟨probe, phase⟩, found, recording⟩ := Option.bind_eq_some_iff.mp pending
  have stored := Link.lastPoints_of_recordRun recorded
  cases phase with
  | starting | postponing | gathering | forwarding => cases recording
  | recording host outcome =>
      cases recording
      simp only [store, step, Scheduler.record, found]
      split
      · exact stored
      · exact stored
      · split
        · exact stored
        · exact stored

/-- A probe keeps its agent, and each gather with that agent starts from exactly what the one before
has left, whatever else is done to the probe and by whom. So if no other probe has that agent, the
gathers of the probe find one by one what a fresh agent finds that gathers in the same surroundings
in turn. What the run of the probe has to record after `k + 1` gathers is what the latest of them
has found, and this is stored unless recording it fails. -/
theorem gathers_go_on_from_each_other (idle : w.scheduler.run? id = none)
    (there : w.scheduler.fleet.agents[n]? = some first) {deeds : List (Deed β τ ω)}
    (kept : ∀ past, past <+: deeds →
      ∀ p, (w.did act past).store.probe? id = some p → p.agent.number = n) :
    let all := w.gathers act deeds
    let own := all.filter (·.id == id)
    (∀ g ∈ own, g.agent = n) ∧ Gather.Continue act first (all.filter (·.agent == n)) ∧
    ((∀ g ∈ all, g.agent = n → g.id = id) →
      Gather.Continue act first own ∧
        own.map (·.outcome act) = Gather.outcomes act first (own.map (·.surroundings))) ∧
    ∀ past now points, past ++ [.plain (.record id now)] <+: deeds →
      (w.did act past).scheduler.pending? id = some points →
      ∃ k g, ((w.gathers act past).filter (·.id == id)).length = k + 1 ∧ own[k]? = some g ∧
        g.outcome act = points ∧
        let s := (w.did act past).scheduler
        ((s.link.recordRun s.actor id now points).1 = .ok () →
          ((w.did act (past ++ [.plain (.record id now)])).store.probe? id).map (·.lastPoints) =
            some points) := by
  intro all own
  have start : Carried act first n id w [] := .start idle there
  have before : ∀ a, w.scheduler.Refers id a → a.number = n := by
    rintro a (⟨p, stored, rfl⟩ | ⟨r, running, -⟩)
    · exact kept [] List.nil_prefix p stored
    · cases idle.symm.trans running
  have carried := start.did before kept
  refine ⟨?_, carried.going, ?_, ?_⟩
  · intro g member
    obtain ⟨inside, mine⟩ := List.mem_filter.mp member
    exact carried.own g inside (beq_iff_eq.mp mine)
  · intro alone
    have same : all.filter (·.agent == n) = own := by
      refine List.filter_congr fun g inside => ?_
      rw [Bool.eq_iff_iff, beq_iff_eq, beq_iff_eq]
      exact ⟨alone g inside, carried.own g inside⟩
    have going : Gather.Continue act first own := same ▸ carried.going
    exact ⟨going, going.outcomes_eq⟩
  · intro past now points within pending
    have earlier : past <+: deeds := (List.prefix_append _ _).trans within
    have sofar := start.did before fun _ part => kept _ (part.trans earlier)
    obtain ⟨g, latest, found⟩ := sofar.pending points pending
    obtain ⟨ahead, split⟩ := List.getLast?_eq_some_iff.mp latest
    obtain ⟨later, rfl⟩ := earlier
    have whole :
        own = ahead ++ g :: (((w.did act past).gathers act later).filter (·.id == id)) := by
      show (w.gathers act (past ++ later)).filter _ = _
      rw [gathers_append, List.filter_append, split, List.append_assoc]
      rfl
    refine ⟨ahead.length, g, ?_, ?_, found, ?_⟩
    · rw [split, List.length_append]
      rfl
    · rw [whole]
      simp
    · intro s recorded
      rw [did_append]
      exact lastPoints_of_record pending recorded

/-- A probe for the traffic of a machine. -/
def trafficEvery (millis : Int) : Probe AgentRef :=
  { dueEvery millis with id := "traffic", agent := { number := 0, spec := { kind := "network" } } }

/-- The probe is due, and its agent has not gathered yet. -/
def watching : World Agent Transport :=
  let store := (Store.performAll .empty
    [(.system, .addHost web), (.system, .addProbe (trafficEvery 1000))]).store
  start { store } .system { maxRetries := 1, backoffMillis := 0 } { agents := [.network {}] }

/-- The probe is run twice, and in between its interval is changed. -/
def editedBetween : List (Deed Agent Transport Surroundings) :=
  [.plain (.dispatch ⟨1700000000, 0⟩ []), .plain (.lookUp "traffic"),
    .gather "traffic" (Agent.machine 1 (.ok [])), .plain (.record "traffic" ⟨1700000000, 0⟩),
    .plain (.client .system (.updateProbe (trafficEvery 60000))),
    .plain (.dispatch ⟨1700000000, 0⟩ []), .plain (.lookUp "traffic"),
    .gather "traffic" (Agent.machine 2 (.ok []))]

/-- The second gather compares with the first, and what it finds is stored. -/
theorem rates_across_an_edit :
    let record := .plain (.record "traffic" ⟨1700000000, 0⟩)
    let all := watching.gathers Agent.harvest (editedBetween ++ [record])
    let found := ((Agent.network {}).gatherAll
      [Agent.machine 1 (.ok []), Agent.machine 2 (.ok [])]).points
    watching.scheduler.run? "traffic" = none ∧
      watching.scheduler.fleet.agents[0]? = some (.network {}) ∧
      (∀ past, past <+: editedBetween ++ [record] → ∀ p,
        (watching.did Agent.harvest past).store.probe? "traffic" = some p → p.agent.number = 0) ∧
      all.map (·.id) = ["traffic", "traffic"] ∧ Gather.Continue Agent.harvest (.network {}) all ∧
      found.isSome = true ∧
      ((watching.did Agent.harvest (editedBetween ++ [record])).store.probe? "traffic").map
        (·.lastPoints) = some found := by
  intro record all found
  have idle : watching.scheduler.run? "traffic" = none := rfl
  have there : watching.scheduler.fleet.agents[0]? = some (.network {}) := rfl
  have stored : watching.store.probe? "traffic" = some (trafficEvery 1000) := by
    with_unfolding_all rfl
  have kept : ∀ past, past <+: editedBetween ++ [record] → ∀ p,
      (watching.did Agent.harvest past).store.probe? "traffic" = some p → p.agent.number = 0 := by
    intro past part p later
    refine refers_did_of_operations ?_ ?_ p.agent (.inl ⟨p, later, rfl⟩)
    · rintro a (⟨p, before, rfl⟩ | ⟨r, running, -⟩)
      · cases stored.symm.trans before
        rfl
      · cases running
    · intro actor operation member
      obtain ⟨-, rfl⟩ : actor = .system ∧ operation = .updateProbe (trafficEvery 60000) := by
        simpa [editedBetween, record] using part.subset member
      exact fun _ => rfl
  have ids : all.map (·.id) = ["traffic", "traffic"] := by with_unfolding_all rfl
  have mine : ∀ g ∈ all, g.id = "traffic" := by
    intro g member
    have listed : g.id ∈ all.map (·.id) := List.mem_map_of_mem member
    rw [ids] at listed
    simpa using listed
  obtain ⟨-, -, alone, recorded⟩ := gathers_go_on_from_each_other idle there kept
  have same : all.filter (·.id == "traffic") = all :=
    List.filter_eq_self.mpr fun g member => beq_iff_eq.mpr (mine g member)
  have going := (alone fun g member _ => mine g member).1
  obtain ⟨k, g, -, -, -, after⟩ := recorded editedBetween ⟨1700000000, 0⟩ found
    (List.prefix_refl _) (by with_unfolding_all rfl)
  refine ⟨idle, there, kept, ids, same ▸ going, rfl, after ?_⟩
  with_unfolding_all rfl

end World

end Hostwatch
