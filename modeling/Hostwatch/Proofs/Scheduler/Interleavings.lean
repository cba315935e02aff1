import Hostwatch.Proofs.Agent.LastSamples
import Hostwatch.Proofs.Scheduler.Course
import Hostwatch.Proofs.Scheduler.Strides
import Hostwatch.Proofs.Store.Secrecy
import Mathlib.Data.List.Pairwise

/-!
# Runs do not get in each other's way

The runs of several probes share a store, a database and maybe a host, and their phases come in any
order. As long as no two of them have the same agent, a stride of one of them changes nothing that
another one sees. So what a run has done in the end depends only on its own deeds, and orders in
which each run does the same come to the same.
-/

namespace Hostwatch

universe u

/-- Lists that hold the same under each key, in the same order, hold the same. -/
theorem perm_of_filter_key_eq {α κ : Type _} [DecidableEq κ] (key : α → κ) {xs ys : List α}
    (same : ∀ k, xs.filter (key · == k) = ys.filter (key · == k)) : xs.Perm ys := by
  induction xs generalizing ys with
  | nil =>
      cases ys with
      | nil => exact .nil
      | cons y ys =>
          have left := same (key y)
          simp at left
  | cons x xs ih =>
      have first := same (key x)
      simp only [List.filter_cons, beq_self_eq_true, if_true] at first
      obtain ⟨before, after, rfl, none, -, rest⟩ := List.filter_eq_cons_iff.mp first.symm
      have others : xs.Perm (before ++ after) := by
        refine ih fun k => ?_
        rw [List.filter_append]
        by_cases own : key x = k
        · subst own
          have nothing : before.filter (key · == key x) = [] :=
            List.filter_eq_nil_iff.mpr none
          rw [nothing, List.nil_append, rest]
        · have foreign : (key x == k) = false := by simpa using own
          simpa only [List.filter_cons, List.filter_append, foreign, Bool.false_eq_true, if_false]
            using same k
      exact (others.cons x).trans List.perm_middle.symm

namespace Fleet

variable {β : Type} (f : Fleet β) (agent : β)

theorem agent?_update_self (a : AgentRef) :
    (f.update a agent).agent? a = (f.agent? a).map fun _ => agent :=
  List.getElem?_set_self'

theorem agent?_update_of_ne {a b : AgentRef} (different : a.number ≠ b.number) :
    (f.update a agent).agent? b = f.agent? b :=
  List.getElem?_set_ne different

end Fleet

namespace Scheduler

variable {β τ : Type} {s t : Scheduler β τ} {id other : String}

section Proceed

variable (s : Scheduler β τ) (id other : String) (phase : Option (Phase τ))

@[simp] theorem link_proceed : (s.proceed id phase).link = s.link := by
  cases phase with
  | none => rfl
  | some phase => rfl

@[simp] theorem actor_proceed : (s.proceed id phase).actor = s.actor := by
  cases phase with
  | none => rfl
  | some phase => rfl

@[simp] theorem forwarder_proceed : (s.proceed id phase).forwarder = s.forwarder := by
  cases phase with
  | none => rfl
  | some phase => rfl

@[simp] theorem delivered_proceed : (s.proceed id phase).delivered = s.delivered := by
  cases phase with
  | none => rfl
  | some phase => rfl

@[simp] theorem fleet_proceed : (s.proceed id phase).fleet = s.fleet := by
  cases phase with
  | none => rfl
  | some phase => rfl

theorem run?_proceed_of_ne (different : id ≠ other) :
    (s.proceed other phase).run? id = s.run? id := by
  cases phase with
  | none => rw [proceed, run?_finish, if_neg different]
  | some phase => simp [proceed, different]

theorem run?_proceed_self :
    (s.proceed id phase).run? id =
      (s.run? id).bind fun r => phase.map fun phase => { r with phase } := by
  cases phase with
  | none => simp [proceed]
  | some phase =>
      rw [proceed, run?_enter]
      cases s.run? id with
      | none => rfl
      | some r => simp

end Proceed

/-- The runs under way have different agents. -/
def Apart (s : Scheduler β τ) : Prop :=
  ∀ id id' r r', id ≠ id' → s.run? id = some r → s.run? id' = some r' →
    r.probe.agent.number ≠ r'.probe.agent.number

theorem run?_go_of_ne (s : Scheduler β τ) (different : id ≠ other) (x : Option (Stride β τ other)) :
    (s.go other x).run? id = s.run? id := by
  cases x with
  | none => rfl
  | some x =>
      simp only [go, stride]
      split
      · rw [take, run?_proceed_of_ne _ _ _ _ different]
        rfl
      · rfl

/-- A stride leaves a run its probe. -/
theorem probe_of_go {x : Option (Stride β τ other)} {r' : Run τ}
    (running : (s.go other x).run? id = some r') :
    ∃ r, s.run? id = some r ∧ r.probe = r'.probe := by
  by_cases own : id = other
  · subst own
    cases x with
    | none => exact ⟨r', running, rfl⟩
    | some x =>
        cases found : s.run? id with
        | none =>
            simp only [go, stride, found] at running
            cases running
        | some r =>
            rw [go_some found, take, run?_proceed_self, Option.bind_eq_some_iff] at running
            obtain ⟨r'', before, entered⟩ := running
            obtain ⟨phase, -, rfl⟩ := Option.map_eq_some_iff.mp entered
            exact ⟨r'', found.symm.trans before, rfl⟩
  · rw [run?_go_of_ne s own] at running
    exact ⟨r', running, rfl⟩

theorem Apart.go (apart : s.Apart) (x : Option (Stride β τ other)) : (s.go other x).Apart := by
  intro id id' r r' different running running'
  obtain ⟨before, found, same⟩ := probe_of_go running
  obtain ⟨before', found', same'⟩ := probe_of_go running'
  rw [← same, ← same']
  exact apart id id' before before' different found found'

namespace Alike

/-- Schedulers that look the same to a run still do so after the same stride of that run. -/
theorem go (alike : Alike id s t) (x : Option (Stride β τ id)) :
    Alike id (s.go id x) (t.go id x) := by
  cases x with
  | none => exact alike
  | some x =>
      cases found : s.run? id with
      | none =>
          have there := alike.run.symm.trans found
          simp only [Scheduler.go, stride, found, there]
          exact alike
      | some r =>
          have there := alike.run.symm.trans found
          rw [go_some found, go_some there]
          constructor
          · simpa [take] using alike.sound
          · simpa [take] using alike.actor
          · simpa [take] using alike.forwarder
          · simpa [take] using alike.hosts
          · simpa [take] using Store.probe?_edit_congr alike.record x.record
          · rw [take, take, run?_proceed_self, run?_proceed_self]
            exact congrArg (Option.bind · _) alike.run
          · intro r' running
            obtain ⟨r'', before, same⟩ := probe_of_go ((go_some found x).symm ▸ running)
            cases found.symm.trans before
            rw [← same, take, take, fleet_proceed, fleet_proceed]
            have known := alike.agent r found
            cases x.agent with
            | none => exact known
            | some agent =>
                simp only [Option.elim_some, Fleet.agent?_update_self]
                exact congrArg (Option.map _) known

/-- A stride of one run makes no difference to another one that has another agent. -/
theorem go_of_ne (sound : s.link.faults = []) (apart : s.Apart) (different : id ≠ other)
    (x : Option (Stride β τ other)) : Alike id s (s.go other x) := by
  cases x with
  | none => exact .refl sound
  | some x =>
      cases found : s.run? other with
      | none =>
          simp only [Scheduler.go, stride, found]
          exact .refl sound
      | some r =>
          have run := run?_go_of_ne s different (some x)
          rw [go_some found] at run ⊢
          constructor
          · simpa [take] using sound
          · simp [take]
          · simp [take]
          · simp [take]
          · have foreign : ∀ p ∈ x.record, p.id ≠ id := by
              intro p member own
              exact different (own.symm.trans (x.own p member))
            simp [take, Store.probe?_edit_of_ne foreign]
          · exact run.symm
          · intro r' running
            rw [take, fleet_proceed]
            cases x.agent with
            | none => rfl
            | some agent =>
                exact (Fleet.agent?_update_of_ne _ _
                  (apart other id r r' (Ne.symm different) found running)).symm

end Alike

/-- A stride of a run brings the database the same batches in all schedulers that look the same to
the run. -/
theorem exists_batches_of_go (s : Scheduler β τ) (x : Option (Stride β τ id)) :
    ∃ batches, ∀ t, Alike id s t → (t.go id x).delivered = batches ++ t.delivered := by
  cases x with
  | none => exact ⟨[], fun t _ => rfl⟩
  | some x =>
      cases found : s.run? id with
      | none =>
          refine ⟨[], fun t alike => ?_⟩
          simp only [go, stride, ← alike.run, found]
          rfl
      | some r =>
          refine ⟨x.batch.toList, fun t alike => ?_⟩
          rw [go_some (alike.run.symm.trans found), take, delivered_proceed]

end Scheduler

namespace World

variable {β τ : Type} {ω : Type u} {act : β → ω → Option (List Point) × β} {w v : World β τ}
variable {id other : String}

/-- The deeds of a run. -/
def deedsOf (id : String) (deeds : List (Deed β τ ω)) : List (Deed β τ ω) :=
  deeds.filter (·.run? == some id)

theorem deedsOf_cons_self {d : Deed β τ ω} (own : d.run? = some id) (rest : List (Deed β τ ω)) :
    deedsOf id (d :: rest) = d :: deedsOf id rest := by
  simp [deedsOf, own]

theorem deedsOf_cons_of_ne {d : Deed β τ ω} (own : d.run? = some other) (different : id ≠ other)
    (rest : List (Deed β τ ω)) : deedsOf id (d :: rest) = deedsOf id rest := by
  simp [deedsOf, own, Ne.symm different]

variable [Plugin β] [Plugin τ]

theorem alike_deed (alike : w.scheduler.Alike id v.scheduler) {d : Deed β τ ω}
    (own : d.run? = some id) :
    (w.deed act d).scheduler.Alike id (v.deed act d).scheduler := by
  obtain ⟨x, strides⟩ := exists_stride act w own
  rw [strides w (.refl alike.sound.1), strides v alike]
  exact alike.go x

theorem alike_deed_of_ne (act : β → ω → Option (List Point) × β)
    (sound : w.scheduler.link.faults = []) (apart : w.scheduler.Apart) {d : Deed β τ ω}
    (own : d.run? = some other) (different : id ≠ other) :
    w.scheduler.Alike id (w.deed act d).scheduler := by
  obtain ⟨x, strides⟩ := exists_stride act w own
  rw [strides w (.refl sound)]
  exact .go_of_ne sound apart different x

theorem apart_deed (act : β → ω → Option (List Point) × β)
    (sound : w.scheduler.link.faults = []) (apart : w.scheduler.Apart) {d : Deed β τ ω}
    (own : d.run? = some id) : (w.deed act d).scheduler.Apart := by
  obtain ⟨x, strides⟩ := exists_stride act w own
  rw [strides w (.refl sound)]
  exact apart.go x

theorem exists_batches (act : β → ω → Option (List Point) × β) (w : World β τ) {d : Deed β τ ω}
    (own : d.run? = some id) :
    ∃ batches, ∀ v : World β τ, w.scheduler.Alike id v.scheduler →
      (v.deed act d).scheduler.delivered = batches ++ v.scheduler.delivered := by
  obtain ⟨x, strides⟩ := exists_stride act w own
  obtain ⟨batches, taken⟩ := w.scheduler.exists_batches_of_go x
  refine ⟨batches, fun v alike => ?_⟩
  rw [strides v alike]
  exact taken _ alike

/-! ### Runs among others -/

/-- A run comes as far among others as it does alone. -/
theorem alone_among_others (act : β → ω → Option (List Point) × β)
    (alike : w.scheduler.Alike id v.scheduler) (apart : w.scheduler.Apart)
    {deeds : List (Deed β τ ω)} (runs : ∀ d ∈ deeds, d.run? ≠ none) :
    (w.did act deeds).scheduler.Alike id (v.did act (deedsOf id deeds)).scheduler := by
  induction deeds generalizing w v with
  | nil => exact alike
  | cons d rest ih =>
      obtain ⟨doer, own⟩ := Option.ne_none_iff_exists'.mp (runs d List.mem_cons_self)
      replace ih {w v} alike apart := ih (w := w) (v := v) alike apart
        fun d' member => runs d' (List.mem_cons_of_mem _ member)
      have apart' := apart_deed act alike.sound.1 apart own
      by_cases mine : id = doer
      · subst mine
        rw [deedsOf_cons_self own]
        exact ih (alike_deed alike own) apart'
      · rw [deedsOf_cons_of_ne own mine]
        exact ih ((alike_deed_of_ne act alike.sound.1 apart own mine).symm.trans alike) apart'

/-- What the database takes in the end is what it takes from each of the runs when that one is
alone. -/
theorem exists_takings (act : β → ω → Option (List Point) × β)
    (sound : w.scheduler.link.faults = []) (apart : w.scheduler.Apart) {deeds : List (Deed β τ ω)}
    (runs : ∀ d ∈ deeds, d.run? ≠ none) :
    ∃ taken : List (String × List Point),
      (w.did act deeds).scheduler.delivered = taken.map (·.2) ++ w.scheduler.delivered ∧
      ∀ (id : String) (v : World β τ), w.scheduler.Alike id v.scheduler →
        ∃ batches, taken.filter (·.1 == id) = batches.map (Prod.mk id) ∧
          (v.did act (deedsOf id deeds)).scheduler.delivered =
            batches ++ v.scheduler.delivered := by
  induction deeds generalizing w with
  | nil => exact ⟨[], rfl, fun id v _ => ⟨[], rfl, rfl⟩⟩
  | cons d rest ih =>
      obtain ⟨doer, own⟩ := Option.ne_none_iff_exists'.mp (runs d List.mem_cons_self)
      obtain ⟨batches, brought⟩ := exists_batches act w own
      have itself : w.scheduler.Alike doer w.scheduler := .refl sound
      obtain ⟨later, taken, each⟩ := ih (w := w.deed act d) (alike_deed itself own).sound.1
        (apart_deed act sound apart own) fun d' member => runs d' (List.mem_cons_of_mem _ member)
      refine ⟨later ++ batches.map (Prod.mk doer), ?_, ?_⟩
      · rw [brought w itself] at taken
        simpa [did, Function.comp_def] using taken
      · intro id v alike
        by_cases mine : id = doer
        · subst mine
          obtain ⟨rest, listed, there⟩ := each id (v.deed act d) (alike_deed alike own)
          refine ⟨rest ++ batches, ?_, ?_⟩
          · simp [listed, List.filter_map, Function.comp_def]
          · rw [deedsOf_cons_self own, List.append_assoc, ← brought v alike]
            exact there
        · have same := alike_deed_of_ne act sound apart own mine
          obtain ⟨batches', listed, there⟩ := each id v (same.symm.trans alike)
          refine ⟨batches', ?_, ?_⟩
          · simp [listed, List.filter_map, Function.comp_def, Ne.symm mine]
          · rw [deedsOf_cons_of_ne own mine]
            exact there

/-- The runs of different probes do not influence each other. Let there be runs under way, of
different probes and with different agents, in any store that all calls reach, and let only these
runs go on. Each of them does a given sequence of deeds, failures included: it looks up its host,
gathers in given surroundings, records at a given time and hands over its batch, which the database
takes or does not take. In whatever order the deeds of different runs come, in the end the same is
stored, each run has come equally far, and the database has taken the same batches. -/
theorem order_of_runs_is_immaterial (act : β → ω → Option (List Point) × β)
    (sound : w.scheduler.link.faults = [])
    (distinct : w.scheduler.runs.Pairwise fun r r' =>
      r.probe.id ≠ r'.probe.id ∧ r.probe.agent.number ≠ r'.probe.agent.number)
    {one another : List (Deed β τ ω)} (runs : ∀ d ∈ one ++ another, d.run? ≠ none)
    (same : ∀ id, deedsOf id one = deedsOf id another) :
    (w.did act one).store = (w.did act another).store ∧
      (∀ id, (w.did act one).scheduler.run? id = (w.did act another).scheduler.run? id) ∧
      (w.did act one).scheduler.delivered.Perm (w.did act another).scheduler.delivered := by
  have apart : w.scheduler.Apart := by
    intro id id' r r' different running running'
    have : Std.Symm fun r r' : Run τ =>
        r.probe.id ≠ r'.probe.id ∧ r.probe.agent.number ≠ r'.probe.agent.number :=
      ⟨fun _ _ apart => ⟨apart.1.symm, apart.2.symm⟩⟩
    have other : r ≠ r' := by
      rintro rfl
      exact different ((Scheduler.id_of_run? running).symm.trans (Scheduler.id_of_run? running'))
    exact (distinct.forall (List.mem_of_find?_eq_some running)
      (List.mem_of_find?_eq_some running') other).2
  have first d member := runs d (List.mem_append_left another member)
  have second d member := runs d (List.mem_append_right one member)
  have itself id : w.scheduler.Alike id w.scheduler := .refl sound
  have alike id : (w.did act one).scheduler.Alike id (w.did act another).scheduler := by
    have alone := alone_among_others act (itself id) apart first
    rw [same] at alone
    exact alone.trans (alone_among_others act (itself id) apart second).symm
  refine ⟨Store.eq_of_probes (alike "").hosts fun id => (alike id).record,
    fun id => (alike id).run, ?_⟩
  obtain ⟨taken, all, each⟩ := exists_takings act sound apart first
  obtain ⟨taken', all', each'⟩ := exists_takings act sound apart second
  have perm : taken.Perm taken' := by
    refine perm_of_filter_key_eq Prod.fst fun id => ?_
    obtain ⟨batches, listed, alone⟩ := each id w (itself id)
    obtain ⟨batches', listed', alone'⟩ := each' id w (itself id)
    rw [same, alone'] at alone
    rw [listed, listed', List.append_cancel_right alone]
  rw [all, all']
  exact (perm.map _).append_right _

/-- One of two probes of a machine. -/
def oneOfTwo (id : String) (number : Nat) : Probe AgentRef :=
  { dueEvery 1000 with id, agent := { number, spec := { kind := "sockets" } } }

/-- The runs of both have begun. -/
def bothBegun : World Agent Transport :=
  let store := (Store.performAll .empty
    [(.system, .addHost web), (.system, .addProbe (oneOfTwo "first" 0)),
      (.system, .addProbe (oneOfTwo "second" 1))]).store
  (start { store } .system { maxRetries := 1, backoffMillis := 0 }
    { agents := [.sockets none, .sockets none] }).run [.dispatch ⟨1700000000, 0⟩ []]

/-- A run from its beginning to its end. The database takes its batch at the second time. -/
def wholeRun (id : String) (second : Int) : List (Deed Agent Transport Surroundings) :=
  [.plain (.lookUp id), .gather id (Agent.machine second (.ok [])),
    .plain (.record id ⟨1700000000 + second, 0⟩), .plain (.write id false), .plain (.write id true)]

/-- Two runs one after the other, and phase by phase in turn. -/
theorem one_by_one_or_in_turn :
    let a := wholeRun "first" 1
    let b := wholeRun "second" 2
    let inTurn := (b.zip a).flatMap fun both => [both.1, both.2]
    bothBegun.scheduler.link.faults = [] ∧
      (bothBegun.scheduler.runs.Pairwise fun r r' =>
        r.probe.id ≠ r'.probe.id ∧ r.probe.agent.number ≠ r'.probe.agent.number) ∧
      (∀ d ∈ (a ++ b) ++ inTurn, d.run? ≠ none) ∧
      (∀ id, deedsOf id (a ++ b) = deedsOf id inTurn) ∧
      (bothBegun.did Agent.harvest (a ++ b)).store = (bothBegun.did Agent.harvest inTurn).store ∧
      (bothBegun.did Agent.harvest (a ++ b)).scheduler.delivered.Perm
        (bothBegun.did Agent.harvest inTurn).scheduler.delivered ∧
      (bothBegun.did Agent.harvest inTurn).scheduler.delivered.length = 2 := by
  intro a b inTurn
  have sound : bothBegun.scheduler.link.faults = [] := by with_unfolding_all rfl
  have begun : bothBegun.scheduler.runs =
      [{ probe := oneOfTwo "first" 0 }, { probe := oneOfTwo "second" 1 }] := by
    with_unfolding_all rfl
  have distinct : bothBegun.scheduler.runs.Pairwise fun r r' =>
      r.probe.id ≠ r'.probe.id ∧ r.probe.agent.number ≠ r'.probe.agent.number := by
    rw [begun]
    decide
  have runs : ∀ d ∈ (a ++ b) ++ inTurn, d.run? ≠ none := by
    simp [a, b, inTurn, wholeRun, Deed.run?, Step.run?]
  have same id : deedsOf id (a ++ b) = deedsOf id inTurn := by
    by_cases one : "first" = id
    · subst one
      rfl
    · by_cases other : "second" = id
      · subst other
        rfl
      · simp [deedsOf, a, b, inTurn, wholeRun, Deed.run?, Step.run?, one, other]
  obtain ⟨stored, -, taken⟩ :=
    order_of_runs_is_immaterial Agent.harvest sound distinct runs same
  refine ⟨sound, distinct, runs, same, stored, taken, ?_⟩
  with_unfolding_all rfl

end World

end Hostwatch
