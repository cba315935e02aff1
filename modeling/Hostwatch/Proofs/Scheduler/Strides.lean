import Hostwatch.Proofs.Scheduler.Agents

/-!
# What a run does at once

A run sees little of the world: its own record, its agent, its host, and how the scheduler has been
set up. All that it does at once is a `Stride`: it may write the record of its probe, its agent may
remember something new, the database may take a batch, and the run goes on or ends. Which stride it
takes follows from what it sees (`exists_stride`), so runs can only influence each other by what
strides do to what other runs see.
-/

namespace Hostwatch

universe u

/-! ### Records -/

namespace Store

variable {α τ : Type} {s t : Store α τ} {actor : Actor} {id : String}

/-- The store with a record written, if there is one to write. -/
def edit (s : Store α τ) (record : Option (Probe α)) : Store α τ :=
  record.elim s s.setProbe

@[simp] theorem edit_none (s : Store α τ) : s.edit none = s := rfl

@[simp] theorem hosts_edit (s : Store α τ) (record : Option (Probe α)) :
    (s.edit record).hosts = s.hosts := by
  cases record with
  | none => rfl
  | some p => rfl

theorem probe?_edit_of_ne {record : Option (Probe α)} (own : ∀ p ∈ record, p.id ≠ id) :
    (s.edit record).probe? id = s.probe? id := by
  cases record with
  | none => rfl
  | some p =>
      rw [edit, Option.elim_some, probe?_setProbe, if_neg (Ne.symm (own p rfl))]

/-- Stores that hold the same record of a probe hold the same one after it has been written. -/
theorem probe?_edit_congr (same : s.probe? id = t.probe? id) (record : Option (Probe α)) :
    (s.edit record).probe? id = (t.edit record).probe? id := by
  cases record with
  | none => exact same
  | some p =>
      rw [edit, edit, Option.elim_some, Option.elim_some, probe?_setProbe, probe?_setProbe, same]

theorem getProbe_congr (same : s.probe? id = t.probe? id) (actor : Actor) :
    s.getProbe actor id = t.getProbe actor id := by
  simp only [getProbe, findProbe, same]

theorem getHost_congr (same : s.hosts = t.hosts) (actor : Actor) (id : String) :
    s.getHost actor id = t.getHost actor id := by
  simp only [getHost, findHost, host?, same]

end Store

namespace Link

variable {α τ : Type} [Plugin α]

/-- What rescheduling a probe does follows from its record. -/
theorem exists_reschedule (s : Store α τ) (actor : Actor) (id : String) (next : Timestamp) :
    ∃ record : Option (Probe α), (∀ p ∈ record, p.id = id) ∧
      ∀ l : Link α τ, l.faults = [] → l.store.probe? id = s.probe? id →
        (l.reschedule actor id next).2 = { l with store := l.store.edit record } := by
  cases read : s.getProbe actor id with
  | error e =>
      refine ⟨none, by simp, fun l sound same => ?_⟩
      have refused : l.store.reschedule actor id next = .error e := by
        rw [Store.reschedule, Store.getProbe_congr same, read]
        rfl
      rw [reschedule, change, interrupt_of_sound sound]
      simp only [refused, Store.edit_none]
  | ok p =>
      obtain ⟨found, visible⟩ := Store.getProbe_eq_ok_iff.mp read
      have own : p.id = id := Store.id_of_probe? found
      refine ⟨some { p with nextCheck := some next }, by simp [own], fun l sound same => ?_⟩
      have granted : l.store.reschedule actor id next =
          .ok (l.store.putProbe .updated { p with nextCheck := some next }) :=
        Store.reschedule_eq_ok_iff.mpr ⟨p, same.trans found, visible, rfl⟩
      rw [reschedule, change, interrupt_of_sound sound]
      simp only [granted]
      rfl

/-- What recording a run does follows from the record of its probe. -/
theorem exists_recordRun (s : Store α τ) (actor : Actor) (id : String) (time : Timestamp)
    (points : Option (List Point)) :
    ∃ (answer : Except StoreError Unit) (record : Option (Probe α)), (∀ p ∈ record, p.id = id) ∧
      ∀ l : Link α τ, l.faults = [] → l.store.probe? id = s.probe? id →
        l.recordRun actor id time points = (answer, { l with store := l.store.edit record }) := by
  cases read : s.getProbe actor id with
  | error e =>
      refine ⟨.error e, none, by simp, fun l sound same => ?_⟩
      rw [recordRun_of_sound sound,
        Store.recordRun_eq_error ((Store.getProbe_congr same actor).trans read)]
      rfl
  | ok p =>
      obtain ⟨found, visible⟩ := Store.getProbe_eq_ok_iff.mp read
      have own : p.id = id := Store.id_of_probe? found
      cases sum : time.add? p.interval with
      | none =>
          refine ⟨.error .beyondCalendar, some { p with lastCheck := some time }, by simp [own],
            fun l sound same => ?_⟩
          rw [recordRun_of_sound sound, Store.recordRun_eq (same.trans found) visible, sum]
          rfl
      | some next =>
          refine ⟨.ok (), some { p with
            lastCheck := some time, nextCheck := some next, lastPoints := points },
            by simp [own], fun l sound same => ?_⟩
          rw [recordRun_of_sound sound, Store.recordRun_eq (same.trans found) visible, sum]
          rfl

end Link

/-! ### Strides -/

/-- What the run of a probe does at once. -/
structure Stride (β τ : Type) (id : String) where
  /-- The record that it writes, if it writes one. -/
  record : Option (Probe AgentRef) := none
  /-- What its agent is from now on, if it has gathered. -/
  agent : Option β := none
  /-- The batch that the database takes, if it takes one. -/
  batch : Option (List Point) := none
  /-- The phase that the run enters; nothing if it ends. -/
  phase : Option (Phase τ) := none
  /-- It writes no record but that of its own probe. -/
  own : ∀ p ∈ record, p.id = id := by simp

namespace Scheduler

variable {β τ : Type} {s t : Scheduler β τ} {id other : String}

/-- Moves the run of a probe on, or ends it. -/
def proceed (s : Scheduler β τ) (id : String) : Option (Phase τ) → Scheduler β τ
  | some phase => s.enter id phase
  | none => s.finish id

/-- The scheduler after a stride of a run with that agent. -/
def take (s : Scheduler β τ) (a : AgentRef) (x : Stride β τ id) : Scheduler β τ :=
  { s with
    link.store := s.link.store.edit x.record
    fleet := x.agent.elim s.fleet (s.fleet.update a)
    delivered := x.batch.toList ++ s.delivered }.proceed id x.phase

/-- The scheduler after the run of a probe has taken a stride. -/
def stride (s : Scheduler β τ) (x : Stride β τ id) : Scheduler β τ :=
  match s.run? id with
  | some r => s.take r.probe.agent x
  | none => s

/-- The scheduler after the run of a probe has taken a stride, or has not. -/
def go (s : Scheduler β τ) (id : String) : Option (Stride β τ id) → Scheduler β τ
  | some x => s.stride x
  | none => s

theorem go_some {r : Run τ} (found : s.run? id = some r) (x : Stride β τ id) :
    s.go id (some x) = s.take r.probe.agent x := by
  simp only [go, stride, found]

/-- Two schedulers look the same to the run of a probe, and nothing stands between them and their
stores. -/
structure Alike (id : String) (s t : Scheduler β τ) : Prop where
  sound : s.link.faults = [] ∧ t.link.faults = []
  actor : s.actor = t.actor
  forwarder : s.forwarder = t.forwarder
  hosts : s.link.store.hosts = t.link.store.hosts
  record : s.link.store.probe? id = t.link.store.probe? id
  run : s.run? id = t.run? id
  agent : ∀ r, s.run? id = some r → s.fleet.agent? r.probe.agent = t.fleet.agent? r.probe.agent

namespace Alike

theorem refl (sound : s.link.faults = []) : Alike id s s :=
  ⟨⟨sound, sound⟩, rfl, rfl, rfl, rfl, rfl, fun _ _ => rfl⟩

theorem symm (alike : Alike id s t) : Alike id t s where
  sound := alike.sound.symm
  actor := alike.actor.symm
  forwarder := alike.forwarder.symm
  hosts := alike.hosts.symm
  record := alike.record.symm
  run := alike.run.symm
  agent r found := (alike.agent r (alike.run.trans found)).symm

theorem trans {v : Scheduler β τ} (first : Alike id s t) (second : Alike id t v) :
    Alike id s v where
  sound := ⟨first.sound.1, second.sound.2⟩
  actor := first.actor.trans second.actor
  forwarder := first.forwarder.trans second.forwarder
  hosts := first.hosts.trans second.hosts
  record := first.record.trans second.record
  run := first.run.trans second.run
  agent r found := (first.agent r found).trans (second.agent r (first.run.symm.trans found))

end Alike

/-- Whatever looks the same to the run of a probe as `s` does, the function is the same stride of
that run. -/
def Strides (s : Scheduler β τ) (id : String) (f : Scheduler β τ → Scheduler β τ) : Prop :=
  ∃ x : Option (Stride β τ id), ∀ t, Alike id s t → f t = t.go id x

/-- It is a stride if it is one in a certain phase, and in all other phases nothing. -/
theorem strides_of_phase {f : Scheduler β τ → Scheduler β τ} (ready : Phase τ → Prop)
    (takes : ∀ r, s.run? id = some r → ready r.phase → ∃ x : Stride β τ id,
      ∀ t, Alike id s t → t.run? id = some r → f t = t.take r.probe.agent x)
    (waits : ∀ t : Scheduler β τ, (∀ r, t.run? id = some r → ¬ ready r.phase) → f t = t) :
    s.Strides id f := by
  by_cases here : ∃ r, s.run? id = some r ∧ ready r.phase
  · obtain ⟨r, found, ready⟩ := here
    obtain ⟨x, taken⟩ := takes r found ready
    refine ⟨some x, fun t alike => ?_⟩
    have there : t.run? id = some r := alike.run.symm.trans found
    rw [go_some there]
    exact taken t alike there
  · refine ⟨none, fun t alike => ?_⟩
    exact waits t fun r found ready => here ⟨r, alike.run.trans found, ready⟩

theorem strides_lookUp (s : Scheduler β τ) (id : String) : s.Strides id (·.lookUp id) := by
  refine strides_of_phase (· = .starting) ?_ ?_
  · rintro ⟨probe, phase⟩ found rfl
    have answer (t : Scheduler β τ) (alike : Alike id s t) :
        t.link.getHost t.actor probe.hostId =
          (s.link.store.getHost s.actor probe.hostId, t.link) := by
      rw [Link.getHost, Link.read_of_sound alike.sound.2, ← alike.actor,
        Store.getHost_congr alike.hosts]
    cases looked : s.link.store.getHost s.actor probe.hostId with
    | ok host =>
        refine ⟨{ phase := some (.gathering host) }, fun t alike there => ?_⟩
        simp only [lookUp, there, answer t alike, looked]
        rfl
    | error e =>
        refine ⟨{ phase := some .postponing }, fun t alike there => ?_⟩
        simp only [lookUp, there, answer t alike, looked]
        rfl
  · intro t waits
    unfold lookUp
    split
    · next found => exact absurd rfl (waits _ found)
    · rfl

theorem strides_postpone (s : Scheduler β τ) (id : String) (now : Timestamp) :
    s.Strides id (·.postpone id now) := by
  refine strides_of_phase (· = .postponing) ?_ ?_
  · rintro ⟨probe, phase⟩ found rfl
    cases sum : now.add? probe.interval with
    | none =>
        refine ⟨{}, fun t alike there => ?_⟩
        simp only [postpone, there, sum]
        rfl
    | some next =>
        obtain ⟨record, own, planned⟩ := Link.exists_reschedule s.link.store s.actor id next
        refine ⟨{ record, own }, fun t alike there => ?_⟩
        have link : (t.link.reschedule t.actor id next).2 =
            { t.link with store := t.link.store.edit record } := by
          rw [← alike.actor]
          exact planned t.link alike.sound.2 alike.record.symm
        simp only [postpone, there, sum, plan, link]
        rfl
  · intro t waits
    unfold postpone
    split
    · next found => exact absurd rfl (waits _ found)
    · rfl

/-- Where a run goes that has recorded its outcome. -/
def Recorded (host : Host τ) (points : Option (List Point)) :
    Except StoreError Unit → Option (Phase τ)
  | .error (.notFound ..) | .error .beyondCalendar => none
  | _ => (points.bind fun ps => Forwarder.delivery? ps host).map .forwarding

theorem record_eq {probe : Probe AgentRef} {host : Host τ} {points : Option (List Point)}
    (found : s.run? id = some { probe, phase := .recording host points }) (now : Timestamp) :
    s.record id now =
      { s with link := (s.link.recordRun s.actor id now points).2 }.proceed id
        (Recorded host points (s.link.recordRun s.actor id now points).1) := by
  simp only [Scheduler.record, found]
  cases s.link.recordRun s.actor id now points with
  | mk answer link =>
      cases handed : points.bind fun ps => Forwarder.delivery? ps host with
      | none =>
          cases answer with
          | ok => simp only [Recorded, handed, Option.map_none, proceed]
          | error e =>
              cases e with
              | _ => simp only [Recorded, handed, Option.map_none, proceed]
      | some delivery =>
          cases answer with
          | ok => simp only [Recorded, handed, Option.map_some, proceed]
          | error e =>
              cases e with
              | _ => simp only [Recorded, handed, Option.map_some, proceed]

theorem strides_record (s : Scheduler β τ) (id : String) (now : Timestamp) :
    s.Strides id (·.record id now) := by
  refine strides_of_phase (∃ host points, · = .recording host points) ?_ ?_
  · rintro ⟨probe, phase⟩ found ⟨host, points, rfl⟩
    obtain ⟨answer, record, own, recorded⟩ :=
      Link.exists_recordRun s.link.store s.actor id now points
    refine ⟨{ record, own, phase := Recorded host points answer }, fun t alike there => ?_⟩
    have after : t.link.recordRun t.actor id now points =
        (answer, { t.link with store := t.link.store.edit record }) := by
      rw [← alike.actor]
      exact recorded t.link alike.sound.2 alike.record.symm
    simp only [record_eq there, after]
    rfl
  · intro t waits
    unfold Scheduler.record
    split
    · next found => exact absurd ⟨_, _, rfl⟩ (waits _ found)
    · rfl

theorem strides_write (s : Scheduler β τ) (id : String) (accepted : Bool) :
    s.Strides id (·.write id accepted) := by
  refine strides_of_phase (∃ delivery, · = .forwarding delivery) ?_ ?_
  · rintro ⟨probe, phase⟩ found ⟨delivery, rfl⟩
    have same (t : Scheduler β τ) (alike : Alike id s t) :
        t.forwarder.fate delivery accepted = s.forwarder.fate delivery accepted := by
      rw [alike.forwarder]
    cases fate : s.forwarder.fate delivery accepted with
    | delivered =>
        refine ⟨{ batch := some delivery.batch }, fun t alike there => ?_⟩
        simp only [write, there, same t alike, fate]
        rfl
    | retry next =>
        refine ⟨{ phase := some (.forwarding next) }, fun t alike there => ?_⟩
        simp only [write, there, same t alike, fate]
        rfl
    | dropped =>
        refine ⟨{}, fun t alike there => ?_⟩
        simp only [write, there, same t alike, fate]
        rfl
  · intro t waits
    unfold write
    split
    · next found => exact absurd ⟨_, rfl⟩ (waits _ found)
    · rfl

theorem strides_breakOff (s : Scheduler β τ) (id : String) : s.Strides id (·.breakOff id) := by
  refine strides_of_phase (fun _ => True) ?_ ?_
  · intro r found _
    refine ⟨{}, fun t alike there => ?_⟩
    simp only [breakOff, there]
    rfl
  · intro t waits
    unfold breakOff
    split
    · rfl
    · next found => exact absurd trivial (waits _ found)

end Scheduler

namespace World

variable {β τ : Type} {ω : Type u} {w v : World β τ} {id : String}

/-- Worlds that look the same to a run let its agent gather in the same way. -/
theorem gather?_congr (alike : w.scheduler.Alike id v.scheduler) (surroundings : ω) :
    v.gather? (.gather id surroundings) = w.gather? (.gather id surroundings) := by
  simp only [gather?, ← alike.run]
  split
  · next probe host found => rw [alike.agent _ found]
  · rfl

variable [Plugin β] [Plugin τ] {act : β → ω → Option (List Point) × β}

theorem exists_stride_gather (w : World β τ) (id : String) (surroundings : ω) :
    ∃ x, ∀ v : World β τ, w.scheduler.Alike id v.scheduler →
      (v.deed act (.gather id surroundings)).scheduler = v.scheduler.go id x := by
  cases done : w.gather? (.gather id surroundings) with
  | none =>
      refine ⟨none, fun v alike => ?_⟩
      have none := (gather?_congr alike surroundings).trans done
      simp only [deed, none]
      rfl
  | some g =>
      obtain ⟨same, probe, host, found, -, -⟩ := gather?_eq_some done
      obtain ⟨rfl, -⟩ := Deed.gather.inj same
      refine ⟨some {
        agent := some (act g.start g.surroundings).2
        phase := some (.recording host (g.outcome act)) }, fun v alike => ?_⟩
      have there := alike.run.symm.trans found
      rw [scheduler_of_gather act ((gather?_congr alike surroundings).trans done) there,
        Scheduler.go_some there]
      rfl

/-- A deed of a run is the same stride of that run in all worlds that look the same to it. -/
theorem exists_stride (act : β → ω → Option (List Point) × β) (w : World β τ) {d : Deed β τ ω}
    (own : d.run? = some id) :
    ∃ x, ∀ v : World β τ, w.scheduler.Alike id v.scheduler →
      (v.deed act d).scheduler = v.scheduler.go id x := by
  have plain {f : Scheduler β τ → Scheduler β τ} (strides : w.scheduler.Strides id f)
      (taken : ∀ v : World β τ, (v.deed act d).scheduler = f v.scheduler) :
      ∃ x, ∀ v : World β τ, w.scheduler.Alike id v.scheduler →
        (v.deed act d).scheduler = v.scheduler.go id x := by
    obtain ⟨x, strides⟩ := strides
    refine ⟨x, fun v alike => ?_⟩
    rw [taken]
    exact strides _ alike
  cases d with
  | gather other surroundings =>
      cases own
      exact exists_stride_gather w id surroundings
  | plain next =>
      cases next with
      | dispatch | list | look | abandon | client | freeze | enlist => cases own
      | gathered => exact ⟨none, fun v _ => rfl⟩
      | lookUp other =>
          cases own
          exact plain (w.scheduler.strides_lookUp id) fun _ => rfl
      | postpone other now =>
          cases own
          exact plain (w.scheduler.strides_postpone id now) fun _ => rfl
      | record other now =>
          cases own
          exact plain (w.scheduler.strides_record id now) fun _ => rfl
      | write other accepted =>
          cases own
          exact plain (w.scheduler.strides_write id accepted) fun _ => rfl
      | crash other =>
          cases own
          exact plain (w.scheduler.strides_breakOff id) fun _ => rfl

end World

end Hostwatch
