import Hostwatch.Proofs.Store.Announcements
import Hostwatch.Proofs.Table

/-!
# A mirror of the store

Whoever has heard all events of a store from the beginning knows what is in it. A `Mirror` goes by
the events alone: it keeps the payload of what was added or updated and drops what was deleted. It
always holds the records of the store, in whatever order the probes are heard of that go with their
host.
-/

namespace Hostwatch

namespace Table

variable {α : Type _}

theorem erase_comm (t : Table α) (a b : String) : (t.erase a).erase b = (t.erase b).erase a := by
  simp only [erase, List.filter_filter, Bool.and_comm]

end Table

/-! ### The identifier in a payload -/

namespace Event

/-- The identifier of the thing that the event is about. -/
def id? (e : Event) : Option String :=
  (e.payload.member "id").text?

theorem id?_of_members {e : Event} {id : String} {rest : List (String × Json)}
    (payload : e.payload = Json.ofMembers (("id", .str id) :: rest))
    (once : ∀ entry ∈ rest, entry.1 ≠ "id") : e.id? = some id := by
  rw [id?, payload, Json.ofMembers, Json.member, Table.get?_ofList_cons_self once]
  rfl

@[simp] theorem id?_deleted (entity : Entity) (id : String) : (deleted entity id).id? = some id :=
  id?_of_members rfl (by simp)

@[simp] theorem id?_host {τ : Type} [Plugin τ] (change : Change) (h : Host τ) :
    id? ⟨.host, change, h.toJson⟩ = some h.id :=
  id?_of_members rfl (by simp)

@[simp] theorem id?_probe {α : Type} [Plugin α] (change : Change) (p : Probe α) :
    id? ⟨.probe, change, p.toJson⟩ = some p.id := by
  refine id?_of_members rfl ?_
  rintro ⟨key, value⟩ member rfl
  simp [List.append_eq] at member

end Event

/-! ### The payload and the record -/

namespace Probe

variable {α : Type} [Plugin α] {p : Probe α}

/-- The record of a probe has its interval in whole milliseconds, as long as it can count them. -/
theorem intervalMillis_toRecord (short : p.interval.millis ≤ Span.wordMax) :
    p.toRecord.intervalMillis = p.intervalMillis := by
  have cut : min (p.intervalMillis : Int) Span.wordMax = p.intervalMillis := by
    rw [intervalMillis]
    simp only [Span.wordMax, Word.greatest] at short ⊢
    omega
  change ((min (p.intervalMillis : Int) Span.wordMax * 1000000).tdiv 1000000).toNat = _
  rw [cut, Int.mul_tdiv_cancel _ (by decide), Int.toNat_natCast]

/-- What is announced of a probe is its record. -/
theorem toJson_toRecord (short : p.interval.millis ≤ Span.wordMax) :
    p.toRecord.toJson = p.toJson := by
  simp only [toJson, intervalMillis_toRecord short]
  rfl

end Probe

/-! ### A mirror of the store -/

/-- The records of a store, as far as the events tell. -/
structure Mirror where
  hosts : Table Json := []
  probes : Table Json := []

namespace Mirror

/-- Files the payload of an event under an identifier, or takes out what is there. -/
def refile (t : Table Json) (id : String) (e : Event) : Table Json :=
  match e.change with
  | .added | .updated => t.insert id e.payload
  | .deleted => t.erase id

/-- What an event tells. -/
def hear (m : Mirror) (e : Event) : Mirror :=
  match e.id? with
  | none => m
  | some id =>
    match e.entity with
    | .host => { m with hosts := refile m.hosts id e }
    | .probe => { m with probes := refile m.probes id e }

/-- What several events tell. -/
def hearAll (m : Mirror) (events : List Event) : Mirror :=
  events.foldl hear m

theorem hearAll_append (m : Mirror) (first second : List Event) :
    m.hearAll (first ++ second) = (m.hearAll first).hearAll second :=
  List.foldl_append

variable (m : Mirror)

theorem hear_deleted_host (id : String) :
    m.hear (.deleted .host id) = { m with hosts := m.hosts.erase id } := by
  simp only [hear, Event.id?_deleted]
  rfl

theorem hear_deleted_probe (id : String) :
    m.hear (.deleted .probe id) = { m with probes := m.probes.erase id } := by
  simp only [hear, Event.id?_deleted]
  rfl

theorem refile_of_ne_deleted {change : Change} (kept : change ≠ .deleted) (t : Table Json)
    (id : String) (entity : Entity) (payload : Json) :
    refile t id ⟨entity, change, payload⟩ = t.insert id payload := by
  cases change with
  | added | updated => rfl
  | deleted => exact absurd rfl kept

/-- Deleted probes are gone from a mirror, and nothing else is. -/
theorem hearAll_deleted_probes (gone : List String) :
    (m.hearAll (gone.map (.deleted .probe))).hosts = m.hosts ∧
      ∀ id, (m.hearAll (gone.map (.deleted .probe))).probes.get? id =
        if id ∈ gone then none else m.probes.get? id := by
  induction gone generalizing m with
  | nil => exact ⟨rfl, fun id => by simp [hearAll]⟩
  | cons first rest ih =>
      obtain ⟨hosts, probes⟩ := ih (m.hear (.deleted .probe first))
      rw [hear_deleted_probe] at hosts probes
      refine ⟨hosts, fun id => (probes id).trans ?_⟩
      by_cases later : id ∈ rest
      · simp [later]
      · simp [later]

/-- It does not matter in which order probes are deleted. -/
theorem hearAll_perm {events heard : List Event} (perm : heard.Perm events)
    (deletions : ∀ e ∈ events, ∃ id, e = .deleted .probe id) :
    m.hearAll heard = m.hearAll events := by
  refine perm.foldl_eq' ?_ m
  intro a first b second m
  obtain ⟨id, rfl⟩ := deletions a (perm.mem_iff.mp first)
  obtain ⟨other, rfl⟩ := deletions b (perm.mem_iff.mp second)
  simp only [hear_deleted_probe, Table.erase_comm]

end Mirror

/-! ### What a mirror knows -/

namespace Store

variable {α τ : Type} [Plugin α] [Plugin τ] {s : Store α τ} {m : Mirror}

/-- A mirror holds the records of a store and nothing else. -/
structure Mirrored (s : Store α τ) (m : Mirror) : Prop where
  host : ∀ id, m.hosts.get? id = (s.host? id).map Host.toJson
  probe : ∀ id, m.probes.get? id = (s.probe? id).map Probe.toJson

theorem mirrored_empty : (empty : Store α τ).Mirrored {} :=
  ⟨fun _ => rfl, fun _ => rfl⟩

namespace Mirrored

variable (mirrored : s.Mirrored m)
include mirrored

theorem putProbe {change : Change} (kept : change ≠ .deleted) (p : Probe α) :
    (s.putProbe change p).store.Mirrored (m.hearAll (s.putProbe change p).events) := by
  simp only [Store.putProbe, Mirror.hearAll, List.foldl_cons, List.foldl_nil, Mirror.hear,
    Event.id?_probe, Mirror.refile_of_ne_deleted kept]
  refine ⟨mirrored.host, fun id => ?_⟩
  rw [Table.get?_insert, probe?_setProbe, mirrored.probe]
  split
  · rfl
  · rfl

theorem putHost {change : Change} (kept : change ≠ .deleted) (h : Host τ) :
    (s.putHost change h).store.Mirrored (m.hearAll (s.putHost change h).events) := by
  simp only [Store.putHost, Mirror.hearAll, List.foldl_cons, List.foldl_nil, Mirror.hear,
    Event.id?_host, Mirror.refile_of_ne_deleted kept]
  refine ⟨fun id => ?_, mirrored.probe⟩
  rw [Table.get?_insert, host?_setHost, mirrored.host]
  split
  · rfl
  · rfl

theorem eraseProbe (id : String) : (s.eraseProbe id).Mirrored (m.hearAll [.deleted .probe id]) := by
  simp only [Mirror.hearAll, List.foldl_cons, List.foldl_nil, Mirror.hear_deleted_probe]
  refine ⟨mirrored.host, fun other => ?_⟩
  rw [Table.get?_erase, probe?_eraseProbe, mirrored.probe]
  split
  · rfl
  · rfl

theorem eraseHost (id : String) :
    (s.eraseHost id).Mirrored
      (m.hearAll ((s.boundProbes id).map (.deleted .probe) ++ [.deleted .host id])) := by
  obtain ⟨hosts, probes⟩ := m.hearAll_deleted_probes (s.boundProbes id)
  rw [Mirror.hearAll_append]
  generalize m.hearAll ((s.boundProbes id).map (.deleted .probe)) = bereft at hosts probes
  simp only [Mirror.hearAll, List.foldl_cons, List.foldl_nil, Mirror.hear_deleted_host]
  constructor
  · intro other
    rw [Table.get?_erase, hosts, host?_eraseHost, mirrored.host]
    split
    · rfl
    · rfl
  · intro other
    rw [probes, probe?_eraseHost, mirrored.probe]
    simp only [mem_boundProbes]
    cases s.probe? other with
    | none => simp
    | some p =>
        by_cases bound : p.hostId = id
        · simp [Option.filter_some, bound]
        · simp [Option.filter_some, bound]

/-- A mirror follows an operation, unless a record falls apart. -/
theorem reports {op : Operation α τ} {o : Outcome α τ} (reports : s.Reports op o)
    (whole : o.fallsApart = false) : o.store.Mirrored (m.hearAll o.events) := by
  cases reports with
  | tells => exact mirrored
  | refuses => exact mirrored
  | filesProbe p changes other kept => exact mirrored.putProbe kept p
  | filesHost h changes other kept => exact mirrored.putHost kept h
  | deletesProbe id => exact mirrored.eraseProbe id
  | deletesHost id => exact mirrored.eraseHost id
  | fallsApart p => cases whole

end Mirrored

/-! ### The course of a store -/

/-- No operation of a sequence gets to a time beyond the calendar. -/
def inCalendar (s : Store α τ) : List (Actor × Operation α τ) → Bool
  | [] => true
  | (actor, op) :: rest =>
    let outcome := s.perform actor op
    !outcome.fallsApart && outcome.store.inCalendar rest

/-- The events of an operation as they can be heard. The last one comes last, and those before it
in any order. -/
inductive Heard : (events heard : List Event) → Prop where
  | nothing : Heard [] []
  | several {before told : List Event} (last : Event) :
    told.Perm before → Heard (before ++ [last]) (told ++ [last])

theorem Heard.refl (events : List Event) : Heard events events := by
  obtain rfl | ⟨before, last, rfl⟩ := events.eq_nil_or_concat'
  · exact .nothing
  · exact .several last (.refl before)

theorem Heard.hearAll_eq {events heard : List Event} (told : Heard events heard)
    (deletions : ∀ e ∈ events.dropLast, ∃ id, e = .deleted .probe id) (m : Mirror) :
    m.hearAll heard = m.hearAll events := by
  cases told with
  | nothing => rfl
  | several last perm =>
      rw [List.dropLast_concat] at deletions
      rw [Mirror.hearAll_append, Mirror.hearAll_append, m.hearAll_perm perm deletions]

/-- The events of a sequence of operations as they can be heard. -/
def Broadcasts (s : Store α τ) : List (Actor × Operation α τ) → List Event → Prop
  | [], heard => heard = []
  | (actor, op) :: rest, heard =>
    ∃ first later, heard = first ++ later ∧ Heard (s.perform actor op).events first ∧
      Broadcasts (s.perform actor op).store rest later

/-- What was announced before stands in front and does not matter for what comes. -/
theorem performAll_after (ops : List (Actor × Operation α τ)) (before : Revision α τ) :
    ops.foldl (fun before (actor, operation) =>
      let outcome := before.store.perform actor operation
      { store := outcome.store, events := before.events ++ outcome.events }) before =
    { store := (before.store.performAll ops).store
      events := before.events ++ (before.store.performAll ops).events } := by
  induction ops generalizing before with
  | nil => simp [performAll]
  | cons next rest ih =>
      obtain ⟨actor, op⟩ := next
      have first : before.store.performAll ((actor, op) :: rest) = _ :=
        ih { store := _, events := [] ++ (before.store.perform actor op).events }
      rw [List.foldl_cons, ih, first]
      simp only [List.nil_append, List.append_assoc]

theorem performAll_cons (s : Store α τ) (actor : Actor) (op : Operation α τ)
    (rest : List (Actor × Operation α τ)) :
    s.performAll ((actor, op) :: rest) =
      let outcome := s.perform actor op
      let later := outcome.store.performAll rest
      { store := later.store, events := outcome.events ++ later.events } := by
  rw [performAll, List.foldl_cons, performAll_after]
  rfl

/-- The events in the order in which the store makes them are among those that can be heard. -/
theorem broadcasts_performAll (s : Store α τ) (ops : List (Actor × Operation α τ)) :
    s.Broadcasts ops (s.performAll ops).events := by
  induction ops generalizing s with
  | nil => rfl
  | cons next rest ih =>
      rw [performAll_cons]
      exact ⟨_, _, rfl, .refl _, ih _⟩

theorem Mirrored.performAll (mirrored : s.Mirrored m) {ops : List (Actor × Operation α τ)}
    (inside : s.inCalendar ops = true) {heard : List Event} (told : s.Broadcasts ops heard) :
    (s.performAll ops).store.Mirrored (m.hearAll heard) := by
  induction ops generalizing s m heard with
  | nil =>
      cases told
      exact mirrored
  | cons next rest ih =>
      obtain ⟨actor, op⟩ := next
      obtain ⟨first, later, rfl, told, toldLater⟩ := told
      obtain ⟨whole, inside⟩ : (s.perform actor op).fallsApart = false ∧
          (s.perform actor op).store.inCalendar rest = true := by
        simpa [inCalendar] using inside
      have reports := perform_reports s actor op
      rw [performAll_cons, Mirror.hearAll_append, told.hearAll_eq reports.deletions]
      exact ih (mirrored.reports reports whole) inside toldLater

/-- Whoever has heard of all operations on a store that was empty at first holds the records of what
is stored and nothing else, as long as no time lies beyond the calendar. The events can be heard in
the order in which the store makes them. Moreover, an operation that is refused changes nothing and
announces nothing, and one that is granted announces what it has to. The payload of an event is the
record, as far as the interval is a span that a record can hold. -/
theorem mirror_holds_the_records {ops : List (Actor × Operation α τ)}
    (inside : (empty : Store α τ).inCalendar ops = true) :
    (∀ heard, (empty : Store α τ).Broadcasts ops heard →
      (empty.performAll ops).store.Mirrored (Mirror.hearAll {} heard)) ∧
    (empty : Store α τ).Broadcasts ops (empty.performAll ops).events ∧
    (∀ (s : Store α τ) actor op, (s.perform actor op).fallsApart = false →
      match (s.perform actor op).answer with
      | .error _ => (s.perform actor op).store = s ∧ (s.perform actor op).events = []
      | .ok _ => s.Announces (s.perform actor op).store (s.perform actor op).events op) ∧
    (∀ h : Host τ, h.toRecord.toJson = h.toJson) ∧
    ∀ p : Probe α, p.interval.millis ≤ Span.wordMax → p.toRecord.toJson = p.toJson := by
  refine ⟨fun heard told => mirrored_empty.performAll inside told, broadcasts_performAll empty ops,
    ?_, fun h => rfl, fun p short => Probe.toJson_toRecord short⟩
  intro s actor op whole
  have reports := perform_reports s actor op
  split
  · next e refused => exact reports.refused refused whole
  · next answer granted => exact reports.announces granted

/-- A host is added, two probes on it, one of them runs, and then the host is deleted. -/
def comeAndGone : List (Actor × Operation Agent Transport) :=
  let probe (id : String) : Probe Agent :=
    { id, account := "acme", hostId := "web", agent := .load none, interval := .ofMillis 10000 }
  [(.system, .addHost { id := "web", account := "acme", name := "web", transport := .thisMachine }),
    (.account "acme", .addProbe (probe "load")), (.account "globex", .deleteProbe "load"),
    (.account "acme", .addProbe (probe "again")),
    (.system, .recordRun "load" ⟨1700000000, 0⟩ (some [])),
    (.account "acme", .deleteHost "web")]

/-- Nothing is left of all this in a mirror, in whatever order the probes go. -/
theorem nothing_left_of_the_host :
    (empty : Store Agent Transport).inCalendar comeAndGone = true ∧
      ∀ heard, empty.Broadcasts comeAndGone heard → ∀ id,
        (Mirror.hearAll {} heard).hosts.get? id = none ∧
          (Mirror.hearAll {} heard).probes.get? id = none := by
  have inside : (empty : Store Agent Transport).inCalendar comeAndGone = true := by decide
  refine ⟨inside, fun heard told id => ?_⟩
  have mirrored := (mirror_holds_the_records inside).1 heard told
  have bare : (empty.performAll comeAndGone).store.hosts.isEmpty = true ∧
      (empty.performAll comeAndGone).store.probes.isEmpty = true := by decide
  constructor
  · rw [mirrored.host, host?, List.isEmpty_iff.mp bare.1]
    rfl
  · rw [mirrored.probe, probe?, List.isEmpty_iff.mp bare.2]
    rfl

end Store

end Hostwatch
