import Hostwatch.Proofs.Agent.LastSamples
import Hostwatch.Proofs.Agent.Parameters
import Hostwatch.Proofs.Agent.Reported
import Hostwatch.Proofs.Store.Mirror

/-!
# Probes and their records

A probe is kept as its record, and the record as a JSON value. From that the probe can be made again
as it was, but for the memory of its agent, as long as all its points have numbers with a text in
JSON. Agents may well report others: they read what the host prints, and `inf` and `nan` count as
numbers there. The record of a probe with such a point is refused.
-/

namespace Hostwatch

open Json Decoder

namespace PluginSpec

def members (s : PluginSpec) : List (String × Json) :=
  [("type", .str s.kind), ("params", s.params)]

theorem nodup_members (s : PluginSpec) : (Table.keys s.members).Nodup := by
  show ["type", "params"].Nodup
  decide

/-- A reference is read back, whatever its parameters. -/
theorem ofJson_toJson (s : PluginSpec) : ofJson s.toJson = .ok s := by
  have read : shape.read s.toJson = .ok (Table.ofList s.members) := by
    refine Shape.read_ofMembers s.nodup_members ?_ ?_
    · intro entry member
      simp only [List.mem_cons, List.not_mem_nil, or_false] at member
      rcases member with rfl | rfl
      all_goals exact ⟨_, rfl, rfl⟩
    · show ∀ f ∈ shape.fields, f.required = true → f.name ∈ ["type", "params"]
      decide
  have kind : field (Table.ofList s.members) "type" string = .ok s.kind :=
    field_ofList s.nodup_members rfl rfl
  have params : fieldD (Table.ofList s.members) "params" .null any = .ok s.params :=
    fieldD_ofList s.nodup_members rfl rfl
  unfold ofJson
  simp only [read, bind, Except.bind, kind, params]
  rfl

end PluginSpec

namespace Probe

variable {α : Type}

/-- Whether all numbers of the last points have a text in JSON. -/
def isFinite (p : Probe α) : Bool :=
  p.lastPoints.all fun points => points.all Point.isFinite

/-- The interval is a number of milliseconds that a word can count, the times are dates that there
are, and the points are as agents make them. -/
structure Ordinary (p : Probe α) : Prop where
  interval : ∃ millis : Nat, millis ≤ Span.wordMax ∧ p.interval = .ofMillis millis
  lastCheck : ∀ time ∈ p.lastCheck, time.Valid
  nextCheck : ∀ time ∈ p.nextCheck, time.Valid
  points : ∀ points ∈ p.lastPoints, ∀ point ∈ points, point.Tidy ∧ point.time.Valid

/-! ### Records are read back -/

/-- The members of a record. -/
def members (r : Probe PluginSpec) : List (String × Json) :=
  [("id", .str r.id), ("account_id", .str r.account), ("host_id", .str r.hostId),
      ("agent", r.agent.toJson), ("interval_millis", .int r.intervalMillis)]
    ++ Table.ifSome "last_check" (fun time => .str (Rfc3339.write time)) r.lastCheck
    ++ Table.ifSome "next_check" (fun time => .str (Rfc3339.write time)) r.nextCheck
    ++ Table.ifSome "last_points" (fun points => .arr (points.map Point.toJson)) r.lastPoints

theorem toJson_eq (r : Probe PluginSpec) : r.toJson = ofMembers r.members := rfl

theorem nodup_members (r : Probe PluginSpec) : (Table.keys r.members).Nodup := by
  have keys : (Table.keys r.members).Sublist (["id", "account_id", "host_id", "agent",
      "interval_millis"] ++ ["last_check"] ++ ["next_check"] ++ ["last_points"]) := by
    simp only [members, Table.keys, List.map_append]
    exact (((List.Sublist.refl _).append (Table.keys_ifSome_sublist ..)).append
      (Table.keys_ifSome_sublist ..)).append (Table.keys_ifSome_sublist ..)
  exact keys.nodup (by decide)

variable {r : Probe PluginSpec}

theorem intervalMillis_eq {millis : Nat} {p : Probe α}
    (whole : p.interval = .ofMillis millis) : p.intervalMillis = millis := by
  rw [intervalMillis, whole, Span.millis, Span.ofMillis, Int.mul_tdiv_cancel _ (by decide),
    Int.toNat_natCast]

theorem intervalOfMillis_eq {millis : Nat} (short : millis ≤ Span.wordMax) :
    intervalOfMillis millis = .ofMillis millis := by
  rw [intervalOfMillis, min_eq_left short]

theorem optional_timestamp {time : Timestamp} (valid : time.Valid) :
    optional timestamp (.str (Rfc3339.write time)) = .ok (some time) := by
  rw [optional_str, timestamp_write valid]
  rfl

theorem optional_points {points : List Point}
    (made : ∀ point ∈ points, point.Tidy ∧ point.time.Valid) :
    optional (list Point.ofJson) (.arr (points.map Point.toJson)) =
      if points.all Point.isFinite then .ok (some points) else .error FieldValue.unreadable := by
  rw [optional_arr,
    list_arr fun point member => Point.ofJson_toJson (made point member).1 (made point member).2]
  cases points.all Point.isFinite with
  | true => rfl
  | false => rfl

/-- The points decide whether the record is read. -/
theorem checks_points (ordinary : r.Ordinary) {points : List Point}
    (given : points ∈ r.lastPoints) :
    shape.Checks (if r.isFinite then .ok () else .error FieldValue.unreadable)
      ("last_points", .arr (points.map Point.toJson)) := by
  have finite : r.isFinite = points.all Point.isFinite := by
    rw [isFinite, Option.mem_def.mp given, Option.all_some]
  refine ⟨_, rfl, ?_⟩
  rw [check_optional, optional_points (ordinary.points points given), finite]
  cases points.all Point.isFinite with
  | true => rfl
  | false => rfl

theorem word64_interval (ordinary : r.Ordinary) :
    word64 (.int r.intervalMillis) = .ok r.intervalMillis := by
  obtain ⟨millis, short, whole⟩ := ordinary.interval
  rw [intervalMillis_eq whole]
  refine unsigned_int ?_
  have large : Word.pow2 64 = 18446744073709551616 := by decide
  simp only [Span.wordMax, Word.greatest] at short
  omega

theorem checks_members (ordinary : r.Ordinary) : ∀ entry ∈ r.members,
    shape.Checks (.ok ()) entry ∨
      shape.Checks (if r.isFinite then .ok () else .error FieldValue.unreadable) entry := by
  intro entry member
  simp only [members, List.mem_append, Table.mem_ifSome, List.mem_cons, List.not_mem_nil,
    or_false] at member
  rcases member with (((rfl | rfl | rfl | rfl | rfl) | ⟨time, given, rfl⟩) |
    ⟨time, given, rfl⟩) | ⟨points, given, rfl⟩
  · exact .inl ⟨_, rfl, rfl⟩
  · exact .inl ⟨_, rfl, rfl⟩
  · exact .inl ⟨_, rfl, rfl⟩
  · refine .inl ⟨_, rfl, ?_⟩
    rw [check_mandatory, PluginSpec.ofJson_toJson]
    rfl
  · refine .inl ⟨_, rfl, ?_⟩
    rw [check_mandatory, word64_interval ordinary]
    rfl
  · refine .inl ⟨_, rfl, ?_⟩
    rw [check_optional, optional_timestamp (ordinary.lastCheck time given)]
    rfl
  · refine .inl ⟨_, rfl, ?_⟩
    rw [check_optional, optional_timestamp (ordinary.nextCheck time given)]
    rfl
  · exact .inr (checks_points ordinary given)

theorem read_toJson (ordinary : r.Ordinary) :
    shape.read r.toJson =
      if r.isFinite then .ok (Table.ofList r.members) else .error FieldValue.unreadable := by
  rw [toJson_eq]
  refine Shape.read_ofMembers_ite r.nodup_members (checks_members ordinary) ?_ ?_
  · intro faulty
    cases given : r.lastPoints with
    | none =>
        rw [isFinite, given] at faulty
        cases faulty
    | some points =>
        have there : ("last_points", .arr (points.map Point.toJson)) ∈ r.members := by
          simp only [members, List.mem_append, Table.mem_ifSome]
          exact .inr ⟨points, given, rfl⟩
        have refused := checks_points ordinary given
        rw [faulty] at refused
        exact ⟨_, there, refused⟩
  · have always : ∀ f ∈ shape.fields, f.required = true →
        f.name ∈ ["id", "account_id", "host_id", "agent", "interval_millis"] := by decide
    intro f member required
    simp only [members, Table.keys, List.map_append, List.append_assoc]
    exact List.mem_append_left _ (always f member required)

theorem fieldD_time {key : String} {value : Option Timestamp}
    (there : Table.get? r.members key = value.map fun time => .str (Rfc3339.write time))
    (valid : ∀ time ∈ value, time.Valid) :
    fieldD (Table.ofList r.members) key none (optional timestamp) = .ok value :=
  fieldD_ofList_ifSome r.nodup_members there fun time given => optional_timestamp (valid time given)

theorem fieldD_points (ordinary : r.Ordinary) (finite : r.isFinite = true) :
    fieldD (Table.ofList r.members) "last_points" none (optional (list Point.ofJson)) =
      .ok r.lastPoints := by
  have there : Table.get? r.members "last_points" =
      r.lastPoints.map fun points => .arr (points.map Point.toJson) := by
    simp [members, Table.get?_append, Table.get?_ifSome, Table.get?_cons]
  refine fieldD_ofList_ifSome r.nodup_members there fun points given => ?_
  have all : points.all Point.isFinite = true := by
    rw [← finite, isFinite, Option.mem_def.mp given, Option.all_some]
  rw [optional_points (ordinary.points points given), all]
  rfl

theorem intervalOfMillis_intervalMillis {p : Probe α} (ordinary : p.Ordinary) :
    intervalOfMillis p.intervalMillis = p.interval := by
  obtain ⟨millis, short, whole⟩ := ordinary.interval
  rw [intervalMillis_eq whole, intervalOfMillis_eq short, whole]

/-- A record is read back if the numbers of its points have a text. -/
theorem ofJson_toJson (ordinary : r.Ordinary) :
    ofJson r.toJson = if r.isFinite then .ok r else .error FieldValue.unreadable := by
  unfold ofJson
  rw [read_toJson ordinary]
  cases finite : r.isFinite with
  | false => rfl
  | true =>
      have text {key value : String} (there : Table.get? r.members key = some (.str value)) :
          field (Table.ofList r.members) key string = .ok value :=
        field_ofList r.nodup_members there rfl
      have id := @text "id" r.id rfl
      have account := @text "account_id" r.account rfl
      have host := @text "host_id" r.hostId rfl
      have agent : field (Table.ofList r.members) "agent" PluginSpec.ofJson = .ok r.agent :=
        field_ofList r.nodup_members rfl r.agent.ofJson_toJson
      have interval : field (Table.ofList r.members) "interval_millis" word64 =
          .ok r.intervalMillis :=
        field_ofList r.nodup_members rfl (word64_interval ordinary)
      have lastCheck := @fieldD_time r "last_check" r.lastCheck
        (by simp [members, Table.get?_append, Table.get?_ifSome, Table.get?_cons])
        ordinary.lastCheck
      have nextCheck := @fieldD_time r "next_check" r.nextCheck
        (by simp [members, Table.get?_append, Table.get?_ifSome, Table.get?_cons])
        ordinary.nextCheck
      simp only [if_true, bind, Except.bind, id, account, host, agent, interval, lastCheck,
        nextCheck, fieldD_points ordinary finite, intervalOfMillis_intervalMillis ordinary]
      rfl

end Probe

/-! ### Agents are made again -/

namespace Registry

/-- Whether the registry has an agent of that name under its name. -/
def Knows (registry : Registry) (name : String) : Prop :=
  ∃ a, registry.agents.get? name = some a ∧ a.name = name

theorem knows_defaults (a : Agent) : defaults.Knows a.name := by
  cases a <;> exact ⟨_, rfl, rfl⟩

theorem decodeAgent_eq_ok_iff {registry : Registry} {name : String} {params : Json} {a : Agent} :
    registry.decodeAgent name params = .ok a ↔
      ∃ fresh, registry.agents.get? name = some fresh ∧ fresh.configure params = .ok a := by
  unfold decodeAgent agent
  cases registry.agents.get? name with
  | none => simp [bind, Except.bind]
  | some fresh => simp [bind, Except.bind, mapError_eq_ok_iff]

variable {registry : Registry} {a : Agent}

/-- A registry that knows the name of an agent that was configured makes one like it, all but its
memory. -/
theorem exists_decodeAgent (configured : a.Configured) (known : registry.Knows a.name) :
    ∃ b, registry.decodeAgent a.name a.params = .ok b ∧ b.latest 0 = a.latest 0 := by
  obtain ⟨fresh, found, same⟩ := known
  obtain ⟨b, made, alike⟩ := Agent.exists_configure_params configured same
  exact ⟨b, decodeAgent_eq_ok_iff.mpr ⟨fresh, found, made⟩, alike⟩

theorem knows_of_decodeAgent {name : String} {params : Json}
    (made : registry.decodeAgent name params = .ok a) (same : a.name = name) :
    registry.Knows name := by
  obtain ⟨fresh, found, configured⟩ := decodeAgent_eq_ok_iff.mp made
  exact ⟨fresh, found, (Agent.configured_of_configure configured).2.symm.trans same⟩

end Registry

namespace Agent

/-- Agents that differ only in their memory are referred to in the same way. -/
theorem spec_eq {a b : Agent} (alike : b.latest 0 = a.latest 0) :
    Plugin.spec b = Plugin.spec a := by
  show PluginSpec.mk b.name b.params = PluginSpec.mk a.name a.params
  rw [← b.name_latest 0, ← b.params_latest 0, alike, name_latest, params_latest]

/-- An agent that a registry made has gathered any number of times since. -/
theorem configured_of_decodeAgent {registry : Registry} {name : String} {params : Json} {a : Agent}
    (made : registry.decodeAgent name params = .ok a) (course : List Surroundings) :
    (a.gatherAll course).Configured := by
  obtain ⟨fresh, -, configured⟩ := Registry.decodeAgent_eq_ok_iff.mp made
  rw [← configured_latest _ 0, gatherAll_latest_zero, configured_latest]
  exact (configured_of_configure configured).1

end Agent

namespace Probe

variable {registry : Registry} {p : Probe Agent}

/-- The record of the probe is read back from its JSON value, and the registry makes a probe of it
that is the same in everything but the memory of its agent. -/
def RoundTrips (registry : Registry) (p : Probe Agent) : Prop :=
  ∃ record q, ofJson p.toRecord.toJson = .ok record ∧ ofRecord registry record = .ok q ∧
    q.withAgent (Plugin.spec q.agent) = p.withAgent (Plugin.spec p.agent)

theorem interval_toRecord (ordinary : p.Ordinary) : p.toRecord.interval = p.interval :=
  intervalOfMillis_intervalMillis ordinary

theorem ofJson_toRecord (ordinary : p.Ordinary) :
    ofJson p.toRecord.toJson =
      if p.isFinite then .ok p.toRecord else .error FieldValue.unreadable := by
  refine ofJson_toJson ⟨?_, ordinary.lastCheck, ordinary.nextCheck, ordinary.points⟩
  rw [interval_toRecord ordinary]
  exact ordinary.interval

theorem withAgent_toRecord {α : Type} (ordinary : p.Ordinary) (agent : α) :
    p.toRecord.withAgent agent = p.withAgent agent := by
  show { p.withAgent agent with interval := p.toRecord.interval } = p.withAgent agent
  rw [interval_toRecord ordinary]
  rfl

theorem roundTrips_of_isFinite (ordinary : p.Ordinary) (configured : p.agent.Configured)
    (known : registry.Knows p.agent.name) (finite : p.isFinite = true) :
    p.RoundTrips registry := by
  obtain ⟨b, made, alike⟩ := Registry.exists_decodeAgent configured known
  refine ⟨p.toRecord, p.toRecord.withAgent b, ?_, ?_, ?_⟩
  · rw [ofJson_toRecord ordinary, finite]
    rfl
  · show (registry.decodeAgent p.agent.name p.agent.params >>= fun b => _) = _
    rw [made]
    rfl
  · show p.toRecord.withAgent (Plugin.spec b) = _
    rw [withAgent_toRecord ordinary, Agent.spec_eq alike]

theorem knows_of_roundTrips (ordinary : p.Ordinary) (again : p.RoundTrips registry) :
    registry.Knows p.agent.name ∧ p.isFinite = true := by
  obtain ⟨record, q, read, made, same⟩ := again
  rw [ofJson_toRecord ordinary] at read
  cases finite : p.isFinite with
  | false =>
      rw [finite] at read
      cases read
  | true =>
      rw [finite] at read
      cases read
      obtain ⟨b, decoded, remade⟩ := bind_eq_ok_iff.mp made
      cases remade
      have name : b.name = p.agent.name := congrArg (fun r : Probe PluginSpec => r.agent.kind) same
      exact ⟨Registry.knows_of_decodeAgent decoded name, rfl⟩

/-- What agents report is in order. -/
theorem ordinary_of_reported
    (interval : ∃ millis : Nat, millis ≤ Span.wordMax ∧ p.interval = .ofMillis millis)
    (lastCheck : ∀ time ∈ p.lastCheck, time.Valid) (nextCheck : ∀ time ∈ p.nextCheck, time.Valid)
    (reported : ∀ points ∈ p.lastPoints, ∀ point ∈ points,
      (∃ b : Agent, ∃ ps ∈ b.points, point ∈ ps) ∧ point.time.Valid) : p.Ordinary := by
  refine ⟨interval, lastCheck, nextCheck, fun points given point member => ?_⟩
  obtain ⟨⟨b, ps, ofAgent, among⟩, valid⟩ := reported points given point member
  exact ⟨Agent.tidy_points ofAgent among, valid⟩

/-- A probe whose agent was made by a registry, and has gathered any number of times since, can be
made again from the JSON value of its record with the same registry exactly if the registry knows
the name of the agent and all numbers of the last points have a text in JSON. With any other number
the value is refused. Every agent's name is known to the registry of all agents. -/
theorem made_again_iff_finite {name : String} {params : Json} {a : Agent}
    {course : List Surroundings} (made : registry.decodeAgent name params = .ok a)
    (since : p.agent = a.gatherAll course)
    (interval : ∃ millis : Nat, millis ≤ Span.wordMax ∧ p.interval = .ofMillis millis)
    (lastCheck : ∀ time ∈ p.lastCheck, time.Valid) (nextCheck : ∀ time ∈ p.nextCheck, time.Valid)
    (reported : ∀ points ∈ p.lastPoints, ∀ point ∈ points,
      (∃ b : Agent, ∃ ps ∈ b.points, point ∈ ps) ∧ point.time.Valid) :
    (p.RoundTrips registry ↔ registry.Knows p.agent.name ∧ p.isFinite = true) ∧
      (p.isFinite = false → ofJson p.toRecord.toJson = .error FieldValue.unreadable) ∧
      Registry.defaults.Knows p.agent.name := by
  have ordinary := ordinary_of_reported interval lastCheck nextCheck reported
  have configured : p.agent.Configured := by
    rw [since]
    exact Agent.configured_of_decodeAgent made course
  refine ⟨⟨knows_of_roundTrips ordinary, ?_⟩, ?_, Registry.knows_defaults p.agent⟩
  · rintro ⟨known, finite⟩
    exact roundTrips_of_isFinite ordinary configured known finite
  · intro infinite
    rw [ofJson_toRecord ordinary, infinite]
    rfl

/-- A host that prints these load averages. -/
def printing (loads : String) : Surroundings :=
  Agent.machine 60 (.ok (Utf8.encode loads.toList))

/-- A probe that has just read the load averages of a host. -/
def afterLoad (loads : String) : Probe Agent :=
  let agent := (Agent.load none).gatherAll [printing loads]
  { id := "load", account := "acme", hostId := "web", agent, interval := .ofMillis 60000
    lastCheck := some ⟨60, 0⟩, nextCheck := some ⟨120, 0⟩, lastPoints := agent.points }

section AfterLoad

variable (loads : String)

theorem interval_afterLoad :
    ∃ millis : Nat, millis ≤ Span.wordMax ∧ (afterLoad loads).interval = .ofMillis millis :=
  ⟨60000, by decide, rfl⟩

theorem lastCheck_afterLoad : ∀ time ∈ (afterLoad loads).lastCheck, time.Valid := by
  rintro time ⟨⟩
  exact ⟨by decide, .inl (by decide)⟩

theorem nextCheck_afterLoad : ∀ time ∈ (afterLoad loads).nextCheck, time.Valid := by
  rintro time ⟨⟩
  exact ⟨by decide, .inl (by decide)⟩

theorem reported_afterLoad : ∀ points ∈ (afterLoad loads).lastPoints, ∀ point ∈ points,
    (∃ b : Agent, ∃ ps ∈ b.points, point ∈ ps) ∧ point.time.Valid := by
  intro points given point member
  refine ⟨⟨(afterLoad loads).agent, points, given, member⟩, ?_⟩
  cases given
  cases List.mem_singleton.mp member
  show (⟨60, 0⟩ : Timestamp).Valid
  exact ⟨by decide, .inl (by decide)⟩

end AfterLoad

/-- A probe with common load averages is made again. -/
theorem common_loads_made_again :
    Registry.defaults.decodeAgent "load" .null = .ok (.load none) ∧
      (afterLoad "0.52 0.25 0.10 1/100 7").isFinite = true ∧
      (afterLoad "0.52 0.25 0.10 1/100 7").RoundTrips Registry.defaults := by
  have made : Registry.defaults.decodeAgent "load" .null = .ok (.load none) := rfl
  have finite : (afterLoad "0.52 0.25 0.10 1/100 7").isFinite = true := by decide +kernel
  have again := (made_again_iff_finite made rfl (interval_afterLoad _) (lastCheck_afterLoad _)
    (nextCheck_afterLoad _) (reported_afterLoad "0.52 0.25 0.10 1/100 7")).1
  exact ⟨made, finite, again.mpr ⟨Registry.knows_defaults _, finite⟩⟩

/-- A load average of `inf` is taken for a number, and its probe is lost. -/
theorem infinite_load_is_lost :
    Registry.defaults.decodeAgent "load" .null = .ok (.load none) ∧
      ((Agent.load none).gatherIn (printing "inf 0.25 0.10 1/100 7")).1 = .ok () ∧
      ¬ (afterLoad "inf 0.25 0.10 1/100 7").RoundTrips Registry.defaults := by
  refine ⟨rfl, rfl, fun again => ?_⟩
  have ordinary := ordinary_of_reported (interval_afterLoad _) (lastCheck_afterLoad _)
    (nextCheck_afterLoad _) (reported_afterLoad "inf 0.25 0.10 1/100 7")
  have finite := (knows_of_roundTrips ordinary again).2
  have infinite : (afterLoad "inf 0.25 0.10 1/100 7").isFinite = false := by decide +kernel
  rw [infinite] at finite
  cases finite

end Probe

end Hostwatch
