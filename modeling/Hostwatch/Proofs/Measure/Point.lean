import Hostwatch.Measure.Point
import Hostwatch.Proofs.Json.Schema
import Hostwatch.Proofs.Time.Rfc3339

/-!
# Points and their records

A point is read back from its record, with one exception. The infinities and what is not a number
have no text in JSON and are written as `null`, and `null` is no field value: so a point with such a
value cannot be read back at all.
-/

namespace Hostwatch

/-- Whether this is a number with a text in JSON. -/
def Binary64.Value.isFinite : Value → Bool
  | .finite .. => true
  | .infinite _ | .nan => false

namespace FieldValue

/-- Whether the value has a text in JSON. -/
def isFinite : FieldValue → Bool
  | .number x => (Binary64.decode x).isFinite
  | .bool _ | .text _ => true

/-- What is wrong with a value that has no text in JSON. -/
def unreadable : Json.Mismatch :=
  .other "data did not match any variant of untagged enum FieldValue"

theorem ofJson_toJson (v : FieldValue) :
    ofJson v.toJson = if v.isFinite then .ok v else .error unreadable := by
  cases v with
  | bool b => rfl
  | text s => rfl
  | number x =>
      show ofJson (Json.ofFloat x) =
        if (Binary64.decode x).isFinite then .ok (.number x) else .error unreadable
      unfold Json.ofFloat
      cases Binary64.decode x with
      | finite negative mantissa exponent => rfl
      | infinite negative => rfl
      | nan => rfl

end FieldValue

namespace Json

theorem timestamp_write {t : Timestamp} (valid : t.Valid) :
    Decoder.timestamp (.str (Rfc3339.write t)) = .ok t := by
  rw [Decoder.timestamp, Rfc3339.read_write valid]
  rfl

end Json

namespace Point

open Json Decoder

/-- Whether all fields have a text in JSON. -/
def isFinite (p : Point) : Bool :=
  p.fields.all fun entry => entry.2.isFinite

/-- The tables are in order. -/
structure Tidy (p : Point) : Prop where
  tags : p.tags.Sorted
  fields : p.fields.Sorted

/-! ### Points as they are made -/

theorem tidy_start (name : String) (time : Timestamp) : ({ name, time } : Point).Tidy :=
  ⟨Table.sorted_nil, Table.sorted_nil⟩

namespace Tidy

variable {p : Point}

theorem tag (tidy : p.Tidy) (key value : String) : (p.tag key value).Tidy :=
  ⟨tidy.tags.insert key value, tidy.fields⟩

theorem field (tidy : p.Tidy) (key : String) (value : FieldValue) :
    (p.field key value).Tidy :=
  ⟨tidy.tags, tidy.fields.insert key value⟩

theorem number (tidy : p.Tidy) (key : String) (value : Float) : (p.number key value).Tidy :=
  tidy.field key (.number value)

theorem numbers (tidy : p.Tidy) (values : Table Float) : (p.numbers values).Tidy :=
  ⟨tidy.tags, tidy.fields.insertAll _⟩

end Tidy

/-! ### Records -/

/-- The members of the record of a point. -/
def members (p : Point) : List (String × Json) :=
  [("name", .str p.name), ("tags", ofMembers (p.tags.mapValues .str)),
    ("fields", ofMembers (p.fields.mapValues FieldValue.toJson)),
    ("time", .str (Rfc3339.write p.time))]

theorem nodup_members (p : Point) : (Table.keys p.members).Nodup := by
  show ["name", "tags", "fields", "time"].Nodup
  decide

variable {p : Point}

theorem read_toJson (tidy : p.Tidy) (valid : p.time.Valid) :
    shape.read p.toJson =
      if p.isFinite then .ok (Table.ofList p.members) else .error FieldValue.unreadable := by
  have fields : shape.Checks (if p.isFinite then .ok () else .error FieldValue.unreadable)
      ("fields", ofMembers (p.fields.mapValues FieldValue.toJson)) := by
    refine ⟨_, rfl, ?_⟩
    rw [check_mandatory, table_ofMembers tidy.fields FieldValue.ofJson_toJson]
    show Except.map _ (if p.isFinite then _ else _) = _
    cases p.isFinite with
    | true => rfl
    | false => rfl
  refine Shape.read_ofMembers_ite p.nodup_members ?_ ?_ ?_
  · intro entry member
    simp only [List.mem_cons, List.not_mem_nil, or_false] at member
    rcases member with rfl | rfl | rfl | rfl
    · exact .inl ⟨_, rfl, rfl⟩
    · refine .inl ⟨_, rfl, ?_⟩
      rw [check_optional, table_ofMembers_of_reads tidy.tags fun _ => rfl]
      rfl
    · exact .inr fields
    · refine .inl ⟨_, rfl, ?_⟩
      rw [check_mandatory, timestamp_write valid]
      rfl
  · intro faulty
    rw [faulty] at fields
    exact ⟨_, by simp, fields⟩
  · show ∀ f ∈ shape.fields, f.required = true → f.name ∈ ["name", "tags", "fields", "time"]
    decide

/-- A point is read back from its record if all its fields have a text. Otherwise it is refused for
the first field without one. -/
theorem ofJson_toJson (tidy : p.Tidy) (valid : p.time.Valid) :
    ofJson p.toJson = if p.isFinite then .ok p else .error FieldValue.unreadable := by
  unfold ofJson
  rw [read_toJson tidy valid]
  cases finite : p.isFinite with
  | false => rfl
  | true =>
      have values : table FieldValue.ofJson (ofMembers (p.fields.mapValues FieldValue.toJson)) =
          .ok p.fields := by
        rw [table_ofMembers tidy.fields FieldValue.ofJson_toJson, ← isFinite, finite]
        rfl
      have name : Json.field (Table.ofList p.members) "name" string = .ok p.name :=
        field_ofList p.nodup_members rfl rfl
      have tags : fieldD (Table.ofList p.members) "tags" [] (table string) = .ok p.tags :=
        fieldD_ofList p.nodup_members rfl (table_ofMembers_of_reads tidy.tags fun _ => rfl)
      have fields : Json.field (Table.ofList p.members) "fields" (table FieldValue.ofJson) =
          .ok p.fields :=
        field_ofList p.nodup_members rfl values
      have time : Json.field (Table.ofList p.members) "time" timestamp = .ok p.time :=
        field_ofList p.nodup_members rfl (timestamp_write valid)
      simp only [if_true, bind, Except.bind, name, tags, fields, time]
      rfl

end Point

end Hostwatch
