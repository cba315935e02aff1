import Hostwatch.Json.Schema
import Hostwatch.Proofs.Except
import Hostwatch.Proofs.Table

/-!
# What decoders make of what is written

A shape accepts an object whose members it knows if each member passes the check of its field and no
required field is missing. It then hands out the members as they are, so a record is decoded field
by field. If some members are refused, and all of them with the same fault, that is the fault of the
object.
-/

namespace Hostwatch.Json

/-! ### Lists and tables -/

section Written

variable {α : Type} {d : Decoder α} {write : α → Json} {good : α → Bool} {e : Mismatch}

theorem list_arr {items : List α}
    (each : ∀ item ∈ items, d (write item) = if good item then .ok item else .error e) :
    Decoder.list d (.arr (items.map write)) =
      if items.all good then .ok items else .error e := by
  rw [Decoder.list, List.mapM_map]
  exact mapM_ite each

theorem table_ofMembers {t : Table α} (sorted : t.Sorted)
    (each : ∀ value, d (write value) = if good value then .ok value else .error e) :
    Decoder.table d (ofMembers (t.mapValues write)) =
      if t.all fun entry => good entry.2 then .ok t else .error e := by
  rw [ofMembers, (sorted.mapValues write).ofList_eq, Decoder.table, Table.mapValues, List.mapM_map]
  refine mapM_ite fun entry _ => ?_
  show (d (write entry.2)).map _ = _
  rw [each]
  cases good entry.2 with
  | false => rfl
  | true => rfl

/-- A table of values that are all read is read. -/
theorem table_ofMembers_of_reads {t : Table α} (sorted : t.Sorted)
    (each : ∀ value, d (write value) = .ok value) :
    Decoder.table d (ofMembers (t.mapValues write)) = .ok t := by
  have reads := @table_ofMembers _ d write (fun _ => true) (.other "") t sorted each
  rw [List.all_eq_true.mpr fun _ _ => rfl] at reads
  exact reads

end Written

/-! ### Numbers and values that may be missing -/

namespace Decoder

variable {bits n : Nat} {name : String}

theorem unsigned_int (small : n < Word.pow2 bits) : unsigned bits name (.int n) = .ok n := by
  have inside :
      (decide ((0 : Int) ≤ n) && decide ((n : Int) ≤ (Word.pow2 bits : Nat) - 1)) = true := by
    simp only [Bool.and_eq_true, decide_eq_true_eq]
    omega
  rw [unsigned, integer, if_pos inside]
  rfl

theorem lt_of_unsigned {j : Json} (read : unsigned bits name j = .ok n) : n < Word.pow2 bits := by
  unfold unsigned integer at read
  split at read
  · next k =>
    split at read
    · next inside =>
      simp only [Bool.and_eq_true, decide_eq_true_eq] at inside
      cases read
      omega
    · cases read
  · cases read

theorem optional_str {α : Type} (d : Decoder α) (text : String) :
    optional d (.str text) = (d (.str text)).map some := rfl

theorem optional_arr {α : Type} (d : Decoder α) (items : List Json) :
    optional d (.arr items) = (d (.arr items)).map some := rfl

theorem of_optional {α : Type} {P : α → Prop} {d : Decoder α} (decoded : ∀ j v, d j = .ok v → P v)
    {j : Json} {value : Option α} (read : optional d j = .ok value) : ∀ v ∈ value, P v := by
  unfold optional at read
  split at read
  · cases read
    nofun
  · obtain ⟨v, given, rfl⟩ := map_eq_ok_iff.mp read
    rintro _ ⟨⟩
    exact decoded _ _ given

end Decoder

/-! ### Fields -/

theorem check_mandatory {α : Type} {d : Decoder α} {name : String} {j : Json} :
    (Field.mandatory name d).check j = (d j).map fun _ => () := rfl

theorem check_optional {α : Type} {d : Decoder α} {name : String} {j : Json} :
    (Field.optional name d).check j = (d j).map fun _ => () := rfl

/-- The value of a field is one that its decoder gives, or the default. -/
theorem of_fieldD {α : Type} {d : Decoder α} {fields : Table Json} {name : String}
    {default value : α} (P : α → Prop) (decoded : ∀ j v, d j = .ok v → P v) (otherwise : P default)
    (read : fieldD fields name default d = .ok value) : P value := by
  unfold fieldD at read
  split at read
  · exact decoded _ _ read
  · cases read
    exact otherwise

/-- A field that is not there has its default. -/
theorem eq_of_fieldD_of_none {α : Type} {d : Decoder α} {fields : Table Json} {name : String}
    {default value : α} (absent : fields.get? name = none)
    (read : fieldD fields name default d = .ok value) : value = default := by
  rw [fieldD, absent] at read
  cases read
  rfl

theorem isSome_of_field {α : Type} {d : Decoder α} {fields : Table Json} {name : String} {value : α}
    (read : field fields name d = .ok value) : (fields.get? name).isSome = true := by
  unfold field at read
  split at read
  · next found => simp [found]
  · cases read

section Fields

variable {α : Type} {d : Decoder α} {name : String} {j : Json} {value : α}
variable {entries : List (String × Json)} (once : (Table.keys entries).Nodup)

include once

theorem field_ofList (there : Table.get? entries name = some j) (reads : d j = .ok value) :
    field (Table.ofList entries) name d = .ok value := by
  rw [field, Table.get?_ofList once, there]
  exact reads

theorem fieldD_ofList {default : α} (there : Table.get? entries name = some j)
    (reads : d j = .ok value) : fieldD (Table.ofList entries) name default d = .ok value := by
  rw [fieldD, Table.get?_ofList once, there]
  exact reads

/-- A field that is left out when it has nothing to say. -/
theorem fieldD_ofList_ifSome {write : α → Json} {value : Option α}
    (there : Table.get? entries name = value.map write)
    (reads : ∀ v ∈ value, Decoder.optional d (write v) = .ok (some v)) :
    fieldD (Table.ofList entries) name none (Decoder.optional d) = .ok value := by
  rw [fieldD, Table.get?_ofList once, there]
  cases value with
  | none => rfl
  | some v => exact reads v rfl

end Fields

/-! ### Shapes -/

namespace Shape

variable {s : Shape} {e : Mismatch} {entries : List (String × Json)}

/-- What comes of the check of a member that the shape knows. -/
def Checks (s : Shape) (result : Except Mismatch Unit) (entry : String × Json) : Prop :=
  ∃ f, s.find? entry.1 = some f ∧ f.check entry.2 = result

theorem readMembers_of_checks (fits : ∀ entry ∈ entries, s.Checks (.ok ()) entry) :
    s.readMembers entries = .ok entries := by
  induction entries with
  | nil => rfl
  | cons entry rest ih =>
      obtain ⟨⟨f, found, accepted⟩, later⟩ := List.forall_mem_cons.mp fits
      obtain ⟨key, value⟩ := entry
      simp only [readMembers, found, accepted, ih later]
      rfl

theorem readMembers_of_refused
    (known : ∀ entry ∈ entries, s.Checks (.ok ()) entry ∨ s.Checks (.error e) entry)
    (refused : ∃ entry ∈ entries, s.Checks (.error e) entry) :
    s.readMembers entries = .error e := by
  induction entries with
  | nil =>
      obtain ⟨entry, member, -⟩ := refused
      cases member
  | cons entry rest ih =>
      obtain ⟨first, later⟩ := List.forall_mem_cons.mp known
      obtain ⟨key, value⟩ := entry
      rcases first with ⟨f, found, accepted⟩ | ⟨f, found, fault⟩
      · have still : ∃ entry ∈ rest, s.Checks (.error e) entry := by
          obtain ⟨other, member, f', found', fault⟩ := refused
          rcases List.mem_cons.mp member with rfl | member
          · rw [found] at found'
            cases found'
            rw [accepted] at fault
            cases fault
          · exact ⟨other, member, f', found', fault⟩
        simp only [readMembers, found, accepted, ih later still]
        rfl
      · simp only [readMembers, found, fault]
        rfl

theorem missing?_of_complete {fields : Table Json}
    (complete : ∀ f ∈ s.fields, f.required = true → (fields.get? f.name).isSome = true) :
    s.missing? fields = none := by
  refine Option.map_eq_none_iff.mpr (List.find?_eq_none.mpr fun f member => ?_)
  intro lacking
  obtain ⟨required, nothing⟩ := (Bool.and_eq_true _ _).mp lacking
  have present := complete f member required
  rw [Option.isNone_iff_eq_none.mp nothing] at present
  cases present

/-- A shape hands out the members of an object that fits. -/
theorem read_ofMembers (once : (Table.keys entries).Nodup)
    (fits : ∀ entry ∈ entries, s.Checks (.ok ()) entry)
    (complete : ∀ f ∈ s.fields, f.required = true → f.name ∈ Table.keys entries) :
    s.read (ofMembers entries) = .ok (Table.ofList entries) := by
  have members : s.readMembers (Table.ofList entries) = .ok (Table.ofList entries) :=
    readMembers_of_checks fun entry member => fits entry ((Table.mem_ofList once).mp member)
  have whole : s.missing? (Table.ofList entries) = none := by
    refine missing?_of_complete fun f member required => ?_
    obtain ⟨entry, found, same⟩ := List.mem_map.mp (complete f member required)
    rw [Table.get?_ofList once, ← same, (Table.get?_eq_some_iff once).mpr found]
    rfl
  simp only [ofMembers, read, members, bind, Except.bind, whole]

theorem read_ofMembers_of_optional (once : (Table.keys entries).Nodup)
    (fits : ∀ entry ∈ entries, s.Checks (.ok ()) entry)
    (optional : ∀ f ∈ s.fields, f.required = false) :
    s.read (ofMembers entries) = .ok (Table.ofList entries) := by
  refine read_ofMembers once fits fun f member required => ?_
  rw [optional f member] at required
  cases required

/-- An object is refused for what is wrong with its members. -/
theorem read_ofMembers_of_refused (once : (Table.keys entries).Nodup)
    (known : ∀ entry ∈ entries, s.Checks (.ok ()) entry ∨ s.Checks (.error e) entry)
    (refused : ∃ entry ∈ entries, s.Checks (.error e) entry) :
    s.read (ofMembers entries) = .error e := by
  have members : s.readMembers (Table.ofList entries) = .error e := by
    refine readMembers_of_refused
      (fun entry member => known entry ((Table.mem_ofList once).mp member)) ?_
    obtain ⟨entry, member, fault⟩ := refused
    exact ⟨entry, (Table.mem_ofList once).mpr member, fault⟩
  simp only [ofMembers, read, members]
  rfl

/-- An object whose members fit, or are all refused for the same reason, is itself read or refused
for it. -/
theorem read_ofMembers_ite {good : Bool} (once : (Table.keys entries).Nodup)
    (known : ∀ entry ∈ entries,
      s.Checks (.ok ()) entry ∨ s.Checks (if good then .ok () else .error e) entry)
    (faulty : good = false → ∃ entry ∈ entries, s.Checks (.error e) entry)
    (complete : ∀ f ∈ s.fields, f.required = true → f.name ∈ Table.keys entries) :
    s.read (ofMembers entries) = if good then .ok (Table.ofList entries) else .error e := by
  cases good with
  | true =>
      exact read_ofMembers once (fun entry member => or_self_iff.mp (known entry member)) complete
  | false => exact read_ofMembers_of_refused once known (faulty rfl)

/-! ### What an object is read to -/

/-- Whether the shape has a field of that name. -/
def knows (s : Shape) (entry : String × Json) : Bool :=
  (s.find? entry.1).isSome

theorem knows_iff {entry : String × Json} :
    s.knows entry = true ↔ entry.1 ∈ s.fields.map (·.name) := by
  simp [knows, find?]

/-- The members that the shape knows are handed out as they are, and a closed shape has to know
them all. -/
theorem of_readMembers {found : Table Json} (read : s.readMembers entries = .ok found) :
    found = entries.filter s.knows ∧
      (s.closed = true → ∀ entry ∈ entries, s.knows entry = true) := by
  induction entries generalizing found with
  | nil =>
      cases read
      exact ⟨rfl, nofun⟩
  | cons entry rest ih =>
      obtain ⟨key, value⟩ := entry
      unfold readMembers at read
      split at read
      · next f known =>
          have knows : s.knows (key, value) = true := by simp [Shape.knows, known]
          obtain ⟨-, -, read⟩ := bind_eq_ok_iff.mp read
          obtain ⟨later, others, handed⟩ := bind_eq_ok_iff.mp read
          cases handed
          obtain ⟨same, all⟩ := ih others
          exact ⟨by rw [List.filter_cons, if_pos knows, same],
            fun closed => List.forall_mem_cons.mpr ⟨knows, all closed⟩⟩
      · next unknown =>
          have ignored : s.knows (key, value) = false := by simp [Shape.knows, unknown]
          split at read
          · cases read
          · next opened =>
              obtain ⟨same, -⟩ := ih read
              exact ⟨by rw [List.filter_cons, ignored, if_neg nofun, same],
                fun closed => absurd closed opened⟩

/-- A shape that is not closed reads what it knows of an object, whatever else there is. -/
theorem readMembers_filter (opened : s.closed = false) (entries : List (String × Json)) :
    s.readMembers (entries.filter s.knows) = s.readMembers entries := by
  induction entries with
  | nil => rfl
  | cons entry rest ih =>
      obtain ⟨key, value⟩ := entry
      rw [List.filter_cons]
      cases known : s.find? key with
      | none =>
          have ignored : s.knows (key, value) = false := by simp [knows, known]
          rw [ignored, if_neg nofun, ih, readMembers, known]
          simp [opened]
      | some f =>
          have knows : s.knows (key, value) = true := by simp [knows, known]
          rw [if_pos knows, readMembers, readMembers, ih]

theorem read_filter (opened : s.closed = false) (entries : List (String × Json)) :
    s.read (.obj (entries.filter s.knows)) = s.read (.obj entries) := by
  rw [read, read, readMembers_filter opened]

theorem readMembers_of_read {found : Table Json} (read : s.read (.obj entries) = .ok found) :
    s.readMembers entries = .ok found := by
  obtain ⟨members, handed, complete⟩ := bind_eq_ok_iff.mp read
  split at complete
  · cases complete
  · cases complete
    exact handed

/-- The members of an object that a closed shape reads are all known to it. -/
theorem knows_of_read {found : Table Json} (closed : s.closed = true)
    (read : s.read (.obj entries) = .ok found) {entry : String × Json} (member : entry ∈ entries) :
    s.knows entry = true :=
  (of_readMembers (readMembers_of_read read)).2 closed entry member

/-- What an object leaves out is not read. -/
theorem get?_eq_none_of_read {found : Table Json} (read : s.read (.obj entries) = .ok found)
    {key : String} (absent : key ∉ Table.keys entries) : found.get? key = none := by
  rw [(of_readMembers (readMembers_of_read read)).1]
  refine Table.get?_eq_none fun member => absent ?_
  obtain ⟨entry, kept, same⟩ := List.mem_map.mp member
  exact List.mem_map.mpr ⟨entry, List.mem_of_mem_filter kept, same⟩

end Shape

end Hostwatch.Json
