import Hostwatch.Agent.Reading
import Hostwatch.Proofs.Table
import Hostwatch.Proofs.Text.Lines

/-!
# Reports that are read line by line

Whatever an agent reads line by line is a set of places that lines fill with values. That a line does
nothing but fill its own places is a matter of that line only, and composes: what a text says of a
place is what its lines say last, so lines that say nothing of it, and the order of lines that do not
share a place, do not matter.
-/

namespace Hostwatch

/-- A place in a report. -/
inductive Place where
  /-- A field of the host itself, or of one of several entities. -/
  | field (entity : Option String) (kind : FieldKind) (name : String)
  /-- The name that a report gives to what it is about. -/
  | label
  deriving DecidableEq

/-- A place and the value that it is given. -/
abbrev Assignment := Place × FieldValue

namespace Assignment

/-- The value that a place is given last. -/
def last (given : List Assignment) (p : Place) : Option FieldValue :=
  given.reverse.lookup p

/-- Numbers for fields. -/
def fields (entity : Option String) (kind : FieldKind) (entries : List (String × Float)) :
    List Assignment :=
  entries.map fun (name, value) => (.field entity kind name, .number value)

@[simp] theorem last_nil (p : Place) : last [] p = none := rfl

theorem last_append (given later : List Assignment) (p : Place) :
    last (given ++ later) p = (last later p).or (last given p) := by
  rw [last, List.reverse_append, List.lookup_append]
  rfl

theorem last_cons (p : Place) (x : FieldValue) (later : List Assignment) (q : Place) :
    last ((p, x) :: later) q = (last later q).or (if q = p then some x else none) := by
  have head : last [(p, x)] q = if q = p then some x else none := by
    rw [last, List.reverse_singleton, List.lookup_cons]
    by_cases same : q = p
    · rw [if_pos same, beq_iff_eq.mpr same]
    · rw [if_neg same, beq_eq_false_iff_ne.mpr same]
      rfl
  rw [← head]
  exact last_append [(p, x)] later q

theorem last_eq_none_iff {given : List Assignment} {p : Place} :
    last given p = none ↔ ∀ e ∈ given, e.1 ≠ p := by
  induction given with
  | nil => simp
  | cons e given ih =>
      obtain ⟨q, x⟩ := e
      rw [last_cons, Option.or_eq_none_iff, ih, List.forall_mem_cons, and_comm]
      simp [eq_comm]

/-- Numbers for fields make up a table. -/
theorem last_fields (entity : Option String) (kind : FieldKind) (entries : List (String × Float))
    (name : String) :
    last (fields entity kind entries) (.field entity kind name) =
      ((Table.ofList entries).get? name).map .number := by
  rw [last, fields, ← List.map_reverse, Table.get?_ofList_eq_last]
  induction entries.reverse with
  | nil => rfl
  | cons entry rest ih =>
      obtain ⟨key, value⟩ := entry
      rw [List.map_cons, List.lookup_cons, ih, Table.get?_cons]
      by_cases here : name = key
      · subst here
        rw [if_pos rfl, beq_self_eq_true]
        rfl
      · have elsewhere : (Place.field entity kind name == .field entity kind key) = false :=
          beq_eq_false_iff_ne.mpr fun same => here (Place.field.inj same).2.2
        rw [if_neg here, elsewhere]

theorem last_fields_of_ne {entity : Option String} {kind : FieldKind} {p : Place}
    (elsewhere : ∀ name, .field entity kind name ≠ p) (entries : List (String × Float)) :
    last (fields entity kind entries) p = none := by
  refine last_eq_none_iff.mpr fun e member => ?_
  obtain ⟨entry, -, rfl⟩ := List.mem_map.mp member
  exact elsewhere entry.1

end Assignment

/-! ### What a report holds -/

/-- All that reports hold. -/
structure View where
  entityCounters : Sample := []
  entityGauges : Sample := []
  counters : Counters := []
  gauges : Counters := []
  label : Option String := none

namespace View

open Assignment

def rows (v : View) : FieldKind → Sample
  | .counter => v.entityCounters
  | .gauge => v.entityGauges

def fields (v : View) : FieldKind → Counters
  | .counter => v.counters
  | .gauge => v.gauges

/-- The value at a place, if there is one. -/
def look (v : View) : Place → Option FieldValue
  | .field (some entity) kind name =>
    (((v.rows kind).get? entity).bind (Table.get? · name)).map .number
  | .field none kind name => ((v.fields kind).get? name).map .number
  | .label => v.label.map .text

/-- Replaces the fields of an entity. -/
def setRow (v : View) (kind : FieldKind) (entity : String) (row : Counters) : View :=
  match kind with
  | .counter => { v with entityCounters := v.entityCounters.insert entity row }
  | .gauge => { v with entityGauges := v.entityGauges.insert entity row }

def setField (v : View) (kind : FieldKind) (name : String) (value : Float) : View :=
  match kind with
  | .counter => { v with counters := v.counters.insert name value }
  | .gauge => { v with gauges := v.gauges.insert name value }

def setLabel (v : View) (text : String) : View :=
  { v with label := some text }

theorem rows_setRow (v : View) (kind : FieldKind) (entity : String) (row : Counters)
    (k : FieldKind) :
    (v.setRow kind entity row).rows k =
      if k = kind then (v.rows kind).insert entity row else v.rows k := by
  cases kind <;> cases k <;> rfl

theorem fields_setRow (v : View) (kind : FieldKind) (entity : String) (row : Counters)
    (k : FieldKind) : (v.setRow kind entity row).fields k = v.fields k := by
  cases kind <;> cases k <;> rfl

theorem label_setRow (v : View) (kind : FieldKind) (entity : String) (row : Counters) :
    (v.setRow kind entity row).label = v.label := by
  cases kind <;> rfl

theorem rows_setField (v : View) (kind : FieldKind) (name : String) (value : Float)
    (k : FieldKind) : (v.setField kind name value).rows k = v.rows k := by
  cases kind <;> cases k <;> rfl

theorem fields_setField (v : View) (kind : FieldKind) (name : String) (value : Float)
    (k : FieldKind) :
    (v.setField kind name value).fields k =
      if k = kind then (v.fields kind).insert name value else v.fields k := by
  cases kind <;> cases k <;> rfl

theorem label_setField (v : View) (kind : FieldKind) (name : String) (value : Float) :
    (v.setField kind name value).label = v.label := by
  cases kind <;> rfl

/-- A row has these columns, and there are some. -/
structure HasColumns (names : List String) (row : Counters) : Prop where
  sorted : row.Sorted
  nonempty : names ≠ []
  absent : ∀ name, row.get? name = none ↔ name ∉ names

theorem hasColumns_ofList {names : List String} {entries : List (String × Float)}
    (nonempty : names ≠ []) (keys : Table.keys entries = names) :
    HasColumns names (Table.ofList entries) :=
  ⟨Table.sorted_ofList entries, nonempty, fun name => by rw [Table.get?_ofList_eq_none_iff, keys]⟩

theorem HasColumns.exists_ne_none {names : List String} {row : Counters}
    (has : HasColumns names row) : ∃ name, row.get? name ≠ none := by
  obtain ⟨name, member⟩ := List.exists_mem_of_ne_nil _ has.nonempty
  exact ⟨name, fun none_ => (has.absent name).mp none_ member⟩

/-- The tables are in order, and all entities have the same fields. -/
structure Good (columns : FieldKind → List String) (v : View) : Prop where
  entities : ∀ kind, (v.rows kind).Sorted
  rows : ∀ kind entity row, (v.rows kind).get? entity = some row → HasColumns (columns kind) row
  fields : ∀ kind, (v.fields kind).Sorted

variable {columns : FieldKind → List String} {v w : View}

/-- Entities are found by their fields. -/
theorem Good.rows_eq (good : v.Good columns) (good' : w.Good columns) {kind : FieldKind}
    (same : ∀ entity name, ((v.rows kind).get? entity).bind (Table.get? · name) =
      ((w.rows kind).get? entity).bind (Table.get? · name)) : v.rows kind = w.rows kind := by
  refine (good.entities kind).ext (good'.entities kind) fun entity => ?_
  have same := same entity
  cases here : (v.rows kind).get? entity with
  | none =>
      cases there : (w.rows kind).get? entity with
      | none => rfl
      | some row =>
          obtain ⟨name, found⟩ := (good'.rows kind entity row there).exists_ne_none
          rw [here, there] at same
          exact absurd (same name).symm found
  | some row =>
      have has := good.rows kind entity row here
      cases there : (w.rows kind).get? entity with
      | none =>
          obtain ⟨name, found⟩ := has.exists_ne_none
          rw [here, there] at same
          exact absurd (same name) found
      | some row' =>
          rw [here, there] at same
          rw [has.sorted.ext (good'.rows kind entity row' there).sorted same]

theorem map_number_injective : Function.Injective (Option.map FieldValue.number) :=
  Option.map_injective fun _ _ same => FieldValue.number.inj same

/-- Views are the same if the same can be found in them. -/
theorem Good.ext (good : v.Good columns) (good' : w.Good columns)
    (same : ∀ p, v.look p = w.look p) : v = w := by
  have rows (kind : FieldKind) : v.rows kind = w.rows kind :=
    good.rows_eq good' fun entity name => map_number_injective (same (.field (some entity) kind name))
  have fields (kind : FieldKind) : v.fields kind = w.fields kind :=
    (good.fields kind).ext (good'.fields kind) fun name =>
      map_number_injective (same (.field none kind name))
  have label : v.label = w.label :=
    Option.map_injective (fun _ _ same => FieldValue.text.inj same) (same .label)
  obtain ⟨entityCounters, entityGauges, counters, gauges, name⟩ := v
  obtain ⟨_, _, _, _, _⟩ := w
  cases rows .counter
  cases rows .gauge
  cases fields .counter
  cases fields .gauge
  cases label
  rfl

/-! ### What an assignment does -/

/-- A view has become another one by these assignments, and by nothing else. -/
def Extends (columns : FieldKind → List String) (v : View) (given : List Assignment) (w : View) :
    Prop :=
  v.Good columns → w.Good columns ∧ ∀ p, w.look p = (last given p).or (v.look p)

theorem extends_nil (columns : FieldKind → List String) (v : View) : Extends columns v [] v :=
  fun good => ⟨good, fun _ => rfl⟩

theorem Extends.trans {u : View} {given later : List Assignment}
    (first : Extends columns u given v) (second : Extends columns v later w) :
    Extends columns u (given ++ later) w := by
  intro good
  obtain ⟨good, looked⟩ := first good
  obtain ⟨good, looked'⟩ := second good
  refine ⟨good, fun p => ?_⟩
  rw [looked', looked, last_append, Option.or_assoc]

theorem extends_setField (columns : FieldKind → List String) (v : View) (kind : FieldKind)
    (name : String) (value : Float) :
    Extends columns v (Assignment.fields none kind [(name, value)]) (v.setField kind name value) := by
  intro good
  refine ⟨⟨?_, ?_, ?_⟩, ?_⟩
  · intro k
    rw [rows_setField]
    exact good.entities k
  · intro k
    rw [rows_setField]
    exact good.rows k
  · intro k
    rw [fields_setField]
    split
    · exact (good.fields kind).insert name value
    · exact good.fields k
  · intro p
    match p with
    | .label =>
        rw [last_fields_of_ne (by rintro _ ⟨⟩), Option.none_or, look, label_setField]
        rfl
    | .field (some entity) k name' =>
        rw [last_fields_of_ne (by rintro _ ⟨⟩), Option.none_or, look, rows_setField]
        rfl
    | .field none k name' =>
        rw [look, fields_setField, look]
        by_cases here : k = kind
        · subst here
          rw [if_pos rfl, last_fields, ← Option.map_or, Table.get?_ofList_eq_last,
            List.reverse_singleton, Table.get?_insert, Table.get?_cons]
          split
          · rfl
          · rfl
        · rw [if_neg here, last_fields_of_ne, Option.none_or]
          rintro _ ⟨⟩
          exact here rfl

theorem extends_setRow (columns : FieldKind → List String) (v : View) (kind : FieldKind)
    (entity : String) {entries : List (String × Float)} (nonempty : columns kind ≠ [])
    (keys : Table.keys entries = columns kind) :
    Extends columns v (Assignment.fields (some entity) kind entries)
      (v.setRow kind entity (Table.ofList entries)) := by
  intro good
  have row := hasColumns_ofList nonempty keys
  refine ⟨⟨?_, ?_, ?_⟩, ?_⟩
  · intro k
    rw [rows_setRow]
    split
    · exact (good.entities kind).insert entity _
    · exact good.entities k
  · intro k entity' row' found
    rw [rows_setRow] at found
    split at found
    · next same =>
        subst same
        rw [Table.get?_insert] at found
        split at found
        · cases found
          exact row
        · exact good.rows k entity' row' found
    · exact good.rows k entity' row' found
  · intro k
    rw [fields_setRow]
    exact good.fields k
  · intro p
    match p with
    | .label =>
        rw [last_fields_of_ne (by rintro _ ⟨⟩), Option.none_or, look, label_setRow]
        rfl
    | .field none k name =>
        rw [last_fields_of_ne (by rintro _ ⟨⟩), Option.none_or, look, fields_setRow]
        rfl
    | .field (some entity') k name =>
        rw [look, rows_setRow, look]
        by_cases here : k = kind ∧ entity' = entity
        · obtain ⟨rfl, rfl⟩ := here
          rw [if_pos rfl, last_fields, ← Option.map_or, Table.get?_insert, if_pos rfl,
            Option.bind_some]
          cases found : (Table.ofList entries).get? name with
          | some x => rfl
          | none =>
              -- A column that the new row does not have was not in the old one either.
              have absent := (row.absent name).mp found
              rw [Option.none_or]
              cases old : (v.rows k).get? entity' with
              | none => rfl
              | some oldRow =>
                  rw [Option.bind_some, ((good.rows k entity' oldRow old).absent name).mpr absent]
        · rw [last_fields_of_ne, Option.none_or]
          · split
            · next same =>
                subst same
                rw [Table.get?_insert, if_neg fun same => here ⟨rfl, same⟩]
            · rfl
          · rintro _ ⟨⟩
            exact here ⟨rfl, rfl⟩

theorem extends_setLabel (columns : FieldKind → List String) (v : View) (text : String) :
    Extends columns v [(.label, .text text)] (v.setLabel text) := by
  intro good
  refine ⟨⟨good.entities, good.rows, good.fields⟩, fun p => ?_⟩
  rw [last_cons, last_nil, Option.none_or]
  cases p with
  | field entity kind name =>
      rw [if_neg Place.noConfusion]
      cases entity with
      | none => rfl
      | some entity => rfl
  | label => rfl

end View

/-! ### Reading line by line -/

namespace LineByLine

open Assignment

variable {R : Type} {ofText : List Char → R} {view : R → View} {given : List Char → List Assignment}

/-- What the lines of a text say of a place last. -/
def lastIn (given : List Char → List Assignment) (text : List Char) (p : Place) :
    Option FieldValue :=
  last ((Text.lines text).flatMap given) p

/-- A line says something of a place. -/
def fills (given : List Char → List Assignment) (p : Place) (line : List Char) : Bool :=
  (given line).any (·.1 == p)

/-- A line says something at all. -/
def isKnown (given : List Char → List Assignment) (line : List Char) : Bool :=
  !(given line).isEmpty

/-- A line harms nothing but its own places, where `given` is what a line says. -/
structure Reads (ofText : List Char → R) (view : R → View)
    (given : List Char → List Assignment) : Prop where
  /-- What follows on whole lines counts where it says something. -/
  appended : ∀ a b, Text.Ended a → ∀ p,
    (view (ofText (a ++ b))).look p = (lastIn given b p).or ((view (ofText a)).look p)
  /-- Lines that say nothing may stand anywhere. -/
  skips : ∀ text text', (Text.lines text).filter (isKnown given) =
    (Text.lines text').filter (isKnown given) → ofText text = ofText text'
  /-- Only the order of lines that share a place matters. -/
  reorders : ∀ text text', (∀ p, (Text.lines text).filter (fills given p) =
    (Text.lines text').filter (fills given p)) → ofText text = ofText text'
  /-- Lines do not matter if later ones fill all their places. -/
  overwrites : ∀ a earlier b, Text.Ended a → Text.Ended earlier →
    (∀ p, (∃ line ∈ Text.lines earlier, fills given p line) →
      ∃ line ∈ Text.lines b, fills given p line) →
    ofText (a ++ earlier ++ b) = ofText (a ++ b)

theorem lastIn_eq_none_iff {text : List Char} {p : Place} :
    lastIn given text p = none ↔ ¬∃ line ∈ Text.lines text, fills given p line := by
  rw [lastIn, last_eq_none_iff]
  constructor
  · rintro none_ ⟨line, member, filled⟩
    obtain ⟨e, said, here⟩ := List.any_eq_true.mp filled
    exact none_ e (List.mem_flatMap.mpr ⟨line, member, said⟩) (beq_iff_eq.mp here)
  · intro silent e member here
    obtain ⟨line, member, said⟩ := List.mem_flatMap.mp member
    exact silent ⟨line, member, List.any_eq_true.mpr ⟨e, said, beq_iff_eq.mpr here⟩⟩

theorem lastIn_append {a : List Char} (ended : Text.Ended a) (b : List Char) (p : Place) :
    lastIn given (a ++ b) p = (lastIn given b p).or (lastIn given a p) := by
  rw [lastIn, ended.lines_append, List.flatMap_append, last_append]
  rfl

/-- Only the lines matter that say something of the place. -/
theorem last_flatMap_filter (lines : List (List Char)) (p : Place) :
    last ((lines.filter (fills given p)).flatMap given) p = last (lines.flatMap given) p := by
  induction lines with
  | nil => rfl
  | cons line lines ih =>
      rw [List.flatMap_cons, last_append, ← ih, List.filter_cons]
      split
      · rw [List.flatMap_cons, last_append]
      · next silent =>
          have none_ : last (given line) p = none := last_eq_none_iff.mpr fun e said here =>
            silent (List.any_eq_true.mpr ⟨e, said, beq_iff_eq.mpr here⟩)
          rw [none_, Option.or_none]

/-- A parser that adds line by line what the line says. -/
structure Adds (addLine : R → List Char → R) (start : R) (view : R → View)
    (given : List Char → List Assignment) (columns : FieldKind → List String) : Prop where
  start : (view start).Good columns
  step : ∀ r line, View.Extends columns (view r) (given line) (view (addLine r line))
  injective : Function.Injective view

namespace Adds

variable {addLine : R → List Char → R} {start : R} {columns : FieldKind → List String}

theorem extends_foldl (adds : Adds addLine start view given columns) (r : R)
    (lines : List (List Char)) :
    View.Extends columns (view r) (lines.flatMap given) (view (lines.foldl addLine r)) := by
  induction lines generalizing r with
  | nil => exact View.extends_nil columns (view r)
  | cons line lines ih => exact (adds.step r line).trans (ih (addLine r line))

variable (adds : Adds addLine start view given columns)
  (reads : ∀ text, ofText text = (Text.lines text).foldl addLine start)

include adds reads

theorem look_ofText (text : List Char) (p : Place) :
    (view (ofText text)).look p = (lastIn given text p).or ((view start).look p) := by
  rw [reads]
  exact (adds.extends_foldl start (Text.lines text) adds.start).2 p

/-- What the lines say last is all that matters. -/
theorem ofText_eq {text text' : List Char}
    (same : ∀ p, lastIn given text p = lastIn given text' p) : ofText text = ofText text' := by
  have good (text : List Char) : (view (ofText text)).Good columns := by
    rw [reads]
    exact (adds.extends_foldl start (Text.lines text) adds.start).1
  refine adds.injective ((good text).ext (good text') fun p => ?_)
  rw [adds.look_ofText reads, adds.look_ofText reads, same]

theorem ofText_eq_of_filter {text text' : List Char}
    (same : ∀ p, (Text.lines text).filter (fills given p) =
      (Text.lines text').filter (fills given p)) : ofText text = ofText text' := by
  refine adds.ofText_eq reads fun p => ?_
  rw [lastIn, lastIn, ← last_flatMap_filter, same, last_flatMap_filter]

theorem reads_of_adds : Reads ofText view given := by
  refine ⟨?_, ?_, fun _ _ => adds.ofText_eq_of_filter reads, ?_⟩
  · intro a b ended p
    rw [adds.look_ofText reads, adds.look_ofText reads, lastIn_append ended, Option.or_assoc]
  · intro text text' same
    refine adds.ofText_eq_of_filter reads fun p => ?_
    have known (lines : List (List Char)) :
        lines.filter (fills given p) = (lines.filter (isKnown given)).filter (fills given p) := by
      rw [List.filter_filter]
      refine List.filter_congr fun line _ => ?_
      unfold fills isKnown
      cases given line with
      | nil => rfl
      | cons e rest => exact (Bool.and_true _).symm
    rw [known, same, ← known]
  · intro a earlier b ended ended' later
    refine adds.ofText_eq reads fun p => ?_
    rw [List.append_assoc, lastIn_append ended, lastIn_append ended', lastIn_append ended]
    cases said : lastIn given b p with
    | some x => rfl
    | none =>
        have silent := mt (later p) (lastIn_eq_none_iff.mp said)
        rw [lastIn_eq_none_iff.mpr silent]
        rfl

end Adds

end LineByLine

end Hostwatch
