import Hostwatch.Table
import Mathlib.Data.List.Perm.Basic
import Mathlib.Data.List.Sort
import Mathlib.Data.Option.NAry

/-!
# Tables by their look-ups

A table in order is determined by what can be found in it. So it does not matter in which order
entries with different keys are set, and setting the entries of a table gives the table back.
-/

namespace Hostwatch.Table

variable {α β : Type _} {t u : Table α} {entries : List (String × α)}

/-- Tables in order are the same if the same can be found in them. -/
theorem Sorted.ext (sorted : t.Sorted) (sorted' : u.Sorted)
    (same : ∀ key, t.get? key = u.get? key) : t = u := by
  have : Std.Irrefl fun a b : String × α => a.1 < b.1 := ⟨fun _ => Std.lt_irrefl⟩
  have : Std.Antisymm fun a b : String × α => a.1 < b.1 :=
    ⟨fun _ _ less more => absurd (Std.lt_trans less more) Std.lt_irrefl⟩
  refine List.Pairwise.eq_of_mem_iff sorted sorted' ?_
  intro entry
  rw [sorted.mem_iff, sorted'.mem_iff, same]

theorem get?_insertAll_of_ne {key : String} (absent : ∀ entry ∈ entries, entry.1 ≠ key) :
    (t.insertAll entries).get? key = t.get? key := by
  induction entries generalizing t with
  | nil => rfl
  | cons entry rest ih =>
      have different : key ≠ entry.1 := Ne.symm (absent entry List.mem_cons_self)
      refine (ih fun other member => absent other (List.mem_cons_of_mem _ member)).trans ?_
      rw [get?_insert, if_neg different]

theorem get?_ofList_cons_self {key : String} {value : α} {rest : List (String × α)}
    (once : ∀ entry ∈ rest, entry.1 ≠ key) :
    (ofList ((key, value) :: rest)).get? key = some value := by
  refine (get?_insertAll_of_ne once).trans ?_
  rw [get?_insert, if_pos rfl]

theorem get?_eq_none {key : String} (absent : key ∉ t.keys) : t.get? key = none := by
  rw [Option.eq_none_iff_forall_ne_some]
  intro value found
  exact absent (List.mem_map_of_mem (mem_of_get? found))

/-- What is found among entries with different keys. -/
theorem get?_insertAll (once : (keys entries).Nodup) (key : String) :
    (t.insertAll entries).get? key = (get? entries key).or (t.get? key) := by
  induction entries generalizing t with
  | nil => rfl
  | cons entry rest ih =>
      obtain ⟨k, v⟩ := entry
      obtain ⟨absent, once⟩ := List.nodup_cons.mp once
      refine (ih once).trans ?_
      rw [get?_cons, get?_insert]
      split
      · next same =>
          subst same
          rw [get?_eq_none absent]
          rfl
      · rfl

theorem get?_eq_some_iff (once : t.keys.Nodup) {key : String} {value : α} :
    t.get? key = some value ↔ (key, value) ∈ t := by
  refine ⟨mem_of_get?, fun member => ?_⟩
  induction t with
  | nil => cases member
  | cons entry rest ih =>
      obtain ⟨k, v⟩ := entry
      obtain ⟨absent, once⟩ := List.nodup_cons.mp once
      rw [get?_cons]
      rcases List.mem_cons.mp member with same | later
      · cases same
        rw [if_pos rfl]
      · have other : key ≠ k := by
          rintro rfl
          exact absent (List.mem_map.mpr ⟨_, later, rfl⟩)
        rw [if_neg other]
        exact ih once later

theorem get?_perm {entries' : List (String × α)} (order : entries.Perm entries')
    (once : (keys entries).Nodup) (key : String) : get? entries key = get? entries' key := by
  have once' : (keys entries').Nodup := (order.map _).nodup once
  refine Option.ext fun value => ?_
  rw [get?_eq_some_iff once, get?_eq_some_iff once', order.mem_iff]

namespace Sorted

theorem nodup (sorted : t.Sorted) : t.keys.Nodup := by
  refine List.pairwise_map.mpr (List.Pairwise.imp ?_ sorted)
  intro a b less same
  rw [same] at less
  exact Std.lt_irrefl less

theorem insertAll (sorted : t.Sorted) (entries : List (String × α)) :
    (t.insertAll entries).Sorted := by
  induction entries generalizing t with
  | nil => exact sorted
  | cons entry rest ih => exact ih (sorted.insert entry.1 entry.2)

/-- The order does not matter in which entries with different keys are set. -/
theorem insertAll_perm (sorted : t.Sorted) {entries' : List (String × α)}
    (order : entries.Perm entries') (once : (keys entries).Nodup) :
    t.insertAll entries = t.insertAll entries' := by
  have once' : (keys entries').Nodup := (order.map _).nodup once
  refine (sorted.insertAll entries).ext (sorted.insertAll entries') fun key => ?_
  rw [get?_insertAll once, get?_insertAll once', get?_perm order once]

end Sorted

theorem sorted_nil : Sorted ([] : Table α) := List.Pairwise.nil

theorem sorted_ofList (entries : List (String × α)) : (ofList entries).Sorted :=
  sorted_nil.insertAll entries

/-- A table is made of its own entries. -/
theorem Sorted.ofList_eq (sorted : t.Sorted) : ofList t = t := by
  refine (sorted_ofList t).ext sorted fun key => ?_
  rw [ofList, get?_insertAll sorted.nodup]
  simp

theorem Sorted.mapValues (sorted : t.Sorted) (f : α → β) : (t.mapValues f).Sorted :=
  List.pairwise_map.mpr sorted

/-! ### Entries that are in two tables -/

/-- What is found among entries that are kept, and changed, for what another table has under their
key. -/
theorem get?_filterMap {γ : Type _} (t : Table α) (other : Table β) (f : β → α → γ)
    (key : String) :
    get? (t.filterMap fun (key, value) => (other.get? key).map fun o => (key, f o value)) key =
      Option.map₂ f (other.get? key) (t.get? key) := by
  induction t with
  | nil =>
      cases other.get? key with
      | none => rfl
      | some o => rfl
  | cons entry rest ih =>
      obtain ⟨k, v⟩ := entry
      rw [List.filterMap_cons]
      dsimp only
      by_cases here : key = k
      · subst here
        cases found : other.get? key with
        | none =>
            rw [found] at ih
            exact ih
        | some o => simp only [Option.map_some, get?_cons, if_true, Option.map₂_some_some]
      · cases found : other.get? k with
        | none => simp only [Option.map_none, get?_cons, if_neg here, ih]
        | some o => simp only [Option.map_some, get?_cons, if_neg here, ih]

/-! ### Values under their own identifiers -/

variable {ident : α → String}

/-- Values are listed in the order of their identifiers. -/
theorem Filed.pairwise_values_lt (filed : t.Filed ident) :
    t.values.Pairwise fun a b => ident a < ident b := by
  refine List.pairwise_map.mpr (filed.sorted.imp_of_mem ?_)
  intro a b first second less
  rwa [filed.own a first, filed.own b second]

/-- The first value with a property is the one with the least identifier. -/
theorem Filed.least_of_find? (filed : t.Filed ident) {good : α → Bool} {value : α}
    (first : t.values.find? good = some value) {key : String} {other : α}
    (found : t.get? key = some other) (also : good other = true) : ident value ≤ key := by
  obtain ⟨-, before, after, split, none_⟩ := List.find?_eq_some_iff_append.mp first
  have order := filed.pairwise_values_lt
  rw [split, List.pairwise_append, List.pairwise_cons] at order
  have member : other ∈ t.values := List.mem_map_of_mem (mem_of_get? found)
  rw [split, List.mem_append, List.mem_cons] at member
  rw [← filed.ident_eq found]
  obtain early | rfl | late := member
  · have refused := none_ other early
    rw [also] at refused
    cases refused
  · exact Std.le_refl _
  · exact Std.le_of_lt (order.2.1.1 other late)

/-- A table has what another one has and some values besides, each under its own identifier, which
was free. -/
structure Gains (ident : α → String) (t u : Table α) (added : List α) : Prop where
  found_iff : ∀ key value, u.get? key = some value ↔
    t.get? key = some value ∨ value ∈ added ∧ ident value = key
  free : ∀ value ∈ added, t.get? (ident value) = none
  distinct : added.Pairwise fun a b => ident a ≠ ident b

namespace Gains

variable {added : List α}

theorem refl (ident : α → String) (t : Table α) : Gains ident t t [] :=
  ⟨fun _ _ => by simp, nofun, .nil⟩

theorem keeps (gains : Gains ident t u added) {key : String} {value : α}
    (found : t.get? key = some value) : u.get? key = some value :=
  (gains.found_iff key value).mpr (.inl found)

theorem ne_none_iff (gains : Gains ident t u added) (key : String) :
    u.get? key ≠ none ↔ t.get? key ≠ none ∨ ∃ value ∈ added, ident value = key := by
  simp only [Option.ne_none_iff_exists', gains.found_iff, exists_or]

/-- What is found under a key that was free has been added. -/
theorem mem_added (gains : Gains ident t u added) {key : String} {value : α}
    (before : t.get? key = none) (found : u.get? key = some value) : value ∈ added := by
  obtain old | ⟨member, -⟩ := (gains.found_iff key value).mp found
  · cases before.symm.trans old
  · exact member

/-- What is free now was free before, and no value has come under it. -/
theorem unused (gains : Gains ident t u added) {key : String} (free : u.get? key = none) :
    t.get? key = none ∧ ∀ value ∈ added, ident value ≠ key := by
  have notTaken := fun taken => (gains.ne_none_iff key).mpr taken free
  refine ⟨?_, fun value member own => notTaken (.inr ⟨value, member, own⟩)⟩
  by_contra taken
  exact notTaken (.inl taken)

theorem trans {v : Table α} {more : List α} (gains : Gains ident t u added)
    (gains' : Gains ident u v more) : Gains ident t v (added ++ more) := by
  refine ⟨fun key value => ?_, ?_, ?_⟩
  · rw [gains'.found_iff, gains.found_iff, List.mem_append, or_and_right, or_assoc]
  · intro value member
    obtain old | new := List.mem_append.mp member
    · exact gains.free value old
    · exact (gains.unused (gains'.free value new)).1
  · refine List.pairwise_append.mpr ⟨gains.distinct, gains'.distinct, fun a old b new => ?_⟩
    exact (gains.unused (gains'.free b new)).2 a old

/-- A value is put in under an identifier that was free. -/
theorem single {value : α} (free : t.get? (ident value) = none) :
    Gains ident t (t.insert (ident value) value) [value] := by
  refine ⟨fun key other => ?_, ?_, List.pairwise_singleton _ _⟩
  · rw [get?_insert, List.mem_singleton]
    split
    · next here =>
        rw [here, free]
        constructor
        · intro same
          cases same
          exact .inr ⟨rfl, rfl⟩
        · rintro (⟨⟨⟩⟩ | ⟨rfl, -⟩)
          rfl
    · next elsewhere =>
        refine ⟨.inl, ?_⟩
        rintro (found | ⟨rfl, same⟩)
        · exact found
        · exact absurd same.symm elsewhere
  · intro other member
    rw [List.mem_singleton.mp member]
    exact free

theorem insert (gains : Gains ident t u added) {value : α} (free : u.get? (ident value) = none) :
    Gains ident t (u.insert (ident value) value) (added ++ [value]) :=
  gains.trans (.single free)

end Gains

/-! ### Tables of entries that are written down -/

theorem get?_ofList (once : (keys entries).Nodup) (key : String) :
    (ofList entries).get? key = get? entries key := by
  rw [ofList, get?_insertAll once, get?_nil, Option.or_none]

theorem mem_ofList (once : (keys entries).Nodup) {entry : String × α} :
    entry ∈ ofList entries ↔ entry ∈ entries := by
  obtain ⟨key, value⟩ := entry
  rw [(sorted_ofList entries).mem_iff, get?_ofList once, get?_eq_some_iff once]

/-- Entries with different keys are all there, once each. -/
theorem ofList_perm (once : (keys entries).Nodup) : (ofList entries).Perm entries :=
  (List.perm_ext_iff_of_nodup (sorted_ofList entries).nodup.of_map once.of_map).mpr
    fun _ => mem_ofList once

theorem get?_append (t u : Table α) (key : String) :
    get? (t ++ u) key = (t.get? key).or (u.get? key) := by
  induction t with
  | nil => rfl
  | cons entry rest ih =>
      obtain ⟨k, v⟩ := entry
      rw [List.cons_append, get?_cons, get?_cons, ih]
      split
      · rfl
      · rfl

theorem get?_eq_none_iff {key : String} : t.get? key = none ↔ key ∉ t.keys := by
  refine ⟨fun none_ listed => ?_, get?_eq_none⟩
  obtain ⟨entry, member, rfl⟩ := List.mem_map.mp listed
  simpa using List.lookup_eq_none_iff.mp none_ entry member

/-- Of entries with equal keys the last one counts. -/
theorem get?_insertAll_eq_last (t : Table α) (entries : List (String × α)) (key : String) :
    (t.insertAll entries).get? key = (get? entries.reverse key).or (t.get? key) := by
  induction entries generalizing t with
  | nil => rfl
  | cons entry rest ih =>
      obtain ⟨k, v⟩ := entry
      refine (ih (t.insert k v)).trans ?_
      rw [get?_insert, List.reverse_cons, get?_append, Option.or_assoc, get?_cons]
      split
      · rfl
      · rfl

theorem get?_ofList_eq_last (entries : List (String × α)) (key : String) :
    (ofList entries).get? key = get? entries.reverse key := by
  rw [ofList, get?_insertAll_eq_last, get?_nil, Option.or_none]

theorem get?_ofList_eq_none_iff {key : String} :
    (ofList entries).get? key = none ↔ key ∉ keys entries := by
  rw [get?_ofList_eq_last, get?_eq_none_iff, keys, keys, List.map_reverse, List.mem_reverse]

/-- An entry that is there if a value is. -/
def ifSome (key : String) (f : β → α) (value : Option β) : Table α :=
  value.toList.map fun v => (key, f v)

theorem mem_ifSome {key : String} {f : β → α} {value : Option β} {entry : String × α} :
    entry ∈ ifSome key f value ↔ ∃ v ∈ value, entry = (key, f v) := by
  simp [ifSome, eq_comm]

theorem get?_ifSome (key other : String) (f : β → α) (value : Option β) :
    (ifSome key f value).get? other = if other = key then value.map f else none := by
  cases value with
  | none => simp [ifSome]
  | some v => simp [ifSome, get?_cons]

theorem keys_ifSome_sublist (key : String) (f : β → α) (value : Option β) :
    (ifSome key f value).keys.Sublist [key] := by
  cases value with
  | none => exact List.nil_sublist _
  | some v => exact List.Sublist.refl _

end Hostwatch.Table
