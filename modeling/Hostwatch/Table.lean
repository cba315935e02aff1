/-!
# Tables

A table maps texts to values. It is kept as the list of its entries, and `insert` keeps the keys in
ascending order, so a table that was built by insertions is listed by key and two such tables with
the same look-ups are the same list.
-/

namespace Hostwatch

/-- Entries by key. -/
abbrev Table (α : Type _) := List (String × α)

namespace Table

variable {α β : Type _}

/-- The value of the first entry with that key. -/
def get? (t : Table α) (key : String) : Option α :=
  List.lookup key t

/-- Sets the value of a key. -/
def insert (t : Table α) (key : String) (value : α) : Table α :=
  match t with
  | [] => [(key, value)]
  | (k, v) :: rest =>
    if key < k then (key, value) :: (k, v) :: rest
    else if key = k then (key, value) :: rest
    else (k, v) :: insert rest key value

/-- Takes a key out. -/
def erase (t : Table α) (key : String) : Table α :=
  t.filter fun entry => entry.1 != key

/-- Sets the entries one after the other, so that of equal keys the last one counts. -/
def insertAll (t : Table α) (entries : List (String × α)) : Table α :=
  entries.foldl (fun t entry => t.insert entry.1 entry.2) t

/-- The table of the entries; of equal keys the last one counts. -/
def ofList (entries : List (String × α)) : Table α :=
  insertAll [] entries

def keys (t : Table α) : List String :=
  t.map (·.1)

def values (t : Table α) : List α :=
  t.map (·.2)

/-- Changes every value and keeps the keys. -/
def mapValues (f : α → β) (t : Table α) : Table β :=
  t.map fun entry => (entry.1, f entry.2)

@[simp] theorem get?_nil (key : String) : get? ([] : Table α) key = none := rfl

theorem get?_cons (k : String) (v : α) (t : Table α) (key : String) :
    get? ((k, v) :: t) key = if key = k then some v else get? t key := by
  rw [get?, List.lookup_cons]
  by_cases h : key = k
  · rw [if_pos h, beq_iff_eq.mpr h]
  · rw [if_neg h, beq_eq_false_iff_ne.mpr h]
    rfl

@[simp] theorem get?_insert (t : Table α) (key other : String) (value : α) :
    (t.insert key value).get? other = if other = key then some value else t.get? other := by
  induction t with
  | nil => simp [insert, get?_cons]
  | cons entry rest ih =>
    obtain ⟨k, v⟩ := entry
    unfold insert
    split
    · simp [get?_cons]
    · split
      · next h => subst h; simp only [get?_cons]; split <;> rfl
      · next h =>
        simp only [get?_cons, ih]
        split
        · next ho =>
          subst ho
          rw [if_neg (Ne.symm h)]
        · rfl

@[simp] theorem get?_erase (t : Table α) (key other : String) :
    (t.erase key).get? other = if other = key then none else t.get? other := by
  induction t with
  | nil => simp [erase]
  | cons entry rest ih =>
    obtain ⟨k, v⟩ := entry
    unfold erase at ih ⊢
    by_cases h : k = key
    · subst h
      simp only [List.filter_cons, bne_self_eq_false, Bool.false_eq_true, if_false, ih, get?_cons]
      split <;> rfl
    · simp only [List.filter_cons, bne_iff_ne, ne_eq, h, not_false_eq_true, if_true, ih, get?_cons]
      split
      · next ho =>
        subst ho
        rw [if_neg h]
      · rfl

/-- What is found under a key is an entry. -/
theorem mem_of_get? {t : Table α} {key : String} {value : α} (h : t.get? key = some value) :
    (key, value) ∈ t := by
  induction t with
  | nil => simp at h
  | cons entry rest ih =>
    obtain ⟨k, v⟩ := entry
    rw [get?_cons] at h
    split at h
    · next hk =>
      subst hk
      rw [Option.some.inj h]
      exact List.mem_cons_self
    · exact List.mem_cons_of_mem _ (ih h)

theorem mem_insert {t : Table α} {key : String} {value : α} {entry : String × α}
    (h : entry ∈ t.insert key value) : entry = (key, value) ∨ entry ∈ t := by
  induction t with
  | nil => exact .inl (List.mem_singleton.mp h)
  | cons head rest ih =>
    obtain ⟨k, v⟩ := head
    unfold insert at h
    split at h
    · exact List.mem_cons.mp h
    · split at h
      · exact (List.mem_cons.mp h).imp_right (List.mem_cons_of_mem _)
      · rcases List.mem_cons.mp h with rfl | tail
        · exact .inr List.mem_cons_self
        · exact (ih tail).imp_right (List.mem_cons_of_mem _)

/-! ### Tables in order -/

/-- Every key is less than the keys after it, so no key comes twice. -/
def Sorted (t : Table α) : Prop :=
  t.Pairwise fun a b => a.1 < b.1

theorem Sorted.filter {t : Table α} (h : t.Sorted) (keep : String × α → Bool) :
    Sorted (List.filter keep t) :=
  List.Pairwise.filter keep h

theorem Sorted.insert {t : Table α} (h : t.Sorted) (key : String) (value : α) :
    (t.insert key value).Sorted := by
  induction t with
  | nil => exact List.pairwise_singleton _ _
  | cons entry rest ih =>
    obtain ⟨k, v⟩ := entry
    obtain ⟨below, tail⟩ := List.pairwise_cons.mp h
    unfold Table.insert
    split
    · next less =>
      refine List.pairwise_cons.mpr ⟨?_, h⟩
      intro other member
      rcases List.mem_cons.mp member with rfl | member
      · exact less
      · exact Std.lt_trans less (below other member)
    · next notLess =>
      split
      · next same =>
        subst same
        exact List.pairwise_cons.mpr ⟨below, tail⟩
      · next different =>
        refine List.pairwise_cons.mpr ⟨?_, ih tail⟩
        intro other member
        rcases mem_insert member with rfl | member
        · exact Std.lt_of_le_of_ne (Std.not_lt.mp notLess) (Ne.symm different)
        · exact below other member

/-- In a table in order, the entries are what can be found. -/
theorem Sorted.mem_iff {t : Table α} (h : t.Sorted) {key : String} {value : α} :
    (key, value) ∈ t ↔ t.get? key = some value := by
  refine ⟨?_, mem_of_get?⟩
  intro member
  induction t with
  | nil => simp at member
  | cons entry rest ih =>
    obtain ⟨k, v⟩ := entry
    obtain ⟨below, tail⟩ := List.pairwise_cons.mp h
    rw [get?_cons]
    rcases List.mem_cons.mp member with same | member
    · cases same
      rw [if_pos rfl]
    · have less : k < key := below _ member
      rw [if_neg (fun same => Std.lt_irrefl (same ▸ less))]
      exact ih tail member

/-- Taking entries out by their values hides nothing else. -/
theorem Sorted.get?_filter {t : Table α} (h : t.Sorted) (keep : α → Bool) (key : String) :
    get? (t.filter fun entry => keep entry.2) key = (t.get? key).filter keep := by
  apply Option.ext
  intro value
  rw [← (h.filter _).mem_iff, List.mem_filter, h.mem_iff, Option.filter_eq_some_iff]

/-- Nothing is found under a key that is less than all others. -/
theorem Sorted.get?_eq_none {t : Table α} {k key : String} {v : α} (h : Sorted ((k, v) :: t))
    (less : key < k) : get? ((k, v) :: t) key = none := by
  rw [Option.eq_none_iff_forall_ne_some]
  intro value found
  rcases List.mem_cons.mp (mem_of_get? found) with same | member
  · cases same
    exact Std.lt_irrefl less
  · exact Std.lt_irrefl (Std.lt_trans less ((List.pairwise_cons.mp h).1 _ member))

/-- An entry that is set takes the place of the one that was there. -/
theorem Sorted.countP_insert {t : Table α} (h : t.Sorted) (f : α → Bool) (key : String)
    (value : α) :
    (t.insert key value).countP (f ·.2) + (t.get? key).toList.countP f =
      t.countP (f ·.2) + [value].countP f := by
  induction t with
  | nil => simp [Table.insert, List.countP_cons]
  | cons entry rest ih =>
    obtain ⟨k, v⟩ := entry
    have tail := ih (List.pairwise_cons.mp h).2
    unfold Table.insert
    split
    · next less =>
      rw [h.get?_eq_none less]
      simp [List.countP_cons]
    · split
      · next same =>
        subst same
        rw [get?_cons, if_pos rfl]
        simp only [List.countP_cons, Option.toList_some, List.countP_nil]
        omega
      · next different =>
        rw [get?_cons, if_neg different]
        simp only [List.countP_cons] at tail ⊢
        omega

/-- An entry that does not count may be taken out. -/
theorem Sorted.countP_erase {t : Table α} (h : t.Sorted) (f : α → Bool) (key : String)
    (without : ∀ value, t.get? key = some value → f value = false) :
    (t.erase key).countP (f ·.2) = t.countP (f ·.2) := by
  unfold erase
  rw [List.countP_filter]
  apply List.countP_congr
  rintro ⟨k, v⟩ member
  by_cases here : k = key
  · subst here
    simp [without v (h.mem_iff.mp member)]
  · simp [here]

/-- Every value is filed under its own identifier, and the table is in order. -/
structure Filed (ident : α → String) (t : Table α) : Prop where
  sorted : t.Sorted
  own : ∀ entry ∈ t, ident entry.2 = entry.1

namespace Filed

variable {ident : α → String} {t : Table α}

theorem empty : Filed ident ([] : Table α) :=
  ⟨List.Pairwise.nil, fun _ member => absurd member List.not_mem_nil⟩

theorem insert (h : t.Filed ident) (value : α) : (t.insert (ident value) value).Filed ident := by
  refine ⟨h.sorted.insert _ _, ?_⟩
  intro entry member
  rcases mem_insert member with rfl | member
  · rfl
  · exact h.own entry member

theorem filter (h : t.Filed ident) (keep : String × α → Bool) : Filed ident (List.filter keep t) :=
  ⟨h.sorted.filter keep, fun entry member => h.own entry (List.mem_filter.mp member).1⟩

/-- What is found under a key has that key as its identifier. -/
theorem ident_eq (h : t.Filed ident) {key : String} {value : α} (found : t.get? key = some value) :
    ident value = key :=
  h.own _ (mem_of_get? found)

/-- No two values have the same identifier. -/
theorem pairwise_values (h : t.Filed ident) : t.values.Pairwise fun a b => ident a ≠ ident b := by
  refine List.pairwise_map.mpr (h.sorted.imp_of_mem ?_)
  intro a b first second less same
  rw [h.own a first, h.own b second] at same
  exact Std.lt_irrefl (same ▸ less)

theorem get?_of_mem_values (h : t.Filed ident) {value : α} (member : value ∈ t.values) :
    t.get? (ident value) = some value := by
  obtain ⟨entry, filed, rfl⟩ := List.mem_map.mp member
  rw [h.own _ filed]
  exact h.sorted.mem_iff.mp filed

/-- A value is found by its identifier among all values. -/
theorem find?_values (h : t.Filed ident) (key : String) :
    t.values.find? (ident · == key) = t.get? key := by
  cases found : t.get? key with
  | none =>
      refine List.find?_eq_none.mpr fun value member same => ?_
      rw [← beq_iff_eq.mp same, h.get?_of_mem_values member] at found
      cases found
  | some value =>
      have present : (t.values.find? (ident · == key)).isSome = true := by
        refine List.find?_isSome.mpr ⟨value, List.mem_map.mpr ⟨_, mem_of_get? found, rfl⟩, ?_⟩
        exact beq_iff_eq.mpr (h.ident_eq found)
      obtain ⟨other, first⟩ := Option.isSome_iff_exists.mp present
      have same : ident other = key := by simpa using List.find?_some first
      have stored := h.get?_of_mem_values (List.mem_of_find?_eq_some first)
      rw [same, found] at stored
      rw [first, stored]

end Filed

end Table

end Hostwatch
