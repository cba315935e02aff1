import Hostwatch.Ssh.Pool
import Mathlib.Data.List.Nodup

/-!
# What the functions of the pool do

For each function of the pool, what it leaves under each key and what it returns. Later proofs go by
these and do not open the functions. Besides, the sessions of the pool are counted: an entry that is
set takes the place of the one before it, and a look for idle sessions splits the sessions into
those that it takes out and those that stay.
-/

namespace Hostwatch.Ssh.Pool

variable {C : Type} {p : Pool C} {key other : Key} {e : Entry C} {client : C} {now : Nat}

/-- The session for a key. -/
def session? (p : Pool C) (key : Key) : Option C :=
  (p.get? key).bind (·.client?)

theorem session?_eq_some_iff :
    p.session? key = some client ↔ ∃ e, p.get? key = some e ∧ e.client? = some client :=
  Option.bind_eq_some_iff

theorem session?_eq_none (found : p.get? key = some e) (absent : p.session? key = none) :
    e.client? = none := by
  simpa [session?, found] using absent

@[simp] theorem session?_set (p : Pool C) (key other : Key) (e : Entry C) :
    (p.set key e).session? other = if other = key then e.client? else p.session? other := by
  unfold session?
  rw [get?_set]
  split
  · rfl
  · rfl

/-- An entry that is set with the session that was there brings none and takes none away. -/
theorem session?_set_same (found : p.get? key = some e) (new : Entry C)
    (same : new.client? = e.client?) (other : Key) :
    (p.set key new).session? other = p.session? other := by
  rw [session?_set]
  split
  · next here =>
      subst here
      rw [session?, found, Option.bind_some, same]
  · rfl

theorem session?_take (found : p.get? key = some e) (now : Nat) (other : Key) :
    (p.set key (e.take now)).session? other = p.session? other :=
  session?_set_same found (e.take now) rfl other

/-- The number of the session that was handed in last for a key. -/
def number (p : Pool C) (key : Key) : Nat :=
  ((p.get? key).map (·.generation)).getD 0

theorem number_of_get? (found : p.get? key = some e) : p.number key = e.generation := by
  rw [number, found, Option.map_some, Option.getD_some]

@[simp] theorem number_set (p : Pool C) (key other : Key) (e : Entry C) :
    (p.set key e).number other = if other = key then e.generation else p.number other := by
  unfold number
  rw [get?_set]
  split
  · rfl
  · rfl

theorem number_set_same (found : p.get? key = some e) (new : Entry C)
    (same : new.generation = e.generation) (other : Key) :
    (p.set key new).number other = p.number other := by
  rw [number_set]
  split
  · next here =>
      subst here
      rw [number_of_get? found, same]
  · rfl

theorem number_take (found : p.get? key = some e) (now : Nat) (other : Key) :
    (p.set key (e.take now)).number other = p.number other :=
  number_set_same found (e.take now) rfl other

theorem number_getD (p : Pool C) (key : Key) :
    ((p.get? key).getD {}).generation = p.number key := by
  cases found : p.get? key with
  | none => simp [number, found]
  | some e => simp [number, found]

/-- To set the entry that is there changes nothing. -/
theorem set_self (found : p.get? key = some e) : p.set key e = p := by
  have same (entries : List (Key × Entry C)) (found : entries.lookup key = some e) :
      put entries key e = entries := by
    induction entries with
    | nil => cases found
    | cons head rest ih =>
        obtain ⟨k, old⟩ := head
        rw [lookup_cons] at found
        rw [put]
        by_cases here : k = key
        · subst here
          rw [if_pos rfl] at found ⊢
          rw [Option.some.inj found]
        · rw [if_neg (Ne.symm here)] at found
          rw [if_neg here, ih found]
  unfold set
  rw [same p.entries found]

/-! ### Taking leases -/

theorem reuse?_of_session (found : p.get? key = some e) (there : e.client? = some client) :
    p.reuse? key now =
      some ({ key, client, generation := e.generation }, p.set key (e.take now)) := by
  simp [reuse?, found, there]

theorem reuse?_of_none (absent : p.session? key = none) : p.reuse? key now = none := by
  cases found : p.get? key with
  | none => simp [reuse?, found]
  | some e => simp [reuse?, found, session?_eq_none found absent]

/-- The entry of a key after a new session has been handed in for it. -/
def Entry.renewed (e : Entry C) (fresh : C) : Entry C :=
  { e with client? := some fresh, generation := e.generation + 1 }

theorem store_of_none {fresh : C} (absent : p.session? key = none) :
    p.store key fresh now =
      ({ key, client := fresh, generation := ((p.get? key).getD {}).generation + 1 }, none,
        p.set key ((((p.get? key).getD {}).renewed fresh).take now)) := by
  have gone : ((p.get? key).getD {}).client? = none := by
    cases found : p.get? key with
    | none => rfl
    | some e => exact session?_eq_none found absent
  unfold store
  simp only [gone]
  rfl

theorem store_of_session {fresh : C} (found : p.get? key = some e)
    (there : e.client? = some client) :
    p.store key fresh now =
      ({ key, client, generation := e.generation }, some fresh, p.set key (e.take now)) := by
  unfold store
  simp only [found, Option.getD_some, there]

/-! ### Giving leases back and taking sessions out -/

/-- The pool after a lease on a key was given back. -/
def giveBack (p : Pool C) (key : Key) (now : Nat) : Pool C :=
  match p.get? key with
  | none => p
  | some e => p.set key (e.giveBack now)

theorem giveBack_of_get? (found : p.get? key = some e) :
    p.giveBack key now = p.set key (e.giveBack now) := by
  unfold giveBack
  rw [found]

@[simp] theorem idleTimeout_giveBack (p : Pool C) (key : Key) (now : Nat) :
    (p.giveBack key now).idleTimeout = p.idleTimeout := by
  unfold giveBack
  split
  · rfl
  · rfl

@[simp] theorem session?_giveBack (p : Pool C) (key other : Key) (now : Nat) :
    (p.giveBack key now).session? other = p.session? other := by
  cases found : p.get? key with
  | none => simp [giveBack, found]
  | some e =>
      rw [giveBack_of_get? found]
      exact session?_set_same found (e.giveBack now) rfl other

@[simp] theorem number_giveBack (p : Pool C) (key other : Key) (now : Nat) :
    (p.giveBack key now).number other = p.number other := by
  cases found : p.get? key with
  | none => simp [giveBack, found]
  | some e =>
      rw [giveBack_of_get? found]
      exact number_set_same found (e.giveBack now) rfl other

theorem release_of_released {lease : Lease C} (again : lease.released = true) :
    p.release lease now = (lease, p) := by
  unfold release
  rw [if_pos again]

theorem release_of_held {lease : Lease C} (held : lease.released = false) :
    p.release lease now = ({ lease with released := true }, p.giveBack lease.key now) := by
  unfold release
  rw [if_neg (by simp [held])]
  rfl

theorem evict_of_get? {lease : Lease C} (found : p.get? lease.key = some e) :
    p.evict lease =
      if e.generation = lease.generation then
        (e.client?, p.set lease.key { e with client? := none })
      else (none, p) := by
  unfold evict
  rw [found]

/-- The session that is there is taken out if its number is that of the lease. Otherwise nothing
happens. -/
theorem evict_cases (p : Pool C) (lease : Lease C) :
    (∃ e client, p.get? lease.key = some e ∧ e.generation = lease.generation ∧
      e.client? = some client ∧
      p.evict lease = (some client, p.set lease.key { e with client? := none })) ∨
    ((∀ e, p.get? lease.key = some e → e.generation = lease.generation → e.client? = none) ∧
      p.evict lease = (none, p)) := by
  cases found : p.get? lease.key with
  | none =>
      refine .inr ⟨nofun, ?_⟩
      unfold evict
      rw [found]
  | some e =>
      rw [evict_of_get? found]
      by_cases same : e.generation = lease.generation
      · rw [if_pos same]
        cases there : e.client? with
        | some client => exact .inl ⟨e, client, rfl, same, there, rfl⟩
        | none =>
            have cleared : { e with client? := none } = e := by rw [← there]
            rw [cleared, set_self found]
            refine .inr ⟨fun e' found' _ => ?_, rfl⟩
            cases found'
            exact there
      · rw [if_neg same]
        refine .inr ⟨fun e' found' same' => ?_, rfl⟩
        cases found'
        exact absurd same' same

/-! ### Idle sessions -/

@[simp] theorem swept_leases (e : Entry C) (now timeout : Nat) :
    (e.swept now timeout).leases = e.leases := by
  unfold Entry.swept
  split
  · rfl
  · rfl

@[simp] theorem swept_lastUse (e : Entry C) (now timeout : Nat) :
    (e.swept now timeout).lastUse = e.lastUse := by
  unfold Entry.swept
  split
  · rfl
  · rfl

@[simp] theorem swept_generation (e : Entry C) (now timeout : Nat) :
    (e.swept now timeout).generation = e.generation := by
  unfold Entry.swept
  split
  · rfl
  · rfl

/-- The session of an entry is taken out if it is idle, and stays otherwise. -/
theorem swept_cases (e : Entry C) (now timeout : Nat) :
    (e.idle? now timeout = e.client? ∧ (e.swept now timeout).client? = none) ∨
      (e.idle? now timeout = none ∧ e.swept now timeout = e) := by
  unfold Entry.swept
  by_cases idle : e.leases = 0 ∧ timeout < now - e.lastUse
  · have taken : e.idle? now timeout = e.client? := by rw [Entry.idle?, if_pos idle]
    refine .inl ⟨taken, ?_⟩
    rw [taken]
    split
    · rfl
    · next absent => simpa using absent
  · have kept : e.idle? now timeout = none := by rw [Entry.idle?, if_neg idle]
    refine .inr ⟨kept, ?_⟩
    rw [kept]
    rfl

theorem idle?_eq_some_iff {timeout : Nat} :
    e.idle? now timeout = some client ↔
      (e.leases = 0 ∧ timeout < now - e.lastUse) ∧ e.client? = some client := by
  unfold Entry.idle?
  split
  · next idle => simp [idle]
  · next busy => simp [busy]

theorem get?_sweep (p : Pool C) (now : Nat) (key : Key) :
    (p.sweep now).2.get? key = (p.get? key).map (·.swept now p.idleTimeout) := by
  have mapped (entries : List (Key × Entry C)) :
      List.lookup key (entries.map fun entry => (entry.1, entry.2.swept now p.idleTimeout)) =
        (List.lookup key entries).map (·.swept now p.idleTimeout) := by
    induction entries with
    | nil => rfl
    | cons head rest ih =>
        obtain ⟨k, e⟩ := head
        rw [List.map_cons, lookup_cons, lookup_cons, ih]
        split
        · rfl
        · rfl
  exact mapped p.entries

/-- A look for idle sessions brings none. -/
theorem session?_of_sweep (there : (p.sweep now).2.session? key = some client) :
    p.session? key = some client := by
  obtain ⟨e, after, there⟩ := session?_eq_some_iff.mp there
  rw [get?_sweep] at after
  obtain ⟨old, found, rfl⟩ := Option.map_eq_some_iff.mp after
  obtain ⟨-, gone⟩ | ⟨-, same⟩ := swept_cases old now p.idleTimeout
  · rw [gone] at there
    cases there
  · rw [same] at there
    exact session?_eq_some_iff.mpr ⟨old, found, there⟩

@[simp] theorem number_sweep (p : Pool C) (now : Nat) (key : Key) :
    (p.sweep now).2.number key = p.number key := by
  rw [number, number, get?_sweep, Option.map_map]
  simp [Function.comp_def]

/-! ### One entry for each key -/

/-- The keys that the pool knows. -/
def keys (p : Pool C) : List Key :=
  p.entries.map (·.1)

theorem keys_set (p : Pool C) (key : Key) (e : Entry C) :
    (p.set key e).keys = if key ∈ p.keys then p.keys else p.keys ++ [key] := by
  have entry (entries : List (Key × Entry C)) :
      (put entries key e).map (·.1) =
        if key ∈ entries.map (·.1) then entries.map (·.1) else entries.map (·.1) ++ [key] := by
    induction entries with
    | nil => rfl
    | cons head rest ih =>
        obtain ⟨k, old⟩ := head
        rw [put]
        by_cases here : k = key
        · subst here
          simp
        · rw [if_neg here, List.map_cons, ih]
          by_cases later : key ∈ rest.map (·.1)
          · simp [later]
          · simp [later, Ne.symm here]
  exact entry p.entries

theorem keys_set_nodup (once : p.keys.Nodup) (key : Key) (e : Entry C) :
    (p.set key e).keys.Nodup := by
  rw [keys_set]
  split
  · exact once
  · next fresh =>
      refine List.nodup_append.mpr ⟨once, List.nodup_singleton key, ?_⟩
      intro k member k' last same
      rw [List.mem_singleton.mp last] at same
      exact fresh (same ▸ member)

theorem keys_giveBack_nodup (once : p.keys.Nodup) (key : Key) (now : Nat) :
    (p.giveBack key now).keys.Nodup := by
  unfold giveBack
  split
  · exact once
  · exact keys_set_nodup once _ _

theorem keys_sweep (p : Pool C) (now : Nat) : (p.sweep now).2.keys = p.keys := by
  simp [keys, sweep, Function.comp_def]

/-- If each key has one entry, the entries are what is found under the keys. -/
theorem mem_entries_iff (once : p.keys.Nodup) :
    (key, e) ∈ p.entries ↔ p.get? key = some e := by
  have found (entries : List (Key × Entry C)) (once : (entries.map (·.1)).Nodup) :
      (key, e) ∈ entries ↔ entries.lookup key = some e := by
    induction entries with
    | nil => simp
    | cons head rest ih =>
        obtain ⟨k, old⟩ := head
        obtain ⟨fresh, rest_once⟩ := List.nodup_cons.mp once
        rw [lookup_cons, List.mem_cons, ih rest_once]
        by_cases here : key = k
        · subst here
          rw [if_pos rfl]
          have absent : rest.lookup key ≠ some e := fun later =>
            fresh (List.mem_map.mpr ⟨_, (ih rest_once).mpr later, rfl⟩)
          simp [absent, eq_comm]
        · simp [here]
  exact found p.entries once

theorem mem_sweep_iff (once : p.keys.Nodup) :
    client ∈ (p.sweep now).1 ↔
      ∃ key e, p.get? key = some e ∧ e.idle? now p.idleTimeout = some client := by
  simp only [sweep, List.mem_filterMap]
  constructor
  · rintro ⟨⟨key, e⟩, member, idle⟩
    exact ⟨key, e, (mem_entries_iff once).mp member, idle⟩
  · rintro ⟨key, e, found, idle⟩
    exact ⟨(key, e), (mem_entries_iff once).mpr found, idle⟩

/-! ### The sessions of the pool -/

/-- The sessions that are there. -/
def cached (p : Pool C) : List C :=
  p.entries.filterMap (·.2.client?)

theorem mem_cached_iff (once : p.keys.Nodup) :
    client ∈ p.cached ↔ ∃ key, p.session? key = some client := by
  simp only [cached, List.mem_filterMap, session?_eq_some_iff]
  constructor
  · rintro ⟨⟨key, e⟩, member, there⟩
    exact ⟨key, e, (mem_entries_iff once).mp member, there⟩
  · rintro ⟨key, e, found, there⟩
    exact ⟨(key, e), (mem_entries_iff once).mpr found, there⟩

variable [DecidableEq C]

theorem count_filterMap_cons {β : Type} (f : β → Option C) (b : β) (rest : List β) (client : C) :
    ((b :: rest).filterMap f).count client =
      (f b).toList.count client + (rest.filterMap f).count client := by
  cases found : f b with
  | none => simp [found]
  | some other => simp [found, List.count_cons, Nat.add_comm]

/-- The session of an entry that is set takes the place of the one that was there. -/
theorem count_cached_set (p : Pool C) (key : Key) (e : Entry C) (client : C) :
    (p.set key e).cached.count client + (p.session? key).toList.count client =
      p.cached.count client + e.client?.toList.count client := by
  have counted (entries : List (Key × Entry C)) :
      ((put entries key e).filterMap (·.2.client?)).count client +
          ((entries.lookup key).bind (·.client?)).toList.count client =
        (entries.filterMap (·.2.client?)).count client + e.client?.toList.count client := by
    induction entries with
    | nil =>
        rw [put, count_filterMap_cons]
        simp
    | cons head rest ih =>
        obtain ⟨k, old⟩ := head
        rw [put, lookup_cons]
        by_cases here : k = key
        · subst here
          simp only [if_true, count_filterMap_cons, Option.bind_some]
          omega
        · simp only [if_neg here, if_neg (Ne.symm here), count_filterMap_cons]
          omega
  exact counted p.entries

/-- A look for idle sessions loses none. -/
theorem count_cached_sweep (p : Pool C) (now : Nat) (client : C) :
    (p.sweep now).1.count client + (p.sweep now).2.cached.count client = p.cached.count client := by
  have split (entries : List (Key × Entry C)) :
      (entries.filterMap (·.2.idle? now p.idleTimeout)).count client +
          ((entries.map fun entry => (entry.1, entry.2.swept now p.idleTimeout)).filterMap
            (·.2.client?)).count client =
        (entries.filterMap (·.2.client?)).count client := by
    induction entries with
    | nil => rfl
    | cons head rest ih =>
        obtain ⟨k, e⟩ := head
        simp only [List.map_cons, count_filterMap_cons]
        obtain ⟨taken, gone⟩ | ⟨kept, same⟩ := swept_cases e now p.idleTimeout
        · rw [taken, gone, ← ih]
          simp only [Option.toList_none, List.count_nil]
          omega
        · rw [kept, same, ← ih]
          simp only [Option.toList_none, List.count_nil]
          omega
  exact split p.entries

end Hostwatch.Ssh.Pool
