import Hostwatch.Proofs.Ssh.Moves

/-!
# Leases are counted right

A lease is counted on two ways: when a session is found, and when a new one is handed in after a
connect that took place outside the pool. It is given back any number of times, in any order with
the others, and counted off once. The invariant compares what the pool counts with the leases that
are out, and the time of last use that it keeps for a key with what really happened last. So a
session that is closed for being idle is nobody's, and has been so for long enough.
-/

namespace Hostwatch.Ssh.Usage

variable {S C : Type} {u v : Usage S C} {key : Key} {timeout : Nat}

/-- Whether a lease is one on a key and has not been given back. -/
def isOut (key : Key) (c : Pooled S C) : Bool :=
  decide (c.lease.key = key) && !c.lease.released

/-- How many leases on a key have not been given back. -/
def outstanding (u : Usage S C) (key : Key) : Nat :=
  u.leases.countP (isOut key)

/-- When a lease on a key was taken or given back for the last time. -/
def lastUse? (u : Usage S C) (key : Key) : Option Nat :=
  u.uses.lookup key

/-- The pool counts the leases that are out and knows when each key was used last. -/
structure Counted (u : Usage S C) : Prop where
  leases : ∀ key, (u.pool.leases? key).getD 0 = u.outstanding key
  uses : ∀ key, (u.pool.get? key).map (·.lastUse) = u.lastUse? key

theorem counted_start : (start timeout : Usage S C).Counted :=
  ⟨fun _ => rfl, fun _ => rfl⟩

/-- The pool may change in what does not count leases, as long as nobody takes one or gives one
back. -/
theorem Counted.congr (counted : u.Counted)
    (same : ∀ key, (v.pool.get? key).map (fun e => (e.leases, e.lastUse)) =
      (u.pool.get? key).map fun e => (e.leases, e.lastUse))
    (out : ∀ key, v.outstanding key = u.outstanding key) (uses : v.uses = u.uses) :
    v.Counted := by
  constructor
  · intro key
    have count := congrArg (Option.map Prod.fst) (same key)
    simp only [Option.map_map, Function.comp_def] at count
    rw [out, ← counted.leases, Pool.leases?, Pool.leases?, count]
  · intro key
    have last := congrArg (Option.map Prod.snd) (same key)
    simp only [Option.map_map, Function.comp_def] at last
    rw [last, counted.uses, lastUse?, lastUse?, uses]

/-- An entry is set that counts one lease more, and a caller gets that lease. -/
theorem Counted.grant (counted : u.Counted) {e : Pool.Entry C} {lease : Lease C}
    (count : e.leases = (u.pool.leases? lease.key).getD 0 + 1) (last : e.lastUse = u.now)
    (out : lease.released = false) (pool : v.pool = u.pool.set lease.key e)
    (leases : v.leases = u.leases) (uses : v.uses = u.uses) (now : v.now = u.now) :
    (v.grant lease).Counted := by
  constructor
  · intro key
    have before := counted.leases key
    simp only [outstanding, Pool.leases?] at before count ⊢
    simp only [Usage.grant, pool, leases, Pool.get?_set, List.countP_append]
    by_cases here : key = lease.key
    · subst here
      simp [isOut, out, count, before]
    · simp [isOut, here, Ne.symm here, before]
  · intro key
    have before := counted.uses key
    simp only [lastUse?] at before ⊢
    simp only [Usage.grant, pool, uses, now, Pool.get?_set, Pool.lookup_cons]
    by_cases here : key = lease.key
    · simp [here, last]
    · simp [here, before]

/-- What is in the place of a lease counts in its stead. -/
theorem countP_isOut_set {lease : Nat} {c : Pooled S C} (held : u.leases[lease]? = some c)
    (new : Pooled S C) (key : Key) :
    (u.leases.set lease new).countP (isOut key) + (if isOut key c then 1 else 0) =
      u.outstanding key + (if isOut key new then 1 else 0) := by
  obtain ⟨inside, rfl⟩ := List.getElem?_eq_some_iff.mp held
  have counted : (if isOut key u.leases[lease] then 1 else 0) ≤ u.outstanding key := by
    split
    · next out => exact List.countP_pos_iff.mpr ⟨_, List.getElem_mem inside, out⟩
    · exact Nat.zero_le _
  rw [List.countP_set inside]
  unfold outstanding at counted ⊢
  omega

/-- A lease that is given back counts off once, and on its own key. -/
theorem outstanding_returned {lease : Nat} {c : Pooled S C} (held : u.leases[lease]? = some c)
    (out : c.lease.released = false) (key : Key) :
    (u.leases.set lease { lease := { c.lease with released := true } }).countP (isOut key) =
      u.outstanding key - if key = c.lease.key then 1 else 0 := by
  have count := countP_isOut_set held { lease := { c.lease with released := true } } key
  have before : isOut key c = decide (key = c.lease.key) := by simp [isOut, out, eq_comm]
  have after : isOut key ({ lease := { c.lease with released := true } } : Pooled S C) = false := by
    simp [isOut]
  simp only [before, after, decide_eq_true_eq, Bool.false_eq_true, if_false, Nat.add_zero] at count
  exact Nat.eq_sub_of_add_eq count

/-- Of a lease that is out, the pool has counted at least one on its key. -/
theorem Counted.exists_entry (counted : u.Counted) {c : Pooled S C} (member : c ∈ u.leases)
    (out : c.lease.released = false) :
    ∃ e, u.pool.get? c.lease.key = some e ∧ e.leases = u.outstanding c.lease.key ∧ 0 < e.leases := by
  have positive : 0 < u.outstanding c.lease.key :=
    List.countP_pos_iff.mpr ⟨c, member, by simp [isOut, out]⟩
  have count := counted.leases c.lease.key
  rw [Pool.leases?] at count
  cases found : u.pool.get? c.lease.key with
  | none =>
      rw [found] at count
      exact absurd count (Nat.ne_of_lt positive)
  | some e =>
      rw [found, Option.map_some, Option.getD_some] at count
      exact ⟨e, rfl, count, count ▸ positive⟩

theorem Counted.giveBack (counted : u.Counted) {lease : Nat} {c : Pooled S C}
    (held : u.leases[lease]? = some c) (out : c.lease.released = false) :
    Counted { u with
      pool := u.pool.giveBack c.lease.key u.now
      leases := u.leases.set lease { lease := { c.lease with released := true } }
      uses := (c.lease.key, u.now) :: u.uses } := by
  obtain ⟨e, found, count, -⟩ := counted.exists_entry (List.mem_of_getElem? held) out
  constructor
  · intro key
    have before := counted.leases key
    rw [Pool.leases?] at before
    rw [outstanding, outstanding_returned held out, Pool.leases?, Pool.giveBack_of_get? found,
      Pool.get?_set]
    by_cases here : key = c.lease.key
    · simp [here, Pool.Entry.giveBack, count]
    · simp [here, before]
  · intro key
    have before := counted.uses key
    rw [lastUse?] at before
    rw [lastUse?, Pool.giveBack_of_get? found, Pool.get?_set, Pool.lookup_cons]
    by_cases here : key = c.lease.key
    · simp [here, Pool.Entry.giveBack]
    · simp [here, before]

theorem Moves.counted (move : u.Moves v) (counted : u.Counted) : v.Counted := by
  cases move with
  | rests | waits | begins | connects | givesUp | disconnects =>
      exact counted.congr (fun _ => rfl) (fun _ => rfl) rfl
  | reuses found there =>
      refine counted.grant ?_ rfl rfl rfl rfl rfl rfl
      simp [Pool.Entry.take, Pool.leases?, found]
  | comesLate arrived found there =>
      refine counted.grant ?_ rfl rfl rfl rfl rfl rfl
      simp [Pool.Entry.take, Pool.leases?, found]
  | @handsIn _ key fresh _ arrived there same =>
      subst same
      refine counted.grant ?_ rfl rfl rfl rfl rfl rfl
      cases found : u.pool.get? key with
      | none => simp [Pool.Entry.take, Pool.Entry.renewed, Pool.leases?, found]
      | some e => simp [Pool.Entry.take, Pool.Entry.renewed, Pool.leases?, found]
  | @streams lease c stream? held =>
      refine counted.congr (fun _ => rfl) (fun key => ?_) rfl
      exact Nat.add_right_cancel (countP_isOut_set held { c with stream? } key)
  | givesBack held out => exact counted.giveBack held out
  | @evicts lease c e client held found same there =>
      refine counted.congr (fun key => ?_) (fun _ => rfl) rfl
      rw [Pool.get?_set]
      by_cases here : key = c.lease.key
      · simp [here, found]
      · simp [here]
  | sweeps now =>
      refine counted.congr (fun key => ?_) (fun _ => rfl) rfl
      rw [Pool.get?_sweep, Option.map_map]
      simp [Function.comp_def]

/-! ### Any steps in any order -/

theorem run_counted (timeout : Nat) (steps : List (Step S C)) :
    ((start timeout).run steps).Counted :=
  run_induction counted_start (fun _ _ move => move.counted) steps

/-- A session is taken out for being idle if no lease on its key is out and the last use of the key
lies long enough back. -/
theorem Counted.mem_sweep_iff (counted : u.Counted) (once : u.pool.keys.Nodup) {now : Nat}
    {client : C} :
    client ∈ (u.sweep now).1 ↔
      ∃ key last, u.pool.session? key = some client ∧ u.outstanding key = 0 ∧
        u.lastUse? key = some last ∧ last + u.pool.idleTimeout < now := by
  refine (Pool.mem_sweep_iff once).trans (exists_congr fun key => ?_)
  have count := counted.leases key
  have last := counted.uses key
  rw [Pool.leases?] at count
  cases found : u.pool.get? key with
  | none => simp [Pool.session?, found]
  | some e =>
      rw [found, Option.map_some] at count last
      rw [Option.getD_some] at count
      simp only [Option.some.injEq, exists_eq_left', Pool.idle?_eq_some_iff, ← count, ← last,
        Pool.session?, found, Option.bind_some, Nat.lt_sub_iff_add_lt']
      constructor
      · rintro ⟨⟨free, long⟩, there⟩
        exact ⟨e.lastUse, there, free, rfl, long⟩
      · rintro ⟨_, there, free, rfl, long⟩
        exact ⟨⟨free, long⟩, there⟩

/-- Whatever callers do to a pool and in whatever order, it counts on each key exactly the leases
that have been taken and not given back. So there is a lease to count off whenever one is given back
that is out. An attempt that finds no session and cannot connect leaves the pool as it was. And a
look for idle sessions takes out exactly those of the keys that no lease is out on and whose last
use lies more than the timeout back; nobody else being there, it closes just these. -/
theorem leases_are_counted (timeout : Nat) (steps : List (Step S C)) :
    let u := (start timeout).run steps
    (∀ key, (u.pool.leases? key).getD 0 = u.outstanding key) ∧
    (∀ c ∈ u.leases, c.lease.released = false →
      ∃ n, u.pool.leases? c.lease.key = some (n + 1)) ∧
    (∀ key, u.pool.session? key = none → (u.look key).pool = u.pool) ∧
    (∀ attempt, (u.giveUp attempt).pool = u.pool) ∧
    ∀ now,
      (∀ client, client ∈ (u.sweep now).1 ↔
        ∃ key last, u.pool.session? key = some client ∧ u.outstanding key = 0 ∧
          u.lastUse? key = some last ∧ last + timeout < now) ∧
      (u.reap now).2.closed = (u.sweep now).1.reverse ++ u.closed := by
  intro u
  have counted : u.Counted := run_counted timeout steps
  have once : u.pool.keys.Nodup :=
    run_induction List.nodup_nil (fun _ _ move => move.keys_nodup) steps
  have same : u.pool.idleTimeout = timeout :=
    run_induction (motive := fun v => v.pool.idleTimeout = timeout) rfl
      (fun _ _ move => move.idleTimeout_eq.trans) steps
  refine ⟨counted.leases, ?_, ?_, ?_, ?_⟩
  · intro c member out
    obtain ⟨e, found, -, positive⟩ := counted.exists_entry member out
    refine ⟨e.leases - 1, ?_⟩
    rw [Pool.leases?, found, Option.map_some, Nat.sub_add_cancel positive]
  · intro key absent
    rw [look, Pool.reuse?_of_none absent]
  · intro attempt
    rw [giveUp]
    split
    · rfl
    · rfl
  · intro now
    refine ⟨fun client => ?_, ?_⟩
    · rw [counted.mem_sweep_iff once, same]
    · have closes := disconnectFrom_closing
        { u with pool := (u.pool.sweep now).2 } u.closing (u.pool.sweep now).1
      exact congrArg Usage.closed closes

end Hostwatch.Ssh.Usage
