import Hostwatch.Proofs.Ssh.Moves
import Mathlib.Data.List.Perm.Basic

/-!
# Every session is closed once

A session that connecting has brought waits to be handed in, is in the pool, waits to be closed, or
is closed. A step takes a session out of one of these places only to put it into another, and never
back among those that wait to be handed in. So the places together hold every session as often as it
was brought. If connecting never brings the same session twice, each is in one place. Then one that
no call has in its hands is either in the pool, under its own key, and was never closed, or it is
out of the pool and was closed once.
-/

namespace Hostwatch.Ssh.Usage

variable {S C : Type} {u v : Usage S C} {key : Key} {timeout : Nat}

/-- The sessions that have yet to be handed in. -/
def arrived (u : Usage S C) : List C :=
  u.attempts.filterMap Attempt.fresh?

/-- Connecting has never brought the same session twice. -/
def Distinct (u : Usage S C) : Prop :=
  (u.brought.map (·.2)).Nodup

instance [DecidableEq C] (u : Usage S C) : Decidable u.Distinct :=
  inferInstanceAs (Decidable (List.Nodup _))

theorem Distinct.eq_key (distinct : u.Distinct) {client : C} {other : Key}
    (one : (key, client) ∈ u.brought) (another : (other, client) ∈ u.brought) : other = key :=
  congrArg Prod.fst (List.inj_on_of_nodup_map distinct another one rfl)

/-- Where an attempt has changed, the others hold the sessions that they held. -/
theorem arrived_set {attempt : Nat} {a : Attempt C} (found : u.attempts[attempt]? = some a)
    (new : Attempt C) :
    ∃ others, u.arrived.Perm (a.fresh?.toList ++ others) ∧
      ((u.attempts.set attempt new).filterMap Attempt.fresh?).Perm (new.fresh?.toList ++ others) := by
  obtain ⟨inside, rfl⟩ := List.getElem?_eq_some_iff.mp found
  have cons (b : Attempt C) (rest : List (Attempt C)) :
      (b :: rest).filterMap Attempt.fresh? = b.fresh?.toList ++ rest.filterMap Attempt.fresh? := by
    cases held : b.fresh? with
    | none => simp [held]
    | some fresh => simp [held]
  have before := (List.getElem_cons_eraseIdx_perm inside).filterMap Attempt.fresh?
  have after := (List.set_perm_cons_eraseIdx inside new).filterMap Attempt.fresh?
  rw [cons] at before after
  exact ⟨_, before.symm, after⟩

/-- What is brought is never forgotten. -/
theorem Moves.brought_suffix (move : u.Moves v) : u.brought <:+ v.brought := by
  cases move with
  | connects => exact List.suffix_cons _ _
  | _ => exact List.suffix_rfl

theorem Distinct.before (distinct : v.Distinct) (move : u.Moves v) : u.Distinct :=
  List.Nodup.sublist (move.brought_suffix.sublist.map _) distinct

/-- A session that is in the pool after a step was there before, or has just been handed in. -/
theorem Moves.session_before (move : u.Moves v) {client : C}
    (there : v.pool.session? key = some client) :
    u.pool.session? key = some client ∨ .arrived key client ∈ u.attempts := by
  cases move with
  | reuses found | comesLate _ found =>
      exact .inl ((Pool.session?_take found u.now key).symm.trans there)
  | @handsIn attempt k fresh e waiting absent same =>
      simp only [grant, Pool.session?_set] at there
      split at there
      · next here =>
          subst here
          cases there
          exact .inr (List.mem_of_getElem? waiting)
      · exact .inl there
  | givesBack =>
      rw [Pool.session?_giveBack] at there
      exact .inl there
  | evicts =>
      rw [Pool.session?_set] at there
      split at there
      · cases there
      · exact .inl there
  | sweeps => exact .inl (Pool.session?_of_sweep there)
  | _ => exact .inl there

/-- A session that has yet to be handed in after a step had yet to be before, or has just been
brought. -/
theorem Moves.arrived_before (move : u.Moves v) {fresh : C}
    (waits : .arrived key fresh ∈ v.attempts) :
    .arrived key fresh ∈ u.attempts ∨ (key, fresh) ∈ v.brought := by
  cases move with
  | begins =>
      rcases List.mem_append.mp waits with before | new
      · exact .inl before
      · cases List.mem_singleton.mp new
  | connects =>
      rcases List.mem_or_eq_of_mem_set waits with before | new
      · exact .inl before
      · cases new
        exact .inr List.mem_cons_self
  | givesUp | handsIn | comesLate =>
      rcases List.mem_or_eq_of_mem_set waits with before | new
      · exact .inl before
      · cases new
  | _ => exact .inl waits

section Counts

variable [DecidableEq C]

/-- How often a session is in a place where it has been handed in before. -/
def settled (u : Usage S C) (client : C) : Nat :=
  u.pool.cached.count client + u.closing.count client + u.closed.count client

/-- How often connecting has brought a session. -/
def timesBrought (u : Usage S C) (client : C) : Nat :=
  (u.brought.map (·.2)).count client

theorem count_arrived_set {attempt : Nat} {a : Attempt C} (found : u.attempts[attempt]? = some a)
    (new : Attempt C) (client : C) :
    ((u.attempts.set attempt new).filterMap Attempt.fresh?).count client +
        a.fresh?.toList.count client =
      u.arrived.count client + new.fresh?.toList.count client := by
  obtain ⟨others, before, after⟩ := arrived_set found new
  rw [before.count_eq, after.count_eq, List.count_append, List.count_append]
  omega

/-- An entry that is set with the same session leaves the sessions of the pool as they were. -/
theorem count_cached_set_same {p : Pool C} {e : Pool.Entry C} (found : p.get? key = some e)
    (new : Pool.Entry C) (same : new.client? = e.client?) (client : C) :
    (p.set key new).cached.count client = p.cached.count client := by
  have counts := p.count_cached_set key new client
  rw [Pool.session?, found, Option.bind_some, same] at counts
  exact Nat.add_right_cancel counts

theorem count_cached_giveBack (p : Pool C) (key : Key) (now : Nat) (client : C) :
    (p.giveBack key now).cached.count client = p.cached.count client := by
  cases found : p.get? key with
  | none => simp [Pool.giveBack, found]
  | some e =>
      rw [Pool.giveBack_of_get? found]
      exact count_cached_set_same found (e.giveBack now) rfl client

/-- A step loses no session and doubles none, and one that was handed in stays so. -/
theorem Moves.settles (move : u.Moves v) (client : C) :
    u.settled client ≤ v.settled client ∧
      v.settled client + v.arrived.count client + u.timesBrought client =
        u.settled client + u.arrived.count client + v.timesBrought client := by
  unfold settled timesBrought
  cases move with
  | rests | waits | streams => exact ⟨Nat.le_refl _, rfl⟩
  | @reuses key e _ found there =>
      have pool := count_cached_set_same found (e.take u.now) rfl client
      simp only [arrived, grant, pool]
      exact ⟨Nat.le_refl _, trivial⟩
  | begins =>
      simp only [arrived, List.filterMap_append, List.filterMap_cons, Attempt.fresh?,
        List.filterMap_nil, List.append_nil]
      exact ⟨Nat.le_refl _, trivial⟩
  | @connects attempt key fresh connecting =>
      have waits := count_arrived_set connecting (.arrived key fresh) client
      simp only [arrived, Attempt.fresh?, Option.toList_none, Option.toList_some, List.map_cons,
        List.count_cons, List.count_nil] at waits ⊢
      omega
  | givesUp connecting =>
      have waits := count_arrived_set connecting .over client
      simp only [arrived, Attempt.fresh?, Option.toList_none, List.count_nil] at waits ⊢
      omega
  | @handsIn attempt key fresh e waiting there same =>
      have waits := count_arrived_set waiting .over client
      have pool := u.pool.count_cached_set key ((e.renewed fresh).take u.now) client
      simp only [arrived, grant, there, Attempt.fresh?, Pool.Entry.take, Pool.Entry.renewed,
        Option.toList_none, Option.toList_some, List.count_cons, List.count_nil] at waits pool ⊢
      omega
  | @comesLate attempt key fresh _ e waiting found there =>
      have waits := count_arrived_set waiting .over client
      have pool := count_cached_set_same found (e.take u.now) rfl client
      simp only [arrived, grant, pool, Attempt.fresh?, Option.toList_none, Option.toList_some,
        List.count_cons, List.count_nil] at waits ⊢
      omega
  | givesBack =>
      simp only [count_cached_giveBack]
      exact ⟨Nat.le_refl _, rfl⟩
  | @evicts lease c e taken held found same there =>
      have pool := u.pool.count_cached_set c.lease.key { e with client? := none } client
      rw [Pool.session?, found, Option.bind_some, there] at pool
      simp only [arrived, Option.toList_none, Option.toList_some, List.count_append,
        List.count_nil] at pool ⊢
      omega
  | sweeps now =>
      have pool := u.pool.count_cached_sweep now client
      simp only [List.count_append, arrived]
      omega
  | @disconnects place taken found =>
      obtain ⟨inside, rfl⟩ := List.getElem?_eq_some_iff.mp found
      have closing := (List.getElem_cons_eraseIdx_perm inside).count_eq client
      simp only [arrived, List.count_cons] at closing ⊢
      omega

/-- Every session is in as many places as it was brought, and where it is, it is under the key that
it was brought for. -/
structure Accounted (u : Usage S C) : Prop where
  cached : ∀ key client, u.pool.session? key = some client → (key, client) ∈ u.brought
  arrived : ∀ key fresh, .arrived key fresh ∈ u.attempts → (key, fresh) ∈ u.brought
  places : ∀ client, u.settled client + u.arrived.count client = u.timesBrought client

theorem accounted_start : (start timeout : Usage S C).Accounted :=
  ⟨nofun, nofun, fun _ => rfl⟩

theorem Moves.accounted (move : u.Moves v) (accounted : u.Accounted) : v.Accounted := by
  have kept : u.brought ⊆ v.brought := move.brought_suffix.subset
  refine ⟨fun key client there => ?_, fun key fresh waits => ?_, fun client => ?_⟩
  · rcases move.session_before there with before | handedIn
    · exact kept (accounted.cached key client before)
    · exact kept (accounted.arrived key client handedIn)
  · rcases move.arrived_before waits with before | new
    · exact kept (accounted.arrived key fresh before)
    · exact new
  · have before := accounted.places client
    have step := (move.settles client).2
    omega

/-! ### Any steps in any order -/

theorem run_accounted (timeout : Nat) (steps : List (Step S C)) :
    ((start timeout).run steps).Accounted :=
  run_induction accounted_start (fun _ _ move => move.accounted) steps

/-- Of a session that was brought once, there is one. -/
theorem Accounted.places_le_one (accounted : u.Accounted) (distinct : u.Distinct) (client : C) :
    u.settled client + u.arrived.count client ≤ 1 := by
  rw [accounted.places]
  exact List.nodup_iff_count_le_one.mp distinct client

/-- Callers use a pool in any way and in any order, and several may connect for the same key at
once. Say that connecting never brings the same session twice. Then a session that was brought, and
that no call has yet to hand in or to close, is the one that the pool keeps for the key that it was
brought for and was never closed, or it is gone from the pool and was closed exactly once. What is
in the pool was never closed, nor is a call about to close it, and it is there under one key.
Nothing is closed twice, also while calls are under way, and the pool has one entry for each key. -/
theorem sessions_are_closed_once (timeout : Nat) (steps : List (Step S C))
    (distinct : ((start timeout).run steps).Distinct) :
    let u := (start timeout).run steps
    (∀ key client, (key, client) ∈ u.brought → client ∉ u.arrived → client ∉ u.closing →
      (u.pool.session? key = some client ∧ u.closed.count client = 0) ∨
        (client ∉ u.pool.cached ∧ u.closed.count client = 1)) ∧
    (∀ key client, u.pool.session? key = some client →
      (key, client) ∈ u.brought ∧ client ∉ u.closed ∧ client ∉ u.closing ∧
        ∀ other, u.pool.session? other = some client → other = key) ∧
    u.closed.Nodup ∧ u.pool.keys.Nodup := by
  intro u
  have accounted : u.Accounted := run_accounted timeout steps
  have once : u.pool.keys.Nodup :=
    run_induction List.nodup_nil (fun _ _ move => move.keys_nodup) steps
  have places (client : C) : u.pool.cached.count client + u.closing.count client +
      u.closed.count client + u.arrived.count client ≤ 1 :=
    accounted.places_le_one distinct client
  refine ⟨fun key client brought handedIn finished => ?_, fun key client there => ?_, ?_, once⟩
  · have one : u.settled client + u.arrived.count client = 1 :=
      (accounted.places client).trans
        (List.count_eq_one_of_mem distinct (List.mem_map_of_mem brought))
    rw [settled, List.count_eq_zero.mpr handedIn, List.count_eq_zero.mpr finished] at one
    -- Two places are left: the pool, and among the sessions that were closed.
    by_cases kept : client ∈ u.pool.cached
    · obtain ⟨other, there⟩ := (Pool.mem_cached_iff once).mp kept
      cases distinct.eq_key brought (accounted.cached other client there)
      have pooled := List.count_pos_iff.mpr kept
      exact .inl ⟨there, by omega⟩
    · rw [List.count_eq_zero.mpr kept] at one
      exact .inr ⟨kept, by omega⟩
  · have pooled := List.count_pos_iff.mpr ((Pool.mem_cached_iff once).mpr ⟨key, there⟩)
    have brought := accounted.cached key client there
    have place := places client
    refine ⟨brought, ?_, ?_, fun other also => ?_⟩
    · exact List.count_eq_zero.mp (by omega)
    · exact List.count_eq_zero.mp (by omega)
    · exact distinct.eq_key brought (accounted.cached other client also)
  · refine List.nodup_iff_count_le_one.mpr fun client => ?_
    have place := places client
    omega

/-- Two callers connect for one key at once, the slower one's session is closed, the other one
breaks and is replaced. -/
def race : List (Step Unit Nat) :=
  let key : Key := { host := "web", port := 22, username := "root" }
  [.look key, .look key, .connect 1 8, .connect 0 7, .handIn 0, .handIn 1, .evict 1, .look key,
    .disconnect 0, .connect 2 9, .handIn 2]

theorem race_closes_once :
    let u := (start 10).run race
    u.Distinct ∧ u.pool.cached = [9] ∧ u.closed = [7, 8] ∧
      8 ∉ u.pool.cached ∧ u.closed.count 8 = 1 :=
  have distinct : ((start 10).run race).Distinct := by decide
  ⟨distinct, by decide, by decide,
    ((sessions_are_closed_once 10 race distinct).1 ⟨"web", 22, "root"⟩ 8 (by decide) (by decide)
      (by decide)).resolve_left (by decide)⟩

end Counts

end Hostwatch.Ssh.Usage
