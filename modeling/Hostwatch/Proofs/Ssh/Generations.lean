import Hostwatch.Proofs.Ssh.Ledger

/-!
# A lease takes out its own session only

The pool does not compare sessions. It numbers those that are handed in for a key, and a lease takes
out the session that is there if that has the number of the lease. The numbers stand for the
sessions all the same: a number is given to one session of its key, the next one gets a greater
number, and who comes late or finds a session gets its number with it. When a session is taken out
its number stays, so that it is not given again.
-/

namespace Hostwatch.Ssh.Usage

variable {S C : Type} {u v : Usage S C} {key : Key} {timeout : Nat}

/-- A lease as it was when it was taken. -/
def asTaken (c : Pooled S C) : Lease C :=
  { c.lease with released := false }

/-- The leases as they were when they were taken. -/
def issued (u : Usage S C) : List (Lease C) :=
  u.leases.map asTaken

theorem issued_set {lease : Nat} {c : Pooled S C} (held : u.leases[lease]? = some c)
    {new : Pooled S C} (same : asTaken new = asTaken c) :
    (u.leases.set lease new).map asTaken = u.issued := by
  obtain ⟨inside, rfl⟩ := List.getElem?_eq_some_iff.mp held
  rw [List.map_set, same, ← List.getElem_map asTaken, List.set_getElem_self]
  · rfl
  · simpa using inside

theorem issued_grant (u : Usage S C) (key : Key) (client : C) (n : Nat) :
    (u.grant { key, client, generation := n }).issued =
      u.issued ++ [{ key, client, generation := n }] := by
  simp [issued, grant, asTaken]

/-! ### Which leases are issued -/

/-- Each key keeps its number, and no session comes to the pool. -/
structure Fades (u v : Usage S C) : Prop where
  number : ∀ key, v.pool.number key = u.pool.number key
  session : ∀ key client, v.pool.session? key = some client → u.pool.session? key = some client

/-- A new session comes to the pool and gets the next number of its key. -/
structure Renews (u v : Usage S C) (key : Key) (fresh : C) : Prop where
  number : ∀ other, v.pool.number other =
    if other = key then u.pool.number key + 1 else u.pool.number other
  session : ∀ other, v.pool.session? other =
    if other = key then some fresh else u.pool.session? other

/-- The lease that a step issues, if it does, and what becomes of the numbers. -/
inductive Issues (u v : Usage S C) : Prop where
  | nothing : v.issued = u.issued → u.Fades v → Issues u v
  | again {key : Key} {client : C} :
    u.pool.session? key = some client → v.pool.session? key = some client →
    v.issued = u.issued ++ [{ key, client, generation := u.pool.number key }] → u.Fades v →
    Issues u v
  | anew {key : Key} {fresh : C} : .arrived key fresh ∈ u.attempts →
    v.issued = u.issued ++ [{ key, client := fresh, generation := u.pool.number key + 1 }] →
    u.Renews v key fresh → Issues u v

/-- Whoever finds a session gets its number. -/
theorem issues_take {w : Usage S C} {e : Pool.Entry C} {client : C}
    (found : u.pool.get? key = some e) (there : e.client? = some client) (now : Nat)
    (pool : w.pool = u.pool.set key (e.take now)) (leases : w.leases = u.leases) :
    u.Issues (w.grant { key, client, generation := e.generation }) := by
  have session (other : Key) : w.pool.session? other = u.pool.session? other := by
    rw [pool]
    exact Pool.session?_take found now other
  have number (other : Key) : w.pool.number other = u.pool.number other := by
    rw [pool]
    exact Pool.number_take found now other
  have cached : u.pool.session? key = some client :=
    Pool.session?_eq_some_iff.mpr ⟨e, found, there⟩
  refine .again cached ((session key).trans cached) ?_
    ⟨number, fun other _ => (session other).symm.trans⟩
  rw [issued_grant, issued, leases, Pool.number_of_get? found]
  rfl

theorem Moves.issues (move : u.Moves v) : u.Issues v := by
  cases move with
  | rests | waits | begins | connects | givesUp | disconnects =>
      exact .nothing rfl ⟨fun _ => rfl, fun _ _ there => there⟩
  | reuses found there => exact issues_take found there u.now rfl rfl
  | comesLate _ found there => exact issues_take found there u.now rfl rfl
  | @handsIn attempt key fresh e waiting absent same =>
      have number : u.pool.number key = e.generation := same ▸ (u.pool.number_getD key).symm
      refine .anew (List.mem_of_getElem? waiting) ?_ ⟨fun other => ?_, fun other => ?_⟩
      · rw [issued_grant, number]
        rfl
      · rw [number]
        exact Pool.number_set u.pool key other _
      · exact Pool.session?_set u.pool key other _
  | streams _ held => exact .nothing (issued_set held rfl) ⟨fun _ => rfl, fun _ _ there => there⟩
  | givesBack held =>
      refine .nothing (issued_set held rfl) ⟨fun _ => Pool.number_giveBack _ _ _ _, ?_⟩
      intro key client there
      rwa [Pool.session?_giveBack] at there
  | evicts held found =>
      refine .nothing rfl ⟨Pool.number_set_same found _ rfl, ?_⟩
      intro key client there
      rw [Pool.session?_set] at there
      split at there
      · cases there
      · exact there
  | sweeps now =>
      exact .nothing rfl ⟨u.pool.number_sweep now, fun _ _ there => Pool.session?_of_sweep there⟩

/-! ### Numbers stand for sessions -/

/-- Of two leases on one key, the one that was taken later has no smaller number, and it has the
same number exactly if it is on the same session. -/
def InOrder (earlier later : Lease C) : Prop :=
  earlier.key = later.key →
    earlier.generation ≤ later.generation ∧
      (earlier.generation = later.generation ↔ earlier.client = later.client)

/-- The number of a key is that of the leases on the session that is there, and no lease has a
greater one. -/
structure Numbered (u : Usage S C) : Prop where
  known : ∀ lease ∈ u.issued, lease.generation ≤ u.pool.number lease.key
  current : ∀ lease ∈ u.issued, ∀ client, u.pool.session? lease.key = some client →
    (lease.generation = u.pool.number lease.key ↔ lease.client = client)
  ordered : u.issued.Pairwise InOrder

theorem numbered_start : (start timeout : Usage S C).Numbered :=
  ⟨nofun, nofun, .nil⟩

/-- Leases that were taken stay numbered when sessions are taken out. -/
theorem Numbered.fades (numbered : u.Numbered) (same : v.issued = u.issued) (fades : u.Fades v) :
    v.Numbered := by
  refine ⟨fun lease member => ?_, fun lease member client there => ?_, ?_⟩
  · rw [same] at member
    rw [fades.number]
    exact numbered.known lease member
  · rw [same] at member
    rw [fades.number]
    exact numbered.current lease member client (fades.session _ _ there)
  · rw [same]
    exact numbered.ordered

theorem mem_of_issued {lease new : Lease C} (issues : v.issued = u.issued ++ [new])
    (member : lease ∈ v.issued) : lease ∈ u.issued ∨ lease = new := by
  rw [issues] at member
  exact (List.mem_append.mp member).imp_right List.mem_singleton.mp

/-- The leases stay in order when one is issued that is in order with each. -/
theorem Numbered.ordered_of_issued (numbered : u.Numbered) {new : Lease C}
    (issues : v.issued = u.issued ++ [new]) (inOrder : ∀ lease ∈ u.issued, InOrder lease new) :
    v.issued.Pairwise InOrder := by
  rw [issues]
  refine List.pairwise_append.mpr ⟨numbered.ordered, List.pairwise_singleton _ _, ?_⟩
  intro lease before _ last
  rw [List.mem_singleton.mp last]
  exact inOrder lease before

theorem Numbered.again (numbered : u.Numbered) {client : C}
    (there : u.pool.session? key = some client)
    (issues : v.issued = u.issued ++ [{ key, client, generation := u.pool.number key }])
    (fades : u.Fades v) : v.Numbered := by
  refine ⟨fun lease member => ?_, fun lease member other also => ?_,
    numbered.ordered_of_issued issues fun lease before here => ?_⟩
  · rw [fades.number]
    rcases mem_of_issued issues member with before | rfl
    · exact numbered.known lease before
    · exact Nat.le_refl _
  · rw [fades.number]
    have also := fades.session _ _ also
    rcases mem_of_issued issues member with before | rfl
    · exact numbered.current lease before other also
    · exact iff_of_true rfl (Option.some.inj (there.symm.trans also))
  · cases here
    exact ⟨numbered.known lease before, numbered.current lease before client there⟩

/-- The number of a new session is new, so it must not be on a session that a lease is on. -/
theorem Numbered.anew (numbered : u.Numbered) {fresh : C}
    (unseen : ∀ lease ∈ u.issued, lease.client ≠ fresh)
    (issues : v.issued = u.issued ++ [{ key, client := fresh, generation := u.pool.number key + 1 }])
    (renews : u.Renews v key fresh) : v.Numbered := by
  have below (lease : Lease C) (before : lease ∈ u.issued) (here : lease.key = key) :
      lease.generation < u.pool.number key + 1 :=
    Nat.lt_succ_of_le (here ▸ numbered.known lease before)
  refine ⟨fun lease member => ?_, fun lease member other also => ?_,
    numbered.ordered_of_issued issues fun lease before here => ?_⟩
  · rw [renews.number]
    rcases mem_of_issued issues member with before | rfl
    · split
      · next here => exact Nat.le_of_lt (below lease before here)
      · exact numbered.known lease before
    · exact Nat.le_of_eq (if_pos rfl).symm
  · rw [renews.number]
    rw [renews.session] at also
    rcases mem_of_issued issues member with before | rfl
    · split at also
      · next here =>
          cases also
          rw [if_pos here]
          exact iff_of_false (Nat.ne_of_lt (below lease before here)) (unseen lease before)
      · next elsewhere =>
          rw [if_neg elsewhere]
          exact numbered.current lease before other also
    · rw [if_pos rfl] at also ⊢
      exact iff_of_true rfl (Option.some.inj also)
  · have less := below lease before here
    exact ⟨Nat.le_of_lt less, iff_of_false (Nat.ne_of_lt less) (unseen lease before)⟩

section Handed

variable [DecidableEq C]

/-- What a lease is on has been handed in. -/
def Handed (u : Usage S C) : Prop :=
  ∀ lease ∈ u.issued, 0 < u.settled lease.client

theorem settled_of_session (once : u.pool.keys.Nodup) {client : C}
    (there : u.pool.session? key = some client) : 0 < u.settled client := by
  have pooled := List.count_pos_iff.mpr ((Pool.mem_cached_iff once).mpr ⟨key, there⟩)
  unfold settled
  omega

theorem Moves.handed (move : u.Moves v) (once : v.pool.keys.Nodup) (handed : u.Handed) :
    v.Handed := by
  have kept (lease : Lease C) (before : lease ∈ u.issued) : 0 < v.settled lease.client :=
    Nat.lt_of_lt_of_le (handed lease before) (move.settles lease.client).1
  intro lease member
  cases move.issues with
  | nothing same => exact kept lease (same ▸ member)
  | again _ there issues =>
      rcases mem_of_issued issues member with before | rfl
      · exact kept lease before
      · exact settled_of_session once there
  | @anew key fresh _ issues renews =>
      rcases mem_of_issued issues member with before | rfl
      · exact kept lease before
      · exact settled_of_session once ((renews.session key).trans (if_pos rfl))

/-- A session that has yet to be handed in is one that no lease is on. -/
theorem Handed.unseen (handed : u.Handed) (accounted : u.Accounted) (distinct : u.Distinct)
    {fresh : C} (waits : .arrived key fresh ∈ u.attempts) :
    ∀ lease ∈ u.issued, lease.client ≠ fresh := by
  intro lease member same
  have here : 0 < u.settled fresh := same ▸ handed lease member
  have there : 0 < u.arrived.count fresh :=
    List.count_pos_iff.mpr (List.mem_filterMap.mpr ⟨_, waits, rfl⟩)
  have one := accounted.places_le_one distinct fresh
  omega

theorem Moves.numbered (move : u.Moves v) (distinct : u.Distinct) (accounted : u.Accounted)
    (handed : u.Handed) (numbered : u.Numbered) : v.Numbered := by
  cases move.issues with
  | nothing same fades => exact numbered.fades same fades
  | again there _ issues fades => exact numbered.again there issues fades
  | anew waits issues renews =>
      exact numbered.anew (handed.unseen accounted distinct waits) issues renews

end Handed

/-! ### Any steps in any order -/

/-- What the steps keep: each key has its one entry, every session is in its place, no lease is on
one that has yet to be handed in, and the numbers stand for the sessions if these are distinct. -/
structure Orderly [DecidableEq C] (u : Usage S C) : Prop where
  once : u.pool.keys.Nodup
  accounted : u.Accounted
  handed : u.Handed
  numbered : u.Distinct → u.Numbered

theorem orderly_start [DecidableEq C] : (start timeout : Usage S C).Orderly :=
  ⟨List.nodup_nil, accounted_start, nofun, fun _ => numbered_start⟩

theorem Moves.orderly [DecidableEq C] (move : u.Moves v) (orderly : u.Orderly) : v.Orderly := by
  have once := move.keys_nodup orderly.once
  refine ⟨once, move.accounted orderly.accounted, move.handed once orderly.handed, ?_⟩
  intro distinct
  have before := distinct.before move
  exact move.numbered before orderly.accounted orderly.handed (orderly.numbered before)

theorem run_numbered (timeout : Nat) (steps : List (Step S C))
    (distinct : ((start timeout).run steps).Distinct) :
    ((start timeout).run steps).Numbered := by
  -- Only to count sessions do they have to be told apart; the numbers do not mention it.
  classical
  have orderly : ((start timeout).run steps).Orderly :=
    run_induction orderly_start (fun _ _ move => move.orderly) steps
  exact orderly.numbered distinct

/-- No key has had more numbers than sessions were brought, less those that have yet to be handed
in. -/
def Bounded (u : Usage S C) : Prop :=
  ∀ key, u.pool.number key + u.arrived.length ≤ u.brought.length

theorem length_arrived_set {attempt : Nat} {a : Attempt C} (found : u.attempts[attempt]? = some a)
    (new : Attempt C) :
    ((u.attempts.set attempt new).filterMap Attempt.fresh?).length + a.fresh?.toList.length =
      u.arrived.length + new.fresh?.toList.length := by
  obtain ⟨others, before, after⟩ := arrived_set found new
  rw [before.length_eq, after.length_eq, List.length_append, List.length_append]
  omega

theorem Moves.bounded (move : u.Moves v) (bounded : u.Bounded) : v.Bounded := by
  intro other
  have before := bounded other
  unfold arrived at before ⊢
  cases move with
  | rests | waits | streams | disconnects => exact before
  | reuses found =>
      rw [grant, Pool.number_take found]
      exact before
  | begins =>
      simp only [List.filterMap_append, List.filterMap_cons, Attempt.fresh?, List.filterMap_nil,
        List.append_nil]
      exact before
  | @connects attempt key fresh connecting =>
      have waits := length_arrived_set connecting (.arrived key fresh)
      simp only [arrived, Attempt.fresh?, Option.toList_none, Option.toList_some, List.length_nil,
        List.length_cons] at waits ⊢
      omega
  | givesUp connecting =>
      have waits := length_arrived_set connecting .over
      simp only [arrived, Attempt.fresh?, Option.toList_none, List.length_nil] at waits ⊢
      omega
  | @handsIn attempt key fresh e waiting _ same =>
      have waits := length_arrived_set waiting .over
      have number := u.pool.number_getD key
      simp only [arrived, Attempt.fresh?, Option.toList_none, Option.toList_some, List.length_nil,
        List.length_cons] at waits
      simp only [grant, Pool.number_set, Pool.Entry.take, Pool.Entry.renewed]
      split
      · next here =>
          subst here same
          omega
      · omega
  | @comesLate attempt key fresh _ e waiting found =>
      have waits := length_arrived_set waiting .over
      simp only [arrived, Attempt.fresh?, Option.toList_none, Option.toList_some, List.length_nil,
        List.length_cons] at waits
      simp only [grant, Pool.number_take found]
      omega
  | givesBack =>
      rw [Pool.number_giveBack]
      exact before
  | @evicts lease c e client held found =>
      rw [Pool.number_set_same found { e with client? := none } rfl]
      exact before
  | sweeps now =>
      rw [Pool.number_sweep]
      exact before

theorem run_bounded (timeout : Nat) (steps : List (Step S C)) :
    ((start timeout).run steps).Bounded :=
  run_induction (fun _ => Nat.le_refl 0) (fun _ _ move => move.bounded) steps

/-! ### What a lease takes out -/

/-- The session of a key is taken out through a lease exactly if the lease is on it. -/
theorem Numbered.evict (numbered : u.Numbered) {lease : Nat} {c : Pooled S C}
    (held : u.leases[lease]? = some c) :
    (∃ e, u.pool.get? c.lease.key = some e ∧ e.client? = some c.lease.client ∧
      u.evict lease = (some c.lease.client, { u with
        pool := u.pool.set c.lease.key { e with client? := none }
        closing := u.closing ++ [c.lease.client] })) ∨
    (u.pool.session? c.lease.key ≠ some c.lease.client ∧ u.evict lease = (none, u)) := by
  have member : asTaken c ∈ u.issued := List.mem_map_of_mem (List.mem_of_getElem? held)
  obtain ⟨c', e, client, held', found, same, there, taken⟩ | ⟨gone, kept⟩ := u.evict_cases lease
  · cases Option.some.inj (held.symm.trans held')
    have number : c.lease.generation = u.pool.number c.lease.key :=
      same.symm.trans (Pool.number_of_get? found).symm
    have cached := Pool.session?_eq_some_iff.mpr ⟨e, found, there⟩
    cases (numbered.current _ member client cached).mp number
    exact .inl ⟨e, found, there, taken⟩
  · refine .inr ⟨fun cached => ?_, kept⟩
    obtain ⟨e, found, there⟩ := Pool.session?_eq_some_iff.mp cached
    have number := (numbered.current _ member c.lease.client cached).mpr rfl
    rw [gone c e held found ((Pool.number_of_get? found).symm.trans number.symm)] at there
    cases there

theorem invalidate_of_taken {lease : Nat} {client : C} {pool : Pool C}
    (taken : u.evict lease = (some client, { u with pool, closing := u.closing ++ [client] })) :
    u.invalidate lease = (true, { u with pool, closed := client :: u.closed }) := by
  unfold invalidate
  rw [taken]
  exact congrArg (Prod.mk true) (disconnectFrom_closing { u with pool } u.closing [client])

theorem invalidate_of_kept {lease : Nat} (kept : u.evict lease = (none, u)) :
    u.invalidate lease = (false, u) := by
  unfold invalidate
  rw [kept]
  rfl

/-- Callers use a pool in any way and in any order, and connecting never brings the same session
twice. Then to report the session of a lease as broken tells true exactly if that very session is in
the pool for the key of the lease. In that case it is taken out and closed and all else stays as it
is, and otherwise nothing changes at all. Two leases on a key have the same number exactly if they
are on the same session; of two others the one that was taken later has the greater number. A new
session gets a number that is greater than those of all leases on its key. And no number is greater
than the number of sessions that were brought, so 64 bits are enough. -/
theorem stale_lease_takes_nothing_out (timeout : Nat) (steps : List (Step S C))
    (distinct : ((start timeout).run steps).Distinct) :
    let u := (start timeout).run steps
    (∀ lease c, u.leases[lease]? = some c →
      ((u.invalidate lease).1 = true ↔ u.pool.session? c.lease.key = some c.lease.client) ∧
      (u.pool.session? c.lease.key = some c.lease.client →
        ∃ e, u.pool.get? c.lease.key = some e ∧
          u.evict lease = (some c.lease.client, { u with
            pool := u.pool.set c.lease.key { e with client? := none }
            closing := u.closing ++ [c.lease.client] }) ∧
          (u.invalidate lease).2 = { u with
            pool := u.pool.set c.lease.key { e with client? := none }
            closed := c.lease.client :: u.closed }) ∧
      (u.pool.session? c.lease.key ≠ some c.lease.client →
        u.evict lease = (none, u) ∧ (u.invalidate lease).2 = u)) ∧
    u.leases.Pairwise (fun earlier later => InOrder earlier.lease later.lease) ∧
    (∀ attempt key fresh, u.attempts[attempt]? = some (.arrived key fresh) →
      u.pool.session? key = none →
      ∃ n, (u.handIn attempt).leases =
          u.leases ++ [{ lease := { key, client := fresh, generation := n } }] ∧
        ∀ c ∈ u.leases, c.lease.key = key → c.lease.generation < n) ∧
    ∀ c ∈ u.leases, c.lease.generation ≤ u.brought.length := by
  intro u
  have numbered : u.Numbered := run_numbered timeout steps distinct
  have bounded : u.Bounded := run_bounded timeout steps
  have ordered := List.pairwise_map.mp numbered.ordered
  have known (c : Pooled S C) (member : c ∈ u.leases) :
      c.lease.generation ≤ u.pool.number c.lease.key :=
    numbered.known (asTaken c) (List.mem_map_of_mem member)
  refine ⟨fun lease c held => ?_, ordered,
    fun attempt key fresh waits absent => ?_, fun c member => ?_⟩
  · obtain ⟨e, found, there, taken⟩ | ⟨other, kept⟩ := numbered.evict held
    · have cached := Pool.session?_eq_some_iff.mpr ⟨e, found, there⟩
      rw [invalidate_of_taken taken]
      exact ⟨iff_of_true rfl cached, fun _ => ⟨e, found, taken, rfl⟩, fun not => absurd cached not⟩
    · rw [invalidate_of_kept kept]
      exact ⟨iff_of_false Bool.false_ne_true other, fun there => absurd there other,
        fun _ => ⟨kept, rfl⟩⟩
  · refine ⟨u.pool.number key + 1, ?_, fun c member here => ?_⟩
    · rw [handIn, waits]
      simp only [Pool.store_of_none absent, Pool.number_getD, grant]
    · subst here
      exact Nat.lt_succ_of_le (known c member)
  · have bound := bounded c.lease.key
    have below := known c member
    omega

theorem replacement_stays :
    let u := (start 10).run race
    u.Distinct ∧ u.leases.map (·.lease.generation) = [1, 1, 2] ∧
      (u.invalidate 1).2 = u ∧ (u.invalidate 2).1 = true :=
  have distinct : ((start 10).run race).Distinct := by decide
  have reports := (stale_lease_takes_nothing_out 10 race distinct).1
  ⟨distinct, by decide, ((reports 1 _ rfl).2.2 (by decide)).2, (reports 2 _ rfl).1.mpr (by decide)⟩

end Hostwatch.Ssh.Usage
