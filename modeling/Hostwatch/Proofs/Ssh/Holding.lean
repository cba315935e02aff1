import Hostwatch.Proofs.Ssh.Tasks

/-!
# Holding a lease

A request takes one lease, uses the session that it is on, and gives the lease back; in between it
may take the session out of the pool. For each of these what it does to the sessions, to the session
of each key, and to the number of leases that the pool counts. While a lease is held, its session is
there under the number of the lease, for nobody else gets in between.
-/

namespace Hostwatch.Ssh

variable {C σ α : Type} {key : Key} {now : Nat}

namespace Pool

variable {p p' : Pool C} {e : Entry C} {lease : Lease C}

/-- How many leases on a key the pool counts. -/
def counted (p : Pool C) (key : Key) : Nat :=
  (p.leases? key).getD 0

theorem counted_of_get? (found : p.get? key = some e) : p.counted key = e.leases := by
  rw [counted, leases?, found, Option.map_some, Option.getD_some]

theorem counted_getD (p : Pool C) (key : Key) : ((p.get? key).getD {}).leases = p.counted key := by
  cases found : p.get? key with
  | none => rw [counted, leases?, found]; rfl
  | some e => rw [counted_of_get? found, Option.getD_some]

@[simp] theorem counted_set (p : Pool C) (key other : Key) (e : Entry C) :
    (p.set key e).counted other = if other = key then e.leases else p.counted other := by
  rw [counted, leases?, get?_set]
  split
  · rfl
  · rfl

/-- An entry that is set with the count that was there changes no count. -/
theorem counted_set_same (found : p.get? key = some e) (new : Entry C)
    (same : new.leases = e.leases) (other : Key) :
    (p.set key new).counted other = p.counted other := by
  rw [counted_set]
  split
  · next here =>
      subst here
      rw [counted_of_get? found, same]
  · rfl

theorem counted_giveBack (p : Pool C) (key other : Key) (now : Nat) :
    (p.giveBack key now).counted other = p.counted other - if other = key then 1 else 0 := by
  cases found : p.get? key with
  | none =>
      have unknown : p.counted key = 0 := by
        rw [counted, leases?, found]
        rfl
      simp only [giveBack, found]
      split
      · next here =>
          subst here
          rw [unknown]
      · rfl
  | some e =>
      rw [giveBack_of_get? found, counted_set]
      split
      · next here =>
          subst here
          rw [counted_of_get? found]
          rfl
      · rfl

theorem counted_sweep (p : Pool C) (now : Nat) (key : Key) :
    (p.sweep now).2.counted key = p.counted key := by
  rw [counted, leases?, get?_sweep, Option.map_map]
  simp [Function.comp_def, counted, leases?]

/-- A lease is out and the session that it is on is there. -/
structure Holds (p : Pool C) (lease : Lease C) : Prop where
  out : lease.released = false
  current : ∃ e, p.get? lease.key = some e ∧ e.client? = some lease.client ∧
    e.generation = lease.generation

theorem Holds.session? (holds : p.Holds lease) : p.session? lease.key = some lease.client := by
  obtain ⟨e, found, there, -⟩ := holds.current
  exact session?_eq_some_iff.mpr ⟨e, found, there⟩

/-- From one pool to another a lease was taken on the session of a key. -/
structure Takes (p p' : Pool C) (key : Key) (lease : Lease C) : Prop where
  key_eq : lease.key = key
  holds : p'.Holds lease
  session : ∀ other, other ≠ key → p'.session? other = p.session? other
  counted : ∀ other, p'.counted other = p.counted other + if other = key then 1 else 0

theorem takes_of_set {client : C} (there : e.client? = some client)
    (count : e.leases = p.counted key) :
    Takes p (p.set key (e.take now)) key { key, client, generation := e.generation } where
  key_eq := rfl
  holds := ⟨rfl, e.take now, by rw [get?_set, if_pos rfl], there, rfl⟩
  session := by
    intro other elsewhere
    rw [session?_set, if_neg elsewhere]
  counted := by
    intro other
    rw [counted_set]
    split
    · next here =>
        subst here
        exact congrArg (· + 1) count
    · rfl

theorem takes_reuse {client : C} (found : p.get? key = some e) (there : e.client? = some client) :
    Takes p (p.set key (e.take now)) key { key, client, generation := e.generation } :=
  takes_of_set there (counted_of_get? found).symm

theorem takes_store (p : Pool C) (key : Key) (fresh : C) :
    Takes p (p.set key ((((p.get? key).getD {}).renewed fresh).take now)) key
      { key, client := fresh, generation := ((p.get? key).getD {}).generation + 1 } :=
  takes_of_set (e := ((p.get? key).getD {}).renewed fresh) rfl (p.counted_getD key)

/-- From one pool to another the session of a lease was taken out. -/
theorem Holds.evict (holds : p.Holds lease) :
    ∃ p', p.evict lease = (some lease.client, p') ∧
      (∀ other, p'.session? other = if other = lease.key then none else p.session? other) ∧
      ∀ other, p'.counted other = p.counted other := by
  obtain ⟨e, found, there, number⟩ := holds.current
  refine ⟨p.set lease.key { e with client? := none }, ?_, ?_, ?_⟩
  · rw [evict_of_get? found, if_pos number, there]
  · intro other
    exact session?_set p lease.key other _
  · intro other
    exact counted_set_same found { e with client? := none } rfl other

end Pool

namespace Hub

variable {w : Wire σ} {g g' : Hub (Noted σ)} {lease : Lease Session}

/-- What is done to the sessions when a lease is taken: a host is connected to if there is no
session. -/
def connects (g : Hub (Noted σ)) (p : Params) : List SessionUse :=
  if (g.pool.session? p.key).isSome then [] else [.connect p.host p.port]

/-- A lease was taken on the session that was there, or on a new one. -/
structure Acquired (g g' : Hub (Noted σ)) (p : Params) (lease : Lease Session) : Prop where
  did : Did g g' (g.connects p)
  connections : g'.connections = g.connections
  takes : Pool.Takes g.pool g'.pool p.key lease
  cached : ∀ session, g.pool.session? p.key = some session → lease.client = session

/-- There was no session and there is none now. -/
structure Unreached (g g' : Hub (Noted σ)) (p : Params) : Prop where
  did : Did g g' (g.connects p)
  connections : g'.connections = g.connections
  pool : g'.pool = g.pool
  absent : g.pool.session? p.key = none

theorem yields_acquire (notes : g.wire = w.noting) (p : Params) :
    (acquire p).Yields g fun r g' =>
      match r with
      | .ok lease => Acquired g g' p lease
      | .error _ => Unreached g g' p := by
  apply yields_uptime_bind notes
  intro now g₁ waited
  rw [yields_onPool_bind]
  cases cached : g.pool.session? p.key with
  | some session =>
      obtain ⟨e, found, there⟩ := Pool.session?_eq_some_iff.mp cached
      have nothing : g.connects p = [] := by rw [connects, cached]; rfl
      simp only [waited.pool, Pool.reuse?_of_session found there, yields_pure]
      refine ⟨?_, waited.connections, Pool.takes_reuse found there, ?_⟩
      · rw [nothing]
        exact ⟨waited.wire, waited.uses⟩
      · intro other same
        rw [cached] at same
        exact Option.some.inj same
  | none =>
      have connects : g.connects p = [.connect p.host p.port] := by rw [connects, cached]; rfl
      have still : g₁.pool.session? p.key = none := waited.pool ▸ cached
      simp only [Pool.reuse?_of_none still]
      have ready := waited.wire.trans notes
      apply Task.Yields.bind (yields_connect (g := g₁) ready p)
      · intro fresh g₂ connected
        apply yields_uptime_bind (connected.wire.trans ready)
        intro now' g₃ again
        have all := waited.trans (connected.trans again)
        rw [yields_onPool_bind, all.pool]
        simp only [Pool.store_of_none cached, Option.toList_none]
        refine ⟨?_, all.connections, Pool.takes_store _ _ _, ?_⟩
        · rw [connects]
          exact ⟨all.wire, all.uses⟩
        · intro session there
          rw [cached] at there
          cases there
      · intro e g₂ connected
        have all := waited.trans connected
        refine ⟨?_, all.connections, all.pool, cached⟩
        rw [connects]
        exact all.toDid

/-- A lease was given back, and its session closed if it is broken. -/
structure Ended (g g' : Hub (Noted σ)) (lease : Lease Session) (broken : Bool) : Prop where
  did : Did g g' (if broken then [.disconnect lease.client] else [])
  connections : g'.connections = g.connections
  session : ∀ key, g'.pool.session? key =
    if broken ∧ key = lease.key then none else g.pool.session? key
  counted : ∀ key, g'.pool.counted key = g.pool.counted key - if key = lease.key then 1 else 0

theorem yields_giveBack (notes : g.wire = w.noting) (out : lease.released = false) :
    (giveBack lease).Yields g fun r g' => r = .ok () ∧ Ended g g' lease false := by
  apply yields_uptime_bind notes
  intro now g₁ waited
  rw [yields_onPool_bind, waited.pool, Pool.release_of_held out]
  refine ⟨rfl, ?_, waited.connections, ?_, ?_⟩
  · exact ⟨waited.wire, waited.uses⟩
  · intro key
    exact Pool.session?_giveBack g.pool lease.key key now
  · intro key
    exact Pool.counted_giveBack g.pool lease.key key now

/-- The session of a lease was closed. -/
structure Invalidated (g g' : Hub (Noted σ)) (lease : Lease Session) : Prop where
  did : Did g g' [.disconnect lease.client]
  connections : g'.connections = g.connections
  session : ∀ key, g'.pool.session? key =
    if key = lease.key then none else g.pool.session? key
  counted : ∀ key, g'.pool.counted key = g.pool.counted key

theorem yields_invalidate (notes : g.wire = w.noting) (holds : g.pool.Holds lease) :
    (invalidate lease).Yields g fun r g' => r = .ok () ∧ Invalidated g g' lease := by
  obtain ⟨pool, evicted, session, counted⟩ := holds.evict
  unfold invalidate
  rw [yields_onPool_bind, evicted]
  apply (yields_disconnectAll (g := { g with pool }) notes [lease.client]).mono
  rintro r g' ⟨fine, closed⟩
  refine ⟨fine, ⟨closed.wire, closed.uses⟩, closed.connections, ?_, ?_⟩
  · intro key
    rw [closed.pool]
    exact session key
  · intro key
    rw [closed.pool]
    exact counted key

/-- What follows when a lease is done with: the session is closed if it is broken, the lease is
given back, and the task ends as it has to. -/
theorem yields_end (notes : g.wire = w.noting) (holds : g.pool.Holds lease) (broken : Bool)
    (r : Except TransportError α) :
    Task.Yields
      (if broken then do
        invalidate lease
        giveBack lease
        ExceptT.mk (pure r)
      else do
        giveBack lease
        ExceptT.mk (pure r)) g fun r' g' => r' = r ∧ Ended g g' lease broken := by
  cases broken with
  | false =>
      apply Task.Yields.bind (yields_giveBack notes holds.out)
      · rintro _ g' ⟨-, ended⟩
        exact ⟨rfl, ended⟩
      · rintro _ g' ⟨failed, -⟩
        cases failed
  | true =>
      apply Task.Yields.bind (yields_invalidate notes holds)
      · rintro _ g₁ ⟨-, gone⟩
        apply Task.Yields.bind (yields_giveBack (gone.did.wire.trans notes) holds.out)
        · rintro _ g' ⟨-, ended⟩
          rw [yields_mk]
          refine ⟨rfl, gone.did.trans ended.did, ended.connections.trans gone.connections, ?_, ?_⟩
          · intro key
            rw [ended.session, gone.session]
            simp
          · intro key
            rw [ended.counted, gone.counted]
        · rintro _ g' ⟨failed, -⟩
          cases failed
      · rintro _ g' ⟨failed, -⟩
        cases failed

end Hub

end Hostwatch.Ssh
