import Hostwatch.Proofs.Ssh.Pool
import Hostwatch.Ssh.Usage

/-!
# What a step can do to the pool in use

The relation `Usage.Moves` says all that can become of the pool in use in one step, with what is
known when it happens. Later proofs go by its cases instead of opening the steps.
-/

namespace Hostwatch.Ssh.Usage

variable {S C : Type} {u v : Usage S C}

/-- What can become of the pool in use in one step. -/
inductive Moves (u : Usage S C) : Usage S C → Prop where
  | rests : Moves u u
  | waits (nanos : Nat) : Moves u { u with now := u.now + nanos }
  | reuses {key : Key} {e : Pool.Entry C} {client : C} :
    u.pool.get? key = some e → e.client? = some client →
    Moves u ({ u with pool := u.pool.set key (e.take u.now) }.grant
      { key, client, generation := e.generation })
  | begins {key : Key} : u.pool.session? key = none →
    Moves u { u with attempts := u.attempts ++ [.connecting key] }
  | connects {attempt : Nat} {key : Key} (fresh : C) :
    u.attempts[attempt]? = some (.connecting key) →
    Moves u { u with
      attempts := u.attempts.set attempt (.arrived key fresh)
      brought := (key, fresh) :: u.brought }
  | givesUp {attempt : Nat} {key : Key} : u.attempts[attempt]? = some (.connecting key) →
    Moves u { u with attempts := u.attempts.set attempt .over }
  /-- The new session is the first that is handed in since there is none. -/
  | handsIn {attempt : Nat} {key : Key} {fresh : C} {e : Pool.Entry C} :
    u.attempts[attempt]? = some (.arrived key fresh) → u.pool.session? key = none →
    (u.pool.get? key).getD {} = e →
    Moves u ({ u with
      pool := u.pool.set key ((e.renewed fresh).take u.now)
      attempts := u.attempts.set attempt .over }.grant
        { key, client := fresh, generation := e.generation + 1 })
  /-- Another session was faster. -/
  | comesLate {attempt : Nat} {key : Key} {fresh client : C} {e : Pool.Entry C} :
    u.attempts[attempt]? = some (.arrived key fresh) → u.pool.get? key = some e →
    e.client? = some client →
    Moves u ({ u with
      pool := u.pool.set key (e.take u.now)
      attempts := u.attempts.set attempt .over
      closed := fresh :: u.closed }.grant { key, client, generation := e.generation })
  | streams {lease : Nat} {c : Pooled S C} (stream? : Option S) : u.leases[lease]? = some c →
    Moves u { u with leases := u.leases.set lease { c with stream? } }
  | givesBack {lease : Nat} {c : Pooled S C} : u.leases[lease]? = some c →
    c.lease.released = false →
    Moves u { u with
      pool := u.pool.giveBack c.lease.key u.now
      leases := u.leases.set lease { lease := { c.lease with released := true } }
      uses := (c.lease.key, u.now) :: u.uses }
  | evicts {lease : Nat} {c : Pooled S C} {e : Pool.Entry C} {client : C} :
    u.leases[lease]? = some c → u.pool.get? c.lease.key = some e →
    e.generation = c.lease.generation → e.client? = some client →
    Moves u { u with
      pool := u.pool.set c.lease.key { e with client? := none }
      closing := u.closing ++ [client] }
  | sweeps (now : Nat) :
    Moves u { u with pool := (u.pool.sweep now).2, closing := u.closing ++ (u.pool.sweep now).1 }
  | disconnects {place : Nat} {client : C} : u.closing[place]? = some client →
    Moves u { u with closing := u.closing.eraseIdx place, closed := client :: u.closed }

theorem look_moves (u : Usage S C) (key : Key) : u.Moves (u.look key) := by
  unfold look
  cases there : u.pool.session? key with
  | none =>
      rw [Pool.reuse?_of_none there]
      exact .begins there
  | some client =>
      obtain ⟨e, found, there⟩ := Pool.session?_eq_some_iff.mp there
      rw [Pool.reuse?_of_session found there]
      exact .reuses found there

theorem connect_moves (u : Usage S C) (attempt : Nat) (fresh : C) :
    u.Moves (u.connect attempt fresh) := by
  unfold connect
  split
  · next connecting => exact .connects fresh connecting
  · exact .rests

theorem giveUp_moves (u : Usage S C) (attempt : Nat) : u.Moves (u.giveUp attempt) := by
  unfold giveUp
  split
  · next connecting => exact .givesUp connecting
  · exact .rests

theorem handIn_moves (u : Usage S C) (attempt : Nat) : u.Moves (u.handIn attempt) := by
  unfold handIn
  split
  · next key fresh arrived =>
      cases there : u.pool.session? key with
      | none =>
          rw [Pool.store_of_none there]
          exact .handsIn arrived there rfl
      | some client =>
          obtain ⟨e, found, there⟩ := Pool.session?_eq_some_iff.mp there
          rw [Pool.store_of_session found there]
          exact .comesLate arrived found there
  · exact .rests

theorem stream_moves (u : Usage S C) (lease : Nat) (stream : S) :
    u.Moves (u.stream lease stream) := by
  unfold Usage.stream
  split
  · exact .rests
  · next c held => exact .streams (some stream) held

theorem giveBack_moves (u : Usage S C) (lease : Nat) : u.Moves (u.giveBack lease) := by
  unfold giveBack
  split
  · exact .rests
  · next c held =>
      unfold Pooled.close
      cases returned : c.lease.released with
      | true =>
          rw [Pool.release_of_released returned]
          exact .streams none held
      | false =>
          rw [Pool.release_of_held returned]
          exact .givesBack held returned

theorem evict_of_lease {lease : Nat} {c : Pooled S C} (held : u.leases[lease]? = some c) :
    u.evict lease = ((u.pool.evict c.lease).1, { u with
      pool := (u.pool.evict c.lease).2
      closing := u.closing ++ (u.pool.evict c.lease).1.toList }) := by
  unfold evict
  rw [held]

/-- The session of a lease is taken out, or nothing happens. -/
theorem evict_cases (u : Usage S C) (lease : Nat) :
    (∃ c e client, u.leases[lease]? = some c ∧ u.pool.get? c.lease.key = some e ∧
      e.generation = c.lease.generation ∧ e.client? = some client ∧
      u.evict lease = (some client, { u with
        pool := u.pool.set c.lease.key { e with client? := none }
        closing := u.closing ++ [client] })) ∨
    ((∀ c e, u.leases[lease]? = some c → u.pool.get? c.lease.key = some e →
      e.generation = c.lease.generation → e.client? = none) ∧ u.evict lease = (none, u)) := by
  cases held : u.leases[lease]? with
  | none =>
      refine .inr ⟨nofun, ?_⟩
      unfold evict
      rw [held]
  | some c =>
      rw [evict_of_lease held]
      obtain ⟨e, client, found, same, there, taken⟩ | ⟨none, kept⟩ := u.pool.evict_cases c.lease
      · rw [taken]
        exact .inl ⟨c, e, client, rfl, found, same, there, rfl⟩
      · rw [kept, Option.toList_none, List.append_nil]
        refine .inr ⟨fun c' e held' => ?_, rfl⟩
        cases held'
        exact none e

theorem evict_moves (u : Usage S C) (lease : Nat) : u.Moves (u.evict lease).2 := by
  obtain ⟨c, e, client, held, found, same, there, taken⟩ | ⟨-, kept⟩ := u.evict_cases lease
  · rw [taken]
    exact .evicts held found same there
  · rw [kept]
    exact .rests

theorem disconnect_moves (u : Usage S C) (place : Nat) : u.Moves (u.disconnect place) := by
  unfold disconnect
  split
  · exact .rests
  · next client taken => exact .disconnects taken

theorem step_moves (u : Usage S C) (s : Step S C) : u.Moves (u.step s) := by
  cases s with
  | look key => exact u.look_moves key
  | connect attempt fresh => exact u.connect_moves attempt fresh
  | giveUp attempt => exact u.giveUp_moves attempt
  | handIn attempt => exact u.handIn_moves attempt
  | stream lease stream => exact u.stream_moves lease stream
  | giveBack lease => exact u.giveBack_moves lease
  | evict lease => exact u.evict_moves lease
  | sweep now => exact .sweeps now
  | disconnect place => exact u.disconnect_moves place
  | wait nanos => exact .waits nanos

/-- What every step keeps holds after any steps in any order. -/
theorem run_induction {motive : Usage S C → Prop} (begins : motive u)
    (keeps : ∀ u v : Usage S C, u.Moves v → motive u → motive v) (steps : List (Step S C)) :
    motive (u.run steps) := by
  induction steps generalizing u with
  | nil => exact begins
  | cons s rest ih => exact ih (keeps u (u.step s) (u.step_moves s) begins)

/-- Each key keeps its one entry. -/
theorem Moves.keys_nodup (move : u.Moves v) (once : u.pool.keys.Nodup) : v.pool.keys.Nodup := by
  cases move with
  | reuses | handsIn | comesLate | evicts => exact Pool.keys_set_nodup once _ _
  | givesBack => exact Pool.keys_giveBack_nodup once _ _
  | sweeps now =>
      rw [Pool.keys_sweep]
      exact once
  | _ => exact once

theorem Moves.idleTimeout_eq (move : u.Moves v) : v.pool.idleTimeout = u.pool.idleTimeout := by
  cases move with
  | givesBack => exact Pool.idleTimeout_giveBack _ _ _
  | _ => rfl

/-! ### Calls that nobody interrupts -/

/-- The sessions that were taken out last are closed one after the other. -/
theorem disconnectFrom_closing (u : Usage S C) (before taken : List C) :
    ({ u with closing := before ++ taken }).disconnectFrom before.length taken.length =
      { u with closing := before, closed := taken.reverse ++ u.closed } := by
  induction taken generalizing u with
  | nil => simp [disconnectFrom]
  | cons client rest ih =>
      have first : ({ u with closing := before ++ client :: rest }).disconnect before.length =
          { u with closing := before ++ rest, closed := client :: u.closed } := by
        simp [disconnect, List.eraseIdx_append_of_length_le]
      rw [List.length_cons, disconnectFrom, first]
      refine (ih { u with closed := client :: u.closed }).trans ?_
      simp

end Hostwatch.Ssh.Usage
