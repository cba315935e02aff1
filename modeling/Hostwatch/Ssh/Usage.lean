import Hostwatch.Ssh.Pool

/-!
# The pool in use

Any number of callers use the pool at once. A caller looks for a session; if there is none it
connects, which takes its time, and then hands the new session in. Meanwhile others may do the same
for the same key, give leases back or report sessions as broken, and idle sessions may be taken out.
Whoever takes sessions out of the pool closes them afterwards, one by one, when the pool is free for
others again.

Here each access to the pool is a step of its own, and so are the end of connecting and the closing
of a session that was taken out. The steps come in any order. Attempts to connect and leases are
known by their places in the lists of all that there have been, so nothing is forgotten, and a
caller may have any number of either.
-/

namespace Hostwatch.Ssh

/-- An attempt to get a new session, by a caller that found none. -/
inductive Attempt (C : Type) where
  | connecting (key : Key)
  /-- The session is there and has yet to be handed in. -/
  | arrived (key : Key) (fresh : C)
  | over
  deriving Repr, DecidableEq

namespace Attempt

variable {C : Type}

/-- To what a caller is connecting. -/
def key? : Attempt C → Option Key
  | .connecting key => some key
  | _ => none

/-- The session that has yet to be handed in. -/
def fresh? : Attempt C → Option C
  | .arrived _ fresh => some fresh
  | _ => none

end Attempt

/-- The pool with all that its callers have and do. -/
structure Usage (S C : Type) where
  pool : Pool C := {}
  /-- The monotonic clock, in nanoseconds. -/
  now : Nat := 0
  /-- The attempts to connect, in the order in which they began. -/
  attempts : List (Attempt C) := []
  /-- The leases in the order in which they were taken, with the streams that are open over them. -/
  leases : List (Pooled S C) := []
  /-- The sessions that a call has taken out of the pool and has yet to close. -/
  closing : List C := []
  /-- The sessions that were closed, the latest first. -/
  closed : List C := []
  /-- The sessions that connecting has brought, and for which keys, the latest first. -/
  brought : List (Key × C) := []
  /-- When leases were taken and given back, the latest first. -/
  uses : List (Key × Nat) := []

namespace Usage

variable {S C : Type}

/-- A pool that nobody has used yet. -/
def start (idleTimeout : Nat) : Usage S C :=
  { pool := { idleTimeout } }

/-- A caller gets a lease. -/
def grant (u : Usage S C) (lease : Lease C) : Usage S C :=
  { u with leases := u.leases ++ [{ lease }], uses := (lease.key, u.now) :: u.uses }

/-- A caller looks for a session. It gets a lease on the one that is there, or begins to connect. -/
def look (u : Usage S C) (key : Key) : Usage S C :=
  match u.pool.reuse? key u.now with
  | some (lease, pool) => { u with pool }.grant lease
  | none => { u with attempts := u.attempts ++ [.connecting key] }

/-- An attempt to connect has brought a session. -/
def connect (u : Usage S C) (attempt : Nat) (fresh : C) : Usage S C :=
  match u.attempts[attempt]? with
  | some (.connecting key) =>
    { u with
      attempts := u.attempts.set attempt (.arrived key fresh)
      brought := (key, fresh) :: u.brought }
  | _ => u

/-- An attempt to connect has failed. -/
def giveUp (u : Usage S C) (attempt : Nat) : Usage S C :=
  match u.attempts[attempt]? with
  | some (.connecting _) => { u with attempts := u.attempts.set attempt .over }
  | _ => u

/-- A new session is handed in and its caller gets a lease. If another one was faster, the new
session is closed at once. -/
def handIn (u : Usage S C) (attempt : Nat) : Usage S C :=
  match u.attempts[attempt]? with
  | some (.arrived key fresh) =>
    let (lease, surplus, pool) := u.pool.store key fresh u.now
    { u with
      pool
      attempts := u.attempts.set attempt .over
      closed := surplus.toList ++ u.closed }.grant lease
  | _ => u

/-- A stream over a lease is opened, or read from or written to. -/
def stream (u : Usage S C) (lease : Nat) (stream : S) : Usage S C :=
  match u.leases[lease]? with
  | none => u
  | some c => { u with leases := u.leases.set lease { c with stream? := some stream } }

/-- A lease is given back, and the stream over it is closed. That is what happens when a lease is
released or dropped, and when a stream over one is closed or dropped. -/
def giveBack (u : Usage S C) (lease : Nat) : Usage S C :=
  match u.leases[lease]? with
  | none => u
  | some c =>
    let (returned, pool) := c.close u.pool u.now
    { u with
      pool
      leases := u.leases.set lease returned
      uses := if c.lease.released then u.uses else (c.lease.key, u.now) :: u.uses }

/-- The session of a lease is taken out of the pool because it is broken, if it is still there. -/
def evict (u : Usage S C) (lease : Nat) : Option C × Usage S C :=
  match u.leases[lease]? with
  | none => (none, u)
  | some c =>
    let (broken, pool) := u.pool.evict c.lease
    (broken, { u with pool, closing := u.closing ++ broken.toList })

/-- The sessions are taken out of the pool that have been idle for too long at some time. -/
def sweep (u : Usage S C) (now : Nat) : List C × Usage S C :=
  let (idle, pool) := u.pool.sweep now
  (idle, { u with pool, closing := u.closing ++ idle })

/-- A call closes one of the sessions that it has taken out. -/
def disconnect (u : Usage S C) (place : Nat) : Usage S C :=
  match u.closing[place]? with
  | none => u
  | some client =>
    { u with closing := u.closing.eraseIdx place, closed := client :: u.closed }

/-- What can happen next. -/
inductive Step (S C : Type) where
  | look (key : Key)
  | connect (attempt : Nat) (fresh : C)
  | giveUp (attempt : Nat)
  | handIn (attempt : Nat)
  | stream (lease : Nat) (stream : S)
  | giveBack (lease : Nat)
  | evict (lease : Nat)
  | sweep (now : Nat)
  | disconnect (place : Nat)
  | wait (nanos : Nat)

/-- The pool in use after a step. Nothing happens in a step that nobody can take. -/
def step (u : Usage S C) : Step S C → Usage S C
  | .look key => u.look key
  | .connect attempt fresh => u.connect attempt fresh
  | .giveUp attempt => u.giveUp attempt
  | .handIn attempt => u.handIn attempt
  | .stream lease stream => u.stream lease stream
  | .giveBack lease => u.giveBack lease
  | .evict lease => (u.evict lease).2
  | .sweep now => (u.sweep now).2
  | .disconnect place => u.disconnect place
  | .wait nanos => { u with now := u.now + nanos }

/-- The pool in use after several steps. -/
def run (u : Usage S C) (steps : List (Step S C)) : Usage S C :=
  steps.foldl step u

/-! ### Calls that nobody interrupts -/

/-- Closes as many of the sessions that were taken out, from a place on. -/
def disconnectFrom (u : Usage S C) (place : Nat) : Nat → Usage S C
  | 0 => u
  | count + 1 => (u.disconnect place).disconnectFrom place count

/-- A caller reports the session of a lease as broken. Says whether the session was still there. -/
def invalidate (u : Usage S C) (lease : Nat) : Bool × Usage S C :=
  let (broken, taken) := u.evict lease
  (broken.isSome, taken.disconnectFrom u.closing.length broken.toList.length)

/-- Closes the sessions that have been idle for too long at some time, and says how many. -/
def reap (u : Usage S C) (now : Nat) : Nat × Usage S C :=
  let (idle, taken) := u.sweep now
  (idle.length, taken.disconnectFrom u.closing.length idle.length)

end Usage

end Hostwatch.Ssh
