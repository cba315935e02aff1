import Hostwatch.Ssh.Usage
import Hostwatch.Table

/-!
# Callers by name

The callers of the pool under names that they give themselves. A caller has at most one lease and at
most one attempt to connect under a name; all that it does is done in steps of the pool in use.
-/

namespace Hostwatch.Ssh

/-- The pool in use, and which of the attempts and leases are whose. -/
structure Traffic (S C : Type) extends Usage S C where
  /-- The attempts of the callers that are connecting. -/
  dialers : Table Nat := []
  /-- The leases of the callers. -/
  holders : Table Nat := []

namespace Traffic

variable {S C α : Type}

/-- To what the callers are connecting. -/
def dialing (t : Traffic S C) : Table Key :=
  t.dialers.filterMap fun (name, attempt) =>
    (t.attempts[attempt]?.bind Attempt.key?).map fun key => (name, key)

/-- The leases of the callers, with the streams that are open over them. -/
def held (t : Traffic S C) : Table (Pooled S C) :=
  t.holders.filterMap fun (name, lease) => t.leases[lease]?.map fun c => (name, c)

/-- Something happens to the pool in use. -/
def take (t : Traffic S C) (s : Usage.Step S C) : Traffic S C :=
  { t with toUsage := t.toUsage.step s }

/-- Gives the lease of a caller back, together with the stream over it. -/
def release (t : Traffic S C) (name : String) : Traffic S C :=
  match t.holders.get? name with
  | none => t
  | some lease => t.take (.giveBack lease)

/-- Gives the lease of a caller back for good, and says whether there was one. -/
def drop (t : Traffic S C) (name : String) : Bool × Traffic S C :=
  let released := t.release name
  ((t.holders.get? name).isSome, { released with holders := released.holders.erase name })

/-- A caller gets a lease. One that it held before is given back. -/
def hand (t : Traffic S C) (name : String) (lease : Nat) : Traffic S C :=
  let t := t.release name
  { t with holders := t.holders.insert name lease }

/-- A caller looks for a session. It gets a lease on the one that is there, or begins to connect. -/
def look (t : Traffic S C) (name : String) (key : Key) : Traffic S C :=
  let asked := t.take (.look key)
  if t.pool.isConnected key then asked.hand name t.leases.length
  else { asked with dialers := t.dialers.insert name t.attempts.length }

/-- A caller that was connecting has got a session and hands it in. -/
def arrive (t : Traffic S C) (name : String) (fresh : C) : Traffic S C :=
  match t.dialers.get? name with
  | none => t
  | some attempt =>
    let stored := (t.take (.connect attempt fresh)).take (.handIn attempt)
    { stored with dialers := t.dialers.erase name }.hand name t.leases.length

/-- A caller that was connecting could not. -/
def giveUp (t : Traffic S C) (name : String) : Traffic S C :=
  match t.dialers.get? name with
  | none => t
  | some attempt => { t.take (.giveUp attempt) with dialers := t.dialers.erase name }

/-- A caller reports its session as broken. Says whether the session was still there. -/
def invalidate (t : Traffic S C) (name : String) : Bool × Traffic S C :=
  match t.holders.get? name with
  | none => (false, t)
  | some lease =>
    let (broken, usage) := t.toUsage.invalidate lease
    (broken, { t with toUsage := usage })

/-- Closes the sessions that have been idle for too long at some time, and says how many. -/
def sweep (t : Traffic S C) (now : Nat) : Nat × Traffic S C :=
  let (count, usage) := t.toUsage.reap now
  (count, { t with toUsage := usage })

/-- Opens a stream over the lease of a caller. -/
def openStream (t : Traffic S C) (name : String) (stream : S) : Traffic S C :=
  match t.holders.get? name with
  | none => t
  | some lease => t.take (.stream lease stream)

/-- A caller reads from its stream or writes to it. -/
def use (t : Traffic S C) (name : String) (request : S → Except IoError α × S) :
    Except IoError α × Traffic S C :=
  match t.held.get? name with
  | none => (.error Pooled.closedError, t)
  | some c =>
    let (answer, c) := c.use request
    (answer, match c.stream? with
      | none => t
      | some stream => t.openStream name stream)

end Traffic

end Hostwatch.Ssh
