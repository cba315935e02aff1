import Hostwatch.Ssh.Params
import Hostwatch.Transport.Error

/-!
# The pool of sessions

All probes of a host share one session to it. The pool keeps at most one session for each host, port
and user, and counts the leases on it. A session that nobody leases is closed when it has been idle
for too long, and one that turned out to be broken is taken out at once, so that the next caller
connects anew.

Connecting takes long and is done outside the pool: a caller that finds no session connects, and
then hands the new session in. If another caller was faster, the session of the other one stays and
the new one is to be closed. Each function here is one indivisible step; those that take sessions
out return them, and the caller has to close what it is given.

Every session that is handed in gets a number that is greater than all earlier ones of its key, its
generation. A lease remembers the generation, so the holder of an old session cannot take out the
one that has replaced it.
-/

namespace Hostwatch.Ssh

/-- What a session is shared by. -/
structure Key where
  host : String
  port : Nat
  username : String
  deriving Repr, DecidableEq

namespace Key

def text (k : Key) : String :=
  k.username ++ "@" ++ k.host ++ ":" ++ Number.natText k.port

end Key

/-- The key under which hosts with these parameters share a session. -/
def Params.key (p : Params) : Key :=
  { host := p.host, port := p.port, username := p.username }

namespace Pool

/-- What the pool knows about a key. Entries stay when their session is gone. -/
structure Entry (C : Type) where
  client? : Option C := none
  /-- The number of the session that was handed in last. -/
  generation : Nat := 0
  /-- When a lease was last taken or given back, in nanoseconds of the monotonic clock. -/
  lastUse : Nat := 0
  /-- How many leases are out. -/
  leases : Nat := 0
  deriving Repr, DecidableEq

namespace Entry

variable {C : Type}

/-- The session if nobody leases it and its last use lies more than `timeout` back. -/
def idle? (e : Entry C) (now timeout : Nat) : Option C :=
  if e.leases = 0 ∧ timeout < now - e.lastUse then e.client? else none

/-- The entry after a look for idle sessions. -/
def swept (e : Entry C) (now timeout : Nat) : Entry C :=
  if (e.idle? now timeout).isSome then { e with client? := none } else e

/-- One lease more. -/
def take (e : Entry C) (now : Nat) : Entry C :=
  { e with leases := e.leases + 1, lastUse := now }

/-- One lease less. -/
def giveBack (e : Entry C) (now : Nat) : Entry C :=
  { e with leases := e.leases - 1, lastUse := now }

end Entry

end Pool

/-- A counted claim on a session. -/
structure Lease (C : Type) where
  key : Key
  client : C
  generation : Nat
  released : Bool := false
  deriving Repr, DecidableEq

/-- The sessions by key. -/
structure Pool (C : Type) where
  /-- How long a session may be idle, in nanoseconds. -/
  idleTimeout : Nat := 10 * 1000000000
  entries : List (Key × Pool.Entry C) := []

namespace Pool

variable {C : Type}

def get? (p : Pool C) (key : Key) : Option (Entry C) :=
  p.entries.lookup key

/-- The entries with another one for the key. -/
def put (entries : List (Key × Entry C)) (key : Key) (entry : Entry C) :
    List (Key × Entry C) :=
  match entries with
  | [] => [(key, entry)]
  | (k, e) :: rest => if k = key then (k, entry) :: rest else (k, e) :: put rest key entry

def set (p : Pool C) (key : Key) (entry : Entry C) : Pool C :=
  { p with entries := put p.entries key entry }

theorem lookup_cons {β : Type} (k : Key) (b : β) (rest : List (Key × β)) (key : Key) :
    List.lookup key ((k, b) :: rest) = if key = k then some b else List.lookup key rest := by
  rw [List.lookup_cons]
  by_cases h : key = k
  · rw [if_pos h, beq_iff_eq.mpr h]
  · rw [if_neg h, beq_eq_false_iff_ne.mpr h]

theorem lookup_put (entries : List (Key × Entry C)) (key other : Key) (entry : Entry C) :
    (put entries key entry).lookup other =
      if other = key then some entry else entries.lookup other := by
  induction entries with
  | nil => rw [put, lookup_cons]
  | cons head rest ih =>
    obtain ⟨k, e⟩ := head
    rw [put]
    by_cases hk : k = key
    · subst hk
      rw [if_pos rfl, lookup_cons, lookup_cons]
      by_cases h : other = k <;> simp [h]
    · rw [if_neg hk, lookup_cons, lookup_cons, ih]
      by_cases h : other = k
      · subst h
        simp [hk]
      · simp [h]

@[simp] theorem get?_set (p : Pool C) (key other : Key) (entry : Entry C) :
    (p.set key entry).get? other = if other = key then some entry else p.get? other :=
  lookup_put _ _ _ _

/-- How many leases are out for a key; nothing is known of a key that nobody has connected to. -/
def leases? (p : Pool C) (key : Key) : Option Nat :=
  (p.get? key).map (·.leases)

/-- Whether there is a session for a key. -/
def isConnected (p : Pool C) (key : Key) : Bool :=
  ((p.get? key).bind (·.client?)).isSome

/-- A lease on the session that is there. -/
def reuse? (p : Pool C) (key : Key) (now : Nat) : Option (Lease C × Pool C) := do
  let entry ← p.get? key
  let client ← entry.client?
  return ({ key, client, generation := entry.generation }, p.set key (entry.take now))

/-- Hands a new session in and takes a lease. If there is a session by now, the lease is on that one
and the new session is returned to be closed. -/
def store (p : Pool C) (key : Key) (fresh : C) (now : Nat) : Lease C × Option C × Pool C :=
  let entry := (p.get? key).getD {}
  match entry.client? with
  | some client =>
    ({ key, client, generation := entry.generation }, some fresh, p.set key (entry.take now))
  | none =>
    let entry := { entry with client? := some fresh, generation := entry.generation + 1 }
    ({ key, client := fresh, generation := entry.generation }, none, p.set key (entry.take now))

/-- Takes the session of a lease out, if it is still there, to be closed. The lease goes on to
count. -/
def evict (p : Pool C) (lease : Lease C) : Option C × Pool C :=
  match p.get? lease.key with
  | none => (none, p)
  | some entry =>
    if entry.generation = lease.generation then
      (entry.client?, p.set lease.key { entry with client? := none })
    else (none, p)

/-- Gives a lease back. Only the first time counts. -/
def release (p : Pool C) (lease : Lease C) (now : Nat) : Lease C × Pool C :=
  if lease.released then (lease, p)
  else
    ({ lease with released := true },
      match p.get? lease.key with
      | none => p
      | some entry => p.set lease.key (entry.giveBack now))

/-- Takes all sessions out that have been idle for too long, to be closed. -/
def sweep (p : Pool C) (now : Nat) : List C × Pool C :=
  (p.entries.filterMap fun (_, entry) => entry.idle? now p.idleTimeout,
    { p with entries := p.entries.map fun (key, entry) => (key, entry.swept now p.idleTimeout) })

end Pool

/-- A stream over a leased session. The lease lasts as long as the stream is open. -/
structure Pooled (S C : Type) where
  lease : Lease C
  /-- The stream; none once it is closed. -/
  stream? : Option S := none

namespace Pooled

variable {S C α : Type}

/-- What becomes of a request to a stream that is closed. -/
def closedError : IoError :=
  ⟨.notConnected, "connection closed"⟩

/-- Reads from the stream or writes to it. -/
def use (c : Pooled S C) (request : S → Except IoError α × S) : Except IoError α × Pooled S C :=
  match c.stream? with
  | none => (.error closedError, c)
  | some stream =>
    let (answer, stream) := request stream
    (answer, { c with stream? := some stream })

/-- Closes the stream and gives the lease back. A second time nothing happens. -/
def close (c : Pooled S C) (p : Pool C) (now : Nat) : Pooled S C × Pool C :=
  let (lease, p) := p.release c.lease now
  ({ lease }, p)

end Pooled

end Hostwatch.Ssh
