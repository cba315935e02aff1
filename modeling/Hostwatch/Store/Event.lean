import Hostwatch.Store.Error

/-!
# Events

Whoever watches a store is told of each change to it. An event says what happened to which kind of
thing; its payload is the new record or, after a removal, the identifier alone.
-/

namespace Hostwatch

/-- What happened to a stored thing. -/
inductive Change where
  | added
  | updated
  | deleted
  deriving Repr, DecidableEq

def Change.name : Change → String
  | .added => "added"
  | .updated => "updated"
  | .deleted => "deleted"

/-- A change to the store. -/
structure Event where
  entity : Entity
  change : Change
  payload : Json

namespace Event

/-- The name of the event, such as `probe.added`. -/
def name (e : Event) : String :=
  e.entity.name ++ "." ++ e.change.name

/-- The removal of a thing. -/
def deleted (entity : Entity) (id : String) : Event :=
  { entity, change := .deleted, payload := Json.ofMembers [("id", .str id)] }

end Event

/-- A queue between the store and one watcher. It holds a limited number of events; when a watcher
falls behind, the oldest are lost, and it is told how many. -/
structure EventQueue where
  /-- How many events fit. -/
  room : Nat
  /-- What was not read yet, the oldest first. -/
  pending : List Event := []
  /-- How many were lost since the last reading. -/
  lost : Nat := 0

namespace EventQueue

/-- The room that a queue is made with: a power of two that is at least what was asked for. -/
def roomFor (capacity : Nat) : Nat :=
  capacity.nextPowerOfTwo

/-- An empty queue for at least `capacity` events. -/
def ofCapacity (capacity : Nat) : EventQueue :=
  { room := roomFor capacity }

/-- Adds an event and drops the oldest if there is no room. -/
def push (q : EventQueue) (e : Event) : EventQueue :=
  let pending := q.pending ++ [e]
  let surplus := pending.length - q.room
  { q with pending := pending.drop surplus, lost := q.lost + surplus }

def pushAll (q : EventQueue) (events : List Event) : EventQueue :=
  events.foldl push q

/-- Reads all that is there: how many events were lost and those that are left. -/
def drain (q : EventQueue) : Nat × List Event × EventQueue :=
  (q.lost, q.pending, { q with pending := [], lost := 0 })

end EventQueue

end Hostwatch
