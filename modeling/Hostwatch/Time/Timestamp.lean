import Hostwatch.Time.Calendar
import Hostwatch.Time.Span

/-!
# Points in time

A timestamp counts seconds from 1970-01-01T00:00:00Z and nanoseconds inside the second. A leap
second is written into the nanoseconds of the second before it, which then reach up to two whole
seconds. Years run from -262143 to 262142; a sum beyond them has no result.

Sums, differences and the order take the nanoseconds as they are written. Clocks never give a time
inside a leap second, but a text can hold one. A calendar in which leap seconds count goes another
way with such a time: a sum that leaves the leap second comes out a second earlier there, a
difference across it a second longer, and all of it comes before the next minute.
-/

namespace Hostwatch

/-- A point in time, in UTC. -/
structure Timestamp where
  second : Int
  nano : Nat
  deriving Repr, DecidableEq, Inhabited

namespace Timestamp

/-- The first second of the first year. -/
def firstSecond : Int := (Date.mk (-262143) 1 1).toDays * 86400

/-- The last second of the last year. -/
def lastSecond : Int := (Date.mk 262143 1 1).toDays * 86400 - 1

/-- Nanoseconds from 1970-01-01T00:00:00Z. -/
def toNanos (t : Timestamp) : Int :=
  t.second * 1000000000 + t.nano

/-- The point that many nanoseconds after 1970-01-01T00:00:00Z. -/
def ofNanos (nanos : Int) : Timestamp :=
  ⟨nanos / 1000000000, (nanos % 1000000000).toNat⟩

/-- Whether the second lies in the years of the calendar. -/
def inRange (t : Timestamp) : Bool :=
  firstSecond ≤ t.second && t.second ≤ lastSecond

theorem inRange_iff {t : Timestamp} :
    t.inRange = true ↔ firstSecond ≤ t.second ∧ t.second ≤ lastSecond := by
  simp only [inRange, Bool.and_eq_true, decide_eq_true_eq]

/-- The point a span later, if it lies in the years of the calendar. -/
def add? (t : Timestamp) (s : Span) : Option Timestamp :=
  let sum := ofNanos (t.toNanos + s.nanos)
  if sum.inRange then some sum else none

/-- The span from `earlier` to `t`, with the nanoseconds of both as they are written. -/
def since (t earlier : Timestamp) : Span :=
  ⟨t.toNanos - earlier.toNanos⟩

/-- Whole milliseconds from 1970-01-01T00:00:00Z, rounded down. -/
def millis (t : Timestamp) : Int :=
  t.toNanos / 1000000

instance : LT Timestamp := ⟨fun a b => a.toNanos < b.toNanos⟩
instance : LE Timestamp := ⟨fun a b => a.toNanos ≤ b.toNanos⟩
instance (a b : Timestamp) : Decidable (a < b) := inferInstanceAs (Decidable (a.toNanos < b.toNanos))
instance (a b : Timestamp) : Decidable (a ≤ b) := inferInstanceAs (Decidable (a.toNanos ≤ b.toNanos))

end Timestamp

end Hostwatch
