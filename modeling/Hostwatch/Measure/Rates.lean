import Hostwatch.Number.Word
import Hostwatch.Table
import Hostwatch.Time.Timestamp

/-!
# Rates of counters

A counter only says how much there has been since some start, so agents that read counters report
differences between two samples, per second and rounded. A `Tracker` holds the last sample; each
`update` compares the next one with it. Counters that go backwards give negative rates.
-/

namespace Hostwatch

/-- The counters of one entity, such as a core or a device. -/
abbrev Counters := Table Float

/-- The counters of all entities at one time. -/
abbrev Sample := Table Counters

namespace Rates

/-- Decimal places of rates of processor ticks. -/
def tickPlaces : Nat := 1

/-- Decimal places of rates of bytes, packets and operations. -/
def countPlaces : Nat := 0

/-- The power `x ^ n`, multiplied out by repeated squaring. The order of the multiplications decides
how the result is rounded, and a negative power is the reciprocal of the positive one. -/
def power (x : Float) (n : Int) : Float :=
  let p := go 32 1.0 x n.natAbs
  if n < 0 then 1.0 / p else p
where
  go : Nat → Float → Float → Nat → Float
    | 0, r, _, _ => r
    | fuel + 1, r, a, b =>
      let r := if b % 2 == 1 then r * a else r
      if b / 2 == 0 then r else go fuel r (a * a) (b / 2)

/-- Rounds to a number of decimal places, a half up. The number of places is a 32-bit word that is
taken with its sign. -/
def roundHalfUp (x : Float) (places : Nat) : Float :=
  let scale := power 10.0 (Int.bmod places Word.count32)
  (x * scale + 0.5).floor / scale

/-- A number of places below 2^31 is the exponent of the scale as it stands. The number is scaled, a
half is added, and the whole number below that is scaled back. -/
theorem roundHalfUp_of_lt {places : Nat} (few : places < 2147483648) (x : Float) :
    roundHalfUp x places = (x * power 10.0 places + 0.5).floor / power 10.0 places := by
  have same : Int.bmod places Word.count32 = places :=
    Int.bmod_eq_of_le (by simp only [Word.count32]; omega) (by simp only [Word.count32]; omega)
  rw [roundHalfUp, same]

/-- Ticks are rounded to tenths. -/
example (x : Float) : roundHalfUp x tickPlaces = (x * 10.0 + 0.5).floor / 10.0 :=
  roundHalfUp_of_lt (by decide) x

/-- The rate of one field per second. -/
def rate (before now elapsed : Float) (places : Nat) : Float :=
  roundHalfUp ((now - before) / elapsed) places

/-- The rates of the fields that both samples have; none unless time has passed. -/
def rates (previous current : Counters) (elapsed : Float) (places : Nat) : Counters :=
  if elapsed > 0.0 then
    current.filterMap fun (field, now) =>
      (previous.get? field).map fun before => (field, rate before now elapsed places)
  else []

/-- What a tracker remembers: the last sample and when it was taken. -/
structure Tracker where
  places : Nat
  last : Option (Sample × Timestamp) := none

namespace Tracker

/-- Whether there is a sample to compare with. -/
def isWarm (t : Tracker) : Bool :=
  t.last.isSome

/-- The rates of the entities that both samples have. -/
def compare (t : Tracker) (current : Sample) (time : Timestamp) : Sample :=
  match t.last with
  | none => []
  | some (previous, before) =>
    let elapsed := (time.since before).toSeconds
    current.filterMap fun (entity, counters) =>
      (previous.get? entity).map fun old => (entity, rates old counters elapsed t.places)

/-- Compares a sample with the last one and remembers it instead. -/
def update (t : Tracker) (current : Sample) (time : Timestamp) : Sample × Tracker :=
  (t.compare current time, { t with last := some (current, time) })

/-- As `update`, for a sample of one entity without a name. -/
def updateOne (t : Tracker) (current : Counters) (time : Timestamp) : Option Counters × Tracker :=
  let (rates, t) := t.update [("", current)] time
  (rates.get? "", t)

end Tracker

end Rates

end Hostwatch
