import Hostwatch.Number.Word
import Hostwatch.Number.Binary64

/-!
# The fewest digits that read back

A double stands for every real that rounds to it. Of all decimals in that interval `digits` takes
one with the fewest digits, and of those the nearest to the double. The search walks the decimal
grids from coarse to fine and on each one looks at the two neighbours of the value: if any point of
a grid lies in the interval, one of them does.
-/

namespace Hostwatch.Shortest

/-- The number `coefficient * 10 ^ exponent`. -/
structure Decimal where
  coefficient : Nat
  exponent : Int
  deriving Repr, DecidableEq

/-- The number of decimal digits of `n`, where `0` has one. -/
def digitCount (n : Nat) : Nat :=
  (Nat.toDigits 10 n).length

/-- The exponent `e` with `10 ^ e ≤ num / den < 10 ^ (e + 1)`, for positive `num` and `den`. -/
def magnitude (num den : Nat) : Int :=
  if den ≤ num then (digitCount (num / den) : Int) - 1
  else -(digitCount ((den - 1) / num) : Int)

/-- The reals that round to one double, over a common denominator: `low` and `high` are its ends
and `value` the double itself, and the ends belong to it when `closed` holds. -/
structure Interval where
  low : Nat
  value : Nat
  high : Nat
  den : Nat
  closed : Bool

/-- The interval of the double `mantissa * 2 ^ exponent`. Below a power of two the doubles lie
twice as close, and an even mantissa wins the ties at both ends. -/
def Interval.ofParts (mantissa : Nat) (exponent : Int) : Interval :=
  let closer := mantissa == Word.pow2 52 && exponent > -1074
  let scale := exponent.toNat
  let low := if closer then 4 * mantissa - 1 else 4 * mantissa - 2
  { low := low <<< scale
    value := (4 * mantissa) <<< scale
    high := (4 * mantissa + 2) <<< scale
    den := 4 <<< (-exponent).toNat
    closed := mantissa % 2 == 0 }

/-- Whether `num / den` lies in the interval. -/
def Interval.has (i : Interval) (num den : Nat) : Bool :=
  let x := num * i.den
  if i.closed then i.low * den ≤ x && x ≤ i.high * den
  else i.low * den < x && x < i.high * den

/-- The point of the grid `10 ^ exponent` in the interval that is nearest to the value, the upper
one of two equally near. -/
def Interval.onGrid? (i : Interval) (exponent : Int) : Option Decimal :=
  let up := Word.pow10 exponent.toNat
  let down := Word.pow10 (-exponent).toNat
  let scaled := i.value * down
  let unit := i.den * up
  let below := scaled / unit
  let remainder := scaled % unit
  let hasBelow := i.has (below * up) down
  let hasAbove := i.has ((below + 1) * up) down
  if hasBelow && (!hasAbove || 2 * remainder < unit) then some ⟨below, exponent⟩
  else if hasAbove then some ⟨below + 1, exponent⟩
  else none

/-- Moves the zeros at the end of the coefficient into the exponent. -/
def Decimal.normalize (d : Decimal) : Decimal :=
  go (digitCount d.coefficient) d
where
  go : Nat → Decimal → Decimal
    | 0, d => d
    | fuel + 1, d =>
      if d.coefficient != 0 && d.coefficient % 10 == 0 then
        go fuel ⟨d.coefficient / 10, d.exponent + 1⟩
      else d

/-- The shortest decimal that reads back as `mantissa * 2 ^ exponent`, for a positive mantissa.
Seventeen digits always suffice. -/
def digits (mantissa : Nat) (exponent : Int) : Decimal :=
  let i := Interval.ofParts mantissa exponent
  let top := magnitude i.value i.den
  let found := (List.range 17).findSome? fun n : Nat => i.onGrid? (top - n)
  (found.getD ⟨i.value / i.den, 0⟩).normalize

end Hostwatch.Shortest
