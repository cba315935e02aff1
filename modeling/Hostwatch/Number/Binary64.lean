import Hostwatch.Number.Word

/-!
# Doubles as exact numbers

A finite double is a sign and an integer times a power of two. `decode` reads that off the bits,
and `ofRatio` goes the other way: it rounds any ratio of naturals to the nearest double, ties to
the even neighbour, in exact arithmetic. Every reading of a decimal goes through `ofRatio`, so it
is rounded once and correctly however many digits are written.
-/

namespace Hostwatch.Binary64

/-- What the bits of a double stand for. -/
inductive Value where
  | nan
  | infinite (negative : Bool)
  /-- The number `mantissa * 2 ^ exponent`, with the sign beside it so that `-0` is told from `0`. -/
  | finite (negative : Bool) (mantissa : Nat) (exponent : Int)
  deriving Repr, DecidableEq

/-- The value of the double with the given bits. -/
def Value.ofBits (bits : Nat) : Value :=
  let negative := bits / Word.pow2 63 % 2 == 1
  let biased : Nat := bits / Word.pow2 52 % Word.pow2 11
  let fraction : Nat := bits % Word.pow2 52
  if biased == 2047 then
    if fraction == 0 then .infinite negative else .nan
  else if biased == 0 then .finite negative fraction (-1074)
  else .finite negative (Word.pow2 52 + fraction) ((biased : Int) - 1075)

/-- The value of a double. -/
def decode (x : Float) : Value :=
  Value.ofBits x.toBits.toNat

/-- The greatest exponent `q` at which `num / den` still has 53 binary digits in front of the
point, and never one below the exponent of the subnormal numbers. -/
def ulpExponent (num den : Nat) : Int :=
  let estimate : Int := (num.log2 : Int) - den.log2
  let below := num <<< (-estimate).toNat < den <<< estimate.toNat
  max (if below then estimate - 53 else estimate - 52) (-1074)

/-- The quotient rounded to the nearest integer, a half to the even neighbour. -/
def divNearest (num den : Nat) : Nat :=
  let quotient := num / den
  let twice := 2 * (num % den)
  if twice > den || (twice == den && quotient % 2 == 1) then quotient + 1 else quotient

/-- The bits of the double nearest to `num / den`, where `den` is positive. Adding the mantissa to
the exponent field, rather than placing it beside, lets a mantissa that rounds up to `2 ^ 53` carry
into the next binade. -/
def bitsOfRatio (num den : Nat) : Nat :=
  if num == 0 then 0
  else
    let q := ulpExponent num den
    let mantissa := divNearest (num <<< (-q).toNat) (den <<< q.toNat)
    min ((q + 1074).toNat * Word.pow2 52 + mantissa) (2047 * Word.pow2 52)

/-- The double nearest to `num / den`, with the given sign. -/
def ofRatio (negative : Bool) (num den : Nat) : Float :=
  let bits := bitsOfRatio num den
  Float.ofBits (UInt64.ofNat (if negative then Word.pow2 63 + bits else bits))

/-- The double nearest to `coefficient * 10 ^ exponent`. Powers far outside the range are settled
by their size alone, so that an exponent of many digits costs nothing. -/
def ofDecimal (negative : Bool) (coefficient : Nat) (exponent : Int) : Float :=
  if coefficient == 0 then ofRatio negative 0 1
  else
    let size := ((Nat.toDigits 10 coefficient).length : Int) + exponent
    if size > 400 then ofRatio negative (Word.pow2 1100) 1
    else if size < -400 then ofRatio negative 0 1
    else ofRatio negative (coefficient * Word.pow10 exponent.toNat) (Word.pow10 (-exponent).toNat)

/-- The double nearest to an integer. -/
def ofInt (n : Int) : Float :=
  ofRatio (n < 0) n.natAbs 1

end Hostwatch.Binary64
