import Hostwatch.Number.Word
import Hostwatch.Number.Text

/-!
# Spans of time

A span is a signed number of nanoseconds. Its size is limited to the milliseconds that a signed
64-bit word can count, and arithmetic beyond that has no result.
-/

namespace Hostwatch

/-- A signed length of time. -/
structure Span where
  nanos : Int
  deriving Repr, DecidableEq, Inhabited

namespace Span

/-- The greatest signed 64-bit integer. -/
def wordMax : Int := Word.greatest

/-- The greatest length of a span, in nanoseconds. -/
def limit : Int := wordMax * 1000000

/-- The span of that many nanoseconds, if it is not too long. -/
def ofNanos? (nanos : Int) : Option Span :=
  if -limit ≤ nanos && nanos ≤ limit then some ⟨nanos⟩ else none

/-- A span of milliseconds, which fits whenever the number fits a word. -/
def ofMillis (millis : Int) : Span :=
  ⟨millis * 1000000⟩

/-- A span of seconds, if it is not too long. -/
def ofSeconds? (seconds : Int) : Option Span :=
  ofNanos? (seconds * 1000000000)

/-- Twice a span. It may be longer than the limit, and is then only good for comparisons. -/
def double (s : Span) : Span :=
  ⟨2 * s.nanos⟩

/-- The whole milliseconds, rounded toward zero. -/
def millis (s : Span) : Int :=
  s.nanos.tdiv 1000000

instance : LT Span := ⟨fun a b => a.nanos < b.nanos⟩
instance : LE Span := ⟨fun a b => a.nanos ≤ b.nanos⟩
instance (a b : Span) : Decidable (a < b) := inferInstanceAs (Decidable (a.nanos < b.nanos))
instance (a b : Span) : Decidable (a ≤ b) := inferInstanceAs (Decidable (a.nanos ≤ b.nanos))

/-- The span in seconds as a double: from its whole microseconds if a word can count them, else
from its whole milliseconds. -/
def toSeconds (s : Span) : Float :=
  let micros := s.nanos.tdiv 1000
  if -wordMax - 1 ≤ micros && micros ≤ wordMax then Binary64.ofInt micros / 1000000.0
  else Binary64.ofInt s.millis / 1000.0

/-- A fraction of `1` in units of `1 / scale`, as a point and digits, without zeros at the end;
empty when there is none. -/
private def fractionText (width fraction : Nat) : String :=
  if fraction == 0 then ""
  else
    let digits := (Number.padded width fraction).toList
    "." ++ String.ofList (digits.reverse.dropWhile (· == '0')).reverse

/-- An unsigned length of time in nanoseconds, in the largest unit of which it holds a whole one:
`30s`, `1.5ms`, `7µs`, `0ns`. -/
def unsignedText (nanos : Nat) : String :=
  if nanos ≥ 1000000000 then
    Number.natText (nanos / 1000000000) ++ fractionText 9 (nanos % 1000000000) ++ "s"
  else if nanos ≥ 1000000 then
    Number.natText (nanos / 1000000) ++ fractionText 6 (nanos % 1000000) ++ "ms"
  else if nanos ≥ 1000 then
    Number.natText (nanos / 1000) ++ fractionText 3 (nanos % 1000) ++ "µs"
  else Number.natText nanos ++ "ns"

end Span

end Hostwatch
