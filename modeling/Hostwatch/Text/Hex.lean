import Hostwatch.Text.Utf8

/-!
# Octets as digits

Octets that are no text are shown by two hexadecimal digits each.
-/

namespace Hostwatch.Hex

/-- Writes octets in lower-case digits. -/
def write (octets : Octets) : String :=
  String.ofList (octets.flatMap fun b => [Nat.digitChar (b.toNat / 16), Nat.digitChar (b.toNat % 16)])

/-- The value of a digit; zero if it is none. -/
def digit (c : Char) : Nat :=
  if c.isDigit then c.toNat - '0'.toNat
  else if 'a' ≤ c.toLower ∧ c.toLower ≤ 'f' then c.toLower.toNat - 'a'.toNat + 10
  else 0

/-- Reads pairs of digits; an odd one at the end is left out. -/
def read : List Char → Octets
  | a :: b :: rest => UInt8.ofNat (digit a * 16 + digit b) :: read rest
  | _ => []

end Hostwatch.Hex
