/-!
# Words

The bounds of numbers with a fixed number of bits, and powers of the two bases in which numbers are
kept and written.
-/

namespace Hostwatch.Word

/-- How many words of 16 bits there are. -/
def count16 : Nat := 65536

/-- How many words of 32 bits there are. -/
def count32 : Nat := 4294967296

/-- How many words of 64 bits there are. -/
def count64 : Nat := 18446744073709551616

/-- The least signed word of 64 bits. -/
def least : Int := -9223372036854775808

/-- The greatest signed word of 64 bits. -/
def greatest : Int := 9223372036854775807

/-- Whether a number is a signed word of 64 bits. -/
def fits (n : Int) : Bool :=
  least ≤ n && n ≤ greatest

/-- Two to the power of a number. -/
def pow2 (n : Nat) : Nat :=
  Nat.pow 2 n

/-- Ten to the power of a number. -/
def pow10 (n : Nat) : Nat :=
  Nat.pow 10 n

end Hostwatch.Word
