import Hostwatch.Text.Utf8

/-!
# Streams in memory

A tape holds octets and a position that reading and writing share. Writing replaces what is there
and goes on beyond the end.
-/

namespace Hostwatch

/-- Octets and a position among them. -/
structure Tape where
  data : Octets
  position : Nat := 0
  deriving Repr, DecidableEq

namespace Tape

/-- Takes at most `limit` octets. -/
def read (t : Tape) (limit : Nat) : Octets × Tape :=
  let taken := (t.data.drop t.position).take limit
  (taken, { t with position := t.position + taken.length })

/-- Writes octets, and says how many. -/
def write (t : Tape) (octets : Octets) : Nat × Tape :=
  (octets.length,
    { data := t.data.take t.position ++ octets ++ t.data.drop (t.position + octets.length)
      position := t.position + octets.length })

end Tape

end Hostwatch
