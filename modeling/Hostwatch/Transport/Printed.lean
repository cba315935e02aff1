import Hostwatch.Text.Split
import Hostwatch.Text.Utf8

/-!
# What a command prints

A command has two outputs, one for its results and one for its complaints.
-/

namespace Hostwatch

/-- What a command printed, as output and as errors. -/
structure Printed where
  output : Octets := []
  errors : Octets := []
  deriving Repr, DecidableEq, Inhabited

namespace Printed

/-- Octets as a text without blanks around it. -/
def trimmed (octets : Octets) : String :=
  String.ofList (Text.trim (Utf8.decode octets))

/-- The complaints as a text. -/
def complaint (p : Printed) : String :=
  trimmed p.errors

end Printed

end Hostwatch
