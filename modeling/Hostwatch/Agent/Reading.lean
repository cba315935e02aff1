import Hostwatch.Agent.Failure
import Hostwatch.Measure.Doc
import Hostwatch.Measure.Point
import Hostwatch.Measure.Rates
import Hostwatch.Transport.Dialogue

/-!
# What agents read

The pieces that agents share: numbers in reports, which count as zero when they are missing or not
numbers, rows with a fixed order of columns, and the readings that an agent remembers.
-/

namespace Hostwatch

/-- Whether a number only grows, so that its rate is of interest, or is of interest itself. -/
inductive FieldKind where
  | counter
  | gauge
  deriving Repr, DecidableEq

namespace Reading

/-- The number that a text holds between blanks, or zero. -/
def number (text : List Char) : Float :=
  (Number.readFloat? (Text.trim text)).getD 0.0

/-- The number of a token, or zero if there is no token. -/
def numberAt (tokens : List (List Char)) (index : Nat) : Float :=
  match tokens[index]? with
  | some token => number token
  | none => 0.0

/-- The numbers of a row under the names of its columns. Missing ones are zero, and what stands
after the last column does not count. -/
def columns (names : List String) (tokens : List (List Char)) : Counters :=
  Table.ofList (names.zipIdx.map fun (name, index) => (name, numberAt tokens index))

/-- The text of a file. -/
def file (path : String) : Dialogue (Except Failure (List Char)) := do
  match ← Dialogue.query (.readFile path) with
  | .ok octets => return .ok (Utf8.decode octets)
  | .error e => return .error (.transport e)

/-- What a command prints. -/
def command (name : String) (args : List String) : Dialogue (Except TransportError (List Char)) := do
  return (← Dialogue.query (.exec name args)).map Utf8.decode

/-- Takes the time of a reading that succeeded. -/
def timed {α : Type} (reading : Except Failure α) : Dialogue (Except Failure (α × Timestamp)) := do
  match reading with
  | .ok value => return .ok (value, ← Dialogue.now)
  | .error e => return .error e

end Reading

/-- The last reading and the one before it, with their times. -/
structure History (α : Type) where
  last : Option (α × Timestamp) := none
  previous : Option (α × Timestamp) := none

namespace History

variable {α : Type}

/-- Adds a reading and forgets all but the one before. -/
def push (h : History α) (value : α) (time : Timestamp) : History α :=
  { last := some (value, time), previous := h.last }

/-- The rates from the previous reading to the last one, of the samples that `select` finds in
them. -/
def rates (h : History α) (places : Nat) (select : α → Sample) : Sample :=
  match h.last with
  | none => []
  | some (now, time) =>
    let tracker : Rates.Tracker :=
      { places, last := h.previous.map fun (before, then') => (select before, then') }
    tracker.compare (select now) time

/-- As `rates`, for readings of one entity. -/
def ratesOfOne (h : History α) (places : Nat) (select : α → Counters) : Counters :=
  ((h.rates places fun value => [("", select value)]).get? "").getD []

end History

end Hostwatch
