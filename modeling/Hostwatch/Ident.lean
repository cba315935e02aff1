import Hostwatch.Number.Word
import Hostwatch.Time.Timestamp

/-!
# Generated identifiers

Hosts and probes that are created at run time get numbers that grow with time. A number holds the
milliseconds at which its source was started, two small numbers that tell servers apart, and an
index. A source makes numbers by the bucket and hands each bucket out from its last number to its
first; whenever the index runs over, the milliseconds grow by one, so that no number comes twice.
-/

namespace Hostwatch

/-- A source of identifiers. -/
structure IdSource where
  millis : Int
  machine : Nat
  node : Nat
  index : Nat := 0
  /-- What is left of the bucket, the next number first. -/
  bucket : List Int := []
  deriving Repr, DecidableEq

namespace IdSource

/-- How many numbers a bucket holds. -/
def bucketSize : Nat := 4091

/-- A source that starts at `time`. Of the two small numbers the lowest five bits count. -/
def start (time : Timestamp) (machine node : Int) : IdSource :=
  { millis := time.millis, machine := (machine % 32).toNat, node := (node % 32).toNat }

/-- The number for an index, as a signed 64-bit word. -/
def number (s : IdSource) : Int :=
  Int.bmod (s.millis * 0x400000) Word.count64 + (s.machine * 0x20000 + s.node * 0x1000 + s.index : Nat)

/-- Moves to the next index. -/
def advance (s : IdSource) : IdSource :=
  let index := (s.index + 1) % 4096
  { s with index, millis := if index == 0 then s.millis + 1 else s.millis }

/-- Adds `count` numbers to the bucket. -/
def fill : Nat → IdSource → IdSource
  | 0, s => s
  | count + 1, s =>
    let s := s.advance
    fill count { s with bucket := s.number :: s.bucket }

/-- The next number and the source after it. -/
def next (s : IdSource) : Int × IdSource :=
  match s.bucket with
  | id :: rest => (id, { s with bucket := rest })
  | [] =>
    let s := fill bucketSize s
    match s.bucket with
    | id :: rest => (id, { s with bucket := rest })
    | [] => (s.number, s)

/-- The next identifier as text. -/
def nextText (s : IdSource) : String × IdSource :=
  let (id, s) := s.next
  (Number.intText id, s)

/-- The next identifiers, as many as wanted. -/
def texts (s : IdSource) : (count : Nat) → List String
  | 0 => []
  | count + 1 =>
    let (id, s) := s.nextText
    id :: s.texts count

end IdSource

end Hostwatch
