import Hostwatch.Number.Word
import Hostwatch.Store.Probe

/-!
# When a probe runs

A probe is due once its next check has come. One that fell more than two intervals behind counts as
new, so that probes restored from old records do not all run at once; a new probe gets its first
check at a random moment of the coming interval.
-/

namespace Hostwatch

/-- Where a probe stands relative to the clock. -/
inductive ProbeState where
  /-- It was never scheduled, or fell so far behind that it counts as new. -/
  | unscheduled
  /-- Its next check lies ahead. -/
  | idle
  | due
  | running
  deriving Repr, DecidableEq

def ProbeState.name : ProbeState → String
  | .unscheduled => "unscheduled"
  | .idle => "idle"
  | .due => "due"
  | .running => "running"

/-- Where a probe stands at `now`. -/
def Probe.state {α : Type} (p : Probe α) (now : Timestamp) (running : Bool) : ProbeState :=
  if running then .running
  else
    match p.nextCheck with
    | none => .unscheduled
    | some next =>
      if p.interval.double < now.since next then .unscheduled
      else if next ≤ now then .due
      else .idle

/-! ### The first check -/

namespace Jitter

/-- The greatest low half of a product that is accepted when a number below `n` is drawn: the words
that lead to an accepted product are as many for each number. -/
def zone (n : Nat) : Nat :=
  n * Word.pow2 (63 - Nat.log2 n) - 1

/-- A number below `n` from random words, and the words that are left. A word is multiplied by `n`;
the high half of the product is the number, unless the low half is above the zone and the next word
has its turn. When the words run out the number is zero. -/
def below (n : Nat) : List Nat → Nat × List Nat
  | [] => (0, [])
  | w :: rest =>
    if w * n % Word.count64 ≤ zone n then (w * n / Word.count64, rest) else below n rest

end Jitter

/-- The first check of a new probe: a whole number of milliseconds after `now`, less than the
interval. Nothing if that is beyond the calendar. Also the words that are left. -/
def jitteredStart (now : Timestamp) (interval : Span) (words : List Nat) :
    Option Timestamp × List Nat :=
  let millis := interval.millis
  if millis ≤ 0 then (some now, words)
  else
    let (offset, rest) := Jitter.below millis.toNat words
    (now.add? (.ofMillis offset), rest)

end Hostwatch
