import Hostwatch.Number.Text
import Hostwatch.Text.Split
import Hostwatch.Time.Timestamp

/-!
# The time of day

The kernel says when it was started, in seconds, and for how long it has been running. Together
they give the time of day.
-/

namespace Hostwatch.Local.Clock

/-- The second at which the kernel was started, from its report of processor time. -/
def bootSecond? (stat : List Char) : Option Nat :=
  (Text.lines stat).findSome? fun line => do
    let number ← Text.after? "btime ".toList line
    Number.readNat? (Text.trim number)

/-- For how many nanoseconds the kernel has been running, from the seconds with two decimals that it
reports. -/
def running? (uptime : List Char) : Option Nat := do
  let first ← (Text.words uptime).head?
  let (seconds, hundredths) ← Text.splitOnce '.' first
  let s ← Number.readNat? seconds
  let h ← Number.readNat? hundredths
  return s * 1000000000 + h * 10000000

/-- The time of day; the start of the epoch if the kernel does not report what is needed. -/
def time (stat uptime : List Char) : Timestamp :=
  match bootSecond? stat, running? uptime with
  | some boot, some running => .ofNanos (boot * 1000000000 + running)
  | _, _ => .ofNanos 0

end Hostwatch.Local.Clock
