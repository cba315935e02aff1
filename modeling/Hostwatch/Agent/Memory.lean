import Hostwatch.Agent.Reading

/-!
# Memory

The kernel reports how its memory is used, in kilobytes.
-/

namespace Hostwatch.Memory

def path : String := "/proc/meminfo"

/-- The keys that count, and their fields. -/
def keys : List (String × String) :=
  [("MemTotal", "total"), ("MemFree", "free"), ("MemAvailable", "available"),
    ("Buffers", "buffers"), ("Cached", "cached"), ("Shmem", "shared"), ("Dirty", "dirty"),
    ("SwapTotal", "swap_total"), ("SwapFree", "swap_free")]

/-- Adds what a line says. -/
def addLine (values : Counters) (line : List Char) : Counters :=
  match Text.splitOnce ':' line with
  | none => values
  | some (key, rest) =>
    match keys.lookup (String.ofList (Text.trim key)) with
    | some field => values.insert field (Reading.numberAt (Text.words rest) 0 * 1024.0)
    | none => values

/-- Reads a report; what it does not say is zero. -/
def ofText (text : List Char) : Counters :=
  (Text.lines text).foldl addLine (Table.ofList (keys.map fun (_, field) => (field, 0.0)))

def read : Dialogue (Except Failure (Counters × Timestamp)) := do
  Reading.timed ((← Reading.file path).map ofText)

/-- The number itself if it is positive, else zero. -/
def atLeastZero (x : Float) : Float :=
  if x > 0.0 then x else 0.0

/-- What follows from the values of a report. -/
def point (values : Counters) (time : Timestamp) : Point :=
  let get (field : String) : Float := (values.get? field).getD 0.0
  let total := get "total"
  let used := atLeastZero (total - get "free" - get "buffers" - get "cached")
  (({ name := "memory", time } : Point).numbers values)
    |>.number "used" used
    |>.number "used_percent" (if total > 0.0 then used / total * 100.0 else 0.0)
    |>.number "swap_used" (atLeastZero (get "swap_total" - get "swap_free"))

def points (last : Option (Counters × Timestamp)) : List Point :=
  (last.map fun (values, time) => point values time).toList

def doc : Doc :=
  ({ summary := "Memory and swap usage in bytes, from /proc/meminfo." } : Doc)
    |>.metric "memory" "total, free, available, buffers, cached, used, used_percent, swap_*"

end Hostwatch.Memory
