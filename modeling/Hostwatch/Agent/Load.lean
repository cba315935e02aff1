import Hostwatch.Agent.Reading

/-!
# Load averages

One line with the averages of the run queue over one, five and fifteen minutes, and how many of the
kernel's threads are running.
-/

namespace Hostwatch.Load

def path : String := "/proc/loadavg"

structure Report where
  load1 : Float
  load5 : Float
  load15 : Float
  running : Float
  threads : Float

/-- Reads a report. -/
def Report.ofText (text : List Char) : Report :=
  let tokens := Text.words text
  let (running, threads) :=
    match tokens[3]?.bind (Text.splitOnce '/') with
    | some (running, threads) => (Reading.number running, Reading.number threads)
    | none => (0.0, 0.0)
  { load1 := Reading.numberAt tokens 0
    load5 := Reading.numberAt tokens 1
    load15 := Reading.numberAt tokens 2
    running, threads }

def read : Dialogue (Except Failure (Report × Timestamp)) := do
  Reading.timed ((← Reading.file path).map Report.ofText)

def points (last : Option (Report × Timestamp)) : List Point :=
  (last.map fun (r, time) =>
    ({ name := "load", time } : Point)
      |>.number "load1" r.load1
      |>.number "load5" r.load5
      |>.number "load15" r.load15
      |>.number "running" r.running
      |>.number "threads" r.threads).toList

def doc : Doc :=
  ({ summary := "System load averages, from /proc/loadavg." } : Doc)
    |>.metric "load" "load1, load5, load15, running and total scheduling entities"

end Hostwatch.Load
