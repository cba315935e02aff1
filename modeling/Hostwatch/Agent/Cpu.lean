import Hostwatch.Agent.Reading

/-!
# Processor time

The kernel counts the ticks that each core spends in each state, and a few events of its own.
-/

namespace Hostwatch.Cpu

def path : String := "/proc/stat"

/-- The columns of the line of a core. -/
def coreColumns : List String :=
  ["user", "nice", "system", "idle", "iowait", "irq", "softirq", "steal", "guest", "guest_nice"]

/-- The lines with a single number: the key, the field and its kind. -/
def kernelLines : List (String × String × FieldKind) :=
  [("ctxt", "context_switches", .counter), ("intr", "interrupts", .counter),
    ("processes", "forks", .counter), ("procs_running", "running", .gauge),
    ("procs_blocked", "blocked", .gauge)]

/-- One report of the kernel. -/
structure Report where
  /-- The ticks of each core, and of all of them together under `all`. -/
  cores : Sample := []
  counters : Counters := []
  gauges : Counters := []

namespace Report

/-- Adds what a line says. -/
def addLine (r : Report) (line : List Char) : Report :=
  match Text.words line with
  | [] => r
  | key :: tokens =>
    match Text.after? "cpu".toList key with
    | some index =>
      let core := if index.isEmpty then "all" else String.ofList index
      { r with cores := r.cores.insert core (Reading.columns coreColumns tokens) }
    | none =>
      match kernelLines.find? fun (k, _) => k == String.ofList key with
      | some (_, field, .counter) =>
        { r with counters := r.counters.insert field (Reading.numberAt tokens 0) }
      | some (_, field, .gauge) =>
        { r with gauges := r.gauges.insert field (Reading.numberAt tokens 0) }
      | none => r

/-- Reads a report. -/
def ofText (text : List Char) : Report :=
  (Text.lines text).foldl addLine {}

end Report

/-- Takes a report, which has to say something about the cores. -/
def read : Dialogue (Except Failure (Report × Timestamp)) := do
  match ← Reading.file path with
  | .error e => return .error e
  | .ok text =>
    let report := Report.ofText text
    if report.cores.isEmpty then return .error (.other ("no cpu lines in " ++ path))
    else Reading.timed (.ok report)

def points (h : History Report) : List Point :=
  match h.last with
  | none => []
  | some (report, time) =>
    let cores := (h.rates Rates.tickPlaces Report.cores).map fun (core, rates) =>
      (({ name := "cpu", time } : Point).tag "core" core).numbers rates
    let kernel := (({ name := "cpu.kernel", time } : Point).numbers
      (h.ratesOfOne Rates.countPlaces Report.counters)).numbers report.gauges
    if kernel.fields.isEmpty then cores else cores ++ [kernel]

def doc : Doc :=
  ({ summary := "CPU time spent per state, from /proc/stat." } : Doc)
    |>.metric "cpu" "Ticks per second per state (user, system, idle...), tagged by core"
    |>.metric "cpu.kernel" "Context switches, interrupts and forks per second; running and blocked processes"

end Hostwatch.Cpu
