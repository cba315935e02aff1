import Hostwatch.Agent.Reading

/-!
# Block devices

The kernel prints a line of counters for each device. Amounts of data are counted in sectors.
-/

namespace Hostwatch.Disk

def path : String := "/proc/diskstats"

def sectorSize : Float := 512.0

/-- The columns behind the name of the device: the field, its kind and the size of a unit. -/
def columns : List (String × FieldKind × Float) :=
  [("reads", .counter, 1.0), ("read_merged", .counter, 1.0), ("read_bytes", .counter, sectorSize),
    ("read_time", .counter, 1.0), ("writes", .counter, 1.0), ("write_merged", .counter, 1.0),
    ("write_bytes", .counter, sectorSize), ("write_time", .counter, 1.0),
    ("in_progress", .gauge, 1.0), ("io_time", .counter, 1.0), ("weighted_io_time", .counter, 1.0)]

/-- One report of the kernel. -/
structure Report where
  counters : Sample := []
  gauges : Sample := []

namespace Report

/-- Whether a device only stands for memory or for a file. -/
def isVirtual (device : List Char) : Bool :=
  (Text.after? "loop".toList device).isSome || (Text.after? "ram".toList device).isSome

/-- The numbers of a line that belong to columns of one kind. -/
def fields (kind : FieldKind) (tokens : List (List Char)) : Counters :=
  Table.ofList (columns.zipIdx.filterMap fun ((field, k, unit), index) =>
    if k == kind then some (field, Reading.numberAt tokens index * unit) else none)

/-- Adds what a line says. -/
def addLine (r : Report) (line : List Char) : Report :=
  match (Text.words line).drop 2 with
  | [] => r
  | device :: tokens =>
    if isVirtual device then r
    else
      let name := String.ofList device
      { counters := r.counters.insert name (fields .counter tokens)
        gauges := r.gauges.insert name (fields .gauge tokens) }

/-- Reads a report. -/
def ofText (text : List Char) : Report :=
  (Text.lines text).foldl addLine {}

end Report

def read : Dialogue (Except Failure (Report × Timestamp)) := do
  Reading.timed ((← Reading.file path).map Report.ofText)

def points (h : History Report) : List Point :=
  match h.last with
  | none => []
  | some (report, time) =>
    (h.rates Rates.countPlaces Report.counters).map fun (device, rates) =>
      ((({ name := "disk.io", time } : Point).tag "device" device).numbers rates).numbers
        ((report.gauges.get? device).getD [])

def doc : Doc :=
  ({ summary := "Block device activity as per-second rates, from /proc/diskstats." } : Doc)
    |>.metric "disk.io" "reads, writes, bytes, time spent; in_progress gauge; tagged by device"

end Hostwatch.Disk
