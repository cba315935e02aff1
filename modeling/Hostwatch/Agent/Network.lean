import Hostwatch.Agent.Reading

/-!
# Network interfaces

The kernel prints a table of counters with a line for each interface, its name before a colon.
-/

namespace Hostwatch.Network

def path : String := "/proc/net/dev"

/-- The columns behind the name of the interface. -/
def columns : List String :=
  ["bytes_recv", "packets_recv", "errin", "dropin", "fifoin", "framein", "compressedin",
    "multicastin", "bytes_sent", "packets_sent", "errout", "dropout", "fifoout", "colls",
    "carrier", "compressedout"]

/-- Adds what a line says. The two lines at the head of the table have bars before their first
colon, if they have one. -/
def addLine (sample : Sample) (line : List Char) : Sample :=
  match Text.splitOnce ':' line with
  | none => sample
  | some (interface, rest) =>
    if interface.contains '|' then sample
    else
      sample.insert (String.ofList (Text.trim interface)) (Reading.columns columns (Text.words rest))

/-- Reads a report. -/
def ofText (text : List Char) : Sample :=
  (Text.lines text).foldl addLine []

def read : Dialogue (Except Failure (Sample × Timestamp)) := do
  Reading.timed ((← Reading.file path).map ofText)

def points (h : History Sample) : List Point :=
  match h.last with
  | none => []
  | some (_, time) =>
    (h.rates Rates.countPlaces id).map fun (interface, rates) =>
      (({ name := "network.interface", time } : Point).tag "interface" interface).numbers rates

def doc : Doc :=
  ({ summary := "Network interface counters as per-second rates, from /proc/net/dev." } : Doc)
    |>.metric "network.interface" "bytes/packets sent and received, errors, drops; tagged by interface"

end Hostwatch.Network
