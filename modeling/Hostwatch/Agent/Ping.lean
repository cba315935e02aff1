import Hostwatch.Agent.Reading

/-!
# Echo requests

Reachability of a target, measured with the host's own `ping` and read off the summary that it
prints.
-/

namespace Hostwatch.Ping

structure Params where
  target : String
  count : Nat := 3
  /-- Seconds to wait for each reply. -/
  timeout : Nat := 2
  deriving Repr, DecidableEq

namespace Params

open Json Decoder in
def shape : Shape :=
  { name := "PingParams"
    closed := true
    fields := [.mandatory "target" string, .optional "count" word32, .optional "timeout" word32] }

open Json Decoder in
def ofJson : Decoder Params := fun j => do
  let r ← shape.read j
  return {
    target := ← field r "target" string
    count := ← fieldD r "count" 3 word32
    timeout := ← fieldD r "timeout" 2 word32 }

def toJson (p : Params) : Json :=
  Json.ofMembers [("target", .str p.target), ("count", .int p.count), ("timeout", .int p.timeout)]

/-- At least one request is sent. -/
def requests (p : Params) : Nat := max p.count 1

def args (p : Params) : List String :=
  ["-c", Number.natText p.requests, "-W", Number.natText (max p.timeout 1), "-q", p.target]

end Params

/-! ## The summary -/

private def dropAllAtEnd (c : Char) (cs : List Char) : List Char :=
  (cs.reverse.dropWhile (· == c)).reverse

/-- Takes a text off the end as often as it stands there. -/
private def dropTextAtEnd (mark cs : List Char) : List Char :=
  go cs.length cs.reverse
where
  go : Nat → List Char → List Char
    | 0, cs => cs.reverse
    | fuel + 1, cs =>
      match Text.after? mark.reverse cs with
      | some rest => if mark.isEmpty then cs.reverse else go fuel rest
      | none => cs.reverse

/-- The field of a part of the line of totals. -/
private def totalField? (part : List Char) : Option String :=
  if Text.contains "transmitted".toList part then some "transmitted"
  else if Text.contains "received".toList part then some "received"
  else if Text.contains "packet loss".toList part then some "loss_percent"
  else none

/-- Adds the totals: parts separated by commas that begin with their number. -/
private def addTotals (values : Counters) (line : List Char) : Counters :=
  (Text.splitBy (· == ',') line).foldl (fun values part =>
    match totalField? part with
    | some field =>
      values.insert field (Reading.numberAt ((Text.words part).map (dropAllAtEnd '%')) 0)
    | none => values) values

/-- Adds the shortest, the average and the longest time, separated by slashes. -/
private def addTimes (values : Counters) (numbers : List Char) : Counters :=
  let trimmed := Text.trim (dropTextAtEnd "ms".toList (Text.trim numbers))
  let parts := Text.splitBy (· == '/') trimmed
  values
    |>.insert "rtt_min_ms" (Reading.numberAt parts 0)
    |>.insert "rtt_avg_ms" (Reading.numberAt parts 1)
    |>.insert "rtt_max_ms" (Reading.numberAt parts 2)

/-- Adds what a line says. -/
def addLine (values : Counters) (line : List Char) : Counters :=
  if Text.contains "packets transmitted".toList line then addTotals values line
  else
    match Text.splitOnce '=' line with
    | some (labels, numbers) =>
      if Text.contains "min/avg/max".toList labels then addTimes values numbers else values
    | none => values

/-- Reads a summary. -/
def ofText (text : List Char) : Counters :=
  (Text.lines text).foldl addLine []

/-- What it means that no reply came at all. -/
def silence (p : Params) : Counters :=
  Table.ofList
    [("transmitted", Binary64.ofInt p.requests), ("received", 0.0), ("loss_percent", 100.0)]

def read (p : Params) : Dialogue (Except Failure (Counters × Timestamp)) := do
  match ← Reading.command "ping" p.args with
  | .ok text => Reading.timed (.ok (ofText text))
  | .error (.exitStatus _ 1 _) => Reading.timed (.ok (silence p))
  | .error e => return .error (.transport e)

def points (p : Params) (last : Option (Counters × Timestamp)) : List Point :=
  (last.map fun (values, time) =>
    (({ name := "ping", time } : Point).tag "target" p.target).numbers values).toList

def doc : Doc :=
  ({ summary := "ICMP echo round trips using the ping command on the host." } : Doc)
    |>.param "target" "string" "Host name or address to ping"
    |>.param "count" "integer" "Echo requests per gather" (some "3")
    |>.param "timeout" "integer" "Seconds to wait for each reply" (some "2")
    |>.metric "ping" "transmitted, received, loss_percent, rtt_min_ms, rtt_avg_ms, rtt_max_ms; tagged by target"

end Hostwatch.Ping
