import Hostwatch.Agent.Reading

/-!
# Sockets

The kernel reports the sockets of each protocol: a section before a colon, then keys and numbers in
turn.
-/

namespace Hostwatch.Sockets

def path : String := "/proc/net/sockstat"

/-- The keys that count, by section, and their fields. -/
def keys : List (String × String × String) :=
  [("sockets", "used", "used"), ("TCP", "inuse", "tcp_inuse"), ("TCP", "orphan", "tcp_orphan"),
    ("TCP", "tw", "tcp_time_wait"), ("TCP", "alloc", "tcp_alloc"), ("TCP", "mem", "tcp_mem"),
    ("UDP", "inuse", "udp_inuse"), ("UDP", "mem", "udp_mem"), ("RAW", "inuse", "raw_inuse")]

/-- Adds the keys and numbers of a section. A key at the end without a number counts as zero. -/
def addPairs (section' : String) (values : Counters) : List (List Char) → Counters
  | [] => values
  | key :: rest =>
    let values :=
      match keys.find? fun (s, k, _) => s == section' && k == String.ofList key with
      | some (_, _, field) => values.insert field (Reading.numberAt rest 0)
      | none => values
    match rest with
    | [] => values
    | _ :: rest => addPairs section' values rest

/-- Adds what a line says. -/
def addLine (values : Counters) (line : List Char) : Counters :=
  match Text.splitOnce ':' line with
  | none => values
  | some (name, rest) => addPairs (String.ofList (Text.trim name)) values (Text.words rest)

/-- Reads a report; what it does not say is zero. -/
def ofText (text : List Char) : Counters :=
  (Text.lines text).foldl addLine (Table.ofList (keys.map fun (_, _, field) => (field, 0.0)))

def read : Dialogue (Except Failure (Counters × Timestamp)) := do
  Reading.timed ((← Reading.file path).map ofText)

def points (last : Option (Counters × Timestamp)) : List Point :=
  (last.map fun (values, time) => ({ name := "sockets", time } : Point).numbers values).toList

def doc : Doc :=
  ({ summary := "Socket usage by protocol, from /proc/net/sockstat." } : Doc)
    |>.metric "sockets" "used, tcp_inuse, tcp_orphan, tcp_time_wait, tcp_alloc, udp_inuse..."

end Hostwatch.Sockets
