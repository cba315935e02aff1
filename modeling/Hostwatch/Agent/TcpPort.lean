import Hostwatch.Agent.Reading

/-!
# TCP ports

Whether a port takes connections, and how long that takes. A connection that is refused or times
out is a measurement. A broken session to the host is not, for it says nothing about the port.
-/

namespace Hostwatch.TcpPort

structure Params where
  address : String := "127.0.0.1:80"
  deriving Repr, DecidableEq

namespace Params

open Json Decoder in
def shape : Shape :=
  { name := "TcpPortParams", closed := true, fields := [.optional "address" string] }

open Json Decoder in
/-- Reads parameters; `null` stands for the defaults. -/
def ofJson : Decoder Params
  | .null => .ok {}
  | j => do
    let r ← shape.read j
    return { address := ← fieldD r "address" "127.0.0.1:80" string }

def toJson (p : Params) : Json :=
  Json.ofMembers [("address", .str p.address)]

end Params

/-- What came of dialing: the milliseconds it took, or nothing if the port is closed. -/
abbrev Outcome := Option Float

def read (p : Params) : Dialogue (Except Failure (Outcome × Timestamp)) := do
  let start ← Dialogue.uptime
  match ← Dialogue.query (.dial "tcp" p.address) with
  | .ok () =>
    let finish ← Dialogue.uptime
    let _ ← Dialogue.query .close
    Reading.timed (.ok (some (millisOfNanos (finish - start))))
  | .error e =>
    if e.isSessionFailure then
      return .error ((Failure.transport e).within ("dialing " ++ p.address))
    else Reading.timed (.ok none)

def points (p : Params) (last : Option (Outcome × Timestamp)) : List Point :=
  (last.map fun (outcome, time) =>
    let point := (({ name := "tcpport", time } : Point).tag "address" p.address).field "up"
      (.bool outcome.isSome)
    match outcome with
    | some latency => point.number "latency_ms" latency
    | none => point).toList

def doc : Doc :=
  ({ summary := "TCP connect check through the host's transport." } : Doc)
    |>.param "address" "string" "host:port to connect to" (some "127.0.0.1:80")
    |>.metric "tcpport" "up (bool) and latency_ms of the connect; tagged by address"

end Hostwatch.TcpPort
