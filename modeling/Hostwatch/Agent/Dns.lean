import Hostwatch.Number.Word
import Hostwatch.Agent.Reading
import Hostwatch.Dns.Message
import Hostwatch.Dns.RecordType

/-!
# Name servers

Asks a name server one question and records how long the answer took, how many records it held and
its result code.
-/

namespace Hostwatch.Resolver

structure Params where
  /-- The address of the server. -/
  server : String := "127.0.0.1:53"
  /-- The name to ask for. -/
  query : String := "example.com."
  recordType : String := "A"
  /-- Datagrams or a stream. Remote hosts only pass streams on. -/
  network : String := "udp"
  deriving Repr, DecidableEq

namespace Params

open Json Decoder in
def shape : Shape :=
  { name := "DnsParams"
    closed := true
    fields :=
      [.optional "server" string, .optional "query" string, .optional "record_type" string,
        .optional "network" string] }

open Json Decoder in
/-- Reads parameters; `null` stands for the defaults. -/
def ofJson : Decoder Params
  | .null => .ok {}
  | j => do
    let r ← shape.read j
    return {
      server := ← fieldD r "server" "127.0.0.1:53" string
      query := ← fieldD r "query" "example.com." string
      recordType := ← fieldD r "record_type" "A" string
      network := ← fieldD r "network" "udp" string }

def toJson (p : Params) : Json :=
  Json.ofMembers
    [("server", .str p.server), ("query", .str p.query), ("record_type", .str p.recordType),
      ("network", .str p.network)]

/-- The name and the number of the type to ask for, if the parameters make sense. -/
def check (p : Params) : Except Failure (Dns.Name × Nat) :=
  if p.network != "udp" && p.network != "tcp" then
    .error (.other ("unsupported network '" ++ p.network ++ "', expected udp or tcp"))
  else
    match Dns.Name.read? p.query with
    | none => .error { context := ["invalid query name '" ++ p.query ++ "'"], cause := .dns }
    | some name =>
      match Dns.recordType? p.recordType with
      | none =>
        .error { context := ["invalid record type '" ++ p.recordType ++ "'"], cause := .dns }
      | some recordType => .ok (name, recordType)

end Params

/-- The largest datagram that is taken. -/
def maxDatagram : Nat := 4096

/-- What happens when a connection ends too early. -/
def shortRead : IoError := ⟨.unexpectedEof, "failed to fill whole buffer"⟩

/-- Reads a number of octets, and no fewer. -/
def receiveExactly (count : Nat) : Dialogue (Except IoError Octets) := do
  match ← Dialogue.receiveUpTo count [] with
  | .ok octets => return if octets.length == count then .ok octets else .error shortRead
  | .error e => return .error e

/-- A message with its length in front, in two octets of which the first weighs more. -/
def framed (message : Octets) : Octets :=
  UInt8.ofNat (message.length / 256) :: UInt8.ofNat (message.length % 256) :: message

/-- Reads a message that has its length in front. -/
def receiveFramed : Dialogue (Except Failure Octets) := do
  match ← receiveExactly 2 with
  | .ok [high, low] =>
    return (← receiveExactly (high.toNat * 256 + low.toNat)).mapError Failure.io
  | .ok _ => return .error (.io shortRead)
  | .error e => return .error (.io e)

/-- Sends a query as a stream of octets, where each message has its length in front. -/
def exchangeStream (query : Octets) : Dialogue (Except Failure Octets) := do
  if query.length ≥ Word.count16 then
    return .error { context := ["query too large"], cause := .integer .tooLarge }
  match ← Dialogue.query (.send (framed query)) with
  | .error e => return .error (.io e)
  | .ok () => receiveFramed

/-- Sends a query as a datagram. -/
def exchangeDatagram (query : Octets) : Dialogue (Except Failure Octets) := do
  match ← Dialogue.query (.send query) with
  | .error e => return .error (.io e)
  | .ok () => return (← Dialogue.query (.receive maxDatagram)).mapError Failure.io

/-- Sends a query and takes what comes back: over a stream or as a datagram. -/
def exchange (network : String) (query : Octets) : Dialogue (Except Failure Octets) :=
  if network == "tcp" then exchangeStream query else exchangeDatagram query

/-- What came of a question. -/
structure Answer where
  queryMillis : Float
  answers : Nat
  code : Nat

/-- What a response says, if it is one to the query with that number. -/
def Answer.ofOctets (id : Nat) (queryMillis : Float) (octets : Octets) : Except Failure Answer :=
  match Dns.Summary.read? octets with
  | none => .error { context := ["malformed DNS response"], cause := .dns }
  | some r =>
    if r.id == id then .ok ⟨queryMillis, r.answers, r.code⟩
    else .error (.other "DNS response id does not match query id")

def read (p : Params) : Dialogue (Except Failure (Answer × Timestamp)) := do
  match p.check with
  | .error e => return .error e
  | .ok (name, recordType) =>
    let id ← Dialogue.random
    match Dns.query? id name recordType with
    | none => return .error { cause := .dns }
    | some query =>
      let start ← Dialogue.uptime
      match ← Dialogue.query (.dial p.network p.server) with
      | .error e =>
        return .error ((Failure.transport e).within ("connecting to DNS server " ++ p.server))
      | .ok () =>
        let response ← exchange p.network query
        let finish ← Dialogue.uptime
        let _ ← Dialogue.query .close
        match response with
        | .error e => return .error e
        | .ok octets => Reading.timed (Answer.ofOctets id (millisOfNanos (finish - start)) octets)

def points (p : Params) (last : Option (Answer × Timestamp)) : List Point :=
  (last.map fun (answer, time) =>
    ((((({ name := "dns", time } : Point).tag "server" p.server).tag "domain" p.query).tag
      "record_type" p.recordType).number "query_time_ms" answer.queryMillis)
      |>.number "answers" (Binary64.ofInt answer.answers)
      |>.number "rcode" (Binary64.ofInt answer.code)).toList

def doc : Doc :=
  ({ summary := "DNS query round trip against a specific server." } : Doc)
    |>.param "server" "string" "host:port of the DNS server" (some "127.0.0.1:53")
    |>.param "query" "string" "Name to resolve" (some "example.com.")
    |>.param "record_type" "string" "Record type to ask for" (some "A")
    |>.param "network" "string" "udp or tcp" (some "udp")
    |>.metric "dns" "query_time_ms, answers, rcode; tagged by server, domain, record_type"

end Hostwatch.Resolver
