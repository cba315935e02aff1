import Hostwatch.Number.Word
import Hostwatch.Agent.Failure
import Hostwatch.Transport.Dialogue

/-!
# Fetching a page

A page is fetched with the simplest request that servers answer, over a connection that the host's
transport dials, so it is seen as the host sees it. The answer ends with the connection and counts
up to a fixed size.
-/

namespace Hostwatch.Http

/-- How much of an answer is read. -/
def maxResponse : Nat := 0x100000

structure Response where
  status : Nat
  body : String
  deriving Repr, DecidableEq

/-- The request for a page. -/
def request (u : Url) : List Char :=
  ("GET " ++ u.path ++ " HTTP/1.0\r\nHost: " ++ u.host
    ++ "\r\nUser-Agent: oxprobe\r\nAccept: */*\r\n\r\n").toList

/-- The head and the body of an answer, which an empty line separates. -/
def splitHead (text : List Char) : List Char × List Char :=
  match Text.splitAtText "\r\n\r\n".toList text with
  | some parts => parts
  | none => (Text.splitAtText "\n\n".toList text).getD (text, [])

/-- A status code: digits, possibly after a plus sign. The first fault from the left counts, so a
number can be too large before a character that is no digit is seen. -/
def readStatus (cs : List Char) : Except IntegerError Nat :=
  match cs with
  | [] => .error .invalidDigit
  | '+' :: c :: rest => (c :: rest).foldlM step 0
  | _ => cs.foldlM step 0
where
  step (n : Nat) (c : Char) : Except IntegerError Nat :=
    if !c.isDigit then .error .invalidDigit
    else
      let next := n * 10 + (c.toNat - '0'.toNat)
      if next < Word.count16 then .ok next else .error .tooLarge

/-- The status and the body of an answer. -/
def parse (octets : Octets) : Except Failure Response :=
  let (head, body) := splitHead (Utf8.decode octets)
  let statusLine := (Text.lines head).headD []
  let invalid := "invalid status line '" ++ String.ofList statusLine ++ "'"
  match Text.words statusLine with
  | version :: code :: _ =>
    if (Text.after? "HTTP/".toList version).isNone then .error (.other invalid)
    else
      match readStatus code with
      | .ok status => .ok ⟨status, String.ofList body⟩
      | .error e => .error { context := [invalid], cause := .integer e }
  | _ => .error (.other invalid)

/-- Fetches a page, whatever its status. -/
def get (u : Url) : Dialogue (Except Failure Response) := do
  match ← Dialogue.query (.dial "tcp" u.address) with
  | .error e => return .error ((Failure.transport e).within ("connecting to " ++ u.address))
  | .ok () =>
    match ← Dialogue.query (.send (Utf8.encode (request u))) with
    | .error e => return .error (.io e)
    | .ok () =>
      let answer ← Dialogue.receiveUpTo maxResponse []
      let _ ← Dialogue.query .close
      match answer with
      | .error e => return .error (.io e)
      | .ok octets => return parse octets

/-- Fetches the body of a page, which has to have status 200. -/
def getOk (u : Url) : Dialogue (Except Failure String) := do
  match ← get u with
  | .error e => return .error e
  | .ok response =>
    if response.status == 200 then return .ok response.body
    else
      return .error (.other ("GET " ++ u.address ++ u.path ++ " returned status "
        ++ Number.natText response.status))

end Hostwatch.Http
