import Hostwatch.Database.LineProtocol
import Hostwatch.Text.Split
import Hostwatch.Url.Basic

/-!
# The time-series database

Batches are written over HTTP, one request each, in line protocol. A batch without any line needs
no request. Every answer but success is an error, and nothing of the batch may then be taken to be
stored.
-/

namespace Hostwatch

/-- A database, by the page that takes writes. -/
structure Influx where
  writeUrl : String
  deriving Repr, DecidableEq

namespace Influx

/-- The database of that name on a server. Slashes at the end of the server's URL do not count. -/
def ofServer (url database : String) : Influx :=
  let base := String.ofList ((url.toList.reverse.dropWhile (· == '/')).reverse)
  { writeUrl := base ++ "/write?db=" ++ database ++ "&precision=ns" }

/-- A request to write a batch. -/
structure Request where
  /-- The page on the server. -/
  target : String
  contentType : String := "text/plain; charset=utf-8"
  body : String
  deriving Repr, DecidableEq

namespace Request

/-- The first line of the request. -/
def line (r : Request) : String :=
  "POST " ++ r.target ++ " HTTP/1.1"

end Request

/-- The page that takes writes, as it stands in a request. -/
def target (db : Influx) : String :=
  match Url.parse db.writeUrl with
  | .ok url => url.path
  | .error _ => db.writeUrl

/-- The request for a batch, unless there is nothing to write. -/
def request? (db : Influx) (points : List Point) : Option Request :=
  let body := LineProtocol.render points
  if body.isEmpty then none else some { target := db.target, body }

/-- Why a batch was not written. -/
inductive WriteError where
  /-- No answer came to a request for that page. -/
  | unreachable (url : String)
  | refused (status : Nat) (reason body : String)
  deriving Repr, DecidableEq

namespace WriteError

/-- The text of the error itself; the text of what kept the server from answering may follow. -/
def message : WriteError → String
  | .unreachable url => "POST " ++ url
  | .refused status reason body =>
    "InfluxDB write returned HTTP " ++ Number.natText status ++ " " ++ reason ++ ": " ++ body

/-- The word by which reports classify the error. -/
def kind : WriteError → String
  | .unreachable _ => "Http"
  | .refused .. => "Error"

end WriteError

/-- The registered phrases for status codes. -/
def reasons : List (Nat × String) :=
  [(100, "Continue"), (101, "Switching Protocols"), (102, "Processing"), (103, "Early Hints"),
    (200, "OK"), (201, "Created"), (202, "Accepted"), (203, "Non Authoritative Information"),
    (204, "No Content"), (205, "Reset Content"), (206, "Partial Content"), (207, "Multi-Status"),
    (208, "Already Reported"), (226, "IM Used"), (300, "Multiple Choices"),
    (301, "Moved Permanently"), (302, "Found"), (303, "See Other"), (304, "Not Modified"),
    (305, "Use Proxy"), (307, "Temporary Redirect"), (308, "Permanent Redirect"),
    (400, "Bad Request"), (401, "Unauthorized"), (402, "Payment Required"), (403, "Forbidden"),
    (404, "Not Found"), (405, "Method Not Allowed"), (406, "Not Acceptable"),
    (407, "Proxy Authentication Required"), (408, "Request Timeout"), (409, "Conflict"),
    (410, "Gone"), (411, "Length Required"), (412, "Precondition Failed"),
    (413, "Payload Too Large"), (414, "URI Too Long"), (415, "Unsupported Media Type"),
    (416, "Range Not Satisfiable"), (417, "Expectation Failed"), (418, "I'm a teapot"),
    (421, "Misdirected Request"), (422, "Unprocessable Entity"), (423, "Locked"),
    (424, "Failed Dependency"), (425, "Too Early"), (426, "Upgrade Required"),
    (428, "Precondition Required"), (429, "Too Many Requests"),
    (431, "Request Header Fields Too Large"), (451, "Unavailable For Legal Reasons"),
    (500, "Internal Server Error"), (501, "Not Implemented"), (502, "Bad Gateway"),
    (503, "Service Unavailable"), (504, "Gateway Timeout"), (505, "HTTP Version Not Supported"),
    (506, "Variant Also Negotiates"), (507, "Insufficient Storage"), (508, "Loop Detected"),
    (510, "Not Extended"), (511, "Network Authentication Required")]

/-- The phrase for a status code. -/
def reason (status : Nat) : String :=
  (reasons.lookup status).getD "<unknown status code>"

/-- Whether an answer of that status has a body at all. -/
def hasBody (status : Nat) : Bool :=
  status ≥ 200 && status != 204 && status != 304

/-- What an answer means for the batch. -/
def outcome (status : Nat) (body : List Char) : Except WriteError Unit :=
  if 200 ≤ status && status < 300 then .ok ()
  else
    let body := if hasBody status then Text.trim body else []
    .error (.refused status (reason status) (String.ofList body))

end Influx

end Hostwatch
