import Hostwatch.Agent.Reading
import Hostwatch.Http

/-!
# The status page of a PHP-FPM pool

Lines with a key and a value, among them the name of the pool.
-/

namespace Hostwatch.PhpFpm

structure Params where
  url : String := "http://127.0.0.1/status"
  deriving Repr, DecidableEq

namespace Params

open Json Decoder in
def shape : Shape :=
  { name := "PhpFpmParams", closed := true, fields := [.optional "url" string] }

open Json Decoder in
/-- Reads parameters; `null` stands for the defaults. -/
def ofJson : Decoder Params
  | .null => .ok {}
  | j => do
    let r ← shape.read j
    return { url := ← fieldD r "url" "http://127.0.0.1/status" string }

def toJson (p : Params) : Json :=
  Json.ofMembers [("url", .str p.url)]

end Params

/-- The keys that count: their fields and kinds. -/
def keys : List (String × String × FieldKind) :=
  [("accepted conn", "accepted_conn", .counter), ("slow requests", "slow_requests", .counter),
    ("max children reached", "max_children_reached", .counter),
    ("listen queue", "listen_queue", .gauge), ("max listen queue", "max_listen_queue", .gauge),
    ("listen queue len", "listen_queue_len", .gauge), ("idle processes", "idle_processes", .gauge),
    ("active processes", "active_processes", .gauge),
    ("total processes", "total_processes", .gauge),
    ("max active processes", "max_active_processes", .gauge), ("start since", "uptime", .gauge)]

private def zeros (kind : FieldKind) : Counters :=
  Table.ofList (keys.filterMap fun (_, field, k) => if k == kind then some (field, 0.0) else none)

/-- One page; what it does not say is zero. -/
structure Page where
  pool : Option String := none
  counters : Counters := zeros .counter
  gauges : Counters := zeros .gauge

namespace Page

/-- Adds what a line says. -/
def addLine (page : Page) (line : List Char) : Page :=
  match Text.splitOnce ':' line with
  | none => page
  | some (key, value) =>
    let key := String.ofList (Text.trim key)
    if key == "pool" then { page with pool := some (String.ofList (Text.trim value)) }
    else
      match keys.lookup key with
      | some (field, .counter) =>
        { page with counters := page.counters.insert field (Reading.number value) }
      | some (field, .gauge) =>
        { page with gauges := page.gauges.insert field (Reading.number value) }
      | none => page

/-- Reads a page. -/
def ofText (body : List Char) : Page :=
  (Text.lines body).foldl addLine {}

end Page

def read (p : Params) : Dialogue (Except Failure (Page × Timestamp)) := do
  match Url.read p.url with
  | .error e => return .error e
  | .ok url => Reading.timed ((← Http.getOk url).map fun body => Page.ofText body.toList)

def points (h : History Page) : List Point :=
  (h.last.map fun (page, time) =>
    let point := (({ name := "phpfpm", time } : Point).numbers page.gauges).numbers
      (h.ratesOfOne Rates.countPlaces Page.counters)
    match page.pool with
    | some pool => point.tag "pool" pool
    | none => point).toList

def doc : Doc :=
  ({ summary := "PHP-FPM pool statistics from the pm.status_path page." } : Doc)
    |>.param "url" "string" "URL of the FPM status page" (some "http://127.0.0.1/status")
    |>.metric "phpfpm" "process and listen queue gauges; accepted_conn, slow_requests per second; tagged by pool"

end Hostwatch.PhpFpm
