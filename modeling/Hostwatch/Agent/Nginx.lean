import Hostwatch.Agent.Reading
import Hostwatch.Http

/-!
# The status page of nginx

A short page with the number of connections in each state and three totals.
-/

namespace Hostwatch.Nginx

structure Params where
  url : String := "http://127.0.0.1/nginx_status"
  deriving Repr, DecidableEq

namespace Params

open Json Decoder in
def shape : Shape :=
  { name := "NginxParams", closed := true, fields := [.optional "url" string] }

open Json Decoder in
/-- Reads parameters; `null` stands for the defaults. -/
def ofJson : Decoder Params
  | .null => .ok {}
  | j => do
    let r ← shape.read j
    return { url := ← fieldD r "url" "http://127.0.0.1/nginx_status" string }

def toJson (p : Params) : Json :=
  Json.ofMembers [("url", .str p.url)]

end Params

/-- One page. -/
structure Page where
  gauges : Counters :=
    Table.ofList (["active", "reading", "writing", "waiting"].map fun state => (state, 0.0))
  counters : Counters := []

namespace Page

/-- The totals stand in the line after their heading. -/
def addTotals (page : Page) (numbers : List Char) : Page :=
  let totals := Reading.columns ["accepts", "handled", "requests"] (Text.words numbers)
  { page with counters := page.counters.insertAll totals }

private def stateKey (token : List Char) : String :=
  String.ofList (((token.reverse.dropWhile (· == ':')).reverse).map Char.toLower)

/-- States and numbers in turn; those that the page does not know are skipped. -/
def addStates (gauges : Counters) : List (List Char) → Counters
  | [] => gauges
  | key :: rest =>
    let name := stateKey key
    let gauges :=
      if (gauges.get? name).isSome then gauges.insert name (Reading.numberAt rest 0) else gauges
    match rest with
    | [] => gauges
    | _ :: rest => addStates gauges rest

def setActive (page : Page) (number : List Char) : Page :=
  { page with gauges := page.gauges.insert "active" (Reading.number number) }

def setStates (page : Page) (tokens : List (List Char)) : Page :=
  { page with gauges := addStates page.gauges tokens }

/-- Adds what the lines say. -/
def addLines (page : Page) : List (List Char) → Page
  | [] => page
  | line :: rest =>
    let line := Text.trim line
    match Text.after? "Active connections:".toList line with
    | some active => addLines (page.setActive active) rest
    | none =>
      if (Text.after? "server accepts".toList line).isSome then
        match rest with
        | numbers :: rest => addLines (page.addTotals numbers) rest
        | [] => page.addTotals []
      else if (Text.after? "Reading:".toList line).isSome then
        addLines (page.setStates (Text.words line)) rest
      else addLines page rest

/-- Reads a page. -/
def ofText (body : List Char) : Page :=
  addLines {} (Text.lines body)

end Page

def read (p : Params) : Dialogue (Except Failure (Page × Timestamp)) := do
  match Url.read p.url with
  | .error e => return .error e
  | .ok url => Reading.timed ((← Http.getOk url).map fun body => Page.ofText body.toList)

def points (h : History Page) : List Point :=
  (h.last.map fun (page, time) =>
    (({ name := "nginx", time } : Point).numbers page.gauges).numbers
      (h.ratesOfOne Rates.countPlaces Page.counters)).toList

def doc : Doc :=
  ({ summary := "nginx activity from the stub_status module." } : Doc)
    |>.param "url" "string" "URL of the stub_status page" (some "http://127.0.0.1/nginx_status")
    |>.metric "nginx" "active, reading, writing, waiting connections; accepts, handled, requests per second"

end Hostwatch.Nginx
