import Hostwatch.Json.Basic

/-!
# TOML values

A document is a table. While it is read, the document remembers how each table came to be, because
that decides where more may be added to it: a table of which only a longer header spoke can still
get a header of its own, one that dotted keys made can get more dotted keys, and a value in braces
or brackets is closed. `Entries.set?` adds a pair under these rules, and `Entries.open?` and
`Entries.append?` do so for the two kinds of header.
-/

namespace Hostwatch

/-- A value. -/
inductive Toml where
  | bool (value : Bool)
  | int (value : Int)
  | float (value : Float)
  | str (value : String)
  /-- A date, a time or both, in its normal form. -/
  | datetime (text : String)
  | arr (items : List Toml)
  | table (entries : List (String × Toml))
  deriving Inhabited

namespace Toml

/-- The member under which a date is carried in a JSON value. -/
def dateKey : String := "$__toml_private_datetime"

mutual

/-- The value as JSON. -/
def toJson : Toml → Json
  | .bool b => .bool b
  | .int n => .int n
  | .float x => .float x
  | .str s => .str s
  | .datetime t => .obj [(dateKey, .str t)]
  | .arr items => .arr (itemsToJson items)
  | .table entries => .ofMembers (entriesToJson entries)

def itemsToJson : List Toml → List Json
  | [] => []
  | item :: rest => toJson item :: itemsToJson rest

def entriesToJson : List (String × Toml) → List (String × Json)
  | [] => []
  | (key, value) :: rest => (key, toJson value) :: entriesToJson rest

end

/-- How a table came to be. -/
inductive Origin where
  /-- It has a header of its own, or is the document. -/
  | header
  /-- It is on the way to a table with a header. -/
  | implied
  /-- It is on the way to the last part of a dotted key. -/
  | dotted
  deriving Repr, DecidableEq

/-- What stands under a key of an unfinished document. -/
inductive Node where
  | value (v : Toml)
  | table (origin : Origin) (entries : List (String × Node))
  /-- The tables of a header in double brackets, the latest first. -/
  | tables (latest : List (String × Node)) (earlier : List (List (String × Node)))
  deriving Inhabited

/-- The entries of an unfinished table. -/
abbrev Entries := Table Node

namespace Entries

/-- Changes the table at the end of a path; `f` is told how that table came to be. Tables that are
missing on the way are made. A dotted key does not enter a table that has a header. -/
def modify? (dotted : Bool) (path : List String) (f : Origin → Entries → Option Entries)
    (origin : Origin) (entries : Entries) : Option Entries :=
  match path with
  | [] => f origin entries
  | key :: rest =>
    match Table.get? entries key with
    | none => do
      let origin := if dotted then .dotted else .implied
      return entries.insert key (.table origin (← modify? dotted rest f origin []))
    | some (.value _) => none
    | some (.tables latest earlier) => do
      return entries.insert key (.tables (← modify? dotted rest f .header latest) earlier)
    | some (.table origin inner) => do
      if dotted && origin == .header then none
      return entries.insert key (.table origin (← modify? dotted rest f origin inner))

/-- Adds a pair with a dotted key to a table. -/
def set? (path : List String) (key : String) (value : Toml) (entries : Entries) : Option Entries :=
  modify? true path (fun origin inner =>
    if (origin == .dotted) == path.isEmpty || (Table.get? inner key).isSome then none
    else some (inner.insert key (.value value))) .header entries

/-- Opens the table of a header. -/
def open? (path : List String) (key : String) (entries : Entries) : Option Entries :=
  modify? false path (fun _ inner =>
    match Table.get? inner key with
    | none => some (inner.insert key (.table .header []))
    | some (.table .implied found) => some (inner.insert key (.table .header found))
    | some _ => none) .header entries

/-- Opens one more table of a header in double brackets. -/
def append? (path : List String) (key : String) (entries : Entries) : Option Entries :=
  modify? false path (fun _ inner =>
    match Table.get? inner key with
    | none => some (inner.insert key (.tables [] []))
    | some (.tables latest earlier) => some (inner.insert key (.tables [] (latest :: earlier)))
    | some _ => none) .header entries

/-- Adds a pair to the table that the path of a header leads to. -/
def setUnder? (header : List String) (path : List String) (key : String) (value : Toml)
    (entries : Entries) : Option Entries :=
  modify? false header (fun _ inner => set? path key value inner) .header entries

end Entries

mutual

/-- The value of a finished node. -/
def Node.toToml : Node → Toml
  | .value v => v
  | .table _ entries => .table (Node.finish entries)
  | .tables latest earlier => .arr (Node.finishAll earlier [.table (Node.finish latest)])

/-- The entries of a finished table. -/
def Node.finish : List (String × Node) → List (String × Toml)
  | [] => []
  | (key, node) :: rest => (key, node.toToml) :: Node.finish rest

/-- The finished tables in front of later ones. -/
def Node.finishAll : List (List (String × Node)) → List Toml → List Toml
  | [], later => later
  | entries :: rest, later => Node.finishAll rest (.table (Node.finish entries) :: later)

end

end Toml

end Hostwatch
