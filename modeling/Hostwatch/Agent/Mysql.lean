import Hostwatch.Agent.Reading

/-!
# The status of a MySQL server

The server's client on the host prints its status variables, as a table drawn with bars or as rows
with a tab.
-/

namespace Hostwatch.Mysql

structure Params where
  host : Option String := none
  port : Option Nat := none
  user : Option String := none
  /-- A file with credentials, better than a password that other users of the host can see. -/
  defaultsFile : Option String := none
  password : Option String := none
  deriving Repr, DecidableEq

namespace Params

open Json Decoder in
def shape : Shape :=
  { name := "MysqlParams"
    closed := true
    fields :=
      [.optional "host" (optional string), .optional "port" (optional word16),
        .optional "user" (optional string), .optional "defaults_file" (optional string),
        .optional "password" (optional string)] }

open Json Decoder in
/-- Reads parameters; `null` stands for the defaults. -/
def ofJson : Decoder Params
  | .null => .ok {}
  | j => do
    let r ← shape.read j
    return {
      host := ← fieldD r "host" none (optional string)
      port := ← fieldD r "port" none (optional word16)
      user := ← fieldD r "user" none (optional string)
      defaultsFile := ← fieldD r "defaults_file" none (optional string)
      password := ← fieldD r "password" none (optional string) }

def toJson (p : Params) : Json :=
  let text (name : String) (value : Option String) := value.toList.map fun v => (name, Json.str v)
  Json.ofMembers (text "host" p.host ++ (p.port.toList.map fun n : Nat => ("port", Json.int n))
    ++ text "user" p.user ++ text "defaults_file" p.defaultsFile ++ text "password" p.password)

/-- The arguments of the client. The file has to be named first. -/
def args (p : Params) : List String :=
  (p.defaultsFile.toList.map ("--defaults-extra-file=" ++ ·))
    ++ (p.host.toList.map ("--host=" ++ ·))
    ++ (p.port.toList.map fun n => "--port=" ++ Number.natText n)
    ++ (p.user.toList.map ("--user=" ++ ·))
    ++ (p.password.toList.map ("--password=" ++ ·))
    ++ ["extended-status"]

end Params

/-- The variables that count: their fields and kinds. -/
def statusVariables : List (String × String × FieldKind) :=
  [("Questions", "questions", .counter), ("Queries", "queries", .counter),
    ("Com_select", "com_select", .counter), ("Com_insert", "com_insert", .counter),
    ("Com_update", "com_update", .counter), ("Com_delete", "com_delete", .counter),
    ("Slow_queries", "slow_queries", .counter), ("Connections", "connections", .counter),
    ("Aborted_clients", "aborted_clients", .counter),
    ("Aborted_connects", "aborted_connects", .counter),
    ("Bytes_received", "bytes_received", .counter), ("Bytes_sent", "bytes_sent", .counter),
    ("Created_tmp_disk_tables", "created_tmp_disk_tables", .counter),
    ("Innodb_rows_read", "innodb_rows_read", .counter),
    ("Innodb_rows_inserted", "innodb_rows_inserted", .counter),
    ("Threads_connected", "threads_connected", .gauge),
    ("Threads_running", "threads_running", .gauge), ("Open_tables", "open_tables", .gauge),
    ("Max_used_connections", "max_used_connections", .gauge), ("Uptime", "uptime", .gauge)]

/-- One report. -/
structure Report where
  counters : Counters := []
  gauges : Counters := []

namespace Report

/-- The cells of a line: between bars, where empty ones do not count, or between tabs. -/
def cells (line : List Char) : List (List Char) :=
  if line.contains '|' then
    ((Text.splitBy (· == '|') line).map Text.trim).filter fun cell => !cell.isEmpty
  else (Text.splitBy (· == '\t') line).map Text.trim

/-- Adds what a line says. -/
def addLine (r : Report) (line : List Char) : Report :=
  match cells line with
  | [name, value] =>
    match statusVariables.lookup (String.ofList name) with
    | some (field, .counter) => { r with counters := r.counters.insert field (Reading.number value) }
    | some (field, .gauge) => { r with gauges := r.gauges.insert field (Reading.number value) }
    | none => r
  | _ => r

/-- Reads a report. -/
def ofText (text : List Char) : Report :=
  (Text.lines text).foldl addLine {}

end Report

/-- Takes a report, which has to hold a variable that counts. -/
def read (p : Params) : Dialogue (Except Failure (Report × Timestamp)) := do
  match ← Reading.command "mysqladmin" p.args with
  | .error e => return .error (.transport e)
  | .ok text =>
    let report := Report.ofText text
    if report.counters.isEmpty && report.gauges.isEmpty then
      return .error (.other "mysqladmin printed no known status variables")
    else Reading.timed (.ok report)

def points (h : History Report) : List Point :=
  (h.last.map fun (report, time) =>
    (({ name := "mysql", time } : Point).numbers report.gauges).numbers
      (h.ratesOfOne Rates.countPlaces Report.counters)).toList

def doc : Doc :=
  ({ summary := "MySQL global status through mysqladmin on the monitored host." } : Doc)
    |>.param "host" "string" "Server host, mysqladmin default when unset"
    |>.param "port" "integer" "Server port"
    |>.param "user" "string" "Login user"
    |>.param "defaults_file" "string" "Option file with credentials"
    |>.param "password" "string" "Login password"
    |>.metric "mysql" "query, connection and byte counters per second; thread and table gauges"

end Hostwatch.Mysql
