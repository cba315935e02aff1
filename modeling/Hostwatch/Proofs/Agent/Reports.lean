import Hostwatch.Agent.Cpu
import Hostwatch.Agent.Disk
import Hostwatch.Agent.Memory
import Hostwatch.Agent.Mysql
import Hostwatch.Agent.Network
import Hostwatch.Agent.PhpFpm
import Hostwatch.Agent.Sockets
import Hostwatch.Proofs.Agent.LineByLine

/-!
# What the lines of each report say

The kernel's reports, the status page of a pool and the status of a database server are all read line
by line. Each line fills some places with numbers, and that is all that it does, so a line that is
broken, unknown or there twice harms nothing but its own places.
-/

namespace Hostwatch

open LineByLine

namespace View

variable {columns : FieldKind → List String}

/-- Fields of the host alone are in order if their tables are. -/
theorem good_of_fields {counters gauges : Counters} (sorted : counters.Sorted)
    (sorted' : gauges.Sorted) (label : Option String) :
    Good columns { counters, gauges, label } := by
  refine ⟨?_, ?_, ?_⟩
  · intro kind
    cases kind with
    | counter => exact Table.sorted_nil
    | gauge => exact Table.sorted_nil
  · intro kind entity row found
    cases kind with
    | counter => cases found
    | gauge => cases found
  · intro kind
    cases kind with
    | counter => exact sorted
    | gauge => exact sorted'

end View

/-- The numbers of a row under the names of its columns. -/
def rowEntries (names : List String) (tokens : List (List Char)) : List (String × Float) :=
  names.zipIdx.map fun (name, index) => (name, Reading.numberAt tokens index)

theorem keys_rowEntries (names : List String) (tokens : List (List Char)) :
    Table.keys (rowEntries names tokens) = names := by
  rw [Table.keys, rowEntries, List.map_map]
  exact List.zipIdx_map_fst 0 names

/-! ### Processor time -/

namespace Cpu

def Report.view (r : Report) : View :=
  { entityCounters := r.cores, counters := r.counters, gauges := r.gauges }

/-- A line says the ticks of a core, or a single number. -/
def said (line : List Char) : List Assignment :=
  match Text.words line with
  | [] => []
  | key :: tokens =>
    match Text.after? "cpu".toList key with
    | some index =>
      Assignment.fields (some (if index.isEmpty then "all" else String.ofList index)) .counter
        (rowEntries coreColumns tokens)
    | none =>
      match kernelLines.find? fun (k, _) => k == String.ofList key with
      | some (_, field, kind) => Assignment.fields none kind [(field, Reading.numberAt tokens 0)]
      | none => []

def entityColumns : FieldKind → List String
  | .counter => coreColumns
  | .gauge => []

theorem adds : Adds Report.addLine {} Report.view said entityColumns where
  start := View.good_of_fields Table.sorted_nil Table.sorted_nil none
  step := by
    intro r line
    unfold Report.addLine said
    cases Text.words line with
    | nil => exact View.extends_nil entityColumns r.view
    | cons key tokens =>
        dsimp only
        cases Text.after? "cpu".toList key with
        | some index =>
            exact View.extends_setRow entityColumns r.view .counter _ (List.cons_ne_nil _ _)
              (keys_rowEntries coreColumns tokens)
        | none =>
            dsimp only
            cases kernelLines.find? fun (k, _) => k == String.ofList key with
            | none => exact View.extends_nil entityColumns r.view
            | some found =>
                obtain ⟨_, field, kind⟩ := found
                cases kind with
                | counter => exact View.extends_setField entityColumns r.view .counter field _
                | gauge => exact View.extends_setField entityColumns r.view .gauge field _
  injective := by
    rintro ⟨cores, counters, gauges⟩ ⟨cores', counters', gauges'⟩ ⟨⟩
    rfl

end Cpu

/-! ### Memory -/

namespace Memory

def view (values : Counters) : View :=
  { gauges := values }

/-- A line says the value of a key, in kilobytes. -/
def said (line : List Char) : List Assignment :=
  match Text.splitOnce ':' line with
  | none => []
  | some (key, rest) =>
    match keys.lookup (String.ofList (Text.trim key)) with
    | some field =>
      Assignment.fields none .gauge [(field, Reading.numberAt (Text.words rest) 0 * 1024.0)]
    | none => []

theorem adds : Adds addLine (Table.ofList (keys.map fun (_, field) => (field, 0.0))) view said
    fun _ => [] where
  start := View.good_of_fields Table.sorted_nil (Table.sorted_ofList _) none
  step := by
    intro values line
    unfold addLine said
    cases Text.splitOnce ':' line with
    | none => exact View.extends_nil _ (view values)
    | some parts =>
        obtain ⟨key, rest⟩ := parts
        dsimp only
        cases keys.lookup (String.ofList (Text.trim key)) with
        | none => exact View.extends_nil _ (view values)
        | some field => exact View.extends_setField _ (view values) .gauge field _
  injective := by
    rintro values values' ⟨⟩
    rfl

end Memory

/-! ### Network interfaces -/

namespace Network

def view (sample : Sample) : View :=
  { entityCounters := sample }

/-- A line says the counters of an interface, unless it belongs to the head of the table. -/
def said (line : List Char) : List Assignment :=
  match Text.splitOnce ':' line with
  | none => []
  | some (interface, rest) =>
    if interface.contains '|' then []
    else
      Assignment.fields (some (String.ofList (Text.trim interface))) .counter
        (rowEntries columns (Text.words rest))

def entityColumns : FieldKind → List String
  | .counter => columns
  | .gauge => []

theorem adds : Adds addLine [] view said entityColumns where
  start := View.good_of_fields Table.sorted_nil Table.sorted_nil none
  step := by
    intro sample line
    unfold addLine said
    cases Text.splitOnce ':' line with
    | none => exact View.extends_nil _ (view sample)
    | some parts =>
        obtain ⟨interface, rest⟩ := parts
        dsimp only
        by_cases head : interface.contains '|' = true
        · rw [if_pos head, if_pos head]
          exact View.extends_nil _ (view sample)
        · rw [if_neg head, if_neg head]
          exact View.extends_setRow entityColumns (view sample) .counter _ (List.cons_ne_nil _ _)
            (keys_rowEntries columns (Text.words rest))
  injective := by
    rintro sample sample' ⟨⟩
    rfl

end Network

/-! ### Block devices -/

namespace Disk

def Report.view (r : Report) : View :=
  { entityCounters := r.counters, entityGauges := r.gauges }

/-- The numbers of a line that belong to columns of one kind, in their units. -/
def entries (kind : FieldKind) (tokens : List (List Char)) : List (String × Float) :=
  columns.zipIdx.filterMap fun ((field, k, unit), index) =>
    if k == kind then some (field, Reading.numberAt tokens index * unit) else none

/-- A line says the numbers of a device, unless that is virtual. -/
def said (line : List Char) : List Assignment :=
  match (Text.words line).drop 2 with
  | [] => []
  | device :: tokens =>
    if Report.isVirtual device then []
    else
      Assignment.fields (some (String.ofList device)) .counter (entries .counter tokens)
        ++ Assignment.fields (some (String.ofList device)) .gauge (entries .gauge tokens)

def entityColumns (kind : FieldKind) : List String :=
  columns.filterMap fun (field, k, _) => if k == kind then some field else none

theorem keys_entries (kind : FieldKind) (tokens : List (List Char)) :
    Table.keys (entries kind tokens) = entityColumns kind := by
  cases kind with
  | counter => rfl
  | gauge => rfl

theorem adds : Adds Report.addLine {} Report.view said entityColumns where
  start := View.good_of_fields Table.sorted_nil Table.sorted_nil none
  step := by
    intro r line
    unfold Report.addLine said
    cases (Text.words line).drop 2 with
    | nil => exact View.extends_nil _ r.view
    | cons device tokens =>
        dsimp only
        by_cases virtual_ : Report.isVirtual device = true
        · rw [if_pos virtual_, if_pos virtual_]
          exact View.extends_nil _ r.view
        · rw [if_neg virtual_, if_neg virtual_]
          exact (View.extends_setRow entityColumns r.view .counter _ (List.cons_ne_nil _ _)
              (keys_entries .counter tokens)).trans
            (View.extends_setRow entityColumns _ .gauge _ (List.cons_ne_nil _ _)
              (keys_entries .gauge tokens))
  injective := by
    rintro ⟨counters, gauges⟩ ⟨counters', gauges'⟩ ⟨⟩
    rfl

end Disk

/-! ### Sockets -/

namespace Sockets

def view (values : Counters) : View :=
  { gauges := values }

/-- What a key says, with the tokens behind it. -/
def saidByPair (section' : String) (key : List Char) (rest : List (List Char)) : List Assignment :=
  match keys.find? fun (s, k, _) => s == section' && k == String.ofList key with
  | some (_, _, field) => Assignment.fields none .gauge [(field, Reading.numberAt rest 0)]
  | none => []

/-- What the keys and numbers of a section say. -/
def saidByPairs (section' : String) : List (List Char) → List Assignment
  | [] => []
  | [key] => saidByPair section' key []
  | key :: value :: rest =>
    saidByPair section' key (value :: rest) ++ saidByPairs section' rest

/-- A line says numbers of a protocol. -/
def said (line : List Char) : List Assignment :=
  match Text.splitOnce ':' line with
  | none => []
  | some (name, rest) => saidByPairs (String.ofList (Text.trim name)) (Text.words rest)

theorem extends_addPair (section' : String) (values : Counters) (key : List Char)
    (rest : List (List Char)) :
    View.Extends (fun _ => []) (view values) (saidByPair section' key rest)
      (view (match keys.find? fun (s, k, _) => s == section' && k == String.ofList key with
        | some (_, _, field) => values.insert field (Reading.numberAt rest 0)
        | none => values)) := by
  unfold saidByPair
  cases keys.find? fun (s, k, _) => s == section' && k == String.ofList key with
  | none => exact View.extends_nil _ (view values)
  | some found => exact View.extends_setField _ (view values) .gauge _ _

theorem extends_addPairs (section' : String) (values : Counters) (tokens : List (List Char)) :
    View.Extends (fun _ => []) (view values) (saidByPairs section' tokens)
      (view (addPairs section' values tokens)) := by
  induction values, tokens using addPairs.induct section' with
  | case1 values => exact View.extends_nil _ (view values)
  | case2 values key => exact extends_addPair section' values key []
  | case3 values key value rest _ ih =>
      exact (extends_addPair section' values key (value :: rest)).trans ih

theorem adds : Adds addLine (Table.ofList (keys.map fun (_, _, field) => (field, 0.0))) view said
    fun _ => [] where
  start := View.good_of_fields Table.sorted_nil (Table.sorted_ofList _) none
  step := by
    intro values line
    unfold addLine said
    cases Text.splitOnce ':' line with
    | none => exact View.extends_nil _ (view values)
    | some parts => exact extends_addPairs _ values _
  injective := by
    rintro values values' ⟨⟩
    rfl

end Sockets

/-! ### Status pages of pools -/

namespace PhpFpm

def Page.view (page : Page) : View :=
  { counters := page.counters, gauges := page.gauges, label := page.pool }

/-- A line says the name of the pool, or the value of a key. -/
def said (line : List Char) : List Assignment :=
  match Text.splitOnce ':' line with
  | none => []
  | some (key, value) =>
    let key := String.ofList (Text.trim key)
    if key == "pool" then [(.label, .text (String.ofList (Text.trim value)))]
    else
      match keys.lookup key with
      | some (field, kind) => Assignment.fields none kind [(field, Reading.number value)]
      | none => []

theorem adds : Adds Page.addLine {} Page.view said fun _ => [] where
  start := View.good_of_fields (Table.sorted_ofList _) (Table.sorted_ofList _) none
  step := by
    intro page line
    unfold Page.addLine said
    cases Text.splitOnce ':' line with
    | none => exact View.extends_nil _ page.view
    | some parts =>
        obtain ⟨key, value⟩ := parts
        dsimp only
        by_cases pool : (String.ofList (Text.trim key) == "pool") = true
        · rw [if_pos pool, if_pos pool]
          exact View.extends_setLabel _ page.view _
        · rw [if_neg pool, if_neg pool]
          cases keys.lookup (String.ofList (Text.trim key)) with
          | none => exact View.extends_nil _ page.view
          | some found =>
              obtain ⟨field, kind⟩ := found
              cases kind with
              | counter => exact View.extends_setField _ page.view .counter field _
              | gauge => exact View.extends_setField _ page.view .gauge field _
  injective := by
    rintro ⟨pool, counters, gauges⟩ ⟨pool', counters', gauges'⟩ ⟨⟩
    rfl

end PhpFpm

/-! ### The status of a database server -/

namespace Mysql

def Report.view (r : Report) : View :=
  { counters := r.counters, gauges := r.gauges }

/-- A line with two cells says the value of a variable. -/
def said (line : List Char) : List Assignment :=
  match Report.cells line with
  | [name, value] =>
    match statusVariables.lookup (String.ofList name) with
    | some (field, kind) => Assignment.fields none kind [(field, Reading.number value)]
    | none => []
  | _ => []

theorem adds : Adds Report.addLine {} Report.view said fun _ => [] where
  start := View.good_of_fields Table.sorted_nil Table.sorted_nil none
  step := by
    intro r line
    unfold Report.addLine said
    match Report.cells line with
    | [] | [_] | _ :: _ :: _ :: _ => exact View.extends_nil _ r.view
    | [name, value] =>
        dsimp only
        cases statusVariables.lookup (String.ofList name) with
        | none => exact View.extends_nil _ r.view
        | some found =>
            obtain ⟨field, kind⟩ := found
            cases kind with
            | counter => exact View.extends_setField _ r.view .counter field _
            | gauge => exact View.extends_setField _ r.view .gauge field _
  injective := by
    rintro ⟨counters, gauges⟩ ⟨counters', gauges'⟩ ⟨⟩
    rfl

end Mysql

/-- In every report that is read line by line, a line counts for its own places and harms no other.
What a text says on top of whole lines counts where it says something, and elsewhere those lines do.
Unknown lines may stand anywhere, only lines that share a place have an order, and of repeated lines
the last one counts. -/
theorem lines_harm_only_their_places :
    Reads Cpu.Report.ofText Cpu.Report.view Cpu.said ∧
    Reads Memory.ofText Memory.view Memory.said ∧
    Reads Network.ofText Network.view Network.said ∧
    Reads Disk.Report.ofText Disk.Report.view Disk.said ∧
    Reads Sockets.ofText Sockets.view Sockets.said ∧
    Reads PhpFpm.Page.ofText PhpFpm.Page.view PhpFpm.said ∧
    Reads Mysql.Report.ofText Mysql.Report.view Mysql.said :=
  ⟨Cpu.adds.reads_of_adds fun _ => rfl, Memory.adds.reads_of_adds fun _ => rfl,
    Network.adds.reads_of_adds fun _ => rfl, Disk.adds.reads_of_adds fun _ => rfl,
    Sockets.adds.reads_of_adds fun _ => rfl, PhpFpm.adds.reads_of_adds fun _ => rfl,
    Mysql.adds.reads_of_adds fun _ => rfl⟩

end Hostwatch
