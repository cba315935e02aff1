import Hostwatch.Agent.Mysql
import Hostwatch.Proofs.Table
import Hostwatch.Proofs.Text.Sheets

/-!
# Status variables in two formats

A client of a database server prints the server's status variables as a table that is drawn with
bars, or as rows with a tab. Which of them it is does not matter to what is read.
-/

namespace Hostwatch.Mysql

open Text

/-- A text that may stand in a cell of either format. -/
structure IsCell (text : List Char) : Prop where
  nonempty : text ≠ []
  trimmed : Trimmed text
  bar : '|' ∉ text
  tab : '\t' ∉ text
  newline : '\n' ∉ text

/-- A variable and what is printed for its value. -/
structure Row where
  name : List Char
  value : List Char
  isCell : IsCell name
  isCell' : IsCell value

/-- The number that a value is read as; zero if it is none. -/
def Row.number (r : Row) : Float :=
  (Number.readFloat? r.value).getD 0.0

/-- Two cells between bars, with any white space around each of them. -/
def Drawn (first second line : List Char) : Prop :=
  ∃ gap gap₁ gap₁' gap₂ gap₂' gap', Space gap ∧ Space gap₁ ∧ Space gap₁' ∧ Space gap₂ ∧
    Space gap₂' ∧ Space gap' ∧ line =
      gap ++ '|' :: (gap₁ ++ (first ++ gap₁')) ++ '|' :: (gap₂ ++ (second ++ gap₂')) ++ '|' :: gap'

/-- A row of the drawn table. -/
def Row.Drawn (r : Row) : List Char → Prop :=
  Mysql.Drawn r.name r.value

/-- A border of the drawn table, or its header. -/
def Frame (line : List Char) : Prop :=
  (∀ c ∈ line, c = '+' ∨ c = '-') ∨ Mysql.Drawn "Variable_name".toList "Value".toList line

/-- Two cells with a tab between them. -/
def Tabbed (first second line : List Char) : Prop :=
  line = first ++ '\t' :: second

/-- A row with a tab. -/
def Row.Tabbed (r : Row) : List Char → Prop :=
  Mysql.Tabbed r.name r.value

/-- The header of rows with tabs. -/
def Header : List Char → Prop :=
  Mysql.Tabbed "Variable_name".toList "Value".toList

variable {first second line : List Char} {r : Row}

/-! ### The cells of a line -/

theorem not_mem_cell {mark : Char} {before text after : List Char} (solid : isBlank mark = false)
    (space : Space before) (space' : Space after) (absent : mark ∉ text) :
    mark ∉ before ++ (text ++ after) := by
  have missing {gap : List Char} (space : Space gap) : mark ∉ gap := by
    intro member
    rw [space.blank mark member] at solid
    cases solid
  simp only [List.mem_append, not_or]
  exact ⟨missing space, absent, missing space'⟩

theorem cells_of_drawn (isCell : IsCell first) (isCell' : IsCell second)
    (drawn : Drawn first second line) : Report.cells line = [first, second] := by
  obtain ⟨gap, gap₁, gap₁', gap₂, gap₂', gap', space, space₁, space₁', space₂, space₂', space',
    rfl⟩ := drawn
  have plain {text : List Char} (space : Space text) : splitBy (· == '|') text = [text] :=
    splitBy_mark_of_not_mem fun member => absurd (space.blank _ member) (by decide)
  have cell {before text after : List Char} (space : Space before) (space' : Space after)
      (isCell : IsCell text) :
      splitBy (· == '|') (before ++ (text ++ after)) = [before ++ (text ++ after)] :=
    splitBy_mark_of_not_mem (not_mem_cell (by decide) space space' isCell.bar)
  have blank {gap : List Char} (space : Space gap) : trim gap = [] := by
    have trimmed : trim (gap ++ ([] ++ [])) = [] := trim_append space.blank ⟨nofun, nofun⟩ nofun
    rwa [List.append_nil, List.append_nil] at trimmed
  have bars : splitBy (· == '|') (gap ++ '|' :: (gap₁ ++ (first ++ gap₁')) ++
      '|' :: (gap₂ ++ (second ++ gap₂')) ++ '|' :: gap') =
        [gap, gap₁ ++ (first ++ gap₁'), gap₂ ++ (second ++ gap₂'), gap'] := by
    rw [splitBy_mark_append, splitBy_mark_append, splitBy_mark_append, plain space,
      cell space₁ space₁' isCell, cell space₂ space₂' isCell', plain space']
    rfl
  have some_ : first.isEmpty = false := by simpa using isCell.nonempty
  have some_' : second.isEmpty = false := by simpa using isCell'.nonempty
  unfold Report.cells
  rw [if_pos (by simp), bars]
  simp [blank space, blank space', trim_append space₁.blank isCell.trimmed space₁'.blank,
    trim_append space₂.blank isCell'.trimmed space₂'.blank, some_, some_']

theorem cells_of_tabbed (isCell : IsCell first) (isCell' : IsCell second)
    (tabbed : Tabbed first second line) : Report.cells line = [first, second] := by
  subst tabbed
  have noBar : ¬ (first ++ '\t' :: second).contains '|' = true := by
    simp [isCell.bar, isCell'.bar]
  unfold Report.cells
  rw [if_neg noBar, splitBy_mark_append, splitBy_mark_of_not_mem isCell.tab,
    splitBy_mark_of_not_mem isCell'.tab]
  simp [isCell.trimmed.trim_eq, isCell'.trimmed.trim_eq]

theorem cells_of_border (border : ∀ c ∈ line, c = '+' ∨ c = '-') :
    Report.cells line = [trim line] := by
  have absent {mark : Char} (other : ¬ (mark = '+' ∨ mark = '-')) : mark ∉ line :=
    fun member => other (border mark member)
  unfold Report.cells
  rw [if_neg (by simpa using absent (by decide)), splitBy_mark_of_not_mem (absent (by decide))]
  rfl

/-! ### What a line adds -/

/-- Adds the value of a variable, if it is one that counts. -/
def Report.addRow (report : Report) (r : Row) : Report :=
  match statusVariables.lookup (String.ofList r.name) with
  | some (field, .counter) => { report with counters := report.counters.insert field r.number }
  | some (field, .gauge) => { report with gauges := report.gauges.insert field r.number }
  | none => report

theorem addLine_of_cells (report : Report) (cells : Report.cells line = [r.name, r.value]) :
    report.addLine line = report.addRow r := by
  have number : Reading.number r.value = r.number := by
    rw [Reading.number, r.isCell'.trimmed.trim_eq]
    rfl
  unfold Report.addLine Report.addRow
  rw [cells]
  dsimp only
  cases statusVariables.lookup (String.ofList r.name) with
  | none => rfl
  | some found =>
      obtain ⟨field, kind⟩ := found
      cases kind with
      | counter =>
          exact congrArg (fun n => { report with counters := report.counters.insert field n }) number
      | gauge =>
          exact congrArg (fun n => { report with gauges := report.gauges.insert field n }) number

theorem addLine_of_cell (report : Report) {cell : List Char} (cells : Report.cells line = [cell]) :
    report.addLine line = report := by
  unfold Report.addLine
  rw [cells]

theorem addLine_of_names (report : Report)
    (cells : Report.cells line = ["Variable_name".toList, "Value".toList]) :
    report.addLine line = report := by
  have unknown : statusVariables.lookup (String.ofList "Variable_name".toList) = none := by decide
  unfold Report.addLine
  rw [cells]
  dsimp only
  rw [unknown]

/-! ### What a list of rows tells -/

/-- The fields of one kind. -/
def Report.fields : FieldKind → Report → Counters
  | .counter => Report.counters
  | .gauge => Report.gauges

/-- The last row of a known variable tells the number of the variable's field. -/
def Tells (rows : List Row) (kind : FieldKind) (field : String) (x : Float) : Prop :=
  ∃ before r after, rows = before ++ r :: after ∧ (∀ later ∈ after, later.name ≠ r.name) ∧
    (String.ofList r.name, field, kind) ∈ statusVariables ∧ x = r.number

theorem lookup_eq_some_iff (name field : String) (kind : FieldKind) :
    statusVariables.lookup name = some (field, kind) ↔ (name, field, kind) ∈ statusVariables :=
  Table.get?_eq_some_iff (t := statusVariables) (by decide)

/-- No two variables share a field. -/
theorem eq_of_mem_statusVariables {name name' field : String} {kind : FieldKind}
    (known : (name, field, kind) ∈ statusVariables)
    (known' : (name', field, kind) ∈ statusVariables) : name = name' := by
  have once : (statusVariables.map Prod.snd).Nodup := by decide
  exact congrArg Prod.fst (List.inj_on_of_nodup_map once known known' rfl)

theorem get?_addRow (report : Report) (r : Row) (kind : FieldKind) (field : String) :
    ((report.addRow r).fields kind).get? field =
      if (String.ofList r.name, field, kind) ∈ statusVariables then some r.number
      else (report.fields kind).get? field := by
  rw [← if_congr (lookup_eq_some_iff _ field kind) rfl rfl]
  unfold Report.addRow
  cases statusVariables.lookup (String.ofList r.name) with
  | none => rw [if_neg nofun]
  | some found =>
      obtain ⟨field', kind'⟩ := found
      cases kind' with
      | counter =>
          cases kind with
          | counter => simp [Report.fields, eq_comm]
          | gauge => simp [Report.fields]
      | gauge =>
          cases kind with
          | counter => simp [Report.fields]
          | gauge => simp [Report.fields, eq_comm]

theorem tells_concat {rows : List Row} {kind : FieldKind} {field : String} {x : Float} :
    Tells (rows ++ [r]) kind field x ↔
      if (String.ofList r.name, field, kind) ∈ statusVariables then x = r.number
      else Tells rows kind field x := by
  constructor
  · rintro ⟨before, r', after, cut, last, known, rfl⟩
    obtain rfl | ⟨after, later, rfl⟩ := List.eq_nil_or_concat' after
    · obtain ⟨-, same⟩ := List.append_inj' cut rfl
      obtain ⟨rfl, -⟩ := List.cons.inj same
      rw [if_pos known]
    · rw [← List.cons_append, ← List.append_assoc] at cut
      obtain ⟨rfl, same⟩ := List.append_inj' cut rfl
      obtain ⟨rfl, -⟩ := List.cons.inj same
      have other := last r (by simp)
      rw [if_neg]
      · refine ⟨before, r', after, rfl, fun later member => ?_, known, rfl⟩
        exact last later (by simp [member])
      · intro known'
        exact other (String.ofList_injective (eq_of_mem_statusVariables known' known))
  · intro tells
    split at tells
    · next known => exact ⟨rows, r, [], rfl, nofun, known, tells⟩
    · next unknown =>
        obtain ⟨before, r', after, rfl, last, known, rfl⟩ := tells
        refine ⟨before, r', after ++ [r], by simp, ?_, known, rfl⟩
        intro later member
        obtain member | rfl : later ∈ after ∨ later = r := by simpa using member
        · exact last later member
        · intro same
          rw [← same] at known
          exact unknown known

/-- What is read of a list of rows is what it tells. -/
theorem get?_foldl_addRow (rows : List Row) (kind : FieldKind) (field : String) (x : Float) :
    ((rows.foldl Report.addRow {}).fields kind).get? field = some x ↔ Tells rows kind field x := by
  induction rows using List.reverseRecOn with
  | nil =>
      have nothing : (Report.fields kind {}).get? field = none := by
        cases kind with
        | counter => rfl
        | gauge => rfl
      rw [List.foldl_nil, nothing]
      refine iff_of_false nofun ?_
      rintro ⟨before, r, after, cut, -⟩
      exact absurd cut.symm (by simp)
  | append_singleton rows r ih =>
      rw [List.foldl_concat, get?_addRow, tells_concat]
      split
      · rw [Option.some_inj, eq_comm]
      · exact ih

/-! ### Both formats -/

theorem onLine_drawn (isCell : IsCell first) (isCell' : IsCell second) :
    OnLine (Drawn first second) := by
  refine ⟨?_, ?_⟩
  · rintro _ ⟨gap, gap₁, gap₁', gap₂, gap₂', gap', space, space₁, space₁', space₂, space₂', space',
      rfl⟩
    have := space.newline_not_mem
    have := space₁.newline_not_mem
    have := space₁'.newline_not_mem
    have := space₂.newline_not_mem
    have := space₂'.newline_not_mem
    have := space'.newline_not_mem
    have := isCell.newline
    have := isCell'.newline
    simp [*]
  · rintro _ ⟨gap, gap₁, gap₁', gap₂, gap₂', gap', space, space₁, space₁', space₂, space₂', space',
      rfl⟩
    refine ⟨gap, gap₁, gap₁', gap₂, gap₂', withoutReturn gap', space, space₁, space₁', space₂,
      space₂', space'.withoutReturn, ?_⟩
    rw [List.append_cons _ '|' gap', withoutReturn_append_of_getLast?, ← List.append_cons]
    rw [List.getLast?_concat]
    rintro c ⟨⟩
    decide

theorem isCell_of_isWord {text : List Char} (isWord : IsWord text) (bar : '|' ∉ text) :
    IsCell text :=
  ⟨isWord.1, isWord.trimmed, bar, not_mem_of_solid isWord.2 (by decide),
    not_mem_of_solid isWord.2 (by decide)⟩

theorem isCell_variable_name : IsCell "Variable_name".toList :=
  isCell_of_isWord (by decide) (by decide)

theorem isCell_value : IsCell "Value".toList :=
  isCell_of_isWord (by decide) (by decide)

theorem onLine_frame : OnLine Frame := by
  have header := onLine_drawn isCell_variable_name isCell_value
  refine ⟨?_, ?_⟩
  · rintro line (border | drawn)
    · exact fun member => absurd (border _ member) (by decide)
    · exact header.newline_not_mem line drawn
  · rintro line (border | drawn)
    · exact .inl fun c member => border c ((withoutReturn_isPrefix line).mem member)
    · exact .inr (header.withoutReturn line drawn)

theorem onLine_tabbed (isCell : IsCell first) (isCell' : IsCell second) :
    OnLine (Tabbed first second) := by
  refine ⟨?_, ?_⟩
  · rintro _ rfl
    simp [isCell.newline, isCell'.newline]
  · rintro _ rfl
    have solid : ∀ c ∈ (first ++ '\t' :: second).getLast?, c ≠ '\r' := by
      rintro c last rfl
      rw [List.append_cons, List.getLast?_append_of_ne_nil _ isCell'.nonempty] at last
      exact absurd (isCell'.trimmed.2 _ last) (by decide)
    have kept := withoutReturn_append_of_getLast? solid []
    rw [List.append_nil] at kept
    rw [Tabbed, kept]
    exact List.append_nil _

theorem foldl_drawn {rows : List Row} {ls : List (List Char)}
    (sheet : Sheet Row.Drawn Frame rows ls) :
    Report.ofText (unlines ls) = rows.foldl Report.addRow {} :=
  (sheet.lines_unlines (fun r => onLine_drawn r.isCell r.isCell') onLine_frame).foldl_eq
    Report.addLine id Report.addRow
    (fun report r _ drawn => addLine_of_cells report (cells_of_drawn r.isCell r.isCell' drawn))
    (fun report _ frame => by
      obtain border | drawn := frame
      · exact addLine_of_cell report (cells_of_border border)
      · exact addLine_of_names report (cells_of_drawn isCell_variable_name isCell_value drawn)) {}

theorem foldl_tabbed {rows : List Row} {ls : List (List Char)}
    (sheet : Sheet Row.Tabbed Header rows ls) :
    Report.ofText (unlines ls) = rows.foldl Report.addRow {} :=
  (sheet.lines_unlines (fun r => onLine_tabbed r.isCell r.isCell')
      (onLine_tabbed isCell_variable_name isCell_value)).foldl_eq Report.addLine id Report.addRow
    (fun report r _ tabbed => addLine_of_cells report (cells_of_tabbed r.isCell r.isCell' tabbed))
    (fun report _ header =>
      addLine_of_names report (cells_of_tabbed isCell_variable_name isCell_value header)) {}

/-- The drawn table and the rows with tabs are read alike, whatever the padding and wherever the
borders and headers are. A field is there if its variable is, with the number of the variable's last
row. -/
theorem status_formats_are_read_alike (rows : List Row) {ls ls' : List (List Char)}
    (drawn : Sheet Row.Drawn Frame rows ls) (tabbed : Sheet Row.Tabbed Header rows ls') :
    Report.ofText (unlines ls) = Report.ofText (unlines ls') ∧
    ∀ field x,
      ((Report.ofText (unlines ls)).counters.get? field = some x ↔ Tells rows .counter field x) ∧
      ((Report.ofText (unlines ls)).gauges.get? field = some x ↔ Tells rows .gauge field x) := by
  rw [foldl_drawn drawn, foldl_tabbed tabbed]
  exact ⟨rfl, fun field x => ⟨get?_foldl_addRow rows .counter field x,
    get?_foldl_addRow rows .gauge field x⟩⟩

/-- A variable that counts, and one that does not. -/
def Row.samples : List Row :=
  [{ name := "Uptime".toList, value := "12".toList
     isCell := isCell_of_isWord (by decide) (by decide)
     isCell' := isCell_of_isWord (by decide) (by decide) },
    { name := "Ssl_mode".toList, value := "ON".toList
      isCell := isCell_of_isWord (by decide) (by decide)
      isCell' := isCell_of_isWord (by decide) (by decide) }]

theorem two_rows_are_read_alike :
    Report.ofText (unlines ["+-".toList, "| Variable_name | Value |".toList,
        "|Uptime|  12 |".toList, "+-".toList, "| Ssl_mode |ON|\r".toList]) =
      Report.ofText (unlines ["Uptime\t12".toList, "Ssl_mode\tON".toList]) := by
  have gap : Space " ".toList := by decide
  have none_ : Space [] := by decide
  have border : Frame "+-".toList := .inl fun c member => by simpa using member
  refine (status_formats_are_read_alike Row.samples (.aside border (.aside (.inr ?_) (.row ?_
    (.aside border (.row ?_ .nil))))) (.row rfl (.row rfl .nil))).1
  · exact ⟨[], _, _, _, _, [], none_, gap, gap, gap, gap, none_, rfl⟩
  · exact ⟨[], [], [], "  ".toList, " ".toList, [], none_, none_, none_, by decide, gap, none_, rfl⟩
  · exact ⟨[], _, _, [], [], "\r".toList, none_, gap, gap, none_, none_, by decide, rfl⟩

end Hostwatch.Mysql
