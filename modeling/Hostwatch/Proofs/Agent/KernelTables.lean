import Hostwatch.Agent.Cpu
import Hostwatch.Agent.Disk
import Hostwatch.Agent.Network
import Hostwatch.Proofs.Number.Rounding
import Hostwatch.Proofs.Table
import Hostwatch.Proofs.Text.Sheets

/-!
# Tables of the kernel

The kernel prints its counters as tables with a row for each core, interface or device: the name,
and behind it a number for each column. Reading such a table gives every row under its name and
every number under its column, however the row is padded and however many numbers it has.
-/

namespace Hostwatch

open Text

/-- Characters that neither end a name nor belong to the head of a table. -/
def IsPlain (name : List Char) : Prop :=
  ∀ c ∈ name, isBlank c = false ∧ c ≠ ':' ∧ c ≠ '|'

instance : DecidablePred IsPlain :=
  List.decidableBAll fun c => isBlank c = false ∧ c ≠ ':' ∧ c ≠ '|'

/-- A row of a table: the name of what it is about, and what stands in its columns. -/
structure KernelRow where
  name : List Char
  tokens : List (List Char)
  plain : IsPlain name
  /-- This name is taken by all cores together. -/
  notAll : name ≠ "all".toList
  words : ∀ token ∈ tokens, IsWord token

namespace KernelRow

variable {rows : List KernelRow} {ls : List (List Char)} {line : List Char} {r : KernelRow}

/-- The number in a column, or zero if there is none. -/
def number (r : KernelRow) (j : Nat) : Float :=
  ((r.tokens[j]?).bind Number.readFloat?).getD 0.0

def label (r : KernelRow) : String :=
  String.ofList r.name

/-- The numbers of the row under the names of its columns. -/
def cells (columns : List String) (r : KernelRow) : List (String × Float) :=
  columns.zipIdx.map fun column => (column.1, r.number column.2)

/-- A sample holds one entry for each of these rows, and in it exactly the cells of the row. -/
def Tabulates (sample : Sample) (rows : List KernelRow) (label : KernelRow → String)
    (cells : KernelRow → List (String × Float)) : Prop :=
  ∃ fields : KernelRow → Counters, sample.Perm (rows.map fun r => (label r, fields r)) ∧
    ∀ r, (fields r).Perm (cells r)

theorem numberAt_eq (r : KernelRow) (j : Nat) : Reading.numberAt r.tokens j = r.number j := by
  unfold Reading.numberAt number
  cases found : r.tokens[j]? with
  | none => rfl
  | some token =>
      have isWord := r.words token (List.mem_of_getElem? found)
      change (Number.readFloat? (trim token)).getD 0.0 = _
      rw [isWord.trimmed.trim_eq]
      rfl

theorem columns_perm {columns : List String} (once : columns.Nodup) (r : KernelRow) :
    (Reading.columns columns r.tokens).Perm (r.cells columns) := by
  have same : Reading.columns columns r.tokens = Table.ofList (r.cells columns) :=
    congrArg Table.ofList (List.map_congr_left fun column _ =>
      congrArg (Prod.mk column.1) (r.numberAt_eq column.2))
  rw [same]
  refine Table.ofList_perm ?_
  rw [Table.keys, cells, List.map_map]
  exact (List.zipIdx_map_fst 0 columns).symm ▸ once

/-- Rows that are put in one after the other. -/
theorem tabulates_foldl {label : KernelRow → String} {fields : KernelRow → Counters}
    {cells : KernelRow → List (String × Float)} (once : (rows.map label).Nodup)
    (same : ∀ r, (fields r).Perm (cells r)) :
    Tabulates (rows.foldl (fun (sample : Sample) r => sample.insert (label r) (fields r)) []) rows
      label cells := by
  refine ⟨fields, ?_, same⟩
  have entries : rows.foldl (fun (sample : Sample) r => sample.insert (label r) (fields r)) [] =
      Table.ofList (rows.map fun r => (label r, fields r)) := by
    rw [Table.ofList, Table.insertAll, List.foldl_map]
  rw [entries]
  refine Table.ofList_perm ?_
  rw [Table.keys, List.map_map]
  exact once

theorem labels_nodup (distinct : (rows.map name).Nodup) : (rows.map label).Nodup := by
  have labels : rows.map label = (rows.map name).map String.ofList := (List.map_map).symm
  rw [labels]
  exact distinct.map fun _ _ same => String.ofList_injective same

theorem newline_not_mem (r : KernelRow) : '\n' ∉ r.name :=
  not_mem_of_solid (fun c member => (r.plain c member).1) (by decide)

end KernelRow

open KernelRow

/-! ### Processor time -/

namespace Cpu

variable {line : List Char} {r : KernelRow}

/-- The line of a core. The line of all of them together has no number. -/
def Prints (r : KernelRow) : List Char → Prop :=
  Spaced (("cpu".toList ++ r.name) :: r.tokens)

/-- A line that is about something else. -/
def Aside (line : List Char) : Prop :=
  ∃ ws, Spaced ws line ∧ ∀ key ∈ ws.head?, ¬ "cpu".toList <+: key

def label (r : KernelRow) : String :=
  if r.name = [] then "all" else r.label

theorem labels_nodup {rows : List KernelRow} (distinct : (rows.map name).Nodup) :
    (rows.map label).Nodup := by
  rw [List.nodup_map_iff_inj_on distinct.of_map]
  intro r member r' member' same
  refine List.inj_on_of_nodup_map distinct member member' ?_
  unfold label KernelRow.label at same
  have taken (r : KernelRow) : "all" ≠ String.ofList r.name := by
    intro all
    exact r.notAll (by rw [all, String.toList_ofList])
  split at same
  · next empty =>
      split at same
      · next empty' => rw [empty, empty']
      · exact absurd same (taken r')
  · split at same
    · exact absurd same.symm (taken r)
    · exact String.ofList_injective same

theorem cores_addLine_row (report : Report) (printed : Prints r line) :
    (report.addLine line).cores =
      report.cores.insert (label r) (Reading.columns coreColumns r.tokens) := by
  have index : after? "cpu".toList ("cpu".toList ++ r.name) = some r.name :=
    after?_eq_some_iff.mpr rfl
  unfold Report.addLine label KernelRow.label
  rw [printed.words_eq]
  dsimp only
  rw [index]
  dsimp only
  simp only [List.isEmpty_iff]

theorem cores_addLine_aside (report : Report) (aside : Aside line) :
    (report.addLine line).cores = report.cores := by
  obtain ⟨ws, spaced, other⟩ := aside
  unfold Report.addLine
  rw [spaced.words_eq]
  cases ws with
  | nil => rfl
  | cons key tokens =>
      have noCore : after? "cpu".toList key = none := by
        rw [Option.eq_none_iff_forall_ne_some]
        exact fun rest found => other key rfl ⟨rest, (after?_eq_some_iff.mp found).symm⟩
      dsimp only
      rw [noCore]
      dsimp only
      split
      · rfl
      · rfl
      · rfl

theorem onLine_prints (r : KernelRow) : OnLine (Prints r) :=
  onLine_spaced _

theorem onLine_aside : OnLine Aside := by
  refine ⟨?_, ?_⟩
  · rintro line ⟨ws, spaced, -⟩
    exact spaced.newline_not_mem
  · rintro line ⟨ws, spaced, other⟩
    exact ⟨ws, spaced.withoutReturn, other⟩

theorem tabulates {rows : List KernelRow} {ls : List (List Char)}
    (distinct : (rows.map name).Nodup) (sheet : Sheet Prints Aside rows ls) :
    Tabulates (Report.ofText (unlines ls)).cores rows label (cells coreColumns) := by
  have read := (sheet.lines_unlines onLine_prints onLine_aside).foldl_eq Report.addLine Report.cores
    (fun cores r => cores.insert (label r) (Reading.columns coreColumns r.tokens))
    (fun report _ _ => cores_addLine_row report) (fun report _ => cores_addLine_aside report) {}
  rw [Report.ofText, read]
  exact tabulates_foldl (labels_nodup distinct) (columns_perm (by decide))

end Cpu

/-! ### Network interfaces -/

namespace Network

variable {line : List Char} {r : KernelRow}

/-- The line of an interface. The colon follows its name, and the numbers may follow the colon at
once. -/
def Prints (r : KernelRow) (line : List Char) : Prop :=
  ∃ gap gap' rest, Space gap ∧ Space gap' ∧ Spaced r.tokens rest ∧
    line = gap ++ (r.name ++ gap') ++ ':' :: rest

/-- A line of the head of the table, with a bar before its first colon if it has one. -/
def Heading (line : List Char) : Prop :=
  '\n' ∉ line ∧ ∀ before behind, line = before ++ ':' :: behind → '|' ∈ before

theorem onLine_prints (r : KernelRow) : OnLine (Prints r) := by
  refine ⟨?_, ?_⟩
  · rintro _ ⟨gap, gap', rest, space, space', spaced, rfl⟩
    simp only [List.mem_append, List.mem_cons, not_or]
    exact ⟨⟨space.newline_not_mem, r.newline_not_mem, space'.newline_not_mem⟩, by decide,
      spaced.newline_not_mem⟩
  · rintro _ ⟨gap, gap', rest, space, space', spaced, rfl⟩
    refine ⟨gap, gap', withoutReturn rest, space, space', spaced.withoutReturn, ?_⟩
    have colon : ∀ c ∈ (gap ++ (r.name ++ gap') ++ [':']).getLast?, c ≠ '\r' := by
      rw [List.getLast?_concat]
      rintro c ⟨⟩
      decide
    rw [List.append_cons _ ':' rest, withoutReturn_append_of_getLast? colon, ← List.append_cons]

theorem onLine_heading : OnLine Heading := by
  refine ⟨fun line heading => heading.1, ?_⟩
  rintro line ⟨whole, bar⟩
  obtain ⟨rest, same⟩ := withoutReturn_isPrefix line
  refine ⟨fun member => whole ((withoutReturn_isPrefix line).mem member), ?_⟩
  intro before behind cut
  refine bar before (behind ++ rest) ?_
  rw [← same, cut, List.append_assoc]
  rfl

theorem addLine_row (sample : Sample) (printed : Prints r line) :
    addLine sample line = sample.insert r.label (Reading.columns columns r.tokens) := by
  obtain ⟨gap, gap', rest, space, space', spaced, rfl⟩ := printed
  have noMark (mark : Char) (blank : isBlank mark = false) (other : ∀ c ∈ r.name, c ≠ mark) :
      mark ∉ gap ++ (r.name ++ gap') := by
    simp only [List.mem_append, not_or]
    refine ⟨?_, fun member => other mark member rfl, ?_⟩
    · intro member
      exact absurd (space.blank mark member) (by rw [blank]; exact Bool.false_ne_true)
    · intro member
      exact absurd (space'.blank mark member) (by rw [blank]; exact Bool.false_ne_true)
  have cut := splitOnce_append (noMark ':' (by decide) fun c member => (r.plain c member).2.1) rest
  have noBar : ¬ (gap ++ (r.name ++ gap')).contains '|' = true := by
    rw [List.contains_iff_mem]
    exact noMark '|' (by decide) fun c member => (r.plain c member).2.2
  have trimmed : Trimmed r.name :=
    ⟨fun c head => (r.plain c (List.mem_of_head? head)).1,
      fun c last => (r.plain c (List.mem_of_getLast? last)).1⟩
  unfold addLine KernelRow.label
  rw [cut]
  dsimp only
  rw [if_neg noBar, trim_append space.blank trimmed space'.blank, spaced.words_eq]

theorem addLine_heading (sample : Sample) (heading : Heading line) :
    addLine sample line = sample := by
  unfold addLine
  split
  · rfl
  · next before behind cut =>
      exact if_pos (List.contains_iff_mem.mpr (heading.2 before behind (eq_of_splitOnce cut)))

theorem tabulates {rows : List KernelRow} {ls : List (List Char)}
    (distinct : (rows.map name).Nodup) (sheet : Sheet Prints Heading rows ls) :
    Tabulates (ofText (unlines ls)) rows KernelRow.label (cells columns) := by
  have read := (sheet.lines_unlines onLine_prints onLine_heading).foldl_eq addLine id
    (fun (sample : Sample) r => sample.insert r.label (Reading.columns columns r.tokens))
    (fun sample _ _ => addLine_row sample) (fun sample _ => addLine_heading sample) []
  change Tabulates (id ((lines (unlines ls)).foldl addLine [])) _ _ _
  rw [read]
  exact tabulates_foldl (labels_nodup distinct) (columns_perm (by decide))

end Network

/-! ### Block devices -/

namespace Disk

variable {line : List Char} {r : KernelRow}

/-- The line of a device, behind its two numbers. -/
def Prints (r : KernelRow) (line : List Char) : Prop :=
  ∃ major minor, Spaced (major :: minor :: r.name :: r.tokens) line

/-- A line that is too short to name a device. -/
def Aside (line : List Char) : Prop :=
  ∃ ws, Spaced ws line ∧ ws.length < 3

/-- A device that stands neither for memory nor for a file. -/
def IsReal (r : KernelRow) : Prop :=
  ¬ "loop".toList <+: r.name ∧ ¬ "ram".toList <+: r.name

instance : DecidablePred IsReal :=
  fun r => inferInstanceAs (Decidable (¬ "loop".toList <+: r.name ∧ ¬ "ram".toList <+: r.name))

/-- What is counted of a device. The kernel counts data in sectors of 512 octets. -/
def counterCells (r : KernelRow) : List (String × Float) :=
  [("reads", r.number 0), ("read_merged", r.number 1), ("read_bytes", r.number 2 * 512.0),
    ("read_time", r.number 3), ("writes", r.number 4), ("write_merged", r.number 5),
    ("write_bytes", r.number 6 * 512.0), ("write_time", r.number 7), ("io_time", r.number 9),
    ("weighted_io_time", r.number 10)]

/-- What goes up and down. -/
def gaugeCells (r : KernelRow) : List (String × Float) :=
  [("in_progress", r.number 8)]

def cells : FieldKind → KernelRow → List (String × Float)
  | .counter => counterCells
  | .gauge => gaugeCells

/-- The sample of one kind. -/
def Report.sample : FieldKind → Report → Sample
  | .counter => Report.counters
  | .gauge => Report.gauges

theorem isVirtual_iff (r : KernelRow) : Report.isVirtual r.name = true ↔ ¬ IsReal r := by
  have begins (start : List Char) :
      (after? start r.name).isSome = true ↔ start <+: r.name := by
    rw [Option.isSome_iff_exists]
    exact exists_congr fun rest => after?_eq_some_iff.trans eq_comm
  rw [Report.isVirtual, Bool.or_eq_true, begins, begins, IsReal, not_and_or, not_not, not_not]

theorem fields_perm (kind : FieldKind) (r : KernelRow) :
    (Report.fields kind r.tokens).Perm (cells kind r) := by
  cases kind with
  | counter =>
      have same : Report.fields .counter r.tokens = Table.ofList (counterCells r) := by
        simp [Report.fields, columns, counterCells, numberAt_eq, Binary64.mul_one, sectorSize]
      rw [same]
      exact Table.ofList_perm (by simp [Table.keys, counterCells])
  | gauge =>
      have same : Report.fields .gauge r.tokens = gaugeCells r := by
        simp [Report.fields, columns, gaugeCells, numberAt_eq, Binary64.mul_one, Table.ofList,
          Table.insertAll, Table.insert]
      rw [same]
      exact .refl _

theorem sample_addLine_row (kind : FieldKind) (report : Report) (printed : Prints r line) :
    (report.addLine line).sample kind =
      if IsReal r then (report.sample kind).insert r.label (Report.fields kind r.tokens)
      else report.sample kind := by
  obtain ⟨major, minor, spaced⟩ := printed
  unfold Report.addLine
  rw [spaced.words_eq]
  change (if Report.isVirtual r.name = true then report else _ : Report).sample kind = _
  by_cases real : IsReal r
  · rw [if_neg (mt (isVirtual_iff r).mp (not_not.mpr real)), if_pos real]
    cases kind with
    | counter => rfl
    | gauge => rfl
  · rw [if_pos ((isVirtual_iff r).mpr real), if_neg real]

theorem addLine_aside (report : Report) (aside : Aside line) : report.addLine line = report := by
  obtain ⟨ws, spaced, short⟩ := aside
  unfold Report.addLine
  rw [spaced.words_eq, List.drop_of_length_le (by omega)]

theorem onLine_prints (r : KernelRow) : OnLine (Prints r) :=
  .exists fun _ => .exists fun _ => onLine_spaced _

theorem onLine_aside : OnLine Aside := by
  refine ⟨?_, ?_⟩
  · rintro line ⟨ws, spaced, -⟩
    exact spaced.newline_not_mem
  · rintro line ⟨ws, spaced, short⟩
    exact ⟨ws, spaced.withoutReturn, short⟩

theorem tabulates {rows : List KernelRow} {ls : List (List Char)}
    (distinct : (rows.map name).Nodup) (sheet : Sheet Prints Aside rows ls) (kind : FieldKind) :
    Tabulates ((Report.ofText (unlines ls)).sample kind) (rows.filter IsReal) KernelRow.label
      (cells kind) := by
  have read := (sheet.lines_unlines onLine_prints onLine_aside).foldl_eq Report.addLine
    (Report.sample kind)
    (fun sample r =>
      if IsReal r then sample.insert r.label (Report.fields kind r.tokens) else sample)
    (fun report _ _ => sample_addLine_row kind report)
    (fun report _ aside => congrArg (Report.sample kind) (addLine_aside report aside)) {}
  have empty : Report.sample kind {} = [] := by
    cases kind with
    | counter => rfl
    | gauge => rfl
  have once : ((rows.filter IsReal).map name).Nodup :=
    distinct.sublist (List.filter_sublist.map name)
  have known := tabulates_foldl (labels_nodup once) (fields_perm kind)
  rw [List.foldl_filter] at known
  rw [Report.ofText, read, empty]
  simpa only [decide_eq_true_eq] using known

end Disk

/-- A table of the kernel is read without loss or shift, whatever number of rows it has and of
numbers in a row, and whatever white space and whatever other lines stand between them. -/
theorem kernel_tables_are_read (rows : List KernelRow) (distinct : (rows.map name).Nodup)
    (ls : List (List Char)) :
    (Sheet Cpu.Prints Cpu.Aside rows ls →
      Tabulates (Cpu.Report.ofText (unlines ls)).cores rows Cpu.label (cells Cpu.coreColumns)) ∧
    (Sheet Network.Prints Network.Heading rows ls →
      Tabulates (Network.ofText (unlines ls)) rows KernelRow.label (cells Network.columns)) ∧
    (Sheet Disk.Prints Disk.Aside rows ls →
      Tabulates (Disk.Report.ofText (unlines ls)).counters (rows.filter Disk.IsReal)
        KernelRow.label Disk.counterCells ∧
      Tabulates (Disk.Report.ofText (unlines ls)).gauges (rows.filter Disk.IsReal)
        KernelRow.label Disk.gaugeCells) :=
  ⟨Cpu.tabulates distinct, Network.tabulates distinct,
    fun sheet => ⟨Disk.tabulates distinct sheet .counter, Disk.tabulates distinct sheet .gauge⟩⟩

/-- A row as short as rows may be, and one with a word for a number. -/
def KernelRow.samples : List KernelRow :=
  [{ name := "loop7".toList, tokens := [], plain := by decide, notAll := by decide
     words := by decide },
    { name := "sda".toList, tokens := ["12".toList, "x".toList], plain := by decide
      notAll := by decide, words := by decide }]

theorem kernel_tables_are_read_for_two_rows :
    Tabulates (Cpu.Report.ofText
        (unlines ["cpuloop7".toList, "ctxt 5".toList, "cpusda 12 x".toList])).cores
      samples Cpu.label (cells Cpu.coreColumns) ∧
    Tabulates (Network.ofText
        (unlines [" face |bytes    packets".toList, "loop7:".toList, "  sda:12 x".toList]))
      samples KernelRow.label (cells Network.columns) ∧
    Tabulates (Disk.Report.ofText
        (unlines [" 7 0 loop7".toList, [], " 8 16 sda  12 x".toList])).counters
      (samples.filter Disk.IsReal) KernelRow.label Disk.counterCells := by
  have read := kernel_tables_are_read samples (by decide)
  refine ⟨(read _).1 ?_, (read _).2.1 ?_, ((read _).2.2 ?_).1⟩
  · refine .row ?_ (.aside ⟨["ctxt".toList, "5".toList], by decide, by decide⟩ (.row ?_ .nil))
    · exact (by decide : Spaced ["cpuloop7".toList] "cpuloop7".toList)
    · exact (by decide : Spaced ["cpusda".toList, "12".toList, "x".toList] "cpusda 12 x".toList)
  · refine .aside ⟨by decide, ?_⟩ (.row ?_ (.row ?_ .nil))
    · intro before behind cut
      have colon := cut ▸ List.mem_append_right before List.mem_cons_self
      exact absurd colon (by decide)
    · exact ⟨[], [], [], by decide, by decide, by decide, rfl⟩
    · exact ⟨"  ".toList, [], "12 x".toList, by decide, by decide, by decide, rfl⟩
  · refine .row ?_ (.aside ⟨[], by decide, by decide⟩ (.row ?_ .nil))
    · exact ⟨"7".toList, "0".toList, by decide⟩
    · exact ⟨"8".toList, "16".toList, by decide⟩

end Hostwatch
