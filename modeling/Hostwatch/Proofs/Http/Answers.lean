import Hostwatch.Http
import Hostwatch.Proofs.Text.Lines
import Hostwatch.Proofs.Text.Split
import Hostwatch.Proofs.Text.Utf8

/-!
# Answers that are read back

Servers end the lines of a head with a carriage return and a newline, some with a newline alone. An
answer is written here in either way and then read. Its status always comes back. Its body comes
back whole but for one case: if the lines of the head end in a newline alone and the body holds an
empty line of the other kind, what comes before that line is taken for a part of the head.
-/

namespace Hostwatch.Http

/-- How the lines of a head end. -/
inductive LineEnd where
  | crlf
  | lf
  deriving DecidableEq

namespace LineEnd

def chars : LineEnd → List Char
  | .crlf => ['\r', '\n']
  | .lf => ['\n']

/-- The end of the last line of a head and the empty line behind it. -/
def gap (e : LineEnd) : List Char :=
  e.chars ++ e.chars

end LineEnd

/-- A text that lies within a line. -/
def InLine (text : List Char) : Prop :=
  '\r' ∉ text ∧ '\n' ∉ text

/-- What holds no blank lies within a line. -/
theorem inLine_of_solid {text : List Char} (solid : ∀ c ∈ text, Text.isBlank c = false) :
    InLine text := by
  refine ⟨fun member => ?_, fun member => ?_⟩
  · exact absurd (solid _ member) (by decide)
  · exact absurd (solid _ member) (by decide)

theorem InLine.append {first second : List Char} (inLine : InLine first)
    (inLine' : InLine second) : InLine (first ++ second) :=
  ⟨fun member => (List.mem_append.mp member).elim inLine.1 inLine'.1,
    fun member => (List.mem_append.mp member).elim inLine.2 inLine'.2⟩

/-- What an answer says. -/
structure Message where
  /-- The version of the protocol, behind its name. -/
  version : List Char
  status : Nat
  reason : List Char
  /-- The lines between the status and the body. -/
  headers : List (List Char)
  body : List Char
  version_solid : ∀ c ∈ version, Text.isBlank c = false
  status_lt : status < Word.count16
  reason_inLine : InLine reason
  headers_inLine : ∀ header ∈ headers, header ≠ [] ∧ InLine header

namespace Message

variable (m : Message) (e : LineEnd)

/-- The protocol with its version. -/
def protocol : List Char :=
  "HTTP/".toList ++ m.version

/-- The digits of the status. -/
def code : List Char :=
  (Number.natText m.status).toList

def statusLine : List Char :=
  m.protocol ++ ' ' :: (m.code ++ ' ' :: m.reason)

/-- An answer as it is written. -/
def text : List Char :=
  (m.statusLine :: m.headers).flatMap (· ++ e.chars) ++ (e.chars ++ m.body)

end Message

/-! ### The status line -/

theorem step_digitChar {n d : Nat} (digit : d < 10) (word : n * 10 + d < Word.count16) :
    readStatus.step n d.digitChar = .ok (n * 10 + d) := by
  have value : d.digitChar.toNat - '0'.toNat = d := Nat.toNat_digitChar_sub_48_of_lt_ten digit
  rw [readStatus.step, Nat.isDigit_digitChar, value]
  simp [digit, word]

theorem foldlM_step_toDigits {n : Nat} (word : n < Word.count16) :
    (Nat.toDigits 10 n).foldlM readStatus.step 0 = .ok n := by
  induction n using Nat.strongRecOn with
  | ind n ih =>
      rw [Nat.toDigits_eq_if (by decide)]
      split
      · next small =>
          have read := step_digitChar (n := 0) small (by omega)
          rw [Nat.zero_mul, Nat.zero_add] at read
          rw [List.foldlM_cons, read]
          rfl
      · next large =>
          have whole : n / 10 * 10 + n % 10 = n := by omega
          have last := step_digitChar (n := n / 10) (Nat.mod_lt n (by decide)) (by omega)
          rw [whole] at last
          rw [List.foldlM_append, ih (n / 10) (by omega) (by omega)]
          change ([(n % 10).digitChar].foldlM readStatus.step (n / 10)) = .ok n
          rw [List.foldlM_cons, last]
          rfl

/-- A status is read from its digits. -/
theorem readStatus_natText {n : Nat} (word : n < Word.count16) :
    readStatus (Number.natText n).toList = .ok n := by
  have digit {c : Char} (member : c ∈ Nat.toDigits 10 n) : c.isDigit = true :=
    Number.isDigit_of_mem_toDigits member
  rw [Number.natText, String.toList_ofList, ← foldlM_step_toDigits word]
  unfold readStatus
  split
  · next none_ => exact absurd none_ Nat.toDigits_ne_nil
  · next plus =>
      rw [plus] at digit
      exact absurd (digit List.mem_cons_self) (by decide)
  · rfl

/-! ### Where the head ends -/

section Head

variable {e : LineEnd} {c : Char} {tail : List Char}

theorem gap_eq (chars : e.chars = c :: tail) : e.gap = c :: (tail ++ e.chars) := by
  rw [LineEnd.gap, chars, List.cons_append]

/-- The end of a line is skipped if another line follows. -/
theorem splitAtText_lineEnd (chars : e.chars = c :: tail) (apart : c ∉ tail) {d : Char}
    (other : d ≠ c) (rest : List Char) :
    Text.splitAtText e.gap (e.chars ++ d :: rest) =
      (Text.splitAtText e.gap (d :: rest)).map fun parts => (e.chars ++ parts.1, parts.2) := by
  have elsewhere : ¬ e.gap <+: e.chars ++ d :: rest := by
    rw [LineEnd.gap, List.prefix_append_right_inj, chars, List.cons_prefix_cons]
    exact fun begins => other begins.1.symm
  rw [chars, List.cons_append] at elsewhere ⊢
  rw [Text.splitAtText_cons_elsewhere elsewhere, gap_eq chars, Text.splitAtText_append apart,
    Option.map_map]
  rfl

/-- The text is cut behind the first empty line. What is in front begins with the first line. -/
theorem splitAtText_gap (chars : e.chars = c :: tail) (apart : c ∉ tail) {first : List Char}
    {lines : List (List Char)} (first_ : c ∉ first) (each : ∀ line ∈ lines, line ≠ [] ∧ c ∉ line)
    (body : List Char) :
    ∃ more, Text.splitAtText e.gap ((first :: lines).flatMap (· ++ e.chars) ++ (e.chars ++ body)) =
        some (first ++ more, body) ∧ (more = [] ∨ ∃ rest, more = e.chars ++ rest) := by
  induction lines generalizing first with
  | nil =>
      refine ⟨[], ?_, .inl rfl⟩
      have here : Text.splitAtText e.gap (e.chars ++ (e.chars ++ body)) = some ([], body) := by
        rw [← List.append_assoc]
        exact Text.splitAtText_self (by rw [gap_eq chars]; exact List.cons_ne_nil _ _) body
      rw [List.flatMap_cons, List.flatMap_nil, List.append_nil, List.append_assoc, gap_eq chars,
        Text.splitAtText_append first_, ← gap_eq chars, here]
      rfl
  | cons second lines ih =>
      obtain ⟨⟨some_, without⟩, later⟩ := List.forall_mem_cons.mp each
      obtain ⟨more, cut, -⟩ := ih without later
      obtain ⟨d, second, rfl⟩ := List.exists_cons_of_ne_nil some_
      have other : d ≠ c := fun same => without (same ▸ List.mem_cons_self)
      refine ⟨e.chars ++ (d :: second ++ more), ?_, .inr ⟨_, rfl⟩⟩
      rw [List.flatMap_cons, List.append_assoc, List.append_assoc, gap_eq chars,
        Text.splitAtText_append first_, ← gap_eq chars]
      rw [List.flatMap_cons, List.append_assoc, List.append_assoc, List.cons_append] at cut ⊢
      rw [splitAtText_lineEnd chars apart other, cut]
      rfl

end Head

theorem splitHead_of_crlf {text : List Char} {parts : List Char × List Char}
    (cut : Text.splitAtText LineEnd.crlf.gap text = some parts) : splitHead text = parts := by
  have search : Text.splitAtText "\r\n\r\n".toList text = some parts := cut
  rw [splitHead, search]

theorem splitHead_of_lf {text : List Char} {parts : List Char × List Char}
    (none_ : Text.splitAtText LineEnd.crlf.gap text = none)
    (cut : Text.splitAtText LineEnd.lf.gap text = some parts) : splitHead text = parts := by
  have first : Text.splitAtText "\r\n\r\n".toList text = none := none_
  have second : Text.splitAtText "\n\n".toList text = some parts := cut
  rw [splitHead, first, second]
  rfl

/-! ### Reading a head -/

/-- The first line of a text, whichever way it ends. -/
theorem headD_lines {line more : List Char} (inLine : InLine line) (some_ : line ≠ [])
    (ends : more = [] ∨ ∃ (e : LineEnd) (rest : List Char), more = e.chars ++ rest) :
    (Text.lines (line ++ more)).headD [] = line := by
  obtain rfl | ⟨e, rest, rfl⟩ := ends
  · rw [List.append_nil, Text.lines_of_not_mem inLine.2 some_]
    rfl
  · cases e with
    | crlf =>
        have whole : '\n' ∉ line ++ ['\r'] := by simpa using inLine.2
        have text : line ++ (LineEnd.crlf.chars ++ rest) = line ++ ['\r'] ++ '\n' :: rest := by
          simp [LineEnd.chars]
        rw [text, Text.lines_append_newline whole, Text.withoutReturn_append]
        rfl
    | lf =>
        change (Text.lines (line ++ '\n' :: rest)).headD [] = line
        rw [Text.lines_append_newline inLine.2, Text.withoutReturn_of_not_mem inLine.1]
        rfl

namespace Message

variable (m : Message)

theorem protocol_solid : ∀ c ∈ m.protocol, Text.isBlank c = false := by
  intro c member
  obtain name | version := List.mem_append.mp member
  · have all : "HTTP/".toList.all (fun c => !Text.isBlank c) = true := by decide
    simpa using List.all_eq_true.mp all c name
  · exact m.version_solid c version

theorem code_solid : ∀ c ∈ m.code, Text.isBlank c = false :=
  fun _ member => Text.isBlank_of_isDigit (Number.isDigit_of_mem_natText member)

theorem code_ne_nil : m.code ≠ [] := by
  rw [code, Number.natText, String.toList_ofList]
  exact Nat.toDigits_ne_nil

theorem protocol_ne_nil : m.protocol ≠ [] := List.cons_ne_nil _ _

theorem statusLine_ne_nil : m.statusLine ≠ [] := List.cons_ne_nil _ _

theorem statusLine_inLine : InLine m.statusLine := by
  have blank : InLine [' '] := ⟨by decide, by decide⟩
  have line := (inLine_of_solid m.protocol_solid).append <| blank.append <|
    (inLine_of_solid m.code_solid).append <| blank.append m.reason_inLine
  exact line

theorem words_statusLine :
    Text.words m.statusLine = m.protocol :: m.code :: Text.words m.reason := by
  have blank : Text.isBlank ' ' = true := by decide
  rw [statusLine, Text.words_append m.protocol_ne_nil m.protocol_solid blank,
    Text.words_append m.code_ne_nil m.code_solid blank]

/-- The status is read from the first line, and what is behind the head is the body. -/
theorem parse_of_splitHead {octets : Octets} {more body : List Char}
    (cut : splitHead (Utf8.decode octets) = (m.statusLine ++ more, body))
    (ends : more = [] ∨ ∃ (e : LineEnd) (rest : List Char), more = e.chars ++ rest) :
    parse octets = .ok ⟨m.status, String.ofList body⟩ := by
  have version : Text.after? "HTTP/".toList m.protocol = some m.version :=
    Text.after?_eq_some_iff.mpr rfl
  have status : readStatus m.code = .ok m.status := readStatus_natText m.status_lt
  simp only [parse, cut, headD_lines m.statusLine_inLine m.statusLine_ne_nil ends,
    m.words_statusLine, version, status]
  rfl

/-! ### Reading an answer -/

/-- What is in front of the body, where lines end in a newline alone, holds no carriage return. -/
theorem head_plain :
    '\r' ∉ (m.statusLine :: m.headers).flatMap (· ++ LineEnd.lf.chars) ++ LineEnd.lf.chars := by
  have each : ∀ line ∈ m.statusLine :: m.headers, '\r' ∉ line :=
    List.forall_mem_cons.mpr ⟨m.statusLine_inLine.1, fun header member =>
      (m.headers_inLine header member).2.1⟩
  simpa [LineEnd.chars] using each

theorem parse_text_crlf :
    parse (Utf8.encode (m.text .crlf)) = .ok ⟨m.status, String.ofList m.body⟩ := by
  have headers : ∀ header ∈ m.headers, header ≠ [] ∧ '\r' ∉ header :=
    fun header member => (m.headers_inLine header member).imp_right And.left
  obtain ⟨more, cut, ends⟩ := splitAtText_gap (e := .crlf) rfl (by decide) m.statusLine_inLine.1
    headers m.body
  refine m.parse_of_splitHead ?_ (ends.imp_right fun ends => ⟨_, ends⟩)
  rw [Utf8.decode_encode]
  exact splitHead_of_crlf cut

theorem parse_text_lf (plain : ¬ LineEnd.crlf.gap <:+: m.body) :
    parse (Utf8.encode (m.text .lf)) = .ok ⟨m.status, String.ofList m.body⟩ := by
  have headers : ∀ header ∈ m.headers, header ≠ [] ∧ '\n' ∉ header :=
    fun header member => (m.headers_inLine header member).imp_right And.right
  obtain ⟨more, cut, ends⟩ := splitAtText_gap (e := .lf) rfl (by decide) m.statusLine_inLine.2
    headers m.body
  have none_ : Text.splitAtText LineEnd.crlf.gap (m.text .lf) = none := by
    rw [text, ← List.append_assoc, LineEnd.gap, LineEnd.chars, List.cons_append,
      Text.splitAtText_append m.head_plain, Option.map_eq_none_iff]
    exact (Text.splitAtText_eq_none_iff (List.cons_ne_nil _ _)).mpr plain
  refine m.parse_of_splitHead ?_ (ends.imp_right fun ends => ⟨_, ends⟩)
  rw [Utf8.decode_encode]
  exact splitHead_of_lf none_ cut

/-- An empty line in the body that ends otherwise than the lines of the head is taken for the end of
the head. -/
theorem parse_text_lf_of_gap (found : LineEnd.crlf.gap <:+: m.body) :
    ∃ before behind, m.body = before ++ LineEnd.crlf.gap ++ behind ∧
      parse (Utf8.encode (m.text .lf)) = .ok ⟨m.status, String.ofList behind⟩ := by
  cases cut : Text.splitAtText LineEnd.crlf.gap m.body with
  | none => exact absurd found ((Text.splitAtText_eq_none_iff (List.cons_ne_nil _ _)).mp cut)
  | some parts =>
      obtain ⟨before, behind⟩ := parts
      refine ⟨before, behind, Text.eq_of_splitAtText cut, ?_⟩
      let rest := m.headers.flatMap (· ++ LineEnd.lf.chars) ++ LineEnd.lf.chars ++ before
      have head : Text.splitAtText LineEnd.crlf.gap (m.text .lf) =
          some (m.statusLine ++ (LineEnd.lf.chars ++ rest), behind) := by
        rw [text, ← List.append_assoc, LineEnd.gap, LineEnd.chars, List.cons_append,
          Text.splitAtText_append m.head_plain]
        change Option.map _ (Text.splitAtText LineEnd.crlf.gap m.body) = _
        rw [cut]
        simp [rest]
      refine m.parse_of_splitHead ?_ (.inr ⟨.lf, rest, rfl⟩)
      rw [Utf8.decode_encode]
      exact splitHead_of_crlf head

/-- The status of an answer is read as it was written, whichever way the lines of the head end, and
what is taken for the body is an end of it. It is the whole body exactly if the lines of the head
end in a carriage return and a newline, or the body does not hold an empty line that ends so. -/
theorem body_is_read_whole_iff (e : LineEnd) :
    (∃ body, body <:+ m.body ∧
      parse (Utf8.encode (m.text e)) = .ok ⟨m.status, String.ofList body⟩) ∧
    (parse (Utf8.encode (m.text e)) = .ok ⟨m.status, String.ofList m.body⟩ ↔
      e = .crlf ∨ ¬ LineEnd.crlf.gap <:+: m.body) := by
  cases e with
  | crlf => exact ⟨⟨_, List.suffix_rfl, m.parse_text_crlf⟩, iff_of_true m.parse_text_crlf (.inl rfl)⟩
  | lf =>
      by_cases found : LineEnd.crlf.gap <:+: m.body
      · obtain ⟨before, behind, whole, read⟩ := m.parse_text_lf_of_gap found
        refine ⟨⟨behind, ⟨_, whole.symm⟩, read⟩, iff_of_false ?_ ?_⟩
        · rw [read, Except.ok.injEq, Response.mk.injEq, String.ofList_inj]
          rintro ⟨-, same⟩
          have longer := congrArg List.length whole
          rw [← same, List.length_append, List.length_append] at longer
          change _ = before.length + 4 + _ at longer
          omega
        · rintro (⟨⟨⟩⟩ | plain)
          exact plain found
      · exact ⟨⟨_, List.suffix_rfl, m.parse_text_lf found⟩,
          iff_of_true (m.parse_text_lf found) (.inr found)⟩

/-- A page that quotes the end of a head. -/
def quoting : Message where
  version := "1.0".toList
  status := 200
  reason := "OK".toList
  headers := ["Content-Type: text/plain".toList]
  body := "pool: www\r\n\r\nidle processes: 3\n".toList
  version_solid := by
    have none_ : "1.0".toList.any Text.isBlank = false := by decide
    simpa using List.any_eq_false.mp none_
  status_lt := by decide
  reason_inLine := ⟨by decide, by decide⟩
  headers_inLine := by
    intro header member
    rw [List.mem_singleton.mp member]
    exact ⟨by decide, by decide, by decide⟩

/-- The name of the pool is lost with the head. -/
theorem quoted_gap_ends_the_head :
    parse (Utf8.encode (quoting.text .lf)) ≠ .ok ⟨quoting.status, String.ofList quoting.body⟩ := by
  have read : parse (Utf8.encode (quoting.text .lf)) = .ok ⟨200, "idle processes: 3\n"⟩ := by
    rw [parse, Utf8.decode_encode]
    decide
  rw [read]
  decide

end Message

end Hostwatch.Http
