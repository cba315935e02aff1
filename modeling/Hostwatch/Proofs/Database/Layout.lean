import Hostwatch.Database.LineReader

/-!
# The layout of line protocol

A text is contained in its place if it has no newline and does not end in a backslash. Nothing is
done about either when a line is written, and no other character can do harm: the separators are
escaped, and a backslash anywhere but at the end stands before a character that is none.

So the text of a batch falls into the records and pieces that it is written from exactly if all
names, keys and values of tags are contained. Values of fields may be any texts.
-/

namespace Hostwatch

/-- A name, key or value of a tag that stays in its place. -/
def LineProtocol.Contained (s : String) : Prop :=
  '\n' ∉ s.toList ∧ s.toList.getLast? ≠ some '\\'

instance (s : String) : Decidable (LineProtocol.Contained s) :=
  inferInstanceAs (Decidable (_ ∧ _))

namespace Point

open LineProtocol

/-- The tags that are written. -/
def writtenTags (p : Point) : Table String :=
  p.tags.filter fun tag => tag.2 != ""

/-- All names, keys and values of tags that are written of a point are contained. -/
structure Contained (p : Point) : Prop where
  name : LineProtocol.Contained p.name
  tags : ∀ tag ∈ p.writtenTags, LineProtocol.Contained tag.1 ∧ LineProtocol.Contained tag.2
  fields : ∀ field ∈ p.fields, LineProtocol.Contained field.1

end Point

namespace LineProtocol

/-! ### One piece -/

/-- The mode after a text that belongs to one piece. -/
def Mode.pass? (mode : Mode) : List Char → Option Mode
  | [] => some mode
  | c :: rest =>
    match mode.next c with
    | .stays mode => mode.pass? rest
    | .opens _ => none

namespace Mode

theorem role_start (role : Role) : (start role).role = role := by
  cases role with
  | measurement | tagKey | tagValue | fieldKey | fieldValue | stamp => rfl

theorem pass?_append {mode middle : Mode} {first : List Char}
    (passed : mode.pass? first = some middle) (second : List Char) :
    mode.pass? (first ++ second) = middle.pass? second := by
  induction first generalizing mode with
  | nil =>
      cases passed
      rfl
  | cons c first ih =>
      simp only [pass?, List.cons_append] at passed ⊢
      cases move : mode.next c with
      | stays mode =>
          rw [move] at passed
          exact ih passed
      | opens role =>
          rw [move] at passed
          cases passed

end Mode

theorem scan_append {mode middle : Mode} {first : List Char}
    (passed : mode.pass? first = some middle) (second : List Char) :
    scan mode (first ++ second) = (first ++ (scan middle second).1, (scan middle second).2) := by
  induction first generalizing mode with
  | nil =>
      cases passed
      rfl
  | cons c first ih =>
      simp only [Mode.pass?] at passed
      simp only [List.cons_append, scan]
      cases move : mode.next c with
      | stays mode =>
          rw [move] at passed
          simp only [ih passed]
      | opens role =>
          rw [move] at passed
          cases passed

/-- A piece that is followed by what ends it. -/
theorem pieces_of_opens {mode last : Mode} {text : List Char} (passed : mode.pass? text = some last)
    {c : Char} {role : Role} (ends : last.next c = .opens role) (rest : List Char) :
    pieces mode (text ++ c :: rest) = ⟨mode.role, text⟩ :: pieces (.start role) rest := by
  rw [pieces, scan_append passed, scan, ends, pieces, Mode.role_start]
  simp

/-- A piece that is followed by a character that does not end it. -/
theorem text_ne_of_stays {mode last after : Mode} {text : List Char}
    (passed : mode.pass? text = some last) {c : Char} (stays : last.next c = .stays after)
    (rest : List Char) : (scan mode (text ++ c :: rest)).1 ≠ text := by
  rw [scan_append passed, scan, stays]
  simp

/-! ### Names, keys and values of tags -/

section Plain

variable {role : Role}

/-- What is escaped in a piece covers all that ends it, save the newline. -/
theorem Role.after?_eq_none {c : Char} (ordinary : c ∉ role.special) : role.after? c = none := by
  cases role with
  | measurement =>
      simp only [special, List.mem_cons, List.not_mem_nil, or_false, not_or] at ordinary
      simp [after?, ordinary, afterEquals?]
  | tagKey | tagValue | fieldKey | fieldValue | stamp =>
      simp only [special, List.mem_cons, List.not_mem_nil, or_false, not_or] at ordinary
      simp [after?, ordinary]

theorem Role.backslash_not_mem_special : '\\' ∉ role.special := by
  cases role with
  | measurement | tagKey | tagValue | fieldKey | fieldValue | stamp => decide

theorem Role.newline_not_mem_special : '\n' ∉ role.special := by
  cases role with
  | measurement | tagKey | tagValue | fieldKey | fieldValue | stamp => decide

theorem Mode.outside_escaped {c : Char} (inline : c ≠ '\n') :
    outside role true c = .stays (.plain role (c == '\\')) := by
  simp [outside, inline]

theorem Mode.outside_ordinary {c : Char} (inline : c ≠ '\n') (ordinary : c ∉ role.special)
    (escaped : Bool) : outside role escaped c = .stays (.plain role (c == '\\')) := by
  cases escaped with
  | true => exact outside_escaped inline
  | false => simp [outside, inline, Role.after?_eq_none ordinary]

/-- Escaping, character by character. -/
def escapeAll (special : List Char) (cs : List Char) : List Char :=
  cs.flatMap fun c => if special.contains c then ['\\', c] else [c]

theorem escape_eq (special : List Char) (s : String) :
    escape special s = escapeAll special s.toList := rfl

theorem escapeAll_cons (special : List Char) (c : Char) (cs : List Char) :
    escapeAll special (c :: cs) =
      (if c ∈ special then ['\\', c] else [c]) ++ escapeAll special cs := by
  simp [escapeAll]

theorem pass?_escapeAll {cs : List Char} (inline : '\n' ∉ cs) (escaped : Bool) :
    (Mode.plain role escaped).pass? (escapeAll role.special cs) =
      some (.plain role ((cs.getLast?.map (· == '\\')).getD escaped)) := by
  induction cs generalizing escaped with
  | nil => rfl
  | cons c cs ih =>
      simp only [List.mem_cons, not_or] at inline
      obtain ⟨here, inline⟩ := inline
      have block : (Mode.plain role escaped).pass? (if c ∈ role.special then ['\\', c] else [c]) =
          some (.plain role (c == '\\')) := by
        split
        · next special =>
            -- the backslash is an ordinary character, and after it comes an escaped one
            simp [Mode.pass?, Mode.next, Mode.outside_ordinary (by decide)
              Role.backslash_not_mem_special, Mode.outside_escaped (Ne.symm here)]
        · next ordinary =>
            simp [Mode.pass?, Mode.next, Mode.outside_ordinary (Ne.symm here) ordinary]
      rw [escapeAll_cons, Mode.pass?_append block, ih inline, List.getLast?_cons]
      cases cs.getLast? with
      | none => rfl
      | some last => rfl

theorem pieces_of_contained {s : String} (contained : Contained s) {c : Char} {follows : Role}
    (ends : role.after? c = some follows) (inline : c ≠ '\n') (rest : List Char) :
    pieces (.plain role false) (escape role.special s ++ c :: rest) =
      ⟨role, escape role.special s⟩ :: pieces (.start follows) rest := by
  have passed := @pass?_escapeAll role _ contained.1 false
  have unescaped : (s.toList.getLast?.map (· == '\\')).getD false = false := by
    cases last : s.toList.getLast? with
    | none => rfl
    | some c =>
        have other := contained.2
        rw [last] at other
        simpa using other
  rw [unescaped, ← escape_eq] at passed
  refine pieces_of_opens passed ?_ rest
  simp [Mode.next, Mode.outside, inline, ends]

theorem text_ne_of_not_contained {s : String} (loose : ¬ Contained s) {c : Char}
    (inline : c ≠ '\n') (rest : List Char) :
    (scan (.plain role false) (escape role.special s ++ c :: rest)).1 ≠ escape role.special s := by
  rw [escape_eq]
  by_cases single : '\n' ∈ s.toList
  · -- the piece ends at the first newline
    obtain ⟨before, after, split, first⟩ := List.eq_append_cons_of_mem single
    have passed := @pass?_escapeAll role _ first false
    have parts : escapeAll role.special s.toList =
        escapeAll role.special before ++ '\n' :: escapeAll role.special after := by
      rw [split, escapeAll, List.flatMap_append]
      simp [escapeAll, Role.newline_not_mem_special]
    rw [parts, List.append_assoc, scan_append passed, List.cons_append, scan]
    simp [Mode.next, Mode.outside]
  · -- the backslash at the end escapes the character that should end the piece
    have last : s.toList.getLast? = some '\\' := by
      by_contra other
      exact loose ⟨single, other⟩
    have passed := @pass?_escapeAll role _ single false
    rw [last] at passed
    exact text_ne_of_stays passed (Mode.outside_escaped inline) rest

/-- A name, key or value is read as it was written, and as one piece, exactly if it is contained. -/
theorem pieces_escape_iff {s : String} {c : Char} {follows : Role}
    (ends : role.after? c = some follows) (inline : c ≠ '\n') (rest : List Char)
    (ps : List Piece) :
    pieces (.plain role false) (escape role.special s ++ c :: rest) =
        ⟨role, escape role.special s⟩ :: ps ↔
      Contained s ∧ pieces (.start follows) rest = ps := by
  by_cases contained : Contained s
  · rw [pieces_of_contained contained ends inline, List.cons.injEq]
    simp [contained]
  · have differs := @text_ne_of_not_contained role _ contained _ inline rest
    simp [pieces, Mode.role, differs, contained]

end Plain

/-! ### Values of fields and times -/

theorem Mode.outside_isPlain {role : Role} {c : Char} (digit : Number.isPlain c = true) :
    outside role false c = .stays (.plain role false) := by
  have other {d : Char} (no : Number.isPlain d = false) : c ≠ d := by
    rintro rfl
    rw [digit] at no
    cases no
  have ordinary : role.after? c = none := by
    cases role with
    | measurement | tagKey | tagValue | fieldKey | fieldValue | stamp =>
        simp [Role.after?, other (d := ',') (by decide), other (d := ' ') (by decide),
          other (d := '=') (by decide)]
  have follows : (c == '\\') = false := by simpa using other (by decide)
  simp [outside, other (d := '\n') (by decide), ordinary, follows]

theorem pass?_of_isPlain {role : Role} {text : List Char}
    (digits : ∀ c ∈ text, Number.isPlain c = true) :
    (Mode.plain role false).pass? text = some (.plain role false) := by
  induction text with
  | nil => rfl
  | cons c text ih =>
      obtain ⟨here, digits⟩ := List.forall_mem_cons.mp digits
      rw [Mode.pass?, Mode.next, Mode.outside_isPlain here]
      exact ih digits

theorem pass?_quoted (cs : List Char) :
    (Mode.quoted false).pass? (escapeAll ['\\', '"'] cs) = some (.quoted false) := by
  induction cs with
  | nil => rfl
  | cons c cs ih =>
      have block : (Mode.quoted false).pass? (if c ∈ ['\\', '"'] then ['\\', c] else [c]) =
          some (.quoted false) := by
        split
        · next special => simp [Mode.pass?, Mode.next]
        · next ordinary =>
            simp only [List.mem_cons, List.not_mem_nil, or_false, not_or] at ordinary
            simp [Mode.pass?, Mode.next, ordinary]
      rw [escapeAll_cons, Mode.pass?_append block, ih]

theorem pass?_number {text : List Char} (digits : ∀ c ∈ text, Number.isPlain c = true)
    (some_digit : text ≠ []) : Mode.opening.pass? text = some (.plain .fieldValue false) := by
  cases text with
  | nil => exact absurd rfl some_digit
  | cons c text =>
      obtain ⟨here, digits⟩ := List.forall_mem_cons.mp digits
      have bare : c ≠ '"' := by
        rintro rfl
        revert here
        decide
      rw [Mode.pass?, Mode.next, if_neg bare, Mode.outside_isPlain here]
      exact pass?_of_isPlain digits

theorem pass?_value (v : FieldValue) :
    Mode.opening.pass? (value v) = some (.plain .fieldValue false) := by
  cases v with
  | bool b =>
      cases b with
      | false => rfl
      | true => rfl
  | number x =>
      exact pass?_number (fun c => Number.isPlain_of_mem_plain) (Number.plain_ne_empty x)
  | text s =>
      have inner : Mode.opening.pass? ('"' :: escape ['\\', '"'] s) = some (.quoted false) := by
        rw [escape_eq]
        exact pass?_quoted s.toList
      rw [value, Mode.pass?_append inner]
      rfl

/-- The value of a field is one piece, whatever it is. -/
theorem pieces_value (v : FieldValue) {c : Char} {follows : Role}
    (ends : Mode.outside .fieldValue false c = .opens follows) (rest : List Char) :
    pieces (.start .fieldValue) (value v ++ c :: rest) =
      ⟨.fieldValue, value v⟩ :: pieces (.start follows) rest :=
  pieces_of_opens (pass?_value v) ends rest

/-- What of the time of a point is written. -/
def stampPieces (t : Timestamp) : List Piece :=
  if Word.fits t.toNanos then [⟨.stamp, (Number.intText t.toNanos).toList⟩] else []

/-- The last value of a record, with the time after it. -/
theorem pieces_last_value (v : FieldValue) (t : Timestamp) (rest : List Char) :
    pieces (.start .fieldValue) (value v ++ (time t ++ '\n' :: rest)) =
      ⟨.fieldValue, value v⟩ :: (stampPieces t ++ pieces (.start .measurement) rest) := by
  have newline : Mode.outside .fieldValue false '\n' = .opens .measurement := rfl
  have space : Mode.outside .fieldValue false ' ' = .opens .stamp := rfl
  have stamp : (Mode.start .stamp).pass? (Number.intText t.toNanos).toList =
      some (.plain .stamp false) :=
    pass?_of_isPlain fun c => Number.isPlain_of_mem_intText
  have ends : (Mode.plain .stamp false).next '\n' = .opens .measurement := rfl
  unfold stampPieces
  split
  · next fits =>
      have text : time t = ' ' :: (Number.intText t.toNanos).toList := by simp [time, fits]
      rw [text, List.cons_append, pieces_value v space, pieces_of_opens stamp ends,
        Mode.role_start]
      rfl
  · next long =>
      have text : time t = [] := by simp [time, long]
      rw [text]
      exact pieces_value v newline rest

/-! ### Tags and fields -/

/-- The pieces of tags. -/
def tagPieces (tags : Table String) : List Piece :=
  tags.flatMap fun tag => [⟨.tagKey, key tag.1⟩, ⟨.tagValue, key tag.2⟩]

/-- The pieces of fields. -/
def fieldPieces (fields : Table FieldValue) : List Piece :=
  fields.flatMap fun field => [⟨.fieldKey, key field.1⟩, ⟨.fieldValue, value field.2⟩]

/-- Tags as they are written, without empty ones. -/
def tagText (tags : Table String) : List Char :=
  tags.flatMap fun tag => ',' :: key tag.1 ++ '=' :: key tag.2

theorem tags_eq (p : Point) : tags p.tags = tagText p.writtenTags := rfl

theorem pieces_tagKey_iff (s : String) (rest : List Char) (ps : List Piece) :
    pieces (.start .tagKey) (key s ++ '=' :: rest) = ⟨.tagKey, key s⟩ :: ps ↔
      Contained s ∧ pieces (.start .tagValue) rest = ps :=
  pieces_escape_iff rfl (by decide) rest ps

theorem pieces_fieldKey_iff (s : String) (rest : List Char) (ps : List Piece) :
    pieces (.start .fieldKey) (key s ++ '=' :: rest) = ⟨.fieldKey, key s⟩ :: ps ↔
      Contained s ∧ pieces (.start .fieldValue) rest = ps :=
  pieces_escape_iff rfl (by decide) rest ps

/-- The name of a record or the value of a tag, with the tags and the fields after it. -/
theorem pieces_before_tags_iff {role : Role} (comma : role.afterComma = .tagKey)
    (space : role.afterSpace = .fieldKey) (s : String) (tags : Table String) (rest : List Char)
    (ps : List Piece) :
    pieces (.plain role false) (escape role.special s ++ (tagText tags ++ ' ' :: rest)) =
        ⟨role, escape role.special s⟩ :: (tagPieces tags ++ ps) ↔
      Contained s ∧ (∀ tag ∈ tags, Contained tag.1 ∧ Contained tag.2) ∧
        pieces (.start .fieldKey) rest = ps := by
  induction tags generalizing role s with
  | nil =>
      have ends : role.after? ' ' = some .fieldKey := by simp [Role.after?, space]
      simpa [tagText, tagPieces] using pieces_escape_iff ends (by decide) rest ps
  | cons tag tags ih =>
      have ends : role.after? ',' = some .tagKey := by simp [Role.after?, comma]
      have text : tagText (tag :: tags) ++ ' ' :: rest =
          ',' :: (key tag.1 ++ '=' :: (key tag.2 ++ (tagText tags ++ ' ' :: rest))) := by
        simp [tagText]
      have parts : tagPieces (tag :: tags) ++ ps =
          ⟨.tagKey, key tag.1⟩ :: ⟨.tagValue, key tag.2⟩ :: (tagPieces tags ++ ps) := by
        simp [tagPieces]
      have later : pieces (.start .tagValue) (key tag.2 ++ (tagText tags ++ ' ' :: rest)) =
          ⟨.tagValue, key tag.2⟩ :: (tagPieces tags ++ ps) ↔ _ :=
        ih rfl rfl tag.2
      rw [text, parts, pieces_escape_iff ends (by decide), pieces_tagKey_iff, later,
        List.forall_mem_cons]
      tauto

/-- The fields of a record, with its time. -/
theorem pieces_fields_iff {fs : Table FieldValue} (some_field : fs ≠ []) (t : Timestamp)
    (rest : List Char) (ps : List Piece) :
    pieces (.start .fieldKey) (fields fs ++ (time t ++ '\n' :: rest)) =
        fieldPieces fs ++ (stampPieces t ++ ps) ↔
      (∀ field ∈ fs, Contained field.1) ∧ pieces (.start .measurement) rest = ps := by
  induction fs with
  | nil => exact absurd rfl some_field
  | cons field fs ih =>
      cases fs with
      | nil =>
          have text : fields [field] ++ (time t ++ '\n' :: rest) =
              key field.1 ++ '=' :: (value field.2 ++ (time t ++ '\n' :: rest)) := by
            simp [fields]
          have parts : fieldPieces [field] ++ (stampPieces t ++ ps) =
              ⟨.fieldKey, key field.1⟩ :: ⟨.fieldValue, value field.2⟩ ::
                (stampPieces t ++ ps) := rfl
          rw [text, parts, pieces_fieldKey_iff, pieces_last_value]
          simp
      | cons other fs =>
          have comma : Mode.outside .fieldValue false ',' = .opens .fieldKey := rfl
          have text : fields (field :: other :: fs) ++ (time t ++ '\n' :: rest) =
              key field.1 ++ '=' :: (value field.2 ++ ',' ::
                (fields (other :: fs) ++ (time t ++ '\n' :: rest))) := by
            simp [fields]
          have parts : fieldPieces (field :: other :: fs) ++ (stampPieces t ++ ps) =
              ⟨.fieldKey, key field.1⟩ :: ⟨.fieldValue, value field.2⟩ ::
                (fieldPieces (other :: fs) ++ (stampPieces t ++ ps)) := rfl
          have later := ih (by simp)
          rw [text, parts, pieces_fieldKey_iff, pieces_value _ comma, List.cons.injEq]
          rw [later, List.forall_mem_cons]
          simp [and_assoc]

/-! ### Records -/

/-- The pieces that the line of a point is written from. -/
def pointPieces (p : Point) : List Piece :=
  ⟨.measurement, measurement p.name⟩ ::
    (tagPieces p.writtenTags ++ (fieldPieces p.fields ++ stampPieces p.time))

/-- The points that are written. -/
def written (points : List Point) : List Point :=
  points.filter fun p => !p.fields.isEmpty

theorem render_eq (points : List Point) :
    (render points).toList = (written points).flatMap line := by
  rw [render, String.toList_ofList, written]

theorem pieces_line_iff {p : Point} (some_field : p.fields ≠ []) (rest : List Char)
    (ps : List Piece) :
    pieces (.start .measurement) (line p ++ rest) = pointPieces p ++ ps ↔
      p.Contained ∧ pieces (.start .measurement) rest = ps := by
  have text : line p ++ rest = measurement p.name ++
      (tagText p.writtenTags ++ ' ' :: (fields p.fields ++ (time p.time ++ '\n' :: rest))) := by
    simp [line, tags_eq]
  have parts : pointPieces p ++ ps = ⟨.measurement, measurement p.name⟩ ::
      (tagPieces p.writtenTags ++ (fieldPieces p.fields ++ (stampPieces p.time ++ ps))) := by
    simp [pointPieces]
  have before : pieces (.start .measurement) (measurement p.name ++ (tagText p.writtenTags ++
      ' ' :: (fields p.fields ++ (time p.time ++ '\n' :: rest)))) =
      ⟨.measurement, measurement p.name⟩ :: (tagPieces p.writtenTags ++
        (fieldPieces p.fields ++ (stampPieces p.time ++ ps))) ↔ _ :=
    pieces_before_tags_iff rfl rfl p.name p.writtenTags _ _
  rw [text, parts, before, pieces_fields_iff some_field]
  constructor
  · rintro ⟨name, tags, fields, later⟩
    exact ⟨⟨name, tags, fields⟩, later⟩
  · rintro ⟨contained, later⟩
    exact ⟨contained.name, contained.tags, contained.fields, later⟩

theorem pieces_lines_iff {points : List Point} (some_field : ∀ p ∈ points, p.fields ≠ [])
    (ps : List Piece) :
    pieces (.start .measurement) (points.flatMap line) = points.flatMap pointPieces ++ ps ↔
      (∀ p ∈ points, p.Contained) ∧ [⟨.measurement, []⟩] = ps := by
  induction points with
  | nil => simp [pieces, scan, Mode.role_start]
  | cons p points ih =>
      obtain ⟨here, later⟩ := List.forall_mem_cons.mp some_field
      rw [List.flatMap_cons, List.flatMap_cons, List.append_assoc, pieces_line_iff here, ih later,
        List.forall_mem_cons, and_assoc]

/-- The name of a record comes first and only there. -/
def IsRecord : List Piece → Prop
  | [] => False
  | name :: rest => name.role = .measurement ∧ ∀ q ∈ rest, q.role ≠ .measurement

theorem mem_tagPieces {q : Piece} {tags : Table String} (member : q ∈ tagPieces tags) :
    q.role = .tagKey ∨ q.role = .tagValue := by
  obtain ⟨tag, -, member⟩ := List.mem_flatMap.mp member
  simp only [List.mem_cons, List.not_mem_nil, or_false] at member
  rcases member with rfl | rfl
  · exact .inl rfl
  · exact .inr rfl

theorem mem_fieldPieces {q : Piece} {fields : Table FieldValue} (member : q ∈ fieldPieces fields) :
    q.role = .fieldKey ∨ q.role = .fieldValue := by
  obtain ⟨field, -, member⟩ := List.mem_flatMap.mp member
  simp only [List.mem_cons, List.not_mem_nil, or_false] at member
  rcases member with rfl | rfl
  · exact .inl rfl
  · exact .inr rfl

theorem mem_stampPieces {q : Piece} {t : Timestamp} (member : q ∈ stampPieces t) :
    q.role = .stamp := by
  unfold stampPieces at member
  split at member
  · rw [List.mem_singleton.mp member]
  · cases member

theorem isRecord_pointPieces (p : Point) : IsRecord (pointPieces p) := by
  refine ⟨rfl, fun q member name => ?_⟩
  simp only [List.mem_append] at member
  rcases member with tag | field | stamp
  · have role := mem_tagPieces tag
    simp [name] at role
  · have role := mem_fieldPieces field
    simp [name] at role
  · have role := mem_stampPieces stamp
    simp [name] at role

theorem splitBy_records {rs : List (List Piece)} (each : ∀ r ∈ rs, IsRecord r) :
    (rs.flatten.splitBy fun _ b => b.role != .measurement) = rs := by
  refine List.splitBy_flatten ?_ ?_ ?_
  · intro empty
    exact each [] empty
  · intro r member
    have record := each r member
    cases r with
    | nil => exact record.elim
    | cons name rest =>
        have later : ∀ q ∈ rest, (q.role != .measurement) = true := by
          simpa using record.2
        refine List.Pairwise.isChain ?_
        refine List.pairwise_cons.mpr ⟨later, ?_⟩
        exact List.pairwise_of_forall_mem_list fun _ _ b member => later b member
  · refine List.Pairwise.isChain ?_
    refine List.pairwise_of_forall_mem_list fun a first b second => ?_
    have before := each a first
    have after := each b second
    cases a with
    | nil => exact before.elim
    | cons _ _ =>
        cases b with
        | nil => exact after.elim
        | cons name rest =>
            exact ⟨by simp, by simp, by simpa using after.1⟩

/-- The records that are read are the points that were written, piece by piece, exactly if those
points are contained. -/
theorem records_render_iff (points : List Point) :
    records (render points) = (written points).map pointPieces ↔
      ∀ p ∈ written points, p.Contained := by
  have some_field : ∀ p ∈ written points, p.fields ≠ [] := by
    intro p member
    have kept := (List.mem_filter.mp member).2
    simpa using kept
  have layout := pieces_lines_iff some_field
  rw [records, render_eq]
  constructor
  · intro same
    -- what comes after the last newline is all that the records leave of the pieces
    let all := (pieces (.start .measurement) ((written points).flatMap line)).splitBy
      fun _ b => b.role != .measurement
    have some_piece : all ≠ [] := List.splitBy_ne_nil.mpr (by simp [pieces])
    have split : all.dropLast ++ [all.getLast some_piece] = all :=
      List.dropLast_concat_getLast some_piece
    have whole : all.flatten = pieces (.start .measurement) ((written points).flatMap line) :=
      List.flatten_splitBy ..
    rw [← split, same, List.flatten_append, ← List.flatMap_def, List.flatten_singleton] at whole
    exact ((layout _).mp whole.symm).1
  · intro contained
    let unfinished : List Piece := [⟨.measurement, []⟩]
    have text : pieces (.start .measurement) ((written points).flatMap line) =
        ((written points).map pointPieces ++ [unfinished]).flatten := by
      rw [(layout unfinished).mpr ⟨contained, rfl⟩]
      simp [List.flatMap_def]
    have each : ∀ r ∈ (written points).map pointPieces ++ [unfinished], IsRecord r := by
      intro r member
      rcases List.mem_append.mp member with point | last
      · obtain ⟨p, -, rfl⟩ := List.mem_map.mp point
        exact isRecord_pointPieces p
      · rw [List.mem_singleton.mp last]
        exact ⟨rfl, nofun⟩
    rw [text, splitBy_records each, List.dropLast_concat]

/-- How many pieces of a record stand for one thing. -/
def count (role : Role) (record : List Piece) : Nat :=
  record.countP (·.role = role)

theorem count_tagPieces (role : Role) (tags : Table String) :
    count role (tagPieces tags) =
      if role = .tagKey ∨ role = .tagValue then tags.length else 0 := by
  induction tags with
  | nil => simp [count, tagPieces]
  | cons tag tags ih =>
      have first : tagPieces (tag :: tags) =
          ⟨.tagKey, key tag.1⟩ :: ⟨.tagValue, key tag.2⟩ :: tagPieces tags := rfl
      simp only [count] at ih
      cases role with
      | measurement | tagKey | tagValue | fieldKey | fieldValue | stamp =>
          simpa [count, first] using ih

theorem count_fieldPieces (role : Role) (fields : Table FieldValue) :
    count role (fieldPieces fields) =
      if role = .fieldKey ∨ role = .fieldValue then fields.length else 0 := by
  induction fields with
  | nil => simp [count, fieldPieces]
  | cons field fields ih =>
      have first : fieldPieces (field :: fields) =
          ⟨.fieldKey, key field.1⟩ :: ⟨.fieldValue, value field.2⟩ :: fieldPieces fields := rfl
      simp only [count] at ih
      cases role with
      | measurement | tagKey | tagValue | fieldKey | fieldValue | stamp =>
          simpa [count, first] using ih

theorem count_stampPieces (role : Role) (t : Timestamp) :
    count role (stampPieces t) = if role = .stamp ∧ Word.fits t.toNanos then 1 else 0 := by
  unfold stampPieces
  split
  · next fits =>
      cases role with
      | measurement | tagKey | tagValue | fieldKey | fieldValue | stamp => simp [count, fits]
  · next long => simp [count, long]

theorem count_pointPieces (role : Role) (p : Point) :
    count role (pointPieces p) =
      match role with
      | .measurement => 1
      | .tagKey | .tagValue => p.writtenTags.length
      | .fieldKey | .fieldValue => p.fields.length
      | .stamp => if Word.fits p.time.toNanos then 1 else 0 := by
  have sum : count role (pointPieces p) =
      count role [⟨.measurement, measurement p.name⟩] + (count role (tagPieces p.writtenTags) +
        (count role (fieldPieces p.fields) + count role (stampPieces p.time))) := by
    simp [count, pointPieces, List.countP_cons, List.countP_append, Nat.add_comm]
  rw [sum, count_tagPieces, count_fieldPieces, count_stampPieces]
  cases role with
  | measurement | tagKey | tagValue | fieldKey | fieldValue | stamp => simp [count]

/-- The records of a batch are its points with fields, and each splits into the name, the tags with
a value, the fields and at most one time, exactly if no name, no key and no value of a tag has a
newline or ends in a backslash. -/
theorem nothing_breaks_out_iff_contained (points : List Point) :
    (records (render points) = (written points).map pointPieces ↔
      ∀ p ∈ written points, p.Contained) ∧
    ∀ p : Point, count .measurement (pointPieces p) = 1 ∧
      count .tagKey (pointPieces p) = p.writtenTags.length ∧
      count .fieldKey (pointPieces p) = p.fields.length ∧
      count .stamp (pointPieces p) ≤ 1 := by
  refine ⟨records_render_iff points, fun p => ⟨?_, ?_, ?_, ?_⟩⟩
  · exact count_pointPieces .measurement p
  · exact count_pointPieces .tagKey p
  · exact count_pointPieces .fieldKey p
  · rw [count_pointPieces .stamp p]
    dsimp only
    split
    · exact Nat.le_refl 1
    · exact Nat.zero_le 1

/-- A newline in the value of a tag begins another record, and a backslash at its end takes the
field after it into the tag. -/
theorem value_of_a_tag_breaks_out :
    let pool (name : String) : Point :=
      { name := "phpfpm", tags := [("pool", name)], fields := [("up", .bool true)], time := ⟨0, 0⟩ }
    (records (render [pool "www\nfpm"])).length = 2 ∧
      (records (render [pool "www\\"])).map (count .fieldValue) = [0] := by
  decide

end LineProtocol

end Hostwatch
