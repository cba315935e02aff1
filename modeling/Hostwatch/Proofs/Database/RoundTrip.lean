import Hostwatch.Proofs.Database.Layout
import Hostwatch.Proofs.Table

/-!
# Line protocol is read back

Once the pieces of a text are known, what they stand for can be told from each of them alone: a
backslash that was put before a character is taken away again, and a value shows by its first
character whether it is a text.
-/

namespace Hostwatch

namespace LineProtocol

/-! ### Escaped characters -/

/-- A backslash in front of what was escaped is not taken for an escaping one. -/
theorem unescape_cons_of_ordinary {special : List Char} {c : Char} (ordinary : c ∉ special)
    (cs : List Char) :
    unescape special (c :: escapeAll special cs) =
      c :: unescape special (escapeAll special cs) := by
  cases cs with
  | nil => rfl
  | cons d cs =>
      rw [escapeAll_cons]
      split
      · next escaped =>
          by_cases slash : c = '\\'
          · subst slash
            simp [unescape, ordinary]
          · simp [unescape, slash]
      · next plain => simp [unescape, plain]

/-- What was escaped is read back, whatever the special characters are. -/
theorem unescape_escapeAll (special : List Char) (cs : List Char) :
    unescape special (escapeAll special cs) = cs := by
  induction cs with
  | nil => rfl
  | cons c cs ih =>
      by_cases escaped : c ∈ special
      · rw [escapeAll_cons, if_pos escaped]
        simp [unescape, escaped, ih]
      · have text : escapeAll special (c :: cs) = c :: escapeAll special cs := by
          simp [escapeAll_cons, escaped]
        rw [text, unescape_cons_of_ordinary escaped, ih]

theorem plain_escape (role : Role) (s : String) :
    Piece.plain ⟨role, escape role.special s⟩ = s := by
  rw [Piece.plain, escape_eq, unescape_escapeAll, String.ofList_toList]

/-! ### Values and times -/

/-- What is read of the value of a field. -/
def Value.of : FieldValue → Value
  | .bool b => .bool b
  | .number x => .number (Number.plain x)
  | .text s => .text s

theorem read?_number {text : List Char} (digits : ∀ c ∈ text, Number.isPlain c = true) :
    Value.read? text = some (.number (String.ofList text)) := by
  have bare : ∀ rest, text ≠ '"' :: rest := by
    rintro rest rfl
    exact absurd (digits '"' List.mem_cons_self) (by decide)
  have word {word : String} (letter : 'e' ∈ word.toList) : text ≠ word.toList := by
    rintro rfl
    exact absurd (digits 'e' letter) (by decide)
  unfold Value.read?
  split
  · next rest => exact absurd rfl (bare rest)
  · rw [if_neg (word (by decide)), if_neg (word (by decide))]

theorem read?_value (v : FieldValue) : Value.read? (value v) = some (.of v) := by
  cases v with
  | bool b =>
      cases b with
      | false => rfl
      | true => rfl
  | number x =>
      refine (read?_number fun c => Number.isPlain_of_mem_plain).trans ?_
      rw [String.ofList_toList, Value.of]
  | text s =>
      have quoted : value (.text s) = '"' :: (escapeAll ['\\', '"'] s.toList ++ ['"']) := rfl
      simp [quoted, Value.read?, unescape_escapeAll, Value.of]

/-- The time that is read. -/
def stampOf (t : Timestamp) : Option Int :=
  if Word.fits t.toNanos then some t.toNanos else none

/-! ### Records -/

theorem readTags_of_other {rest : List Piece} (others : ∀ q ∈ rest, q.role ≠ .tagKey) :
    readTags rest = ([], rest) := by
  unfold readTags
  split
  · next key value rest =>
      have other : key.role ≠ .tagKey := others key List.mem_cons_self
      simp [other]
  · rfl

theorem readTags_tagPieces (tags : Table String) {rest : List Piece}
    (others : ∀ q ∈ rest, q.role ≠ .tagKey) :
    readTags (tagPieces tags ++ rest) = (tags, rest) := by
  induction tags with
  | nil => exact readTags_of_other others
  | cons tag tags ih =>
      have first : tagPieces (tag :: tags) ++ rest =
          ⟨.tagKey, key tag.1⟩ :: ⟨.tagValue, key tag.2⟩ :: (tagPieces tags ++ rest) := rfl
      have name : Piece.plain ⟨.tagKey, key tag.1⟩ = tag.1 := plain_escape .tagKey tag.1
      have text : Piece.plain ⟨.tagValue, key tag.2⟩ = tag.2 := plain_escape .tagValue tag.2
      simp [first, readTags, ih, name, text]

theorem readFields?_fieldPieces (fields : Table FieldValue) (t : Timestamp) :
    readFields? (fieldPieces fields ++ stampPieces t) = some (fields.mapValues .of, stampOf t) := by
  induction fields with
  | nil =>
      unfold stampOf stampPieces
      split
      · simp [fieldPieces, readFields?, Number.readInt?_intText, Table.mapValues]
      · rfl
  | cons field fields ih =>
      have first : fieldPieces (field :: fields) ++ stampPieces t =
          ⟨.fieldKey, key field.1⟩ :: ⟨.fieldValue, value field.2⟩ ::
            (fieldPieces fields ++ stampPieces t) := rfl
      have name : Piece.plain ⟨.fieldKey, key field.1⟩ = field.1 := plain_escape .fieldKey field.1
      simp [first, readFields?, ih, name, read?_value, Table.mapValues]

end LineProtocol

/-- What is read of a point: its tags without the empty ones, and its time only if it fits. -/
def Point.entry (p : Point) : LineProtocol.Entry :=
  { name := p.name
    tags := p.writtenTags
    fields := p.fields.mapValues .of
    stamp := LineProtocol.stampOf p.time }

namespace LineProtocol

theorem read?_pointPieces (p : Point) : Entry.read? (pointPieces p) = some p.entry := by
  have others : ∀ q ∈ fieldPieces p.fields ++ stampPieces p.time, q.role ≠ .tagKey := by
    intro q member tag
    rcases List.mem_append.mp member with field | stamp
    · have role := mem_fieldPieces field
      simp [tag] at role
    · have role := mem_stampPieces stamp
      simp [tag] at role
  have name : Piece.plain ⟨.measurement, measurement p.name⟩ = p.name :=
    plain_escape .measurement p.name
  simp only [pointPieces, Entry.read?, readTags_tagPieces _ others, readFields?_fieldPieces, name]
  rfl

theorem read?_render {points : List Point} (contained : ∀ p ∈ written points, p.Contained) :
    read? (render points) = some ((written points).map Point.entry) := by
  have each : Entry.read? ∘ pointPieces = fun p => pure p.entry := funext read?_pointPieces
  rw [read?, (records_render_iff points).mpr contained, List.mapM_map, each, List.mapM_pure]
  rfl

/-! ### The order in which a point is put together -/

end LineProtocol

namespace Point

/-- One step of putting a point together. -/
inductive Setting where
  | tag (key value : String)
  | field (key : String) (value : FieldValue)

namespace Setting

/-- The tag that is set. -/
def tag? : Setting → Option (String × String)
  | .tag key value => some (key, value)
  | .field .. => none

/-- The field that is set. -/
def field? : Setting → Option (String × FieldValue)
  | .tag .. => none
  | .field key value => some (key, value)

end Setting

/-- Sets one tag or field. -/
def set (p : Point) : Setting → Point
  | .tag key value => p.tag key value
  | .field key value => p.field key value

theorem foldl_set (p : Point) (settings : List Setting) :
    settings.foldl set p =
      { p with
        tags := p.tags.insertAll (settings.filterMap Setting.tag?)
        fields := p.fields.insertAll (settings.filterMap Setting.field?) } := by
  induction settings generalizing p with
  | nil => rfl
  | cons setting rest ih =>
      rw [List.foldl_cons, ih]
      cases setting with
      | tag key value => rfl
      | field key value => rfl

/-- Each tag and each field is set once. -/
structure SetOnce (settings : List Setting) : Prop where
  tags : (Table.keys (settings.filterMap Setting.tag?)).Nodup
  fields : (Table.keys (settings.filterMap Setting.field?)).Nodup

/-- The order does not matter in which tags and fields are set. -/
theorem foldl_set_perm {first second : List Setting} (order : first.Perm second)
    (once : SetOnce first) (name : String) (time : Timestamp) :
    first.foldl set { name, time } = second.foldl set { name, time } := by
  rw [foldl_set, foldl_set]
  dsimp only
  rw [Table.sorted_nil.insertAll_perm (order.filterMap _) once.tags,
    Table.sorted_nil.insertAll_perm (order.filterMap _) once.fields]

end Point

namespace LineProtocol

open Point (Setting SetOnce)

/-- If no name, no key and no value of a tag has a newline or ends in a backslash, the text of a
batch is read as the points with fields, in their order. How a point was put together does not
show. -/
theorem batch_is_read_back {points : List Point} (contained : ∀ p ∈ written points, p.Contained) :
    read? (render points) = some ((written points).map Point.entry) ∧
    ∀ (before after : List Point) (name : String) (time : Timestamp) (first second : List Setting),
      first.Perm second → SetOnce first →
      render (before ++ first.foldl Point.set { name, time } :: after) =
        render (before ++ second.foldl Point.set { name, time } :: after) := by
  refine ⟨read?_render contained, ?_⟩
  intro before after name time first second order once
  rw [Point.foldl_set_perm order once]

/-- A point without fields is left out, and so is a tag without a value. Commas, spaces, equals
signs, quotation marks and backslashes come back, and newlines in a text. -/
theorem labelled_disk_is_read_back :
    let silent : Point := { name := "silent", time := ⟨0, 0⟩ }
    let disk : Point :=
      { name := "disk, free", tags := [("label", ""), ("mount=", "C:\\data, \"old\"")]
        fields := [("full", .bool false), ("note of", .text "first\nlast = \"\\")]
        time := ⟨1700000000, 5⟩ }
    let settings : List Setting :=
      [.tag "mount" "/", .field "full" (.bool true), .tag "host" "web"]
    read? (render [silent, disk]) = some
        [{ name := "disk, free", tags := [("mount=", "C:\\data, \"old\"")]
           fields := [("full", .bool false), ("note of", .text "first\nlast = \"\\")]
           stamp := some 1700000000000000005 }] ∧
      render [settings.foldl Point.set silent] =
        render [settings.reverse.foldl Point.set silent] := by
  intro silent disk settings
  have contained : ∀ p ∈ written [silent, disk], p.Contained := by
    intro p member
    rw [List.mem_singleton.mp member]
    exact ⟨by decide, by decide, by decide⟩
  obtain ⟨read, order⟩ := batch_is_read_back contained
  refine ⟨read.trans rfl, ?_⟩
  exact order [] [] "silent" ⟨0, 0⟩ settings settings.reverse (List.reverse_perm _).symm
    ⟨by decide, by decide⟩

end LineProtocol

end Hostwatch
