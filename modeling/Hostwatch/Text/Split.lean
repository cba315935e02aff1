/-!
# Cutting text into pieces

Every report that the agents read is cut by a handful of rules: at line ends, at runs of blanks,
at the first or the last occurrence of a mark. They are stated on lists of characters, where a
piece and its rest are visible, and `String` only appears at the edges.
-/

namespace Hostwatch.Text

/-- The characters with the Unicode property `White_Space`. -/
def isBlank (c : Char) : Bool :=
  let n := c.toNat
  (0x09 ≤ n && n ≤ 0x0D) || n == 0x20 || n == 0x85 || n == 0xA0 || n == 0x1680
    || (0x2000 ≤ n && n ≤ 0x200A) || n == 0x2028 || n == 0x2029 || n == 0x202F || n == 0x205F
    || n == 0x3000

/-- Drops the blanks in front. -/
def trimLeft (cs : List Char) : List Char :=
  cs.dropWhile isBlank

/-- Drops the blanks behind. -/
def trimRight (cs : List Char) : List Char :=
  (cs.reverse.dropWhile isBlank).reverse

/-- Drops the blanks on both sides. -/
def trim (cs : List Char) : List Char :=
  trimRight (trimLeft cs)

/-- Cuts at every character that satisfies `p`; always yields at least one piece. -/
def splitBy (p : Char → Bool) (cs : List Char) : List (List Char) :=
  go cs [] []
where
  /-- `piece` and `done` are kept in reverse. -/
  go : List Char → List Char → List (List Char) → List (List Char)
    | [], piece, done => (piece.reverse :: done).reverse
    | c :: rest, piece, done =>
      if p c then go rest [] (piece.reverse :: done) else go rest (c :: piece) done

/-- The non-empty pieces between runs of blanks. -/
def words (cs : List Char) : List (List Char) :=
  (splitBy isBlank cs).filter fun w => !w.isEmpty

/-- The lines of a text. A final newline ends the last line and opens no further one, and the
carriage return of a `\r\n` belongs to the line end. -/
def lines (cs : List Char) : List (List Char) :=
  go cs [] []
where
  /-- `line` holds the characters of the current line in reverse, and `done` the lines before it in
  reverse. -/
  go : List Char → List Char → List (List Char) → List (List Char)
    | [], [], done => done.reverse
    | [], line, done => (line.reverse :: done).reverse
    | '\n' :: rest, '\r' :: line, done => go rest [] (line.reverse :: done)
    | '\n' :: rest, line, done => go rest [] (line.reverse :: done)
    | c :: rest, line, done => go rest (c :: line) done

/-- What stands before and after the first character that satisfies `p`. -/
def splitOnceBy (p : Char → Bool) (cs : List Char) : Option (List Char × List Char) :=
  match cs.span (fun c => !p c) with
  | (before, _ :: after) => some (before, after)
  | (_, []) => none

/-- What stands before and after the first `mark`. -/
def splitOnce (mark : Char) (cs : List Char) : Option (List Char × List Char) :=
  splitOnceBy (· == mark) cs

/-- What stands before and after the last `mark`. -/
def splitLast (mark : Char) (cs : List Char) : Option (List Char × List Char) :=
  (splitOnce mark cs.reverse).map fun (after, before) => (before.reverse, after.reverse)

/-- The rest of `cs` behind `start`, when `cs` begins with it. -/
def after? : (start cs : List Char) → Option (List Char)
  | [], cs => some cs
  | _ :: _, [] => none
  | a :: start, c :: cs => if a == c then after? start cs else none

theorem after?_eq_some_iff {start cs rest : List Char} :
    after? start cs = some rest ↔ cs = start ++ rest := by
  induction start generalizing cs with
  | nil => simp [after?, eq_comm]
  | cons a start ih =>
    cases cs with
    | nil => simp [after?]
    | cons c cs =>
      by_cases h : a = c
      · simp [after?, h, ih]
      · simp [after?, h, Ne.symm h]

/-- What stands before and after the first occurrence of the text `mark`. -/
def splitAtText (mark cs : List Char) : Option (List Char × List Char) :=
  go cs []
where
  /-- `before` is kept in reverse. -/
  go : List Char → List Char → Option (List Char × List Char)
    | [], before => if mark.isEmpty then some (before.reverse, []) else none
    | c :: rest, before =>
      match after? mark (c :: rest) with
      | some behind => some (before.reverse, behind)
      | none => go rest (c :: before)

/-- Whether `part` occurs in `cs`. -/
def contains (part cs : List Char) : Bool :=
  (splitAtText part cs).isSome

end Hostwatch.Text
