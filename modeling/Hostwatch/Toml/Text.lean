import Hostwatch.Toml.Basic

/-!
# Blanks, comments, keys and quoted text in TOML

The functions here read what stands in front of a text and answer with the rest. Lines end with a
newline that may have a carriage return before it; other control characters than the tabulator are
refused everywhere.
-/

namespace Hostwatch.Toml

private def isGap (c : Char) : Bool :=
  c == ' ' || c == '\t'

/-- A character that may stand in a comment or a text: no control character but the tabulator. -/
def isPlain (c : Char) : Bool :=
  c == '\t' || (0x20 ≤ c.toNat && c.toNat != 0x7F)

def skipGap (cs : List Char) : List Char :=
  cs.dropWhile isGap

/-- The rest behind a newline. -/
def newline? : List Char → Option (List Char)
  | '\n' :: rest => some rest
  | '\r' :: '\n' :: rest => some rest
  | _ => none

/-- The rest behind a comment, up to the end of the line. -/
def skipComment : List Char → List Char
  | '#' :: rest => rest.dropWhile isPlain
  | cs => cs

/-- The rest behind the end of a line, before which only blanks and a comment may stand. -/
def endLine? (cs : List Char) : Option (List Char) :=
  match skipComment (skipGap cs) with
  | [] => some []
  | cs => newline? cs

/-- Skips blanks, comments and newlines inside of brackets. Fuel is the length of the text. -/
def skipLines (fuel : Nat) (cs : List Char) : List Char :=
  match fuel with
  | 0 => cs
  | fuel + 1 =>
    let cs := skipGap cs
    match newline? (skipComment cs) with
    | some rest => skipLines fuel rest
    | none => cs

/-! ### Quoted text -/

private def hexDigit? (c : Char) : Option Nat :=
  if '0' ≤ c && c ≤ '9' then some (c.toNat - 48)
  else if 'a' ≤ c && c ≤ 'f' then some (c.toNat - 87)
  else if 'A' ≤ c && c ≤ 'F' then some (c.toNat - 55)
  else none

/-- The character with a code of `count` digits. Surrogates have none. -/
def codePoint? (count : Nat) (cs : List Char) : Option (Char × List Char) := do
  let ds ← (cs.take count).mapM hexDigit?
  let n := ds.foldl (fun n d => n * 16 + d) 0
  if ds.length == count && (n < 0xD800 || (0xE000 ≤ n && n < 0x110000)) then
    some (Char.ofNat n, cs.drop count)
  else none

/-- The character of an escape, behind the backslash. -/
def escape? : List Char → Option (Char × List Char)
  | 'b' :: rest => some ('\x08', rest)
  | 't' :: rest => some ('\t', rest)
  | 'n' :: rest => some ('\n', rest)
  | 'f' :: rest => some ('\x0c', rest)
  | 'r' :: rest => some ('\r', rest)
  | '"' :: rest => some ('"', rest)
  | '\\' :: rest => some ('\\', rest)
  | 'u' :: rest => codePoint? 4 rest
  | 'U' :: rest => codePoint? 8 rest
  | _ => none

private def ofReversed (done : List Char) : String :=
  String.ofList done.reverse

/-- A text up to its closing double quote; `done` holds what came before in reverse, here and
below. Fuel is the length of the text. -/
def basic? (fuel : Nat) (cs : List Char) (done : List Char) : Option (String × List Char) :=
  match fuel, cs with
  | _, [] | 0, _ => none
  | _ + 1, '"' :: rest => some (ofReversed done, rest)
  | fuel + 1, '\\' :: rest => do
    let (c, rest) ← escape? rest
    basic? fuel rest (c :: done)
  | fuel + 1, c :: rest => if isPlain c then basic? fuel rest (c :: done) else none

/-- A text up to its closing single quote, in which nothing is escaped. -/
def literal? : (cs : List Char) → (done : List Char) → Option (String × List Char)
  | [], _ => none
  | '\'' :: rest, done => some (ofReversed done, rest)
  | c :: rest, done => if isPlain c then literal? rest (c :: done) else none

/-- What a run of quotes in a text of several lines means: fewer than three belong to the text,
three close it, and up to two before those three belong to it. -/
private def closing? (mark : Char) (cs done : List Char) :
    Option (String × List Char) ⊕ (List Char × List Char) :=
  let run := cs.takeWhile (· == mark)
  let rest := cs.drop run.length
  if run.length < 3 then .inr (run ++ done, rest)
  else if run.length ≤ 5 then .inl (some (ofReversed (run.drop 3 ++ done), rest))
  else .inl none

/-- The rest behind a backslash at the end of a line and all white space after it. -/
private def joinLines? (fuel : Nat) (cs : List Char) : Option (List Char) := do
  let rest ← newline? (skipGap cs)
  return skip fuel rest
where
  skip : Nat → List Char → List Char
    | 0, cs => cs
    | fuel + 1, cs =>
      let cs := skipGap cs
      match newline? cs with
      | some rest => skip fuel rest
      | none => cs

/-- A text of several lines up to its three closing double quotes. -/
def basicLines? (fuel : Nat) (cs : List Char) (done : List Char) : Option (String × List Char) :=
  match fuel, cs with
  | _, [] | 0, _ => none
  | fuel + 1, '"' :: rest =>
    match closing? '"' ('"' :: rest) done with
    | .inl result => result
    | .inr (done, rest) => basicLines? fuel rest done
  | fuel + 1, '\\' :: rest =>
    match joinLines? fuel rest with
    | some rest => basicLines? fuel rest done
    | none => do
      let (c, rest) ← escape? rest
      basicLines? fuel rest (c :: done)
  | fuel + 1, c :: rest =>
    match newline? (c :: rest) with
    | some rest => basicLines? fuel rest ('\n' :: done)
    | none => if isPlain c then basicLines? fuel rest (c :: done) else none

/-- A text of several lines up to its three closing single quotes. -/
def literalLines? (fuel : Nat) (cs : List Char) (done : List Char) : Option (String × List Char) :=
  match fuel, cs with
  | _, [] | 0, _ => none
  | fuel + 1, '\'' :: rest =>
    match closing? '\'' ('\'' :: rest) done with
    | .inl result => result
    | .inr (done, rest) => literalLines? fuel rest done
  | fuel + 1, c :: rest =>
    match newline? (c :: rest) with
    | some rest => literalLines? fuel rest ('\n' :: done)
    | none => if isPlain c then literalLines? fuel rest (c :: done) else none

/-- Leaves out a newline at the start of a text of several lines. -/
private def dropFirstNewline (cs : List Char) : List Char :=
  (newline? cs).getD cs

/-- A text in any kind of quotes. -/
def string? (cs : List Char) : Option (String × List Char) :=
  let fuel := cs.length
  match cs with
  | '"' :: '"' :: '"' :: rest => basicLines? fuel (dropFirstNewline rest) []
  | '"' :: rest => basic? fuel rest []
  | '\'' :: '\'' :: '\'' :: rest => literalLines? fuel (dropFirstNewline rest) []
  | '\'' :: rest => literal? rest []
  | _ => none

/-! ### Keys -/

private def isBare (c : Char) : Bool :=
  c.isAlphanum || c == '_' || c == '-'

/-- One part of a key. -/
def keyPart? (cs : List Char) : Option (String × List Char) :=
  match cs with
  | '"' :: rest => basic? cs.length rest []
  | '\'' :: rest => literal? rest []
  | _ =>
    match cs.span isBare with
    | ([], _) => none
    | (name, rest) => some (String.ofList name, rest)

/-- How many parts a key may have, and how deep values may be nested. -/
def maxDepth : Nat := 79

/-- The parts of a key and its last part, up to the first character that belongs to no key. -/
private def keyParts? (fuel : Nat) (cs : List Char) (done : List String) :
    Option ((List String × String) × List Char) :=
  match fuel with
  | 0 => none
  | fuel + 1 =>
    match keyPart? (skipGap cs) with
    | none => none
    | some (part, rest) =>
      match skipGap rest with
      | '.' :: rest => keyParts? fuel rest (part :: done)
      | rest => some ((done.reverse, part), rest)

/-- A key: the parts before the last dot, and the last one. -/
def key? (cs : List Char) : Option ((List String × String) × List Char) :=
  keyParts? maxDepth cs []

end Hostwatch.Toml
