import Hostwatch.Toml.Number
import Hostwatch.Toml.Text

/-!
# TOML documents

A document is a list of lines: headers, pairs, and lines without either. `read?` takes each line in
turn and enters it into the document so far.
-/

namespace Hostwatch.Toml

/-- A pair in braces: the parts of its key before the last one, that one, and the value. -/
private abbrev Pair := (List String × String) × Toml

/-- The table of a list of pairs in braces. -/
private def inlineTable? (pairs : List Pair) : Option Toml := do
  let entries ← pairs.foldlM (fun entries ((path, key), value) =>
    Entries.set? path key value entries) []
  return .table (Node.finish entries)

mutual

/-- A value. The fuel bounds the number of values and is never used up when it is the length of the
text; `depth` says how many brackets may still be opened. -/
private def value? (fuel depth : Nat) (cs : List Char) : Option (Toml × List Char) :=
  match fuel with
  | 0 => none
  | fuel + 1 =>
    match cs with
    | 't' :: 'r' :: 'u' :: 'e' :: rest => some (.bool true, rest)
    | 'f' :: 'a' :: 'l' :: 's' :: 'e' :: rest => some (.bool false, rest)
    | '[' :: rest =>
      match depth with
      | 0 => none
      | depth + 1 => items? fuel depth rest []
    | '{' :: rest =>
      match depth with
      | 0 => none
      | depth + 1 =>
        match skipGap rest with
        | '}' :: rest => some (.table [], rest)
        | rest => pairs? fuel depth rest []
    | _ =>
      if cs.head? == some '"' || cs.head? == some '\'' then
        (string? cs).map fun (s, rest) => (.str s, rest)
      else
        match datetime? cs with
        | some result => some result
        | none => number? cs

/-- The items up to the closing bracket; `done` holds the earlier ones in reverse. -/
private def items? (fuel depth : Nat) (cs : List Char) (done : List Toml) :
    Option (Toml × List Char) :=
  match fuel with
  | 0 => none
  | fuel + 1 =>
    match skipLines cs.length cs with
    | ']' :: rest => some (.arr done.reverse, rest)
    | cs =>
      match value? fuel depth cs with
      | none => none
      | some (item, rest) =>
        match skipLines rest.length rest with
        | ',' :: rest => items? fuel depth rest (item :: done)
        | ']' :: rest => some (.arr (item :: done).reverse, rest)
        | _ => none

/-- The pairs up to the closing brace; `done` holds the earlier ones in reverse. -/
private def pairs? (fuel depth : Nat) (cs : List Char) (done : List Pair) :
    Option (Toml × List Char) :=
  match fuel with
  | 0 => none
  | fuel + 1 =>
    match key? cs with
    | none => none
    | some (key, rest) =>
      match expect? '=' rest with
      | none => none
      | some rest =>
        match value? fuel depth (skipGap rest) with
        | none => none
        | some (value, rest) =>
          match skipGap rest with
          | ',' :: rest => pairs? fuel depth rest ((key, value) :: done)
          | '}' :: rest =>
            (inlineTable? ((key, value) :: done).reverse).map fun table => (table, rest)
          | _ => none

end

/-- A document while it is read: its entries and the header that the next pair stands under. -/
structure Draft where
  entries : Entries := []
  header : List String := []

/-- Enters the line in front of the text, and answers with the rest. -/
private def line? (d : Draft) (cs : List Char) : Option (Draft × List Char) :=
  match cs with
  | '[' :: '[' :: rest => do
    let ((path, key), rest) ← key? rest
    let rest ← expect? ']' rest
    let rest ← endLine? (← expect? ']' rest)
    return ({ entries := ← d.entries.append? path key, header := path ++ [key] }, rest)
  | '[' :: rest => do
    let ((path, key), rest) ← key? rest
    let rest ← endLine? (← expect? ']' rest)
    return ({ entries := ← d.entries.open? path key, header := path ++ [key] }, rest)
  | _ =>
    match endLine? cs with
    | some rest => some (d, rest)
    | none => do
      let ((path, key), rest) ← key? cs
      let rest ← expect? '=' rest
      let (value, rest) ← value? (rest.length + 1) maxDepth (skipGap rest)
      let rest ← endLine? rest
      return ({ d with entries := ← d.entries.setUnder? d.header path key value }, rest)

/-- Enters all lines. Fuel is the length of the text. -/
private def lines? (fuel : Nat) (d : Draft) (cs : List Char) : Option Draft :=
  match fuel, skipGap cs with
  | _, [] => some d
  | 0, _ => none
  | fuel + 1, cs =>
    match line? d cs with
    | none => none
    | some (d, rest) => lines? fuel d rest

/-- The table that a document describes. A byte order mark in front of it does not count. -/
def read? (text : String) : Option Toml := do
  let cs := match text.toList with
    | c :: rest => if c.toNat == 0xFEFF then rest else c :: rest
    | [] => []
  let d ← lines? cs.length {} cs
  return .table (Node.finish d.entries)

end Hostwatch.Toml
