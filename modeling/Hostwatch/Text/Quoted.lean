import Hostwatch.Text.Printable

/-!
# Quoted text

The form in which a text is shown inside of a message: in double quotes, with escapes for whatever
would not be seen.
-/

namespace Hostwatch.Text

private def hexText (n : Nat) : List Char :=
  Nat.toDigits 16 n

/-- A character inside of a quoted text. -/
def quoteChar (c : Char) : List Char :=
  if c == '\x00' then ['\\', '0']
  else if c == '\t' then ['\\', 't']
  else if c == '\r' then ['\\', 'r']
  else if c == '\n' then ['\\', 'n']
  else if c == '"' || c == '\\' then ['\\', c]
  else if ' ' ≤ c && c ≤ '~' then [c]
  else if extendsGrapheme c || isUnprintable c then
    ['\\', 'u', '{'] ++ hexText c.toNat ++ ['}']
  else [c]

/-- The quoted form of a text. -/
def quoted (s : String) : String :=
  String.ofList ('"' :: s.toList.flatMap quoteChar ++ ['"'])

end Hostwatch.Text
