import Mathlib.Data.List.SplitBy
import Hostwatch.Database.LineProtocol

/-!
# Reading line protocol

How a database takes the text of a batch apart. A record ends at a newline. Commas, spaces and
equals signs separate the pieces of a record, unless a backslash stands before them. A field value
that begins with a quotation mark goes on to the next one that no backslash escapes, and nothing
separates pieces within it.
-/

namespace Hostwatch.LineProtocol

/-! ### Pieces of a text -/

/-- What a piece of a record stands for. -/
inductive Role where
  | measurement
  | tagKey
  | tagValue
  | fieldKey
  | fieldValue
  | stamp
  deriving Repr, DecidableEq

/-- A piece of a record, as it is written. -/
structure Piece where
  role : Role
  text : List Char
  deriving Repr, DecidableEq

namespace Role

/-- The characters that a backslash escapes in a name or key. -/
def special : Role → List Char
  | .measurement => [',', ' ']
  | _ => [',', '=', ' ']

/-- What follows a piece after a comma. -/
def afterComma : Role → Role
  | .measurement | .tagKey | .tagValue => .tagKey
  | .fieldKey | .fieldValue => .fieldKey
  | .stamp => .stamp

/-- What follows a piece after a space. -/
def afterSpace : Role → Role
  | .measurement | .tagKey | .tagValue => .fieldKey
  | .fieldKey | .fieldValue | .stamp => .stamp

/-- What follows a piece after an equals sign, if that ends it. -/
def afterEquals? : Role → Option Role
  | .tagKey | .tagValue => some .tagValue
  | .fieldKey => some .fieldValue
  | _ => none

/-- What follows a piece after a character, if that ends it. -/
def after? (role : Role) (c : Char) : Option Role :=
  if c = ',' then some role.afterComma
  else if c = ' ' then some role.afterSpace
  else if c = '=' then role.afterEquals?
  else none

end Role

/-- How the next character is to be taken. -/
inductive Mode where
  /-- It belongs to a piece without quotation marks, and a backslash may have come before it. -/
  | plain (role : Role) (escaped : Bool)
  /-- It is the first of a field value. -/
  | opening
  /-- It stands between quotation marks. -/
  | quoted (escaped : Bool)

/-- What a character does: the piece goes on, or it is over and another one begins. -/
inductive Move where
  | stays (mode : Mode)
  | opens (role : Role)

namespace Mode

/-- The mode at the beginning of a piece. -/
def start : Role → Mode
  | .fieldValue => .opening
  | role => .plain role false

/-- The piece that is being read. -/
def role : Mode → Role
  | .plain role _ => role
  | .opening | .quoted _ => .fieldValue

/-- A character outside of quotation marks. -/
def outside (role : Role) (escaped : Bool) (c : Char) : Move :=
  if c = '\n' then .opens .measurement
  else
    match if escaped then none else role.after? c with
    | some next => .opens next
    | none => .stays (.plain role (c == '\\'))

def next : Mode → Char → Move
  | .plain role escaped, c => outside role escaped c
  | .opening, c => if c = '"' then .stays (.quoted false) else outside .fieldValue false c
  | .quoted true, _ => .stays (.quoted false)
  | .quoted false, c => .stays (if c = '"' then .plain .fieldValue false else .quoted (c == '\\'))

end Mode

/-- The rest of the piece that is being read, and the pieces after it. -/
def scan : Mode → List Char → List Char × List Piece
  | _, [] => ([], [])
  | mode, c :: rest =>
    match mode.next c with
    | .stays mode => (c :: (scan mode rest).1, (scan mode rest).2)
    | .opens role =>
      ([], { role, text := (scan (.start role) rest).1 } :: (scan (.start role) rest).2)

/-- The pieces from the one on that is being read. -/
def pieces (mode : Mode) (text : List Char) : List Piece :=
  { role := mode.role, text := (scan mode text).1 } :: (scan mode text).2

/-- The records of a text. What comes after the last newline is none. -/
def records (text : String) : List (List Piece) :=
  ((pieces (.start .measurement) text.toList).splitBy fun _ b => b.role != .measurement).dropLast

/-! ### What the pieces say -/

/-- A field value as it is read. Numbers are left as they are written. -/
inductive Value where
  | bool (value : Bool)
  | number (text : String)
  | text (value : String)
  deriving Repr, DecidableEq

/-- A record as it is read. -/
structure Entry where
  name : String
  tags : List (String × String)
  fields : List (String × Value)
  stamp : Option Int
  deriving Repr, DecidableEq

/-- Takes the backslashes away that escape a character of a set. -/
def unescape (special : List Char) : List Char → List Char
  | [] => []
  | [c] => [c]
  | c :: d :: rest =>
    if c = '\\' && special.contains d then d :: unescape special rest
    else c :: unescape special (d :: rest)

/-- The text that a name or key stands for. -/
def Piece.plain (p : Piece) : String :=
  String.ofList (unescape p.role.special p.text)

def Value.read? : List Char → Option Value
  | '"' :: rest =>
    if rest.getLast? = some '"' then
      some (.text (String.ofList (unescape ['\\', '"'] rest.dropLast)))
    else none
  | digits =>
    if digits = "true".toList then some (.bool true)
    else if digits = "false".toList then some (.bool false)
    else some (.number (String.ofList digits))

/-- The tags that come first, and the pieces after them. -/
def readTags : List Piece → List (String × String) × List Piece
  | key :: value :: rest =>
    if key.role = .tagKey && value.role = .tagValue then
      ((key.plain, value.plain) :: (readTags rest).1, (readTags rest).2)
    else ([], key :: value :: rest)
  | rest => ([], rest)

/-- The fields and the time, which end a record. -/
def readFields? : List Piece → Option (List (String × Value) × Option Int)
  | [] => some ([], none)
  | [time] =>
    if time.role = .stamp then (Number.readInt? time.text).map fun n => ([], some n) else none
  | key :: value :: rest =>
    if key.role = .fieldKey && value.role = .fieldValue then do
      let v ← Value.read? value.text
      let (fields, stamp) ← readFields? rest
      some ((key.plain, v) :: fields, stamp)
    else none

def Entry.read? : List Piece → Option Entry
  | [] => none
  | name :: rest => do
    let (fields, stamp) ← readFields? (readTags rest).2
    some { name := name.plain, tags := (readTags rest).1, fields, stamp }

/-- Reads the text of a batch. -/
def read? (text : String) : Option (List Entry) :=
  (records text).mapM Entry.read?

end Hostwatch.LineProtocol
