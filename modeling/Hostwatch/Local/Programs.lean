import Hostwatch.Number.Word
import Hostwatch.Local.Machine
import Hostwatch.Number.Text

/-!
# A few programs

What a rehearsed machine can run: the small programs of every Unix that write, copy, change and
count octets, or only wait. They do what the real ones do with the options given here.
-/

namespace Hostwatch.Local.Programs

/-- Texts as octets. -/
def octets (s : String) : Octets :=
  Utf8.encode s.toList

/-- A program that only prints. -/
def prints (output : Octets) : Process :=
  { printed := { output } }

/-- A program that ends with a status and a complaint. -/
def fails (status : Int) (complaint : String) : Process :=
  { printed := { errors := octets (complaint ++ "\n") }, status? := some status }

private def octalDigit? (c : Char) : Option Nat :=
  if '0' ≤ c ∧ c ≤ '7' then some (c.toNat - '0'.toNat) else none

/-- At most `count` octal digits, and the rest. -/
private def readOctal : (count value : Nat) → List Char → Nat × List Char
  | count + 1, value, c :: rest =>
    match octalDigit? c with
    | some d => readOctal count (value * 8 + d) rest
    | none => (value, c :: rest)
  | _, value, cs => (value, cs)

/-- What follows a backslash, as octets, and the rest. -/
private def escape (cs : List Char) : Octets × List Char :=
  match cs with
  | [] => ([0x5C], [])
  | c :: rest =>
    match c with
    | 'n' => ([0x0A], rest)
    | 't' => ([0x09], rest)
    | 'r' => ([0x0D], rest)
    | '\\' => ([0x5C], rest)
    | c =>
      if (octalDigit? c).isSome then
        let (value, rest) := readOctal 3 0 (c :: rest)
        ([UInt8.ofNat value], rest)
      else (0x5C :: Utf8.encodeChar c, rest)

/-- Replaces the escapes of a text. The fuel is the length of the text. -/
private def unescape : (fuel : Nat) → List Char → Octets
  | 0, _ | _, [] => []
  | fuel + 1, '\\' :: rest =>
    let (first, rest) := escape rest
    first ++ unescape fuel rest
  | fuel + 1, c :: rest => Utf8.encodeChar c ++ unescape fuel rest

/-- Writes arguments into a format, once. Returns the arguments that are left. -/
private def fill : (fuel : Nat) → (format : List Char) → (args : List String) →
    Octets × List String
  | 0, _, args | _, [], args => ([], args)
  | fuel + 1, '%' :: '%' :: rest, args =>
    let (out, args) := fill fuel rest args
    (0x25 :: out, args)
  | fuel + 1, '%' :: 's' :: rest, args =>
    let (out, left) := fill fuel rest args.tail
    (octets (args.headD "") ++ out, left)
  | fuel + 1, '%' :: 'd' :: rest, args =>
    let number := (Number.readInt? (args.headD "0").toList).getD 0
    let (out, left) := fill fuel rest args.tail
    (octets (Number.intText number) ++ out, left)
  | fuel + 1, '\\' :: rest, args =>
    let (first, rest) := escape rest
    let (out, args) := fill fuel rest args
    (first ++ out, args)
  | fuel + 1, c :: rest, args =>
    let (out, args) := fill fuel rest args
    (Utf8.encodeChar c ++ out, args)

/-- Writes arguments into a format, which is used again as long as arguments are left. -/
private def fillAll (format : List Char) : (fuel : Nat) → (args : List String) → Octets
  | 0, _ => []
  | fuel + 1, args =>
    let (out, left) := fill format.length format args
    if left.isEmpty || left.length == args.length then out else out ++ fillAll format fuel left

def printf : List String → Process
  | [] => fails 2 "printf: usage: printf format [arg ...]"
  | format :: args => prints (fillAll format.toList (args.length + 1) args)

/-- Some shells replace escapes when they echo. -/
def echo (escapes : Bool) (args : List String) : Process :=
  let (args, newline) : List String × Octets := match args with
    | "-n" :: rest => (rest, [])
    | args => (args, [0x0A])
  let text := (" ".intercalate args).toList
  prints ((if escapes then unescape text.length text else Utf8.encode text) ++ newline)

/-- The content of a file, or the input for a dash. Of the device that yields zeros only the first
`limit` are taken. -/
private def source (t : Tree) (limit : Nat) (input : Octets) (path : String) :
    Except IoError Octets :=
  match path with
  | "-" => .ok input
  | "/dev/null" => .ok []
  | "/dev/zero" => .ok (List.replicate limit 0)
  | path => t.read path

/-- Complaints leave the number of the error out. -/
private def complaint (program path : String) (e : IoError) : String :=
  program ++ ": " ++ path ++ ": " ++ ((e.text.splitOn " (os error").headD e.text)

def cat (t : Tree) (input : Octets) (args : List String) : Process :=
  (if args.isEmpty then ["-"] else args).foldl (fun p path =>
    match source t 0 input path with
    | .ok content => { p with printed.output := p.printed.output ++ content }
    | .error e =>
      { p with
        printed.errors := p.printed.errors ++ octets (complaint "cat" path e ++ "\n")
        status? := some 1 }) {}

/-- The first octets or lines. -/
def head (t : Tree) (input : Octets) (args : List String) : Process :=
  let (inOctets, count, files) := match args with
    | "-c" :: n :: rest => (true, n, rest)
    | "-n" :: n :: rest => (false, n, rest)
    | rest => (false, "10", rest)
  let count := (Number.readNat? count.toList).getD 0
  let path := files.headD "-"
  match source t count input path with
  | .error e => fails 1 (complaint "head" path e)
  | .ok content =>
    if inOctets then prints (content.take count)
    else
      let lines := (content.splitBy fun a _ => a != 0x0A).take count
      prints lines.flatten

/-- Replaces octets of one set by those of another. -/
def tr (input : Octets) : List String → Process
  | [old, new] =>
    let old := unescape old.length old.toList
    let new := unescape new.length new.toList
    let last := new.getLast?.getD 0
    prints (input.map fun b =>
      match old.idxOf? b with
      | some i => new.getD i last
      | none => b)
  | _ => fails 1 "tr: missing operand"

/-- Numbers, one a line. -/
def seq (args : List String) : Process :=
  let numbers := args.map fun a => (Number.readNat? a.toList).getD 0
  let (first, last) := match numbers with
    | [first, last] => (first, last)
    | numbers => (1, numbers.headD 0)
  prints (octets (String.join ((List.range' first (last + 1 - first)).map fun n =>
    Number.natText n ++ "\n")))

/-- Nanoseconds of a decimal number of seconds. -/
private def duration? (text : String) : Option Nat :=
  let (whole, fraction) := (Text.splitOnce '.' text.toList).getD (text.toList, ['0'])
  let fraction := fraction.take 9
  match Number.readNat? whole, Number.readNat? fraction with
  | some s, some f => some (s * 1000000000 + f * Word.pow10 (9 - fraction.length))
  | _, _ => none

def sleep (args : List String) : Process :=
  match duration? (args.headD "") with
  | some duration => { duration }
  | none => fails 1 "sleep: missing operand"

/-- The program of a name, with its arguments and its input. -/
def run? (t : Tree) (name : String) (args : List String) (input : Octets) : Option Process :=
  match name with
  | "echo" => some (echo false args)
  | "printf" => some (printf args)
  | "cat" => some (cat t input args)
  | "head" => some (head t input args)
  | "tr" => some (tr input args)
  | "seq" => some (seq args)
  | "sleep" => some (sleep args)
  | "true" => some {}
  | "false" => some { status? := some 1 }
  | _ => none

end Hostwatch.Local.Programs
