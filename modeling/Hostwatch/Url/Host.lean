import Hostwatch.Number.Text
import Hostwatch.Text.Utf8
import Hostwatch.Url.DomainName

/-!
# Hosts in URLs

A host is an IPv4 address, an IPv6 address in brackets, or a domain name. A name whose last label
is a number has to be an IPv4 address; its parts may be octal or hexadecimal and the last one may
stand for several octets.
-/

namespace Hostwatch.Url

/-- Why a text is no URL. -/
inductive ReadError where
  | emptyHost
  | invalidDomainName
  | invalidPort
  | invalidIpv4
  | invalidIpv6
  | invalidHostCharacter
  | noScheme
  deriving Repr, DecidableEq

def ReadError.message : ReadError → String
  | .emptyHost => "empty host"
  | .invalidDomainName => "invalid international domain name"
  | .invalidPort => "invalid port number"
  | .invalidIpv4 => "invalid IPv4 address"
  | .invalidIpv6 => "invalid IPv6 address"
  | .invalidHostCharacter => "invalid domain character"
  | .noScheme => "relative URL without a base"

/-- The value of a hexadecimal digit. -/
def hexValue? (c : Char) : Option Nat :=
  if '0' ≤ c && c ≤ '9' then some (c.toNat - 48)
  else if 'a' ≤ c && c ≤ 'f' then some (c.toNat - 87)
  else if 'A' ≤ c && c ≤ 'F' then some (c.toNat - 55)
  else none

/-! ## IPv4 -/

namespace Ipv4

private def readDigits? (base : Nat) (cs : List Char) : Option Nat :=
  cs.foldlM (fun n c => do
    let d ← hexValue? c
    if d < base then some (n * base + d) else none) 0

/-- A part of an address: hexadecimal after `0x`, octal after `0`, else decimal. -/
def readPart? (cs : List Char) : Option Nat :=
  match cs with
  | [] => none
  | '0' :: 'x' :: rest | '0' :: 'X' :: rest => readDigits? 16 rest
  | '0' :: c :: rest => readDigits? 8 (c :: rest)
  | _ => readDigits? 10 cs

private def dropEmptyLast (parts : List (List Char)) : List (List Char) :=
  match parts.reverse with
  | [] :: rest => rest.reverse
  | _ => parts

/-- Whether the last label of a name, apart from a dot at the end, is a number. -/
def looksNumeric (name : List Char) : Bool :=
  match (dropEmptyLast (Text.splitBy (· == '.') name)).reverse with
  | last :: _ => (!last.isEmpty && last.all Char.isDigit) || (readPart? last).isSome
  | [] => false

/-- The address as one number of 32 bits. -/
def read? (name : List Char) : Option Nat := do
  let parts := dropEmptyLast (Text.splitBy (· == '.') name)
  if parts.length > 4 then none
  let numbers ← parts.mapM readPart?
  match numbers.reverse with
  | [] => none
  | last :: before =>
    if before.any (· > 255) || last ≥ Nat.pow 256 (4 - before.length) then none
    else
      let high := before.reverse.zipIdx.foldl (fun n (part, i) => n + part * Nat.pow 256 (3 - i)) 0
      some (high + last)

def write (n : Nat) : List Char :=
  let octet (i : Nat) := (Number.natText (n / Nat.pow 256 i % 256)).toList
  octet 3 ++ '.' :: octet 2 ++ '.' :: octet 1 ++ '.' :: octet 0

end Ipv4

/-! ## IPv6 -/

namespace Ipv6

/-- A run of one to four hexadecimal digits, with the rest. -/
private def piece (cs : List Char) : Nat × List Char :=
  go 4 0 cs
where
  go : Nat → Nat → List Char → Nat × List Char
    | 0, n, cs => (n, cs)
    | _, n, [] => (n, [])
    | left + 1, n, c :: rest =>
      match hexValue? c with
      | some d => go left (n * 16 + d) rest
      | none => (n, c :: rest)

/-- The two last pieces in the notation of IPv4: four decimal numbers without zeros in front. -/
private def dotted? (cs : List Char) : Option (List Nat) := do
  let parts := Text.splitBy (· == '.') cs
  let numbers ← parts.mapM fun part => do
    if part.length > 1 && part.head? == some '0' then none
    let n ← Number.readNat? part
    if n > 255 then none else some n
  match numbers with
  | [a, b, c, d] => some [a * 256 + b, c * 256 + d]
  | _ => none

/-- The pieces, and where `::` stands among them. `pieces` holds those so far in reverse. -/
private def readPieces? : Nat → List Char → List Nat → Option Nat →
    Option (List Nat × Option Nat)
  | 0, _, _, _ => none
  | _, [], pieces, gap => some (pieces.reverse, gap)
  | fuel + 1, c :: rest, pieces, gap =>
    if pieces.length + (if gap.isSome then 1 else 0) ≥ 8 then none
    else if c == ':' then
      if gap.isSome then none else readPieces? fuel rest pieces (some pieces.length)
    else
      match piece (c :: rest) with
      | (n, []) => some ((n :: pieces).reverse, gap)
      | (n, ':' :: rest) =>
        if rest.isEmpty then none else readPieces? fuel rest (n :: pieces) gap
      | (_, '.' :: _) =>
        if c == '.' || pieces.length + (if gap.isSome then 1 else 0) > 6 then none
        else (dotted? (c :: rest)).map fun last => (pieces.reverse ++ last, gap)
      | _ => none

/-- The pieces as they are written, and where `::` stands among them. -/
private def written? (cs : List Char) : Option (List Nat × Option Nat) :=
  match cs with
  | ':' :: ':' :: rest => readPieces? (cs.length + 1) rest [] (some 0)
  | ':' :: _ | [_] | [] => none
  | _ => readPieces? (cs.length + 1) cs [] none

/-- Puts zeros where `::` stands, for as many pieces as are missing; without it, none may be. -/
def complete? (pieces : List Nat) (gap : Option Nat) : Option (List Nat) :=
  match gap with
  | none => if pieces.length == 8 then some pieces else none
  | some place =>
    if pieces.length > 7 then none
    else some (pieces.take place ++ List.replicate (8 - pieces.length) 0 ++ pieces.drop place)

/-- The eight pieces of an address. -/
def read? (cs : List Char) : Option (List Nat) := do
  let (pieces, gap) ← written? cs
  complete? pieces gap

/-- Where the longest run of at least two zeros begins and how long it is. -/
private def longestGap (pieces : List Nat) : Nat × Nat :=
  let runAt (i : Nat) := ((pieces.drop i).takeWhile (· == 0)).length
  (List.range 8).foldl (fun best i => if runAt i > max best.2 1 then (i, runAt i) else best) (8, 0)

/-- The hexadecimal digits of a piece. -/
def hexText (n : Nat) : List Char :=
  Nat.toDigits 16 n

/-- The text of an address, with the longest run of zeros left out. -/
def write (pieces : List Nat) : List Char :=
  let (start, length) := longestGap pieces
  let join (ps : List Nat) := [':'].intercalate (ps.map hexText)
  if length == 0 then join pieces
  else join (pieces.take start) ++ "::".toList ++ join (pieces.drop (start + length))

end Ipv6

/-! ## Hosts -/

/-- Replaces each `%` with two hexadecimal digits by the octet they name. -/
def percentDecode (cs : List Char) : Octets :=
  go (Utf8.encode cs)
where
  go : Octets → Octets
    | 0x25 :: a :: b :: rest =>
      match hexValue? (Char.ofNat a.toNat), hexValue? (Char.ofNat b.toNat) with
      | some x, some y => UInt8.ofNat (x * 16 + y) :: go rest
      | _, _ => 0x25 :: go (a :: b :: rest)
    | a :: rest => a :: go rest
    | [] => []

/-- What stands between the brackets of a host that begins with one. -/
def bracketed? (cs : List Char) : Option (List Char) :=
  match cs with
  | '[' :: rest =>
    match rest.reverse with
    | ']' :: inside => some inside.reverse
    | _ => some []
  | _ => none

/-- An IPv6 address in its common written form, in brackets. -/
def readIpv6 (inside : List Char) : Except ReadError (List Char) :=
  match Ipv6.read? inside with
  | some pieces => .ok ('[' :: Ipv6.write pieces ++ [']'])
  | none => .error .invalidIpv6

/-- The host of a URL whose scheme has a network: its common written form. -/
def readHost (cs : List Char) : Except ReadError (List Char) :=
  match bracketed? cs with
  | some inside => readIpv6 inside
  | none =>
    match DomainName.toAscii? (Utf8.decode (percentDecode cs)) with
    | none => .error .invalidDomainName
    | some [] => .error .emptyHost
    | some name =>
      if Ipv4.looksNumeric name then
        match Ipv4.read? name with
        | some n => .ok (Ipv4.write n)
        | none => .error .invalidIpv4
      else .ok name

/-- The host of any other URL, which may hold what it likes but a few marks. -/
def readOpaqueHost (cs : List Char) : Except ReadError (List Char) :=
  match bracketed? cs with
  | some inside => readIpv6 inside
  | none =>
    if cs.any ("\x00\t\n\r #/:<>?@[\\]^|".toList.contains ·) then .error .invalidHostCharacter
    else .ok cs

end Hostwatch.Url
