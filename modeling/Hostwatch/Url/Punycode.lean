import Hostwatch.Number.Word

/-!
# Punycode

The encoding of a label of a domain name in letters, digits and hyphens: first the ASCII characters
as they are, then, as numbers of variable length in base 36, where each other character is inserted.
-/

namespace Hostwatch.Punycode

/-- How many digits there are. -/
def base : Nat := 36

/-- The bounds of the digits from which on a number goes on. -/
def tMin : Nat := 1
def tMax : Nat := 26

private def firstCode : Nat := 128
private def firstBias : Nat := 72

/-- The bias after a delta has been written, so that numbers of that size become short. -/
private def adapt (delta points : Nat) (first : Bool) : Nat :=
  let delta := if first then delta / 700 else delta / 2
  go 32 (delta + delta / points) 0
where
  go : Nat → Nat → Nat → Nat
    | 0, _, k => k
    | fuel + 1, delta, k =>
      if delta > (base - tMin) * tMax / 2 then go fuel (delta / (base - tMin)) (k + base)
      else k + (base - tMin + 1) * delta / (delta + 38)

/-- The digit from which on a number goes on after its place `k`. -/
def threshold (k bias : Nat) : Nat :=
  if k ≤ bias then tMin else if k ≥ bias + tMax then tMax else k - bias

def digit (n : Nat) : Char :=
  Char.ofNat (if n < 26 then 97 + n else 22 + n)

private def digitValue? (c : Char) : Option Nat :=
  if 'a' ≤ c && c ≤ 'z' then some (c.toNat - 97)
  else if 'A' ≤ c && c ≤ 'Z' then some (c.toNat - 65)
  else if '0' ≤ c && c ≤ '9' then some (c.toNat - 22)
  else none

/-- The digits of the number `q` from place `k` on. -/
def writeNumber : Nat → Nat → Nat → Nat → List Char
  | 0, _, _, _ => []
  | fuel + 1, q, k, bias =>
    let t := threshold k bias
    if q < t then [digit q]
    else digit (t + (q - t) % (base - t)) :: writeNumber fuel ((q - t) / (base - t)) (k + base) bias

/-- The insertions so far: `delta` is the distance to the next one and `out` what was written. -/
structure Encoder where
  delta : Nat
  bias : Nat
  handled : Nat
  first : Bool
  out : List Char

/-- Writes the insertions of one character, whose code is `m`; smaller ones are counted. -/
def insertions (m : Nat) (label : List Char) (e : Encoder) : Encoder :=
  label.foldl (fun e c =>
    if c.toNat < m then { e with delta := e.delta + 1 }
    else if c.toNat == m then
      { delta := 0
        bias := adapt e.delta (e.handled + 1) e.first
        handled := e.handled + 1
        first := false
        out := e.out ++ writeNumber 32 e.delta base e.bias }
    else e) e

/-- Writes the insertions of all characters from code `n` on. -/
def encodeFrom : Nat → Nat → List Char → Encoder → Encoder
  | 0, _, _, e => e
  | fuel + 1, n, label, e =>
    let larger := (label.map Char.toNat).filter (· ≥ n)
    match larger with
    | [] => e
    | c :: rest =>
      let m := rest.foldl min c
      let e := insertions m label { e with delta := e.delta + (m - n) * (e.handled + 1) }
      encodeFrom fuel (m + 1) label { e with delta := e.delta + 1 }

/-- The encoded form of a label, without a mark in front. -/
def encode (label : List Char) : List Char :=
  let plain := label.filter (·.toNat < 128)
  let start := if plain.isEmpty then [] else plain ++ ['-']
  (encodeFrom label.length firstCode label ⟨0, firstBias, plain.length, true, start⟩).out

/-- Reads one number; yields it with the rest. -/
private def readNumber? : List Char → Nat → Nat → Nat → Nat → Option (Nat × List Char)
  | [], _, _, _, _ => none
  | c :: rest, i, weight, k, bias => do
    let d ← digitValue? c
    let i := i + d * weight
    if i ≥ Word.count32 then none
    let t := threshold k bias
    if d < t then some (i, rest) else readNumber? rest i (weight * (base - t)) (k + base) bias

private def decodeFrom : Nat → List Char → (n i bias : Nat) → (first : Bool) → List Char →
    Option (List Char)
  | _, [], _, _, _, _, out => some out
  | 0, _ :: _, _, _, _, _, _ => none
  | fuel + 1, cs, n, i, bias, first, out => do
    let (next, rest) ← readNumber? cs i 1 base bias
    let points := out.length + 1
    let bias := adapt (next - i) points first
    let n := n + next / points
    let place := next % points
    let c := Char.ofNat n
    if c.toNat != n || n < 128 then none
    decodeFrom fuel rest n (place + 1) bias false (out.take place ++ c :: out.drop place)

/-- The label of an encoded form, if it is one. -/
def decode? (cs : List Char) : Option (List Char) :=
  let (plain, rest) := match cs.reverse.span (· != '-') with
    | (tail, '-' :: front) => (front.reverse, tail.reverse)
    | _ => ([], cs)
  decodeFrom (cs.length + 1) rest firstCode 0 firstBias true plain

end Hostwatch.Punycode
