import Hostwatch.Number.Word

/-!
# UTF-8

Texts travel as octets. `encode` writes a text in UTF-8 and `decode` reads any octets back: what is
not UTF-8 becomes replacement characters, one for each longest run that could have begun a
character.
-/

namespace Hostwatch

/-- A sequence of octets. -/
abbrev Octets := List UInt8

namespace Utf8

/-- The octets of a character. -/
def encodeChar (c : Char) : Octets :=
  let n := c.toNat
  if n < 0x80 then [UInt8.ofNat n]
  else if n < 0x800 then [UInt8.ofNat (0xC0 + n / 64), UInt8.ofNat (0x80 + n % 64)]
  else if n < 0x10000 then
    [UInt8.ofNat (0xE0 + n / 4096), UInt8.ofNat (0x80 + n / 64 % 64), UInt8.ofNat (0x80 + n % 64)]
  else
    [UInt8.ofNat (0xF0 + n / 262144), UInt8.ofNat (0x80 + n / 4096 % 64),
      UInt8.ofNat (0x80 + n / 64 % 64), UInt8.ofNat (0x80 + n % 64)]

/-- The octets of a text. -/
def encode (cs : List Char) : Octets :=
  cs.flatMap encodeChar

/-- The character that stands for octets that are not UTF-8. -/
def replacement : Char := '\uFFFD'

/-- What may follow a first octet: how many octets, and the bounds of the next one. -/
structure Expect where
  count : Nat
  low : UInt8
  high : UInt8
  deriving DecidableEq

/-- What a first octet other than ASCII begins. -/
def Expect.ofFirst? (b : UInt8) : Option Expect :=
  if 0xC2 ≤ b && b ≤ 0xDF then some ⟨1, 0x80, 0xBF⟩
  else if b == 0xE0 then some ⟨2, 0xA0, 0xBF⟩
  else if b == 0xED then some ⟨2, 0x80, 0x9F⟩
  else if 0xE1 ≤ b && b ≤ 0xEF then some ⟨2, 0x80, 0xBF⟩
  else if b == 0xF0 then some ⟨3, 0x90, 0xBF⟩
  else if 0xF1 ≤ b && b ≤ 0xF3 then some ⟨3, 0x80, 0xBF⟩
  else if b == 0xF4 then some ⟨3, 0x80, 0x8F⟩
  else none

/-- The bits of a first octet that belong to the character. -/
def firstBits (count : Nat) (b : UInt8) : Nat :=
  b.toNat % Word.pow2 (6 - count)

/-- Reads the octets that a character still needs; stops at the first that does not fit. -/
def following : (count : Nat) → (low high : UInt8) → (bits : Nat) → Octets → Char × Octets
  | 0, _, _, bits, rest => (Char.ofNat bits, rest)
  | _ + 1, _, _, _, [] => (replacement, [])
  | count + 1, low, high, bits, b :: rest =>
    if low ≤ b && b ≤ high then following count 0x80 0xBF (bits * 64 + b.toNat % 64) rest
    else (replacement, b :: rest)

/-- The first character of the octets `b :: rest`, and what is left. -/
def next (b : UInt8) (rest : Octets) : Char × Octets :=
  if b < 0x80 then (Char.ofNat b.toNat, rest)
  else
    match Expect.ofFirst? b with
    | none => (replacement, rest)
    | some e => following e.count e.low e.high (firstBits e.count b) rest

theorem length_following_le (count : Nat) (low high : UInt8) (bits : Nat) (rest : Octets) :
    (following count low high bits rest).2.length ≤ rest.length := by
  induction count generalizing low high bits rest with
  | zero => simp [following]
  | succ count ih =>
    cases rest with
    | nil => simp [following]
    | cons b rest =>
      unfold following
      split
      · exact Nat.le_trans (ih ..) (Nat.le_succ _)
      · simp

theorem length_next_le (b : UInt8) (rest : Octets) : (next b rest).2.length ≤ rest.length := by
  unfold next
  split
  · simp
  · split
    · simp
    · exact length_following_le ..

/-- The text of any octets. -/
def decode (octets : Octets) : List Char :=
  go octets []
where
  /-- `done` holds the characters so far in reverse. -/
  go (octets : Octets) (done : List Char) : List Char :=
    match octets with
    | [] => done.reverse
    | b :: rest =>
      have := length_next_le b rest
      let step := next b rest
      go step.2 (step.1 :: done)
  termination_by octets.length

/-- The text of octets that are UTF-8: those that are again the octets of their text. -/
def decodeStrict? (octets : Octets) : Option (List Char) :=
  let cs := decode octets
  if encode cs == octets then some cs else none

end Utf8

end Hostwatch
