import Hostwatch.Text.Utf8

/-!
# A text is read back from its octets

The first octet of a character says how many octets follow and where the next one lies. The octets
that a character is written in fit what their first one says, and their bits are those of the
character, so reading comes out at the character and goes on behind its octets.
-/

namespace Hostwatch.Utf8

/-- No character is a surrogate, and none lies beyond the last plane. -/
theorem toNat_range (c : Char) : c.toNat < 0xD800 ∨ 0xDFFF < c.toNat ∧ c.toNat < 0x110000 :=
  c.valid

theorem toNat_ofNat {n : Nat} (octet : n < 256) : (UInt8.ofNat n).toNat = n :=
  UInt8.toNat_ofNat_of_lt' octet

/-! ### What a first octet begins -/

theorem ofFirst?_two {k : Nat} (low : 2 ≤ k) (high : k < 32) :
    Expect.ofFirst? (UInt8.ofNat (0xC0 + k)) = some ⟨1, 0x80, 0xBF⟩ := by
  have all : ∀ k < 32, 2 ≤ k →
      Expect.ofFirst? (UInt8.ofNat (0xC0 + k)) = some ⟨1, 0x80, 0xBF⟩ := by decide
  exact all k high low

/-- The shortest form is asked for, and surrogates are left out. -/
theorem ofFirst?_three {k : Nat} (high : k < 16) :
    Expect.ofFirst? (UInt8.ofNat (0xE0 + k)) =
      some ⟨2, if k = 0 then 0xA0 else 0x80, if k = 13 then 0x9F else 0xBF⟩ := by
  have all : ∀ k < 16, Expect.ofFirst? (UInt8.ofNat (0xE0 + k)) =
      some ⟨2, if k = 0 then 0xA0 else 0x80, if k = 13 then 0x9F else 0xBF⟩ := by decide
  exact all k high

/-- The shortest form is asked for, and nothing beyond the last plane. -/
theorem ofFirst?_four {k : Nat} (high : k < 5) :
    Expect.ofFirst? (UInt8.ofNat (0xF0 + k)) =
      some ⟨3, if k = 0 then 0x90 else 0x80, if k = 4 then 0x8F else 0xBF⟩ := by
  have all : ∀ k < 5, Expect.ofFirst? (UInt8.ofNat (0xF0 + k)) =
      some ⟨3, if k = 0 then 0x90 else 0x80, if k = 4 then 0x8F else 0xBF⟩ := by decide
  exact all k high

/-! ### Reading a character -/

theorem next_ascii {n : Nat} (ascii : n < 0x80) (rest : Octets) :
    next (UInt8.ofNat n) rest = (Char.ofNat n, rest) := by
  have small : UInt8.ofNat n < 0x80 := by
    rw [UInt8.lt_iff_toNat_lt, toNat_ofNat (by omega)]
    exact ascii
  rw [next, if_pos small, toNat_ofNat (by omega)]

theorem next_of_expect {b : UInt8} {e : Expect} (high : 0x80 ≤ b.toNat)
    (expected : Expect.ofFirst? b = some e) (rest : Octets) :
    next b rest = following e.count e.low e.high (firstBits e.count b) rest := by
  have large : ¬ b < 0x80 := by
    rw [UInt8.lt_iff_toNat_lt]
    exact Nat.not_lt.mpr high
  rw [next, if_neg large, expected]

/-- An octet that fits brings six bits. -/
theorem following_octet {low high : UInt8} {m : Nat} (six : m < 64) (above : low.toNat ≤ 0x80 + m)
    (below : 0x80 + m ≤ high.toNat) (count bits : Nat) (rest : Octets) :
    following (count + 1) low high bits (UInt8.ofNat (0x80 + m) :: rest) =
      following count 0x80 0xBF (bits * 64 + m) rest := by
  have octet : (UInt8.ofNat (0x80 + m)).toNat = 0x80 + m := toNat_ofNat (by omega)
  have fits : low ≤ UInt8.ofNat (0x80 + m) ∧ UInt8.ofNat (0x80 + m) ≤ high := by
    rw [UInt8.le_iff_toNat_le, UInt8.le_iff_toNat_le, octet]
    exact ⟨above, below⟩
  have bitsOf : (0x80 + m) % 64 = m := by omega
  rw [following, if_pos (by simpa using fits), octet, bitsOf]

/-- As `following_octet`, for octets that may hold any six bits. -/
theorem following_any {m : Nat} (six : m < 64) (count bits : Nat) (rest : Octets) :
    following (count + 1) 0x80 0xBF bits (UInt8.ofNat (0x80 + m) :: rest) =
      following count 0x80 0xBF (bits * 64 + m) rest :=
  following_octet six (Nat.le_add_right _ _) (Nat.add_le_add_left (Nat.le_of_lt_succ six) _) count bits rest

/-- The first octet and the tail of a character. -/
theorem next_encodeChar (c : Char) :
    ∃ b tail, encodeChar c = b :: tail ∧ ∀ rest, next b (tail ++ rest) = (c, rest) := by
  have range := toNat_range c
  have back : Char.ofNat c.toNat = c := Char.ofNat_toNat c
  unfold encodeChar
  generalize c.toNat = n at range back
  dsimp only
  split
  · next ascii =>
      refine ⟨_, _, rfl, fun rest => ?_⟩
      rw [List.nil_append, next_ascii ascii, back]
  · split
    · refine ⟨_, _, rfl, fun rest => ?_⟩
      have first : (UInt8.ofNat (0xC0 + n / 64)).toNat = 0xC0 + n / 64 := toNat_ofNat (by omega)
      rw [next_of_expect (by omega) (ofFirst?_two (by omega) (by omega)), List.cons_append]
      have bits : firstBits 1 (UInt8.ofNat (0xC0 + n / 64)) * 64 + n % 64 = n := by
        rw [firstBits, first]
        change (0xC0 + n / 64) % 32 * 64 + n % 64 = n
        omega
      rw [following_any (by omega), bits]
      exact congrArg (·, rest) back
    · split
      · refine ⟨_, _, rfl, fun rest => ?_⟩
        have first : (UInt8.ofNat (0xE0 + n / 4096)).toNat = 0xE0 + n / 4096 :=
          toNat_ofNat (by omega)
        rw [next_of_expect (by omega) (ofFirst?_three (by omega)), List.cons_append,
          List.cons_append]
        have bits : (firstBits 2 (UInt8.ofNat (0xE0 + n / 4096)) * 64 + n / 64 % 64) * 64 + n % 64
            = n := by
          rw [firstBits, first]
          change ((0xE0 + n / 4096) % 16 * 64 + n / 64 % 64) * 64 + n % 64 = n
          omega
        have above : (if n / 4096 = 0 then 0xA0 else 0x80 : UInt8).toNat ≤ 0x80 + n / 64 % 64 := by
          split
          · change 0xA0 ≤ _
            omega
          · exact Nat.le_add_right _ _
        have below : 0x80 + n / 64 % 64 ≤ (if n / 4096 = 13 then 0x9F else 0xBF : UInt8).toNat := by
          split
          · change _ ≤ 0x9F
            omega
          · change _ ≤ 0xBF
            omega
        rw [following_octet (by omega) above below, following_any (by omega), bits]
        exact congrArg (·, rest) back
      · refine ⟨_, _, rfl, fun rest => ?_⟩
        have first : (UInt8.ofNat (0xF0 + n / 262144)).toNat = 0xF0 + n / 262144 :=
          toNat_ofNat (by omega)
        rw [next_of_expect (by omega) (ofFirst?_four (by omega)), List.cons_append,
          List.cons_append, List.cons_append]
        have bits : ((firstBits 3 (UInt8.ofNat (0xF0 + n / 262144)) * 64 + n / 4096 % 64) * 64
            + n / 64 % 64) * 64 + n % 64 = n := by
          rw [firstBits, first]
          change (((0xF0 + n / 262144) % 8 * 64 + n / 4096 % 64) * 64 + n / 64 % 64) * 64
            + n % 64 = n
          omega
        have above :
            (if n / 262144 = 0 then 0x90 else 0x80 : UInt8).toNat ≤ 0x80 + n / 4096 % 64 := by
          split
          · change 0x90 ≤ _
            omega
          · exact Nat.le_add_right _ _
        have below :
            0x80 + n / 4096 % 64 ≤ (if n / 262144 = 4 then 0x8F else 0xBF : UInt8).toNat := by
          split
          · change _ ≤ 0x8F
            omega
          · change _ ≤ 0xBF
            omega
        rw [following_octet (by omega) above below, following_any (by omega),
          following_any (by omega), bits]
        exact congrArg (·, rest) back

theorem decode_go_encode (cs done : List Char) :
    decode.go (encode cs) done = done.reverse ++ cs := by
  induction cs generalizing done with
  | nil => rw [encode, List.flatMap_nil, decode.go, List.append_nil]
  | cons c rest ih =>
      obtain ⟨b, tail, octets, read⟩ := next_encodeChar c
      have split : encode (c :: rest) = b :: (tail ++ encode rest) := by
        rw [encode, List.flatMap_cons, octets]
        rfl
      rw [split, decode.go, read, ih, List.reverse_cons, List.append_assoc]
      rfl

/-- A text is read back from its octets. -/
theorem decode_encode (cs : List Char) : decode (encode cs) = cs := by
  rw [decode, decode_go_encode]
  rfl

end Hostwatch.Utf8
