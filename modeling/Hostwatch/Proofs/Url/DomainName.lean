import Hostwatch.Proofs.Except
import Hostwatch.Proofs.Text.Split
import Hostwatch.Url.DomainName

/-!
# The characters of domain names

The ASCII form of a domain name is put together from characters that were looked at, from the digits
and hyphens of encoded labels, and from the dots between labels. A name may hold all of these, so no
colon and no bracket gets into a name on the way.
-/

namespace Hostwatch

namespace Punycode

variable {c : Char}

theorem threshold_lt_base (k bias : Nat) : threshold k bias < base := by
  have bounds : tMin < base ∧ tMax < base := by decide
  rw [threshold]
  split
  · exact bounds.1
  · split
    · exact bounds.2
    · omega

/-- Numbers are written in digits. The one that ends a number is below the threshold, and the others
are the threshold and a remainder. -/
theorem exists_digit_of_mem_writeNumber {fuel q k bias : Nat}
    (member : c ∈ writeNumber fuel q k bias) : ∃ n < base, c = digit n := by
  induction fuel generalizing q k with
  | zero => cases member
  | succ fuel ih =>
      have below := threshold_lt_base k bias
      rw [writeNumber] at member
      split at member
      · next last =>
          exact ⟨q, Nat.lt_trans last below, List.mem_singleton.mp member⟩
      · rcases List.mem_cons.mp member with here | later
        · have remainder := Nat.mod_lt (q - threshold k bias) (Nat.sub_pos_of_lt below)
          exact ⟨_, by omega, here⟩
        · exact ih later

theorem mem_insertions {m : Nat} {label : List Char} {e : Encoder}
    (member : c ∈ (insertions m label e).out) : c ∈ e.out ∨ ∃ n < base, c = digit n := by
  induction label generalizing e with
  | nil => exact .inl member
  | cons d label ih =>
      rw [insertions, List.foldl_cons, ← insertions] at member
      rcases ih member with earlier | written
      · split at earlier
        · exact .inl earlier
        · split at earlier
          · exact (List.mem_append.mp earlier).imp_right exists_digit_of_mem_writeNumber
          · exact .inl earlier
      · exact .inr written

theorem mem_encodeFrom {fuel n : Nat} {label : List Char} {e : Encoder}
    (member : c ∈ (encodeFrom fuel n label e).out) : c ∈ e.out ∨ ∃ n < base, c = digit n := by
  induction fuel generalizing n e with
  | zero => exact .inl member
  | succ fuel ih =>
      rw [encodeFrom] at member
      split at member
      · exact .inl member
      · rcases ih member with earlier | written
        · -- Only the distance to the next insertion differs from what it was before.
          have kept := mem_insertions earlier
          exact kept
        · exact .inr written

/-- An encoded label holds characters of the label, hyphens and digits. -/
theorem mem_encode {label : List Char} (member : c ∈ encode label) :
    c ∈ label ∨ c = '-' ∨ ∃ n < base, c = digit n := by
  rw [encode] at member
  rcases mem_encodeFrom member with start | written
  · have plain (member : c ∈ label.filter (·.toNat < 128)) : c ∈ label := List.mem_of_mem_filter member
    split at start
    · cases start
    · rcases List.mem_append.mp start with kept | hyphen
      · exact .inl (plain kept)
      · exact .inr (.inl (List.mem_singleton.mp hyphen))
  · exact .inr (.inr written)

end Punycode

namespace DomainName

variable {c : Char}

theorem isAllowed_digit {n : Nat} (small : n < Punycode.base) :
    isAllowed (Punycode.digit n) = true := by
  have all : ∀ n < Punycode.base, isAllowed (Punycode.digit n) = true := by decide
  exact all n small

theorem isAllowed_of_isDigit (digit : c.isDigit = true) : isAllowed c = true := by
  obtain ⟨low, high⟩ := Char.isDigit_iff_toNat.mp digit
  change 48 ≤ c.toNat at low
  change c.toNat ≤ 57 at high
  have unmarked : "%#/:<>?@[\\]^|".toList.contains c = false := by
    have marks : "%#/:<>?@[\\]^|".toList.any Char.isDigit = false := by decide
    rw [← Bool.not_eq_true, List.contains_iff_mem]
    exact fun member => List.any_eq_false.mp marks c member digit
  have visible : 0x20 < c.toNat ∧ c.toNat ≠ 0x7F := by omega
  rw [isAllowed, if_pos (by omega), unmarked]
  simp [visible]

/-- An allowed character is no mark of an address. -/
theorem ne_of_isAllowed (allowed : isAllowed c = true) : c ≠ ':' ∧ c ≠ '[' ∧ c ≠ ']' := by
  refine ⟨?_, ?_, ?_⟩
  all_goals
    rintro rfl
    exact absurd allowed (by decide)

theorem isAllowed_of_label? {label ascii : List Char} (allowed : ∀ c ∈ label, isAllowed c = true)
    (read : label? label = some ascii) : ∀ c ∈ ascii, isAllowed c = true := by
  rw [label?.eq_def] at read
  split at read
  · split at read
    · cases read
      exact allowed
    · cases read
  · split at read
    · cases read
      exact allowed
    · split at read
      · cases read
      · cases read
        intro c member
        rcases List.mem_append.mp member with mark | encoded
        · exact List.all_eq_true.mp (by decide : ['x', 'n', '-', '-'].all isAllowed = true) c mark
        · rcases Punycode.mem_encode encoded with kept | rfl | ⟨n, small, rfl⟩
          · exact allowed c kept
          · decide
          · exact isAllowed_digit small

/-- A domain name in ASCII holds only characters that a name may hold. -/
theorem isAllowed_of_toAscii? {name ascii : List Char} (read : toAscii? name = some ascii) :
    ∀ c ∈ ascii, isAllowed c = true := by
  rw [toAscii?] at read
  split at read
  · cases read
  · next allowed =>
      obtain ⟨labels, each, joined⟩ := Option.bind_eq_some_iff.mp read
      cases joined
      intro c member
      rcases Text.mem_intercalate member with dot | ⟨label, inside, member⟩
      · rw [List.mem_singleton.mp dot]
        decide
      · obtain ⟨piece, among, read⟩ := exists_of_mem_mapM each inside
        refine isAllowed_of_label? (fun c member => ?_) read c member
        have common := Text.mem_of_mem_splitBy among member
        rw [Bool.not_eq_true, Bool.not_eq_false'] at allowed
        exact List.all_eq_true.mp allowed c common

end DomainName

end Hostwatch
