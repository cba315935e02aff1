import Hostwatch.Proofs.Number.Signs
import Mathlib

/-!
# Bounds that rounding keeps

A result is rounded to the nearest double, and so it stays on the same side of every double on
which the exact result is. A number times one is itself, a quotient of a number and one that is not
less is at most one, and a hundred times as much is at most a hundred.
-/

namespace Hostwatch.Binary64

open Float.Model Float.Model.UnpackedFloat

variable {m n : Nat} {e : Int} {s : Sign}

/-! ### Shifting a mantissa -/

/-- Zeros can be shifted out without loss. -/
theorem shiftRight_zeros (m k : Nat) :
    (⟨m * 2 ^ k, false, false⟩ : ExtendedMantissa) >>> k = ⟨m, false, false⟩ := by
  induction k generalizing m with
  | zero => rw [Nat.pow_zero, Nat.mul_one]; rfl
  | succ k ih =>
      have step : (⟨m * 2 ^ (k + 1), false, false⟩ : ExtendedMantissa) >>> (k + 1) =
          ((⟨m * 2 * 2 ^ k, false, false⟩ : ExtendedMantissa) >>> k).shiftRightOne := by
        rw [Nat.pow_succ', ← Nat.mul_assoc]
        rfl
      rw [step, ih]
      simp [ExtendedMantissa.shiftRightOne]

theorem log2_mul_two_pow (positive : 0 < m) (k : Nat) : (m * 2 ^ k).log2 = m.log2 + k := by
  induction k with
  | zero => rw [Nat.pow_zero, Nat.mul_one]; rfl
  | succ k ih =>
      have some : m * 2 ^ k ≠ 0 := Nat.ne_of_gt (Nat.mul_pos positive (Nat.two_pow_pos k))
      rw [Nat.pow_succ', Nat.mul_left_comm, Nat.log2_two_mul some, ih]
      rfl

/-- The mantissa and the exponent are as the format has them. -/
def Canonical (m : Nat) (e : Int) : Prop :=
  Format.binary64.targetExponent (totalExponent m e) = e

theorem targetExponent_eq (m : Nat) (e : Int) :
    Format.binary64.targetExponent (totalExponent m e) = max ((m.log2 : Int) + e - 52) (-1074) := by
  have : Format.binary64.targetExponent (totalExponent m e) =
      max (m.log2 + 1 + e - 53) (-1074) := rfl
  omega

theorem shiftToTargetExponent_eq {k : Nat} (a : Accuracy)
    (target : Format.binary64.targetExponent (totalExponent m e) = e + k) :
    shiftToTargetExponent .binary64 m e a =
      (ExtendedMantissa.ofMantissaAndAccuracy m a >>> k, e + k) := by
  unfold shiftToTargetExponent shiftToExponent
  rw [target]
  dsimp only
  rw [show (e + k - e).toNat = k by omega]

theorem Canonical.shiftToTargetExponent (canonical : Canonical m e) :
    shiftToTargetExponent .binary64 m e .exact = (⟨m, false, false⟩, e) := by
  have target : Format.binary64.targetExponent (totalExponent m e) = e + (0 : Nat) := by
    rw [canonical]
    omega
  rw [shiftToTargetExponent_eq .exact target]
  exact congrArg _ (Int.add_zero e)

/-- What the format has is not changed by rounding, even if it comes with zeros behind. -/
theorem Canonical.round (canonical : Canonical m e) (positive : 0 < m) (k : Nat) (s : Sign) :
    roundWithAccuracy .binary64 s (m * 2 ^ k) (e - k) .exact = .finite s m e positive := by
  have target : Format.binary64.targetExponent (totalExponent (m * 2 ^ k) (e - k)) = e - k + k := by
    rw [Canonical, targetExponent_eq] at canonical
    rw [targetExponent_eq, log2_mul_two_pow positive]
    omega
  unfold roundWithAccuracy
  rw [shiftToTargetExponent_eq .exact target]
  have shifted :
      ExtendedMantissa.ofMantissaAndAccuracy (m * 2 ^ k) .exact >>> k = ⟨m, false, false⟩ :=
    shiftRight_zeros m k
  rw [shifted, Int.sub_add_cancel]
  have kept : (⟨m, false, false⟩ : ExtendedMantissa).roundedMantissa = m := rfl
  dsimp only
  rw [kept, canonical.shiftToTargetExponent]
  dsimp only
  rw [dif_neg (Nat.ne_of_gt positive)]

/-- Every finite double is as the format has it. -/
theorem canonical_of_unpack {b : BitVec 64} {positive : 0 < m}
    (unpacked : UnpackedFloat.unpack .binary64 b = .finite s m e positive) : Canonical m e := by
  have below := BitVec.isLt (@unpackMantissa .binary64 b)
  change (@unpackMantissa .binary64 b).toNat < 2 ^ 52 at below
  by_cases last : @unpackExponent .binary64 b = -1#11
  · change (if _ = -1#11 then _ else _) = _ at unpacked
    rw [if_pos last] at unpacked
    split at unpacked
    · cases unpacked
    · cases unpacked
  by_cases first : @unpackExponent .binary64 b = 0#11
  -- A double without a first bit has the least exponent.
  · change (if _ = -1#11 then _ else if _ = 0#11 then _ else _) = _ at unpacked
    rw [if_neg last, if_pos first] at unpacked
    split at unpacked
    · cases unpacked
    · obtain ⟨-, mantissa, exponent⟩ := UnpackedFloat.finite.inj unpacked
      rw [first] at exponent
      change (0 : Int) - (1023 + 52) + 1 = e at exponent
      have bits : m.log2 < 52 := by
        rw [Nat.log2_lt (Nat.ne_of_gt positive), ← mantissa]
        exact below
      rw [Canonical, targetExponent_eq]
      omega
  · have low : 0 < (@unpackExponent .binary64 b).toNat :=
      Nat.pos_of_ne_zero fun zero => first (BitVec.eq_of_toNat_eq zero)
    have high : (@unpackExponent .binary64 b).toNat < 2047 := by
      have := BitVec.isLt (@unpackExponent .binary64 b)
      change _ < 2 ^ 11 at this
      have : (@unpackExponent .binary64 b).toNat ≠ 2047 :=
        fun all => last (BitVec.eq_of_toNat_eq all)
      omega
    obtain ⟨positive', normal⟩ := unpack_of_field rfl low high
    rw [normal] at unpacked
    obtain ⟨-, mantissa, exponent⟩ := UnpackedFloat.finite.inj unpacked
    have bits : m.log2 = 52 := (Nat.log2_eq_iff (Nat.ne_of_gt positive)).mpr (by omega)
    rw [Canonical, targetExponent_eq]
    omega

/-! ### Times one -/

theorem mul_one (x : Float) : x * 1.0 = x := by
  have one : (1.0 : Float).toModel.unpack = .finite .positive (2 ^ 52) (-52) (by decide) := rfl
  have signs (s : Sign) : s * .positive = s := by
    cases s with
    | positive => rfl
    | negative => rfl
  have same : UnpackedFloat.mul .binary64 x.toModel.unpack (1.0 : Float).toModel.unpack =
      x.toModel.unpack := by
    rw [one]
    cases unpacked : x.toModel.unpack with
    | infinity s => exact congrArg UnpackedFloat.infinity (signs s)
    | notANumber => rfl
    | zero s => exact congrArg UnpackedFloat.zero (signs s)
    | finite s m e positive =>
        change roundWithAccuracy .binary64 (s * .positive) (m * 2 ^ 52) (e + -52) .exact = _
        rw [signs]
        exact (canonical_of_unpack unpacked).round positive 52 s
  calc x * 1.0
      = Float.ofModel (Float.Model.pack (UnpackedFloat.mul .binary64 x.toModel.unpack
          (1.0 : Float).toModel.unpack)) := rfl
    _ = Float.ofBits x.toBits := by
        rw [same]
        rfl
    _ = x := Float.ofBits_toBits x

/-! ### Results that are not above a double -/

/-- A positive double with an exponent that is not less than `low`, not above `M * 2 ^ E`. -/
inductive AtMost (low : Int) (M : Nat) (E : Int) : UnpackedFloat → Prop where
  | mk {m : Nat} {e : Int} (positive : 0 < m) : 2 ^ 52 ≤ m → m < 2 ^ 53 → low ≤ e →
    (e < E ∨ e = E ∧ m ≤ M) → AtMost low M E (.finite .positive m e positive)

variable {low E : Int} {M : Nat} {x y : UnpackedFloat}

theorem AtMost.mono {low' : Int} (atMost : AtMost low M E x) (le : low' ≤ low) :
    AtMost low' M E x := by
  obtain @⟨m, e, positive, least, most, above, below⟩ := atMost
  exact .mk positive least most (Int.le_trans le above) below

theorem AtMost.unpack_pack (atMost : AtMost low M E x) (range : -1074 ≤ low) (high : E ≤ 971) :
    UnpackedFloat.unpack .binary64 (UnpackedFloat.pack .binary64 x) = x := by
  obtain @⟨m, e, positive, least, most, above, below⟩ := atMost
  exact Normal.unpack_pack (.mk positive least most) (by omega) (by omega)

theorem AtMost.le {positive : 0 < M} (atMost : AtMost low M E x) :
    UnpackedFloat.le x (.finite .positive M E positive) = true := by
  obtain @⟨m, e, positive', least, most, above, below⟩ := atMost
  change (some ((compare e E).then (compare m M))).any (·.isLE) = true
  obtain less | ⟨rfl, less⟩ := below
  · rw [Int.compare_eq_lt.mpr less]
    rfl
  · rw [Int.compare_eq_eq.mpr rfl]
    exact Nat.isLE_compare.mpr less

/-- A mantissa that was rounded up to the next power of two loses a zero, and the exponent grows. -/
theorem carry_atMost {r : Nat} (least : 2 ^ 52 ≤ r) (low : -1074 ≤ e) (leastM : 2 ^ 52 ≤ M)
    (mostM : M < 2 ^ 53) (bound : e < E ∧ r ≤ 2 ^ 53 ∨ e = E ∧ r ≤ M)
    (positive : 0 < (shiftToTargetExponent .binary64 r e .exact).1.mantissa) :
    AtMost e M E (.finite .positive (shiftToTargetExponent .binary64 r e .exact).1.mantissa
      (shiftToTargetExponent .binary64 r e .exact).2 positive) := by
  obtain short | long := Nat.lt_or_ge r (2 ^ 53)
  · have bits : r.log2 = 52 := (Nat.log2_eq_iff (by omega)).mpr ⟨least, short⟩
    have canonical : Canonical r e := by
      rw [Canonical, targetExponent_eq]
      omega
    revert positive
    rw [canonical.shiftToTargetExponent]
    dsimp only
    exact fun positive => .mk positive least short (Int.le_refl e) (by omega)
  · obtain rfl : r = 2 ^ 53 := by omega
    have target : Format.binary64.targetExponent (totalExponent (2 ^ 53) e) = e + (1 : Nat) := by
      rw [targetExponent_eq, Nat.log2_two_pow]
      omega
    have shifted : ExtendedMantissa.ofMantissaAndAccuracy (2 ^ 53) .exact >>> 1 =
        ⟨2 ^ 52, false, false⟩ := by
      rw [show (2 : Nat) ^ 53 = 2 ^ 52 * 2 ^ 1 from rfl]
      exact shiftRight_zeros (2 ^ 52) 1
    revert positive
    rw [shiftToTargetExponent_eq .exact target, shifted]
    dsimp only
    exact fun positive => .mk positive (Nat.le_refl _) (by decide) (by omega) (by omega)

/-- A result is rounded up at most to the next double. So if it is not above a double before it is
rounded, it is not above it afterwards. -/
theorem round_atMost {d : Nat} {a : Accuracy} (least : 2 ^ 52 ≤ m) (low : -1074 ≤ e)
    (leastM : 2 ^ 52 ≤ M) (mostM : M < 2 ^ 53) (split : E = e + d)
    (bound : m < M * 2 ^ d ∨ m = M * 2 ^ d ∧ a = .exact) :
    AtMost e M E (roundWithAccuracy .binary64 .positive m e a) := by
  have some : m ≠ 0 := by omega
  have below : m < 2 ^ (53 + d) := by
    rw [Nat.pow_add]
    have := Nat.mul_lt_mul_of_pos_right mostM (Nat.two_pow_pos d)
    omega
  have bits : m.log2 < 53 + d := (Nat.log2_lt some).mpr below
  obtain ⟨k, length⟩ := Nat.exists_eq_add_of_le ((Nat.le_log2 some).mpr least)
  have target : Format.binary64.targetExponent (totalExponent m e) = e + k := by
    rw [targetExponent_eq]
    omega
  have shift := shift_to_bits least low a
  unfold roundWithAccuracy
  rw [shiftToTargetExponent_eq a target] at shift ⊢
  obtain ⟨least₁, most₁, -⟩ := shift
  generalize first : ExtendedMantissa.ofMantissaAndAccuracy m a >>> k = em at *
  obtain ⟨atLeast, atMost⟩ := roundedMantissa_bounds em
  have rounded : e + k < E ∧ em.roundedMantissa ≤ 2 ^ 53 ∨
      e + k = E ∧ em.roundedMantissa ≤ M := by
    obtain less | rfl : k < d ∨ k = d := by omega
    · left
      dsimp only at most₁
      omega
    · refine .inr ⟨split.symm, ?_⟩
      obtain less | ⟨rfl, rfl⟩ := bound
      · have kept : em.mantissa = m / 2 ^ k := by
          rw [← first, mantissa_shiftRight]
          cases a with
          | exact => rfl
          | inexact order =>
              cases order with
              | lt => rfl
              | eq => rfl
              | gt => rfl
        have := (Nat.div_lt_iff_lt_mul (Nat.two_pow_pos k)).mpr less
        omega
      · rw [← first]
        exact Nat.le_of_eq (congrArg ExtendedMantissa.roundedMantissa (shiftRight_zeros M k))
  dsimp only at least₁ ⊢
  have least₂ : 2 ^ 52 ≤ em.roundedMantissa := Nat.le_trans least₁ atLeast
  have low₂ : -1074 ≤ e + k := by omega
  obtain ⟨least₃, -, -⟩ := shift_to_bits least₂ low₂ .exact
  rw [dif_neg (by omega)]
  exact (carry_atMost least₂ low₂ leastM mostM rounded _).mono (by omega)

/-! ### Shares in percent -/

theorem div_atMost (positive : 0 < M) (dividend : AtMost low M E x) (leastM : 2 ^ 52 ≤ M)
    (mostM : M < 2 ^ 53) (range : -1021 ≤ low - E) :
    AtMost (low - E - 53) (2 ^ 52) (-52)
      (UnpackedFloat.div .binary64 x (.finite .positive M E positive)) := by
  obtain @⟨m, e, positive', least, most, above, below⟩ := dividend
  have divided : UnpackedFloat.div .binary64 (.finite .positive m e positive')
      (.finite .positive M E positive) = roundWithAccuracy .binary64 .positive
        (divCore .binary64 m e M E).1 (divCore .binary64 m e M E).2.1
        (divCore .binary64 m e M E).2.2 := rfl
  rw [divided, divCore_normal least most leastM mostM (by omega)]
  obtain ⟨leastQ, mostQ⟩ := quotient_bounds least most leastM mostM
  have result : AtMost (e - E - 53) (2 ^ 52) (-52) (roundWithAccuracy .binary64 .positive
      (m * 2 ^ 53 / M) (e - E - 53) (accuracyOfFraction (m * 2 ^ 53 % M) M)) := by
    obtain ⟨d, apart⟩ := Int.eq_ofNat_of_zero_le (show 0 ≤ E - e by omega)
    refine round_atMost (d := d + 1) leastQ (by omega) (Nat.le_refl _) (by decide) (by omega) ?_
    obtain less | ⟨rfl, le⟩ := below
    · left
      have long : 2 ^ 54 ≤ 2 ^ 52 * 2 ^ (d + 1) := by
        rw [← Nat.pow_add]
        exact Nat.pow_le_pow_right (by decide) (by omega)
      omega
    · obtain rfl : d = 0 := by omega
      obtain less | rfl := Nat.lt_or_eq_of_le le
      · left
        rw [Nat.div_lt_iff_lt_mul positive]
        omega
      · right
        rw [Nat.mul_div_cancel_left _ positive, Nat.mul_mod_right]
        exact ⟨rfl, rfl⟩
  exact result.mono (by omega)

/-- A hundred times a number that is not above one. -/
theorem mul_atMost (factor : AtMost low (2 ^ 52) (-52) x) (range : -1028 ≤ low) :
    AtMost (low - 46) (100 * 2 ^ 46) (-46)
      (UnpackedFloat.mul .binary64 x (.finite .positive (100 * 2 ^ 46) (-46) (by decide))) := by
  obtain @⟨m, e, positive, least, most, above, below⟩ := factor
  obtain ⟨d, apart⟩ := Int.eq_ofNat_of_zero_le (show 0 ≤ -e by omega)
  have result : AtMost (e + -46) (100 * 2 ^ 46) (-46) (roundWithAccuracy .binary64 .positive
      (m * (100 * 2 ^ 46)) (e + -46) .exact) := by
    refine round_atMost (d := d) (by omega) (by omega) (by decide) (by decide) (by omega) ?_
    rw [Nat.mul_comm (100 * 2 ^ 46) (2 ^ d)]
    have bound : m ≤ 2 ^ d := by
      obtain less | ⟨rfl, le⟩ := below
      · have := Nat.pow_le_pow_right (n := 2) (by decide) (show 53 ≤ d by omega)
        omega
      · obtain rfl : d = 52 := by omega
        exact le
    obtain less | same := Nat.lt_or_eq_of_le (Nat.mul_le_mul_right (100 * 2 ^ 46) bound)
    · exact .inl less
    · exact .inr ⟨same, rfl⟩
  exact result.mono (by omega)

/-! ### Whole numbers in order -/

theorem divNearest_le (num den : Nat) : divNearest num den ≤ num / den + 1 := by
  unfold divNearest
  dsimp only
  split
  · exact Nat.le_refl _
  · exact Nat.le_succ _

theorem divNearest_mono {a b : Nat} (le : a ≤ b) (den : Nat) :
    divNearest a den ≤ divNearest b den := by
  obtain less | same := Nat.lt_or_eq_of_le (Nat.div_le_div_right (c := den) le)
  · exact Nat.le_trans (divNearest_le a den) (Nat.le_trans less (div_le_divNearest b den))
  -- With equal quotients, what is rounded up for the lesser remainder is so for the greater one.
  · have remainders : a % den ≤ b % den := by
      have first := Nat.div_add_mod a den
      have second := Nat.div_add_mod b den
      rw [same] at first
      omega
    unfold divNearest
    dsimp only
    rw [same]
    split
    · next up =>
        rw [if_pos]
        simp only [Bool.or_eq_true, Bool.and_eq_true, decide_eq_true_eq, beq_iff_eq] at up ⊢
        omega
    · split
      · exact Nat.le_succ _
      · exact Nat.le_refl _

theorem wholeMantissa_le (n : Nat) : wholeMantissa n ≤ 2 ^ 53 := by
  have short : (n <<< (52 - n.log2)) / (1 <<< (n.log2 - 52)) < 2 ^ 53 := by
    rw [Nat.shiftLeft_eq, Nat.one_shiftLeft, Nat.div_lt_iff_lt_mul (Nat.two_pow_pos _),
      ← Nat.pow_add]
    have less := Nat.mul_lt_mul_of_pos_right (Nat.lt_log2_self (n := n))
      (Nat.two_pow_pos (52 - n.log2))
    rw [← Nat.pow_add] at less
    exact Nat.lt_of_lt_of_le less (Nat.pow_le_pow_right (by decide) (by omega))
  exact Nat.le_trans (divNearest_le _ _) short

theorem bitsOfRatio_mono {a b : Nat} (some : a ≠ 0) (le : a ≤ b) :
    bitsOfRatio a 1 ≤ bitsOfRatio b 1 := by
  have some' : b ≠ 0 := by omega
  have lengths : a.log2 ≤ b.log2 :=
    (Nat.le_log2 some').mpr (Nat.le_trans (Nat.log2_self_le some) le)
  rw [bitsOfRatio_one_eq some, bitsOfRatio_one_eq some']
  obtain shorter | same := Nat.lt_or_eq_of_le lengths
  · have := wholeMantissa_le a
    have := le_wholeMantissa some'
    omega
  · have : wholeMantissa a ≤ wholeMantissa b := by
      unfold wholeMantissa
      rw [same]
      refine divNearest_mono ?_ _
      rw [Nat.shiftLeft_eq, Nat.shiftLeft_eq]
      exact Nat.mul_le_mul_right _ le
    omega

/-- Whole numbers that are not too large are doubles in the same order. -/
theorem ofInt_atMost {a b : Nat} (some : a ≠ 0) (le : a ≤ b) (size : b < 2 ^ 64) :
    ∃ M E, ∃ positive : 0 < M, 2 ^ 52 ≤ M ∧ M < 2 ^ 53 ∧ E ≤ 12 ∧
      (ofInt b).toModel.unpack = .finite .positive M E positive ∧
      AtMost (-52) M E (ofInt a).toModel.unpack := by
  have order := bitsOfRatio_mono some le
  obtain ⟨least, -⟩ := bitsOfRatio_one some
  have most : bitsOfRatio b 1 ≤ (1023 + 64) * 2 ^ 52 := by
    have := wholeMantissa_le b
    have : b.log2 < 64 := (Nat.log2_lt (by omega)).mpr size
    rw [bitsOfRatio_one_eq (by omega)]
    omega
  have unpacked (n : Nat) (low : 2 ^ 52 ≤ bitsOfRatio n 1)
      (high : bitsOfRatio n 1 < 2047 * 2 ^ 52) :
      ∃ positive, (ofInt n).toModel.unpack = .finite .positive (2 ^ 52 + bitsOfRatio n 1 % 2 ^ 52)
        ((bitsOfRatio n 1 / 2 ^ 52 : Nat) - 1075) positive := by
    obtain ⟨positive, same⟩ := unpack_bits low high false
    have read : ofInt n = ofRatio false n 1 := by
      rw [ofInt, decide_eq_false (by omega), Int.natAbs_natCast]
    refine ⟨positive, ?_⟩
    rw [read]
    change UnpackedFloat.unpack .binary64 (UnpackedFloat.pack .binary64
      (UnpackedFloat.unpack .binary64 (BitVec.ofNat 64
        (if false = true then 2 ^ 63 + bitsOfRatio n 1 else bitsOfRatio n 1)))) = _
    rw [same]
    exact Normal.unpack_pack (.mk positive (Nat.le_add_right _ _) (by omega)) (by omega) (by omega)
  obtain ⟨positive, lesser⟩ := unpacked a (by omega) (by omega)
  obtain ⟨positive', greater⟩ := unpacked b (by omega) (by omega)
  rw [lesser]
  exact ⟨_, _, positive', by omega, by omega, by omega, greater,
    .mk positive (by omega) (by omega) (by omega) (by omega)⟩

theorem le_iff (x y : Float) :
    x ≤ y ↔ UnpackedFloat.le x.toModel.unpack y.toModel.unpack = true :=
  decide_eq_true_iff

/-- A share of a whole is at most a hundred percent. -/
theorem percent_le_hundred {a b : Nat} (le : a ≤ b) (some : 0 < b) (size : b < 2 ^ 64) :
    ofInt a / ofInt b * 100.0 ≤ 100.0 := by
  have hundred : (100.0 : Float).toModel.unpack =
      .finite .positive (100 * 2 ^ 46) (-46) (by decide) := rfl
  have product (x : Float) : (x * 100.0).toModel.unpack = UnpackedFloat.unpack .binary64
      (UnpackedFloat.pack .binary64
        (UnpackedFloat.mul .binary64 x.toModel.unpack (100.0 : Float).toModel.unpack)) := rfl
  rw [le_iff, product, unpack_div, hundred]
  obtain rfl | some' := Nat.eq_zero_or_pos a
  · obtain ⟨M, E, positive, -, -, -, whole, -⟩ :=
      ofInt_atMost (Nat.ne_of_gt some) (Nat.le_refl b) size
    have nothing : (ofInt (0 : Nat)).toModel.unpack = .zero .positive := rfl
    have kept : UnpackedFloat.unpack .binary64 (UnpackedFloat.pack .binary64 (.zero .positive)) =
        .zero .positive := unpack_packedZero
    rw [whole, nothing]
    change UnpackedFloat.le (UnpackedFloat.unpack .binary64 (UnpackedFloat.pack .binary64
      (UnpackedFloat.mul .binary64 (UnpackedFloat.unpack .binary64 (UnpackedFloat.pack .binary64
        (.zero .positive))) _))) _ = true
    rw [kept]
    change UnpackedFloat.le (UnpackedFloat.unpack .binary64 (UnpackedFloat.pack .binary64
      (.zero .positive))) _ = true
    rw [kept]
    rfl
  · obtain ⟨M, E, positive, least, most, high, whole, part⟩ :=
      ofInt_atMost (Nat.ne_of_gt some') le size
    have share := div_atMost positive part least most (by omega)
    have percent := mul_atMost share (by omega)
    rw [whole, share.unpack_pack (by omega) (by decide), percent.unpack_pack (by omega) (by decide)]
    exact percent.le

end Hostwatch.Binary64
