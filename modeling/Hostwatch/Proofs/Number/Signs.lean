import Hostwatch.Time.Span
import Mathlib.Tactic.Ring

/-!
# Signs of quotients

Whether time has passed is asked of a double: a whole number of microseconds or milliseconds, divided
by how many of them make a second. The question is the same as for the whole number, because neither
the conversion nor the division can round a number other than zero to zero. Both stay among the
normal doubles, those with all 53 bits of the mantissa in use, or end at an infinity; signs are kept
in either case.
-/

namespace Hostwatch.Binary64

open Float.Model Float.Model.UnpackedFloat

/-! ### Normal doubles -/

/-- A sign, a mantissa of 53 bits and an exponent. -/
inductive Normal (s : Sign) (e : Int) : UnpackedFloat → Prop where
  | mk {m : Nat} (positive : 0 < m) :
    2 ^ 52 ≤ m → m < 2 ^ 53 → Normal s e (.finite s m e positive)

theorem sign_packComponents (s : Sign) (exponent : BitVec 11) (mantissa : BitVec 52) :
    Sign.ofBitVec (unpackSign (packComponents .binary64 s exponent mantissa)) = s := by
  change Sign.ofBitVec ((s.toBitVec ++ exponent ++ mantissa).extractLsb' 63 1) = s
  rw [BitVec.extractLsb'_append_eq_of_le (by decide),
    BitVec.extractLsb'_append_eq_of_le (by decide)]
  cases s with
  | positive => rfl
  | negative => rfl

theorem finite_congr {s s' : Sign} {m m' : Nat} {e e' : Int} {positive : 0 < m}
    {positive' : 0 < m'} (sign : s = s') (mantissa : m = m') (exponent : e = e') :
    UnpackedFloat.finite s m e positive = .finite s' m' e' positive' := by
  subst sign
  subst mantissa
  subst exponent
  rfl

/-- A double whose exponent field is neither all zeros nor all ones has a first bit before the bits
of its mantissa. -/
theorem unpack_of_field {b : BitVec 64} {field : Nat}
    (exponent : (@unpackExponent .binary64 b).toNat = field) (low : 0 < field)
    (high : field < 2047) :
    ∃ positive, UnpackedFloat.unpack .binary64 b =
      .finite (Sign.ofBitVec (@unpackSign .binary64 b))
        (2 ^ 52 + (@unpackMantissa .binary64 b).toNat) (field - 1075) positive := by
  have notLast : @unpackExponent .binary64 b ≠ -1#11 := by
    intro last
    rw [last] at exponent
    exact Nat.ne_of_lt high exponent.symm
  have notFirst : @unpackExponent .binary64 b ≠ 0#11 := by
    intro first
    rw [first] at exponent
    exact Nat.ne_of_gt low exponent.symm
  have mantissa : (1#1 ++ @unpackMantissa .binary64 b).toNat =
      2 ^ 52 + (@unpackMantissa .binary64 b).toNat := by
    rw [BitVec.toNat_append, ← Nat.shiftLeft_add_eq_or_of_lt (BitVec.isLt _), Nat.shiftLeft_eq]
    rfl
  refine ⟨Nat.add_pos_left (by decide) _, ?_⟩
  change (if _ = -1#11 then _ else if _ = 0#11 then _ else UnpackedFloat.finite _ _ _ _) = _
  rw [if_neg notLast, if_neg notFirst]
  exact finite_congr rfl mantissa (by rw [exponent]; rfl)

/-- A normal double in the range of exponents is what its bits stand for. -/
theorem Normal.unpack_pack {s : Sign} {e : Int} {x : UnpackedFloat} (normal : Normal s e x)
    (low : -1074 ≤ e) (high : e ≤ 971) :
    UnpackedFloat.unpack .binary64 (UnpackedFloat.pack .binary64 x) = x := by
  obtain @⟨m, positive, least, most⟩ := normal
  have bits : m.log2 = 52 := (Nat.log2_eq_iff (Nat.ne_of_gt positive)).mpr ⟨least, most⟩
  obtain ⟨field, same⟩ := Int.eq_ofNat_of_zero_le (show 0 ≤ e + 1075 by omega)
  have packed : UnpackedFloat.pack .binary64 (.finite s m e positive) =
      packComponents .binary64 s (BitVec.ofNat 11 field) (BitVec.ofNat 52 m) := by
    have exponent : (e + (1023 : Nat) + (52 : Nat)).toNat = field := by omega
    change (if 2 ^ 11 ≤ (e + (1023 : Nat) + (52 : Nat)).toNat + 1 then _
      else if m.log2 + 1 = 53 then packComponents .binary64 s (BitVec.ofNat 11 _) _ else _) = _
    rw [exponent, if_neg (by omega), if_pos (by omega)]
    exact congrArg (fun n => packComponents .binary64 s (BitVec.ofNat 11 n) (BitVec.ofNat 52 m))
      exponent
  rw [packed]
  generalize made : packComponents .binary64 s (BitVec.ofNat 11 field) (BitVec.ofNat 52 m) = b
  have exponent : (@unpackExponent .binary64 b).toNat = field := by
    rw [← made, unpackExponent_packComponents, BitVec.toNat_ofNat]
    exact Nat.mod_eq_of_lt (show field < 2 ^ 11 by omega)
  have mantissa : 2 ^ 52 + (@unpackMantissa .binary64 b).toNat = m := by
    rw [← made, unpackMantissa_packComponents, BitVec.toNat_ofNat]
    change 2 ^ 52 + m % 2 ^ 52 = m
    omega
  obtain ⟨_, unpacked⟩ := unpack_of_field exponent (by omega) (by omega)
  have sign : Sign.ofBitVec (@unpackSign .binary64 b) = s := by rw [← made, sign_packComponents]
  rw [unpacked]
  exact finite_congr sign mantissa (by omega)

/-! ### Rounding -/

theorem mantissa_shiftRight (em : ExtendedMantissa) (k : Nat) :
    (em >>> k).mantissa = em.mantissa / 2 ^ k := by
  induction k generalizing em with
  | zero => exact (Nat.div_one _).symm
  | succ k ih =>
      have step : (em >>> (k + 1)).mantissa = (em >>> k).mantissa / 2 := rfl
      rw [step, ih, Nat.div_div_eq_div_mul, Nat.pow_succ]

theorem roundedMantissa_bounds (em : ExtendedMantissa) :
    em.mantissa ≤ em.roundedMantissa ∧ em.roundedMantissa ≤ em.mantissa + 1 := by
  obtain ⟨m, round, sticky⟩ := em
  cases round with
  | false =>
      cases sticky with
      | false | true => exact ⟨Nat.le_refl _, Nat.le_succ _⟩
  | true =>
      cases sticky with
      | false =>
          change m ≤ m + m % 2 ∧ m + m % 2 ≤ m + 1
          omega
      | true => exact ⟨Nat.le_succ _, Nat.le_refl _⟩

/-- A mantissa of at least 53 bits is shortened to 53 bits, unless that makes the exponent too
small. -/
theorem shift_to_bits {m : Nat} {e : Int} (least : 2 ^ 52 ≤ m) (low : -1074 ≤ e) (a : Accuracy) :
    let shifted := shiftToTargetExponent .binary64 m e a
    2 ^ 52 ≤ shifted.1.mantissa ∧ shifted.1.mantissa < 2 ^ 53 ∧
      shifted.2 = e + (m.log2 - 52 : Nat) := by
  have some : m ≠ 0 := by omega
  have bits : 52 ≤ m.log2 := (Nat.le_log2 some).mpr least
  obtain ⟨k, split⟩ := Nat.exists_eq_add_of_le bits
  have target : (Format.binary64.targetExponent (totalExponent m e) - e).toNat = k := by
    have : Format.binary64.targetExponent (totalExponent m e) =
        max (m.log2 + 1 + e - 53) (-1074) := rfl
    omega
  have whole : (ExtendedMantissa.ofMantissaAndAccuracy m a).mantissa = m := by
    rcases a with _ | _ | _ | _
    · rfl
    · rfl
    · rfl
    · rfl
  intro shifted
  have mantissa : shifted.1.mantissa = m / 2 ^ k := by
    rw [← whole, ← target]
    exact mantissa_shiftRight _ _
  have exponent : shifted.2 = e + k := by
    rw [← target]
    rfl
  rw [mantissa, exponent, split, Nat.add_sub_cancel_left]
  have below := Nat.log2_self_le some
  have above := Nat.lt_log2_self (n := m)
  rw [split, Nat.pow_add] at below
  rw [split, Nat.pow_succ, Nat.pow_add, Nat.mul_right_comm] at above
  exact ⟨(Nat.le_div_iff_mul_le (Nat.two_pow_pos k)).mpr below,
    (Nat.div_lt_iff_lt_mul (Nat.two_pow_pos k)).mpr above, rfl⟩

theorem log2_le_53 {m : Nat} (some : m ≠ 0) (most : m < 2 ^ 54) : m.log2 ≤ 53 :=
  Nat.le_of_lt_succ ((Nat.log2_lt some).mpr most)

/-- Rounding gives a normal double. Its exponent may be one more than that of the bits that are kept,
if they are rounded up to the next power of two. -/
theorem round_normal {m : Nat} {e : Int} (least : 2 ^ 52 ≤ m) (low : -1074 ≤ e) (a : Accuracy)
    (s : Sign) :
    ∃ e', e ≤ e' ∧ e' ≤ e + (m.log2 - 52 : Nat) + 1 ∧
      Normal s e' (roundWithAccuracy .binary64 s m e a) := by
  obtain ⟨least₁, most₁, exponent₁⟩ := shift_to_bits least low a
  unfold roundWithAccuracy
  generalize shiftToTargetExponent .binary64 m e a = first at *
  obtain ⟨em, e₁⟩ := first
  obtain ⟨atLeast, atMost⟩ := roundedMantissa_bounds em
  dsimp only at *
  have low₁ : -1074 ≤ e₁ := by omega
  obtain ⟨least₂, most₂, exponent₂⟩ :=
    shift_to_bits (m := em.roundedMantissa) (by omega) low₁ .exact
  have carry := log2_le_53 (m := em.roundedMantissa) (by omega) (by omega)
  generalize shiftToTargetExponent .binary64 em.roundedMantissa e₁ .exact = second at *
  obtain ⟨final, e₂⟩ := second
  dsimp only at *
  rw [dif_neg (by omega)]
  exact ⟨e₂, by omega, by omega, .mk _ least₂ most₂⟩

/-- A quotient of mantissas has enough bits if the dividend gets 53 more. -/
theorem divCore_normal {m₁ m₂ : Nat} {e₁ e₂ : Int} (least₁ : 2 ^ 52 ≤ m₁) (most₁ : m₁ < 2 ^ 53)
    (least₂ : 2 ^ 52 ≤ m₂) (most₂ : m₂ < 2 ^ 53) (low : -1021 ≤ e₁ - e₂) :
    divCore .binary64 m₁ e₁ m₂ e₂ =
      (m₁ * 2 ^ 53 / m₂, e₁ - e₂ - 53, accuracyOfFraction (m₁ * 2 ^ 53 % m₂) m₂) := by
  have bits₁ : m₁.log2 = 52 := (Nat.log2_eq_iff (by omega)).mpr ⟨least₁, most₁⟩
  have bits₂ : m₂.log2 = 52 := (Nat.log2_eq_iff (by omega)).mpr ⟨least₂, most₂⟩
  have target : min (e₁ - e₂)
      (Format.binary64.targetExponent (totalExponent m₁ e₁ - totalExponent m₂ e₂)) =
      e₁ - e₂ - 53 := by
    have : Format.binary64.targetExponent (totalExponent m₁ e₁ - totalExponent m₂ e₂) =
        max (m₁.log2 + 1 + e₁ - (m₂.log2 + 1 + e₂) - 53) (-1074) := rfl
    omega
  have shift : m₁ <<< (e₁ - e₂ - (e₁ - e₂ - 53)).toNat = m₁ * 2 ^ 53 := by
    rw [show (e₁ - e₂ - (e₁ - e₂ - 53)).toNat = 53 by omega, Nat.shiftLeft_eq]
  unfold divCore
  rw [target]
  dsimp only
  rw [shift]

theorem quotient_bounds {m₁ m₂ : Nat} (least₁ : 2 ^ 52 ≤ m₁) (most₁ : m₁ < 2 ^ 53)
    (least₂ : 2 ^ 52 ≤ m₂) (most₂ : m₂ < 2 ^ 53) :
    2 ^ 52 ≤ m₁ * 2 ^ 53 / m₂ ∧ m₁ * 2 ^ 53 / m₂ < 2 ^ 54 := by
  rw [Nat.le_div_iff_mul_le (by omega), Nat.div_lt_iff_lt_mul (by omega)]
  omega

/-- The quotient of normal doubles is a normal double, if its exponent is not too small. -/
theorem div_normal {s₁ s₂ : Sign} {e₁ e₂ : Int} {x y : UnpackedFloat} (dividend : Normal s₁ e₁ x)
    (divisor : Normal s₂ e₂ y) (low : -1021 ≤ e₁ - e₂) :
    ∃ e, e₁ - e₂ - 53 ≤ e ∧ e ≤ e₁ - e₂ - 51 ∧
      Normal (s₁ / s₂) e (UnpackedFloat.div .binary64 x y) := by
  obtain @⟨m₁, positive₁, least₁, most₁⟩ := dividend
  obtain @⟨m₂, positive₂, least₂, most₂⟩ := divisor
  have divided : UnpackedFloat.div .binary64 (.finite s₁ m₁ e₁ positive₁)
      (.finite s₂ m₂ e₂ positive₂) = roundWithAccuracy .binary64 (s₁ / s₂)
        (divCore .binary64 m₁ e₁ m₂ e₂).1 (divCore .binary64 m₁ e₁ m₂ e₂).2.1
        (divCore .binary64 m₁ e₁ m₂ e₂).2.2 := rfl
  rw [divided, divCore_normal least₁ most₁ least₂ most₂ low]
  obtain ⟨least, most⟩ := quotient_bounds least₁ most₁ least₂ most₂
  obtain ⟨e, above, below, normal⟩ :=
    round_normal least (show -1074 ≤ e₁ - e₂ - 53 by omega)
      (accuracyOfFraction (m₁ * 2 ^ 53 % m₂) m₂) (s₁ / s₂)
  have bits := log2_le_53 (by omega) most
  exact ⟨e, above, by omega, normal⟩

/-! ### Whole numbers -/

theorem div_le_divNearest (num den : Nat) : num / den ≤ divNearest num den := by
  unfold divNearest
  dsimp only
  split
  · exact Nat.le_succ _
  · exact Nat.le_refl _

/-- The exponent is estimated from lengths, and for a whole number the estimate is exact. -/
theorem ulpExponent_one {n : Nat} (some : n ≠ 0) :
    ulpExponent n 1 = (n.log2 : Int) - 52 := by
  have one : (Nat.log2 1 : Int) = 0 := rfl
  have notBelow : ¬ n <<< (-((n.log2 : Int) - (Nat.log2 1 : Int))).toNat <
      1 <<< ((n.log2 : Int) - (Nat.log2 1 : Int)).toNat := by
    rw [one, show (-((n.log2 : Int) - 0)).toNat = 0 by omega,
      show ((n.log2 : Int) - 0).toNat = n.log2 by omega, Nat.shiftLeft_zero, Nat.one_shiftLeft]
    exact Nat.not_lt.mpr (Nat.log2_self_le some)
  unfold ulpExponent
  dsimp only
  rw [if_neg notBelow, one]
  omega

/-- The mantissa of a whole number, rounded to 53 bits. -/
def wholeMantissa (n : Nat) : Nat :=
  divNearest (n <<< (52 - n.log2)) (1 <<< (n.log2 - 52))

theorem bitsOfRatio_one_eq {n : Nat} (some : n ≠ 0) :
    bitsOfRatio n 1 = min ((n.log2 + 1022) * 2 ^ 52 + wholeMantissa n) (2047 * 2 ^ 52) := by
  have unit : Word.pow2 52 = 2 ^ 52 := rfl
  unfold bitsOfRatio wholeMantissa
  rw [if_neg (by simpa using some), ulpExponent_one some]
  dsimp only
  rw [unit, show (-((n.log2 : Int) - 52)).toNat = 52 - n.log2 by omega,
    show ((n.log2 : Int) - 52).toNat = n.log2 - 52 by omega,
    show ((n.log2 : Int) - 52 + 1074).toNat = n.log2 + 1022 by omega]

theorem le_wholeMantissa {n : Nat} (some : n ≠ 0) : 2 ^ 52 ≤ wholeMantissa n := by
  refine Nat.le_trans ?_ (div_le_divNearest _ _)
  rw [Nat.shiftLeft_eq, Nat.one_shiftLeft, Nat.le_div_iff_mul_le (Nat.two_pow_pos _), ← Nat.pow_add]
  refine Nat.le_trans ?_ (Nat.mul_le_mul_right _ (Nat.log2_self_le some))
  rw [← Nat.pow_add]
  exact Nat.pow_le_pow_right (by decide) (by omega)

/-- The bits of a whole number lie between those of one and those of infinity. -/
theorem bitsOfRatio_one {n : Nat} (some : n ≠ 0) :
    1023 * 2 ^ 52 ≤ bitsOfRatio n 1 ∧ bitsOfRatio n 1 ≤ 2047 * 2 ^ 52 := by
  have mantissa := le_wholeMantissa some
  rw [bitsOfRatio_one_eq some]
  omega

/-- The sign of a number that may be negative. -/
def signOf (negative : Bool) : Sign :=
  if negative then .negative else .positive

/-- A double of that sign that is infinite, or normal with an exponent in the range of exponents
that is not less than `low`. -/
inductive Large (s : Sign) (low : Int) : UnpackedFloat → Prop where
  | infinity : Large s low (.infinity s)
  | normal {e : Int} {x : UnpackedFloat} : low ≤ e → e ≤ 971 → Normal s e x → Large s low x

/-- What the bits of a normal double stand for. -/
theorem unpack_bits {bits : Nat} (low : 2 ^ 52 ≤ bits) (high : bits < 2047 * 2 ^ 52)
    (negative : Bool) :
    ∃ positive, UnpackedFloat.unpack .binary64
      (BitVec.ofNat 64 (if negative then 2 ^ 63 + bits else bits)) =
        .finite (signOf negative) (2 ^ 52 + bits % 2 ^ 52) ((bits / 2 ^ 52 : Nat) - 1075)
          positive := by
  generalize word : BitVec.ofNat 64 (if negative then 2 ^ 63 + bits else bits) = b
  have value : b.toNat = if negative then 2 ^ 63 + bits else bits := by
    rw [← word, BitVec.toNat_ofNat]
    apply Nat.mod_eq_of_lt
    split
    · omega
    · omega
  have exponent : (@unpackExponent .binary64 b).toNat = bits / 2 ^ 52 := by
    change (b.extractLsb 62 52).toNat = _
    rw [BitVec.extractLsb_toNat, value, Nat.shiftRight_eq_div_pow]
    change _ / 2 ^ 52 % 2 ^ 11 = bits / 2 ^ 52
    split
    · omega
    · omega
  have mantissa : (@unpackMantissa .binary64 b).toNat = bits % 2 ^ 52 := by
    change (b.extractLsb 51 0).toNat = _
    rw [BitVec.extractLsb_toNat, value, Nat.shiftRight_zero]
    change _ % 2 ^ 52 = bits % 2 ^ 52
    split
    · omega
    · rfl
  have sign : Sign.ofBitVec (@unpackSign .binary64 b) = signOf negative := by
    have bit : (@unpackSign .binary64 b).toNat = if negative then 1 else 0 := by
      change (b.extractLsb 63 63).toNat = _
      rw [BitVec.extractLsb_toNat, value, Nat.shiftRight_eq_div_pow]
      change _ / 2 ^ 63 % 2 ^ 1 = _
      split
      · omega
      · omega
    cases negative with
    | false => rw [show @unpackSign .binary64 b = 0#1 from BitVec.eq_of_toNat_eq bit]; rfl
    | true => rw [show @unpackSign .binary64 b = 1#1 from BitVec.eq_of_toNat_eq bit]; rfl
  obtain ⟨positive, unpacked⟩ := unpack_of_field exponent (by omega) (by omega)
  rw [unpacked]
  exact ⟨Nat.add_pos_left (by decide) _, finite_congr sign (by rw [mantissa]) rfl⟩

theorem unpack_large {bits : Nat} (low : 1023 * 2 ^ 52 ≤ bits) (high : bits ≤ 2047 * 2 ^ 52)
    (negative : Bool) :
    Large (signOf negative) (-52) (UnpackedFloat.unpack .binary64
      (BitVec.ofNat 64 (if negative then 2 ^ 63 + bits else bits))) := by
  -- The greatest number is infinity, the only one of them with a full exponent field.
  obtain rfl | finite := Nat.eq_or_lt_of_le high
  · cases negative with
    | false => exact .infinity
    | true => exact .infinity
  obtain ⟨positive, unpacked⟩ := unpack_bits (by omega) finite negative
  rw [unpacked]
  exact .normal (by omega) (by omega) (.mk positive (by omega) (by omega))

theorem Large.unpack_pack {s : Sign} {low : Int} {x : UnpackedFloat} (large : Large s low x)
    (range : -1074 ≤ low) :
    UnpackedFloat.unpack .binary64 (UnpackedFloat.pack .binary64 x) = x := by
  cases large with
  | infinity =>
      cases s with
      | positive => rfl
      | negative => rfl
  | normal low high normal => exact normal.unpack_pack (Int.le_trans range low) high

/-- A whole number other than zero is a double of its sign. -/
theorem ofInt_large {n : Int} (some : n ≠ 0) :
    Large (signOf (n < 0)) (-52) (ofInt n).toModel.unpack := by
  obtain ⟨low, high⟩ := bitsOfRatio_one (Int.natAbs_ne_zero.mpr some)
  have large := unpack_large low high (n < 0)
  rw [← large.unpack_pack (by decide)] at large
  exact large

/-! ### Comparing with zero -/

theorem unpack_div (x y : Float) :
    (x / y).toModel.unpack = UnpackedFloat.unpack .binary64 (UnpackedFloat.pack .binary64
      (UnpackedFloat.div .binary64 x.toModel.unpack y.toModel.unpack)) := rfl

theorem pos_iff_lt (x : Float) :
    0.0 < x ↔ UnpackedFloat.lt (.zero .positive) x.toModel.unpack = true := by
  have zero : (0.0 : Float).toModel.unpack = .zero .positive := rfl
  rw [← zero]
  exact decide_eq_true_iff

/-- Dividing by a number of an ordinary size keeps the sign. -/
theorem Large.div {s : Sign} {low e : Int} {x y : Float} (dividend : Large s low x.toModel.unpack)
    (divisor : Normal .positive e y.toModel.unpack) (least : -1021 ≤ low - e) (size : -51 ≤ e) :
    Large s (low - e - 53) (x / y).toModel.unpack := by
  have keeps : s / Sign.positive = s := by
    cases s with
    | positive => rfl
    | negative => rfl
  have quotient : Large s (low - e - 53)
      (UnpackedFloat.div .binary64 x.toModel.unpack y.toModel.unpack) := by
    generalize x.toModel.unpack = a at dividend
    cases dividend with
    | infinity =>
        generalize y.toModel.unpack = b at divisor
        cases divisor
        change Large s _ (.infinity (s / Sign.positive))
        rw [keeps]
        exact .infinity
    | normal above below normal =>
        obtain ⟨e', above', below', normal'⟩ := div_normal normal divisor (by omega)
        exact .normal (by omega) (by omega) (keeps ▸ normal')
  rw [unpack_div, quotient.unpack_pack (by omega)]
  exact quotient

theorem Large.pos_iff {s : Sign} {low : Int} {x : Float} (large : Large s low x.toModel.unpack) :
    0.0 < x ↔ s = .positive := by
  rw [pos_iff_lt]
  generalize x.toModel.unpack = a at large
  cases large with
  | infinity =>
      cases s with
      | positive => exact iff_of_true rfl rfl
      | negative => exact iff_of_false nofun nofun
  | normal _ _ normal =>
      cases normal
      cases s with
      | positive => exact iff_of_true rfl rfl
      | negative => exact iff_of_false nofun nofun

/-- A whole number of some unit is above zero exactly if the number is. -/
theorem ofInt_div_pos_iff (n : Int) {e : Int} {unit : Float}
    (normal : Normal .positive e unit.toModel.unpack) (least : -51 ≤ e) (most : e ≤ 0) :
    0.0 < ofInt n / unit ↔ 0 < n := by
  obtain rfl | some := eq_or_ne n 0
  · have zero : (ofInt 0).toModel.unpack = .zero .positive := rfl
    rw [pos_iff_lt, unpack_div, zero]
    generalize unit.toModel.unpack = a at normal
    cases normal
    have notAbove : ¬ UnpackedFloat.lt (.zero .positive)
        (UnpackedFloat.unpack .binary64 (UnpackedFloat.pack .binary64 (.zero .positive))) = true := by
      decide
    exact iff_of_false notAbove (Int.lt_irrefl 0)
  · rw [((ofInt_large some).div normal (by omega) least).pos_iff, signOf]
    split
    · next negative => simpa using Int.le_of_lt (of_decide_eq_true negative)
    · next positive =>
        have : 0 ≤ n := by simpa using positive
        simp
        omega

end Hostwatch.Binary64

namespace Hostwatch.Span

open Binary64

/-- What is counted of a span for its seconds: its whole microseconds if a word can count them, else
its whole milliseconds. -/
def counted (s : Span) : Int :=
  let micros := s.nanos.tdiv 1000
  if -wordMax - 1 ≤ micros && micros ≤ wordMax then micros else s.millis

/-- The seconds of a span are above zero exactly if there is something to count. -/
theorem toSeconds_pos_iff (s : Span) : 0.0 < s.toSeconds ↔ 0 < s.counted := by
  have million : Normal .positive (-33) (1000000.0 : Float).toModel.unpack :=
    .mk (m := 1000000 * 2 ^ 33) (by decide) (by decide) (by decide)
  have thousand : Normal .positive (-43) (1000.0 : Float).toModel.unpack :=
    .mk (m := 1000 * 2 ^ 43) (by decide) (by decide) (by decide)
  unfold toSeconds counted
  dsimp only
  split
  · exact ofInt_div_pos_iff _ million (by decide) (by decide)
  · exact ofInt_div_pos_iff _ thousand (by decide) (by decide)

end Hostwatch.Span
