import Mathlib
import MessageTemplate.Proofs.Decimal.Nearest

/-! # Rounding to a double

What arithmetic on doubles gives is the exact result, rounded to a multiple of a power of two that
leaves at most 53 binary digits: `exists_roundWithAccuracy`. Between the exact result and the
rounded one there are a mantissa, a round bit and a sticky bit, which stand for a fraction
(`StandsFor`) and lose nothing that rounding asks for when they are shifted. -/

namespace MessageTemplate.Decimal

open Float.Model Float.Model.UnpackedFloat

/-! ## Mantissas with a round bit and a sticky bit -/

/-- Whether a mantissa stands for a fraction: it is the integer part, the round bit tells whether
at least a half is left over, and the sticky bit whether something other than a half is. -/
structure StandsFor (extended : ExtendedMantissa) (numerator denominator : ℕ) : Prop where
  integer : extended.mantissa = numerator / denominator
  round : extended.roundBit = decide (denominator ≤ 2 * (numerator % denominator))
  sticky : extended.stickyBit =
    decide (2 * (numerator % denominator) ≠ 0 ∧ 2 * (numerator % denominator) ≠ denominator)

/-- An exact mantissa stands for itself. -/
theorem standsFor_exact (mantissa : ℕ) :
    StandsFor (.ofMantissaAndAccuracy mantissa .exact) mantissa 1 where
  integer := (Nat.div_one mantissa).symm
  round := by simp [ExtendedMantissa.ofMantissaAndAccuracy, Nat.mod_one]
  sticky := by simp [ExtendedMantissa.ofMantissaAndAccuracy, Nat.mod_one]

/-- The quotient of a division with the accuracy of its remainder stands for the fraction. -/
theorem standsFor_ofFraction (numerator : ℕ) {denominator : ℕ} (positive : 0 < denominator) :
    StandsFor (.ofMantissaAndAccuracy (numerator / denominator)
      (accuracyOfFraction (numerator % denominator) denominator)) numerator denominator := by
  rw [accuracyOfFraction]
  by_cases isZero : numerator % denominator = 0
  · rw [if_pos isZero]
    constructor
    · rfl
    · rw [isZero]
      exact (decide_eq_false (by omega)).symm
    · rw [isZero]
      exact (decide_eq_false (by omega)).symm
  · rw [if_neg isZero]
    rcases Nat.lt_trichotomy (2 * (numerator % denominator)) denominator with less | isHalf | more
    · rw [compare_lt_iff_lt.mpr less]
      exact ⟨rfl, (decide_eq_false (by omega)).symm, (decide_eq_true (by omega)).symm⟩
    · rw [compare_eq_iff_eq.mpr isHalf]
      exact ⟨rfl, (decide_eq_true (by omega)).symm, (decide_eq_false (by omega)).symm⟩
    · rw [compare_gt_iff_gt.mpr more]
      exact ⟨rfl, (decide_eq_true (by omega)).symm, (decide_eq_true (by omega)).symm⟩

namespace StandsFor

variable {extended : ExtendedMantissa} {numerator denominator : ℕ}
  (standsFor : StandsFor extended numerator denominator) (positive : 0 < denominator)

include standsFor positive

/-- A shift by one binary digit halves what a mantissa stands for. -/
theorem shiftRightOne : StandsFor extended.shiftRightOne numerator (denominator * 2) := by
  obtain ⟨integer, round, sticky⟩ := standsFor
  -- The last digit of the mantissa is what joins the part left over.
  have left : numerator % (denominator * 2) =
      numerator % denominator + denominator * (numerator / denominator % 2) :=
    Nat.mod_mul
  have less := Nat.mod_lt numerator positive
  constructor
  · exact (congrArg (· / 2) integer).trans (Nat.div_div_eq_div_mul numerator denominator 2)
  · simp only [ExtendedMantissa.shiftRightOne, integer, left]
    rcases Nat.mod_two_eq_zero_or_one (numerator / denominator) with isEven | isOdd
    · rw [isEven]
      exact (decide_eq_false (by omega)).symm
    · rw [isOdd]
      exact (decide_eq_true (by omega)).symm
  · simp only [ExtendedMantissa.shiftRightOne, round, sticky, left, ← Bool.decide_or]
    apply decide_eq_decide.mpr
    rcases Nat.mod_two_eq_zero_or_one (numerator / denominator) with isEven | isOdd
    · rw [isEven]
      omega
    · rw [isOdd]
      omega

/-- A shift divides what a mantissa stands for by a power of two. -/
theorem shiftRight (count : ℕ) :
    StandsFor (extended >>> count) numerator (denominator * 2 ^ count) := by
  induction count with
  | zero =>
      rw [Nat.pow_zero, Nat.mul_one]
      exact standsFor
  | succ count inductionHypothesis =>
      rw [Nat.pow_succ, ← Nat.mul_assoc]
      exact inductionHypothesis.shiftRightOne (Nat.mul_pos positive (Nat.two_pow_pos count))

/-- The bits are enough to round the fraction. -/
theorem roundedMantissa : extended.roundedMantissa = roundHalfEven numerator denominator := by
  obtain ⟨mantissa, roundBit, stickyBit⟩ := extended
  obtain ⟨rfl, rfl, rfl⟩ := standsFor
  have less := Nat.mod_lt numerator positive
  rw [roundHalfEven, ExtendedMantissa.roundedMantissa]
  rcases Nat.lt_trichotomy (2 * (numerator % denominator)) denominator with below | isHalf | above
  · rw [if_pos below]
    have notRound : ¬denominator ≤ 2 * (numerator % denominator) := by omega
    rw [decide_eq_false notRound]
    cases decide (2 * (numerator % denominator) ≠ 0 ∧ 2 * (numerator % denominator) ≠ denominator)
    · rfl
    · rfl
  · have isRound : denominator ≤ 2 * (numerator % denominator) := by omega
    have notSticky : ¬(2 * (numerator % denominator) ≠ 0 ∧
        2 * (numerator % denominator) ≠ denominator) := by omega
    rw [if_neg (by omega), if_neg (by omega), decide_eq_true isRound, decide_eq_false notSticky]
    rfl
  · have isRound : denominator ≤ 2 * (numerator % denominator) := by omega
    have isSticky : 2 * (numerator % denominator) ≠ 0 ∧
        2 * (numerator % denominator) ≠ denominator := by omega
    rw [if_neg (by omega), if_pos above, decide_eq_true isRound, decide_eq_true isSticky]
    rfl

end StandsFor

/-! ## Exponents -/

/-- The exponent that a number is rounded at leaves 53 binary digits, or it is the least one. -/
theorem targetExponent_totalExponent (mantissa : ℕ) (exponent : ℤ) :
    Format.binary64.targetExponent (totalExponent mantissa exponent) =
      max (mantissa.log2 - 52 + exponent) (-1074) := by
  have minExponent : Format.binary64.minExponent = -1074 := by decide
  have mantissaBits : Format.binary64.mantissaBits = 53 := by decide
  rw [Format.targetExponent, totalExponent, minExponent, mantissaBits]
  congr 1
  omega

/-- A mantissa of more than one binary digit is not zero. -/
theorem ne_zero_of_log2 {mantissa : ℕ} (wide : 0 < mantissa.log2) : mantissa ≠ 0 := by
  rintro rfl
  exact absurd wide (by decide)

/-- A mantissa is shifted to the exponent that leaves it 53 binary digits at most. -/
theorem shiftToTargetExponent_eq (mantissa : ℕ) (exponent : ℤ) (accuracy : Accuracy) {places : ℕ}
    (target : max (mantissa.log2 - 52 + exponent) (-1074) = exponent + places) :
    shiftToTargetExponent Format.binary64 mantissa exponent accuracy =
      (ExtendedMantissa.ofMantissaAndAccuracy mantissa accuracy >>> places,
        exponent + places) := by
  have amount : (exponent + places - exponent).toNat = places := by omega
  rw [shiftToTargetExponent, targetExponent_totalExponent, target, shiftToExponent, amount]

/-- A mantissa that already fits stays as it is. -/
theorem shiftToTargetExponent_of_lt {mantissa : ℕ} {exponent : ℤ} (small : mantissa < 2 ^ 53)
    (least : -1074 ≤ exponent) :
    shiftToTargetExponent Format.binary64 mantissa exponent .exact =
      (⟨mantissa, false, false⟩, exponent) := by
  have few : mantissa.log2 ≤ 52 := by
    by_cases isZero : mantissa = 0
    · rw [isZero, Nat.log2_zero]
      omega
    · exact Nat.le_of_lt_succ ((Nat.log2_lt isZero).mpr small)
  have target : max (mantissa.log2 - 52 + exponent) (-1074) ≤ exponent := by omega
  have amount : (max (mantissa.log2 - 52 + exponent) (-1074) - exponent).toNat = 0 := by omega
  rw [shiftToTargetExponent, targetExponent_totalExponent, shiftToExponent, amount]
  simp only [Int.natCast_zero, Int.add_zero]
  rfl

/-- A mantissa of 53 binary digits is no less than any one of a lesser place. -/
theorem pow_mul_le {mantissa : ℕ} {lesser greater : ℤ} (wide : 2 ^ 52 ≤ mantissa)
    (less : lesser < greater) :
    ((2 ^ 53 : ℕ) : ℚ) * 2 ^ lesser ≤ mantissa * 2 ^ greater := by
  have wideRat : ((2 ^ 52 : ℕ) : ℚ) ≤ mantissa := Nat.cast_le.mpr wide
  calc ((2 ^ 53 : ℕ) : ℚ) * 2 ^ lesser = (2 ^ 52 : ℕ) * 2 ^ (lesser + 1) := by
        rw [zpow_add_one₀ (by norm_num)]
        push_cast
        ring
    _ ≤ mantissa * 2 ^ greater :=
        mul_le_mul wideRat (zpow_le_zpow_right₀ (by norm_num) less) (by positivity) (by positivity)

/-! ## The rounded result -/

/-- Whether a positive number is rounded to a multiple of a power of two: the power leaves 53 binary
digits, or it is the least one. -/
structure RoundsTo (number : ℚ) (mantissa : ℕ) (exponent : ℤ) : Prop where
  nearest : IsNearestEven (number / 2 ^ exponent) mantissa
  least : -1074 ≤ exponent
  wide : exponent = -1074 ∨ (2 : ℚ) ^ (exponent + 52) ≤ number
  fits : number < (2 : ℚ) ^ (exponent + 53)

/-- The double with a mantissa of at most 53 binary digits, or of one more if it is a power. -/
def rounded (sign : Sign) (mantissa : ℕ) (exponent : ℤ) : UnpackedFloat :=
  if positive : 0 < mantissa then
    if mantissa < 2 ^ 53 then .finite sign mantissa exponent positive
    else .finite sign (2 ^ 52) (exponent + 1) (Nat.two_pow_pos 52)
  else .zero sign

namespace RoundsTo

variable {number : ℚ} {mantissa : ℕ} {exponent : ℤ} (roundsTo : RoundsTo number mantissa exponent)

include roundsTo

/-- A rounded mantissa has at most 53 binary digits, or it is the power of two behind them. -/
theorem mantissa_le : mantissa ≤ 2 ^ 53 := by
  have positive : (0 : ℚ) < 2 ^ exponent := zpow_pos (by norm_num) exponent
  apply roundsTo.nearest.le_of_lt
  have below : number / 2 ^ exponent < 2 ^ (53 : ℤ) := by
    rw [div_lt_iff₀ positive, ← zpow_add₀ (by norm_num), Int.add_comm]
    exact roundsTo.fits
  norm_num at below ⊢
  linarith

/-- A rounded mantissa has all 53 binary digits unless the exponent is the least one. -/
theorem le_mantissa : exponent = -1074 ∨ 2 ^ 52 ≤ mantissa := by
  refine roundsTo.wide.imp_right fun wide => roundsTo.nearest.ge_of_gt ?_
  have positive : (0 : ℚ) < 2 ^ exponent := zpow_pos (by norm_num) exponent
  have above : (2 : ℚ) ^ (52 : ℤ) ≤ number / 2 ^ exponent := by
    rw [le_div_iff₀ positive, ← zpow_add₀ (by norm_num), Int.add_comm]
    exact wide
  norm_num at above ⊢
  linarith

/-- The rounded number is off by half of the last digit at most. -/
theorem abs_sub_le : |mantissa * (2 : ℚ) ^ exponent - number| ≤ 2 ^ exponent / 2 := by
  have positive : (0 : ℚ) < 2 ^ exponent := zpow_pos (by norm_num) exponent
  have difference : mantissa * (2 : ℚ) ^ exponent - number =
      -((number / 2 ^ exponent - mantissa) * 2 ^ exponent) := by
    field_simp
    ring
  rw [difference, abs_neg, abs_mul, abs_of_pos positive, div_eq_mul_one_div (2 ^ exponent) (2 : ℚ),
    mul_comm (2 ^ exponent) (1 / 2 : ℚ)]
  exact mul_le_mul_of_nonneg_right roundsTo.nearest.near positive.le

/-- Relative to a number that is not far below the least one of 53 binary digits, rounding is off by
little. -/
theorem abs_sub_le_mul (large : (2 : ℚ) ^ (-1024 : ℤ) ≤ number) :
    |mantissa * (2 : ℚ) ^ exponent - number| ≤ 2 ^ (-51 : ℤ) * number := by
  refine roundsTo.abs_sub_le.trans ?_
  have half : (2 : ℚ) ^ exponent / 2 = 2 ^ (exponent - 1) := by
    rw [zpow_sub₀ (by norm_num), zpow_one]
  rw [half]
  rcases roundsTo.wide with isLeast | wide
  · calc (2 : ℚ) ^ (exponent - 1) = 2 ^ (-51 : ℤ) * 2 ^ (-1024 : ℤ) := by
          rw [isLeast, ← zpow_add₀ (by norm_num)]
          norm_num
      _ ≤ 2 ^ (-51 : ℤ) * number := mul_le_mul_of_nonneg_left large (by positivity)
  · calc (2 : ℚ) ^ (exponent - 1) ≤ 2 ^ (-51 : ℤ) * 2 ^ (exponent + 52) := by
          rw [← zpow_add₀ (by norm_num)]
          exact zpow_le_zpow_right₀ (by norm_num) (by omega)
      _ ≤ 2 ^ (-51 : ℤ) * number := mul_le_mul_of_nonneg_left wide (by positivity)

/-- Whole numbers of 53 binary digits are not rounded at all. -/
theorem eq_of_natCast {whole : ℕ} (isWhole : number = whole) (small : whole ≤ 2 ^ 53) :
    mantissa * (2 : ℚ) ^ exponent = number := by
  have positive : (0 : ℚ) < 2 ^ exponent := zpow_pos (by norm_num) exponent
  -- A multiple of the last digit is its own nearest multiple.
  obtain ⟨multiple, isMultiple⟩ : ∃ multiple : ℕ, number / 2 ^ exponent = multiple := by
    rcases le_or_gt exponent 0 with notPositive | above
    · obtain ⟨places, rfl⟩ := Int.exists_eq_neg_ofNat notPositive
      refine ⟨whole * 2 ^ places, ?_⟩
      rw [isWhole, zpow_neg, div_inv_eq_mul, zpow_natCast]
      push_cast
      rfl
    · have wide : (2 : ℚ) ^ (exponent + 52) ≤ whole :=
        isWhole ▸ roundsTo.wide.resolve_left (by omega)
      have bounded : (whole : ℚ) ≤ 2 ^ (53 : ℤ) := by exact_mod_cast small
      have exponentLe : exponent + 52 ≤ 53 :=
        (zpow_le_zpow_iff_right₀ (by norm_num)).mp (wide.trans bounded)
      have isOne : exponent = 1 := by omega
      rw [isOne] at wide
      have isPower : (whole : ℚ) = 2 ^ (53 : ℤ) := le_antisymm bounded wide
      refine ⟨2 ^ 52, ?_⟩
      rw [isWhole, isPower, isOne]
      norm_num
  have nearest := roundsTo.nearest
  rw [isMultiple] at nearest
  rw [nearest.unique (.natCast multiple), ← isMultiple, div_mul_cancel₀ _ positive.ne']

end RoundsTo

/-- The accuracy that goes with a mantissa does not change it. -/
theorem mantissa_ofMantissaAndAccuracy (mantissa : ℕ) (accuracy : Accuracy) :
    (ExtendedMantissa.ofMantissaAndAccuracy mantissa accuracy).mantissa = mantissa := by
  rcases accuracy with _ | ordering
  · rfl
  · cases ordering <;> rfl

/-- A second rounding changes nothing but the place of the last digit. -/
theorem second_rounding {sign : Sign} {mantissa : ℕ} {exponent : ℤ} (small : mantissa ≤ 2 ^ 53)
    (least : -1074 ≤ exponent) :
    (match shiftToTargetExponent Format.binary64 mantissa exponent .exact with
      | (final, finalExponent) =>
          if h : final.mantissa = 0 then UnpackedFloat.zero sign
          else .finite sign final.mantissa finalExponent (Nat.pos_of_ne_zero h)) =
      rounded sign mantissa exponent := by
  rcases Nat.lt_or_eq_of_le small with below | isPower
  · rw [shiftToTargetExponent_of_lt below least, rounded]
    by_cases isZero : mantissa = 0
    · simp only [isZero]
      rfl
    · simp only [dif_neg isZero, dif_pos (Nat.pos_of_ne_zero isZero), if_pos below]
  · have target : max (((2 : ℕ) ^ 53).log2 - 52 + exponent) (-1074) = exponent + (1 : ℕ) := by
      rw [Nat.log2_two_pow]
      omega
    rw [isPower, shiftToTargetExponent_eq _ _ _ target, rounded]
    rfl

section Fraction

variable {numerator denominator : ℕ} (positive : 0 < denominator)

include positive

/-- The binary digits of its integer part bound a fraction. -/
theorem pow_log2_le (notZero : numerator / denominator ≠ 0) :
    (2 : ℚ) ^ (numerator / denominator).log2 ≤ numerator / denominator := by
  rw [le_div_iff₀ (Nat.cast_pos.mpr positive)]
  exact_mod_cast (Nat.le_div_iff_mul_le positive).mp (Nat.log2_self_le notZero)

/-- A fraction lies below the power of two behind the binary digits of its quotient. -/
theorem lt_pow_log2 :
    (numerator : ℚ) / denominator < 2 ^ ((numerator / denominator).log2 + 1) := by
  rw [div_lt_iff₀ (Nat.cast_pos.mpr positive)]
  exact_mod_cast (Nat.div_lt_iff_lt_mul positive).mp Nat.lt_log2_self

end Fraction

/-- What stands for a fraction is rounded to a double. -/
theorem exists_roundWithAccuracy {mantissa numerator denominator : ℕ} {exponent : ℤ}
    {accuracy : Accuracy} (positive : 0 < denominator)
    (standsFor : StandsFor (.ofMantissaAndAccuracy mantissa accuracy) numerator denominator)
    (fine : 52 ≤ mantissa.log2 ∨ exponent ≤ -1074) (sign : Sign) :
    ∃ roundedMantissa roundedExponent,
      RoundsTo ((numerator : ℚ) / denominator * 2 ^ exponent) roundedMantissa roundedExponent ∧
      roundWithAccuracy Format.binary64 sign mantissa exponent accuracy =
        rounded sign roundedMantissa roundedExponent := by
  -- Since the mantissa is fine enough, the target exponent is met by a shift to the right.
  obtain ⟨places, target⟩ : ∃ places : ℕ,
      max (mantissa.log2 - 52 + exponent) (-1074) = exponent + places :=
    ⟨(max (mantissa.log2 - 52 + exponent) (-1074) - exponent).toNat, by omega⟩
  have isInteger : mantissa = numerator / denominator := by
    rw [← standsFor.integer, mantissa_ofMantissaAndAccuracy]
  have positiveRat : (0 : ℚ) < denominator := Nat.cast_pos.mpr positive
  have positivePower (exponent : ℤ) : (0 : ℚ) < 2 ^ exponent := zpow_pos (by norm_num) exponent
  have roundsTo : RoundsTo ((numerator : ℚ) / denominator * 2 ^ exponent)
      (roundHalfEven numerator (denominator * 2 ^ places)) (exponent + places) := by
    constructor
    · have shifted : (numerator : ℚ) / denominator * 2 ^ exponent / 2 ^ (exponent + places) =
          numerator / (denominator * 2 ^ places : ℕ) := by
        rw [zpow_add₀ (by norm_num), zpow_natCast]
        push_cast
        field_simp
      rw [shifted]
      exact isNearestEven_roundHalfEven (Nat.mul_pos positive (Nat.two_pow_pos places)) numerator
    · omega
    · have atLeast : -1074 ≤ exponent + places := by omega
      rcases eq_or_lt_of_le atLeast with isLeast | above
      · exact .inl isLeast.symm
      · have notZero : mantissa ≠ 0 := ne_zero_of_log2 (by omega)
        have digits : exponent + places + 52 = mantissa.log2 + exponent := by omega
        rw [digits, zpow_add₀ (by norm_num), zpow_natCast]
        exact .inr (mul_le_mul_of_nonneg_right
          (isInteger ▸ pow_log2_le positive (isInteger ▸ notZero)) (positivePower exponent).le)
    · have digits : (mantissa.log2 : ℤ) + 1 + exponent ≤ exponent + places + 53 := by omega
      calc (numerator : ℚ) / denominator * 2 ^ exponent
          < 2 ^ (mantissa.log2 + 1) * 2 ^ exponent :=
            mul_lt_mul_of_pos_right (isInteger ▸ lt_pow_log2 positive) (positivePower exponent)
        _ = 2 ^ ((mantissa.log2 : ℤ) + 1 + exponent) := by
            rw [zpow_add₀ (by norm_num)]
            norm_cast
        _ ≤ 2 ^ (exponent + places + 53) := zpow_le_zpow_right₀ (by norm_num) digits
  refine ⟨_, _, roundsTo, ?_⟩
  -- A carry may have made the mantissa a digit longer, which the second rounding takes back.
  rw [roundWithAccuracy, shiftToTargetExponent_eq mantissa exponent accuracy target,
    ← second_rounding roundsTo.mantissa_le roundsTo.least]
  simp only [(standsFor.shiftRight positive places).roundedMantissa
    (Nat.mul_pos positive (Nat.two_pow_pos places))]

end MessageTemplate.Decimal
