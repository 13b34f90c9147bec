import Mathlib
import MessageTemplate.Proofs.Decimal.Arithmetic

/-! # Rounding keeps the order

Of two numbers, the greater one is rounded to no less (`IsRounding.mono`), so doubles of whole
numbers and quotients by the same divisor stay in order, however many roundings they take. The
integer part of a double is no less than a whole number below it. -/

namespace MessageTemplate.Decimal

/-- A greater number is rounded to no less, also where its last digit has another place. -/
theorem RoundsTo.mono {lesser greater : ℚ} {left right : ℕ} {leftExponent rightExponent : ℤ}
    (ordered : lesser ≤ greater) (leftRounds : RoundsTo lesser left leftExponent)
    (rightRounds : RoundsTo greater right rightExponent) :
    (left : ℚ) * 2 ^ leftExponent ≤ right * 2 ^ rightExponent := by
  have leftLeast := leftRounds.least
  have rightLeast := rightRounds.least
  have leftPositive : (0 : ℚ) < 2 ^ leftExponent := by positivity
  rcases lt_trichotomy leftExponent rightExponent with less | rfl | beyond
  · -- The lesser mantissa has 53 digits at most, the greater one 53 digits of a greater place.
    have most : (left : ℚ) ≤ (2 ^ 53 : ℕ) := Nat.cast_le.mpr leftRounds.mantissa_le
    exact (mul_le_mul_of_nonneg_right most leftPositive.le).trans
      (pow_mul_le (rightRounds.le_mantissa.resolve_left (by omega)) less)
  · have scaled : lesser / 2 ^ leftExponent ≤ greater / 2 ^ leftExponent :=
      div_le_div_of_nonneg_right ordered leftPositive.le
    have mantissas := IsNearestEven.mono scaled leftRounds.nearest rightRounds.nearest
    exact mul_le_mul_of_nonneg_right (Nat.cast_le.mpr mantissas) leftPositive.le
  · -- The place of the last digit does not fall where numbers grow.
    have wide := leftRounds.wide.resolve_left (by omega)
    have power := (wide.trans ordered).trans_lt rightRounds.fits
    have exponents := (zpow_lt_zpow_iff_right₀ (by norm_num)).mp power
    omega

/-- A greater number is rounded to no less. -/
theorem IsRounding.mono {lesser greater left right : ℚ} (notNegative : 0 ≤ lesser)
    (ordered : lesser ≤ greater) (leftRounding : IsRounding lesser left)
    (rightRounding : IsRounding greater right) : left ≤ right := by
  obtain ⟨leftMantissa, leftExponent, leftRounds, rfl⟩ := leftRounding
  obtain ⟨rightMantissa, rightExponent, rightRounds, rfl⟩ := rightRounding
  rcases eq_or_lt_of_le notNegative with rfl | positive
  · rw [sign_zero, SignType.coe_zero, zero_mul]
    rcases eq_or_lt_of_le ordered with rfl | greaterPositive
    · rw [sign_zero, SignType.coe_zero, zero_mul]
    · rw [sign_pos greaterPositive, SignType.coe_one, one_mul]
      positivity
  · have greaterPositive := positive.trans_le ordered
    rw [abs_of_pos positive] at leftRounds
    rw [abs_of_pos greaterPositive] at rightRounds
    rw [sign_pos positive, sign_pos greaterPositive, SignType.coe_one, one_mul, one_mul]
    exact RoundsTo.mono ordered leftRounds rightRounds

/-- The integer part of a double is no less than a whole number that is not above the double. -/
theorem exists_truncate? {double : Float} {number : ℚ} (isValue : value? double = some number)
    {whole : ℕ} (positive : 0 < whole) (atMost : (whole : ℚ) ≤ number) :
    ∃ integer, truncate? double = some integer ∧ (whole : ℤ) ≤ integer := by
  obtain ⟨negative, significand, exponent, isExact, rfl⟩ := exists_exact isValue
  have notNegative : negative = false := by
    rw [Bool.eq_false_iff]
    intro isNegative
    have below : (0 : ℚ) < signed negative significand * 2 ^ exponent :=
      (Nat.cast_pos.mpr positive).trans_le atMost
    rw [isNegative, signed, if_pos rfl] at below
    have magnitude : (0 : ℚ) ≤ significand * 2 ^ exponent := by positivity
    push_cast at below
    linarith
  have quotient : whole ≤ numerator significand exponent / denominator exponent := by
    have positiveRat : (0 : ℚ) < denominator exponent := Nat.cast_pos.mpr (denominator_pos exponent)
    rw [notNegative, signed, if_neg (by decide), Int.cast_natCast, ← numerator_div_denominator,
      le_div_iff₀ positiveRat] at atMost
    exact (Nat.le_div_iff_mul_le (denominator_pos exponent)).mpr (by exact_mod_cast atMost)
  refine ⟨(numerator significand exponent / denominator exponent : ℕ), ?_,
    Int.ofNat_le.mpr quotient⟩
  simp only [truncate?, isExact, notNegative, signed, if_neg Bool.false_ne_true]

end MessageTemplate.Decimal
