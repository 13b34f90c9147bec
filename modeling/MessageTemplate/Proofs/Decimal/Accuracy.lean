import Mathlib
import MessageTemplate.Proofs.Decimal.Arithmetic

/-! # Accuracy of products and quotients

Every product and every quotient of doubles is off by one rounding, in proportion to its size, as
long as it is neither tiny nor huge (`exists_mul_within`, `exists_div_within`). Roundings are
counted, so that the error of a longer computation is a power of the error of one, which stays below
a millionth of a millionth for two thousand of them (`Within.abs_sub_le`). -/

namespace MessageTemplate.Decimal

/-- The greatest error of one rounding, in proportion to the size of the result. -/
def unitError : ℚ :=
  2 ^ (-51 : ℤ)

/-- The relative error of one rounding as a fraction. -/
theorem unitError_eq : unitError = 1 / 2251799813685248 := by
  norm_num [unitError]

/-- Whether a result is an exact number up to a count of roundings. -/
structure Within (count : ℕ) (result exact : ℚ) : Prop where
  lower : (1 - unitError) ^ count * exact ≤ result
  upper : result ≤ (1 + unitError) ^ count * exact

section Powers

variable (count : ℕ)

/-- No count of roundings brings a positive number down to zero. -/
theorem shrinking_pos : 0 < (1 - unitError) ^ count :=
  pow_pos (by norm_num [unitError_eq]) count

/-- The factor by which roundings enlarge a number is positive. -/
theorem growing_pos : 0 < (1 + unitError) ^ count :=
  pow_pos (by norm_num [unitError_eq]) count

/-- Growing by the error of a rounding does not make up for shrinking by it. -/
theorem growing_mul_shrinking_le : (1 + unitError) ^ count * (1 - unitError) ^ count ≤ 1 := by
  rw [← mul_pow]
  exact pow_le_one₀ (by norm_num [unitError_eq]) (by norm_num [unitError_eq])

/-- Growing twice does. -/
theorem one_le_growing_mul_shrinking :
    1 ≤ (1 + unitError) ^ (2 * count) * (1 - unitError) ^ count := by
  rw [pow_mul, ← mul_pow]
  exact one_le_pow₀ (by norm_num [unitError_eq])

variable {count : ℕ} (few : count ≤ 2000)

include few

/-- Two thousand roundings lose less than nine parts in ten to the power of 13. -/
theorem le_shrinking : 1 - 9 / 10 ^ 13 ≤ (1 - unitError) ^ count := by
  have bernoulli : 1 + (count : ℚ) * -unitError ≤ (1 + -unitError) ^ count :=
    one_add_mul_le_pow (by norm_num [unitError_eq]) count
  have bounded : (count : ℚ) ≤ 2000 := by exact_mod_cast few
  rw [← sub_eq_add_neg] at bernoulli
  rw [unitError_eq] at bernoulli ⊢
  linarith

/-- Two thousand roundings add less than one part in ten to the power of 12. -/
theorem growing_le : (1 + unitError) ^ count ≤ 1 + 1 / 10 ^ 12 := by
  have shrinking := le_shrinking few
  have product := growing_mul_shrinking_le count
  have positive := growing_pos count
  -- The product is at most one, and the other factor is hardly less.
  have grown : (1 + unitError) ^ count * (1 - 9 / 10 ^ 13) ≤ 1 :=
    (mul_le_mul_of_nonneg_left shrinking positive.le).trans product
  linarith

end Powers

namespace Within

variable {count leftCount rightCount : ℕ} {result exact left right leftExact rightExact : ℚ}

/-- Without a rounding a result is exact. -/
theorem refl (exact : ℚ) : Within 0 exact exact :=
  ⟨by rw [pow_zero, one_mul], by rw [pow_zero, one_mul]⟩

/-- More roundings allow for more. -/
theorem mono (within : Within count result exact) (notNegative : 0 ≤ exact) {most : ℕ}
    (le : count ≤ most) : Within most result exact := by
  constructor
  · refine le_trans (mul_le_mul_of_nonneg_right ?_ notNegative) within.lower
    exact pow_le_pow_of_le_one (by norm_num [unitError_eq]) (by norm_num [unitError_eq]) le
  · refine within.upper.trans (mul_le_mul_of_nonneg_right ?_ notNegative)
    exact pow_le_pow_right₀ (by norm_num [unitError_eq]) le

/-- A result that is rounded from a positive number is positive. -/
theorem pos (within : Within count result exact) (positive : 0 < exact) : 0 < result :=
  lt_of_lt_of_le (mul_pos (shrinking_pos count) positive) within.lower

/-- Up to two thousand roundings, little is lost. -/
theorem abs_sub_le (within : Within count result exact) (notNegative : 0 ≤ exact)
    (few : count ≤ 2000) : |result - exact| ≤ 1 / 10 ^ 12 * exact := by
  have lower := mul_le_mul_of_nonneg_right (le_shrinking few) notNegative
  have upper := mul_le_mul_of_nonneg_right (growing_le few) notNegative
  rw [abs_le]
  constructor
  · linarith [within.lower]
  · linarith [within.upper]

/-- Roundings one after the other add up. -/
theorem trans {middle : ℚ} (first : Within leftCount middle exact)
    (second : Within rightCount result middle) : Within (leftCount + rightCount) result exact := by
  constructor
  · calc (1 - unitError) ^ (leftCount + rightCount) * exact
        = (1 - unitError) ^ rightCount * ((1 - unitError) ^ leftCount * exact) := by ring
      _ ≤ (1 - unitError) ^ rightCount * middle :=
          mul_le_mul_of_nonneg_left first.lower (shrinking_pos rightCount).le
      _ ≤ result := second.lower
  · calc result ≤ (1 + unitError) ^ rightCount * middle := second.upper
      _ ≤ (1 + unitError) ^ rightCount * ((1 + unitError) ^ leftCount * exact) :=
          mul_le_mul_of_nonneg_left first.upper (growing_pos rightCount).le
      _ = (1 + unitError) ^ (leftCount + rightCount) * exact := by ring

variable (leftWithin : Within leftCount left leftExact)
  (rightWithin : Within rightCount right rightExact)

include leftWithin rightWithin

/-- The roundings of two factors add up in their product. -/
theorem mul (leftPositive : 0 < leftExact) (rightPositive : 0 < rightExact) :
    Within (leftCount + rightCount) (left * right) (leftExact * rightExact) := by
  constructor
  · calc (1 - unitError) ^ (leftCount + rightCount) * (leftExact * rightExact)
        = (1 - unitError) ^ leftCount * leftExact *
            ((1 - unitError) ^ rightCount * rightExact) := by ring
      _ ≤ left * right := mul_le_mul leftWithin.lower rightWithin.lower
          (mul_pos (shrinking_pos rightCount) rightPositive).le (leftWithin.pos leftPositive).le
  · calc left * right ≤ (1 + unitError) ^ leftCount * leftExact *
            ((1 + unitError) ^ rightCount * rightExact) :=
          mul_le_mul leftWithin.upper rightWithin.upper (rightWithin.pos rightPositive).le
            (mul_pos (growing_pos leftCount) leftPositive).le
      _ = (1 + unitError) ^ (leftCount + rightCount) * (leftExact * rightExact) := by ring

/-- The roundings of a divisor count twice. -/
theorem div (leftPositive : 0 < leftExact) (rightPositive : 0 < rightExact) :
    Within (leftCount + 2 * rightCount) (left / right) (leftExact / rightExact) := by
  have positive := rightWithin.pos rightPositive
  have leftNotNegative := (leftWithin.pos leftPositive).le
  have shrinking := shrinking_pos rightCount
  -- An error of the divisor counts twice, since the inverse of the one factor is bounded by the
  -- square of the other.
  constructor
  · rw [le_div_iff₀ positive]
    calc (1 - unitError) ^ (leftCount + 2 * rightCount) * (leftExact / rightExact) * right
        ≤ (1 - unitError) ^ (leftCount + 2 * rightCount) * (leftExact / rightExact) *
            ((1 + unitError) ^ rightCount * rightExact) := by
          refine mul_le_mul_of_nonneg_left rightWithin.upper ?_
          exact mul_nonneg (shrinking_pos _).le (div_nonneg leftPositive.le rightPositive.le)
      _ = (1 - unitError) ^ leftCount * leftExact * ((1 + unitError) ^ rightCount *
            (1 - unitError) ^ rightCount) * (1 - unitError) ^ rightCount := by
          field_simp
          ring
      _ ≤ (1 - unitError) ^ leftCount * leftExact * 1 * 1 := by
          have notNegative := (mul_pos (shrinking_pos leftCount) leftPositive).le
          refine mul_le_mul
            (mul_le_mul_of_nonneg_left (growing_mul_shrinking_le rightCount) notNegative) ?_
            shrinking.le (by rwa [mul_one])
          exact pow_le_one₀ (by norm_num [unitError_eq]) (by norm_num [unitError_eq])
      _ = (1 - unitError) ^ leftCount * leftExact := by rw [mul_one, mul_one]
      _ ≤ left := leftWithin.lower
  · rw [div_le_iff₀ positive]
    calc left ≤ (1 + unitError) ^ leftCount * leftExact := leftWithin.upper
      _ ≤ (1 + unitError) ^ leftCount * leftExact *
            ((1 + unitError) ^ (2 * rightCount) * (1 - unitError) ^ rightCount) :=
          le_mul_of_one_le_right (mul_pos (growing_pos _) leftPositive).le
            (one_le_growing_mul_shrinking rightCount)
      _ = (1 + unitError) ^ (leftCount + 2 * rightCount) * (leftExact / rightExact) *
            ((1 - unitError) ^ rightCount * rightExact) := by
          field_simp
          ring
      _ ≤ (1 + unitError) ^ (leftCount + 2 * rightCount) * (leftExact / rightExact) * right := by
          refine mul_le_mul_of_nonneg_left rightWithin.lower ?_
          exact mul_nonneg (growing_pos _).le (div_nonneg leftPositive.le rightPositive.le)

end Within

/-! ## Rounded results -/

/-- Doubles reach beyond `10 ^ 308` on both ends. -/
theorem range_of_doubles :
    (2 : ℚ) ^ (-1024 : ℤ) ≤ (1 - 1 / 10 ^ 12) * 10 ^ (-308 : ℤ) ∧
      (1 + 1 / 10 ^ 12) * (10 : ℚ) ^ (308 : ℤ) ≤ greatestValue := by
  have tiny : ((3 * 10 ^ 308 : ℕ) : ℚ) ≤ (2 * 2 ^ 1024 : ℕ) := Nat.cast_le.mpr (by decide +kernel)
  have huge : ((3 * 10 ^ 308 : ℕ) : ℚ) ≤ (2 * (9007199254740991 * 2 ^ 971) : ℕ) :=
    Nat.cast_le.mpr (by decide +kernel)
  simp only [Nat.cast_mul, Nat.cast_pow, Nat.cast_ofNat] at tiny huge
  have tenPositive : (0 : ℚ) < 10 ^ 308 := by positivity
  have twoPositive : (0 : ℚ) < 2 ^ 1024 := by positivity
  rw [greatestValue, zpow_neg, zpow_neg, zpow_ofNat, zpow_ofNat, zpow_ofNat]
  generalize (10 : ℚ) ^ 308 = ten at *
  generalize (2 : ℚ) ^ 1024 = two at *
  generalize (2 : ℚ) ^ 971 = power at *
  constructor
  · have less : two⁻¹ ≤ 2 / 3 * ten⁻¹ := by
      rw [inv_le_iff_one_le_mul₀ twoPositive]
      calc (1 : ℚ) = 3 * ten * (1 / 3 * ten⁻¹) := by field_simp
        _ ≤ 2 * two * (1 / 3 * ten⁻¹) := mul_le_mul_of_nonneg_right tiny (by positivity)
        _ = 2 / 3 * ten⁻¹ * two := by ring
    exact less.trans (mul_le_mul_of_nonneg_right (by norm_num) (by positivity))
  · norm_num
    linarith

/-- What is neither tiny nor huge has a double, one rounding away. -/
theorem Within.rounded {count : ℕ} {number exact : ℚ} (within : Within count number exact)
    (few : count ≤ 2000) (notTiny : (10 : ℚ) ^ (-308 : ℤ) ≤ exact)
    (notHuge : exact ≤ 10 ^ (308 : ℤ)) :
    |number| ≤ greatestValue ∧
      ∀ {result : ℚ}, IsRounding number result → Within (count + 1) result exact := by
  have positive : 0 < exact := lt_of_lt_of_le (by positivity) notTiny
  obtain ⟨lower, upper⟩ := abs_le.mp (within.abs_sub_le positive.le few)
  obtain ⟨least, greatest⟩ := range_of_doubles
  have atLeast : (2 : ℚ) ^ (-1024 : ℤ) ≤ number := by
    have scaled := mul_le_mul_of_nonneg_left notTiny (show (0 : ℚ) ≤ 1 - 1 / 10 ^ 12 by norm_num)
    linarith
  have atMost : number ≤ greatestValue := by
    have scaled := mul_le_mul_of_nonneg_left notHuge (show (0 : ℚ) ≤ 1 + 1 / 10 ^ 12 by norm_num)
    linarith
  have isPositive : 0 < number := within.pos positive
  refine ⟨(abs_of_pos isPositive).trans_le atMost, ?_⟩
  intro result isRounding
  have near := isRounding.abs_sub_le_mul (atLeast.trans (le_abs_self number))
  rw [abs_of_pos isPositive, ← unitError] at near
  obtain ⟨below, above⟩ := abs_le.mp near
  refine within.trans ⟨?_, ?_⟩
  · rw [pow_one]
    linarith
  · rw [pow_one]
    linarith

section Doubles

variable {leftCount rightCount : ℕ} {left right : Float}
  {leftNumber rightNumber leftExact rightExact : ℚ}
  (isLeft : value? left = some leftNumber) (isRight : value? right = some rightNumber)
  (leftWithin : Within leftCount leftNumber leftExact)
  (rightWithin : Within rightCount rightNumber rightExact)
  (leftPositive : 0 < leftExact) (rightPositive : 0 < rightExact)

include isLeft isRight leftWithin rightWithin leftPositive rightPositive

/-- A product in doubles takes one more rounding, as long as it stays in the range of doubles. -/
theorem exists_mul_within (few : leftCount + rightCount ≤ 2000)
    (notTiny : (10 : ℚ) ^ (-308 : ℤ) ≤ leftExact * rightExact)
    (notHuge : leftExact * rightExact ≤ 10 ^ (308 : ℤ)) :
    ∃ result, value? (left * right) = some result ∧
      Within (leftCount + rightCount + 1) result (leftExact * rightExact) := by
  have product := leftWithin.mul rightWithin leftPositive rightPositive
  obtain ⟨bounded, within⟩ := product.rounded few notTiny notHuge
  obtain ⟨result, isResult, isRounding⟩ := value?_mul isLeft isRight bounded
  exact ⟨result, isResult, within isRounding⟩

/-- A quotient in doubles takes one more rounding, where those of the divisor count twice, as long
as it stays in the range of doubles. -/
theorem exists_div_within (few : leftCount + 2 * rightCount ≤ 2000)
    (notTiny : (10 : ℚ) ^ (-308 : ℤ) ≤ leftExact / rightExact)
    (notHuge : leftExact / rightExact ≤ 10 ^ (308 : ℤ)) :
    ∃ result, value? (left / right) = some result ∧
      Within (leftCount + 2 * rightCount + 1) result (leftExact / rightExact) := by
  have quotient := leftWithin.div rightWithin leftPositive rightPositive
  obtain ⟨bounded, within⟩ := quotient.rounded few notTiny notHuge
  obtain ⟨result, isResult, isRounding⟩ :=
    value?_div isLeft isRight (rightWithin.pos rightPositive).ne' bounded
  exact ⟨result, isResult, within isRounding⟩

end Doubles

end MessageTemplate.Decimal
