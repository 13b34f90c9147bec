import Mathlib
import MessageTemplate.Proofs.Decimal.Accuracy
import MessageTemplate.Proofs.Locale.Rounding

/-! # Scientific notation

From `10 ^ -308` on, every number has a scientific notation: a sign if it is negative, one digit
that is not zero, up to six digits behind a separator, and an exponent. Below it, there is none,
since the power of ten that a number is divided by is computed as zero
(`Locale.writesScientific`). -/

namespace MessageTemplate

open MessageTemplate.Decimal

namespace Scientific

/-! ## Powers of ten -/

/-- The double ten is ten. -/
theorem value?_ten : value? 10 = some 10 := by
  have isExact : exact 10 = .finite false (5 * 2 ^ 50) (-49) := by decide
  rw [value?, isExact, Exact.value?, signed]
  norm_num

/-- Powers of ten up to the greatest one below the greatest double are neither tiny nor huge. -/
theorem zpow_range {exponent : ℤ} (atLeast : -308 ≤ exponent) (atMost : exponent ≤ 308) :
    (10 : ℚ) ^ (-308 : ℤ) ≤ 10 ^ exponent ∧ (10 : ℚ) ^ exponent ≤ 10 ^ (308 : ℤ) :=
  ⟨zpow_le_zpow_right₀ (by norm_num) atLeast, zpow_le_zpow_right₀ (by norm_num) atMost⟩

/-- Powers of ten up to the exponent 308 are in the range of doubles. -/
theorem pow_range {exponent : ℕ} (bounded : exponent ≤ 308) :
    (10 : ℚ) ^ (-308 : ℤ) ≤ 10 ^ exponent ∧ (10 : ℚ) ^ exponent ≤ 10 ^ (308 : ℤ) := by
  rw [← zpow_natCast]
  exact zpow_range (by omega) (by omega)

/-- What has one digit in front of the separator, or none but a tenth, is neither tiny nor huge. -/
theorem digit_range {number : ℚ} (atLeast : 1 / 10 ≤ number) (atMost : number ≤ 10) :
    (10 : ℚ) ^ (-308 : ℤ) ≤ number ∧ number ≤ 10 ^ (308 : ℤ) := by
  obtain ⟨tiny, -⟩ := zpow_range (show -308 ≤ -1 by decide) (by decide)
  obtain ⟨-, huge⟩ := zpow_range (show -308 ≤ 1 by decide) (by decide)
  rw [zpow_neg_one, ← one_div] at tiny
  rw [zpow_one] at huge
  exact ⟨tiny.trans atLeast, atMost.trans huge⟩

section PowerFrom

variable {exponent total weight : ℕ} {product square : Float} {productNumber squareNumber : ℚ}
  (isProduct : value? product = some productNumber) (isSquare : value? square = some squareNumber)
  (productWithin : Within total productNumber (10 ^ total))
  (squareWithin : Within weight squareNumber (10 ^ (weight + 1)))

include isProduct isSquare productWithin squareWithin

/-- A square is multiplied into the product where the binary digit of its weight is one. -/
theorem exists_digit_within (bounded : total + (weight + 1) * (exponent % 2) ≤ 308) :
    ∃ result,
      value? (if exponent % 2 = 1 then product * square else product) = some result ∧
      Within (total + (weight + 1) * (exponent % 2)) result
        (10 ^ (total + (weight + 1) * (exponent % 2))) := by
  rcases Nat.mod_two_eq_zero_or_one exponent with isEven | isOdd
  · rw [if_neg (by omega), isEven, Nat.mul_zero, Nat.add_zero]
    exact ⟨productNumber, isProduct, productWithin⟩
  · rw [isOdd, Nat.mul_one] at bounded ⊢
    obtain ⟨notTiny, notHuge⟩ := pow_range bounded
    rw [pow_add] at notTiny notHuge
    rw [if_pos rfl, pow_add]
    exact exists_mul_within isProduct isSquare productWithin squareWithin (by positivity)
      (by positivity) (by omega) notTiny notHuge

omit isProduct productWithin in
/-- The weight of the next binary digit is twice as great. -/
theorem exists_square_within (bounded : 2 * (weight + 1) ≤ 308) :
    ∃ result, value? (square * square) = some result ∧
      Within (2 * weight + 1) result (10 ^ (2 * weight + 1 + 1)) := by
  have twice : 2 * weight + 1 + 1 = weight + 1 + (weight + 1) := by omega
  have count : 2 * weight + 1 = weight + weight + 1 := by omega
  obtain ⟨notTiny, notHuge⟩ := pow_range (show 2 * weight + 1 + 1 ≤ 308 by omega)
  rw [twice, pow_add] at notTiny notHuge
  rw [twice, count, pow_add]
  exact exists_mul_within isSquare isSquare squareWithin squareWithin (by positivity)
    (by positivity) (by omega) notTiny notHuge

/-- Repeated squaring rounds no more often than the exponent counts. -/
theorem exists_powerFrom {steps : ℕ} (enough : exponent < 2 ^ steps)
    (bounded : total + (weight + 1) * exponent ≤ 308) :
    ∃ result, value? (powerFrom steps product square exponent) = some result ∧
      Within (total + (weight + 1) * exponent) result (10 ^ (total + (weight + 1) * exponent)) := by
  induction steps generalizing exponent total weight product square productNumber squareNumber with
  | zero =>
      have isZero : exponent = 0 := by omega
      rw [isZero, Nat.mul_zero, Nat.add_zero]
      exact ⟨productNumber, isProduct, productWithin⟩
  | succ steps inductionHypothesis =>
      -- The last binary digit and the others make up the exponent.
      have digits : total + (weight + 1) * exponent =
          total + (weight + 1) * (exponent % 2) + (2 * weight + 1 + 1) * (exponent / 2) := by
        conv_lhs => rw [← Nat.mod_add_div exponent 2]
        ring
      rw [digits] at bounded ⊢
      have soFar : total + (weight + 1) * (exponent % 2) ≤ 308 := by omega
      obtain ⟨nextNumber, isNext, nextWithin⟩ :=
        exists_digit_within isProduct isSquare productWithin squareWithin soFar
      rw [powerFrom]
      by_cases isLast : exponent / 2 = 0
      · simp only [if_pos isLast]
        rw [isLast, Nat.mul_zero, Nat.add_zero]
        exact ⟨nextNumber, isNext, nextWithin⟩
      · simp only [if_neg isLast]
        have further : 2 * (weight + 1) ≤ 308 := by
          have grows := Nat.le_mul_of_pos_right (2 * weight + 1 + 1) (Nat.pos_of_ne_zero isLast)
          omega
        obtain ⟨squaredNumber, isSquared, squaredWithin⟩ :=
          exists_square_within isSquare squareWithin further
        exact inductionHypothesis isNext isSquared nextWithin squaredWithin (by omega) bounded

end PowerFrom

/-- A power of ten is computed with few roundings unless its inverse is beyond the greatest
double. -/
theorem exists_powerOfTen {exponent : ℤ} (atLeast : -308 ≤ exponent) (atMost : exponent ≤ 308) :
    ∃ power, value? (powerOfTen exponent) = some power ∧ Within 617 power (10 ^ exponent) := by
  have tenWithin : Within 0 (10 : ℚ) (10 ^ (0 + 1)) := by
    rw [pow_one]
    exact .refl 10
  have oneWithin : Within 0 (1 : ℚ) (10 ^ 0) := by
    rw [pow_zero]
    exact .refl 1
  obtain ⟨power, isPower, within⟩ := exists_powerFrom value?_one value?_ten oneWithin tenWithin
    (show exponent.natAbs < 2 ^ 32 by omega) (by omega)
  rw [Nat.zero_add, Nat.zero_add, Nat.one_mul] at within
  rw [powerOfTen]
  by_cases negative : exponent < 0
  · obtain ⟨inverse, rfl⟩ := Int.exists_eq_neg_ofNat negative.le
    rw [Int.natAbs_neg, Int.natAbs_natCast] at isPower within
    have isInverse : 1 / (10 : ℚ) ^ inverse = 10 ^ (-inverse : ℤ) := by
      rw [zpow_neg, zpow_natCast, one_div]
    obtain ⟨notTiny, notHuge⟩ := zpow_range atLeast atMost
    rw [← isInverse] at notTiny notHuge
    obtain ⟨result, isResult, resultWithin⟩ := exists_div_within value?_one isPower (.refl 1) within
      one_pos (by positivity) (by omega) notTiny notHuge
    simp only [if_pos negative, Int.natAbs_neg, Int.natAbs_natCast]
    refine ⟨result, isResult, ?_⟩
    rw [← isInverse]
    exact resultWithin.mono (by positivity) (by omega)
  · obtain ⟨inverse, rfl⟩ := Int.eq_ofNat_of_zero_le (Int.not_lt.mp negative)
    simp only [if_neg negative]
    refine ⟨power, isPower, ?_⟩
    rw [zpow_natCast]
    exact within.mono (by positivity) (by omega)

/-! ## Decimal exponents -/

section Fraction

variable {numerator denominator : ℕ} (numeratorPositive : 0 < numerator)
  (denominatorPositive : 0 < denominator)

include numeratorPositive denominatorPositive

/-- The decimal exponent of a fraction is that of the power of ten at or below it. -/
theorem decimalExponent_bounds :
    (10 : ℚ) ^ decimalExponent numerator denominator ≤ numerator / denominator ∧
      (numerator : ℚ) / denominator < 10 ^ (decimalExponent numerator denominator + 1) := by
  have positive : (0 : ℚ) < denominator := Nat.cast_pos.mpr denominatorPositive
  rw [le_div_iff₀ positive, div_lt_iff₀ positive, decimalExponent]
  by_cases whole : denominator ≤ numerator
  · rw [if_pos whole]
    have quotientPositive : 0 < numerator / denominator :=
      Nat.div_pos whole denominatorPositive
    have present : 0 < digitCount (numerator / denominator) := Nat.length_toDigits_pos
    obtain ⟨places, isPlaces⟩ := Nat.exists_eq_add_one_of_ne_zero (Nat.ne_of_gt present)
    have below := pow_digitCount_le quotientPositive
    have above := lt_pow_digitCount (numerator / denominator)
    rw [isPlaces] at below above ⊢
    have exponent : ((places + 1 : ℕ) : ℤ) - 1 = places := by omega
    rw [exponent, zpow_natCast]
    constructor
    · exact_mod_cast (Nat.le_div_iff_mul_le denominatorPositive).mp below
    · exact_mod_cast (Nat.div_lt_iff_lt_mul denominatorPositive).mp above
  · rw [if_neg whole]
    -- Below one it is the inverse whose digits count, less one part so that an exact power of ten
    -- has a digit fewer.
    have less : numerator ≤ denominator - 1 := by omega
    have quotientPositive : 0 < (denominator - 1) / numerator := Nat.div_pos less numeratorPositive
    have present : 0 < digitCount ((denominator - 1) / numerator) := Nat.length_toDigits_pos
    obtain ⟨places, isPlaces⟩ := Nat.exists_eq_add_one_of_ne_zero (Nat.ne_of_gt present)
    have below := pow_digitCount_le quotientPositive
    have above := lt_pow_digitCount ((denominator - 1) / numerator)
    rw [isPlaces] at below above ⊢
    have exponent : -((places + 1 : ℕ) : ℤ) + 1 = -places := by omega
    rw [exponent, zpow_neg, zpow_neg, zpow_natCast, zpow_natCast,
      inv_mul_le_iff₀ (by positivity), lt_inv_mul_iff₀ (by positivity)]
    constructor
    · have natural : denominator ≤ 10 ^ (places + 1) * numerator := by
        have product := (Nat.div_lt_iff_lt_mul numeratorPositive).mp above
        omega
      exact_mod_cast natural
    · have natural : 10 ^ places * numerator < denominator := by
        have product := (Nat.le_div_iff_mul_le numeratorPositive).mp below
        rw [Nat.add_sub_cancel] at product
        omega
      exact_mod_cast natural

/-- A fraction is taken for the power of ten above it only where it is close to it. -/
theorem lt_of_roundsUpTo {exponent : ℤ} (bounded : exponent.natAbs < 512)
    (less : (numerator : ℚ) / denominator < 10 ^ exponent)
    (rounds : roundsUpTo exponent numerator denominator = true) :
    (1 - 1 / 10 ^ 13) * (10 : ℚ) ^ exponent < numerator / denominator := by
  obtain ⟨value, isValue⟩ : ∃ value, value = numerator * tenTo (-exponent).toNat := ⟨_, rfl⟩
  obtain ⟨power, isPower⟩ : ∃ power, power = denominator * tenTo exponent.toNat := ⟨_, rfl⟩
  have positive : (0 : ℚ) < 10 ^ exponent := by positivity
  have powerPositive : (0 : ℚ) < power := by
    rw [isPower, tenTo_eq]
    positivity
  have isRatio : (numerator : ℚ) / denominator = value / power * 10 ^ exponent := by
    rw [isValue, isPower, ← pow_toNat_div, tenTo_eq, tenTo_eq]
    push_cast
    field_simp
  have ratioLess : (value : ℚ) < power := by
    rw [isRatio, mul_lt_iff_lt_one_left positive, div_lt_one powerPositive] at less
    exact less
  have size : twoTo (2 * exponent - 1).natAbs.log2 ≤ 512 := by
    have few : (2 * exponent - 1).natAbs.log2 < 10 := (Nat.log2_lt (by omega)).mpr (by omega)
    exact Nat.pow_le_pow_right (by decide) (Nat.le_of_lt_succ few)
  have close : (power - value) * 1000000 * 2 ^ 54 < 2302585 * 512 * power := by
    rw [roundsUpTo, Bool.and_eq_true, decide_eq_true_iff, ← isValue, ← isPower, twoTo_eq] at rounds
    exact rounds.2.trans_le (Nat.mul_le_mul_right _ (Nat.mul_le_mul_left _ size))
  have closeRat : ((power : ℚ) - value) * 1000000 * 2 ^ 54 < 2302585 * 512 * power := by
    rw [← Nat.cast_sub (Nat.cast_le.mp ratioLess.le)]
    exact_mod_cast close
  rw [isRatio]
  refine mul_lt_mul_of_pos_right ?_ positive
  rw [lt_div_iff₀ powerPositive]
  linarith

/-- The floor of the logarithm is that of the fraction or of a number that is hardly greater. -/
theorem logarithmFloor_bounds
    (bounded : (decimalExponent numerator denominator + 1).natAbs < 512) :
    (1 - 1 / 10 ^ 13) * (10 : ℚ) ^ logarithmFloor numerator denominator < numerator / denominator ∧
      (numerator : ℚ) / denominator < 10 ^ (logarithmFloor numerator denominator + 1) := by
  obtain ⟨atLeast, less⟩ := decimalExponent_bounds numeratorPositive denominatorPositive
  rw [logarithmFloor]
  by_cases rounds :
      roundsUpTo (decimalExponent numerator denominator + 1) numerator denominator = true
  · simp only [if_pos rounds]
    refine ⟨lt_of_roundsUpTo numeratorPositive denominatorPositive bounded less rounds, ?_⟩
    exact less.trans (zpow_lt_zpow_right₀ (by norm_num) (by omega))
  · simp only [if_neg rounds]
    refine ⟨lt_of_lt_of_le ?_ atLeast, less⟩
    have positive : (0 : ℚ) < 10 ^ decimalExponent numerator denominator := by positivity
    linarith

end Fraction

/-- Doubles are closer to zero than `10 ^ 309` and further from it than `10 ^ -324`. -/
theorem limits_of_doubles :
    (10 : ℚ) ^ (-324 : ℤ) < 2 ^ (-1074 : ℤ) ∧
      greatestValue < (1 - 1 / 10 ^ 13) * 10 ^ (309 : ℤ) := by
  have tiny : ((2 ^ 1074 : ℕ) : ℚ) < (10 ^ 324 : ℕ) := Nat.cast_lt.mpr (by decide +kernel)
  have huge : ((2 * (9007199254740991 * 2 ^ 971) : ℕ) : ℚ) ≤ (10 ^ 309 : ℕ) :=
    Nat.cast_le.mpr (by decide +kernel)
  simp only [Nat.cast_mul, Nat.cast_pow, Nat.cast_ofNat] at tiny huge
  have positive : (0 : ℚ) < 10 ^ 309 := by positivity
  rw [greatestValue, zpow_neg, zpow_neg, zpow_ofNat, zpow_ofNat, zpow_ofNat, zpow_ofNat]
  constructor
  · exact inv_strictAnti₀ (by positivity) tiny
  · generalize (10 : ℚ) ^ 309 = ten at *
    generalize (2 : ℚ) ^ 971 = power at *
    norm_num
    linarith

section Double

variable {significand : ℕ} {exponent : ℤ} (stored : IsStored significand exponent)
  (positive : 0 < significand)

include stored positive

/-- The decimal exponent of a double lies between -324 and 308. -/
theorem decimalExponent_range :
    -324 ≤ decimalExponent (numerator significand exponent) (denominator exponent) ∧
      decimalExponent (numerator significand exponent) (denominator exponent) ≤ 308 := by
  have numeratorPositive : 0 < numerator significand exponent :=
    Nat.mul_pos positive (Nat.two_pow_pos _)
  obtain ⟨atLeast, less⟩ := decimalExponent_bounds numeratorPositive (denominator_pos exponent)
  rw [numerator_div_denominator] at atLeast less
  obtain ⟨least, greatest⟩ := stored.range positive
  obtain ⟨tiny, huge⟩ := limits_of_doubles
  have beyond : (1 - 1 / 10 ^ 13) * (10 : ℚ) ^ (309 : ℤ) < 10 ^ (309 : ℤ) :=
    mul_lt_of_lt_one_left (by positivity) (by norm_num)
  have above := (zpow_lt_zpow_iff_right₀ (by norm_num)).mp (tiny.trans (least.trans_lt less))
  have below := (zpow_lt_zpow_iff_right₀ (by norm_num)).mp
    ((atLeast.trans greatest).trans_lt (huge.trans beyond))
  omega

/-- The floor of the logarithm of a double. -/
theorem logarithmFloor_spec :
    ∃ power, power = logarithmFloor (numerator significand exponent) (denominator exponent) ∧
      -324 ≤ power ∧ power ≤ 308 ∧
      (1 - 1 / 10 ^ 13) * (10 : ℚ) ^ power < significand * 2 ^ exponent ∧
      (significand : ℚ) * 2 ^ exponent < 10 ^ (power + 1) := by
  have numeratorPositive : 0 < numerator significand exponent :=
    Nat.mul_pos positive (Nat.two_pow_pos _)
  obtain ⟨least, greatest⟩ := decimalExponent_range stored positive
  obtain ⟨above, below⟩ := logarithmFloor_bounds numeratorPositive (denominator_pos exponent)
    (by omega)
  rw [numerator_div_denominator] at above below
  refine ⟨_, rfl, ?_, ?_, above, below⟩
  · rw [logarithmFloor]
    split <;> omega
  · by_contra beyond
    obtain ⟨-, huge⟩ := limits_of_doubles
    have atLeast : (10 : ℚ) ^ (309 : ℤ) ≤
        10 ^ logarithmFloor (numerator significand exponent) (denominator exponent) :=
      zpow_le_zpow_right₀ (by norm_num) (by omega)
    have scaled := mul_le_mul_of_nonneg_left atLeast (show (0 : ℚ) ≤ 1 - 1 / 10 ^ 13 by norm_num)
    exact absurd (stored.range positive).2 (not_le.mpr (huge.trans (scaled.trans_lt above)))

end Double

/-! ## Normalized digits -/

/-- Whether digits and an exponent of ten are a positive number in scientific notation: one digit
that is not zero, and up to six behind it, which are off by one at the last place at most. -/
structure IsNormal (digits : Digits) (exponent : ℤ) (number : ℚ) : Prop where
  positive : 0 < digits.integer
  single : digits.integer < 10
  areDigits : ∀ digit ∈ digits.fraction, digit.isDigit = true
  few : digits.fraction.length ≤ 6
  near : |digits.magnitude * 10 ^ exponent - number| ≤ 10 ^ (exponent - 6)

section Parts

variable {number amount : ℚ} {exponent : ℤ}

/-- The digits are compared with the quotient by the power of ten. -/
theorem near_of_ratio {digits : ℚ}
    (near : |digits - amount / 10 ^ exponent| ≤ 1 / 10 ^ 6) :
    |digits * 10 ^ exponent - amount| ≤ 10 ^ (exponent - 6) := by
  have positive : (0 : ℚ) < 10 ^ exponent := by positivity
  have difference : digits * 10 ^ exponent - amount =
      (digits - amount / 10 ^ exponent) * 10 ^ exponent := by
    rw [sub_mul, div_mul_cancel₀ _ positive.ne']
  have unit : (10 : ℚ) ^ (exponent - 6) = 1 / 10 ^ 6 * 10 ^ exponent := by
    rw [zpow_sub₀ (by norm_num), div_eq_inv_mul, one_div]
    norm_cast
  rw [difference, abs_mul, abs_of_pos positive, unit]
  exact mul_le_mul_of_nonneg_right near positive.le

/-- What is close to ten units is one unit of the next power. -/
theorem isNormal_one (near : |10 - amount / 10 ^ exponent| ≤ 1 / 10 ^ 5) :
    IsNormal ⟨false, 1, []⟩ (exponent + 1) amount where
  positive := Nat.one_pos
  single := Nat.one_lt_succ_succ 8
  areDigits := List.forall_mem_nil _
  few := Nat.zero_le 6
  near := by
    have isOne : (⟨false, 1, []⟩ : Digits).magnitude = 1 := by
      rw [Digits.magnitude]
      norm_num [naturalOf]
    have lower : amount / 10 ^ (exponent + 1) = amount / 10 ^ exponent / 10 := by
      rw [zpow_add_one₀ (by norm_num), div_mul_eq_div_div]
    obtain ⟨nearBelow, nearAbove⟩ := abs_le.mp near
    refine near_of_ratio ?_
    rw [isOne, lower, abs_le]
    constructor <;> linarith

variable (above : (1 - 1 / 10 ^ 13) * (10 : ℚ) ^ exponent < number)
  (below : number < 10 ^ (exponent + 1))

include above below

/-- Divided by its power of ten, a number has one digit before the point, or is hardly less than
one. -/
theorem ratio_bounds :
    1 - 1 / 10 ^ 13 < number / 10 ^ exponent ∧ number / 10 ^ exponent < 10 := by
  have positive : (0 : ℚ) < 10 ^ exponent := by positivity
  rw [zpow_add_one₀ (by norm_num), mul_comm] at below
  exact ⟨(lt_div_iff₀ positive).mpr above, (div_lt_iff₀ positive).mpr below⟩

variable {magnitude : Float} (isMagnitude : value? magnitude = some number)
  (atLeast : -308 ≤ exponent) (atMost : exponent ≤ 308)

include isMagnitude atLeast atMost

/-- A number is divided by its power of ten with little loss. -/
theorem exists_mantissa :
    ∃ mantissa, value? (magnitude / powerOfTen exponent) = some mantissa ∧
      |mantissa - number / 10 ^ exponent| ≤ 1 / 10 ^ 11 := by
  have positive : (0 : ℚ) < 10 ^ exponent := by positivity
  have numberPositive : 0 < number := lt_trans (by positivity) above
  obtain ⟨ratioAbove, ratioBelow⟩ := ratio_bounds above below
  obtain ⟨notTiny, notHuge⟩ := digit_range (by linarith) ratioBelow.le
  obtain ⟨power, isPower, powerWithin⟩ := exists_powerOfTen atLeast atMost
  obtain ⟨mantissa, isMantissa, within⟩ := exists_div_within isMagnitude isPower
    (.refl number) powerWithin numberPositive positive (by norm_num) notTiny notHuge
  have ratioPositive : 0 < number / 10 ^ exponent := div_pos numberPositive positive
  refine ⟨mantissa, isMantissa, (within.abs_sub_le ratioPositive.le (by norm_num)).trans ?_⟩
  linarith

omit above below isMagnitude atLeast atMost in
/-- A quotient that is rounded to ten is divided once more, and rounded to one. -/
theorem fixed?_div_ten {quotient : Float} {mantissa : ℚ}
    (isMantissa : value? quotient = some mantissa)
    (least : (10 : ℚ) ^ 7 - 1 / 2 ≤ mantissa * 10 ^ 6) (most : mantissa ≤ 10 + 1 / 10 ^ 10) :
    Digits.fixed? (.float (quotient / 10)) 0 6 = some ⟨false, 1, []⟩ := by
  have positive : 0 < mantissa := by linarith
  obtain ⟨notTiny, notHuge⟩ := digit_range (show 1 / 10 ≤ mantissa / 10 by linarith) (by linarith)
  obtain ⟨shifted, isShifted, within⟩ := exists_div_within isMantissa value?_ten (.refl mantissa)
    (.refl 10) positive (by norm_num) (by norm_num) notTiny notHuge
  obtain ⟨nearBelow, nearAbove⟩ :=
    abs_le.mp (within.abs_sub_le (by linarith) (by norm_num))
  have shiftedPositive : 0 < shifted := by linarith
  have isNumber : (Number.float (quotient / 10)).value? = some shifted := isShifted
  obtain ⟨scaled, nearest, isFixed⟩ := Digits.fixed?_eq isNumber 0 6
  rw [abs_of_pos shiftedPositive] at nearest
  have least : 10 ^ 6 ≤ scaled := nearest.ge_of_gt (by push_cast; linarith)
  have most : scaled ≤ 10 ^ 6 := nearest.le_of_lt (by push_cast; linarith)
  have isOne : scaled = 1 * tenTo 6 := Nat.le_antisymm most least
  rw [isFixed, isOne, Digits.ofScaled_whole, decide_eq_false (not_lt.mpr shiftedPositive.le)]
  rfl

/-- A double has normalized digits, as long as its power of ten is computed. They are those of any
amount that it is hardly apart from. -/
theorem exists_parts (close : |amount / 10 ^ exponent - number / 10 ^ exponent| ≤ 1 / 10 ^ 12) :
    ∃ digits shown, parts? magnitude exponent = some (digits, shown) ∧
      IsNormal digits shown amount := by
  obtain ⟨closeBelow, closeAbove⟩ := abs_le.mp close
  obtain ⟨mantissa, isMantissa, near⟩ := exists_mantissa above below isMagnitude atLeast atMost
  obtain ⟨ratioAbove, ratioBelow⟩ := ratio_bounds above below
  obtain ⟨nearBelow, nearAbove⟩ := abs_le.mp near
  have positive : 0 < mantissa := by linarith
  have isNumber : (Number.float (magnitude / powerOfTen exponent)).value? = some mantissa :=
    isMantissa
  obtain ⟨scaled, nearest, isFixed⟩ := Digits.fixed?_eq isNumber 0 6
  obtain ⟨digits, isDigits⟩ : ∃ digits,
      digits = Digits.ofScaled (decide (mantissa < 0)) scaled 0 6 := ⟨_, rfl⟩
  have rounded : digits.AreRounded mantissa 0 6 :=
    isDigits ▸ Digits.areRounded_ofScaled (Nat.zero_le 6) nearest
  have integer : digits.integer = scaled / 10 ^ 6 := congrArg Digits.integer isDigits
  have denoted : digits.magnitude = scaled / 10 ^ 6 :=
    isDigits ▸ Digits.magnitude_ofScaled _ scaled 0 6
  rw [← isDigits] at isFixed
  rw [abs_of_pos positive] at nearest
  obtain ⟨halfBelow, halfAbove⟩ := abs_le.mp nearest.near
  have least : 10 ^ 6 ≤ scaled := nearest.ge_of_gt (by push_cast; linarith)
  have most : scaled ≤ 10 ^ 7 := nearest.le_of_lt (by push_cast; linarith)
  rcases Nat.lt_or_eq_of_le most with less | isTen
  · have notTen : digits.integer ≠ 10 := by omega
    refine ⟨digits, exponent, ?_, ?_⟩
    · simp only [parts?, isFixed, if_neg notTen]
    · constructor
      case positive => omega
      case single => omega
      case areDigits => exact rounded.areDigits
      case few => exact rounded.atMost
      case near =>
        refine near_of_ratio ?_
        rw [denoted, abs_le]
        constructor <;> linarith
  -- Rounding has carried the mantissa to ten, so a tenth of it is written with the next exponent.
  · have isInteger : digits.integer = 10 := by omega
    rw [isTen] at halfBelow
    push_cast at halfBelow
    have shifted := fixed?_div_ten isMantissa (by linarith) (by linarith)
    refine ⟨⟨false, 1, []⟩, exponent + 1, ?_, isNormal_one ?_⟩
    · simp only [parts?, isFixed, if_pos isInteger, shifted]
      rfl
    · rw [abs_le]
      constructor <;> linarith

end Parts

/-! ## Numbers without normalized digits -/

/-- Powers of ten whose inverse is beyond the greatest double are computed as zero. -/
theorem exact_powerOfTen_tiny :
    ∀ further < 16, exact (powerOfTen (-309 - (further : ℕ))) = .finite false 0 (-1074) := by
  decide +kernel

/-- Below the exponent -308 the power of ten is zero in doubles, so that nothing is written. -/
theorem parts?_eq_none {magnitude : Float} {number : ℚ} {exponent : ℤ}
    (isMagnitude : value? magnitude = some number) (notZero : number ≠ 0)
    (atLeast : -324 ≤ exponent) (below : exponent < -308) : parts? magnitude exponent = none := by
  obtain ⟨further, isFurther⟩ := Int.eq_ofNat_of_zero_le (show 0 ≤ -309 - exponent by omega)
  have isExponent : exponent = -309 - (further : ℕ) := by omega
  have isExact := exact_powerOfTen_tiny further (by omega)
  have isZero : value? (powerOfTen exponent) = some 0 := by
    rw [isExponent, value?, isExact, Exact.value?, signed]
    norm_num
  have noValue : (Number.float (magnitude / powerOfTen exponent)).value? = none :=
    value?_div_zero isMagnitude notZero isZero
  simp only [parts?, Digits.fixed?_eq_none noValue]

end Scientific

/-! ## Doubles of numbers -/

/-- The double of a number is hardly apart from it, and the number itself unless it is great. -/
theorem Number.exists_toFloat {number : Number} {value : ℚ} (isValue : number.value? = some value)
    (notZero : value ≠ 0) :
    ∃ double, Decimal.value? number.toFloat = some double ∧
      |double - value| ≤ 2 ^ (-51 : ℤ) * |value| ∧ (double = value ∨ 1 ≤ |value|) := by
  cases number with
  | float double =>
      refine ⟨value, isValue, ?_, .inl rfl⟩
      rw [sub_self, abs_zero]
      positivity
  | int whole =>
      cases isValue
      have atLeast : 1 ≤ |((whole.toInt : ℤ) : ℚ)| := by
        rw [← Int.cast_abs]
        exact_mod_cast Int.one_le_abs (Int.cast_ne_zero.mp notZero)
      have bounded : |((whole.toInt : ℤ) : ℚ)| ≤ greatestValue := by
        have small : whole.toInt.natAbs ≤ 2 ^ 64 := by
          have least := whole.le_toInt
          have greatest := whole.toInt_lt
          omega
        rw [← Int.cast_abs, ← Nat.cast_natAbs]
        exact natCast_le_greatestValue small
      have tiny : (2 : ℚ) ^ (-1024 : ℤ) ≤ 2 ^ (0 : ℤ) :=
        zpow_le_zpow_right₀ (by norm_num) (by norm_num)
      rw [zpow_zero] at tiny
      obtain ⟨double, isDouble, isRounding⟩ := value?_ofInt bounded
      exact ⟨double, isDouble, isRounding.abs_sub_le_mul (tiny.trans atLeast), .inr atLeast⟩

namespace Locale

variable (locale : Locale)

/-- Whether a text is a number in scientific notation: a minus sign if it is negative, one digit
that is not zero, up to six digits behind the separator, and an exponent of ten, which denote the
number up to one at the last place. -/
def IsScientific (value : ℚ) (text : List Char) : Prop :=
  ∃ digits exponent, Scientific.IsNormal digits exponent |value| ∧
    text = (if value < 0 then ['-'] else []) ++ Nat.digitChar digits.integer ::
      (if digits.fraction = [] then [] else locale.decimalSeparator :: digits.fraction) ++
        'E' :: (toString exponent).toList

/-- How a locale writes numbers in scientific notation. -/
structure WritesScientific (locale : Locale) : Prop where
  /-- Zero has no digit but itself. -/
  zero {number : Number} : number.value? = some 0 →
    locale.formatNumber? number .scientific = some "0E0"
  /-- What is written of another number is its scientific notation. -/
  normal {number : Number} {value : ℚ} {text : String} : number.value? = some value → value ≠ 0 →
    locale.formatNumber? number .scientific = some text → locale.IsScientific value text.toList
  /-- From `10 ^ -308` on, every number is written. -/
  total {number : Number} {value : ℚ} : number.value? = some value →
    (10 : ℚ) ^ (-308 : ℤ) ≤ |value| → ∃ text, locale.formatNumber? number .scientific = some text
  /-- Below it, no number is written that is not hardly apart from it. -/
  tiny {number : Number} {value : ℚ} : number.value? = some value → value ≠ 0 →
    |value| < (1 - 1 / 10 ^ 13) * (10 : ℚ) ^ (-308 : ℤ) →
      locale.formatNumber? number .scientific = none

/-- Normalized digits are one digit and those behind the separator. -/
theorem joinDigits_normal {digits : Digits} {exponent : ℤ} {number : ℚ}
    (normal : Scientific.IsNormal digits exponent number) :
    locale.joinDigits digits 1 none = Nat.digitChar digits.integer ::
      (if digits.fraction = [] then [] else locale.decimalSeparator :: digits.fraction) := by
  have single : digitsOf digits.integer = [Nat.digitChar digits.integer] :=
    Nat.toDigits_of_lt_base normal.single
  have integer : Digits.integerDigits digits.integer 1 = [Nat.digitChar digits.integer] := by
    rw [Digits.integerDigits, if_neg (by simp), single]
    rfl
  simp only [joinDigits, integer]
  cases digits.fraction with
  | nil => rfl
  | cons first rest => rfl

/-- What is hardly apart from a double keeps its sign. -/
theorem neg_iff_of_close {double value : ℚ} (notZero : value ≠ 0)
    (close : |double - value| ≤ 2 ^ (-51 : ℤ) * |value|) :
    double ≠ 0 ∧ (double < 0 ↔ value < 0) := by
  obtain ⟨below, above⟩ := abs_le.mp close
  norm_num at below above
  rcases lt_or_gt_of_ne notZero with negative | positive
  · rw [abs_of_neg negative] at below above
    have isNegative : double < 0 := by linarith
    exact ⟨isNegative.ne, iff_of_true isNegative negative⟩
  · rw [abs_of_pos positive] at below above
    have isPositive : 0 < double := by linarith
    exact ⟨isPositive.ne', iff_of_false isPositive.not_gt positive.not_gt⟩

/-- What is hardly apart from a double is so in proportion to a power of ten. -/
theorem ratio_close {double value : ℚ} {power : ℤ} (below : |double| < 10 ^ (power + 1))
    (close : |double - value| ≤ 2 ^ (-51 : ℤ) * |value|) :
    abs (|value| / 10 ^ power - |double| / 10 ^ power) ≤ 1 / 10 ^ 12 := by
  have positive : (0 : ℚ) < 10 ^ power := by positivity
  have apart : abs (|value| - |double|) ≤ 2 ^ (-51 : ℤ) * |value| := by
    rw [abs_sub_comm]
    exact (abs_abs_sub_abs_le_abs_sub double value).trans close
  obtain ⟨-, greater⟩ := abs_le.mp apart
  rw [zpow_add_one₀ (by norm_num)] at below
  rw [← sub_div, abs_div, abs_of_pos positive, div_le_iff₀ positive]
  refine apart.trans ?_
  norm_num at greater ⊢
  linarith

section Tiny

variable {double value : ℚ} {power : ℤ} (sameOrGreat : double = value ∨ 1 ≤ |value|)

include sameOrGreat

/-- A number is not tiny if the power of ten of its double is not. -/
theorem le_abs_of_le (above : (1 - 1 / 10 ^ 13) * (10 : ℚ) ^ power < |double|)
    (atLeast : -308 ≤ power) : (1 - 1 / 10 ^ 13) * (10 : ℚ) ^ (-308 : ℤ) ≤ |value| := by
  have unit : (10 : ℚ) ^ (-308 : ℤ) ≤ 10 ^ power :=
    zpow_le_zpow_right₀ (by norm_num) atLeast
  have scaled := mul_le_mul_of_nonneg_left unit (show (0 : ℚ) ≤ 1 - 1 / 10 ^ 13 by norm_num)
  rcases sameOrGreat with rfl | great
  · exact scaled.trans above.le
  · obtain ⟨one, -⟩ := Scientific.digit_range (show 1 / 10 ≤ 1 by norm_num) (by norm_num)
    linarith

/-- A number is tiny if the power of ten of its double is. -/
theorem abs_lt_of_lt (below : |double| < 10 ^ (power + 1))
    (close : |double - value| ≤ 2 ^ (-51 : ℤ) * |value|) (isTiny : power < -308) :
    |value| < (10 : ℚ) ^ (-308 : ℤ) := by
  have small : (10 : ℚ) ^ (power + 1) ≤ 10 ^ (-308 : ℤ) :=
    zpow_le_zpow_right₀ (by norm_num) (by omega)
  rcases sameOrGreat with rfl | great
  · exact below.trans_le small
  · obtain ⟨tenth, -⟩ := Scientific.digit_range (le_refl (1 / 10)) (by norm_num)
    have less : |double| < 1 / 10 := below.trans_le (small.trans tenth)
    have near := (abs_sub_abs_le_abs_sub value double).trans
      ((abs_sub_comm value double).trans_le close)
    norm_num at near
    linarith

end Tiny

/-- A number other than zero has a scientific notation or is tiny. -/
theorem scientific?_cases {number : Number} {value : ℚ} (isValue : number.value? = some value)
    (notZero : value ≠ 0) :
    ((1 - 1 / 10 ^ 13) * (10 : ℚ) ^ (-308 : ℤ) ≤ |value| ∧
        ∃ text, locale.scientific? number = some text ∧ locale.IsScientific value text) ∨
      |value| < (10 : ℚ) ^ (-308 : ℤ) ∧ locale.scientific? number = none := by
  obtain ⟨double, isDouble, close, sameOrGreat⟩ := Number.exists_toFloat isValue notZero
  obtain ⟨doubleNotZero, sign⟩ := neg_iff_of_close notZero close
  obtain ⟨negative, significand, exponent, isExact, isProduct⟩ := exists_exact isDouble
  have magnitude : |double| = significand * 2 ^ exponent := by
    rw [isProduct, abs_signed_mul]
  have present : significand ≠ 0 := by
    rintro rfl
    rw [Nat.cast_zero, zero_mul, abs_eq_zero] at magnitude
    exact doubleNotZero magnitude
  have isNegative : negative = true ↔ value < 0 := by
    rw [← sign, isProduct, signed_mul_neg_iff, and_iff_left present]
  obtain ⟨power, isPower, least, greatest, above, below⟩ :=
    Scientific.logarithmFloor_spec (isStored_of_exact isExact) (Nat.pos_of_ne_zero present)
  rw [← magnitude] at above below
  have isWritten : locale.scientific? number =
      (Scientific.parts? number.toFloat.abs power).map fun parts =>
        (if value < 0 then ['-'] else []) ++ locale.joinDigits parts.1 1 none ++
          'E' :: (toString parts.2).toList := by
    simp only [scientific?, isExact, if_neg present, ← isPower, isNegative]
  have isMagnitude := value?_abs isDouble
  rcases le_or_gt (-308) power with atLeast | tiny
  · obtain ⟨digits, shown, isParts, normal⟩ :=
      Scientific.exists_parts above below isMagnitude atLeast greatest (ratio_close below close)
    refine .inl ⟨le_abs_of_le sameOrGreat above atLeast, _, ?_, digits, shown, normal, rfl⟩
    simp only [isWritten, isParts, Option.map_some, joinDigits_normal locale normal]
  · refine .inr ⟨abs_lt_of_lt sameOrGreat below close tiny, ?_⟩
    rw [isWritten, Scientific.parts?_eq_none isMagnitude (abs_ne_zero.mpr doubleNotZero) least tiny,
      Option.map_none]

/-- Zero has a notation of its own. -/
theorem scientific?_zero {number : Number} (isZero : number.value? = some 0) :
    locale.scientific? number = some ['0', 'E', '0'] := by
  have isDouble : Decimal.value? number.toFloat = some 0 := by
    cases number with
    | float double => exact isZero
    | int whole =>
        have isWhole : ((whole.toInt : ℤ) : ℚ) = 0 := Option.some_inj.mp isZero
        rw [Number.toFloat, Int.cast_eq_zero.mp isWhole]
        exact value?_pack_zero .positive
  obtain ⟨negative, significand, exponent, isExact, isProduct⟩ := exists_exact isDouble
  have none : significand = 0 := by
    have magnitude := abs_signed_mul negative significand exponent
    rw [← isProduct, abs_zero] at magnitude
    have positive : (2 : ℚ) ^ exponent ≠ 0 := by positivity
    exact Nat.cast_eq_zero.mp ((mul_eq_zero.mp magnitude.symm).resolve_right positive)
  simp only [scientific?, isExact, if_pos none]

/-- Every locale writes numbers from `10 ^ -308` on in scientific notation, and none below. -/
theorem writesScientific : locale.WritesScientific where
  zero isZero := by
    rw [formatNumber?, locale.scientific?_zero isZero]
    rfl
  normal isValue notZero isText := by
    obtain ⟨-, text, isWritten, shape⟩ | ⟨-, isNone⟩ := locale.scientific?_cases isValue notZero
    · rw [formatNumber?, isWritten] at isText
      cases isText
      rw [String.toList_ofList]
      exact shape
    · rw [formatNumber?, isNone] at isText
      cases isText
  total isValue great := by
    have notZero := abs_pos.mp (lt_of_lt_of_le (by positivity) great)
    obtain ⟨-, text, isWritten, -⟩ | ⟨less, -⟩ := locale.scientific?_cases isValue notZero
    · exact ⟨String.ofList text, congrArg (Option.map String.ofList) isWritten⟩
    · exact absurd great (not_le.mpr less)
  tiny isValue notZero isTiny := by
    obtain ⟨atLeast, -⟩ | ⟨-, isNone⟩ := locale.scientific?_cases isValue notZero
    · exact absurd isTiny (not_lt.mpr atLeast)
    · rw [formatNumber?, isNone]
      rfl

/-- The greatest double has a scientific notation, and the least one has none. -/
theorem writesScientific_limits :
    frFR.formatNumber? (.float 1.7976931348623157e308) .scientific = some "1,797693E308" ∧
      frFR.IsScientific greatestValue "1,797693E308".toList ∧
      frFR.formatNumber? (.float 5e-324) .scientific = none := by
  have isGreatest : exact 1.7976931348623157e308 = .finite false (2 ^ 53 - 1) 971 := by
    decide +kernel
  have isLeast : exact 5e-324 = .finite false 1 (-1074) := by
    decide +kernel
  have greatest : (Number.float 1.7976931348623157e308).value? = some greatestValue := by
    rw [Number.value?, Decimal.value?, isGreatest, Exact.value?, signed, greatestValue]
    norm_num
  have least : (Number.float 5e-324).value? = some (2 ^ (-1074 : ℤ)) := by
    rw [Number.value?, Decimal.value?, isLeast, Exact.value?, signed]
    norm_num
  have positive : 0 < greatestValue := mul_pos (by norm_num) (by positivity)
  have isText : frFR.formatNumber? (.float 1.7976931348623157e308) .scientific =
      some "1,797693E308" := by
    decide +kernel
  have isTiny : |(2 : ℚ) ^ (-1074 : ℤ)| < (1 - 1 / 10 ^ 13) * 10 ^ (-308 : ℤ) := by
    have smaller : (2 : ℚ) ^ (-1074 : ℤ) < 2 ^ (-1024 : ℤ) :=
      zpow_lt_zpow_right₀ (by norm_num) (by norm_num)
    have factor : (1 - 1 / 10 ^ 12 : ℚ) ≤ 1 - 1 / 10 ^ 13 := by norm_num
    rw [abs_of_pos (by positivity)]
    exact smaller.trans_le (range_of_doubles.1.trans
      (mul_le_mul_of_nonneg_right factor (by positivity)))
  exact ⟨isText, (writesScientific frFR).normal greatest positive.ne' isText,
    (writesScientific frFR).tiny least (by positivity) isTiny⟩

end Locale

end MessageTemplate
