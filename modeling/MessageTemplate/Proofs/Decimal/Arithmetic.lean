import Mathlib
import MessageTemplate.Proofs.Decimal.Values

/-! # Arithmetic on doubles

Products, quotients and whole numbers are rounded: the magnitude of the exact result goes to the
nearest double, and its sign stays (`value?_mul`, `value?_div`, `value?_ofInt`). A whole number of
at most 53 binary digits is exact (`IsRounding.eq_of_natCast`), and other numbers that are not tiny
keep all but a small part of their size (`IsRounding.abs_sub_le_mul`). Signs are changed and doubles
are compared as their values. -/

namespace MessageTemplate.Decimal

open Float.Model Float.Model.UnpackedFloat

/-! ## Rounding with a sign -/

/-- Whether the magnitude of a number is rounded and its sign kept. -/
def IsRounding (number result : ℚ) : Prop :=
  ∃ mantissa exponent, RoundsTo |number| mantissa exponent ∧
    result = SignType.sign number * (mantissa * 2 ^ exponent)

/-- Zero is rounded to itself. -/
theorem isRounding_zero : IsRounding 0 0 :=
  ⟨0, -1074, ⟨by simpa using IsNearestEven.natCast 0, Int.le_refl _, .inl rfl, by simp⟩, by simp⟩

namespace IsRounding

variable {number result : ℚ} (isRounding : IsRounding number result)

include isRounding

/-- A whole number of at most 53 binary digits is not changed by rounding. -/
theorem eq_of_natCast {whole : ℕ} (isWhole : |number| = whole) (small : whole ≤ 2 ^ 53) :
    result = number := by
  obtain ⟨mantissa, exponent, roundsTo, rfl⟩ := isRounding
  rw [roundsTo.eq_of_natCast isWhole small, sign_mul_abs]

/-- Away from the least doubles, the error of a rounding is small in relation to the number. -/
theorem abs_sub_le_mul (large : (2 : ℚ) ^ (-1024 : ℤ) ≤ |number|) :
    |result - number| ≤ 2 ^ (-51 : ℤ) * |number| := by
  obtain ⟨mantissa, exponent, roundsTo, rfl⟩ := isRounding
  have notZero : number ≠ 0 := abs_pos.mp (lt_of_lt_of_le (by positivity) large)
  have unit : |((SignType.sign number : SignType) : ℚ)| = 1 := by
    rcases lt_or_gt_of_ne notZero with negative | positive
    · rw [sign_neg negative, SignType.coe_neg_one, abs_neg, abs_one]
    · rw [sign_pos positive, SignType.coe_one, abs_one]
  have difference : (SignType.sign number : ℚ) * (mantissa * 2 ^ exponent) - number =
      SignType.sign number * (mantissa * 2 ^ exponent - |number|) := by
    rw [mul_sub, sign_mul_abs]
  rw [difference, abs_mul, unit, one_mul]
  exact roundsTo.abs_sub_le_mul large

end IsRounding

section Sign

variable (sign : Sign) {magnitude : ℚ} (positive : 0 < magnitude)

/-- The signs of a product multiply. -/
theorem unitOf_mul (left right : Sign) : unitOf (left * right) = unitOf left * unitOf right := by
  cases left <;> cases right <;> norm_num [unitOf, Sign.instMul]

/-- The signs of a quotient divide. -/
theorem unitOf_div (left right : Sign) : unitOf (left / right) = unitOf left / unitOf right := by
  have isProduct : left / right = left * right := by
    cases left <;> cases right <;> rfl
  rw [isProduct, unitOf_mul]
  cases right with
  | positive => exact (mul_one _).trans (div_one _).symm
  | negative =>
      show unitOf left * -1 = unitOf left / -1
      rw [div_neg, div_one, mul_neg, mul_one]

include positive

/-- The sign of a signed magnitude is the sign it was given. -/
theorem sign_unitOf_mul : (SignType.sign (unitOf sign * magnitude) : ℚ) = unitOf sign := by
  cases sign with
  | positive => simp [unitOf, sign_pos positive]
  | negative => simp [unitOf, sign_neg (neg_neg_of_pos positive)]

/-- The absolute value of a signed magnitude is the magnitude. -/
theorem abs_unitOf_mul : |unitOf sign * magnitude| = magnitude := by
  cases sign with
  | positive => simp [unitOf, abs_of_pos positive]
  | negative => simp [unitOf, abs_of_pos positive]

end Sign

/-- What stands for a fraction is rounded and stored, up to the greatest double. -/
theorem exists_value?_round {mantissa numerator denominator : ℕ} {exponent : ℤ}
    {accuracy : Accuracy} (standsFor : StandsFor (.ofMantissaAndAccuracy mantissa accuracy)
      numerator denominator)
    (numeratorPositive : 0 < numerator) (positive : 0 < denominator)
    (fine : 52 ≤ mantissa.log2 ∨ exponent ≤ -1074)
    (bounded : (numerator : ℚ) / denominator * 2 ^ exponent ≤ greatestValue) (sign : Sign) :
    ∃ result, value? (Float.ofModel (Float.Model.pack
        (roundWithAccuracy Format.binary64 sign mantissa exponent accuracy))) = some result ∧
      IsRounding (unitOf sign * ((numerator : ℚ) / denominator * 2 ^ exponent)) result := by
  obtain ⟨roundedMantissa, roundedExponent, roundsTo, isRounded⟩ :=
    exists_roundWithAccuracy positive standsFor fine sign
  have magnitude : 0 < (numerator : ℚ) / denominator * 2 ^ exponent := by positivity
  refine ⟨_, (congrArg (value? ∘ Float.ofModel ∘ Float.Model.pack) isRounded).trans
    (roundsTo.value?_pack bounded sign), roundedMantissa, roundedExponent, ?_, ?_⟩
  · rw [abs_unitOf_mul sign magnitude]
    exact roundsTo
  · rw [sign_unitOf_mul sign magnitude]

variable {double left right : Float} {number leftNumber rightNumber : ℚ}

/-! ## Signs -/

/-- The opposite of a double is exact. -/
theorem value?_neg (isValue : value? double = some number) :
    value? (-double) = some (-number) := by
  have isPacked : -double = Float.ofModel (Float.Model.pack double.toModel.unpack.neg) := rfl
  rw [isPacked]
  rcases unpack_cases isValue with ⟨sign, isUnpacked, rfl⟩ |
    ⟨sign, mantissa, exponent, positive, stored, isUnpacked, rfl⟩
  · rw [isUnpacked, neg_zero]
    exact value?_pack_zero (-sign)
  · have opposite : -unitOf sign = unitOf (-sign) := by
      cases sign with
      | positive => rfl
      | negative => exact neg_neg 1
    rw [isUnpacked, ← neg_mul, opposite]
    exact value?_pack_finite positive stored

/-- The absolute value of a double is exact. -/
theorem value?_abs (isValue : value? double = some number) :
    value? double.abs = some |number| := by
  have isPacked : double.abs = Float.ofModel (Float.Model.pack double.toModel.unpack.abs) := rfl
  rw [isPacked]
  rcases unpack_cases isValue with ⟨sign, isUnpacked, rfl⟩ |
    ⟨sign, mantissa, exponent, positive, stored, isUnpacked, rfl⟩
  · rw [isUnpacked, abs_zero]
    exact value?_pack_zero .positive
  · rw [isUnpacked, abs_unitOf_mul sign (by positivity), ← one_mul ((mantissa : ℚ) * 2 ^ exponent)]
    exact value?_pack_finite positive stored

/-! ## Products and quotients -/

/-- The product of two mantissas has digits enough to be rounded. -/
theorem le_log2_mul {leftMantissa rightMantissa : ℕ} {leftExponent rightExponent : ℤ}
    (leftStored : IsStored leftMantissa leftExponent)
    (rightStored : IsStored rightMantissa rightExponent) (leftPositive : 0 < leftMantissa)
    (rightPositive : 0 < rightMantissa) :
    52 ≤ (leftMantissa * rightMantissa).log2 ∨ leftExponent + rightExponent ≤ -1074 := by
  have notZero : leftMantissa * rightMantissa ≠ 0 := by positivity
  rw [Nat.le_log2 notZero]
  rcases leftStored.wide with leftLeast | leftWide
  · rcases rightStored.wide with rightLeast | rightWide
    · exact .inr (by omega)
    · exact .inl (rightWide.trans (Nat.le_mul_of_pos_left _ leftPositive))
  · exact .inl (leftWide.trans (Nat.le_mul_of_pos_right _ rightPositive))

/-- A product of doubles is the rounded exact product, unless that exceeds the greatest double. -/
theorem value?_mul (isLeft : value? left = some leftNumber)
    (isRight : value? right = some rightNumber)
    (bounded : |leftNumber * rightNumber| ≤ greatestValue) :
    ∃ result, value? (left * right) = some result ∧
      IsRounding (leftNumber * rightNumber) result := by
  have isPacked : left * right = Float.ofModel (Float.Model.pack
      (UnpackedFloat.mul Format.binary64 left.toModel.unpack right.toModel.unpack)) := rfl
  rw [isPacked]
  rcases unpack_cases isLeft with ⟨leftSign, isLeftUnpacked, rfl⟩ |
    ⟨leftSign, leftMantissa, leftExponent, leftPositive, leftStored, isLeftUnpacked, rfl⟩
  · rw [isLeftUnpacked, zero_mul]
    refine ⟨0, ?_, isRounding_zero⟩
    rcases unpack_cases isRight with ⟨rightSign, isRightUnpacked, -⟩ |
      ⟨rightSign, _, _, _, -, isRightUnpacked, -⟩
    · rw [isRightUnpacked]
      exact value?_pack_zero (leftSign * rightSign)
    · rw [isRightUnpacked]
      exact value?_pack_zero (leftSign * rightSign)
  · rcases unpack_cases isRight with ⟨rightSign, isRightUnpacked, rfl⟩ |
      ⟨rightSign, rightMantissa, rightExponent, rightPositive, rightStored, isRightUnpacked, rfl⟩
    · rw [isLeftUnpacked, isRightUnpacked, mul_zero]
      exact ⟨0, value?_pack_zero (leftSign * rightSign), isRounding_zero⟩
    · have product : unitOf leftSign * (leftMantissa * 2 ^ leftExponent) *
          (unitOf rightSign * (rightMantissa * 2 ^ rightExponent)) =
            unitOf (leftSign * rightSign) * (((leftMantissa * rightMantissa : ℕ) : ℚ) / (1 : ℕ) *
              2 ^ (leftExponent + rightExponent)) := by
        rw [zpow_add₀ (by norm_num), unitOf_mul, Nat.cast_mul, Nat.cast_one, div_one]
        ring
      have positive : 0 < leftMantissa * rightMantissa := Nat.mul_pos leftPositive rightPositive
      rw [product, abs_unitOf_mul _ (by positivity)] at bounded
      rw [isLeftUnpacked, isRightUnpacked, product]
      exact exists_value?_round (standsFor_exact _) positive Nat.one_pos
        (le_log2_mul leftStored rightStored leftPositive rightPositive) bounded _

/-- The quotient of two mantissas has digits enough to be rounded. -/
theorem le_log2_div {leftMantissa rightMantissa places : ℕ}
    (leftPositive : 0 < leftMantissa) (rightPositive : 0 < rightMantissa)
    (shifted : rightMantissa.log2 + 53 ≤ leftMantissa.log2 + places) :
    52 ≤ (leftMantissa <<< places / rightMantissa).log2 := by
  have atLeast : 2 ^ 52 ≤ leftMantissa <<< places / rightMantissa := by
    rw [Nat.shiftLeft_eq, Nat.le_div_iff_mul_le rightPositive]
    calc 2 ^ 52 * rightMantissa ≤ 2 ^ 52 * 2 ^ (rightMantissa.log2 + 1) :=
          Nat.mul_le_mul_left _ Nat.lt_log2_self.le
      _ = 2 ^ (rightMantissa.log2 + 53) := by
          rw [← Nat.pow_add]
          congr 1
          omega
      _ ≤ 2 ^ (leftMantissa.log2 + places) := Nat.pow_le_pow_right (by decide) shifted
      _ ≤ leftMantissa * 2 ^ places := by
          rw [Nat.pow_add]
          exact Nat.mul_le_mul_right _ (Nat.log2_self_le (Nat.ne_of_gt leftPositive))
  exact (Nat.le_log2 (by omega)).mpr atLeast

/-- The exponent of a quotient is chosen so that it has digits enough to be rounded. -/
theorem divCore_eq {leftMantissa rightMantissa : ℕ} (leftExponent rightExponent : ℤ)
    (leftPositive : 0 < leftMantissa) (rightPositive : 0 < rightMantissa) :
    ∃ places : ℕ,
      divCore Format.binary64 leftMantissa leftExponent rightMantissa rightExponent =
        (leftMantissa <<< places / rightMantissa, leftExponent - rightExponent - places,
          accuracyOfFraction (leftMantissa <<< places % rightMantissa) rightMantissa) ∧
      (52 ≤ (leftMantissa <<< places / rightMantissa).log2 ∨
        leftExponent - rightExponent - places ≤ -1074) := by
  have minExponent : Format.binary64.minExponent = -1074 := by decide
  have mantissaBits : Format.binary64.mantissaBits = 53 := by decide
  obtain ⟨target, isTarget⟩ : ∃ target, target = min (leftExponent - rightExponent)
      (Format.binary64.targetExponent (totalExponent leftMantissa leftExponent -
        totalExponent rightMantissa rightExponent)) := ⟨_, rfl⟩
  obtain ⟨places, isPlaces⟩ : ∃ places : ℕ,
      (places : ℤ) = leftExponent - rightExponent - target :=
    ⟨_, Int.toNat_of_nonneg (by omega)⟩
  refine ⟨places, ?_, ?_⟩
  · have amount : (leftExponent - rightExponent - target).toNat = places := by omega
    have exponent : target = leftExponent - rightExponent - places := by omega
    simp only [divCore, ← isTarget, amount]
    rw [exponent]
  · rw [Format.targetExponent, totalExponent, totalExponent, minExponent, mantissaBits] at isTarget
    by_cases tiny : leftExponent - rightExponent - places ≤ -1074
    · exact .inr tiny
    · exact .inl (le_log2_div leftPositive rightPositive (by omega))

/-- A quotient of doubles is the rounded exact quotient, unless that exceeds the greatest double. -/
theorem value?_div (isLeft : value? left = some leftNumber)
    (isRight : value? right = some rightNumber) (notZero : rightNumber ≠ 0)
    (bounded : |leftNumber / rightNumber| ≤ greatestValue) :
    ∃ result, value? (left / right) = some result ∧
      IsRounding (leftNumber / rightNumber) result := by
  have isPacked : left / right = Float.ofModel (Float.Model.pack
      (UnpackedFloat.div Format.binary64 left.toModel.unpack right.toModel.unpack)) := rfl
  rw [isPacked]
  rcases unpack_cases isRight with ⟨rightSign, -, isZero⟩ |
    ⟨rightSign, rightMantissa, rightExponent, rightPositive, rightStored, isRightUnpacked, rfl⟩
  · exact absurd isZero notZero
  · rcases unpack_cases isLeft with ⟨leftSign, isLeftUnpacked, rfl⟩ |
      ⟨leftSign, leftMantissa, leftExponent, leftPositive, leftStored, isLeftUnpacked, rfl⟩
    · rw [isLeftUnpacked, isRightUnpacked, zero_div]
      exact ⟨0, value?_pack_zero (leftSign / rightSign), isRounding_zero⟩
    · obtain ⟨places, isQuotient, fine⟩ :=
        divCore_eq leftExponent rightExponent leftPositive rightPositive
      have quotient : unitOf leftSign * (leftMantissa * 2 ^ leftExponent) /
          (unitOf rightSign * (rightMantissa * 2 ^ rightExponent)) =
            unitOf (leftSign / rightSign) * (((leftMantissa <<< places : ℕ) : ℚ) / rightMantissa *
              2 ^ (leftExponent - rightExponent - places)) := by
        rw [zpow_sub₀ (by norm_num), zpow_sub₀ (by norm_num), zpow_natCast, unitOf_div,
          Nat.shiftLeft_eq, Nat.cast_mul, Nat.cast_pow, Nat.cast_ofNat]
        field_simp
      have positive : 0 < leftMantissa <<< places := by
        rw [Nat.shiftLeft_eq]
        positivity
      rw [quotient, abs_unitOf_mul _ (by positivity)] at bounded
      rw [isLeftUnpacked, isRightUnpacked, quotient]
      have isDivided : UnpackedFloat.div Format.binary64
          (.finite leftSign leftMantissa leftExponent leftPositive)
          (.finite rightSign rightMantissa rightExponent rightPositive) =
            roundWithAccuracy Format.binary64 (leftSign / rightSign)
              (leftMantissa <<< places / rightMantissa) (leftExponent - rightExponent - places)
              (accuracyOfFraction (leftMantissa <<< places % rightMantissa) rightMantissa) := by
        rw [UnpackedFloat.div, isQuotient]
      rw [isDivided]
      exact exists_value?_round (standsFor_ofFraction _ rightPositive) positive rightPositive fine
        bounded _

/-- Divided by zero, no number but zero has a value. -/
theorem value?_div_zero (isLeft : value? left = some leftNumber) (notZero : leftNumber ≠ 0)
    (isRight : value? right = some 0) : value? (left / right) = none := by
  have isPacked : left / right = Float.ofModel (Float.Model.pack
      (UnpackedFloat.div Format.binary64 left.toModel.unpack right.toModel.unpack)) := rfl
  rw [isPacked]
  rcases unpack_cases isLeft with ⟨leftSign, -, isZero⟩ |
    ⟨leftSign, leftMantissa, leftExponent, leftPositive, -, isLeftUnpacked, -⟩
  · exact absurd isZero notZero
  · rcases unpack_cases isRight with ⟨rightSign, isRightUnpacked, -⟩ |
      ⟨rightSign, rightMantissa, rightExponent, rightPositive, -, -, isProduct⟩
    · rw [isLeftUnpacked, isRightUnpacked]
      show value? (Float.ofModel (Float.Model.pack (.infinity (leftSign / rightSign)))) = none
      cases leftSign / rightSign <;> rfl
    · have magnitude : |unitOf rightSign * (rightMantissa * 2 ^ rightExponent)| =
          rightMantissa * 2 ^ rightExponent :=
        abs_unitOf_mul rightSign (by positivity)
      rw [← isProduct, abs_zero] at magnitude
      exact absurd magnitude.symm (by positivity)

/-! ## Whole numbers -/

/-- The double one is one. -/
theorem value?_one : value? 1 = some 1 := by
  have isExact : exact 1 = .finite false (2 ^ 52) (-52) := by decide
  rw [value?, isExact, Exact.value?, signed]
  norm_num

section Whole

variable {whole : ℕ}

/-- Whole numbers are rounded from shifted mantissas. -/
theorem exists_value?_shifted (positive : 0 < whole) {places : ℕ}
    (fine : 52 ≤ whole.log2 + places) (bounded : (whole : ℚ) ≤ greatestValue) :
    ∃ result, value? (Float.ofModel (Float.Model.pack (roundWithAccuracy Format.binary64 .positive
        (whole <<< places) (-places) .exact))) = some result ∧ IsRounding whole result := by
  have notZero : whole ≠ 0 := Nat.ne_of_gt positive
  have stillPositive : 0 < whole <<< places := by
    rw [Nat.shiftLeft_eq]
    positivity
  have atLeast : 2 ^ (whole.log2 + places) ≤ whole <<< places := by
    rw [Nat.shiftLeft_eq, Nat.pow_add]
    exact Nat.mul_le_mul_right _ (Nat.log2_self_le notZero)
  have digits : 52 ≤ (whole <<< places).log2 :=
    fine.trans ((Nat.le_log2 (Nat.ne_of_gt stillPositive)).mpr atLeast)
  have same : ((whole <<< places : ℕ) : ℚ) / (1 : ℕ) * 2 ^ (-places : ℤ) = whole := by
    rw [Nat.shiftLeft_eq, zpow_neg, zpow_natCast, Nat.cast_one, Nat.cast_mul, Nat.cast_pow,
      Nat.cast_ofNat]
    field_simp
  have isRounded := exists_value?_round (standsFor_exact (whole <<< places)) stillPositive
    Nat.one_pos (.inl digits) (same.trans_le bounded) .positive
  rwa [same, unitOf, one_mul] at isRounded

/-- Of at most 53 binary digits, a whole number is multiplied by the double of one. -/
theorem ofNat_of_lt (small : whole < 2 ^ 53) :
    Float.ofNat whole =
      Float.ofModel (Float.Model.pack (UnpackedFloat.ofNat Format.binary64 whole)) * 1 := by
  have isWhole : whole.toUInt64.toNat = whole := Nat.mod_eq_of_lt (by omega)
  show Float.ofScientific whole false 0 = _
  rw [Float.ofScientific, dif_pos ⟨small, Nat.zero_le 22⟩]
  exact congrArg (fun whole =>
    Float.ofModel (Float.Model.pack (UnpackedFloat.ofNat Format.binary64 whole)) * 1) isWhole

/-- From 53 binary digits on, a natural number becomes a double as a decimal without places does. -/
theorem ofNat_of_ge (large : ¬whole < 2 ^ 53) :
    Float.ofNat whole =
      Float.ofModel (Float.Model.pack (UnpackedFloat.ofScientific Format.binary64 whole 0)) := by
  show Float.ofScientific whole false 0 = _
  rw [Float.ofScientific, dif_neg fun both => large both.1]
  rfl

/-- Numbers of 64 bits do not exceed the greatest double. -/
theorem natCast_le_greatestValue (small : whole ≤ 2 ^ 64) :
    (whole : ℚ) ≤ greatestValue := by
  have bounded : (whole : ℚ) ≤ (2 ^ 53 - 1) * 2 ^ (12 : ℤ) := by
    have cast : (whole : ℚ) ≤ (2 ^ 64 : ℕ) := Nat.cast_le.mpr small
    norm_num at cast ⊢
    linarith
  exact bounded.trans (mul_le_mul_of_nonneg_left
    (zpow_le_zpow_right₀ (by norm_num) (by norm_num)) (by norm_num))

/-- The double of a number of at most 53 binary digits. -/
theorem value?_ofNat_unpacked (small : whole < 2 ^ 53) :
    value? (Float.ofModel (Float.Model.pack (UnpackedFloat.ofNat Format.binary64 whole))) =
      some (whole : ℚ) := by
  rcases Nat.eq_zero_or_pos whole with rfl | positive
  · exact value?_pack_zero .positive
  · have few : whole.log2 ≤ 52 :=
      Nat.le_of_lt_succ ((Nat.log2_lt (Nat.ne_of_gt positive)).mpr small)
    have greater : compare (whole : ℤ) 0 = .gt := Int.compare_eq_gt.mpr (by omega)
    have target : Format.binary64.targetExponent (totalExponent whole 0) = whole.log2 - 52 := by
      rw [targetExponent_totalExponent]
      omega
    have places : (-((whole.log2 : ℤ) - 52)).toNat = 52 - whole.log2 := by omega
    have isRounded : UnpackedFloat.ofNat Format.binary64 whole =
        roundWithAccuracy Format.binary64 .positive (whole <<< (52 - whole.log2))
          (-((52 - whole.log2 : ℕ) : ℤ)) .exact := by
      simp only [UnpackedFloat.ofNat, UnpackedFloat.ofInt, UnpackedFloat.normalize, greater,
        UnpackedFloat.round, decreaseExponent, Int.toNat_natCast, target, Int.zero_sub, places]
    have enough : 52 ≤ whole.log2 + (52 - whole.log2) := by omega
    obtain ⟨result, isValue, isRounding⟩ := exists_value?_shifted positive enough
      (natCast_le_greatestValue (small.le.trans (by decide)))
    rw [isRounded, isValue,
      isRounding.eq_of_natCast (abs_of_nonneg (Nat.cast_nonneg whole)) small.le]

/-- A natural number becomes the double that it is rounded to. -/
theorem value?_ofNat (bounded : (whole : ℚ) ≤ greatestValue) :
    ∃ result, value? (Float.ofNat whole) = some result ∧ IsRounding whole result := by
  by_cases small : whole < 2 ^ 53
  · have product := value?_mul (value?_ofNat_unpacked small) value?_one
    rw [mul_one, abs_of_nonneg (Nat.cast_nonneg whole)] at product
    rw [ofNat_of_lt small]
    exact product bounded
  · have notZero : whole ≠ 0 := by omega
    have isRounded : UnpackedFloat.ofScientific Format.binary64 whole 0 =
        roundWithAccuracy Format.binary64 .positive (whole <<< 53 * 10 ^ 0) (-53 + 0) .exact := by
      have inRange : ¬(0 : ℤ) > 2 ^ Format.binary64.exponentBits := by decide
      have bits : Format.binary64.exponentBits = 11 := by decide
      have notTiny : ¬(0 : ℤ) < -((2 ^ Format.binary64.exponentBits : ℤ) + whole.log2) := by
        rw [bits]
        omega
      rw [UnpackedFloat.ofScientific, dif_neg notZero, if_neg inRange, if_neg notTiny,
        if_pos (Int.le_refl 0)]
      rfl
    rw [ofNat_of_ge small, isRounded, Nat.pow_zero, Nat.mul_one]
    exact exists_value?_shifted (Nat.pos_of_ne_zero notZero) (by omega) bounded

end Whole

/-- A whole number as a double. -/
theorem value?_ofInt {whole : ℤ} (bounded : |(whole : ℚ)| ≤ greatestValue) :
    ∃ result, value? (Float.ofInt whole) = some result ∧ IsRounding whole result := by
  cases whole with
  | ofNat whole =>
      rw [Int.ofNat_eq_natCast, Int.cast_natCast, abs_of_nonneg (Nat.cast_nonneg whole)] at bounded
      rw [Int.ofNat_eq_natCast, Int.cast_natCast]
      exact value?_ofNat bounded
  | negSucc whole =>
      have opposite : ((Int.negSucc whole : ℤ) : ℚ) = -((whole + 1 : ℕ) : ℚ) := by
        push_cast
        ring
      rw [opposite, abs_neg, abs_of_nonneg (Nat.cast_nonneg _)] at bounded
      obtain ⟨result, isValue, mantissa, exponent, roundsTo, isResult⟩ := value?_ofNat bounded
      refine ⟨-result, value?_neg isValue, mantissa, exponent, ?_, ?_⟩
      · rw [opposite, abs_neg]
        exact roundsTo
      · rw [opposite, isResult, Left.sign_neg, SignType.coe_neg, neg_mul]

/-- A whole number of at most 53 binary digits becomes a double without an error. -/
theorem value?_ofInt_of_le {whole : ℤ} (small : whole.natAbs ≤ 2 ^ 53) :
    value? (Float.ofInt whole) = some (whole : ℚ) := by
  have magnitude : |(whole : ℚ)| = (whole.natAbs : ℕ) := by
    rw [Nat.cast_natAbs, Int.cast_abs]
  obtain ⟨result, isValue, isRounding⟩ :=
    value?_ofInt (magnitude.trans_le (natCast_le_greatestValue (small.trans (by decide))))
  rw [isValue, isRounding.eq_of_natCast magnitude small]

/-! ## Comparison -/

/-- A mantissa that is stored with a greater exponent is a greater number. -/
theorem lt_of_exponent_lt {leftMantissa rightMantissa : ℕ} {leftExponent rightExponent : ℤ}
    (leftStored : IsStored leftMantissa leftExponent)
    (rightStored : IsStored rightMantissa rightExponent) (less : leftExponent < rightExponent) :
    (leftMantissa : ℚ) * 2 ^ leftExponent < rightMantissa * 2 ^ rightExponent := by
  have least := leftStored.least
  have fits : (leftMantissa : ℚ) < (2 ^ 53 : ℕ) := Nat.cast_lt.mpr leftStored.fits
  exact (mul_lt_mul_of_pos_right fits (by positivity)).trans_le
    (pow_mul_le (rightStored.wide.resolve_left (by omega)) less)

/-- Mantissas that are stored are compared by their exponents first. -/
theorem compare_stored {leftMantissa rightMantissa : ℕ} {leftExponent rightExponent : ℤ}
    (leftStored : IsStored leftMantissa leftExponent)
    (rightStored : IsStored rightMantissa rightExponent) :
    (compare leftExponent rightExponent).then (compare leftMantissa rightMantissa) =
      compare ((leftMantissa : ℚ) * 2 ^ leftExponent) (rightMantissa * 2 ^ rightExponent) := by
  rcases lt_trichotomy leftExponent rightExponent with less | rfl | greater
  · rw [compare_lt_iff_lt.mpr less,
      compare_lt_iff_lt.mpr (lt_of_exponent_lt leftStored rightStored less)]
    rfl
  · have positive : (0 : ℚ) < 2 ^ leftExponent := by positivity
    rw [compare_eq_iff_eq.mpr rfl, Ordering.then]
    rcases lt_trichotomy leftMantissa rightMantissa with less | rfl | greater
    · rw [compare_lt_iff_lt.mpr less, compare_lt_iff_lt.mpr
        (mul_lt_mul_of_pos_right (Nat.cast_lt.mpr less) positive)]
    · rw [compare_eq_iff_eq.mpr rfl, compare_eq_iff_eq.mpr rfl]
    · rw [compare_gt_iff_gt.mpr greater, compare_gt_iff_gt.mpr
        (mul_lt_mul_of_pos_right (Nat.cast_lt.mpr greater) positive)]
  · rw [compare_gt_iff_gt.mpr greater,
      compare_gt_iff_gt.mpr (lt_of_exponent_lt rightStored leftStored greater)]
    rfl

/-- A number is stored in one way only. -/
theorem IsStored.unique {leftMantissa rightMantissa : ℕ} {leftExponent rightExponent : ℤ}
    (leftStored : IsStored leftMantissa leftExponent)
    (rightStored : IsStored rightMantissa rightExponent)
    (same : (leftMantissa : ℚ) * 2 ^ leftExponent = rightMantissa * 2 ^ rightExponent) :
    leftMantissa = rightMantissa ∧ leftExponent = rightExponent := by
  have isEqual := compare_stored leftStored rightStored
  rw [compare_eq_iff_eq.mpr same, Ordering.then_eq_eq] at isEqual
  exact ⟨compare_eq_iff_eq.mp isEqual.2, compare_eq_iff_eq.mp isEqual.1⟩

/-- Opposites compare the other way round. -/
theorem compare_neg (left right : ℚ) : compare (-left) (-right) = (compare left right).swap := by
  rcases lt_trichotomy left right with less | rfl | greater
  · rw [compare_lt_iff_lt.mpr less, compare_gt_iff_gt.mpr (neg_lt_neg less)]
    rfl
  · rw [compare_eq_iff_eq.mpr rfl, compare_eq_iff_eq.mpr rfl]
    rfl
  · rw [compare_gt_iff_gt.mpr greater, compare_lt_iff_lt.mpr (neg_lt_neg greater)]
    rfl

/-- Doubles are compared as their values. -/
theorem compare_unpack (isLeft : value? left = some leftNumber)
    (isRight : value? right = some rightNumber) :
    left.toModel.unpack.compare right.toModel.unpack =
      some (compare leftNumber rightNumber) := by
  rcases unpack_cases isLeft with ⟨leftSign, isLeftUnpacked, rfl⟩ |
    ⟨leftSign, leftMantissa, leftExponent, leftPositive, leftStored, isLeftUnpacked, rfl⟩
  · rcases unpack_cases isRight with ⟨rightSign, isRightUnpacked, rfl⟩ |
      ⟨rightSign, rightMantissa, rightExponent, rightPositive, -, isRightUnpacked, rfl⟩
    · rw [isLeftUnpacked, isRightUnpacked, compare_eq_iff_eq.mpr rfl]
      rfl
    · rw [isLeftUnpacked, isRightUnpacked]
      have positive : (0 : ℚ) < rightMantissa * 2 ^ rightExponent := by positivity
      cases rightSign with
      | positive =>
          rw [unitOf, one_mul, compare_lt_iff_lt.mpr positive]
          rfl
      | negative =>
          rw [unitOf, neg_one_mul, compare_gt_iff_gt.mpr (neg_neg_of_pos positive)]
          rfl
  · have leftMagnitude : (0 : ℚ) < leftMantissa * 2 ^ leftExponent := by positivity
    rcases unpack_cases isRight with ⟨rightSign, isRightUnpacked, rfl⟩ |
      ⟨rightSign, rightMantissa, rightExponent, rightPositive, rightStored, isRightUnpacked, rfl⟩
    · rw [isLeftUnpacked, isRightUnpacked]
      cases leftSign with
      | positive =>
          rw [unitOf, one_mul, compare_gt_iff_gt.mpr leftMagnitude]
          rfl
      | negative =>
          rw [unitOf, neg_one_mul, compare_lt_iff_lt.mpr (neg_neg_of_pos leftMagnitude)]
          rfl
    · have rightMagnitude : (0 : ℚ) < rightMantissa * 2 ^ rightExponent := by positivity
      -- Of two numbers of one sign the magnitudes decide, the other way round below zero.
      have magnitudes := compare_stored leftStored rightStored
      rw [isLeftUnpacked, isRightUnpacked]
      cases leftSign with
      | positive =>
          rw [unitOf, one_mul]
          cases rightSign with
          | positive =>
              rw [unitOf, one_mul]
              exact congrArg some magnitudes
          | negative =>
              rw [unitOf, neg_one_mul, compare_gt_iff_gt.mpr (by linarith)]
              rfl
      | negative =>
          rw [unitOf, neg_one_mul]
          cases rightSign with
          | positive =>
              rw [unitOf, one_mul, compare_lt_iff_lt.mpr (by linarith)]
              rfl
          | negative =>
              rw [unitOf, neg_one_mul, compare_neg]
              exact congrArg (some ∘ Ordering.swap) magnitudes

/-- Doubles compare as the numbers that they stand for. -/
theorem lt_iff (isLeft : value? left = some leftNumber)
    (isRight : value? right = some rightNumber) : left < right ↔ leftNumber < rightNumber := by
  have compared : left < right ↔
      (left.toModel.unpack.compare right.toModel.unpack == some .lt) = true :=
    decide_eq_true_iff
  rw [compared, compare_unpack isLeft isRight, ← compare_lt_iff_lt, beq_iff_eq, Option.some_inj]

/-- Doubles compare as the numbers that they stand for, equality included. -/
theorem le_iff (isLeft : value? left = some leftNumber)
    (isRight : value? right = some rightNumber) : left ≤ right ↔ leftNumber ≤ rightNumber := by
  have compared : left ≤ right ↔
      (left.toModel.unpack.compare right.toModel.unpack).any (·.isLE) = true :=
    decide_eq_true_iff
  rw [compared, compare_unpack isLeft isRight, Option.any_some, ← compare_le_iff_le,
    Ordering.isLE_iff_ne_gt]

end MessageTemplate.Decimal
