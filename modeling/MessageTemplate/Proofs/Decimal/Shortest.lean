import Mathlib
import MessageTemplate.Decimal.Written
import MessageTemplate.Proofs.Decimal.Arithmetic
import MessageTemplate.Proofs.Decimal.Digits

/-! # Whole numbers in shortest form

Below `2 ^ 53` the reals that read back as a whole number hold no other whole number, so that the
shortest decimal is the number itself without the zeros at its end, and they are written again:
`plainForm_write`. Fractions and greater doubles are not described here. -/

namespace MessageTemplate.Decimal

/-! ## The grids of a whole number -/

namespace Interval

/-- Whether an interval lies around a whole number and does not reach to another one. -/
structure Surrounds (interval : Interval) (whole : ℕ) : Prop where
  value : interval.value = whole * interval.denominator
  below : interval.lower < interval.value
  near_below : interval.value ≤ interval.lower + 2
  above : interval.value < interval.upper
  near_above : interval.upper ≤ interval.value + 2
  wide : 2 < interval.denominator

namespace Surrounds

variable {interval : Interval} {whole : ℕ} (surrounds : interval.Surrounds whole) (tie : Tie)

include surrounds

/-- A decimal without places after the point lies in the interval exactly if it is the whole number
itself. -/
theorem contains_iff (digits places : ℕ) :
    interval.contains ⟨digits, places⟩ = true ↔ digits * tenTo places = whole := by
  obtain ⟨value, below, nearBelow, above, nearAbove, wide⟩ := surrounds
  have unit : tenTo (-(places : ℤ)).toNat = 1 := by
    rw [Int.toNat_of_nonpos (by omega), tenTo_zero]
  simp only [contains, Int.toNat_natCast, unit, Nat.mul_one]
  generalize digits * tenTo places = point
  have inside : (if interval.closed = true then
        decide (interval.lower ≤ point * interval.denominator) &&
          decide (point * interval.denominator ≤ interval.upper)
      else decide (interval.lower < point * interval.denominator) &&
          decide (point * interval.denominator < interval.upper)) = true →
      interval.value ≤ point * interval.denominator + 2 ∧
        point * interval.denominator ≤ interval.value + 2 := by
    split
    · rw [Bool.and_eq_true, decide_eq_true_iff, decide_eq_true_iff]
      omega
    · rw [Bool.and_eq_true, decide_eq_true_iff, decide_eq_true_iff]
      omega
  constructor
  · intro contained
    obtain ⟨notBelow, notAbove⟩ := inside contained
    rw [value] at notBelow notAbove
    -- Another whole number is a whole denominator away, and the interval is narrower than that.
    rcases Nat.lt_trichotomy point whole with less | same | more
    · have apart := Nat.mul_le_mul_right interval.denominator less
      rw [Nat.succ_mul] at apart
      omega
    · exact same
    · have apart := Nat.mul_le_mul_right interval.denominator more
      rw [Nat.succ_mul] at apart
      omega
  · rintro rfl
    rw [← value]
    simp [below, above, below.le, above.le]

/-- A grid holds a whole number where it is a multiple, and nothing else in the interval. -/
theorem onGrid?_eq (places : ℕ) :
    interval.onGrid? tie places =
      if tenTo places ∣ whole then some ⟨whole / tenTo places, places⟩ else none := by
  have positive : 0 < interval.denominator := by
    have wide := surrounds.wide
    omega
  have unit : tenTo (-(places : ℤ)).toNat = 1 := by
    rw [Int.toNat_of_nonpos (by omega), tenTo_zero]
  have quotient : interval.value * 1 / (interval.denominator * tenTo places) =
      whole / tenTo places := by
    rw [Nat.mul_one, surrounds.value, ← Nat.div_div_eq_div_mul, Nat.mul_div_cancel _ positive]
  have isBelow := surrounds.contains_iff (whole / tenTo places) places
  have isAbove := surrounds.contains_iff (whole / tenTo places + 1) places
  have greater : whole < (whole / tenTo places + 1) * tenTo places :=
    Nat.lt_mul_of_div_lt (Nat.lt_succ_self _) (Nat.pow_pos (by decide))
  have notAbove : interval.contains ⟨whole / tenTo places + 1, places⟩ = false :=
    Bool.eq_false_iff.mpr fun contained => greater.ne' (isAbove.mp contained)
  simp only [onGrid?, Int.toNat_natCast, unit, quotient, notAbove]
  by_cases divides : tenTo places ∣ whole
  · rw [isBelow.mpr (Nat.div_mul_cancel divides), if_pos divides]
  · have notBelow : interval.contains ⟨whole / tenTo places, places⟩ = false :=
      Bool.eq_false_iff.mpr fun contained => divides ⟨_, (isBelow.mp contained).symm.trans
        (Nat.mul_comm _ _)⟩
    rw [notBelow, if_neg divides]

/-- The search ends at the last at the grid of the whole numbers. -/
theorem search_eq {attempts places : ℕ} (enough : places < attempts) :
    ∃ found : ℕ, tenTo found ∣ whole ∧
      interval.search tie attempts places = ⟨whole / tenTo found, found⟩ := by
  induction places generalizing attempts with
  | zero =>
      obtain ⟨attempts, rfl⟩ := Nat.exists_eq_add_of_lt enough
      refine ⟨0, Nat.one_dvd whole, ?_⟩
      have divides : tenTo 0 ∣ whole := Nat.one_dvd whole
      rw [search, surrounds.onGrid?_eq tie 0, if_pos divides]
  | succ places inductionHypothesis =>
      obtain ⟨attempts, rfl⟩ :=
        Nat.exists_eq_add_one_of_ne_zero (Nat.ne_of_gt (Nat.zero_lt_of_lt enough))
      rw [search, surrounds.onGrid?_eq tie (places + 1)]
      by_cases divides : tenTo (places + 1) ∣ whole
      · rw [if_pos divides]
        exact ⟨places + 1, divides, rfl⟩
      · have next : ((places + 1 : ℕ) : ℤ) - 1 = places := by omega
        rw [if_neg divides, next]
        exact inductionHypothesis (Nat.lt_of_succ_lt_succ enough)

end Surrounds

end Interval

/-! ## The shortest decimal -/

section Whole

variable {significand whole : ℕ} {exponent : ℤ}

/-- A whole number of at most 53 binary digits is stored with an exponent that is not positive. -/
theorem exists_shift (stored : IsStored significand exponent)
    (isWhole : (significand : ℚ) * 2 ^ exponent = whole) (small : whole < 2 ^ 53) :
    ∃ places : ℕ, exponent = -places ∧ significand = whole * 2 ^ places := by
  have notPositive : exponent ≤ 0 := by
    by_contra positive
    have wide : ((2 ^ 52 : ℕ) : ℚ) ≤ significand :=
      Nat.cast_le.mpr (stored.wide.resolve_left (by omega))
    have great : (2 : ℚ) ^ (1 : ℤ) ≤ 2 ^ exponent :=
      zpow_le_zpow_right₀ (by norm_num) (by omega)
    have beyond : ((2 ^ 53 : ℕ) : ℚ) ≤ whole := by
      rw [← isWhole]
      calc ((2 ^ 53 : ℕ) : ℚ) = (2 ^ 52 : ℕ) * 2 ^ (1 : ℤ) := by norm_num
        _ ≤ significand * 2 ^ exponent := mul_le_mul wide great (by norm_num) (by positivity)
    exact absurd (Nat.cast_le.mp beyond) (Nat.not_le.mpr small)
  obtain ⟨places, rfl⟩ := Int.exists_eq_neg_ofNat notPositive
  refine ⟨places, rfl, ?_⟩
  rw [zpow_neg, zpow_natCast, mul_inv_eq_iff_eq_mul₀ (by positivity)] at isWhole
  exact_mod_cast isWhole

/-- The numbers that are read as a whole double below 2 to the power of 53 include no other whole
number. -/
theorem surrounds_interval (stored : IsStored significand exponent)
    (isWhole : (significand : ℚ) * 2 ^ exponent = whole) (positive : 0 < whole)
    (small : whole < 2 ^ 53) : (interval significand exponent).Surrounds whole := by
  obtain ⟨places, rfl, isSignificand⟩ := exists_shift stored isWhole small
  have scale : twoTo (-(places : ℤ) - 2).toNat = 1 := by
    rw [Int.toNat_of_nonpos (by omega), twoTo_zero]
  have exponent : (-(-(places : ℤ) - 2)).toNat = places + 2 := by omega
  have atLeast : 0 < significand := by
    rw [isSignificand]
    positivity
  have value : 4 * significand = whole * 2 ^ (places + 2) := by
    rw [isSignificand, Nat.pow_add]
    ring
  have wide : 2 < 2 ^ (places + 2) := by
    have power := Nat.two_pow_pos places
    rw [Nat.pow_add]
    omega
  -- Below a power of two the doubles lie twice as close, so the lower gap may be half the upper
  -- one.
  obtain ⟨gap, few, isInterval⟩ : ∃ gap, (gap = 1 ∨ gap = 2) ∧
      interval significand (-places) = ⟨4 * significand - gap, 4 * significand, 4 * significand + 2,
        2 ^ (places + 2), significand % 2 == 0⟩ := by
    refine ⟨if significand = twoTo 52 ∧ -1074 < -(places : ℤ) then 1 else 2, ?_, ?_⟩
    · split
      · exact .inl rfl
      · exact .inr rfl
    · simp only [interval, denominator, scale, exponent, Nat.mul_one, twoTo_eq]
  rw [isInterval]
  constructor
  case value => exact value
  case below => exact Nat.sub_lt (by omega) (by omega)
  case near_below =>
    show 4 * significand ≤ 4 * significand - gap + 2
    omega
  case above => exact Nat.lt_add_of_pos_right (by decide)
  case near_above => exact Nat.le_refl _
  case wide => exact wide

/-- What is left without zeros at the end is the number again with them. -/
theorem withoutZeros_mul (limit value : ℕ) :
    (withoutZeros limit value).1 * tenTo (withoutZeros limit value).2 = value := by
  induction limit generalizing value with
  | zero => exact Nat.mul_one value
  | succ limit inductionHypothesis =>
      rw [withoutZeros]
      by_cases isZero : value % 10 = 0
      · rw [if_pos isZero]
        calc (withoutZeros limit (value / 10)).1 * tenTo ((withoutZeros limit (value / 10)).2 + 1)
            = (withoutZeros limit (value / 10)).1 *
                tenTo (withoutZeros limit (value / 10)).2 * 10 := by
              rw [tenTo_succ, Nat.mul_assoc]
          _ = value / 10 * 10 := by rw [inductionHypothesis]
          _ = value := Nat.div_mul_cancel (Nat.dvd_of_mod_eq_zero isZero)
      · rw [if_neg isZero]
        exact Nat.mul_one value

/-- The shortest decimal of such a double is the whole number, with or without zeros at its end. -/
theorem exists_shortest (stored : IsStored significand exponent)
    (isWhole : (significand : ℚ) * 2 ^ exponent = whole) (positive : 0 < whole)
    (small : whole < 2 ^ 53) (tie : Tie) :
    ∃ digits places : ℕ, shortest tie significand exponent = ⟨digits, places⟩ ∧
      digits * tenTo places = whole := by
  have surrounds := surrounds_interval stored isWhole positive small
  have wide : 0 < (interval significand exponent).denominator := by
    have wide := surrounds.wide
    omega
  have magnitude : decimalExponent (interval significand exponent).value
      (interval significand exponent).denominator = (digitCount whole - 1 : ℕ) := by
    have present : 0 < digitCount whole := Nat.length_toDigits_pos
    have atLeast : (interval significand exponent).denominator ≤
        (interval significand exponent).value := by
      rw [surrounds.value]
      exact Nat.le_mul_of_pos_left _ positive
    rw [decimalExponent, if_pos atLeast, surrounds.value, Nat.mul_div_cancel _ wide]
    omega
  have few : digitCount whole ≤ 16 :=
    (Nat.length_toDigits_le_iff (by decide) (by decide)).mpr (small.trans (by decide))
  have enough : digitCount whole - 1 < 17 := by omega
  obtain ⟨found, divides, isFound⟩ := surrounds.search_eq tie enough
  refine ⟨(withoutZeros 400 (whole / tenTo found)).1,
    found + (withoutZeros 400 (whole / tenTo found)).2, ?_, ?_⟩
  · simp only [shortest, magnitude, isFound]
    rfl
  · have places : tenTo (found + (withoutZeros 400 (whole / tenTo found)).2) =
        tenTo (withoutZeros 400 (whole / tenTo found)).2 * tenTo found := by
      rw [Nat.add_comm]
      exact Nat.pow_add 10 _ _
    rw [places, ← Nat.mul_assoc, withoutZeros_mul, Nat.div_mul_cancel divides]

end Whole

/-! ## The plain form -/

/-- Digits and the power of ten behind them are written out. -/
theorem plainForm_writeScaled {digits : ℕ} (positive : 0 < digits) (places : ℕ) :
    plainForm.writeScaled ⟨digits, places⟩ = digitsOf (digits * tenTo places) := by
  have present : 0 < (digitsOf digits).length := Nat.length_toDigits_pos
  have before : ((places : ℤ) + (digitsOf digits).length - 1 + 1).toNat =
      (digitsOf digits).length + places := by omega
  have positiveBefore : ¬(places : ℤ) + (digitsOf digits).length - 1 + 1 ≤ 0 := by omega
  have zeros : (digitsOf digits).length + places - (digitsOf digits).length = places := by omega
  rw [digitsOf_mul_tenTo positive, Form.writeScaled]
  simp only [plainForm, withPoint, if_neg positiveBefore, before, if_pos (Nat.le_add_right _ _),
    zeros]
  exact List.append_nil _

/-- The greatest whole number below which no other one is skipped is its own shortest form. -/
theorem shortest_greatest : shortest .greater (2 ^ 52) 1 = ⟨2 ^ 53, 0⟩ := by
  decide +kernel

/-- Such a double is written with the digits of the whole number. -/
theorem plainForm_writeScaled_shortest {significand whole : ℕ} {exponent : ℤ}
    (stored : IsStored significand exponent)
    (isWhole : (significand : ℚ) * 2 ^ exponent = whole) (positive : 0 < whole)
    (small : whole ≤ 2 ^ 53) :
    plainForm.writeScaled (shortest plainForm.tie significand exponent) = digitsOf whole := by
  rcases Nat.lt_or_eq_of_le small with less | isGreatest
  · obtain ⟨digits, places, isShortest, isProduct⟩ :=
      exists_shortest stored isWhole positive less plainForm.tie
    have digitsPositive : 0 < digits := by
      rw [← isProduct] at positive
      exact Nat.pos_of_mul_pos_right positive
    rw [isShortest, plainForm_writeScaled digitsPositive, isProduct]
  · have power : IsStored (2 ^ 52) 1 := ⟨by decide, by decide, by decide, .inr (Nat.le_refl _)⟩
    have same : (significand : ℚ) * 2 ^ exponent = (2 ^ 52 : ℕ) * 2 ^ (1 : ℤ) := by
      rw [isWhole, isGreatest]
      norm_num
    obtain ⟨rfl, rfl⟩ := stored.unique power same
    have isShortest : shortest plainForm.tie (2 ^ 52) 1 = ⟨2 ^ 53, (0 : ℕ)⟩ := shortest_greatest
    rw [isShortest, plainForm_writeScaled (by decide), tenTo_zero, Nat.mul_one, isGreatest]

/-- A double that is a whole number is written as that number. -/
theorem plainForm_write {double : Float} {whole : ℤ} (isValue : value? double = some (whole : ℚ))
    (notZero : whole ≠ 0) (small : whole.natAbs ≤ 2 ^ 53) :
    plainForm.write double = toString whole := by
  obtain ⟨negative, significand, exponent, isExact, isWhole⟩ := exists_exact isValue
  have magnitude : (significand : ℚ) * 2 ^ exponent = whole.natAbs := by
    rw [← abs_signed_mul negative, ← isWhole, Nat.cast_natAbs, Int.cast_abs]
  have sign : (negative = true ∧ significand ≠ 0) ↔ whole < 0 := by
    rw [← signed_mul_neg_iff negative significand exponent, ← isWhole, Int.cast_lt_zero]
  have positive : 0 < whole.natAbs := Int.natAbs_pos.mpr notZero
  have present : significand ≠ 0 := by
    rintro rfl
    rw [Nat.cast_zero, zero_mul] at magnitude
    exact Nat.ne_of_gt positive (Nat.cast_eq_zero.mp magnitude.symm)
  have isNegative : negative = true ↔ whole < 0 := by
    rw [← sign, and_iff_left present]
  rw [Form.write, isExact, toString_int]
  simp only [if_neg present, isNegative,
    plainForm_writeScaled_shortest (isStored_of_exact isExact) magnitude positive small]

end MessageTemplate.Decimal
