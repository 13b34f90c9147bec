import Mathlib
import MessageTemplate.Proofs.Decimal.Shortest
import MessageTemplate.Proofs.Locale.Integers
import MessageTemplate.Proofs.Locale.Rounding

/-! # Whole numbers of either kind

A whole number is written alike as an integer and as a double, in every style and every pattern, as
long as the number that is shown has at most 53 binary digits: `Locale.agreesOnWholeNumbers`. The
one difference is that a pattern with too many fraction digits breaks off for the double. Greater
numbers are rounded and not described here. -/

namespace MessageTemplate

open MessageTemplate.Decimal

/-! ## Values of whole numbers -/

/-- A whole number as a double. -/
def Number.asDouble (value : Int64) : Number :=
  .float (Float.ofInt value.toInt)

namespace Number

variable {value : Int64}

/-- A whole number has its own value. -/
theorem value?_int (value : Int64) : (int value).value? = some (value.toInt : ℚ) :=
  rfl

/-- Up to 2 to the power of 53, a whole number has the same value as a double. -/
theorem value?_asDouble (small : value.toInt.natAbs ≤ 2 ^ 53) :
    (asDouble value).value? = some (value.toInt : ℚ) :=
  value?_ofInt_of_le small

section Scale

variable {factor : ℕ} (small : (value.toInt * factor).natAbs ≤ 2 ^ 53)

include small

/-- A whole number is scaled to a whole number, as long as the product fits in 64 bits. -/
theorem exists_scale_int :
    ∃ product, (int value).scale factor = int product ∧ product.toInt = value.toInt * factor := by
  have isProduct : (Int64.ofInt (value.toInt * factor)).toInt = value.toInt * factor := by
    have least : Int64.minValue.toInt = -(2 ^ 63) := rfl
    have greatest : Int64.maxValue.toInt = 2 ^ 63 - 1 := rfl
    exact Int64.toInt_ofInt_of_le (by omega) (by omega)
  exact ⟨_, scale_int isProduct, isProduct⟩

/-- The value of a scaled whole number is the product. -/
theorem value?_scale_int :
    ((int value).scale factor).value? = some (value.toInt * factor : ℚ) := by
  obtain ⟨product, isScaled, isProduct⟩ := exists_scale_int small
  rw [isScaled, value?_int, isProduct, Int.cast_mul, Int.cast_natCast]

/-- What is scaled to at most 2 to the power of 53 is no greater itself. -/
theorem natAbs_le_of_product (positive : 0 < factor) : value.toInt.natAbs ≤ 2 ^ 53 := by
  rw [Int.natAbs_mul, Int.natAbs_natCast] at small
  exact (Nat.le_mul_of_pos_right _ positive).trans small

/-- A whole number that is scaled as a double has the product as its value, without an error. -/
theorem value?_scale_asDouble (positive : 0 < factor) (few : factor ≤ 2 ^ 53) :
    ((asDouble value).scale factor).value? = some (value.toInt * factor : ℚ) := by
  have fewDigits : (factor : ℤ).natAbs ≤ 2 ^ 53 := few
  have isFactor : Decimal.value? (Float.ofNat factor) = some (factor : ℚ) :=
    value?_ofInt_of_le fewDigits
  have magnitude : |(value.toInt : ℚ) * factor| = ((value.toInt * factor).natAbs : ℕ) := by
    rw [Nat.cast_natAbs, Int.cast_abs, Int.cast_mul, Int.cast_natCast]
  obtain ⟨result, isProduct, isRounding⟩ :=
    value?_mul (value?_ofInt_of_le (natAbs_le_of_product small positive)) isFactor
      (magnitude.trans_le (natCast_le_greatestValue (small.trans (by decide))))
  rw [isRounding.eq_of_natCast magnitude small] at isProduct
  exact isProduct

end Scale

variable (small : value.toInt.natAbs ≤ 2 ^ 53)

include small

/-- Both have the same digits. -/
theorem fixed?_asDouble (least most : ℕ) :
    Digits.fixed? (asDouble value) least most = Digits.fixed? (int value) least most :=
  Digits.fixed?_congr (value?_asDouble small) (value?_int value) least most

/-- Such a double is written in plain as the whole number is. -/
theorem plain_asDouble : (asDouble value).plain = (int value).plain := by
  by_cases isZero : value.toInt = 0
  · rw [asDouble, isZero, plain, plain, isZero]
    decide +kernel
  · exact plainForm_write (value?_ofInt_of_le small) isZero small

/-- The integer part of a whole number is the number. -/
theorem truncate?_asDouble : (asDouble value).truncate? = (int value).truncate? := by
  obtain ⟨negative, significand, exponent, isExact, isWhole⟩ :=
    exists_exact (value?_ofInt_of_le small)
  have magnitude : (significand : ℚ) * 2 ^ exponent = value.toInt.natAbs := by
    rw [← abs_signed_mul negative, ← isWhole, Nat.cast_natAbs, Int.cast_abs]
  have positive : (0 : ℚ) < denominator exponent := Nat.cast_pos.mpr (denominator_pos exponent)
  have isProduct : numerator significand exponent =
      value.toInt.natAbs * denominator exponent := by
    rw [← numerator_div_denominator, div_eq_iff positive.ne'] at magnitude
    exact_mod_cast magnitude
  have isSigned : signed negative value.toInt.natAbs = value.toInt := by
    cases negative with
    | false =>
        rw [signed, if_neg (by decide), Int.cast_natCast, magnitude, ← Int.cast_natCast] at isWhole
        exact (Int.cast_injective isWhole).symm
    | true =>
        rw [signed, if_pos rfl, Int.cast_neg, Int.cast_natCast, neg_mul, magnitude,
          ← Int.cast_natCast, ← Int.cast_neg] at isWhole
        exact (Int.cast_injective isWhole).symm
  have clamped : clampInt64 value.toInt = value := by
    rw [clampInt64, min_eq_left (Int64.toInt_le value),
      max_eq_right (Int64.minValue_le_toInt value), Int64.ofInt_toInt]
  simp only [asDouble, truncate?, Decimal.truncate?, isExact, Option.map_some, isProduct,
    Nat.mul_div_cancel _ (denominator_pos exponent), isSigned, clamped]

end Number

namespace Spelling

/-- Such a double is spelled out as the whole number is. -/
theorem spellOut?_asDouble {value : Int64} (small : value.toInt.natAbs ≤ 2 ^ 53) :
    spellOut? (Number.asDouble value) = spellOut? (.int value) := by
  have isBound : Decimal.value? floatBound = some (10 ^ 19 : ℚ) := by
    have isExact : exact floatBound = .finite false 4882812500000000 11 := by decide +kernel
    rw [Decimal.value?, isExact, Exact.value?, signed]
    norm_num
  have magnitude := value?_abs (value?_ofInt_of_le small)
  have below : (Float.ofInt value.toInt).abs < floatBound := by
    rw [lt_iff magnitude isBound, ← Int.cast_abs, ← Nat.cast_natAbs]
    exact (Nat.cast_le.mpr small).trans_lt (by norm_num)
  have inRange : value.toInt.natAbs < bound := small.trans_lt (by decide)
  have isFixed : Digits.fixed? (.float (Float.ofInt value.toInt)) 0 6 =
      some ⟨decide (value < 0), value.toInt.natAbs, []⟩ :=
    Number.fixed?_asDouble small 0 6
  simp only [Number.asDouble, spellOut?, if_pos below, isFixed, Option.bind_some, if_pos inRange]

end Spelling

/-! ## Styles and patterns -/

/-- What a style multiplies a number by before it is shown. -/
def NumberStyle.factor : NumberStyle → ℕ
  | .percent => 100
  | _ => 1

/-- No style scales by zero. -/
theorem NumberStyle.factor_pos (style : NumberStyle) : 0 < style.factor := by
  cases style <;> decide

/-- Where a product is shown, both have the same digits too. -/
theorem NumberStyle.fixed?_shown {style : NumberStyle} {value : Int64}
    (small : (value.toInt * style.factor).natAbs ≤ 2 ^ 53) (least most : ℕ) :
    Digits.fixed? (style.shown (Number.asDouble value)) least most =
      Digits.fixed? (style.shown (.int value)) least most := by
  have fewDigits := Number.natAbs_le_of_product small style.factor_pos
  cases style
  case percent =>
    exact Digits.fixed?_congr (Number.value?_scale_asDouble small (by decide) (by decide))
      (Number.value?_scale_int small) least most
  all_goals exact Number.fixed?_asDouble fewDigits least most

namespace Locale

variable (locale : Locale) {value : Int64}

/-- In a style with a layout, such a double is written as the whole number is. -/
theorem formatNumber?_asDouble_layout {style : NumberStyle} {layout : Layout}
    (isLayout : locale.layout? style = some layout)
    (small : (value.toInt * style.factor).natAbs ≤ 2 ^ 53) :
    locale.formatNumber? (Number.asDouble value) style =
      locale.formatNumber? (.int value) style := by
  have fewDigits := Number.natAbs_le_of_product small style.factor_pos
  rw [formatNumber?_layout (Number.value?_asDouble fewDigits) isLayout,
    formatNumber?_layout (Number.value?_int value) isLayout, NumberStyle.fixed?_shown small]

/-- A number of bytes is written the same as a double. -/
theorem byteCount?_asDouble (small : value.toInt.natAbs ≤ 2 ^ 53) (base : ℕ) :
    locale.byteCount? (Number.asDouble value) base = locale.byteCount? (.int value) base := by
  rw [byteCount?, byteCount?, Number.truncate?_asDouble small]

/-- Where whole numbers are written alike as integers and as doubles. -/
structure AgreesOnWholeNumbers (locale : Locale) : Prop where
  /-- Every style writes both alike. -/
  style (style : NumberStyle) (value : Int64) :
    (value.toInt * style.factor).natAbs ≤ 2 ^ 53 →
      locale.formatNumber? (Number.asDouble value) style = locale.formatNumber? (.int value) style
  /-- Every pattern writes both alike. -/
  pattern {source : String} {pattern : Pattern} :
    Pattern.read? source.toList = some pattern → ∀ value : Int64,
      (value.toInt * pattern.factor).natAbs ≤ 2 ^ 53 →
        locale.formatPattern? (Number.asDouble value) source =
          locale.formatPattern? (.int value) source
  /-- Only a double breaks off, and it does so in a pattern of too many fraction digits. -/
  breaksOff {source : String} {pattern : Pattern} :
    Pattern.read? source.toList = some pattern → ∀ value : Int64,
      (value.toInt * pattern.factor).natAbs ≤ 2 ^ 53 →
        Pattern.breaksOffAt (.int value) source = false ∧
          (Pattern.breaksOffAt (Number.asDouble value) source = true ↔
            Digits.greatestPrecision < pattern.mostFraction)

/-- A whole number is written alike as an integer and as a double, unless that breaks off. -/
theorem agreesOnWholeNumbers : locale.AgreesOnWholeNumbers where
  style style value small := by
    have fewDigits := Number.natAbs_le_of_product small style.factor_pos
    cases style
    case decimal => exact locale.formatNumber?_asDouble_layout rfl small
    case currency => exact locale.formatNumber?_asDouble_layout rfl small
    case percent => exact locale.formatNumber?_asDouble_layout rfl small
    case noLocale => exact congrArg some (Number.plain_asDouble fewDigits)
    case spellOut => exact Spelling.spellOut?_asDouble fewDigits
    -- Scientific notation starts from the double of either.
    case scientific => rfl
    all_goals exact congrArg (Option.map String.ofList) (locale.byteCount?_asDouble fewDigits _)
  pattern isPattern value small := by
    have factor := Pattern.factor_cases isPattern
    have sameDigits := Digits.fixed?_congr
      (Number.value?_scale_asDouble small (by omega) (by omega)) (Number.value?_scale_int small)
    rw [formatPattern?_layout isPattern, formatPattern?_layout isPattern, sameDigits]
  breaksOff isPattern value small := by
    rename_i source pattern
    have factor := Pattern.factor_cases isPattern
    obtain ⟨product, isScaled, -⟩ := Number.exists_scale_int small
    have isProduct := Number.value?_scale_asDouble small (by omega) (by omega)
    rw [Pattern.breaksOffAt, Pattern.breaksOffAt, isPattern, Option.any_some, Option.any_some,
      Pattern.breaksOff, Pattern.breaksOff, isScaled, Digits.breaksOff_iff]
    exact ⟨rfl, and_iff_right ⟨_, _, rfl, isProduct⟩⟩

/-- The greatest double that is reached from whole numbers without a gap, and a negative product. -/
theorem agreesOnWholeNumbers_greatest :
    deDE.formatNumber? (Number.asDouble (2 ^ 53)) .noLocale = some "9007199254740992" ∧
      deDE.formatNumber? (Number.asDouble (-7)) .percent = some "-700\u00A0%" ∧
      deDE.formatPattern? (Number.asDouble 1234) "#,##0.00‰" = some "1.234.000,00‰" ∧
      Pattern.breaksOffAt (Number.asDouble 1234) "#,##0.00‰" = false := by
  have agrees := agreesOnWholeNumbers deDE
  have isPattern : Pattern.read? "#,##0.00‰".toList =
      some ⟨[], [⟨'‰', false⟩], 1, 2, 2, some 3, 1000⟩ := by decide
  refine ⟨?_, ?_, ?_, ?_⟩
  · rw [agrees.style .noLocale (2 ^ 53) (by decide)]
    decide
  · rw [agrees.style .percent (-7) (by decide)]
    decide
  · rw [agrees.pattern isPattern 1234 (by decide)]
    decide
  · rw [Bool.eq_false_iff, ne_eq, (agrees.breaksOff isPattern 1234 (by decide)).2]
    decide

end Locale

end MessageTemplate
