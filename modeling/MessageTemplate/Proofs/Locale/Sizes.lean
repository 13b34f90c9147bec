import Mathlib
import MessageTemplate.Proofs.Locale.Units
import MessageTemplate.Value

/-! # Sizes of byte counts

What is written of a count of bytes tells its size: nothing, the exact count below the base, and
otherwise an amount of a unit that is off by one at its last digit at most (`Locale.tellsSizes`).

Counts beyond the signed whole numbers of 64 bits are doubles, whose integer part is taken for the
greatest of these. All of them are written alike, so that the greater ones are not told. -/

namespace MessageTemplate

open MessageTemplate.Decimal

/-! ## Counts as values -/

/-- A whole number becomes a value that is read as the same number. -/
theorem Value.toNumber?_ofInt (whole : ℤ) :
    (Value.ofInt whole).toNumber? = some (.ofInt whole) := by
  rw [Value.ofInt]
  cases Number.ofInt whole <;> rfl

/-- The double of a count beyond the signed whole numbers is beyond them as well. -/
theorem Decimal.exists_truncate?_ofInt {count : ℕ} (large : 2 ^ 63 ≤ count)
    (bounded : count < 2 ^ 64) :
    ∃ integer, truncate? (Float.ofInt count) = some integer ∧ 2 ^ 63 ≤ integer := by
  have isLeast : value? (Float.ofNat (2 ^ 63)) = some ((2 ^ 63 : ℕ) : ℚ) := by
    have isExact : exact (Float.ofNat (2 ^ 63)) = .finite false (2 ^ 52) 11 := by decide +kernel
    rw [value?, isExact, Exact.value?, signed]
    norm_num
  obtain ⟨least, isLeastResult, leastRounding⟩ :=
    value?_ofNat (natCast_le_greatestValue (show 2 ^ 63 ≤ 2 ^ 64 by decide))
  obtain rfl : ((2 ^ 63 : ℕ) : ℚ) = least := Option.some_inj.mp (isLeast.symm.trans isLeastResult)
  obtain ⟨double, isDouble, isRounding⟩ := value?_ofNat (natCast_le_greatestValue bounded.le)
  have atLeast := IsRounding.mono (Nat.cast_nonneg _) (Nat.cast_le.mpr large) leastRounding
    isRounding
  obtain ⟨integer, isInteger, integerLe⟩ := exists_truncate? isDouble (Nat.two_pow_pos 63) atLeast
  exact ⟨integer, isInteger, by exact_mod_cast integerLe⟩

/-- The whole number that is written of a count is the count, or the greatest one of 64 bits with a
sign. -/
theorem Number.exists_truncate?_ofInt {count : ℕ} (bounded : count < 2 ^ 64) :
    ∃ value, (Number.ofInt count).truncate? = some value ∧
      value.toInt = (min count (2 ^ 63 - 1) : ℕ) := by
  have least : Int64.minValue.toInt = -(2 ^ 63) := rfl
  have greatest : Int64.maxValue.toInt = 2 ^ 63 - 1 := rfl
  rw [ofInt, int64?]
  by_cases small : count < 2 ^ 63
  · rw [if_pos (by omega)]
    refine ⟨_, rfl, ?_⟩
    rw [Int64.toInt_ofInt_of_le (by omega) (by omega)]
    omega
  · obtain ⟨integer, isInteger, large⟩ :=
      Decimal.exists_truncate?_ofInt (Nat.not_lt.mp small) bounded
    have clamped : clampInt64 integer = Int64.maxValue := by
      rw [clampInt64, min_eq_right (by omega), max_eq_right (by omega), Int64.ofInt_toInt]
    rw [if_neg (by omega)]
    refine ⟨Int64.maxValue, ?_, by rw [greatest]; omega⟩
    rw [truncate?, isInteger, Option.map_some, clamped]

namespace ByteCount

/-! ## Amounts -/

/-- Whether digits in units of a power of the base denote a count, up to one at the last digit that
is written. -/
def Tells (base count power : ℕ) (digits : Digits) : Prop :=
  |digits.magnitude * base ^ power - count| ≤ base ^ power / 10 ^ digits.fraction.length

/-- The greatest count that is told in units of a base. -/
def greatestTold (base : ℕ) : ℕ :=
  if base = 1000 then 923 * 10 ^ 16 else 9 * 2 ^ 60

section Amount

variable {base count power : ℕ} (isBase : base = 1000 ∨ base = 1024) (large : base ≤ count)
  (bounded : count ≤ 2 ^ 64) (isFilled : IsFilled base count power)

include isBase large bounded isFilled

/-- The amount of the unit that a count fills is not great, and its quotient is hardly apart. -/
theorem exists_amount :
    ∃ amount, value? (quotient base count power) = some amount ∧ 0 < amount ∧
      |amount - count / base ^ power| ≤ 1 / 1000 := by
  have positive : 0 < count := by omega
  obtain ⟨amount, isAmount, amountPositive, within⟩ :=
    exists_quotient isBase positive bounded isFilled.few
  have powerPositive : (0 : ℚ) < base ^ power := pow_pos (base_pos isBase) power
  have exactPositive : (0 : ℚ) < count / base ^ power :=
    div_pos (Nat.cast_pos.mpr positive) powerPositive
  have near := within.abs_sub_le exactPositive.le (by have := isFilled.few; omega)
  have small : (count : ℚ) / base ^ power ≤ 1025 := by
    rcases Nat.lt_or_eq_of_le isFilled.few with less | isLast
    · have below := isFilled.last less
      rw [le_iff (value?_base isBase) isAmount, not_le] at below
      have baseLe : (base : ℚ) ≤ 1024 := by exact_mod_cast (show base ≤ 1024 by omega)
      have lower := (abs_le.mp near).1
      linarith
    · have baseLe : (1000 : ℚ) ≤ base := by exact_mod_cast (show 1000 ≤ base by omega)
      have most : (count : ℚ) ≤ 2 ^ 64 := by exact_mod_cast bounded
      rw [isLast, div_le_iff₀ (isLast ▸ powerPositive)]
      calc (count : ℚ) ≤ 1025 * 1000 ^ 6 := most.trans (by norm_num)
        _ ≤ 1025 * base ^ 6 :=
            mul_le_mul_of_nonneg_left (pow_le_pow_left₀ (by norm_num) baseLe 6) (by norm_num)
  exact ⟨amount, isAmount, amountPositive, near.trans (by linarith)⟩

/-- Digits of an amount are off by one at the last place that the unit has at most. -/
theorem abs_sub_le_of_isFilled {places : ℕ} {digits : Digits} (fewPlaces : places ≤ 2)
    (isDigits : Digits.fixed? (.float (quotient base count power)) 0 places = some digits) :
    |digits.magnitude * base ^ power - count| ≤ base ^ power / 10 ^ places := by
  obtain ⟨amount, isAmount, positive, near⟩ := exists_amount isBase large bounded isFilled
  have half := (areRounded_of_quotient isAmount isDigits).abs_sub_le
  rw [abs_of_pos positive] at half
  have powerPositive : (0 : ℚ) < base ^ power := pow_pos (base_pos isBase) power
  have coarse : (1 : ℚ) / 1000 ≤ 1 / (2 * 10 ^ places) := by
    have places : (10 : ℚ) ^ places ≤ 10 ^ 2 := pow_le_pow_right₀ (by norm_num) fewPlaces
    exact one_div_le_one_div_of_le (by positivity) (by linarith)
  have apart : |digits.magnitude - count / base ^ power| ≤ 1 / 10 ^ places := by
    refine (abs_sub_le _ amount _).trans ((add_le_add half (near.trans coarse)).trans (le_of_eq ?_))
    field_simp
    norm_num
  have difference : digits.magnitude * base ^ power - count =
      (digits.magnitude - count / base ^ power) * base ^ power := by
    rw [sub_mul, div_mul_cancel₀ _ powerPositive.ne']
  calc |digits.magnitude * base ^ power - count|
      = |digits.magnitude - count / base ^ power| * base ^ power := by
        rw [difference, abs_mul, abs_of_pos powerPositive]
    _ ≤ 1 / 10 ^ places * base ^ power := mul_le_mul_of_nonneg_right apart powerPositive.le
    _ = base ^ power / 10 ^ places := one_div_mul_eq_div _ _

end Amount

/-! ## The greatest whole number -/

/-- The greatest signed whole number fills the greatest unit. -/
theorem power_eq_of_greatest {base power : ℕ} (isBase : base = 1000 ∨ base = 1024)
    (isFilled : IsFilled base (2 ^ 63 - 1) power) : power = 6 := by
  have filled : ∀ base ∈ [1000, 1024], ∀ power < 6, 0 < power →
      Float.ofNat base ≤ quotient base (2 ^ 63 - 1) power := by decide +kernel
  rcases Nat.lt_or_eq_of_le isFilled.few with less | isLast
  · exact absurd (filled base (mem_bases isBase) power less isFilled.positive)
      (isFilled.last less)
  · exact isLast

/-- What is written of the greatest signed whole number tells few of the counts beyond. -/
theorem tells_greatest_iff {base count : ℕ} {digits : Digits} (isBase : base = 1000 ∨ base = 1024)
    (large : 2 ^ 63 ≤ count)
    (isDigits : Digits.fixed? (.float (quotient base (2 ^ 63 - 1) 6)) 0 2 = some digits) :
    Tells base count 6 digits ↔ count ≤ greatestTold base := by
  have decimal : Digits.fixed? (.float (quotient 1000 (2 ^ 63 - 1) 6)) 0 2 =
      some ⟨false, 9, ['2', '2']⟩ := by decide +kernel
  have binary : Digits.fixed? (.float (quotient 1024 (2 ^ 63 - 1) 6)) 0 2 =
      some ⟨false, 8, []⟩ := by decide +kernel
  have atLeast : (2 ^ 63 : ℚ) ≤ count := by exact_mod_cast large
  rw [Tells, abs_le, ← Nat.cast_le (α := ℚ)]
  rcases isBase with rfl | rfl
  · cases isDigits.symm.trans decimal
    have isMagnitude : Digits.magnitude ⟨false, 9, ['2', '2']⟩ = 922 / 100 := by
      rw [Digits.magnitude, show naturalOf ['2', '2'] = 22 by decide]
      norm_num
    have isGreatest : (greatestTold 1000 : ℚ) = 923 * 10 ^ 16 := by norm_num [greatestTold]
    rw [isMagnitude, isGreatest, List.length_cons, List.length_singleton, Nat.cast_ofNat]
    exact ⟨fun near => by linarith [near.1], fun atMost => ⟨by linarith, by linarith⟩⟩
  · cases isDigits.symm.trans binary
    have isGreatest : (greatestTold 1024 : ℚ) = 9 * 2 ^ 60 := by norm_num [greatestTold]
    rw [Digits.magnitude_noFraction, isGreatest, List.length_nil, pow_zero, div_one,
      Nat.cast_ofNat, Nat.cast_ofNat]
    exact ⟨fun near => by linarith [near.1], fun atMost => ⟨by linarith, by linarith⟩⟩

end ByteCount

/-! ## Counts beyond the greatest whole number -/

namespace Locale

open ByteCount

variable (locale : Locale)

/-- A shown size has a digit in it, unlike the words for no bytes. -/
theorem ShowsSize.ne_noBytes {locale : Locale} {negative : Bool} {unit : ByteCount.Unit}
    {digits : Digits} {text : String} (shows : locale.ShowsSize negative unit digits text) :
    text ≠ "Zero KB" := by
  obtain ⟨digit, member⟩ := List.exists_mem_of_ne_nil _ (digitsOf_ne_nil digits.integer)
  obtain ⟨grouped, inGrouped, isJoined⟩ := locale.exists_joinDigits digits 1 (some 3)
  have written : digit ∈ locale.joinDigits digits 1 (some 3) := by
    have inGroups : digit ∈ grouped := inGrouped digit (List.mem_append_right _ member)
    rw [isJoined]
    by_cases noFraction : digits.fraction = []
    · simp [noFraction, List.ne_nil_of_mem inGroups, inGroups]
    · simp [noFraction, inGroups]
  intro isWords
  have inWords : digit ∈ "Zero KB".toList := by
    rw [← isWords, shows.written, String.toList_ofList, Layout.write]
    exact List.mem_append_right _ (List.mem_append_left _ (List.mem_append_right _ written))
  have noDigits : ∀ letter ∈ "Zero KB".toList, letter.isDigit = false := by simp
  have isDigit := isDigit_of_mem_digitsOf digit member
  exact Bool.false_ne_true ((noDigits digit inWords).symm.trans isDigit)

/-- What is written of a count as a value. -/
def writeCount? (count : ℕ) (style : NumberStyle) : Option String :=
  (Value.ofInt count).toNumber?.bind fun number => locale.formatNumber? number style

/-- How sizes are told by what is written of counts of 64 bits. -/
structure TellsSizes (locale : Locale) : Prop where
  /-- Only no bytes at all are written in words. -/
  none {style : NumberStyle} {base : ℕ} : style.byteBase? = some base → ∀ {count : ℕ},
    count < 2 ^ 64 → (locale.writeCount? count style = some "Zero KB" ↔ count = 0)
  /-- Counts below the base are written as they are. -/
  bytes {style : NumberStyle} {base : ℕ} : style.byteBase? = some base → ∀ {count : ℕ},
    0 < count → count < base →
      ∃ text, locale.writeCount? count style = some text ∧
        locale.ShowsSize false (byteUnit count) ⟨false, count, []⟩ text
  /-- Other counts are written in units, and up to the greatest one that is told the amount is off
  by one at its last digit at most. -/
  units {style : NumberStyle} {base : ℕ} : style.byteBase? = some base → ∀ {count : ℕ},
    base ≤ count → count < 2 ^ 64 →
      ∃ power unit digits text, locale.writeCount? count style = some text ∧
        locale.ShowsSize false unit digits text ∧ 0 < power ∧ unitOf? count power = some unit ∧
        (Tells base count power digits ↔ count ≤ greatestTold base)
  /-- Counts beyond the signed whole numbers are written alike. -/
  beyond {style : NumberStyle} {base : ℕ} : style.byteBase? = some base → ∀ {count : ℕ},
    2 ^ 63 ≤ count → count < 2 ^ 64 →
      locale.writeCount? count style = locale.writeCount? (2 ^ 63 - 1) style

variable {style : NumberStyle} {base count : ℕ}
  (isBase : style.byteBase? = some base) (bounded : count < 2 ^ 64)

/-- A count is written as the number is. -/
theorem writeCount?_eq :
    locale.writeCount? count style = locale.formatNumber? (.ofInt count) style := by
  rw [writeCount?, Value.toNumber?_ofInt, Option.bind_some]

/-- A count has no sign. -/
theorem not_neg_of_toInt {value : Int64} (isCount : value.toInt = (count : ℤ)) : ¬value < 0 := by
  rw [Int64.lt_iff_toInt_lt, isCount]
  exact Int.not_lt.mpr (Int.natCast_nonneg count)

include isBase bounded

/-- Counts beyond the greatest whole number are written as the greatest one. -/
theorem writeCount?_min :
    locale.writeCount? count style = locale.writeCount? (min count (2 ^ 63 - 1)) style := by
  obtain ⟨value, isValue, isCount⟩ := Number.exists_truncate?_ofInt bounded
  obtain ⟨least, isLeast, isLeastCount⟩ :=
    Number.exists_truncate?_ofInt (show min count (2 ^ 63 - 1) < 2 ^ 64 by omega)
  obtain rfl : value = least := by
    apply Int64.toInt_inj.mp
    rw [isCount, isLeastCount, min_assoc, min_self]
  rw [writeCount?_eq, writeCount?_eq, locale.formatNumber?_byteCount isBase,
    locale.formatNumber?_byteCount isBase, byteCount?, byteCount?, isValue, isLeast]

omit bounded in
/-- Counts below the base are written as they are. -/
theorem exists_exactly (positive : 0 < count) (small : count < base) :
    ∃ text, locale.writeCount? count style = some text ∧
      locale.ShowsSize false (byteUnit count) ⟨false, count, []⟩ text := by
  have isCase := NumberStyle.byteBase_cases isBase
  obtain ⟨value, isValue, isCount⟩ :=
    Number.exists_truncate?_ofInt (show count < 2 ^ 64 by omega)
  rw [min_eq_left (by omega)] at isCount
  have magnitude : value.toInt.natAbs = count := by rw [isCount, Int.natAbs_natCast]
  obtain ⟨text, isText, shows⟩ := locale.exists_bytes isBase isValue
    (magnitude ▸ positive) (magnitude ▸ small)
  rw [magnitude, decide_eq_false (not_neg_of_toInt isCount)] at shows
  exact ⟨text, locale.writeCount?_eq.trans isText, shows⟩

/-- Counts of at least the base are told up to the greatest one that is. -/
theorem exists_tells (large : base ≤ count) :
    ∃ power unit digits text, locale.writeCount? count style = some text ∧
      locale.ShowsSize false unit digits text ∧ 0 < power ∧ unitOf? count power = some unit ∧
      (Tells base count power digits ↔ count ≤ greatestTold base) := by
  have isCase := NumberStyle.byteBase_cases isBase
  obtain ⟨value, isValue, isCount⟩ := Number.exists_truncate?_ofInt bounded
  have magnitude : value.toInt.natAbs = min count (2 ^ 63 - 1) := by
    rw [isCount, Int.natAbs_natCast]
  obtain ⟨power, unit, digits, text, isText, shows, isUnit, isFilled, isDigits⟩ :=
    locale.exists_units isBase isValue (magnitude ▸ by omega)
  rw [magnitude] at isUnit isFilled isDigits
  rw [decide_eq_false (not_neg_of_toInt isCount)] at shows
  refine ⟨power, unit, digits, text, locale.writeCount?_eq.trans isText, shows, isFilled.positive,
    (unitOf?_congr isFilled.positive _ _).trans isUnit, ?_⟩
  by_cases small : count < 2 ^ 63
  · rw [min_eq_left (by omega)] at isFilled isDigits
    refine iff_of_true ?_ ?_
    · refine (abs_sub_le_of_isFilled isCase large (by omega) isFilled (places_le_of_unitOf? isUnit)
        isDigits).trans ?_
      exact div_le_div_of_nonneg_left (pow_pos (base_pos isCase) power).le (by positivity)
        (pow_le_pow_right₀ (by norm_num) shows.few)
    · rw [greatestTold]
      split <;> omega
  · rw [min_eq_right (by omega)] at isUnit isFilled isDigits
    obtain rfl : power = 6 := power_eq_of_greatest isCase isFilled
    cases isUnit
    exact tells_greatest_iff isCase (by omega) isDigits

/-- Only no bytes at all are written in words. -/
theorem writeCount?_eq_noBytes_iff :
    locale.writeCount? count style = some "Zero KB" ↔ count = 0 := by
  constructor
  · intro isWords
    by_contra notZero
    rcases Nat.lt_or_ge count base with small | large
    · obtain ⟨text, isText, shows⟩ :=
        locale.exists_exactly isBase (Nat.pos_of_ne_zero notZero) small
      exact shows.ne_noBytes (Option.some_inj.mp (isText.symm.trans isWords))
    · obtain ⟨power, unit, digits, text, isText, shows, -⟩ :=
        locale.exists_tells isBase bounded large
      exact shows.ne_noBytes (Option.some_inj.mp (isText.symm.trans isWords))
  · rintro rfl
    obtain ⟨value, isValue, isCount⟩ := Number.exists_truncate?_ofInt bounded
    exact locale.writeCount?_eq.trans (locale.formatNumber?_noBytes isBase isValue isCount)

omit isBase bounded

/-- The sizes of counts are told in every locale and by every style of bytes, up to the greatest
count that is told in its base. -/
theorem tellsSizes (locale : Locale) : locale.TellsSizes where
  none isBase _ bounded := locale.writeCount?_eq_noBytes_iff isBase bounded
  bytes isBase _ positive small := locale.exists_exactly isBase positive small
  units isBase count large bounded := locale.exists_tells isBase bounded large
  beyond isBase count large bounded := by
    rw [locale.writeCount?_min isBase bounded, min_eq_right (by omega)]

/-- The greatest count of 64 bits is written as half of it, which does not tell it. -/
theorem tellsSizes_greatest :
    enUS.writeCount? (2 ^ 64 - 1) .fileBytes = some "9.22 EB" ∧
      ∃ power unit digits text, enUS.writeCount? (2 ^ 64 - 1) .fileBytes = some text ∧
        enUS.ShowsSize false unit digits text ∧ unitOf? (2 ^ 64 - 1) power = some unit ∧
        ¬Tells 1000 (2 ^ 64 - 1) power digits := by
  have isBase : NumberStyle.fileBytes.byteBase? = some 1000 := rfl
  have isText : enUS.writeCount? (2 ^ 63 - 1) .fileBytes = some "9.22 EB" := by decide +kernel
  obtain ⟨power, unit, digits, text, isWritten, shows, -, isUnit, tells⟩ :=
    (tellsSizes enUS).units isBase (show 1000 ≤ 2 ^ 64 - 1 by decide) (by decide)
  refine ⟨((tellsSizes enUS).beyond isBase (by decide) (by decide)).trans isText, power, unit,
    digits, text, isWritten, shows, isUnit, fun told => absurd (tells.mp told) (by decide)⟩

end Locale

end MessageTemplate
