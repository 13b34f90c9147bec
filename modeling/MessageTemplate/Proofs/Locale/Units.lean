import Mathlib
import MessageTemplate.Proofs.Decimal.Accuracy
import MessageTemplate.Proofs.Decimal.Order
import MessageTemplate.Proofs.Locale.Rounding

/-! # Units of byte counts

A count of bytes is divided by the base until it does not fill the next unit any more: an amount is
a `ByteCount.quotient` whose power is the least one that is below the base (`exists_isFilled`). The
quotients of greater counts are no less (`quotient_mono`), and each is hardly apart from the exact
one (`exists_quotient`). What a locale writes of a count is its digits in front of the unit
(`Locale.ShowsSize`). -/

namespace MessageTemplate

open MessageTemplate.Decimal

/-- The base of a style that counts bytes. -/
def NumberStyle.byteBase? : NumberStyle → Option ℕ
  | .fileBytes | .decimalBytes => some 1000
  | .memoryBytes | .binaryBytes => some 1024
  | _ => none

/-- Bytes are counted by thousands or by their binary counterpart. -/
theorem NumberStyle.byteBase_cases {style : NumberStyle} {base : ℕ}
    (isBase : style.byteBase? = some base) : base = 1000 ∨ base = 1024 := by
  cases style <;> simp_all [byteBase?]

namespace ByteCount

/-- The byte as a unit, in the number that goes with a count. -/
def byteUnit (count : ℕ) : Unit := ⟨if count = 1 then "byte" else "bytes", 0⟩

/-- The unit that is worth a power of the base. -/
def unitOf? (count power : ℕ) : Option Unit :=
  (byteUnit count :: kilobyte :: largerUnits)[power]?

/-- Units above the byte have one name for all counts. -/
theorem unitOf?_congr {power : ℕ} (positive : 0 < power) (left right : ℕ) :
    unitOf? left power = unitOf? right power := by
  obtain ⟨lower, rfl⟩ := Nat.exists_eq_add_one_of_ne_zero (Nat.ne_of_gt positive)
  rfl

/-- No unit is shown with more than two fraction digits. -/
theorem places_le_of_unitOf? {count power : ℕ} {unit : Unit}
    (isUnit : unitOf? count power = some unit) : unit.places ≤ 2 := by
  have all : ∀ unit ∈ kilobyte :: largerUnits, unit.places ≤ 2 := by decide
  rcases List.mem_cons.mp (List.mem_of_getElem? isUnit) with rfl | larger
  · exact Nat.zero_le 2
  · exact all unit larger

/-- An amount stands in front of its unit, in groups of three digits. -/
def Unit.layout (unit : Unit) : Layout :=
  ⟨[], ' ' :: unit.name.toList, 1, 0, unit.places, some 3⟩

/-- What is checked for both bases holds of either. -/
theorem mem_bases {base : ℕ} (isBase : base = 1000 ∨ base = 1024) : base ∈ [1000, 1024] := by
  simpa using isBase

/-! ## Quotients -/

/-- A count of bytes in units of a power of the base, by one division after the other. -/
def quotient (base count : ℕ) : (power : ℕ) → Float
  | 0 => Float.ofNat count
  | power + 1 => quotient base count power / Float.ofNat base

section Quotient

variable {base count power : ℕ} (isBase : base = 1000 ∨ base = 1024)

include isBase

/-- The base is a double without an error. -/
theorem value?_base : value? (Float.ofNat base) = some (base : ℚ) := by
  have small : (base : ℤ).natAbs ≤ 2 ^ 53 := by omega
  exact value?_ofInt_of_le small

/-- The base is positive. -/
theorem base_pos : (0 : ℚ) < base := by
  rcases isBase with rfl | rfl <;> norm_num

variable (positive : 0 < count) (bounded : count ≤ 2 ^ 64) (few : power ≤ 6)

include positive bounded few

/-- Exact quotients are neither tiny nor huge. -/
theorem quotient_range :
    (10 : ℚ) ^ (-308 : ℤ) ≤ count / base ^ power ∧
      (count : ℚ) / base ^ power ≤ 10 ^ (308 : ℤ) := by
  have atLeast : (1 : ℚ) ≤ base ^ power :=
    one_le_pow₀ (by rcases isBase with rfl | rfl <;> norm_num)
  have atMost : (base : ℚ) ^ power ≤ 1024 ^ 6 := by
    have natural : base ^ power ≤ 1024 ^ 6 :=
      (Nat.pow_le_pow_left (by omega) power).trans (Nat.pow_le_pow_right (by decide) few)
    exact_mod_cast natural
  have one : (1 : ℚ) ≤ count := Nat.one_le_cast.mpr positive
  have most : (count : ℚ) ≤ 2 ^ 64 := by exact_mod_cast bounded
  constructor
  · rw [le_div_iff₀ (by positivity)]
    calc (10 : ℚ) ^ (-308 : ℤ) * base ^ power ≤ 10 ^ (-19 : ℤ) * 1024 ^ 6 :=
          mul_le_mul (zpow_le_zpow_right₀ (by norm_num) (by norm_num)) atMost (by positivity)
            (by positivity)
      _ ≤ 1 := by norm_num
      _ ≤ count := one
  · calc (count : ℚ) / base ^ power ≤ count := div_le_self (by positivity) atLeast
      _ ≤ 10 ^ (20 : ℤ) := most.trans (by norm_num)
      _ ≤ 10 ^ (308 : ℤ) := zpow_le_zpow_right₀ (by norm_num) (by norm_num)

/-- Each division adds one rounding. -/
theorem exists_quotient :
    ∃ amount, value? (quotient base count power) = some amount ∧ 0 < amount ∧
      Within (power + 1) amount (count / base ^ power) := by
  have count_pos : (0 : ℚ) < count := Nat.cast_pos.mpr positive
  have exact_pos (power : ℕ) : (0 : ℚ) < count / base ^ power :=
    div_pos count_pos (pow_pos (base_pos isBase) power)
  suffices ∃ amount, value? (quotient base count power) = some amount ∧
      Within (power + 1) amount (count / base ^ power) by
    obtain ⟨amount, isAmount, within⟩ := this
    exact ⟨amount, isAmount, within.pos (exact_pos power), within⟩
  obtain ⟨notTiny, notHuge⟩ := quotient_range isBase positive bounded few
  induction power with
  | zero =>
      obtain ⟨amount, isAmount, isRounding⟩ := value?_ofNat (natCast_le_greatestValue bounded)
      rw [pow_zero, div_one] at notTiny notHuge ⊢
      exact ⟨amount, isAmount,
        ((Within.refl (count : ℚ)).rounded (Nat.zero_le _) notTiny notHuge).2 isRounding⟩
  | succ power inductionHypothesis =>
      have fewer : power ≤ 6 := by omega
      obtain ⟨lowerNotTiny, lowerNotHuge⟩ := quotient_range isBase positive bounded fewer
      obtain ⟨amount, isAmount, within⟩ := inductionHypothesis fewer lowerNotTiny lowerNotHuge
      rw [pow_succ, ← div_div] at notTiny notHuge ⊢
      exact exists_div_within isAmount (value?_base isBase) within (.refl _) (exact_pos power)
        (base_pos isBase) (by omega) notTiny notHuge

omit few in
/-- Each division is rounded. -/
theorem exists_division (less : power < 6) :
    ∃ amount next, value? (quotient base count power) = some amount ∧
      value? (quotient base count (power + 1)) = some next ∧ 0 < amount ∧
      IsRounding (amount / base) next := by
  obtain ⟨notTiny, notHuge⟩ := quotient_range isBase positive bounded (Nat.succ_le_of_lt less)
  obtain ⟨amount, isAmount, amountPositive, within⟩ :=
    exists_quotient isBase positive bounded less.le
  have exactPositive : (0 : ℚ) < count / base ^ power :=
    div_pos (Nat.cast_pos.mpr positive) (pow_pos (base_pos isBase) power)
  have divided := within.div (.refl (base : ℚ)) exactPositive (base_pos isBase)
  rw [pow_succ, ← div_div] at notTiny notHuge
  obtain ⟨inRange, -⟩ := divided.rounded (by omega) notTiny notHuge
  obtain ⟨next, isNext, isRounding⟩ :=
    value?_div isAmount (value?_base isBase) (base_pos isBase).ne' inRange
  exact ⟨amount, next, isAmount, isNext, amountPositive, isRounding⟩

omit positive bounded in
/-- A greater count has no lesser quotient. -/
theorem quotient_mono {lesser greater : ℕ} {left right : ℚ} (positive : 0 < lesser)
    (ordered : lesser ≤ greater) (bounded : greater ≤ 2 ^ 64)
    (isLeft : value? (quotient base lesser power) = some left)
    (isRight : value? (quotient base greater power) = some right) : left ≤ right := by
  induction power generalizing left right with
  | zero =>
      obtain ⟨leftResult, isLeftResult, leftRounding⟩ :=
        value?_ofNat (natCast_le_greatestValue (ordered.trans bounded))
      obtain ⟨rightResult, isRightResult, rightRounding⟩ :=
        value?_ofNat (natCast_le_greatestValue bounded)
      cases isLeft.symm.trans isLeftResult
      cases isRight.symm.trans isRightResult
      exact IsRounding.mono (Nat.cast_nonneg lesser) (Nat.cast_le.mpr ordered) leftRounding
        rightRounding
  | succ power inductionHypothesis =>
      obtain ⟨leftAmount, leftNext, isLeftAmount, isLeftNext, leftPositive, leftRounding⟩ :=
        exists_division isBase positive (ordered.trans bounded) few
      obtain ⟨rightAmount, rightNext, isRightAmount, isRightNext, -, rightRounding⟩ :=
        exists_division isBase (positive.trans_le ordered) bounded few
      cases isLeft.symm.trans isLeftNext
      cases isRight.symm.trans isRightNext
      have amounts := inductionHypothesis (by omega) isLeftAmount isRightAmount
      have basePositive := base_pos isBase
      exact IsRounding.mono (by positivity)
        (div_le_div_of_nonneg_right amounts basePositive.le) leftRounding rightRounding

end Quotient

/-- Digits of a quotient denote its value. -/
theorem areRounded_of_quotient {base count power places : ℕ} {amount : ℚ} {digits : Digits}
    (isAmount : value? (quotient base count power) = some amount)
    (isDigits : Digits.fixed? (.float (quotient base count power)) 0 places = some digits) :
    digits.AreRounded amount 0 places := by
  have isNumber : (Number.float (quotient base count power)).value? = some amount := isAmount
  exact Digits.areRounded_of_fixed? isNumber (Nat.zero_le places) isDigits

/-! ## The unit of an amount -/

/-- Whether a power of the base is the unit that a count is shown in: the quotients before it fill
the next unit, and its own does not, unless there is no further one. -/
structure IsFilled (base count power : ℕ) : Prop where
  positive : 0 < power
  few : power ≤ 6
  before {lower : ℕ} : 0 < lower → lower < power → Float.ofNat base ≤ quotient base count lower
  last : power < 6 → ¬Float.ofNat base ≤ quotient base count power

/-- Division goes on up to the first quotient that does not fill the next unit. -/
theorem exists_fill (base count power : ℕ) (unit : Unit) (larger : List Unit) :
    ∃ further last, (unit :: larger)[further]? = some last ∧
      fill (Float.ofNat base) (quotient base count power) unit larger =
        (quotient base count (power + further), last) ∧
      (∀ step < further, Float.ofNat base ≤ quotient base count (power + step)) ∧
      (further < larger.length → ¬Float.ofNat base ≤ quotient base count (power + further)) := by
  induction larger generalizing power unit with
  | nil => exact ⟨0, unit, rfl, rfl, nofun, nofun⟩
  | cons next larger inductionHypothesis =>
      by_cases full : Float.ofNat base ≤ quotient base count power
      · obtain ⟨further, last, isLast, isFilled, before, after⟩ :=
          inductionHypothesis (power + 1) next
        have shifted (step : ℕ) : power + (step + 1) = power + 1 + step := by omega
        refine ⟨further + 1, last, isLast, ?_, ?_, ?_⟩
        · rw [fill, if_pos full, shifted]
          exact isFilled
        · intro step less
          cases step with
          | zero => exact full
          | succ step =>
              rw [shifted]
              exact before step (Nat.lt_of_succ_lt_succ less)
        · intro less
          rw [shifted]
          exact after (Nat.lt_of_succ_lt_succ less)
      · refine ⟨0, unit, rfl, ?_, nofun, fun _ => full⟩
        rw [fill, if_neg full]
        rfl

/-- Going through the units ends at one that is not full, or at the last, with the quotient by its
power. -/
theorem exists_isFilled (base count : ℕ) :
    ∃ power unit, IsFilled base count power ∧ unitOf? count power = some unit ∧
      fill (Float.ofNat base) (Float.ofNat count / Float.ofNat base) kilobyte largerUnits =
        (quotient base count power, unit) := by
  obtain ⟨further, unit, isUnit, isFilled, before, last⟩ :=
    exists_fill base count 1 kilobyte largerUnits
  have length : (kilobyte :: largerUnits).length = 6 := rfl
  have inRange : further < 6 := length ▸ (List.getElem?_eq_some_iff.mp isUnit).1
  refine ⟨1 + further, unit, ⟨by omega, by omega, ?_, ?_⟩, ?_, isFilled⟩
  · intro lower positive less
    obtain ⟨step, rfl⟩ := Nat.exists_eq_add_of_le positive
    exact before step (by omega)
  · intro less
    exact last (show further < 5 by omega)
  · rw [Nat.add_comm]
    exact isUnit

end ByteCount

/-! ## Written sizes -/

open ByteCount

namespace Locale

variable (locale : Locale)

/-- Whether a text shows digits in front of a unit, behind a minus sign where there is one. -/
structure ShowsSize (negative : Bool) (unit : ByteCount.Unit) (digits : Digits) (text : String) :
    Prop where
  unsigned : digits.negative = false
  areDigits : ∀ digit ∈ digits.fraction, digit.isDigit = true
  few : digits.fraction.length ≤ unit.places
  written :
    text = String.ofList ((if negative then ['-'] else []) ++ unit.layout.write locale digits)

variable {style : NumberStyle} {base : ℕ} {number : Number} {value : Int64}
  (isBase : style.byteBase? = some base) (isTruncated : number.truncate? = some value)

include isBase in
/-- In a style of bytes, the number is written with its unit. -/
theorem formatNumber?_byteCount :
    locale.formatNumber? number style = (locale.byteCount? number base).map String.ofList := by
  cases style <;> cases isBase <;> rfl

include isBase isTruncated

/-- No bytes at all are told in words. -/
theorem formatNumber?_noBytes (isZero : value.toInt = 0) :
    locale.formatNumber? number style = some "Zero KB" := by
  rw [locale.formatNumber?_byteCount isBase, byteCount?, isTruncated, Option.bind_some]
  simp only [isZero, Int.natAbs_zero, if_true]
  rfl

/-- Counts below the base are written in bytes. -/
theorem exists_bytes (positive : 0 < value.toInt.natAbs) (small : value.toInt.natAbs < base) :
    ∃ text, locale.formatNumber? number style = some text ∧
      locale.ShowsSize (decide (value < 0)) (byteUnit value.toInt.natAbs)
        ⟨false, value.toInt.natAbs, []⟩ text := by
  refine ⟨_, ?_, ⟨rfl, nofun, Nat.zero_le _, rfl⟩⟩
  rw [locale.formatNumber?_byteCount isBase, byteCount?, isTruncated, Option.bind_some]
  have unsigned : locale.joinDigits ⟨decide (value < 0), value.toInt.natAbs, []⟩ 1 (some 3) =
      locale.joinDigits ⟨false, value.toInt.natAbs, []⟩ 1 (some 3) :=
    rfl
  simp only [if_neg (Nat.ne_of_gt positive), if_pos small, unsigned, Option.map_some]
  simp [Layout.write, Unit.layout, byteUnit, Digits.sign]

/-- Other counts are written in the unit that they fill. -/
theorem exists_units (large : base ≤ value.toInt.natAbs) :
    ∃ power unit digits text, locale.formatNumber? number style = some text ∧
      locale.ShowsSize (decide (value < 0)) unit digits text ∧
      unitOf? value.toInt.natAbs power = some unit ∧
      IsFilled base value.toInt.natAbs power ∧
      Digits.fixed? (.float (quotient base value.toInt.natAbs power)) 0 unit.places =
        some digits := by
  have isCase := NumberStyle.byteBase_cases isBase
  have positive : 0 < value.toInt.natAbs := by omega
  have bounded : value.toInt.natAbs ≤ 2 ^ 64 := by
    have least := value.le_toInt
    have greatest := value.toInt_lt
    omega
  obtain ⟨power, unit, isFilled, isUnit, isFill⟩ := exists_isFilled base value.toInt.natAbs
  obtain ⟨amount, isAmount, amountPositive, -⟩ :=
    exists_quotient isCase positive bounded isFilled.few
  have notNegative : ¬amount < 0 := not_lt.mpr amountPositive.le
  have isNumber : (Number.float (quotient base value.toInt.natAbs power)).value? = some amount :=
    isAmount
  obtain ⟨scaled, nearest, isDigits⟩ := Digits.fixed?_eq isNumber 0 unit.places
  have rounded := areRounded_of_quotient isAmount isDigits
  refine ⟨power, unit, _, _, ?_, ⟨?_, rounded.areDigits, rounded.atMost, rfl⟩, isUnit, isFilled,
    isDigits⟩
  · rw [locale.formatNumber?_byteCount isBase, byteCount?, isTruncated, Option.bind_some]
    simp only [if_neg (Nat.ne_of_gt positive), if_neg (Nat.not_lt.mpr large), isFill, isDigits,
      Option.map_some, decide_eq_true_iff]
    simp [Layout.write, Unit.layout, Digits.sign, Digits.ofScaled, notNegative]
  · simp [Digits.ofScaled, notNegative]

end Locale

end MessageTemplate
