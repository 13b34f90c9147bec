import Mathlib
import MessageTemplate.Proofs.Locale.Units

/-! # Amounts of a whole base

The unit of a byte count is chosen before its amount is rounded. Just below each unit there is a
band of counts that are shown as a whole base of the unit before (`ByteCount.fullBands`), and of no
other count as much as a base is shown (`Locale.fillsUnits`). -/

namespace MessageTemplate

open MessageTemplate.Decimal

namespace ByteCount

/-- Digits of a count in units of a power of the base. -/
def shown? (base count power : ℕ) : Option Digits :=
  (unitOf? count power).bind fun unit =>
    Digits.fixed? (.float (quotient base count power)) 0 unit.places

/-- For each unit below the greatest one, the first count that is rounded to a whole base of it and
the first that is shown in the next unit. -/
def fullBands (base : ℕ) : List (ℕ × ℕ) :=
  if base = 1000 then
    [(999500, 1000000), (999950000, 1000000000), (999995000000, 1000000000000),
      (999995000000000, 1000000000000000), (999994999999999936, 999999999999999936)]
  else
    [(1048064, 1048576), (1073689396, 1073741824), (1099506259067, 1099511627776),
      (1125894409284486, 1125899906842624), (1152915875107312705, 1152921504606846912)]

/-- Whether a count is shown as a whole base of a unit. -/
def IsFull (base count : ℕ) : Prop :=
  ∃ band ∈ fullBands base, band.1 ≤ count ∧ count < band.2

/-- What is shown in a unit at both ends of its band. -/
structure IsBand (base power first next : ℕ) : Prop where
  few : power < 6
  less : ∃ digits ∈ shown? base (first - 1) power, digits.magnitude < base
  full : ∃ digits ∈ shown? base first power, base ≤ digits.magnitude
  last : ¬Float.ofNat base ≤ quotient base (next - 1) power
  fills : Float.ofNat base ≤ quotient base next power
  positive : 1 < first
  ordered : first < next
  bounded : next ≤ 2 ^ 63

/-- There is a band for each unit but the last. -/
theorem length_fullBands (base : ℕ) : (fullBands base).length = 5 := by
  rw [fullBands]
  split <;> rfl

/-- The bands are computed at their ends. -/
theorem isBand {base lower : ℕ} {band : ℕ × ℕ} (isBase : base = 1000 ∨ base = 1024)
    (isRow : (fullBands base)[lower]? = some band) : IsBand base (lower + 1) band.1 band.2 := by
  have rows : ∀ base ∈ [1000, 1024], ∀ lower < 5, ∀ band ∈ (fullBands base)[lower]?,
      (∃ digits ∈ shown? base (band.1 - 1) (lower + 1), digits.magnitude < base) ∧
      (∃ digits ∈ shown? base band.1 (lower + 1), base ≤ digits.magnitude) ∧
      ¬Float.ofNat base ≤ quotient base (band.2 - 1) (lower + 1) ∧
      Float.ofNat base ≤ quotient base band.2 (lower + 1) ∧
      1 < band.1 ∧ band.1 < band.2 ∧ band.2 ≤ 2 ^ 63 := by
    decide +kernel
  have inRange : lower < 5 := length_fullBands base ▸ (List.getElem?_eq_some_iff.mp isRow).1
  obtain ⟨less, full, last, fills, positive, ordered, bounded⟩ :=
    rows base (mem_bases isBase) lower inRange band isRow
  exact ⟨by omega, less, full, last, fills, positive, ordered, bounded⟩

/-- Each unit but the greatest one has a band, which is below those of the units above. -/
theorem exists_band {base lower : ℕ} (isBase : base = 1000 ∨ base = 1024) (few : lower < 5) :
    ∃ band, (fullBands base)[lower]? = some band ∧
      ∀ higher above, lower < higher → (fullBands base)[higher]? = some above →
        band.2 ≤ above.1 := by
  have sorted : ∀ base ∈ [1000, 1024],
      (fullBands base).Pairwise fun band above => band.2 ≤ above.1 := by decide
  have inRange : lower < (fullBands base).length := length_fullBands base ▸ few
  refine ⟨(fullBands base)[lower], List.getElem?_eq_getElem inRange, ?_⟩
  intro higher above greater isAbove
  obtain ⟨aboveInRange, rfl⟩ := List.getElem?_eq_some_iff.mp isAbove
  exact List.pairwise_iff_getElem.mp (sorted base (mem_bases isBase)) _ _ inRange
    aboveInRange greater

/-- Counts below the base are in no band. -/
theorem not_isFull_of_lt {base count : ℕ} (isBase : base = 1000 ∨ base = 1024)
    (small : count < base) : ¬IsFull base count := by
  have beyond : ∀ base ∈ [1000, 1024], ∀ band ∈ fullBands base, base ≤ band.1 := by decide
  rintro ⟨band, member, inBand, -⟩
  exact absurd ((beyond base (mem_bases isBase) band member).trans inBand)
    (Nat.not_le.mpr small)

/-! ## Between the ends -/

section Order

variable {base lesser greater power : ℕ} (isBase : base = 1000 ∨ base = 1024)
  (positive : 0 < lesser) (ordered : lesser ≤ greater) (bounded : greater ≤ 2 ^ 63)
  (few : power ≤ 6)

include isBase positive ordered bounded few

/-- Amounts of one unit are in the order of the counts. -/
theorem exists_quotients :
    ∃ left right, value? (quotient base lesser power) = some left ∧
      value? (quotient base greater power) = some right ∧ 0 < left ∧ left ≤ right := by
  obtain ⟨left, isLeft, leftPositive, -⟩ :=
    exists_quotient isBase positive (show lesser ≤ 2 ^ 64 by omega) few
  obtain ⟨right, isRight, -⟩ :=
    exists_quotient isBase (show 0 < greater by omega) (show greater ≤ 2 ^ 64 by omega) few
  exact ⟨left, right, isLeft, isRight, leftPositive,
    quotient_mono isBase few positive ordered (by omega) isLeft isRight⟩

/-- Counts above one that fills a unit fill it as well. -/
theorem fills_mono (fills : Float.ofNat base ≤ quotient base lesser power) :
    Float.ofNat base ≤ quotient base greater power := by
  obtain ⟨left, right, isLeft, isRight, -, amounts⟩ :=
    exists_quotients isBase positive ordered bounded few
  rw [le_iff (value?_base isBase) isLeft] at fills
  rw [le_iff (value?_base isBase) isRight]
  exact fills.trans amounts

/-- Counts above one are shown by no lesser amount of the same unit. -/
theorem magnitude_mono_of_shown? {leftDigits rightDigits : Digits} (unitPositive : 0 < power)
    (isLeftShown : shown? base lesser power = some leftDigits)
    (isRightShown : shown? base greater power = some rightDigits) :
    leftDigits.magnitude ≤ rightDigits.magnitude := by
  obtain ⟨left, right, isLeft, isRight, leftPositive, amounts⟩ :=
    exists_quotients isBase positive ordered bounded few
  obtain ⟨unit, isUnit, isLeftDigits⟩ := Option.bind_eq_some_iff.mp isLeftShown
  rw [shown?, ← unitOf?_congr unitPositive lesser, isUnit, Option.bind_some] at isRightShown
  refine (areRounded_of_quotient isLeft isLeftDigits).magnitude_mono
    (areRounded_of_quotient isRight isRightShown) ?_
  rwa [abs_of_pos leftPositive, abs_of_pos (leftPositive.trans_le amounts)]

end Order

section Band

variable {base count power first next : ℕ} (isBase : base = 1000 ∨ base = 1024)
  (isBand : IsBand base power first next) (positive : 0 < count) (bounded : count ≤ 2 ^ 63)

include isBase isBand positive bounded

/-- From the end of its band on, counts fill the unit. -/
theorem IsBand.fills_iff : Float.ofNat base ≤ quotient base count power ↔ next ≤ count := by
  have few := isBand.few.le
  constructor
  · intro fills
    by_contra below
    have atMost := isBand.bounded
    exact isBand.last (fills_mono isBase positive (by omega) (by omega) few fills)
  · intro above
    have ordered := isBand.ordered
    exact fills_mono isBase (by omega) above bounded few isBand.fills

/-- From the beginning of its band on, counts are shown as a whole base of the unit. -/
theorem IsBand.magnitude_lt_iff {digits : Digits} (unitPositive : 0 < power)
    (isDigits : shown? base count power = some digits) :
    digits.magnitude < base ↔ count < first := by
  have few := isBand.few.le
  constructor
  · intro less
    by_contra above
    obtain ⟨full, isFull, atLeast⟩ := isBand.full
    have fullLe := magnitude_mono_of_shown? isBase (by have := isBand.positive; omega)
      (Nat.not_lt.mp above) bounded few unitPositive isFull isDigits
    exact absurd (atLeast.trans fullLe) (not_le.mpr less)
  · intro below
    obtain ⟨digitsBelow, isDigitsBelow, less⟩ := isBand.less
    have ends := isBand.ordered.trans_le isBand.bounded
    exact (magnitude_mono_of_shown? isBase positive (Nat.le_sub_one_of_lt below) (by omega) few
      unitPositive isDigits isDigitsBelow).trans_lt less

end Band

/-- The greatest unit is not filled. -/
theorem magnitude_lt_of_last {base count : ℕ} {digits : Digits}
    (isBase : base = 1000 ∨ base = 1024) (positive : 0 < count) (bounded : count ≤ 2 ^ 63)
    (isDigits : shown? base count 6 = some digits) : digits.magnitude < base := by
  have greatest : ∀ base ∈ [1000, 1024], ∃ digits ∈ shown? base (2 ^ 63) 6,
      digits.magnitude < base := by decide +kernel
  obtain ⟨most, isMost, less⟩ := greatest base (mem_bases isBase)
  exact (magnitude_mono_of_shown? isBase positive bounded le_rfl le_rfl (by decide) isDigits
    isMost).trans_lt less

/-- As much as a base of the unit that a count fills is shown only of the counts in the bands. -/
theorem magnitude_lt_iff {base count power : ℕ} {digits : Digits}
    (isBase : base = 1000 ∨ base = 1024) (positive : 0 < count) (bounded : count ≤ 2 ^ 63)
    (isFilled : IsFilled base count power) (isDigits : shown? base count power = some digits) :
    digits.magnitude < base ↔ ¬IsFull base count := by
  obtain ⟨lower, rfl⟩ := Nat.exists_eq_add_one_of_ne_zero (Nat.ne_of_gt isFilled.positive)
  -- The count is beyond the bands of the units below its own.
  have beyond {other : ℕ} {band : ℕ × ℕ} (isRow : (fullBands base)[other]? = some band)
      (less : other < lower) : band.2 ≤ count :=
    ((isBand isBase isRow).fills_iff isBase positive bounded).mp
      (isFilled.before (Nat.succ_pos other) (Nat.succ_lt_succ less))
  by_cases isLast : lower = 5
  · subst isLast
    refine iff_of_true (magnitude_lt_of_last isBase positive bounded isDigits) ?_
    rintro ⟨band, member, -, below⟩
    obtain ⟨other, inRange, rfl⟩ := List.mem_iff_getElem.mp member
    have few : other < 5 := length_fullBands base ▸ inRange
    exact absurd (beyond (List.getElem?_eq_getElem inRange) few) (Nat.not_le.mpr below)
  · have few : lower < 5 := by have := isFilled.few; omega
    obtain ⟨own, isOwn, above⟩ := exists_band isBase few
    have ownBand := isBand isBase isOwn
    have notFilled : ¬own.2 ≤ count :=
      (ownBand.fills_iff isBase positive bounded).not.mp (isFilled.last (by omega))
    rw [ownBand.magnitude_lt_iff isBase positive bounded (Nat.succ_pos lower) isDigits,
      ← Nat.not_le, not_iff_not]
    constructor
    · intro inBand
      exact ⟨own, List.mem_of_getElem? isOwn, inBand, Nat.not_le.mp notFilled⟩
    · rintro ⟨band, member, inBand, below⟩
      obtain ⟨other, inRange, rfl⟩ := List.mem_iff_getElem.mp member
      have isRow := List.getElem?_eq_getElem inRange
      rcases Nat.lt_trichotomy other lower with lessUnit | rfl | greaterUnit
      · exact absurd (beyond isRow lessUnit) (Nat.not_le.mpr below)
      · obtain rfl := Option.some_inj.mp (isRow.symm.trans isOwn)
        exact inBand
      · exact absurd ((above other _ greaterUnit isRow).trans inBand) notFilled

/-- No more than a base of the unit that a count fills is shown. -/
theorem magnitude_le {base count power : ℕ} {digits : Digits}
    (isBase : base = 1000 ∨ base = 1024) (positive : 0 < count) (bounded : count ≤ 2 ^ 63)
    (isFilled : IsFilled base count power) (isDigits : shown? base count power = some digits) :
    digits.magnitude ≤ base := by
  rcases Nat.lt_or_eq_of_le isFilled.few with less | rfl
  · obtain ⟨amount, isAmount, amountPositive, -⟩ :=
      exists_quotient isBase positive (show count ≤ 2 ^ 64 by omega) isFilled.few
    have below := isFilled.last less
    rw [le_iff (value?_base isBase) isAmount, not_le] at below
    obtain ⟨unit, -, isUnitDigits⟩ := Option.bind_eq_some_iff.mp isDigits
    exact (areRounded_of_quotient isAmount isUnitDigits).magnitude_le
      ((abs_of_pos amountPositive).trans_le below.le)
  · exact (magnitude_lt_of_last isBase positive bounded isDigits).le

end ByteCount

open ByteCount

namespace Locale

/-- How the amounts of byte counts are kept below the base. -/
structure FillsUnits (locale : Locale) : Prop where
  /-- No bytes are written in words, without an amount. -/
  none {style : NumberStyle} {base : ℕ} : style.byteBase? = some base → ∀ {value : Int64},
    value.toInt = 0 → locale.formatNumber? (.int value) style = some "Zero KB"
  /-- Any other count is written as an amount of a unit. It is no more than the base, and less for
  all counts outside the bands. -/
  amount {style : NumberStyle} {base : ℕ} : style.byteBase? = some base → ∀ {value : Int64},
    value.toInt ≠ 0 →
      ∃ power unit digits text, locale.formatNumber? (.int value) style = some text ∧
        locale.ShowsSize (decide (value < 0)) unit digits text ∧
        unitOf? value.toInt.natAbs power = some unit ∧ digits.magnitude ≤ base ∧
        (digits.magnitude < base ↔ ¬IsFull base value.toInt.natAbs)

/-- In every locale and by every style of bytes an amount below the base is written, but for the
counts in the bands, which are written as a whole base. -/
theorem fillsUnits (locale : Locale) : locale.FillsUnits where
  none {style base} isBase value isZero := by
    have isTruncated : (Number.int value).truncate? = some value := rfl
    exact locale.formatNumber?_noBytes isBase isTruncated isZero
  amount {style base} isBase value notZero := by
    have isCase := NumberStyle.byteBase_cases isBase
    have isTruncated : (Number.int value).truncate? = some value := rfl
    have positive : 0 < value.toInt.natAbs := Int.natAbs_pos.mpr notZero
    have bounded : value.toInt.natAbs ≤ 2 ^ 63 := by
      have least := value.le_toInt
      have greatest := value.toInt_lt
      omega
    rcases Nat.lt_or_ge value.toInt.natAbs base with small | large
    · obtain ⟨text, isText, shows⟩ := locale.exists_bytes isBase isTruncated positive small
      have less : Digits.magnitude ⟨false, value.toInt.natAbs, []⟩ < base :=
        (Digits.magnitude_noFraction _ _).trans_lt (Nat.cast_lt.mpr small)
      exact ⟨0, _, _, text, isText, shows, rfl, less.le,
        iff_of_true less (not_isFull_of_lt isCase small)⟩
    · obtain ⟨power, unit, digits, text, isText, shows, isUnit, isFilled, isDigits⟩ :=
        locale.exists_units isBase isTruncated large
      have isShown : shown? base value.toInt.natAbs power = some digits := by
        rw [shown?, isUnit, Option.bind_some, isDigits]
      exact ⟨power, unit, digits, text, isText, shows, isUnit,
        magnitude_le isCase positive bounded isFilled isShown,
        magnitude_lt_iff isCase positive bounded isFilled isShown⟩

/-- One byte less than a megabyte is shown as a thousand kilobytes. -/
theorem fillsUnits_band :
    enUS.formatNumber? (.int 999999) .fileBytes = some "1,000 KB" ∧
      ∃ power unit digits text, enUS.formatNumber? (.int 999999) .fileBytes = some text ∧
        enUS.ShowsSize false unit digits text ∧ unitOf? 999999 power = some unit ∧
        digits.magnitude = 1000 := by
  have isFull : IsFull 1000 999999 := ⟨(999500, 1000000), by decide, by decide, by decide⟩
  have isBase : NumberStyle.fileBytes.byteBase? = some 1000 := rfl
  have notZero : (999999 : Int64).toInt ≠ 0 := by decide
  obtain ⟨power, unit, digits, text, isText, shows, isUnit, most, less⟩ :=
    (fillsUnits enUS).amount isBase notZero
  have notLess : ¬digits.magnitude < (1000 : ℕ) := fun below => less.mp below isFull
  exact ⟨by decide +kernel, power, unit, digits, text, isText, shows, isUnit,
    le_antisymm most (not_lt.mp notLess)⟩

end Locale

end MessageTemplate
