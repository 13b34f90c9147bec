import Mathlib
import MessageTemplate.Locale.Pattern
import MessageTemplate.Locale.Style
import MessageTemplate.Proofs.Decimal.Digits
import MessageTemplate.Proofs.Decimal.Values

/-! # Rounded digits

The digits of a number are a function of its value (`Digits.fixed?_congr`). They denote it, rounded
half to even, and what the styles and patterns write has no sign in front of digits that are all
zero: `Locale.roundsNumbers`. Text that a pattern or a currency symbol adds may hold hyphens of its
own, and numbers that are neither whole nor finite doubles have no digits. -/

namespace MessageTemplate

open MessageTemplate.Decimal

/-- The rational number that a number is. Infinite and undefined ones are none. -/
def Number.value? : Number → Option ℚ
  | .int value => some value.toInt
  | .float value => Decimal.value? value

namespace Digits

/-! ## The digits of a value -/

/-- There are as many digits as were asked for. -/
@[simp] theorem length_lastDigitsBefore (count value : ℕ) (later : List Char) :
    (lastDigitsBefore count value later).length = count + later.length := by
  induction count generalizing value later with
  | zero => exact (Nat.zero_add _).symm
  | succ count inductionHypothesis =>
      rw [lastDigitsBefore, inductionHypothesis, List.length_cons]
      omega

/-- The last digits of a number are digits. -/
theorem isDigit_of_mem_lastDigitsBefore {count value : ℕ} {later : List Char}
    (areDigits : ∀ digit ∈ later, digit.isDigit = true) :
    ∀ digit ∈ lastDigitsBefore count value later, digit.isDigit = true := by
  induction count generalizing value later with
  | zero => exact areDigits
  | succ count inductionHypothesis =>
      refine inductionHypothesis (List.forall_mem_cons.mpr ⟨?_, areDigits⟩)
      rw [Nat.isDigit_digitChar, decide_eq_true_eq]
      exact Nat.mod_lt value (by decide)

/-- The last digits of a number denote what is left over of it. -/
theorem naturalOf_lastDigitsBefore (count value : ℕ) (later : List Char) :
    naturalOf (lastDigitsBefore count value later) =
      value % 10 ^ count * 10 ^ later.length + naturalOf later := by
  induction count generalizing value later with
  | zero => rw [lastDigitsBefore, Nat.pow_zero, Nat.mod_one, Nat.zero_mul, Nat.zero_add]
  | succ count inductionHypothesis =>
      have digit : naturalOf [Nat.digitChar (value % 10)] = value % 10 := by
        have all : ∀ digit < 10, naturalOf [Nat.digitChar digit] = digit := by decide
        exact all _ (Nat.mod_lt value (by decide))
      have split : value % 10 ^ (count + 1) = value % 10 + 10 * (value / 10 % 10 ^ count) := by
        rw [Nat.pow_succ', Nat.mod_mul]
      rw [lastDigitsBefore, inductionHypothesis, ← List.singleton_append, naturalOf_append, digit,
        split, List.length_append, List.length_singleton, Nat.pow_add]
      ring

/-- Where nothing is left over, all fraction digits are zeros. -/
theorem lastDigitsBefore_zero (count : ℕ) :
    lastDigitsBefore count 0 [] = List.replicate count '0' := by
  refine List.eq_replicate_iff.mpr ⟨length_lastDigitsBefore count 0 [], ?_⟩
  refine eq_zeros_of_naturalOf (isDigit_of_mem_lastDigitsBefore nofun) ?_
  rw [naturalOf_lastDigitsBefore, Nat.zero_mod, Nat.zero_mul]
  rfl

/-- The digits of a whole number. -/
theorem ofScaled_whole (negative : Bool) (whole least most : ℕ) :
    ofScaled negative (whole * tenTo most) least most =
      ⟨negative && whole != 0, whole, List.replicate least '0'⟩ := by
  have positive : 0 < tenTo most := Nat.pow_pos (by decide)
  have noZeros : dropZerosRight (List.replicate most '0') = [] :=
    List.rdropWhile_eq_nil_iff.mpr fun digit member =>
      beq_iff_eq.mpr (List.eq_of_mem_replicate member)
  have isZero : (whole * tenTo most != 0) = (whole != 0) := by
    rw [Bool.eq_iff_iff, bne_iff_ne, bne_iff_ne, Nat.mul_ne_zero_iff]
    exact and_iff_left (Nat.ne_of_gt positive)
  simp only [ofScaled, isZero, Nat.mul_div_cancel _ positive, Nat.mul_mod_left,
    lastDigitsBefore_zero, noZeros, padRight]
  rfl

/-- Digits are a function of the value: it is rounded to the nearest multiple of the last digit. -/
theorem fixed?_eq {number : Number} {value : ℚ} (isValue : number.value? = some value)
    (least most : ℕ) :
    ∃ scaled, IsNearestEven (|value| * 10 ^ most) scaled ∧
      fixed? number least most = some (ofScaled (decide (value < 0)) scaled least most) := by
  cases number with
  | int whole =>
      cases isValue
      have magnitude : |((whole.toInt : ℤ) : ℚ)| * 10 ^ most =
          (whole.toInt.natAbs * 10 ^ most : ℕ) := by
        rw [← Int.cast_abs, ← Nat.cast_natAbs, Nat.cast_mul, Nat.cast_pow, Nat.cast_ofNat]
      refine ⟨whole.toInt.natAbs * 10 ^ most, magnitude ▸ .natCast _, ?_⟩
      have sign : (decide ((whole.toInt : ℚ) < 0) && whole.toInt.natAbs != 0) =
          decide (whole < 0) := by
        rw [Bool.eq_iff_iff, Bool.and_eq_true, decide_eq_true_iff, decide_eq_true_iff, bne_iff_ne,
          Int.cast_lt_zero, Int64.lt_iff_toInt_lt, Int64.toInt_zero]
        omega
      rw [← tenTo_eq, ofScaled_whole, sign]
      rfl
  | float double =>
      obtain ⟨negative, significand, exponent, isExact, rfl⟩ := exists_exact isValue
      have magnitude : |(signed negative significand : ℚ) * 2 ^ exponent| * 10 ^ most =
          (numerator significand exponent * tenTo most : ℕ) / denominator exponent := by
        rw [abs_signed_mul, ← numerator_div_denominator, tenTo_eq]
        push_cast
        ring
      have nearest := isNearestEven_roundHalfEven (denominator_pos exponent)
        (numerator significand exponent * tenTo most)
      rw [← magnitude] at nearest
      refine ⟨_, nearest, ?_⟩
      simp only [fixed?, isExact, signed_mul_neg_iff]
      -- The sign of a zero is dropped.
      by_cases isZero : significand = 0
      · have none : roundHalfEven (numerator significand exponent * tenTo most)
            (denominator exponent) = 0 := by
          rw [isZero, numerator, Nat.zero_mul, Nat.zero_mul, roundHalfEven, Nat.zero_mod,
            if_pos (denominator_pos exponent), Nat.zero_div]
        simp [ofScaled, none]
      · simp [isZero]

/-- Numbers of one value have the same digits. -/
theorem fixed?_congr {left right : Number} {value : ℚ} (isLeft : left.value? = some value)
    (isRight : right.value? = some value) (least most : ℕ) :
    fixed? left least most = fixed? right least most := by
  obtain ⟨leftScaled, leftNearest, isLeftDigits⟩ := fixed?_eq isLeft least most
  obtain ⟨rightScaled, rightNearest, isRightDigits⟩ := fixed?_eq isRight least most
  rw [isLeftDigits, isRightDigits, leftNearest.unique rightNearest]

/-- A number without a value has no digits. -/
theorem fixed?_eq_none {number : Number} (noValue : number.value? = none) (least most : ℕ) :
    fixed? number least most = none := by
  cases number with
  | int whole => cases noValue
  | float double =>
      have isNone : Decimal.value? double = none := noValue
      rw [Decimal.value?] at isNone
      cases isExact : exact double with
      | nan => simp only [fixed?, isExact]
      | infinite negative => simp only [fixed?, isExact]
      | finite negative significand exponent =>
          rw [isExact] at isNone
          cases isNone

/-- Only the digits of a finite double break off what the program is doing. -/
theorem breaksOff_iff (number : Number) (most : ℕ) :
    breaksOff number most = true ↔
      (∃ double value, number = .float double ∧ Decimal.value? double = some value) ∧
        greatestPrecision < most := by
  cases number with
  | int value => simp [breaksOff]
  | float double =>
      have isFinite : isFinite double = true ↔ ∃ value, Decimal.value? double = some value := by
        rw [isFinite, Decimal.value?]
        cases exact double <;> simp [Exact.value?]
      simp [breaksOff, isFinite]

/-! ## What digits denote -/

/-- The number that digits denote, without their sign. -/
def magnitude (digits : Digits) : ℚ :=
  digits.integer + naturalOf digits.fraction / 10 ^ digits.fraction.length

/-- Without fraction digits, the magnitude is the whole part. -/
theorem magnitude_noFraction (negative : Bool) (integer : ℕ) :
    magnitude ⟨negative, integer, []⟩ = integer := by
  have noFraction : naturalOf [] = 0 := rfl
  rw [magnitude, noFraction, Nat.cast_zero, zero_div, add_zero]

/-- Whether digits denote a number, rounded half to even to `most` fraction digits. Beyond the first
`least` of them, no zero stands at the end, and what is rounded to zero has no sign. -/
structure AreRounded (digits : Digits) (value : ℚ) (least most : ℕ) : Prop where
  areDigits : ∀ digit ∈ digits.fraction, digit.isDigit = true
  atLeast : least ≤ digits.fraction.length
  atMost : digits.fraction.length ≤ most
  noZero : least < digits.fraction.length → digits.fraction.getLast? ≠ some '0'
  nearest : ∃ scaled : ℕ, IsNearestEven (|value| * 10 ^ most) scaled ∧
    digits.magnitude = scaled / 10 ^ most
  negative : digits.negative = true ↔ value < 0 ∧ digits.magnitude ≠ 0

/-- Zeros at the end do not change what a fraction denotes. -/
theorem fraction_append_zeros (fraction : List Char) (count : ℕ) :
    (naturalOf (fraction ++ List.replicate count '0') : ℚ) /
        10 ^ (fraction ++ List.replicate count '0').length =
      naturalOf fraction / 10 ^ fraction.length := by
  rw [naturalOf_append, naturalOf_zeros, List.length_append, List.length_replicate, pow_add]
  push_cast
  field_simp
  ring

/-- Digits that are cut from a scaled number stand for the number before it was scaled. -/
theorem magnitude_ofScaled (negative : Bool) (scaled least most : ℕ) :
    (ofScaled negative scaled least most).magnitude = scaled / 10 ^ most := by
  obtain ⟨zeros, isFraction⟩ := exists_zeros (lastDigitsBefore most (scaled % tenTo most) [])
  have left : (naturalOf (lastDigitsBefore most (scaled % tenTo most) []) : ℚ) =
      (scaled % 10 ^ most : ℕ) := by
    rw [naturalOf_lastDigitsBefore, tenTo_eq, Nat.mod_mod]
    exact congrArg Nat.cast (Nat.mul_one _)
  have total : (scaled : ℚ) = 10 ^ most * (scaled / 10 ^ most : ℕ) + (scaled % 10 ^ most : ℕ) := by
    exact_mod_cast (Nat.div_add_mod scaled (10 ^ most)).symm
  have sameFraction := fraction_append_zeros
    (dropZerosRight (lastDigitsBefore most (scaled % tenTo most) [])) zeros
  rw [← isFraction, left, length_lastDigitsBefore, List.length_nil, Nat.add_zero] at sameFraction
  rw [magnitude, ofScaled, padRight, fraction_append_zeros, ← sameFraction, tenTo_eq, total]
  field_simp

/-- The digits of the nearest scaled number are rounded as the promise says. -/
theorem areRounded_ofScaled {value : ℚ} {scaled least most : ℕ} (ordered : least ≤ most)
    (nearest : IsNearestEven (|value| * 10 ^ most) scaled) :
    (ofScaled (decide (value < 0)) scaled least most).AreRounded value least most := by
  obtain ⟨shorter, isShorter⟩ : ∃ shorter,
      shorter = dropZerosRight (lastDigitsBefore most (scaled % tenTo most) []) := ⟨_, rfl⟩
  have fraction : (ofScaled (decide (value < 0)) scaled least most).fraction =
      shorter ++ List.replicate (least - shorter.length) '0' := by
    rw [isShorter]
    rfl
  -- All zeros are dropped from the right, and as many are put back as the least asks for.
  obtain ⟨zeros, isFraction⟩ := exists_zeros (lastDigitsBefore most (scaled % tenTo most) [])
  rw [← isShorter] at isFraction
  have total : most = shorter.length + zeros := by
    have length := congrArg List.length isFraction
    rwa [length_lastDigitsBefore, List.length_append, List.length_replicate, List.length_nil,
      Nat.add_zero] at length
  have length : (shorter ++ List.replicate (least - shorter.length) '0').length =
      max least shorter.length := by
    rw [List.length_append, List.length_replicate]
    omega
  constructor
  case areDigits =>
    rw [fraction]
    intro digit member
    rcases List.mem_append.mp member with inShorter | isZero
    · have inFraction : digit ∈ lastDigitsBefore most (scaled % tenTo most) [] := by
        rw [isFraction]
        exact List.mem_append_left _ inShorter
      exact isDigit_of_mem_lastDigitsBefore (List.forall_mem_nil _) digit inFraction
    · exact isDigit_of_mem_zeros digit isZero
  case atLeast =>
    rw [fraction, length]
    exact Nat.le_max_left _ _
  case atMost =>
    rw [fraction, length]
    omega
  case noZero =>
    rw [fraction, length]
    intro beyond
    have noPadding : least - shorter.length = 0 := by omega
    rw [noPadding, List.replicate_zero, List.append_nil, isShorter]
    exact getLast?_dropZerosRight _
  case nearest => exact ⟨scaled, nearest, magnitude_ofScaled _ _ _ _⟩
  case negative =>
    have notZero : (scaled : ℚ) / 10 ^ most ≠ 0 ↔ scaled ≠ 0 := by
      rw [ne_eq, div_eq_zero_iff, or_iff_left (by positivity), Nat.cast_eq_zero]
    rw [magnitude_ofScaled, notZero]
    simp [ofScaled]

/-- A number that has digits is denoted by them. -/
theorem areRounded_of_fixed? {number : Number} {value : ℚ} {digits : Digits} {least most : ℕ}
    (isValue : number.value? = some value) (ordered : least ≤ most)
    (isDigits : fixed? number least most = some digits) : digits.AreRounded value least most := by
  obtain ⟨scaled, nearest, isFixed⟩ := fixed?_eq isValue least most
  cases isDigits.symm.trans isFixed
  exact areRounded_ofScaled ordered nearest

namespace AreRounded

variable {digits : Digits} {value : ℚ} {least most : ℕ}
  (rounded : digits.AreRounded value least most)

include rounded

/-- Digits are off by half of the last place at most. -/
theorem abs_sub_le : abs (digits.magnitude - |value|) ≤ 1 / (2 * 10 ^ most) := by
  obtain ⟨scaled, nearest, denoted⟩ := rounded.nearest
  have positive : (0 : ℚ) < 10 ^ most := by positivity
  have difference : digits.magnitude - |value| = -(|value| * 10 ^ most - scaled) / 10 ^ most := by
    rw [denoted]
    field_simp
    ring
  rw [difference, abs_div, abs_neg, abs_of_pos positive, div_le_iff₀ positive]
  refine nearest.near.trans (le_of_eq ?_)
  field_simp

/-- A greater number has no lesser digits. -/
theorem magnitude_mono {greater : Digits} {greaterValue : ℚ} {greaterLeast : ℕ}
    (greaterRounded : greater.AreRounded greaterValue greaterLeast most)
    (ordered : |value| ≤ |greaterValue|) : digits.magnitude ≤ greater.magnitude := by
  obtain ⟨scaled, nearest, denoted⟩ := rounded.nearest
  obtain ⟨greaterScaled, greaterNearest, greaterDenoted⟩ := greaterRounded.nearest
  have positive : (0 : ℚ) < 10 ^ most := by positivity
  have scaledLe : scaled ≤ greaterScaled := IsNearestEven.mono
    (mul_le_mul_of_nonneg_right ordered positive.le) nearest greaterNearest
  rw [denoted, greaterDenoted]
  exact div_le_div_of_nonneg_right (Nat.cast_le.mpr scaledLe) positive.le

/-- Digits do not go beyond a whole number that the number does not go beyond. -/
theorem magnitude_le {whole : ℕ} (atMost : |value| ≤ whole) : digits.magnitude ≤ whole := by
  obtain ⟨scaled, nearest, denoted⟩ := rounded.nearest
  have positive : (0 : ℚ) < 10 ^ most := by positivity
  have scaledLe : scaled ≤ whole * 10 ^ most := by
    refine IsNearestEven.mono (mul_le_mul_of_nonneg_right atMost positive.le) nearest ?_
    have isNatural : (whole : ℚ) * 10 ^ most = (whole * 10 ^ most : ℕ) := by push_cast; ring
    exact isNatural ▸ .natCast _
  rw [denoted, div_le_iff₀ positive]
  exact_mod_cast scaledLe

end AreRounded

/-! ## Written digits -/

/-- Digits that denote something have one that is not zero. -/
theorem exists_ne_zero {digits : List Char} (notZero : naturalOf digits ≠ 0) :
    ∃ digit ∈ digits, digit ≠ '0' := by
  by_contra allZeros
  push Not at allZeros
  apply notZero
  rw [List.eq_replicate_of_mem allZeros, naturalOf_zeros]

/-- No digit is lost in grouping. -/
theorem mem_group {separator digit : Char} {size : ℕ} {digits : List Char}
    (member : digit ∈ digits) : digit ∈ group separator size digits := by
  induction digits with
  | nil => cases member
  | cons first rest inductionHypothesis =>
      rw [group]
      rcases List.mem_cons.mp member with rfl | later
      · split <;> exact List.mem_cons_self
      · split
        · exact List.mem_cons_of_mem _ (List.mem_cons_of_mem _ (inductionHypothesis later))
        · exact List.mem_cons_of_mem _ (inductionHypothesis later)

end Digits

/-- Whether a text shows a digit other than zero. -/
def ShowsAmount (text : List Char) : Prop :=
  ∃ digit ∈ text, digit.isDigit = true ∧ digit ≠ '0'

namespace Locale

variable (locale : Locale)

/-- Separators are put between the digits of the integer part, and the fraction stands behind it. -/
theorem exists_joinDigits (digits : Digits) (leastInteger : ℕ) (groupSize : Option ℕ) :
    ∃ grouped,
      (∀ digit ∈ Digits.integerDigits digits.integer leastInteger, digit ∈ grouped) ∧
      locale.joinDigits digits leastInteger groupSize =
        let joined :=
          if digits.fraction.isEmpty then grouped
          else grouped ++ locale.decimalSeparator :: digits.fraction
        if joined.isEmpty then ['0'] else joined := by
  refine ⟨_, ?_, rfl⟩
  intro digit member
  split
  · split
    · exact member
    · exact Digits.mem_group member
  · exact member

/-- Where digits denote something, one is written that is not zero. -/
theorem showsAmount_joinDigits {digits : Digits}
    (areDigits : ∀ digit ∈ digits.fraction, digit.isDigit = true) (notZero : digits.magnitude ≠ 0)
    (leastInteger : ℕ) (groupSize : Option ℕ) :
    ShowsAmount (locale.joinDigits digits leastInteger groupSize) := by
  obtain ⟨grouped, inGroups, isJoined⟩ :=
    locale.exists_joinDigits digits leastInteger groupSize
  rw [isJoined]
  by_cases noInteger : digits.integer = 0
  · have fraction : naturalOf digits.fraction ≠ 0 := by
      intro isZero
      apply notZero
      rw [Digits.magnitude, noInteger, isZero, Nat.cast_zero, zero_div, add_zero]
    obtain ⟨digit, member, differs⟩ := Digits.exists_ne_zero fraction
    have present : digits.fraction ≠ [] := List.ne_nil_of_mem member
    refine ⟨digit, ?_, areDigits digit member, differs⟩
    simp [present, member]
  · have integer : naturalOf (digitsOf digits.integer) ≠ 0 := by
      rwa [naturalOf_digitsOf]
    obtain ⟨digit, member, differs⟩ := Digits.exists_ne_zero integer
    have written : digit ∈ Digits.integerDigits digits.integer leastInteger := by
      rw [Digits.integerDigits, if_neg fun both => noInteger both.2]
      exact List.mem_append_right _ member
    have inGrouped := inGroups digit written
    have present : grouped ≠ [] := List.ne_nil_of_mem inGrouped
    refine ⟨digit, ?_, isDigit_of_mem_digitsOf digit member, differs⟩
    by_cases noFraction : digits.fraction = []
    · simp [noFraction, present, inGrouped]
    · simp [noFraction, inGrouped]

end Locale

/-! ## Styles and patterns -/

/-- What is written around the digits of a number, and how many of them. -/
structure Layout where
  before : List Char
  after : List Char
  leastInteger : ℕ
  leastFraction : ℕ
  mostFraction : ℕ
  groupSize : Option ℕ

/-- Digits with their sign in a layout. -/
def Layout.write (layout : Layout) (locale : Locale) (digits : Digits) : List Char :=
  digits.sign ++ layout.before ++ locale.joinDigits digits layout.leastInteger layout.groupSize ++
    layout.after

/-- The layout of a pattern. -/
def Pattern.layout (pattern : Pattern) (locale : Locale) : Layout where
  before := affixText locale pattern.before
  after := affixText locale pattern.after
  leastInteger := pattern.leastInteger
  leastFraction := pattern.leastFraction
  mostFraction := pattern.mostFraction
  groupSize := pattern.groupSize

namespace Locale

variable (locale : Locale)

/-- The layouts of the decimal style and of those with a symbol. -/
def layout? : NumberStyle → Option Layout
  | .decimal => some ⟨[], [], 1, 0, 3, some 3⟩
  | .currency =>
      some (match locale.currencyPlace with
        | .before => ⟨locale.currencySymbol.toList, [], 1, 2, 2, some 3⟩
        | .after => ⟨[], noBreakSpace :: locale.currencySymbol.toList, 1, 2, 2, some 3⟩)
  | .percent =>
      some ⟨[], if locale.spacedPercent then [noBreakSpace, '%'] else ['%'], 1, 0, 0, some 3⟩
  | _ => none

end Locale

/-- The number whose digits a style shows. -/
def NumberStyle.shown : NumberStyle → Number → Number
  | .percent, number => number.scale 100
  | _, number => number

/-- Whether a text is a number in a layout: its rounded digits stand there, and where a sign stands
in front of them, one of them is not zero. -/
def Layout.Shows (layout : Layout) (locale : Locale) (number : Number) (text : String) : Prop :=
  ∃ value digits, number.value? = some value ∧
    digits.AreRounded value layout.leastFraction layout.mostFraction ∧
    text = String.ofList (layout.write locale digits) ∧
    (digits.sign ≠ [] →
      ShowsAmount (locale.joinDigits digits layout.leastInteger layout.groupSize))

/-- What a layout writes shows the rounded number. -/
theorem Layout.shows_of_mem {layout : Layout} {locale : Locale} {number : Number} {text : String}
    (ordered : layout.leastFraction ≤ layout.mostFraction)
    (isText : (Digits.fixed? number layout.leastFraction layout.mostFraction).map
      (fun digits => String.ofList (layout.write locale digits)) = some text) :
    layout.Shows locale number text := by
  cases isValue : number.value? with
  | none =>
      rw [Digits.fixed?_eq_none isValue] at isText
      cases isText
  | some value =>
      obtain ⟨scaled, nearest, isDigits⟩ :=
        Digits.fixed?_eq isValue layout.leastFraction layout.mostFraction
      rw [isDigits] at isText
      cases isText
      have rounded := Digits.areRounded_ofScaled ordered nearest
      refine ⟨value, _, isValue, rounded, rfl, ?_⟩
      intro hasSign
      have negative : (Digits.ofScaled (decide (value < 0)) scaled layout.leastFraction
          layout.mostFraction).negative = true := by
        by_contra notNegative
        rw [Digits.sign, if_neg notNegative] at hasSign
        exact hasSign rfl
      exact locale.showsAmount_joinDigits rounded.areDigits (rounded.negative.mp negative).2 _ _

/-- A pattern demands no more fraction digits than it allows. -/
theorem Pattern.leastFraction_le {source : List Char} {pattern : Pattern}
    (isPattern : read? source = some pattern) : pattern.leastFraction ≤ pattern.mostFraction := by
  simp only [read?] at isPattern
  split at isPattern
  · cases isPattern
  · cases isPattern
    refine List.countP_mono_left fun character _ isZero => ?_
    rw [isDigitMark, isZero, Bool.or_true]

namespace Locale

variable {locale : Locale} {number : Number} {value : ℚ} {text : String}

/-- The decimal style and those with a symbol write digits in their layouts. -/
theorem formatNumber?_layout (isValue : number.value? = some value) {style : NumberStyle}
    {layout : Layout} (isLayout : locale.layout? style = some layout) :
    locale.formatNumber? number style =
      (Digits.fixed? (style.shown number) layout.leastFraction layout.mostFraction).map
        fun digits => String.ofList (layout.write locale digits) := by
  cases style
  case decimal =>
    cases isLayout
    have isFinite : locale.decimal? number = decimal?.finite locale number := by
      cases number with
      | int whole => rfl
      | float double =>
          obtain ⟨negative, significand, exponent, isExact, -⟩ := exists_exact isValue
          rw [decimal?]
          simp only [isExact]
    rw [formatNumber?, isFinite, decimal?.finite, Option.map_map]
    simp [Function.comp_def, Layout.write, NumberStyle.shown]
  case currency =>
    rw [formatNumber?, currency?, Option.map_map]
    rw [layout?] at isLayout
    split at isLayout
    · cases isLayout
      simp [Function.comp_def, Layout.write, NumberStyle.shown, *]
    · cases isLayout
      simp [Function.comp_def, Layout.write, NumberStyle.shown, *]
  case percent =>
    cases isLayout
    rw [formatNumber?, percent?, Option.map_map]
    simp [Function.comp_def, Layout.write, NumberStyle.shown]
  all_goals cases isLayout

/-- A pattern writes a number in its own layout. -/
theorem formatPattern?_layout {source : String} {pattern : Pattern}
    (isPattern : Pattern.read? source.toList = some pattern) :
    locale.formatPattern? number source =
      (Digits.fixed? (number.scale pattern.factor) pattern.leastFraction pattern.mostFraction).map
        fun digits => String.ofList ((pattern.layout locale).write locale digits) := by
  rw [formatPattern?, isPattern, Option.bind_some, Pattern.format?, Option.map_map]
  rfl

/-- No style asks for more fraction digits than it allows. -/
theorem leastFraction_le {style : NumberStyle} {layout : Layout}
    (isLayout : locale.layout? style = some layout) :
    layout.leastFraction ≤ layout.mostFraction := by
  cases style
  case decimal =>
    cases isLayout
    exact Nat.zero_le 3
  case currency =>
    rw [layout?] at isLayout
    split at isLayout
    · cases isLayout
      exact Nat.le_refl 2
    · cases isLayout
      exact Nat.le_refl 2
  case percent =>
    cases isLayout
    exact Nat.le_refl 0
  all_goals cases isLayout

/-- How numbers are rounded, and what their signs stand for. -/
structure RoundsNumbers (locale : Locale) : Prop where
  /-- A number has digits, and they denote it rounded half to even. -/
  digits {least most : ℕ} : least ≤ most → ∀ {number : Number} {value : ℚ},
    number.value? = some value →
      ∃ digits, Digits.fixed? number least most = some digits ∧ digits.AreRounded value least most
  /-- The digits of a whole number denote it. -/
  whole (value : Int64) (least most : ℕ) :
    ∃ digits, Digits.fixed? (.int value) least most = some digits ∧
      digits.magnitude = |(value.toInt : ℚ)|
  /-- Only for a finite double, and only beyond the greatest precision, the digits break off what
  the program is doing. -/
  breaksOff (number : Number) (most : ℕ) :
    Digits.breaksOff number most = true ↔
      (∃ double value, number = .float double ∧ Decimal.value? double = some value) ∧
        Digits.greatestPrecision < most
  /-- What the styles write of a number shows its rounded digits. -/
  style {style : NumberStyle} {layout : Layout} : locale.layout? style = some layout →
    ∀ {number : Number} {value : ℚ} {text : String}, number.value? = some value →
      locale.formatNumber? number style = some text →
        layout.Shows locale (style.shown number) text
  /-- What a pattern writes of a number shows its rounded digits. -/
  pattern {source : String} {pattern : Pattern} : Pattern.read? source.toList = some pattern →
    ∀ {number : Number} {text : String}, locale.formatPattern? number source = some text →
      (pattern.layout locale).Shows locale (number.scale pattern.factor) text

/-- Every locale rounds numbers half to even and writes no sign in front of a zero. -/
theorem roundsNumbers (locale : Locale) : locale.RoundsNumbers where
  digits ordered number value isValue := by
    obtain ⟨scaled, nearest, isDigits⟩ := Digits.fixed?_eq isValue _ _
    exact ⟨_, isDigits, Digits.areRounded_ofScaled ordered nearest⟩
  whole value least most := by
    refine ⟨⟨decide (value < 0), value.toInt.natAbs, List.replicate least '0'⟩, rfl, ?_⟩
    rw [Digits.magnitude]
    simp only [naturalOf_zeros, Nat.cast_zero, zero_div, add_zero]
    rw [Nat.cast_natAbs, Int.cast_abs]
  breaksOff := Digits.breaksOff_iff
  style isLayout number value text isValue isText := by
    rw [formatNumber?_layout isValue isLayout] at isText
    exact Layout.shows_of_mem (leastFraction_le isLayout) isText
  pattern isPattern number text isText := by
    rw [formatPattern?_layout isPattern] at isText
    exact Layout.shows_of_mem (Pattern.leastFraction_le isPattern) isText

/-- An eighth is a tie between twelve and thirteen hundredths, and an amount that is rounded to zero
has no sign. -/
theorem roundsNumbers_tie :
    (∃ digits, Digits.fixed? (.float 0.125) 0 2 = some digits ∧
        digits.AreRounded (1 / 8) 0 2 ∧ digits = ⟨false, 0, ['1', '2']⟩) ∧
      (⟨['$'], [], 1, 2, 2, some 3⟩ : Layout).Shows enUS (.float (-0.001)) "$0.00" := by
  have isEighth : exact 0.125 = .finite false (2 ^ 52) (-55) := by decide +kernel
  have isSmall : exact (-0.001) = .finite true 4611686018427388 (-62) := by decide +kernel
  have eighth : (Number.float 0.125).value? = some (1 / 8) := by
    rw [Number.value?, Decimal.value?, isEighth, Exact.value?, signed]
    norm_num
  have small : (Number.float (-0.001)).value? =
      some ((signed true 4611686018427388 : ℚ) * 2 ^ (-62 : ℤ)) :=
    congrArg Exact.value? isSmall
  have isTwelve : Digits.fixed? (.float 0.125) 0 2 = some ⟨false, 0, ['1', '2']⟩ := by
    decide +kernel
  have isLayout : enUS.layout? .currency = some ⟨['$'], [], 1, 2, 2, some 3⟩ := rfl
  have isText : enUS.formatNumber? (.float (-0.001)) .currency = some "$0.00" := by
    decide +kernel
  obtain ⟨digits, isDigits, rounded⟩ := (roundsNumbers enUS).digits (Nat.zero_le 2) eighth
  exact ⟨⟨digits, isDigits, rounded, Option.some_inj.mp (isDigits.symm.trans isTwelve)⟩,
    (roundsNumbers enUS).style isLayout small isText⟩

end Locale

end MessageTemplate
