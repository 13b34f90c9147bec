import Mathlib.Algebra.Group.Int.Defs
import Mathlib.Algebra.Group.Nat.Defs
import MessageTemplate.Locale.Pattern
import MessageTemplate.Locale.Style
import MessageTemplate.Proofs.Character.Blank
import MessageTemplate.Proofs.Decimal.Reading
import MessageTemplate.Value

/-! # Whole numbers in a locale

A pattern writes a whole number digit for digit, as long as its product with the factor of the
pattern has 64 bits. Zeros stand in front up to the demanded count, separators stand between the
groups and nowhere else, and the affixes stand around it: `Locale.printsIntegers`. The decimal style
is one of these patterns, and what it writes is read as the same number again once the separators
are gone.

Separators are no digits in the known locales, which may have any currency symbol. Products of more
than 64 bits become doubles and are not described here. -/

namespace MessageTemplate

open MessageTemplate.Character MessageTemplate.Decimal

/-! ## Groups of digits -/

namespace Digits

/-- Digits with a separator before every digit from which a multiple of `size` digits reach to the
end, except before the first. -/
def separated (separator : Char) (size : Nat) (digits : List Char) : List Char :=
  digits.zipIdx.flatMap fun (digit, index) =>
    if 0 < index ∧ size ∣ digits.length - index then [separator, digit] else [digit]

variable {separator : Char} {size : Nat} {digits : List Char}

/-- A separator stands behind a digit where groups are full from there to the end. -/
theorem group_cons (digit : Char) (rest : List Char) :
    group separator size (digit :: rest) =
      digit :: ((if rest ≠ [] ∧ size ∣ rest.length then [separator] else []) ++
        group separator size rest) := by
  have sameTest : rest.length % size = 0 ∧ rest ≠ [] ↔ rest ≠ [] ∧ size ∣ rest.length := by
    rw [Nat.dvd_iff_mod_eq_zero, and_comm]
  simp only [group, sameTest]
  split <;> rfl

/-- The digits behind the first one, each with the separator before it. -/
theorem separated_behind {index total : Nat} (behind : 0 < index)
    (isTotal : total = index + digits.length) :
    ((digits.zipIdx index).flatMap fun (digit, index) =>
        if 0 < index ∧ size ∣ total - index then [separator, digit] else [digit]) =
      (if digits ≠ [] ∧ size ∣ digits.length then [separator] else []) ++
        group separator size digits := by
  induction digits generalizing index with
  | nil => rfl
  | cons digit rest inductionHypothesis =>
      have reach : total - index = rest.length + 1 := by
        rw [isTotal, List.length_cons]
        omega
      have later := inductionHypothesis (Nat.succ_pos index) (by omega)
      rw [List.zipIdx_cons, List.flatMap_cons, later, group_cons, List.length_cons]
      by_cases full : size ∣ rest.length + 1
      · simp [behind, reach, full]
      · simp [reach, full]

/-- Separators that are put behind digits stand before the right ones. -/
theorem group_eq_separated (separator : Char) (size : Nat) (digits : List Char) :
    group separator size digits = separated separator size digits := by
  cases digits with
  | nil => rfl
  | cons digit rest =>
      have isTotal : (digit :: rest).length = 0 + 1 + rest.length := by simp [Nat.add_comm]
      rw [separated, List.zipIdx_cons, List.flatMap_cons,
        separated_behind (Nat.succ_pos 0) isTotal, group_cons]
      rfl

/-- Without a size there are no groups. -/
theorem group_zero (separator : Char) (digits : List Char) :
    group separator 0 digits = digits := by
  induction digits with
  | nil => rfl
  | cons digit rest inductionHypothesis =>
      rw [group_cons, if_neg (by simp), inductionHypothesis, List.nil_append]

/-- The separators can be taken out again. -/
theorem filter_group (notMember : separator ∉ digits) :
    (group separator size digits).filter (· != separator) = digits := by
  induction digits with
  | nil => rfl
  | cons digit rest inductionHypothesis =>
      obtain ⟨differs, later⟩ := List.ne_and_not_mem_of_not_mem_cons notMember
      have separators : ((if rest ≠ [] ∧ size ∣ rest.length then [separator] else []).filter
          (· != separator)) = [] := by
        split <;> simp
      rw [group_cons, List.filter_cons_of_pos (by simpa using Ne.symm differs), List.filter_append,
        separators, inductionHypothesis later, List.nil_append]

end Digits

/-! ## Integer parts -/

/-- The decimal digits of a magnitude, with zeros in front up to a least count. Zero has no digits
where none is demanded. -/
def Pattern.wholeDigits (leastInteger magnitude : Nat) : List Char :=
  if leastInteger = 0 ∧ magnitude = 0 then []
  else (Nat.toDigits 10 magnitude).leftpad leastInteger '0'

/-- The digits in front of the point are those of the whole number, filled up with zeros. -/
theorem Digits.integerDigits_eq (magnitude leastInteger : Nat) :
    Digits.integerDigits magnitude leastInteger = Pattern.wholeDigits leastInteger magnitude :=
  rfl

/-- What is filled up with zeros still consists of digits. -/
theorem Pattern.isDigit_of_mem_wholeDigits (leastInteger magnitude : Nat) :
    ∀ digit ∈ Pattern.wholeDigits leastInteger magnitude, digit.isDigit = true := by
  intro digit member
  rw [wholeDigits] at member
  split at member
  · cases member
  · rcases List.mem_append.mp member with padding | ofMagnitude
    · exact isDigit_of_mem_zeros digit padding
    · exact isDigit_of_mem_digitsOf digit ofMagnitude

/-- Where a digit is demanded, one digit at least is written for any magnitude. -/
theorem Pattern.wholeDigits_one (magnitude : Nat) :
    Pattern.wholeDigits 1 magnitude = digitsOf magnitude := by
  have present : 0 < (Nat.toDigits 10 magnitude).length :=
    List.length_pos_iff.mpr (digitsOf_ne_nil magnitude)
  have noPadding : 1 - (Nat.toDigits 10 magnitude).length = 0 := by omega
  rw [wholeDigits, if_neg (by simp), List.leftpad, noPadding]
  rfl

namespace Locale

variable (locale : Locale)

/-- Digits with the separators of a locale between groups of a size, where there are both. -/
def grouped (groupSize : Option Nat) (digits : List Char) : List Char :=
  match groupSize, locale.groupingSeparator with
  | some size, some separator => Digits.separated separator size digits
  | _, _ => digits

/-- A text without the characters that separate groups. -/
def withoutSeparators (text : List Char) : List Char :=
  text.filter fun character => locale.groupingSeparator != some character

/-- An integer part, with as many zeros behind the decimal separator as are demanded. Where there is
neither, a zero stands for the number. -/
def wholeNumber (leastFraction : Nat) (integer : List Char) : List Char :=
  let fraction :=
    if leastFraction = 0 then []
    else locale.decimalSeparator :: List.replicate leastFraction '0'
  if integer = [] ∧ leastFraction = 0 then ['0'] else integer ++ fraction

/-- Digits with nothing but zeros behind the point are joined as a whole number is written. -/
theorem joinDigits_wholeNumber (negative : Bool) (magnitude leastInteger leastFraction : Nat)
    (groupSize : Option Nat) :
    locale.joinDigits ⟨negative, magnitude, List.replicate leastFraction '0'⟩ leastInteger
        groupSize =
      locale.wholeNumber leastFraction
        (locale.grouped groupSize (Pattern.wholeDigits leastInteger magnitude)) := by
  have sameGroups : (match groupSize, locale.groupingSeparator with
      | some size, some separator =>
          if size = 0 then Digits.integerDigits magnitude leastInteger
          else Digits.group separator size (Digits.integerDigits magnitude leastInteger)
      | _, _ => Digits.integerDigits magnitude leastInteger) =
        locale.grouped groupSize (Pattern.wholeDigits leastInteger magnitude) := by
    unfold grouped
    rw [Digits.integerDigits_eq]
    split
    · next size separator _ =>
        simp only [← Digits.group_eq_separated]
        split
        · next isZero => rw [isZero, Digits.group_zero]
        · rfl
    · rfl
  have joined (integer : List Char) :
      (let joined :=
          if (List.replicate leastFraction '0').isEmpty then integer
          else integer ++ locale.decimalSeparator :: List.replicate leastFraction '0'
        if joined.isEmpty then ['0'] else joined) = locale.wholeNumber leastFraction integer := by
    cases leastFraction <;> simp [wholeNumber]
  rw [← joined, ← sameGroups]
  rfl

/-! ## Known locales -/

/-- The known locales. -/
def presets : List Locale :=
  [invariant, enUS, enGB, deDE, frFR, esES, trTR, azAZ]

/-- A known locale, which may have another currency symbol. -/
def IsPreset : Prop :=
  ∃ preset ∈ presets, locale = { preset with currencySymbol := locale.currencySymbol }

section Preset

variable {locale : Locale} (isPreset : locale.IsPreset)

include isPreset

/-- Nothing that a whole number is written with separates groups. -/
theorem IsPreset.separator_apart {separator : Char}
    (isSeparator : locale.groupingSeparator = some separator) :
    separator.isDigit = false ∧ separator ≠ '-' := by
  obtain ⟨preset, known, same⟩ := isPreset
  have all : ∀ preset ∈ presets,
      preset.groupingSeparator.all (fun separator => !separator.isDigit && separator != '-') := by
    decide
  have ofPreset : preset.groupingSeparator = some separator := by
    rw [same] at isSeparator
    exact isSeparator
  simpa [ofPreset] using all preset known

/-- The digits of a number are what is left without the separators. -/
theorem IsPreset.withoutSeparators_grouped {digits : List Char}
    (areDigits : ∀ digit ∈ digits, digit.isDigit = true) (groupSize : Option Nat) :
    locale.withoutSeparators (locale.grouped groupSize digits) = digits := by
  cases isSeparator : locale.groupingSeparator with
  | none => cases groupSize <;> simp [withoutSeparators, grouped, isSeparator]
  | some separator =>
      have notMember : separator ∉ digits := fun member => by
        have apart := isPreset.separator_apart isSeparator
        rw [areDigits separator member] at apart
        exact absurd apart.1 (by decide)
      have sameTest (character : Char) :
          (some separator != some character) = (character != separator) := by
        rw [Bool.eq_iff_iff, bne_iff_ne, bne_iff_ne, Ne, Option.some_inj]
        exact ne_comm
      cases groupSize with
      | none =>
          simp only [withoutSeparators, grouped, isSeparator, sameTest]
          exact List.filter_eq_self.mpr fun digit member => by
            simpa using ne_of_mem_of_not_mem member notMember
      | some size =>
          simp only [withoutSeparators, grouped, isSeparator, sameTest,
            ← Digits.group_eq_separated]
          exact Digits.filter_group notMember

end Preset

end Locale

/-! ## Whole numbers in patterns -/

/-- The minus sign of a negative whole number. -/
def Number.signOf (value : Int64) : List Char :=
  if value < 0 then ['-'] else []

/-- A whole number is scaled to the product, where that fits in 64 bits. -/
theorem Number.scale_int {value product : Int64} {factor : Nat}
    (isProduct : product.toInt = value.toInt * factor) :
    (Number.int value).scale factor = .int product := by
  have inRange := And.intro (Int64.minValue_le_toInt product) (Int64.toInt_le product)
  simp only [scale, int64?, ← isProduct, if_pos inRange, Int64.ofInt_toInt]

/-- A pattern scales by a hundred, by a thousand, or not at all. -/
theorem Pattern.factor_cases {source : List Char} {pattern : Pattern}
    (isPattern : read? source = some pattern) :
    pattern.factor = 1 ∨ pattern.factor = 100 ∨ pattern.factor = 1000 := by
  have cases (affixes : List PatternChar) :
      factorOf affixes = 1 ∨ factorOf affixes = 100 ∨ factorOf affixes = 1000 := by
    rw [factorOf]
    split
    · exact .inr (.inl rfl)
    · split
      · exact .inr (.inr rfl)
      · exact .inl rfl
  rw [read?] at isPattern
  split at isPattern
  · cases isPattern
  · cases isPattern
    exact cases _

/-- A positive factor keeps the sign. -/
theorem Number.signOf_product {value product : Int64} {factor : Nat} (positive : 0 < factor)
    (isProduct : product.toInt = value.toInt * factor) : signOf product = signOf value := by
  have positiveFactor : (0 : Int) < factor := Int.ofNat_lt.mpr positive
  have sameSign : product < 0 ↔ value < 0 := by
    rw [Int64.lt_iff_toInt_lt, Int64.lt_iff_toInt_lt, isProduct, Int64.toInt_zero, ← Int.not_le,
      ← Int.not_le, Int.mul_nonneg_iff_of_pos_right positiveFactor]
  rw [signOf, signOf]
  simp only [sameSign]

/-- A pattern writes a whole number as its sign, what stands in front, the grouped digits and what
stands behind. -/
theorem Pattern.format?_int (pattern : Pattern) (locale : Locale) {value product : Int64}
    (isProduct : product.toInt = value.toInt * pattern.factor) :
    pattern.format? locale (.int value) =
      some (Number.signOf product ++ affixText locale pattern.before ++
        locale.wholeNumber pattern.leastFraction (locale.grouped pattern.groupSize
          (wholeDigits pattern.leastInteger product.toInt.natAbs)) ++
        affixText locale pattern.after) := by
  rw [format?, Number.scale_int isProduct,
    ← locale.joinDigits_wholeNumber (decide (product < 0))]
  simp [Digits.fixed?, Digits.sign, Number.signOf]

/-! ## The decimal style -/

/-- A signed whole number is the number of its text. -/
theorem Value.readNumber?_signed {value : Int64} {digits : List Char}
    (areDigits : ∀ digit ∈ digits, digit.isDigit = true) (nonempty : digits ≠ [])
    (denotes : naturalOf digits = value.toInt.natAbs) :
    readNumber? (Number.signOf value ++ digits) = some (.int value) := by
  have notBlank : ∀ character ∈ Number.signOf value ++ digits, isBlank character = false := by
    intro character member
    rcases List.mem_append.mp member with isSign | isDigit
    · rw [Number.signOf] at isSign
      split at isSign
      · rw [List.mem_singleton.mp isSign]
        decide
      · cases isSign
    · exact isBlank_of_isDigit (areDigits character isDigit)
  rw [readNumber?, trimBlanks_of_not_blank notBlank, Number.signOf]
  simp only [readInt64?_signed areDigits nonempty denotes]

namespace Locale

/-- In the decimal style, a whole number is its sign and its digits in groups of three. -/
theorem decimal?_int (locale : Locale) (value : Int64) :
    locale.decimal? (.int value) =
      some (Number.signOf value ++ locale.wholeNumber 0 (locale.grouped (some 3)
        (Pattern.wholeDigits 1 value.toInt.natAbs))) := by
  rw [← locale.joinDigits_wholeNumber (decide (value < 0))]
  simp [decimal?, decimal?.finite, Digits.fixed?, Digits.sign, Number.signOf]

/-- What the decimal style writes is the sign and the digits, once the separators are gone. -/
theorem IsPreset.withoutSeparators_decimal {locale : Locale} (isPreset : locale.IsPreset)
    (value : Int64) :
    locale.withoutSeparators (Number.signOf value ++ locale.wholeNumber 0
        (locale.grouped (some 3) (Pattern.wholeDigits 1 value.toInt.natAbs))) =
      Number.signOf value ++ digitsOf value.toInt.natAbs := by
  have digits := isPreset.withoutSeparators_grouped
    (Pattern.isDigit_of_mem_wholeDigits 1 value.toInt.natAbs) (some 3)
  rw [Pattern.wholeDigits_one] at digits ⊢
  have present : locale.grouped (some 3) (digitsOf value.toInt.natAbs) ≠ [] := by
    intro isEmpty
    rw [isEmpty] at digits
    exact digitsOf_ne_nil value.toInt.natAbs digits.symm
  have sign : locale.withoutSeparators (Number.signOf value) = Number.signOf value := by
    refine List.filter_eq_self.mpr fun character member => ?_
    have isMinus : character = '-' := by
      rw [Number.signOf] at member
      split at member
      · exact List.mem_singleton.mp member
      · cases member
    rw [bne_iff_ne]
    exact fun isSeparator => (isPreset.separator_apart isSeparator).2 isMinus
  have whole : locale.wholeNumber 0 (locale.grouped (some 3) (digitsOf value.toInt.natAbs)) =
      locale.grouped (some 3) (digitsOf value.toInt.natAbs) := by
    simp [wholeNumber, present]
  rw [whole, withoutSeparators, List.filter_append]
  exact congrArg₂ (· ++ ·) sign digits

/-- How a locale writes whole numbers. -/
structure PrintsIntegers (locale : Locale) : Prop where
  /-- The digits of a product of 64 bits stand between the affixes of the pattern, behind the sign of
  the number. -/
  pattern {source : String} {pattern : Pattern} :
    Pattern.read? source.toList = some pattern → ∀ value : Int64,
      Int64.minValue.toInt ≤ value.toInt * pattern.factor →
      value.toInt * pattern.factor ≤ Int64.maxValue.toInt →
      locale.formatPattern? (.int value) source = some (String.ofList
        (Number.signOf value ++ Pattern.affixText locale pattern.before ++
          locale.wholeNumber pattern.leastFraction (locale.grouped pattern.groupSize
            (Pattern.wholeDigits pattern.leastInteger (value.toInt * pattern.factor).natAbs)) ++
          Pattern.affixText locale pattern.after))
  /-- The digits of an integer part are what is left without the separators. -/
  stripped (groupSize : Option Nat) (leastInteger magnitude : Nat) :
    locale.withoutSeparators
        (locale.grouped groupSize (Pattern.wholeDigits leastInteger magnitude)) =
      Pattern.wholeDigits leastInteger magnitude
  /-- The decimal style is the pattern without affixes that demands one digit and no fraction, in
  groups of three. -/
  decimal {source : String} {mostFraction : Nat} :
    Pattern.read? source.toList = some ⟨[], [], 1, 0, mostFraction, some 3, 1⟩ → ∀ value : Int64,
      locale.formatNumber? (.int value) .decimal = locale.formatPattern? (.int value) source
  /-- The text of the decimal style is the same number again without its separators. -/
  readBack (value : Int64) :
    ∃ text, locale.formatNumber? (.int value) .decimal = some text ∧
      Value.toNumber? (.string (String.ofList (locale.withoutSeparators text.toList))) =
        some (.int value)

/-- Every known locale writes whole numbers digit for digit. -/
theorem printsIntegers {locale : Locale} (isPreset : locale.IsPreset) : locale.PrintsIntegers where
  pattern isPattern value atLeast atMost := by
    rename_i source pattern
    let product := Int64.ofInt (value.toInt * pattern.factor)
    have isProduct : product.toInt = value.toInt * pattern.factor :=
      Int64.toInt_ofInt_of_le atLeast (Int.lt_add_one_of_le atMost)
    have positive : 0 < pattern.factor := by
      have factor := Pattern.factor_cases isPattern
      omega
    rw [formatPattern?, isPattern, Option.bind_some, pattern.format?_int locale isProduct,
      Number.signOf_product positive isProduct, isProduct]
    rfl
  stripped groupSize leastInteger magnitude :=
    isPreset.withoutSeparators_grouped
      (Pattern.isDigit_of_mem_wholeDigits leastInteger magnitude) groupSize
  decimal isPattern value := by
    rename_i source mostFraction
    have isProduct : value.toInt = value.toInt * (1 : Nat) := (Int.mul_one value.toInt).symm
    rw [formatNumber?, formatPattern?, isPattern, Option.bind_some, decimal?_int,
      Pattern.format?_int _ locale isProduct]
    simp [Pattern.affixText]
  readBack value := by
    refine ⟨_, congrArg (Option.map String.ofList) (locale.decimal?_int value), ?_⟩
    rw [Value.toNumber?, String.toList_ofList, String.toList_ofList,
      isPreset.withoutSeparators_decimal]
    exact Value.readNumber?_signed isDigit_of_mem_digitsOf (digitsOf_ne_nil _)
      (naturalOf_digitsOf _)

/-- The least whole number, and a product whose digits are padded and grouped, in French. -/
theorem printsIntegers_french :
    frFR.IsPreset ∧
      Pattern.read? "¤ 00,00.0%".toList =
        some ⟨[⟨'¤', false⟩, ⟨' ', false⟩], [⟨'%', false⟩], 4, 1, 1, some 2, 100⟩ ∧
      frFR.formatPattern? (.int (-7)) "¤ 00,00.0%" =
        some "-€ 07\u202F00,0%" ∧
      frFR.formatNumber? (.int Int64.minValue) .decimal =
        some "-9\u202F223\u202F372\u202F036\u202F854\u202F775\u202F808" ∧
      Value.toNumber? (.string "-9223372036854775808") = some (.int Int64.minValue) := by
  have isPreset : frFR.IsPreset := ⟨frFR, by decide, rfl⟩
  have prints := printsIntegers isPreset
  have isPattern : Pattern.read? "¤ 00,00.0%".toList =
      some ⟨[⟨'¤', false⟩, ⟨' ', false⟩], [⟨'%', false⟩], 4, 1, 1, some 2, 100⟩ := by decide
  have isWhole : Pattern.read? "#,##0".toList = some ⟨[], [], 1, 0, 0, some 3, 1⟩ := by decide
  have least : frFR.formatNumber? (.int Int64.minValue) .decimal =
      some "-9\u202F223\u202F372\u202F036\u202F854\u202F775\u202F808" := by
    rw [prints.decimal isWhole, prints.pattern isWhole Int64.minValue (by decide) (by decide)]
    decide
  refine ⟨isPreset, isPattern, ?_, least, ?_⟩
  · rw [prints.pattern isPattern (-7) (by decide) (by decide)]
    decide
  · obtain ⟨text, isText, isNumber⟩ := prints.readBack Int64.minValue
    rw [least] at isText
    cases isText
    have stripped : String.ofList (frFR.withoutSeparators
        "-9\u202F223\u202F372\u202F036\u202F854\u202F775\u202F808".toList) =
          "-9223372036854775808" := by
      decide
    rw [← stripped]
    exact isNumber

end Locale

end MessageTemplate
