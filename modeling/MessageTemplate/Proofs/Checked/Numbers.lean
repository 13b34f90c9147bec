import Mathlib.Algebra.Group.Int.Defs
import Mathlib.Algebra.Group.Nat.Defs
import MessageTemplate.Locale.Style
import MessageTemplate.Proofs.Checked.Spelling

/-! # Number styles with checked arithmetic

Magnitudes and products of whole numbers are computed in 64 bits, and the unit of a number of
bytes is read from its table at a checked index. `formatNumber?_eq` says that no check fails for
any number in any style, and that the text is the one that `Locale.formatNumber?` gives. -/

namespace MessageTemplate.Checked

/-! ## Arithmetic in 64 bits -/

/-- The magnitude of a whole number. The least one is its own negation. -/
def unsignedAbs (value : Int64) : UInt64 :=
  (if value < 0 then -value else value).toUInt64

/-- The product of whole numbers, where the wrapped product is the exact one. -/
def product? (left right : Int64) : Option Int64 :=
  let product := left * right
  if product.toInt = left.toInt * right.toInt then some product else none

/-- A number times a whole number, as a double where the product is not exact. -/
def scaled (factor : Nat) : Number → Number
  | .int value =>
      match product? value (Int64.ofNat factor) with
      | some product => .int product
      | none => .float (Float.ofInt value.toInt * Float.ofNat factor)
  | .float value => .float (value * Float.ofNat factor)

/-- A whole number is its unsigned bits, less two to the power of 64 in the upper half. -/
theorem toInt_eq_of_toUInt64 (value : Int64) :
    value.toInt =
      if 2 * value.toUInt64.toNat < 2 ^ 64 then (value.toUInt64.toNat : Int)
      else value.toUInt64.toNat - 2 ^ 64 :=
  BitVec.toInt_eq_toNat_cond value.toBitVec

/-- The magnitude is never wrapped, not even that of the least number. -/
theorem toNat_unsignedAbs (value : Int64) : (unsignedAbs value).toNat = value.toInt.natAbs := by
  have isInt := toInt_eq_of_toUInt64 value
  have bounded := value.toUInt64.toNat_lt
  rw [unsignedAbs]
  split
  case isTrue negative =>
    have isNegative : value.toInt < 0 := Int64.lt_iff_toInt_lt.mp negative
    rw [Int64.toUInt64_neg, UInt64.toNat_neg, show UInt64.size = 2 ^ 64 from rfl]
    split at isInt
    · omega
    · omega
  case isFalse notNegative =>
    have isNatural : ¬value.toInt < 0 := fun isNegative =>
      notNegative (Int64.lt_iff_toInt_lt.mpr isNegative)
    split at isInt
    · omega
    · omega

/-- A product is given where it has 64 bits. -/
theorem product?_eq (value : Int64) {factor : Nat} (small : factor < 2 ^ 63) :
    product? value (Int64.ofNat factor) = Number.int64? (value.toInt * factor) := by
  have isFactor : (Int64.ofNat factor).toInt = factor := Int64.toInt_ofNat_of_lt small
  rw [product?, Number.int64?, isFactor]
  by_cases exact : (value * Int64.ofNat factor).toInt = value.toInt * factor
  · have inRange : Int64.minValue.toInt ≤ value.toInt * factor ∧
        value.toInt * factor ≤ Int64.maxValue.toInt := by
      rw [← exact]
      exact ⟨Int64.minValue_le_toInt _, Int64.toInt_le _⟩
    rw [if_pos exact, if_pos inRange, ← exact, Int64.ofInt_toInt]
  · have notInRange : ¬(Int64.minValue.toInt ≤ value.toInt * factor ∧
        value.toInt * factor ≤ Int64.maxValue.toInt) := by
      intro inRange
      apply exact
      have asInt : value * Int64.ofNat factor = Int64.ofInt (value.toInt * factor) := by
        rw [Int64.ofInt_mul, Int64.ofInt_toInt, ← Int64.ofInt_eq_ofNat]
      have greatest : Int64.maxValue.toInt = 2 ^ 63 - 1 := rfl
      rw [asInt]
      exact Int64.toInt_ofInt_of_le inRange.1 (by omega)
    rw [if_neg exact, if_neg notInRange]

/-- A checked product is the scaled number, where the factor is itself a whole number of 64 bits. -/
theorem scaled_eq {factor : Nat} (small : factor < 2 ^ 63) (number : Number) :
    scaled factor number = number.scale factor := by
  cases number with
  | int value =>
      rw [scaled, product?_eq value small]
      rfl
  | float value => rfl

/-! ## Styles -/

/-- The fraction digits of a rounded number, which are spelled. -/
theorem isDigit_of_mem_lastDigitsBefore {later : List Char}
    (digits : ∀ digit ∈ later, digit.isDigit = true) (count value : Nat) :
    ∀ digit ∈ Digits.lastDigitsBefore count value later, digit.isDigit = true := by
  induction count generalizing value later with
  | zero => exact digits
  | succ count inductionHypothesis =>
      have isDigit : (Nat.digitChar (value % 10)).isDigit = true := by
        have all : ∀ digit < 10, (Nat.digitChar digit).isDigit = true := by decide
        exact all _ (Nat.mod_lt value (by decide))
      exact inductionHypothesis (List.forall_mem_cons.mpr ⟨isDigit, digits⟩) (value / 10)

/-- What stands behind the point of a rounded number are digits, so that each has a word. -/
theorem isDigit_of_mem_fraction {number : Number} {least most : Nat} {digits : Digits}
    (fixed : Digits.fixed? number least most = some digits) :
    ∀ digit ∈ digits.fraction, digit.isDigit = true := by
  cases number with
  | int value =>
      cases fixed
      exact Decimal.isDigit_of_mem_zeros
  | float value =>
      rw [Digits.fixed?] at fixed
      split at fixed
      case h_1 negative significand exponent _ =>
        cases fixed
        intro digit member
        rcases List.mem_append.mp member with isLast | isZero
        · have isRounded := (List.dropWhile_sublist _).mem (List.mem_reverse.mp isLast)
          exact isDigit_of_mem_lastDigitsBefore (List.forall_mem_nil _) most _ digit
            (List.mem_reverse.mp isRounded)
        · exact Decimal.isDigit_of_mem_zeros digit isZero
      case h_2 => cases fixed

/-- A number in English words. -/
def spellOut? (number : Number) : Option (Option String) :=
  match number with
  | .int value => spell? (decide (value < 0)) (unsignedAbs value).toNat []
  | .float value =>
      if value.abs < Spelling.floatBound then
        match Digits.fixed? number 0 6 with
        | some digits =>
            if digits.integer < Spelling.bound then
              spell? digits.negative digits.integer digits.fraction
            else some none
        | none => some none
      else some none

/-- The names of the units of bytes. -/
def unitNames : List String := ["KB", "MB", "GB", "TB", "PB", "EB"]

/-- How many fraction digits are shown of a unit. -/
def unitPlaces : (index : Nat) → Nat
  | 0 => 0
  | 1 => 1
  | _ => 2

/-- Divides an amount by the base as long as it fills the next unit, and counts the units. -/
def fillUnits (base amount : Float) (index : Nat) : Float × Nat :=
  if base ≤ amount ∧ index < unitNames.length - 1 then fillUnits base (amount / base) (index + 1)
  else (amount, index)
termination_by unitNames.length - index

/-- A number of bytes in units of a base. -/
def byteCount? (locale : Locale) (number : Number) (base : Nat) : Option (Option (List Char)) :=
  match number.truncate? with
  | none => some none
  | some bytes =>
      let magnitude := (unsignedAbs bytes).toNat
      let sign := if bytes < 0 then ['-'] else []
      if magnitude = 0 then some (some "Zero KB".toList)
      else if magnitude < base then
        let digits : Digits := ⟨decide (bytes < 0), magnitude, []⟩
        let unit := if magnitude = 1 then "byte" else "bytes"
        some (some (sign ++ locale.joinDigits digits 1 (some 3) ++ ' ' :: unit.toList))
      else
        let (amount, unit) :=
          fillUnits (Float.ofNat base) (Float.ofNat magnitude / Float.ofNat base) 0
        match Digits.fixed? (.float amount) 0 (unitPlaces unit) with
        | none => some none
        | some digits => do
            let name ← unitNames[unit]?
            return some (sign ++ locale.joinDigits digits 1 (some 3) ++ ' ' :: name.toList)

/-- A number in whole hundredths. -/
def percent (locale : Locale) (number : Number) : Option (List Char) :=
  (Digits.fixed? (scaled 100 number) 0 0).map fun digits =>
    digits.sign ++ locale.joinDigits digits 1 (some 3) ++
      (if locale.spacedPercent then [Locale.noBreakSpace, '%'] else ['%'])

/-- A number in a style, if the style can present it. -/
def formatNumber? (locale : Locale) (number : Number) (style : NumberStyle) :
    Option (Option String) :=
  match style with
  | .spellOut => spellOut? number
  | .percent => some ((percent locale number).map String.ofList)
  | .fileBytes | .decimalBytes => do
      let text ← byteCount? locale number 1000
      return text.map String.ofList
  | .memoryBytes | .binaryBytes => do
      let text ← byteCount? locale number 1024
      return text.map String.ofList
  | .noLocale | .decimal | .currency | .scientific => some (locale.formatNumber? number style)

/-- No word that is looked up for a number is missing from its table. -/
theorem spellOut?_eq (number : Number) :
    spellOut? number = some (Spelling.spellOut? number) := by
  cases number with
  | int value =>
      have small : value.toInt.natAbs < UInt64.size := by
        rw [← toNat_unsignedAbs]
        exact UInt64.toNat_lt_size _
      rw [spellOut?, toNat_unsignedAbs, spell?_eq _ small (List.forall_mem_nil _)]
      rfl
  | float value =>
      rw [spellOut?, Spelling.spellOut?]
      split
      case isFalse => rfl
      case isTrue =>
        cases fixed : Digits.fixed? (.float value) 0 6 with
        | none => rfl
        | some digits =>
            simp only [Option.bind_some]
            split
            case isFalse => rfl
            case isTrue small => exact spell?_eq _ small (isDigit_of_mem_fraction fixed)

/-- All units in ascending order. -/
def units : List ByteCount.Unit := ByteCount.kilobyte :: ByteCount.largerUnits

/-- Walking through the units keeps the index below the number of their names. -/
theorem getElem?_of_drop_units {unit : ByteCount.Unit} {larger : List ByteCount.Unit} {index : Nat}
    (rest : units.drop index = unit :: larger) :
    units[index]? = some unit ∧ index + larger.length = unitNames.length - 1 := by
  constructor
  · have first : (units.drop index)[0]? = some unit := by
      rw [rest]
      rfl
    rwa [List.getElem?_drop, Nat.add_zero] at first
  · have length : 6 - index = larger.length + 1 := by
      rw [← List.length_cons, ← rest, List.length_drop]
      rfl
    have count : unitNames.length = 6 := rfl
    omega

/-- Where the units from an index on are given, the counted unit is the one that is filled. -/
theorem fillUnits_eq {unit : ByteCount.Unit} {larger : List ByteCount.Unit} {index : Nat}
    (rest : units.drop index = unit :: larger) (base amount : Float) :
    ∃ counted, units[(fillUnits base amount index).2]? = some counted ∧
      ByteCount.fill base amount unit larger = ((fillUnits base amount index).1, counted) := by
  induction larger generalizing unit index amount with
  | nil =>
      obtain ⟨here, isLast⟩ := getElem?_of_drop_units rest
      have stays : ¬(base ≤ amount ∧ index < unitNames.length - 1) := fun goesOn =>
        goesOn.2.ne isLast
      rw [fillUnits, if_neg stays]
      exact ⟨unit, here, rfl⟩
  | cons next larger inductionHypothesis =>
      obtain ⟨here, remaining⟩ := getElem?_of_drop_units rest
      have hasNext : index < unitNames.length - 1 := by
        rw [← remaining, List.length_cons]
        omega
      rw [fillUnits, ByteCount.fill]
      by_cases fills : base ≤ amount
      · have later : units.drop (index + 1) = next :: larger := by
          rw [← List.drop_drop, rest]
          rfl
        rw [if_pos fills, if_pos ⟨fills, hasNext⟩]
        exact inductionHypothesis later _
      · rw [if_neg fills, if_neg (not_and_of_not_left _ fills)]
        exact ⟨unit, here, rfl⟩

/-- The index of a unit gives its name and its places. -/
theorem getElem?_unitNames {unit : ByteCount.Unit} {index : Nat}
    (found : units[index]? = some unit) :
    unitNames[index]? = some unit.name ∧ unitPlaces index = unit.places := by
  have all : ∀ index < 6, unitNames[index]? = units[index]?.map ByteCount.Unit.name ∧
      (units[index]?.map ByteCount.Unit.places).getD (unitPlaces index) = unitPlaces index := by
    decide
  have inside : index < 6 := (List.getElem?_eq_some_iff.mp found).1
  obtain ⟨name, places⟩ := all index inside
  rw [found] at name places
  exact ⟨name, places.symm⟩

/-- The name of the unit that is chosen for a number of bytes is always in the table. -/
theorem byteCount?_eq (locale : Locale) (number : Number) (base : Nat) :
    byteCount? locale number base = some (locale.byteCount? number base) := by
  rw [byteCount?, Locale.byteCount?]
  cases number.truncate? with
  | none => rfl
  | some bytes =>
      simp only [toNat_unsignedAbs, Option.bind_some]
      split
      case isTrue => rfl
      case isFalse =>
        split
        case isTrue => rfl
        case isFalse =>
          have all : units.drop 0 = units := rfl
          obtain ⟨unit, counted, filled⟩ := fillUnits_eq all (Float.ofNat base)
            (Float.ofNat bytes.toInt.natAbs / Float.ofNat base)
          obtain ⟨name, places⟩ := getElem?_unitNames counted
          rw [filled, places]
          cases Digits.fixed? _ 0 unit.places with
          | none => rfl
          | some digits =>
            rw [name]
            rfl

/-- The checked percentage is that of the locale. -/
theorem percent_eq (locale : Locale) (number : Number) :
    percent locale number = locale.percent? number := by
  rw [percent, Locale.percent?, scaled_eq (by decide)]

/-- No check fails in any style. -/
theorem formatNumber?_eq (locale : Locale) (number : Number) (style : NumberStyle) :
    formatNumber? locale number style = some (locale.formatNumber? number style) := by
  cases style with
  | spellOut => exact spellOut?_eq number
  | percent =>
      rw [formatNumber?, percent_eq]
      rfl
  | fileBytes | decimalBytes | memoryBytes | binaryBytes =>
      rw [formatNumber?, byteCount?_eq]
      rfl
  | noLocale | decimal | currency | scientific => rfl

end MessageTemplate.Checked
