import Mathlib
import MessageTemplate.Proofs.Decimal.Rounding

/-! # Values of doubles

A finite double is a rational number, its value. The significand and the exponent that are read out
of its bits are those of the model of floating-point arithmetic (`exact_eq`), so that its operations
can be followed by values: a sign is changed, doubles are compared as their values, and a rounded
number is kept when it is stored. -/

namespace MessageTemplate.Decimal

open Float.Model Float.Model.UnpackedFloat

/-- The powers of two are those of the natural numbers. -/
theorem twoTo_eq (exponent : ℕ) : twoTo exponent = 2 ^ exponent :=
  rfl

/-- The powers of ten are those of the natural numbers. -/
theorem tenTo_eq (exponent : ℕ) : tenTo exponent = 10 ^ exponent :=
  rfl

/-! ## Exact values -/

/-- The number that a significand and an exponent stand for. Infinite and undefined ones are no
numbers. -/
def Exact.value? : Exact → Option ℚ
  | .finite negative significand exponent => some (signed negative significand * 2 ^ exponent)
  | _ => none

/-- The number that a finite double is. -/
def value? (double : Float) : Option ℚ :=
  (exact double).value?

/-- A double with a value is finite, and its sign, significand and exponent give the value. -/
theorem exists_exact {double : Float} {number : ℚ} (isValue : value? double = some number) :
    ∃ negative significand exponent, exact double = .finite negative significand exponent ∧
      number = signed negative significand * 2 ^ exponent := by
  rw [value?] at isValue
  cases isExact : exact double with
  | nan =>
      rw [isExact] at isValue
      cases isValue
  | infinite negative =>
      rw [isExact] at isValue
      cases isValue
  | finite negative significand exponent =>
      rw [isExact] at isValue
      cases isValue
      exact ⟨negative, significand, exponent, rfl, rfl⟩

section Signed

variable (negative : Bool) (significand : ℕ) (exponent : ℤ)

/-- The sign does not count in an absolute value. -/
theorem abs_signed_mul :
    |(signed negative significand : ℚ) * 2 ^ exponent| = significand * 2 ^ exponent := by
  have notNegative : (0 : ℚ) ≤ significand * 2 ^ exponent := by positivity
  cases negative with
  | false => simp [signed, abs_of_nonneg notNegative]
  | true => simp [signed]

/-- A finite double is below zero exactly if it has the sign and is no zero. -/
theorem signed_mul_neg_iff :
    (signed negative significand : ℚ) * 2 ^ exponent < 0 ↔
      negative = true ∧ significand ≠ 0 := by
  have positive : (0 : ℚ) < 2 ^ exponent := by positivity
  rw [← zero_mul ((2 : ℚ) ^ exponent), mul_lt_mul_iff_left₀ positive]
  cases negative with
  | false => simp [signed]
  | true => simp [signed, Nat.pos_iff_ne_zero]

end Signed

/-- No denominator of a double is zero. -/
theorem denominator_pos (exponent : ℤ) : 0 < denominator exponent :=
  Nat.two_pow_pos _

/-- A power is a quotient of powers with natural exponents. -/
theorem pow_toNat_div (base : ℚ) (exponent : ℤ) :
    base ^ exponent.toNat / base ^ (-exponent).toNat = base ^ exponent := by
  rcases le_total 0 exponent with notNegative | notPositive
  · obtain ⟨places, rfl⟩ := Int.eq_ofNat_of_zero_le notNegative
    rw [Int.toNat_natCast, Int.toNat_of_nonpos (by omega), pow_zero, div_one, zpow_natCast]
  · obtain ⟨places, rfl⟩ := Int.exists_eq_neg_ofNat notPositive
    rw [Int.toNat_of_nonpos notPositive, neg_neg, Int.toNat_natCast, pow_zero, zpow_neg,
      zpow_natCast, one_div]

/-- The fraction of a double is its magnitude. -/
theorem numerator_div_denominator (significand : ℕ) (exponent : ℤ) :
    (numerator significand exponent : ℚ) / denominator exponent = significand * 2 ^ exponent := by
  rw [numerator, denominator, twoTo_eq, twoTo_eq, ← pow_toNat_div]
  push_cast
  ring

/-- Whether a sign is a minus. -/
def isMinus : Sign → Bool
  | .negative => true
  | .positive => false

/-- What an unpacked double stands for. Zero is written with the least exponent. -/
def ofUnpacked : UnpackedFloat → Exact
  | .notANumber => .nan
  | .infinity sign => .infinite (isMinus sign)
  | .zero sign => .finite (isMinus sign) 0 (-1074)
  | .finite sign mantissa exponent _ => .finite (isMinus sign) mantissa exponent

section Bits

variable (bits : BitVec 64)

/-- The fraction of a double is in its lower 52 bits. -/
theorem toNat_unpackMantissa :
    (@unpackMantissa Format.binary64 bits).toNat = bits.toNat % 2 ^ 52 := by
  simp [unpackMantissa_def]

/-- The stored exponent of a double is in the eleven bits above the fraction. -/
theorem toNat_unpackExponent :
    (@unpackExponent Format.binary64 bits).toNat = bits.toNat / 2 ^ 52 % 2 ^ 11 := by
  simp [unpackExponent_def, Nat.shiftRight_eq_div_pow]

/-- The greatest stored exponent, which marks what is not finite, is told by its bits. -/
theorem unpackExponent_eq_greatest_iff :
    @unpackExponent Format.binary64 bits = -1#11 ↔ bits.toNat / 2 ^ 52 % 2 ^ 11 = 2047 := by
  rw [← toNat_unpackExponent, ← BitVec.toNat_inj]
  rfl

/-- The least stored exponent, which marks zeros and the least doubles, is told by its bits. -/
theorem unpackExponent_eq_zero_iff :
    @unpackExponent Format.binary64 bits = 0#11 ↔ bits.toNat / 2 ^ 52 % 2 ^ 11 = 0 := by
  rw [← toNat_unpackExponent, ← BitVec.toNat_inj]
  rfl

/-- An empty fraction is told by its bits. -/
theorem unpackMantissa_eq_zero_iff :
    @unpackMantissa Format.binary64 bits = 0#52 ↔ bits.toNat % 2 ^ 52 = 0 := by
  rw [← toNat_unpackMantissa, ← BitVec.toNat_inj]
  rfl

/-- The first binary digit of a mantissa is not among the bits. -/
theorem toNat_one_append_unpackMantissa :
    (1#1 ++ @unpackMantissa Format.binary64 bits).toNat = 2 ^ 52 + bits.toNat % 2 ^ 52 := by
  rw [BitVec.toNat_append, ← Nat.shiftLeft_add_eq_or_of_lt (BitVec.isLt _), toNat_unpackMantissa]
  rfl

/-- The sign of a double is its highest bit. -/
theorem isMinus_unpackSign :
    isMinus (Sign.ofBitVec (@unpackSign Format.binary64 bits)) =
      (bits.toNat / 2 ^ 63 == 1) := by
  have isSign : (@unpackSign Format.binary64 bits).toNat = bits.toNat / 2 ^ 63 := by
    have below := bits.isLt
    simp only [unpackSign_def, BitVec.extractLsb'_toNat, Nat.shiftRight_eq_div_pow]
    omega
  have below := bits.isLt
  by_cases isZero : @unpackSign Format.binary64 bits = 0#1
  · rw [Sign.ofBitVec, if_pos isZero, ← isSign, isZero]
    rfl
  · have notZero : (@unpackSign Format.binary64 bits).toNat ≠ 0 := fun isNat =>
      isZero (BitVec.eq_of_toNat_eq isNat)
    have isOne : bits.toNat / 2 ^ 63 = 1 := by omega
    rw [Sign.ofBitVec, if_neg isZero, isOne]
    rfl

end Bits

/-- The bits are read as the model of floating-point arithmetic reads them. -/
theorem exact_eq (double : Float) : exact double = ofUnpacked double.toModel.unpack := by
  obtain ⟨bits, isBits⟩ : ∃ bits : BitVec 64, bits = double.toModel.toBits.toBitVec := ⟨_, rfl⟩
  have toNat : double.toBits.toNat = bits.toNat := by
    rw [isBits]
    rfl
  have bias : Format.binary64.exponentBias = 1023 := by decide
  have isExact : exact double =
      if bits.toNat / 2 ^ 52 % 2 ^ 11 = 2047 then
        if bits.toNat % 2 ^ 52 = 0 then .infinite (bits.toNat / 2 ^ 63 == 1) else .nan
      else if bits.toNat / 2 ^ 52 % 2 ^ 11 = 0 then
        .finite (bits.toNat / 2 ^ 63 == 1) (bits.toNat % 2 ^ 52) (-1074)
      else
        .finite (bits.toNat / 2 ^ 63 == 1) (2 ^ 52 + bits.toNat % 2 ^ 52)
          ((bits.toNat / 2 ^ 52 % 2 ^ 11 : ℕ) - 1075) := by
    rw [exact, toNat]
    rfl
  rw [isExact, Float.Model.unpack, ← isBits, UnpackedFloat.unpack]
  simp only [unpackExponent_eq_greatest_iff bits, unpackExponent_eq_zero_iff bits,
    unpackMantissa_eq_zero_iff bits, toNat_one_append_unpackMantissa bits, bias]
  by_cases greatest : bits.toNat / 2 ^ 52 % 2 ^ 11 = 2047
  · by_cases none : bits.toNat % 2 ^ 52 = 0
    · simp only [if_pos greatest, if_pos none, ofUnpacked, isMinus_unpackSign]
    · simp only [if_pos greatest, if_neg none, ofUnpacked]
  · by_cases least : bits.toNat / 2 ^ 52 % 2 ^ 11 = 0
    · by_cases none : bits.toNat % 2 ^ 52 = 0
      · simp only [if_neg greatest, if_pos least, dif_pos none, ofUnpacked, isMinus_unpackSign]
        rw [none]
      · simp only [if_neg greatest, if_pos least, dif_neg none, ofUnpacked, isMinus_unpackSign,
          toNat_unpackMantissa, toNat_unpackExponent]
        rw [least]
        rfl
    · simp only [if_neg greatest, if_neg least, ofUnpacked, isMinus_unpackSign,
        toNat_unpackExponent]
      rfl

/-! ## Stored doubles -/

/-- Whether a significand and an exponent are those of a stored double: there are 53 binary digits,
or fewer with the least exponent. -/
structure IsStored (significand : ℕ) (exponent : ℤ) : Prop where
  fits : significand < 2 ^ 53
  least : -1074 ≤ exponent
  greatest : exponent ≤ 971
  wide : exponent = -1074 ∨ 2 ^ 52 ≤ significand

/-- What is read out of the bits was stored. -/
theorem isStored_of_exact {double : Float} {negative : Bool} {significand : ℕ} {exponent : ℤ}
    (isExact : exact double = .finite negative significand exponent) :
    IsStored significand exponent := by
  have two : ∀ power, twoTo power = 2 ^ power := twoTo_eq
  simp only [exact, two] at isExact
  split at isExact
  · split at isExact
    · cases isExact
    · cases isExact
  · split at isExact
    · cases isExact
      exact ⟨by omega, by omega, by omega, .inl rfl⟩
    · cases isExact
      exact ⟨by omega, by omega, by omega, .inr (by omega)⟩

/-- What a finite double unpacks to is stored as it is. -/
theorem isStored_unpack {double : Float} {sign : Sign} {mantissa : ℕ} {exponent : ℤ}
    {positive : 0 < mantissa}
    (isFinite : double.toModel.unpack = .finite sign mantissa exponent positive) :
    IsStored mantissa exponent :=
  isStored_of_exact ((exact_eq double).trans (congrArg ofUnpacked isFinite))

/-- The mantissa of a double is stored without its first binary digit. -/
theorem toNat_one_append {mantissa : ℕ} (least : 2 ^ 52 ≤ mantissa) (most : mantissa < 2 ^ 53) :
    (1#1 ++ BitVec.ofNat 52 mantissa).toNat = mantissa := by
  rw [BitVec.toNat_append, ← Nat.shiftLeft_add_eq_or_of_lt (BitVec.isLt _), BitVec.toNat_ofNat,
    BitVec.toNat_ofNat, Nat.shiftLeft_eq]
  omega

/-- A double is read as it was stored. -/
theorem unpack_pack_finite (sign : Sign) {mantissa : ℕ} {exponent : ℤ} (positive : 0 < mantissa)
    (stored : IsStored mantissa exponent) :
    (Float.Model.pack (.finite sign mantissa exponent positive)).unpack =
      .finite sign mantissa exponent positive := by
  obtain ⟨fits, least, greatest, wide⟩ := stored
  obtain ⟨biased, isBiased⟩ : ∃ biased : ℕ,
      (biased : ℤ) = exponent + (1023 : ℕ) + (52 : ℕ) :=
    ⟨_, Int.toNat_of_nonneg (by omega)⟩
  have inRange : ¬2 ^ 11 ≤ biased + 1 := by omega
  have bias : Format.binary64.exponentBias = 1023 := by decide
  have bits : Format.binary64.mantissaBits = 52 + 1 := by decide
  have packed : (Float.Model.pack (.finite sign mantissa exponent positive)).unpack =
      UnpackedFloat.unpack Format.binary64 (packComponents Format.binary64 sign
        (if mantissa.log2 + 1 = 52 + 1 then BitVec.ofNat 11 biased else 0#11)
        (BitVec.ofNat 52 mantissa)) := by
    simp only [Float.Model.unpack, Float.Model.pack, UnpackedFloat.pack, bias, bits, ← isBiased,
      Int.toNat_natCast, if_neg inRange]
    split <;> rfl
  rw [packed]
  by_cases isWide : 2 ^ 52 ≤ mantissa
  · have digits : mantissa.log2 + 1 = 52 + 1 :=
      congrArg (· + 1) ((Nat.log2_eq_iff (Nat.ne_of_gt positive)).mpr ⟨isWide, fits⟩)
    have stored : (BitVec.ofNat 11 biased).toNat = biased := Nat.mod_eq_of_lt (by omega)
    -- The least and the greatest exponent are kept for other doubles.
    have differs {pattern : BitVec 11} (apart : pattern.toNat ≠ biased) :
        BitVec.ofNat 11 biased ≠ pattern := by
      rintro rfl
      exact apart stored
    have notGreatest : BitVec.ofNat 11 biased ≠ -1#11 := differs (show 2047 ≠ biased by omega)
    have notLeast : BitVec.ofNat 11 biased ≠ 0#11 := differs (show 0 ≠ biased by omega)
    simp only [if_pos digits, UnpackedFloat.unpack, unpackMantissa_packComponents,
      unpackExponent_packComponents, unpackSign_packComponents, if_neg notGreatest,
      if_neg notLeast, stored, bias, Sign.ofBitVec_toBitVec]
    congr 1
    · exact toNat_one_append isWide fits
    · omega
  · have isLeast : exponent = -1074 := wide.resolve_right isWide
    have digits : ¬mantissa.log2 + 1 = 52 + 1 := fun same =>
      isWide ((Nat.log2_eq_iff (Nat.ne_of_gt positive)).mp (Nat.succ_inj.mp same)).1
    have below : mantissa % 2 ^ 52 = mantissa := Nat.mod_eq_of_lt (by omega)
    have notZero : BitVec.ofNat 52 mantissa ≠ 0#52 := by
      intro isZero
      have isNat : mantissa % 2 ^ 52 = 0 := congrArg BitVec.toNat isZero
      omega
    have notGreatest : 0#11 ≠ -1#11 := by decide
    simp only [if_neg digits, UnpackedFloat.unpack, unpackMantissa_packComponents,
      unpackExponent_packComponents, unpackSign_packComponents, if_neg notGreatest, if_true,
      dif_neg notZero, bias, Sign.ofBitVec_toBitVec]
    congr 1
    rw [isLeast]
    rfl

/-! ## Values with a sign -/

/-- A sign as a factor. -/
def unitOf : Sign → ℚ
  | .positive => 1
  | .negative => -1

/-- A signed magnitude is its unit times the magnitude. -/
theorem signed_isMinus (sign : Sign) (magnitude : ℕ) :
    (signed (isMinus sign) magnitude : ℚ) = unitOf sign * magnitude := by
  cases sign with
  | positive => simp [signed, isMinus, unitOf]
  | negative => simp [signed, isMinus, unitOf]

/-- A double with a value is a zero or has a mantissa that is stored. -/
theorem unpack_cases {double : Float} {number : ℚ} (isValue : value? double = some number) :
    (∃ sign, double.toModel.unpack = .zero sign ∧ number = 0) ∨
      ∃ sign mantissa exponent positive, IsStored mantissa exponent ∧
        double.toModel.unpack = .finite sign mantissa exponent positive ∧
        number = unitOf sign * (mantissa * 2 ^ exponent) := by
  rw [value?, exact_eq] at isValue
  cases isUnpacked : double.toModel.unpack with
  | notANumber =>
      rw [isUnpacked] at isValue
      cases isValue
  | infinity sign =>
      rw [isUnpacked] at isValue
      cases isValue
  | zero sign =>
      rw [isUnpacked] at isValue
      cases isValue
      refine .inl ⟨sign, rfl, ?_⟩
      rw [signed_isMinus, Nat.cast_zero, mul_zero, zero_mul]
  | finite sign mantissa exponent positive =>
      rw [isUnpacked] at isValue
      cases isValue
      refine .inr ⟨sign, mantissa, exponent, positive, isStored_unpack isUnpacked, rfl, ?_⟩
      rw [signed_isMinus, mul_assoc]

/-- Both zeros have the value zero. -/
theorem value?_pack_zero (sign : Sign) :
    value? (Float.ofModel (Float.Model.pack (.zero sign))) = some 0 := by
  have isExact : exact (Float.ofModel (Float.Model.pack (.zero sign))) =
      .finite (isMinus sign) 0 (-1074) := by
    cases sign <;> rfl
  rw [value?, isExact, Exact.value?, signed_isMinus, Nat.cast_zero, mul_zero, zero_mul]

/-- A finite double that is stored as it is has the value of its parts. -/
theorem value?_pack_finite {sign : Sign} {mantissa : ℕ} {exponent : ℤ} (positive : 0 < mantissa)
    (stored : IsStored mantissa exponent) :
    value? (Float.ofModel (Float.Model.pack (.finite sign mantissa exponent positive))) =
      some (unitOf sign * (mantissa * 2 ^ exponent)) := by
  rw [value?, exact_eq, unpack_pack_finite sign positive stored, ofUnpacked, Exact.value?,
    signed_isMinus, mul_assoc]

/-- The greatest number that is a double. -/
def greatestValue : ℚ :=
  (2 ^ 53 - 1) * 2 ^ (971 : ℤ)

/-- What is stored lies between the least and the greatest double. -/
theorem IsStored.range {significand : ℕ} {exponent : ℤ} (stored : IsStored significand exponent)
    (positive : 0 < significand) :
    (2 : ℚ) ^ (-1074 : ℤ) ≤ significand * 2 ^ exponent ∧
      (significand : ℚ) * 2 ^ exponent ≤ greatestValue := by
  constructor
  · calc (2 : ℚ) ^ (-1074 : ℤ) ≤ 2 ^ exponent :=
          zpow_le_zpow_right₀ (by norm_num) stored.least
      _ ≤ significand * 2 ^ exponent :=
          le_mul_of_one_le_left (by positivity) (Nat.one_le_cast.mpr positive)
  · have fits : (significand : ℚ) ≤ 2 ^ 53 - 1 := by
      have below : ((significand + 1 : ℕ) : ℚ) ≤ (2 ^ 53 : ℕ) := Nat.cast_le.mpr stored.fits
      push_cast at below
      linarith
    exact mul_le_mul fits (zpow_le_zpow_right₀ (by norm_num) stored.greatest) (by positivity)
      (by norm_num)

namespace RoundsTo

variable {number : ℚ} {mantissa : ℕ} {exponent : ℤ} (roundsTo : RoundsTo number mantissa exponent)
  (bounded : number ≤ greatestValue)

include roundsTo bounded

/-- Up to the greatest double, the rounded exponent leaves room for a carry. -/
theorem exponent_cases : exponent < 971 ∨ exponent = 971 ∧ mantissa < 2 ^ 53 := by
  have positivePower : (0 : ℚ) < 2 ^ (971 : ℤ) := zpow_pos (by norm_num) 971
  rcases lt_trichotomy exponent 971 with below | isGreatest | above
  · exact .inl below
  · refine .inr ⟨isGreatest, Nat.lt_succ_of_le (roundsTo.nearest.le_of_lt ?_)⟩
    have quotient : number / 2 ^ exponent ≤ 2 ^ 53 - 1 := by
      rw [isGreatest, div_le_iff₀ positivePower]
      exact bounded
    push_cast
    linarith
  · have beyond : (2 : ℚ) ^ (53 + 971 : ℤ) ≤ number :=
      (zpow_le_zpow_right₀ (by norm_num) (by omega)).trans
        (roundsTo.wide.resolve_left (by omega))
    have smaller : greatestValue < 2 ^ (53 + 971 : ℤ) := by
      rw [greatestValue, zpow_add₀ (by norm_num)]
      exact mul_lt_mul_of_pos_right (by norm_num) positivePower
    exact absurd (beyond.trans bounded) (not_le.mpr smaller)

/-- Up to the greatest double, a rounded number is stored. -/
theorem value?_pack (sign : Sign) :
    value? (Float.ofModel (Float.Model.pack (rounded sign mantissa exponent))) =
      some (unitOf sign * (mantissa * 2 ^ exponent)) := by
  have mantissaLe := roundsTo.mantissa_le
  have wide := roundsTo.le_mantissa
  have least := roundsTo.least
  have greatest := roundsTo.exponent_cases bounded
  rw [rounded]
  split
  · next positive =>
      split
      · next fits => exact value?_pack_finite positive ⟨fits, least, by omega, wide⟩
      · next full =>
          have isPower : mantissa = 2 ^ 52 * 2 := by omega
          have stored : IsStored (2 ^ 52) (exponent + 1) :=
            ⟨by decide, by omega, by omega, .inr (Nat.le_refl _)⟩
          rw [value?_pack_finite _ stored, isPower, zpow_add_one₀ (by norm_num)]
          push_cast
          ring_nf
  · next notPositive =>
      have isZero : mantissa = 0 := Nat.eq_zero_of_not_pos notPositive
      rw [value?_pack_zero, isZero, Nat.cast_zero, zero_mul, mul_zero]

end RoundsTo

end MessageTemplate.Decimal
