import Mathlib.Algebra.Group.Nat.Defs
import MessageTemplate.Decimal.Reading

/-! # Whole numbers read

Decimal digits are read as the number that they denote, where that is in range, and a signed whole
number of 64 bits is read as it is written: `readInt64?_signed`. It can be written in more ways than
one, with zeros in front or a plus sign, and is read from nothing else: `readInt64?_eq_some_iff`. -/

namespace MessageTemplate.Decimal

/-- The value of a digit is below ten. -/
theorem digit_lt_ten {digit : Char} (isDigit : digit.isDigit = true) :
    digit.toNat - '0'.toNat < 10 := by
  simp only [Char.isDigit, Bool.and_eq_true, decide_eq_true_eq] at isDigit
  have most : digit.toNat ≤ 57 := isDigit.2
  have zero : '0'.toNat = 48 := rfl
  omega

/-- A decimal digit has its distance from zero as its value. -/
theorem digitValue?_of_isDigit {digit : Char} (isDigit : digit.isDigit = true) :
    digitValue? 10 digit = some (digit.toNat - '0'.toNat) := by
  simp only [digitValue?, if_pos isDigit, if_pos (digit_lt_ten isDigit)]

/-- In base ten, only decimal digits have a value. -/
theorem isDigit_of_digitValue? {character : Char} {digit : Nat}
    (found : digitValue? 10 character = some digit) : character.isDigit = true := by
  rw [digitValue?] at found
  grind

/-- Zeros are digits. -/
theorem isDigit_of_mem_zeros {count : Nat} :
    ∀ digit ∈ List.replicate count '0', digit.isDigit = true := by
  intro digit member
  rw [List.eq_of_mem_replicate member]
  rfl

/-- Numbers are written with digits alone. -/
theorem isDigit_of_mem_digitsOf {value : Nat} :
    ∀ digit ∈ digitsOf value, digit.isDigit = true := fun _ member =>
  Nat.isDigit_of_mem_toDigits (by decide) (by decide) member

/-- Every number has a digit. -/
theorem digitsOf_ne_nil (value : Nat) : digitsOf value ≠ [] :=
  Nat.toDigits_ne_nil

/-- The digits of a number stand for it. -/
theorem naturalOf_digitsOf (value : Nat) : naturalOf (digitsOf value) = value :=
  Nat.ofDigitChars_ten_toDigits

section Digits

variable {digits : List Char} (areDigits : ∀ digit ∈ digits, digit.isDigit = true)

include areDigits

/-- Digits behind a number that has been read so far are read to the end, if all of it is in
range. -/
theorem readDigits_of_isDigit {greatest value : Nat} {overflow : IntegerProblem}
    (inRange : Nat.ofDigitChars 10 digits value ≤ greatest) :
    readDigits 10 greatest overflow value digits = .ok (Nat.ofDigitChars 10 digits value) := by
  induction digits generalizing value with
  | nil => rfl
  | cons digit rest inductionHypothesis =>
      obtain ⟨isDigit, restDigits⟩ := List.forall_mem_cons.mp areDigits
      rw [Nat.ofDigitChars_cons] at inRange ⊢
      -- The number never decreases with further digits, so no prefix leaves the range.
      have grows (before : Nat) : before ≤ Nat.ofDigitChars 10 rest before := by
        rw [Nat.ofDigitChars_eq_ofDigitChars_zero]
        exact Nat.le_add_right_of_le (Nat.le_mul_of_pos_left _ (Nat.pow_pos (by decide)))
      have soFar := Nat.le_trans (grows _) inRange
      simp only [readDigits, digitValue?_of_isDigit isDigit, if_neg (Nat.not_lt.mpr soFar)]
      exact inductionHypothesis restDigits inRange

variable (nonempty : digits ≠ [])

include nonempty

/-- Digits without a sign are read as their number, where it is in range. -/
theorem readInteger_of_isDigit {greatest : Int} (inRange : naturalOf digits ≤ greatest)
    (least : Int) : readInteger 10 least greatest digits = .ok (naturalOf digits) := by
  have read : readDigits 10 greatest.toNat .tooLarge 0 digits = .ok (naturalOf digits) :=
    readDigits_of_isDigit areDigits (Int.le_toNat (by omega) |>.mpr inRange)
  unfold readInteger
  split
  case h_1 => exact absurd rfl nonempty
  case h_6 =>
    rw [read]
    rfl
  all_goals exact absurd (areDigits _ List.mem_cons_self) (by decide)

/-- A plus sign in front changes nothing. -/
theorem readInteger_of_plus {greatest : Int} (inRange : naturalOf digits ≤ greatest)
    (least : Int) : readInteger 10 least greatest ('+' :: digits) = .ok (naturalOf digits) := by
  have read : readDigits 10 greatest.toNat .tooLarge 0 digits = .ok (naturalOf digits) :=
    readDigits_of_isDigit areDigits (Int.le_toNat (by omega) |>.mpr inRange)
  obtain ⟨first, rest, rfl⟩ := List.exists_cons_of_ne_nil nonempty
  simp only [readInteger, read]
  rfl

/-- Digits behind a minus sign are read as the opposite of their number, where it is in range. -/
theorem readInteger_of_negative {least : Int} (negative : least < 0)
    (inRange : naturalOf digits ≤ -least) (greatest : Int) :
    readInteger 10 least greatest ('-' :: digits) = .ok (-(naturalOf digits : Int)) := by
  have read : readDigits 10 (-least).toNat .tooSmall 0 digits = .ok (naturalOf digits) :=
    readDigits_of_isDigit areDigits (Int.le_toNat (by omega) |>.mpr inRange)
  obtain ⟨first, rest, rfl⟩ := List.exists_cons_of_ne_nil nonempty
  simp only [readInteger, if_pos negative, read]
  rfl

/-- A whole number of 64 bits is read from digits that denote its magnitude, behind a minus sign
where it is negative. -/
theorem readInt64?_signed {value : Int64} (denotes : naturalOf digits = value.toInt.natAbs) :
    readInt64? ((if value < 0 then ['-'] else []) ++ digits) = some value := by
  have atLeast : Int64.minValue.toInt ≤ value.toInt := Int64.minValue_le_toInt value
  have atMost : value.toInt ≤ Int64.maxValue.toInt := Int64.toInt_le value
  by_cases negative : value < 0
  · have isNegative : value.toInt < 0 := Int64.lt_iff_toInt_lt.mp negative
    have isValue : -(naturalOf digits : Int) = value.toInt := by omega
    have inRange : naturalOf digits ≤ -Int64.minValue.toInt := by omega
    have read := readInteger_of_negative areDigits nonempty (Int.lt_of_le_of_lt atLeast isNegative)
      inRange Int64.maxValue.toInt
    rw [if_pos negative, List.singleton_append, readInt64?, read, isValue]
    exact congrArg some (Int64.ofInt_toInt value)
  · have notNegative : ¬value.toInt < 0 := fun isNegative =>
      negative (Int64.lt_iff_toInt_lt.mpr isNegative)
    have isValue : (naturalOf digits : Int) = value.toInt := by omega
    have read := readInteger_of_isDigit areDigits nonempty (isValue ▸ atMost)
      Int64.minValue.toInt
    rw [if_neg negative, List.nil_append, readInt64?, read, isValue]
    exact congrArg some (Int64.ofInt_toInt value)

end Digits

/-! ## Texts that are read -/

/-- What is read as digits consists of digits. -/
theorem isDigit_of_readDigits {greatest value number : Nat} {overflow : IntegerProblem}
    {text : List Char} (found : readDigits 10 greatest overflow value text = .ok number) :
    ∀ character ∈ text, character.isDigit = true := by
  induction text generalizing value with
  | nil => exact nofun
  | cons character rest inductionHypothesis =>
      rw [readDigits] at found
      split at found
      · cases found
      · next digit isDigit =>
          split at found
          · cases found
          · exact List.forall_mem_cons.mpr
              ⟨isDigit_of_digitValue? isDigit, inductionHypothesis found⟩

/-- An unsigned number is written in digits, with a plus sign in front at most. -/
theorem isDigit_of_readUnsigned {bits number : Nat} {text : List Char}
    (found : readUnsigned bits text = .ok number) :
    ∀ character ∈ text, character.isDigit = true ∨ character = '+' := by
  have digitsOf {digits : List Char} {greatest : Nat}
      (found : ((readDigits 10 greatest .tooLarge 0 digits).map Int.ofNat).map Int.toNat =
        .ok number) : ∀ character ∈ digits, character.isDigit = true := by
    cases read : readDigits 10 greatest .tooLarge 0 digits with
    | error problem => simp [read, Except.map] at found
    | ok value => exact isDigit_of_readDigits read
  simp only [readUnsigned, readInteger] at found
  -- No text, two signs on their own, digits behind either sign, and digits only.
  split at found
  case h_1 => exact nofun
  case h_2 => cases found
  case h_3 => cases found
  case h_4 =>
    exact List.forall_mem_cons.mpr
      ⟨.inr rfl, fun character member => .inl (digitsOf found character member)⟩
  case h_5 => cases found
  case h_6 => exact fun character member => .inl (digitsOf found character member)

/-! ## How whole numbers are written -/

/-- How a whole number is written: in decimal digits, with a minus sign in front or perhaps a plus
sign. Zeros may stand in front of the other digits. -/
inductive IsWritten : Int → List Char → Prop where
  | unsigned {digits : List Char} (areDigits : ∀ digit ∈ digits, digit.isDigit = true)
      (nonempty : digits ≠ []) : IsWritten (naturalOf digits) digits
  | plus {digits : List Char} (areDigits : ∀ digit ∈ digits, digit.isDigit = true)
      (nonempty : digits ≠ []) : IsWritten (naturalOf digits) ('+' :: digits)
  | minus {digits : List Char} (areDigits : ∀ digit ∈ digits, digit.isDigit = true)
      (nonempty : digits ≠ []) : IsWritten (-(naturalOf digits : Int)) ('-' :: digits)

/-- Digits are read as the number that they denote, where this is in range. -/
theorem readDigits_eq_ok_iff {greatest value number : Nat} {overflow : IntegerProblem}
    {text : List Char} (inRange : value ≤ greatest) :
    readDigits 10 greatest overflow value text = .ok number ↔
      (∀ character ∈ text, character.isDigit = true) ∧
        number = Nat.ofDigitChars 10 text value ∧ number ≤ greatest := by
  constructor
  · intro found
    refine ⟨isDigit_of_readDigits found, ?_⟩
    induction text generalizing value with
    | nil =>
        cases found
        exact ⟨rfl, inRange⟩
    | cons character rest inductionHypothesis =>
        rw [readDigits] at found
        split at found
        · cases found
        · next digit isDigit =>
            rw [digitValue?_of_isDigit (isDigit_of_digitValue? isDigit)] at isDigit
            cases isDigit
            split at found
            · cases found
            · next inside => exact inductionHypothesis (Nat.not_lt.mp inside) found
  · rintro ⟨areDigits, rfl, inside⟩
    exact readDigits_of_isDigit areDigits inside

/-- A whole number is read exactly from the texts that it is written as, where it is in range. -/
theorem readInteger_eq_ok_iff {least greatest whole : Int} {text : List Char}
    (negative : least < 0) (notNegative : 0 ≤ greatest) :
    readInteger 10 least greatest text = .ok whole ↔
      IsWritten whole text ∧ least ≤ whole ∧ whole ≤ greatest := by
  constructor
  · intro read
    have ofDigits {bound number : Nat} {overflow : IntegerProblem} {digits : List Char}
        (read : readDigits 10 bound overflow 0 digits = .ok number) :
        (∀ digit ∈ digits, digit.isDigit = true) ∧ number = naturalOf digits ∧ number ≤ bound :=
      (readDigits_eq_ok_iff (Nat.zero_le _)).mp read
    unfold readInteger at read
    split at read
    case h_1 => cases read
    case h_2 => cases read
    case h_3 => cases read
    case h_4 digits nonempty =>
      cases readOf : readDigits 10 greatest.toNat .tooLarge 0 digits with
      | error problem => rw [readOf] at read; cases read
      | ok number =>
          obtain ⟨areDigits, rfl, inside⟩ := ofDigits readOf
          rw [readOf] at read
          obtain rfl : (naturalOf digits : Int) = whole := Except.ok.inj read
          exact ⟨.plus areDigits nonempty, by omega, by omega⟩
    case h_5 digits nonempty =>
      rw [if_pos negative] at read
      cases readOf : readDigits 10 (-least).toNat .tooSmall 0 digits with
      | error problem => rw [readOf] at read; cases read
      | ok number =>
          obtain ⟨areDigits, rfl, inside⟩ := ofDigits readOf
          rw [readOf] at read
          obtain rfl : -(naturalOf digits : Int) = whole := Except.ok.inj read
          exact ⟨.minus areDigits nonempty, by omega, by omega⟩
    case h_6 nonempty _ _ _ _ =>
      cases readOf : readDigits 10 greatest.toNat .tooLarge 0 text with
      | error problem => rw [readOf] at read; cases read
      | ok number =>
          obtain ⟨areDigits, rfl, inside⟩ := ofDigits readOf
          rw [readOf] at read
          obtain rfl : (naturalOf text : Int) = whole := Except.ok.inj read
          exact ⟨.unsigned areDigits nonempty, by omega, by omega⟩
  · rintro ⟨written, atLeast, atMost⟩
    cases written with
    | unsigned areDigits nonempty => exact readInteger_of_isDigit areDigits nonempty atMost _
    | plus areDigits nonempty => exact readInteger_of_plus areDigits nonempty atMost least
    | minus areDigits nonempty =>
        exact readInteger_of_negative areDigits nonempty negative (by omega) _

/-- A signed whole number of 64 bits is read exactly from the texts that it is written as. -/
theorem readInt64?_eq_some_iff {value : Int64} {text : List Char} :
    readInt64? text = some value ↔ IsWritten value.toInt text := by
  have negative : Int64.minValue.toInt < 0 := by decide
  have notNegative : 0 ≤ Int64.maxValue.toInt := by decide
  rw [readInt64?]
  constructor
  · intro found
    split at found
    case h_2 => cases found
    case h_1 whole read =>
      obtain ⟨written, atLeast, atMost⟩ := (readInteger_eq_ok_iff negative notNegative).mp read
      cases found
      rwa [Int64.toInt_ofInt_of_le atLeast (Int.lt_add_one_of_le atMost)]
  · intro written
    have read := (readInteger_eq_ok_iff negative notNegative).mpr
      ⟨written, Int64.minValue_le_toInt value, Int64.toInt_le value⟩
    rw [read]
    exact congrArg some (Int64.ofInt_toInt value)

end MessageTemplate.Decimal
