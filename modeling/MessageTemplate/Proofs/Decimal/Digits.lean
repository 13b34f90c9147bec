import Mathlib.Data.List.DropRight
import MessageTemplate.Proofs.Decimal.Reading

/-! # Zeros among digits

Zeros at the end of digits multiply a number by a power of ten, on the page and in value
(`naturalOf_append`, `digitsOf_mul_tenTo`), and they can be taken off again (`exists_zeros`). The
count of digits bounds a number from both sides. -/

namespace MessageTemplate.Decimal

/-! ## Digits side by side -/

/-- Digits in front of others count by the power of ten of their number. -/
theorem naturalOf_append (left right : List Char) :
    naturalOf (left ++ right) = naturalOf left * 10 ^ right.length + naturalOf right := by
  have append := Nat.ofDigitChars_append (b := 10) (l := left) (m := right) 0
  rw [Nat.ofDigitChars_eq_ofDigitChars_zero (l := right), Nat.mul_comm] at append
  exact append

/-- Zeros stand for zero. -/
theorem naturalOf_zeros (count : Nat) : naturalOf (List.replicate count '0') = 0 := by
  have product : naturalOf (List.replicate count '0') = 10 ^ count * 0 :=
    Nat.ofDigitChars_replicate_zero
  rw [product, Nat.mul_zero]

/-- Digits denote zero only where all of them are zeros. -/
theorem eq_zeros_of_naturalOf {digits : List Char}
    (areDigits : ∀ digit ∈ digits, digit.isDigit = true) (isZero : naturalOf digits = 0) :
    ∀ digit ∈ digits, digit = '0' := by
  induction digits with
  | nil => exact nofun
  | cons digit rest inductionHypothesis =>
      obtain ⟨isDigit, restDigits⟩ := List.forall_mem_cons.mp areDigits
      rw [← List.singleton_append, naturalOf_append] at isZero
      obtain ⟨product, restZero⟩ := Nat.add_eq_zero_iff.mp isZero
      have value : naturalOf [digit] = 0 :=
        (Nat.mul_eq_zero.mp product).resolve_right (Nat.ne_of_gt (Nat.pow_pos (by decide)))
      refine List.forall_mem_cons.mpr ⟨?_, inductionHypothesis restDigits restZero⟩
      simp only [Char.isDigit, Bool.and_eq_true, decide_eq_true_eq] at isDigit
      have least : 48 ≤ digit.toNat := isDigit.1
      have isValue : digit.toNat - 48 = 0 := (Nat.zero_add _).symm.trans value
      exact Char.toNat_inj.mp (show digit.toNat = 48 by omega)

/-! ## Zeros at the end -/

/-- What is dropped at the right end are zeros. -/
theorem exists_zeros (digits : List Char) :
    ∃ count, digits = dropZerosRight digits ++ List.replicate count '0' := by
  refine ⟨_, (List.rdropWhile_append_rtakeWhile (p := (· == '0'))).symm.trans
    (congrArg (dropZerosRight digits ++ ·) (List.eq_replicate_of_mem fun digit member => ?_))⟩
  have areZeros : ∀ digit ∈ digits.rtakeWhile (· == '0'), (digit == '0') = true :=
    fun _ => List.mem_rtakeWhile_imp
  exact beq_iff_eq.mp (areZeros digit member)

/-- No zero is left at the right end. -/
theorem getLast?_dropZerosRight (digits : List Char) :
    (dropZerosRight digits).getLast? ≠ some '0' := by
  intro isZero
  obtain ⟨nonempty, last⟩ := List.mem_getLast?_eq_getLast isZero
  exact List.rdropWhile_last_not (· == '0') digits nonempty (beq_iff_eq.mpr last.symm)

/-- A power of ten appends zeros. -/
theorem digitsOf_mul_tenTo {number : Nat} (positive : 0 < number) (count : Nat) :
    digitsOf (number * tenTo count) = digitsOf number ++ List.replicate count '0' := by
  induction count with
  | zero => rw [tenTo_zero, Nat.mul_one, List.replicate_zero, List.append_nil]
  | succ count inductionHypothesis =>
      have stillPositive : 0 < number * tenTo count :=
        Nat.mul_pos positive (Nat.pow_pos (by decide))
      have append := Nat.toDigits_append_toDigits (b := 10) (d := 0) (by decide) stillPositive
        (by decide)
      rw [tenTo_succ, ← Nat.mul_assoc, Nat.mul_comm _ 10, List.replicate_succ', ← List.append_assoc,
        ← inductionHypothesis]
      exact append.symm

/-! ## Whole numbers with a sign -/

/-- A whole number is written as its digits, behind a sign where it is negative. -/
theorem toString_int (whole : Int) :
    toString whole = String.ofList
      (if whole < 0 then '-' :: digitsOf whole.natAbs else digitsOf whole.natAbs) := by
  cases whole with
  | ofNat magnitude =>
      have notNegative : ¬Int.ofNat magnitude < 0 := Int.not_lt.mpr (Int.natCast_nonneg magnitude)
      rw [if_neg notNegative]
      rfl
  | negSucc less =>
      have isText : toString (Int.negSucc less) = "-" ++ (less + 1).repr := rfl
      have isSigned : ("-" ++ (less + 1).repr).toList =
          '-' :: digitsOf (Int.negSucc less).natAbs := by
        rw [String.toList_append, Nat.toList_repr]
        rfl
      rw [if_pos (Int.negSucc_lt_zero less), isText, ← isSigned, String.ofList_toList]

/-! ## The count of digits -/

/-- A number lies below the power of ten of its number of digits. -/
theorem lt_pow_digitCount (number : Nat) : number < 10 ^ digitCount number :=
  (Nat.length_toDigits_le_iff (by decide) Nat.length_toDigits_pos).mp (Nat.le_refl _)

/-- A positive number is not below the power of ten that has as many digits. -/
theorem pow_digitCount_le {number : Nat} (positive : 0 < number) :
    10 ^ (digitCount number - 1) ≤ number := by
  by_contra less
  have fewer : ¬digitCount number ≤ digitCount number - 1 := by
    have present : 0 < digitCount number := Nat.length_toDigits_pos
    omega
  by_cases isOne : digitCount number - 1 = 0
  · rw [isOne] at less
    exact less positive
  · exact fewer ((Nat.length_toDigits_le_iff (by decide) (Nat.pos_of_ne_zero isOne)).mpr
      (Nat.not_le.mp less))

end MessageTemplate.Decimal
