import Mathlib
import MessageTemplate.Decimal.Exact

/-! # The nearest whole number

Fractions are rounded to the nearest whole number, and to the even one of two that are equally near:
`isNearestEven_roundHalfEven`. There is exactly one such number (`IsNearestEven.unique`), so what is
rounded depends on the value of a fraction only. -/

namespace MessageTemplate.Decimal

/-- Whether no whole number is nearer to a number, and an even one is taken of two that are equally
near. -/
structure IsNearestEven (number : ℚ) (whole : ℕ) : Prop where
  near : |number - whole| ≤ 1 / 2
  even : |number - whole| = 1 / 2 → Even whole

namespace IsNearestEven

variable {number : ℚ} {whole : ℕ}

/-- A whole number is nearest to itself. -/
theorem natCast (whole : ℕ) : IsNearestEven whole whole where
  near := by norm_num
  even isHalf := by norm_num at isHalf

/-- What is less than a half above a whole number is not rounded beyond it. -/
theorem le_of_lt (nearest : IsNearestEven number whole) {greatest : ℕ}
    (below : number < greatest + 1 / 2) : whole ≤ greatest := by
  have near := (abs_le.mp nearest.near).1
  have less : (whole : ℚ) < (greatest + 1 : ℕ) := by
    push_cast
    linarith
  exact Nat.le_of_lt_succ (Nat.cast_lt.mp less)

/-- What is less than a half below a whole number is rounded to it at least. -/
theorem ge_of_gt (nearest : IsNearestEven number whole) {least : ℕ}
    (above : (least : ℚ) - 1 / 2 < number) : least ≤ whole := by
  have near := (abs_le.mp nearest.near).2
  have less : (least : ℚ) < (whole + 1 : ℕ) := by
    push_cast
    linarith
  exact Nat.le_of_lt_succ (Nat.cast_lt.mp less)

/-- A greater number is rounded to no less. -/
theorem mono {lesser greater : ℚ} {left right : ℕ} (ordered : lesser ≤ greater)
    (leftNearest : IsNearestEven lesser left) (rightNearest : IsNearestEven greater right) :
    left ≤ right := by
  -- Otherwise both numbers would lie halfway between the two, and both of these would be even.
  by_contra exceeds
  have leftNear := abs_le.mp leftNearest.near
  have rightNear := abs_le.mp rightNearest.near
  have apart : (right : ℚ) + 1 ≤ left := by exact_mod_cast Nat.lt_of_not_le exceeds
  have leftHalf : lesser - left = -(1 / 2) := by linarith
  have rightHalf : greater - right = 1 / 2 := by linarith
  have leftEven := leftNearest.even (by rw [leftHalf]; norm_num)
  have rightEven := rightNearest.even (by rw [rightHalf]; norm_num)
  have next : (left : ℚ) = (right + 1 : ℕ) := by
    push_cast
    linarith
  rw [Nat.cast_inj.mp next, Nat.even_add_one] at leftEven
  exact leftEven rightEven

/-- There is one nearest whole number, as a half goes to the even one. -/
theorem unique {left right : ℕ} (leftNearest : IsNearestEven number left)
    (rightNearest : IsNearestEven number right) : left = right :=
  Nat.le_antisymm (mono le_rfl leftNearest rightNearest) (mono le_rfl rightNearest leftNearest)

section Part

variable {part : ℚ}

/-- Less than a half is rounded down. -/
theorem add_of_lt (whole : ℕ) (notNegative : 0 ≤ part) (less : part < 1 / 2) :
    IsNearestEven (whole + part) whole := by
  have difference : (whole : ℚ) + part - whole = part := add_sub_cancel_left _ _
  constructor
  · rw [difference, abs_of_nonneg notNegative]
    exact less.le
  · rw [difference, abs_of_nonneg notNegative]
    exact fun isHalf => absurd isHalf less.ne

/-- More than a half is rounded up. -/
theorem add_of_gt (whole : ℕ) (more : 1 / 2 < part) (below : part < 1) :
    IsNearestEven (whole + part) (whole + 1) := by
  have difference : (whole : ℚ) + part - (whole + 1 : ℕ) = -(1 - part) := by
    push_cast
    ring
  constructor
  · rw [difference, abs_neg, abs_of_pos (by linarith)]
    linarith
  · rw [difference, abs_neg, abs_of_pos (by linarith)]
    intro isHalf
    linarith

/-- Of a half, one goes up to an even number and the next goes down to it. -/
theorem add_half (whole : ℕ) : IsNearestEven (whole + 1 / 2) (whole + whole % 2) := by
  rcases Nat.mod_two_eq_zero_or_one whole with isEven | isOdd
  · rw [isEven, Nat.add_zero]
    refine ⟨?_, fun _ => Nat.even_iff.mpr isEven⟩
    rw [add_sub_cancel_left]
    norm_num
  · rw [isOdd]
    refine ⟨?_, fun _ => (Nat.odd_iff.mpr isOdd).add_one⟩
    push_cast
    norm_num

end Part

end IsNearestEven

/-- Fractions are rounded to the nearest whole number. -/
theorem isNearestEven_roundHalfEven {denominator : ℕ} (positive : 0 < denominator)
    (numerator : ℕ) :
    IsNearestEven ((numerator : ℚ) / denominator) (roundHalfEven numerator denominator) := by
  have positiveRat : (0 : ℚ) < denominator := Nat.cast_pos.mpr positive
  -- The fraction is its quotient and the part that is left over.
  obtain ⟨part, isPart⟩ : ∃ part : ℚ, part = (numerator % denominator : ℕ) / denominator :=
    ⟨_, rfl⟩
  have isSum : (numerator : ℚ) / denominator = (numerator / denominator : ℕ) + part := by
    have whole : (numerator : ℚ) =
        denominator * (numerator / denominator : ℕ) + (numerator % denominator : ℕ) := by
      exact_mod_cast (Nat.div_add_mod numerator denominator).symm
    rw [isPart, div_eq_iff positiveRat.ne', add_mul, div_mul_cancel₀ _ positiveRat.ne', whole]
    ring
  have notNegative : 0 ≤ part := by
    rw [isPart]
    positivity
  have below : part < 1 := by
    rw [isPart, div_lt_one positiveRat]
    exact_mod_cast Nat.mod_lt numerator positive
  have lessThanHalf : 2 * (numerator % denominator) < denominator ↔ part < 1 / 2 := by
    rw [isPart, div_lt_iff₀ positiveRat, ← Nat.cast_lt (α := ℚ)]
    push_cast
    constructor <;> intro less <;> linarith
  have moreThanHalf : denominator < 2 * (numerator % denominator) ↔ 1 / 2 < part := by
    rw [isPart, lt_div_iff₀ positiveRat, ← Nat.cast_lt (α := ℚ)]
    push_cast
    constructor <;> intro less <;> linarith
  rw [isSum, roundHalfEven]
  simp only [lessThanHalf, moreThanHalf]
  split
  · next less => exact .add_of_lt _ notNegative less
  · split
    · next more => exact .add_of_gt _ more below
    · have isHalf : part = 1 / 2 := by linarith
      rw [isHalf]
      exact .add_half _

end MessageTemplate.Decimal
