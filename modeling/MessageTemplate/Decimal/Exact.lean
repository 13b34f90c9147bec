import MessageTemplate.Decimal.Powers

/-! # The exact value of a double

A finite double is a whole number times a power of two, so it is a fraction of natural numbers with
a sign. Rounding, truncating and printing are decided on that fraction, never in floating-point
arithmetic. -/

namespace MessageTemplate.Decimal

/-- What a double stands for. A finite one stands for `± significand * 2 ^ exponent`. -/
inductive Exact where
  | nan
  | infinite (negative : Bool)
  | finite (negative : Bool) (significand : Nat) (exponent : Int)
deriving DecidableEq, Repr

/-- Reads the sign, the exponent and the significand out of the bits. -/
def exact (value : Float) : Exact :=
  let bits := value.toBits.toNat
  let negative := bits / twoTo 63 == 1
  let biased : Nat := bits / twoTo 52 % twoTo 11
  let fraction : Nat := bits % twoTo 52
  if biased = 2047 then
    if fraction = 0 then .infinite negative else .nan
  else if biased = 0 then .finite negative fraction (-1074)
  else .finite negative (twoTo 52 + fraction) ((biased : Int) - 1075)

/-- The numerator of `significand * 2 ^ exponent`. -/
def numerator (significand : Nat) (exponent : Int) : Nat :=
  significand * twoTo exponent.toNat

/-- The denominator of `significand * 2 ^ exponent`. -/
def denominator (exponent : Int) : Nat :=
  twoTo (-exponent).toNat

/-- A whole number with a sign. -/
def signed (negative : Bool) (magnitude : Nat) : Int :=
  if negative then -(magnitude : Int) else magnitude

/-- A fraction rounded to a whole number, where a half goes to the even neighbour. -/
def roundHalfEven (numerator denominator : Nat) : Nat :=
  let quotient := numerator / denominator
  let doubled := 2 * (numerator % denominator)
  if doubled < denominator then quotient
  else if denominator < doubled then quotient + 1
  else quotient + quotient % 2

/-- A fraction rounded to a whole number, where a half goes up. -/
def roundHalfUp (numerator denominator : Nat) : Nat :=
  (2 * numerator + denominator) / (2 * denominator)

/-- The integer part of a double. -/
def truncate? (value : Float) : Option Int :=
  match exact value with
  | .finite negative significand exponent =>
      some (signed negative (numerator significand exponent / denominator exponent))
  | _ => none

/-- The whole number nearest to a double, where a half goes away from zero. -/
def roundAway? (value : Float) : Option Int :=
  match exact value with
  | .finite negative significand exponent =>
      some (signed negative (roundHalfUp (numerator significand exponent) (denominator exponent)))
  | _ => none

/-- Whether a double is neither infinite nor undefined. -/
def isFinite (value : Float) : Bool :=
  match exact value with
  | .finite .. => true
  | _ => false

/-- Positive infinity. -/
def infinity : Float := Float.ofBits 0x7FF0000000000000

end MessageTemplate.Decimal
