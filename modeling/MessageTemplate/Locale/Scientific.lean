import MessageTemplate.Locale.Digits

/-! # Scientific notation

A number is divided by a power of ten so that one digit stands before the decimal separator. The
power is computed by repeated squaring in doubles, so numbers far below `10 ^ -308` have none. -/

namespace MessageTemplate

open MessageTemplate.Decimal

namespace Scientific

/-- Squares `square` once for each binary digit of an exponent and multiplies the squares of its
ones into `product`. -/
def powerFrom : (steps : Nat) → (product square : Float) → (exponent : Nat) → Float
  | 0, product, _, _ => product
  | steps + 1, product, square, exponent =>
      let product := if exponent % 2 = 1 then product * square else product
      if exponent / 2 = 0 then product
      else powerFrom steps product (square * square) (exponent / 2)

/-- A power of ten in doubles. A negative power is the reciprocal of the positive one. -/
def powerOfTen (exponent : Int) : Float :=
  let power := powerFrom 32 1 10 exponent.natAbs
  if exponent < 0 then 1 / power else power

/-- Whether the logarithm of a fraction below `10 ^ exponent` is rounded up to `exponent`: it is less
than half a gap away from it, where the gap is that to the next double below, `2 ^ (g - 53)` with the
binary logarithm `g` of `2 * exponent - 1`. Below zero the gap is too small for any fraction. The
logarithm of ten is taken as `2.302585`. -/
def roundsUpTo (exponent : Int) (numerator denominator : Nat) : Bool :=
  let value := numerator * tenTo (-exponent).toNat
  let power := denominator * tenTo exponent.toNat
  exponent != 0 &&
    (power - value) * 1000000 * twoTo 54 <
      2302585 * twoTo (2 * exponent - 1).natAbs.log2 * power

/-- The floor of the logarithm of a positive fraction, where the logarithm is a double. -/
def logarithmFloor (numerator denominator : Nat) : Int :=
  let exponent := decimalExponent numerator denominator
  if roundsUpTo (exponent + 1) numerator denominator then exponent + 1 else exponent

/-- One digit, up to six fraction digits and the exponent of ten of a positive double. -/
def parts? (magnitude : Float) (exponent : Int) : Option (Digits × Int) :=
  let mantissa := magnitude / powerOfTen exponent
  match Digits.fixed? (.float mantissa) 0 6 with
  | none => none
  | some digits =>
      if digits.integer = 10 then
        (Digits.fixed? (.float (mantissa / 10)) 0 6).map fun shifted => (shifted, exponent + 1)
      else some (digits, exponent)

end Scientific

/-- A number in scientific notation. -/
def Locale.scientific? (locale : Locale) (number : Number) : Option (List Char) :=
  match exact number.toFloat with
  | .finite negative significand exponent =>
      if significand = 0 then some ['0', 'E', '0']
      else
        let power :=
          Scientific.logarithmFloor (numerator significand exponent) (denominator exponent)
        (Scientific.parts? number.toFloat.abs power).map fun (digits, power) =>
          (if negative then ['-'] else []) ++ locale.joinDigits digits 1 none ++
            'E' :: (toString power).toList
  | _ => none

end MessageTemplate
