/-! # Decimal digits

Natural numbers as lists of decimal digits, the most significant first. -/

namespace MessageTemplate.Decimal

/-- The digits of a number. Zero has one digit. -/
def digitsOf (value : Nat) : List Char :=
  Nat.toDigits 10 value

/-- How many digits a number has. -/
def digitCount (value : Nat) : Nat :=
  (digitsOf value).length

/-- The number that a list of decimal digits denotes. -/
def naturalOf (digits : List Char) : Nat :=
  digits.foldl (fun value digit => 10 * value + (digit.toNat - '0'.toNat)) 0

/-- The number without the zeros at its end, and how many there were. At most `limit` are taken. -/
def withoutZeros : (limit value : Nat) → Nat × Nat
  | 0, value => (value, 0)
  | limit + 1, value =>
      if value % 10 = 0 then
        let shorter := withoutZeros limit (value / 10)
        (shorter.1, shorter.2 + 1)
      else (value, 0)

/-- The digits of a list of decimal digits without the zeros at its end. -/
def dropZerosRight (digits : List Char) : List Char :=
  (digits.reverse.dropWhile (· == '0')).reverse

/-- The decimal exponent of a positive fraction: the power of ten at or below it. -/
def decimalExponent (numerator denominator : Nat) : Int :=
  if denominator ≤ numerator then (digitCount (numerator / denominator) : Int) - 1
  else -(digitCount ((denominator - 1) / numerator) : Int)

end MessageTemplate.Decimal
