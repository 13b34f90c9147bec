import MessageTemplate.Decimal.Written

/-! # Numbers

A number is a signed whole number of 64 bits or a double. Arithmetic that leaves the whole numbers
goes on in doubles. -/

namespace MessageTemplate

/-- A whole number or a double. -/
inductive Number where
  | int (value : Int64)
  | float (value : Float)
deriving DecidableEq, Repr

namespace Number

/-- A whole number, if it has 64 bits. -/
def int64? (value : Int) : Option Int64 :=
  if Int64.minValue.toInt ≤ value ∧ value ≤ Int64.maxValue.toInt then some (Int64.ofInt value)
  else none

/-- The nearest whole number of 64 bits. -/
def clampInt64 (value : Int) : Int64 :=
  Int64.ofInt (max Int64.minValue.toInt (min value Int64.maxValue.toInt))

/-- A whole number, as a double where it has more than 64 bits. -/
def ofInt (value : Int) : Number :=
  match int64? value with
  | some exact => int exact
  | none => float (Float.ofInt value)

/-- The nearest double. -/
def toFloat : Number → Float
  | int value => Float.ofInt value.toInt
  | float value => value

/-- Whether a number is zero, of either sign. -/
def isZero : Number → Bool
  | int value => value == 0
  | float value => value == 0

/-- The integer part, or the nearest whole number of 64 bits to it. Infinite and undefined numbers
have none. -/
def truncate? : Number → Option Int64
  | int value => some value
  | float value => (Decimal.truncate? value).map clampInt64

/-- The nearest whole number, where a half goes away from zero. It stays a double where it does not
have 64 bits. -/
def roundAway : Number → Number
  | int value => int value
  | float value =>
      match (Decimal.roundAway? value).bind int64? with
      | some rounded => int rounded
      | none => float value

/-- A number times a whole number, as a double where the product does not have 64 bits. -/
def scale (factor : Nat) : Number → Number
  | int value =>
      match int64? (value.toInt * factor) with
      | some product => int product
      | none => float (Float.ofInt value.toInt * Float.ofNat factor)
  | float value => float (value * Float.ofNat factor)

/-- The text of a number without any locale. -/
def plain : Number → String
  | int value => toString value.toInt
  | float value => Decimal.plainForm.write value

end Number

end MessageTemplate
