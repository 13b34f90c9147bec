import MessageTemplate.Decimal.Digits
import MessageTemplate.Decimal.Exact

/-! # Reading numbers

Whole numbers are a sign and decimal digits. Decimals may have a point, an exponent and a sign, or
name infinity or an undefined number, and are rounded to the nearest double. -/

namespace MessageTemplate.Decimal

/-- Why a text is not a whole number in range. -/
inductive IntegerProblem where
  | empty
  | invalidDigit
  | tooLarge
  | tooSmall
deriving DecidableEq, Repr

/-- The wording of a problem. -/
def IntegerProblem.message : IntegerProblem → String
  | empty => "cannot parse integer from empty string"
  | invalidDigit => "invalid digit found in string"
  | tooLarge => "number too large to fit in target type"
  | tooSmall => "number too small to fit in target type"

/-- The value of a digit in a base of at most sixteen. -/
def digitValue? (base : Nat) (character : Char) : Option Nat :=
  let value :=
    if character.isDigit then character.toNat - '0'.toNat
    else if 'a' ≤ character ∧ character ≤ 'f' then character.toNat - 'a'.toNat + 10
    else if 'A' ≤ character ∧ character ≤ 'F' then character.toNat - 'A'.toNat + 10
    else base
  if value < base then some value else none

/-- Reads digits after the number `value`. The first character that is no digit or leads above
`greatest` decides the problem. -/
def readDigits (base greatest : Nat) (overflow : IntegerProblem) :
    (value : Nat) → List Char → Except IntegerProblem Nat
  | value, [] => .ok value
  | value, character :: rest =>
      match digitValue? base character with
      | none => .error .invalidDigit
      | some digit =>
          if greatest < base * value + digit then .error overflow
          else readDigits base greatest overflow (base * value + digit) rest

/-- Reads a whole number from `least` to `greatest`, with an optional sign. Where `least` is zero a
minus sign is no sign. -/
def readInteger (base : Nat) (least greatest : Int) (text : List Char) :
    Except IntegerProblem Int :=
  match text with
  | [] => .error .empty
  | ['+'] | ['-'] => .error .invalidDigit
  | '+' :: digits => (readDigits base greatest.toNat .tooLarge 0 digits).map Int.ofNat
  | '-' :: digits =>
      if least < 0 then
        (readDigits base (-least).toNat .tooSmall 0 digits).map fun value => -(value : Int)
      else .error .invalidDigit
  | digits => (readDigits base greatest.toNat .tooLarge 0 digits).map Int.ofNat

/-- Reads a signed whole number of 64 bits. -/
def readInt64? (text : List Char) : Option Int64 :=
  match readInteger 10 Int64.minValue.toInt Int64.maxValue.toInt text with
  | .ok value => some (Int64.ofInt value)
  | .error _ => none

/-- Reads an unsigned whole number below `2 ^ bits`. -/
def readUnsigned (bits : Nat) (text : List Char) : Except IntegerProblem Nat :=
  (readInteger 10 0 (twoTo bits - 1) text).map Int.toNat

/-- An unsigned decimal as it is written: `significand * 10 ^ exponent`, or the name of a value that
has no digits. -/
inductive Magnitude where
  | infinite
  | undefined
  | scaled (significand : Nat) (exponent : Int)
deriving DecidableEq, Repr

/-- The double nearest to a decimal. Far outside the range of doubles it is zero or infinite. -/
def Magnitude.toFloat : Magnitude → Float
  | infinite => infinity
  | undefined => 0 / 0
  | scaled significand exponent =>
      let size := exponent + digitCount significand
      if significand = 0 ∨ size < -400 then 0
      else if 400 < size then infinity
      else Float.ofScientific significand (decide (exponent < 0)) exponent.natAbs

/-- Reads an exponent: a mark, an optional sign, and digits. No text is the exponent zero. -/
def readExponent? : List Char → Option Int
  | [] => some 0
  | mark :: rest =>
      if mark = 'e' ∨ mark = 'E' then
        let (negative, digits) :=
          match rest with
          | '-' :: digits => (true, digits)
          | '+' :: digits => (false, digits)
          | digits => (false, digits)
        if !digits.isEmpty && digits.all Char.isDigit then some (signed negative (naturalOf digits))
        else none
      else none

/-- Reads an unsigned decimal in digits: a whole part, a fraction, and an exponent. One of the first
two parts may be missing. -/
def readScaled? (text : List Char) : Option Magnitude :=
  let whole := text.takeWhile Char.isDigit
  let afterWhole := text.dropWhile Char.isDigit
  let (fraction, afterFraction) :=
    match afterWhole with
    | '.' :: rest => (rest.takeWhile Char.isDigit, rest.dropWhile Char.isDigit)
    | rest => ([], rest)
  if whole.isEmpty && fraction.isEmpty then none
  else (readExponent? afterFraction).map fun exponent =>
    .scaled (naturalOf (whole ++ fraction)) (exponent - fraction.length)

/-- Reads an unsigned decimal, or the name of an infinite or undefined one in any case. -/
def readMagnitude? (text : List Char) : Option Magnitude :=
  let name := String.ofList (text.map Char.toLower)
  if name = "inf" ∨ name = "infinity" then some .infinite
  else if name = "nan" then some .undefined
  else readScaled? text

/-- Reads a decimal with an optional sign, and tells whether the sign is a minus. -/
def readSigned? : List Char → Option (Bool × Magnitude)
  | '-' :: rest => (readMagnitude? rest).map fun magnitude => (true, magnitude)
  | '+' :: rest => (readMagnitude? rest).map fun magnitude => (false, magnitude)
  | rest => (readMagnitude? rest).map fun magnitude => (false, magnitude)

/-- Reads the double nearest to a decimal with an optional sign. -/
def readFloat? (text : List Char) : Option Float :=
  (readSigned? text).map fun (negative, magnitude) =>
    if negative then -magnitude.toFloat else magnitude.toFloat

end MessageTemplate.Decimal
