import MessageTemplate.Locale.Basic
import MessageTemplate.Number

/-! # Digits of a number

A number is rounded to a fixed count of fraction digits before any convention of a locale is applied
to it. Rounding is decided on the exact value, a half goes to the even neighbour, and a number that
rounds to zero has no sign. -/

namespace MessageTemplate

open MessageTemplate.Decimal

/-- The digits of a number's magnitude, and its sign. -/
structure Digits where
  negative : Bool
  integer : Nat
  fraction : List Char
deriving DecidableEq, Repr

namespace Digits

/-- The last `count` digits of a number, in front of further digits. -/
def lastDigitsBefore : (count value : Nat) → List Char → List Char
  | 0, _, later => later
  | count + 1, value, later =>
      lastDigitsBefore count (value / 10) (Nat.digitChar (value % 10) :: later)

/-- Fraction digits with zeros appended up to a least count. -/
def padRight (least : Nat) (fraction : List Char) : List Char :=
  fraction ++ List.replicate (least - fraction.length) '0'

/-- The digits of the natural number `scaled`, read in units of `10 ^ -most`. -/
def ofScaled (negative : Bool) (scaled least most : Nat) : Digits :=
  { negative := negative && scaled != 0
    integer := scaled / tenTo most
    fraction := padRight least (dropZerosRight (lastDigitsBefore most (scaled % tenTo most) [])) }

/-- The most fraction digits that a double can be asked for. -/
def greatestPrecision : Nat := 65535

/-- Whether asking for the digits of a number breaks off what the program is doing, so that it never
gets them: only a finite double is ever rounded, and only to so many fraction digits. -/
def breaksOff (number : Number) (most : Nat) : Bool :=
  match number with
  | .int _ => false
  | .float value => isFinite value && decide (greatestPrecision < most)

/-- Rounds a number to at most `most` fraction digits and at least `least`. Infinite and undefined
numbers have no digits. -/
def fixed? (number : Number) (least most : Nat) : Option Digits :=
  match number with
  | .int value => some ⟨decide (value < 0), value.toInt.natAbs, List.replicate least '0'⟩
  | .float value =>
      match exact value with
      | .finite negative significand exponent =>
          let scaled :=
            roundHalfEven (numerator significand exponent * tenTo most) (denominator exponent)
          some (ofScaled negative scaled least most)
      | _ => none

/-- The sign in front of the digits. -/
def sign (digits : Digits) : List Char :=
  if digits.negative then ['-'] else []

/-- Puts a separator before every digit that a multiple of `size` digits follow from it on, except
before the first. -/
def group (separator : Char) (size : Nat) : List Char → List Char
  | [] => []
  | digit :: rest =>
      if rest.length % size = 0 ∧ rest ≠ [] then digit :: separator :: group separator size rest
      else digit :: group separator size rest

/-- The integer digits, with zeros in front up to a least count. A zero is left out where no digit
is demanded. -/
def integerDigits (integer least : Nat) : List Char :=
  if least = 0 ∧ integer = 0 then []
  else
    let digits := digitsOf integer
    List.replicate (least - digits.length) '0' ++ digits

end Digits

/-- Joins digits with the separators of the locale, in groups of the given size. There is always at
least one digit, and the sign is left to the caller. -/
def Locale.joinDigits (locale : Locale) (digits : Digits) (leastInteger : Nat)
    (groupSize : Option Nat) : List Char :=
  let integer := Digits.integerDigits digits.integer leastInteger
  let grouped :=
    match groupSize, locale.groupingSeparator with
    | some size, some separator => if size = 0 then integer else Digits.group separator size integer
    | _, _ => integer
  let joined :=
    if digits.fraction.isEmpty then grouped
    else grouped ++ locale.decimalSeparator :: digits.fraction
  if joined.isEmpty then ['0'] else joined

end MessageTemplate
