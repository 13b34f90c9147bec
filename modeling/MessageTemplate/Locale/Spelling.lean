import MessageTemplate.Locale.Digits

/-! # Numbers in words

Whole numbers below `10 ^ 21` in English words. A fraction is read digit by digit after the word
`point`. -/

namespace MessageTemplate.Spelling

open MessageTemplate.Decimal

/-- The words of the numbers below twenty. -/
def ones : List String :=
  ["zero", "one", "two", "three", "four", "five", "six", "seven", "eight", "nine", "ten",
   "eleven", "twelve", "thirteen", "fourteen", "fifteen", "sixteen", "seventeen", "eighteen",
   "nineteen"]

/-- The words of the multiples of ten. -/
def tens : List String :=
  ["", "", "twenty", "thirty", "forty", "fifty", "sixty", "seventy", "eighty", "ninety"]

/-- The powers of a thousand and their words, in descending order. -/
def scales : List (Nat × String) :=
  [(tenTo 18, "quintillion"), (tenTo 15, "quadrillion"), (tenTo 12, "trillion"),
   (tenTo 9, "billion"), (tenTo 6, "million"), (tenTo 3, "thousand")]

/-- The word of a number below a hundred. -/
def belowHundred (value : Nat) : String :=
  if value < 20 then ones.getD value ""
  else if value % 10 = 0 then tens.getD (value / 10) ""
  else tens.getD (value / 10) "" ++ "-" ++ ones.getD (value % 10) ""

/-- The words of a number below a thousand. -/
def belowThousand (value : Nat) : List String :=
  if value < 100 then [belowHundred value]
  else
    [ones.getD (value / 100) "", "hundred"] ++
      (if value % 100 = 0 then [] else [belowHundred (value % 100)])

/-- The words of a number that the given scales and a rest below a thousand make up. Zero has
none. -/
def inScales : List (Nat × String) → (value : Nat) → List String
  | [], value => if value = 0 then [] else belowThousand value
  | (size, name) :: smaller, value =>
      (if value / size = 0 then [] else belowThousand (value / size) ++ [name]) ++
        inScales smaller (value % size)

/-- The words of a natural number. -/
def words (value : Nat) : List String :=
  if value = 0 then ["zero"] else inScales scales value

/-- The word of a decimal digit. -/
def digitWord (digit : Char) : String :=
  ones.getD (digit.toNat - '0'.toNat) ""

/-- The words of a sign, a whole part and fraction digits. -/
def spell (negative : Bool) (integer : Nat) (fraction : List Char) : String :=
  " ".intercalate
    ((if negative then ["minus"] else []) ++ words integer ++
      (if fraction.isEmpty then [] else "point" :: fraction.map digitWord))

/-- The greatest whole part that is spelled out, exclusively. -/
def bound : Nat := UInt64.size

/-- The double at which numbers become too great to be spelled out. -/
def floatBound : Float := Float.ofNat (tenTo 19)

/-- A number in English words. -/
def spellOut? (number : Number) : Option String :=
  match number with
  | .int value => some (spell (decide (value < 0)) value.toInt.natAbs [])
  | .float value =>
      if value.abs < floatBound then
        (Digits.fixed? number 0 6).bind fun digits =>
          if digits.integer < bound then
            some (spell digits.negative digits.integer digits.fraction)
          else none
      else none

end MessageTemplate.Spelling
