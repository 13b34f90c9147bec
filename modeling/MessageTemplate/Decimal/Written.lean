import MessageTemplate.Decimal.Shortest

/-! # Written forms of doubles

Three texts of a double are in use: the plain one for people, the exact one for descriptions, and
the one for data. They share the shortest digits and differ in where an exponent is written and in
how ties are settled. -/

namespace MessageTemplate.Decimal

/-- The decisions of a written form. -/
structure Form where
  /-- The least and the greatest decimal exponent without exponent notation; none for all. -/
  positional : Option (Int × Int)
  /-- Whether a whole number ends in `.0`. -/
  wholePoint : Bool
  /-- Whether a positive exponent has a plus sign. -/
  exponentPlus : Bool
  /-- Which of two equally near decimals is written. -/
  tie : Tie

/-- Plain numbers are always written out, and whole ones without a point. -/
def plainForm : Form := ⟨none, false, false, .greater⟩

/-- Descriptions are written out from `0.0001` to below `10 ^ 16`. -/
def descriptionForm : Form := ⟨some (-4, 15), true, false, .greater⟩

/-- Data are written out from `0.00001` to below `10 ^ 16`. -/
def dataForm : Form := ⟨some (-5, 15), true, true, .even⟩

/-- Digits with a decimal point after the first `before` of them. -/
def withPoint (wholePoint : Bool) (digits : List Char) (before : Int) : List Char :=
  if before ≤ 0 then '0' :: '.' :: List.replicate (-before).toNat '0' ++ digits
  else if digits.length ≤ before.toNat then
    digits ++ List.replicate (before.toNat - digits.length) '0' ++
      (if wholePoint then ['.', '0'] else [])
  else digits.take before.toNat ++ '.' :: digits.drop before.toNat

/-- Digits as a number below ten with an exponent. -/
def withExponent (form : Form) (digits : List Char) (exponent : Int) : List Char :=
  let mantissa :=
    match digits with
    | first :: second :: rest => first :: '.' :: second :: rest
    | short => short
  let sign := if exponent < 0 then ['-'] else if form.exponentPlus then ['+'] else []
  mantissa ++ 'e' :: sign ++ digitsOf exponent.natAbs

/-- The text of a positive decimal. -/
def Form.writeScaled (form : Form) (value : Scaled) : List Char :=
  let digits := digitsOf value.digits
  let exponent := value.exponent + digits.length - 1
  match form.positional with
  | none => withPoint form.wholePoint digits (exponent + 1)
  | some (least, greatest) =>
      if least ≤ exponent ∧ exponent ≤ greatest then
        withPoint form.wholePoint digits (exponent + 1)
      else withExponent form digits exponent

/-- The text of a double. -/
def Form.write (form : Form) (value : Float) : String :=
  match exact value with
  | .nan => "NaN"
  | .infinite negative => if negative then "-inf" else "inf"
  | .finite negative significand exponent =>
      let magnitude :=
        if significand = 0 then '0' :: (if form.wholePoint then ['.', '0'] else [])
        else form.writeScaled (shortest form.tie significand exponent)
      String.ofList (if negative then '-' :: magnitude else magnitude)

end MessageTemplate.Decimal
