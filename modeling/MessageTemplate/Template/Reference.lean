import MessageTemplate.Character.Alphabetic
import MessageTemplate.Character.Numeric
import MessageTemplate.Decimal.Digits

/-! # References and identifiers

A substitution refers to a value by name or by position. A position is written in decimal digits,
with or without an `@` in front. -/

namespace MessageTemplate

open MessageTemplate.Character

/-- What a substitution refers to. -/
inductive Reference where
  | name (identifier : String)
  | position (index : Nat)
deriving DecidableEq, Repr, Inhabited

namespace Reference

/-- Positions stay below this bound. -/
def positionBound : Nat := UInt64.size

/-- Whether an identifier may go on with this character. -/
def continuesIdentifier (character : Char) : Bool :=
  isAlphabetic character || isNumeric character || character == '_'

/-- Letters, digits and underscores, not starting with a digit. -/
def isIdentifier : List Char → Bool
  | [] => false
  | first :: rest => (isAlphabetic first || first == '_') && rest.all continuesIdentifier

/-- A position below the bound. -/
def ofDigits? (digits : List Char) : Option Reference :=
  let index := Decimal.naturalOf digits
  if index < positionBound then some (position index) else none

/-- Whether a text is a non-empty run of decimal digits. -/
def isDigitRun (text : List Char) : Bool :=
  !text.isEmpty && text.all Char.isDigit

/-- Reads a reference: an identifier, decimal digits, or `@` and decimal digits. -/
def read? : List Char → Option Reference
  | '@' :: digits => if isDigitRun digits then ofDigits? digits else none
  | text =>
      if isDigitRun text then ofDigits? text
      else if isIdentifier text then some (name (String.ofList text))
      else none

end Reference

end MessageTemplate
