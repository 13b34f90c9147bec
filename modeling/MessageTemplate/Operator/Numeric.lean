import MessageTemplate.Locale.Pattern
import MessageTemplate.Operator.Basic

/-! # Numeric operators

Formatting a number in a style or a pattern, and rounding it to a whole number. -/

namespace MessageTemplate.Operator

/-- A number in the style that an argument names, or else in the pattern it spells. No argument and
the empty one ask for the decimal style. -/
def formatBy? (locale : Locale) (number : Number) (argument : Option String) : Option String :=
  match argument with
  | none | some "" => locale.formatNumber? number .decimal
  | some format =>
      match NumberStyle.ofKeyword? format with
      | some style => locale.formatNumber? number style
      | none => locale.formatPattern? number format

/-- Whether formatting a number by an argument breaks off what the program is doing. The styles never
do, only patterns. -/
def breaksOff (number : Number) (argument : Option String) : Bool :=
  match argument with
  | none | some "" => false
  | some format => (NumberStyle.ofKeyword? format).isNone && Pattern.breaksOffAt number format

/-- Formats a number. -/
def num : Operator where
  name := "num"
  summary := "Format a number: decimal, noloc, currency, percent, scientific, spellout, " ++
    "*bytes or a pattern"
  apply site value argument := do
    let number ← site.number value "num"
    if breaksOff number argument then Step.refuse .tooManyDigits
    else
      let reason := "cannot format " ++ number.plain ++ " as " ++
        Text.quoted (argument.getD "decimal")
      let text ← Step.require (.invalidArgument "num" reason)
        (formatBy? site.locale number argument)
      return .string text

/-- Rounds a number. -/
def round : Operator where
  name := "round"
  summary := "Round to the nearest integer, halves away from zero"
  apply site value _ := do
    let number ← site.number value "round"
    return Value.ofNumber number.roundAway

/-- The numeric operators. -/
def numeric : List Operator := [num, round]

end MessageTemplate.Operator
