import MessageTemplate.Operator.Basic
import MessageTemplate.Plural

/-! # Choosing operators

Operators that choose between the parts of their argument by the value, and expand the chosen part
with the same bindings. `ifuse` gives the value of another reference instead, and `not` only turns a
truth value round. -/

namespace MessageTemplate.Operator

/-- The argument that an operator cannot do without. -/
def required (operator : String) (argument : Option String) : Step String :=
  Step.require (.missingArgument operator) argument

/-- The chosen part, expanded. -/
def expandPart (site : Site) (choice : String) : Step Value := do
  let text ← site.expand choice
  return .string text

/-- The form of a count among one to three forms. A single form is the plural ending, two are
singular and plural, three are singular, dual and plural. -/
def pluralForm? (singular dual : Bool) (forms : List String) : Option String :=
  match forms with
  | [other] => some (if singular then "" else other)
  | [one, other] => some (if singular then one else other)
  | [one, two, other] => some (if singular then one else if dual then two else other)
  | _ => none

/-- Chooses a plural form as English does, where zero may count as one. -/
def pluralNamed (name summary : String) (zeroIsSingular : Bool) : Operator where
  name := name
  summary := summary
  apply site value argument := do
    let argument ← required name argument
    let number ← site.number value name
    let count := number.toFloat
    let singular := count == 1 || (zeroIsSingular && count == 0)
    let forms ← site.splitArgument argument
    let reason := "expected 1 to 3 forms, found " ++ toString forms.length
    let chosen ← Step.require (.invalidArgument name reason)
      (pluralForm? singular (count == 2) forms)
    expandPart site chosen

/-- Chooses a plural form as English does. -/
def plural : Operator :=
  pluralNamed "plural"
    "Choose plural:suffix, plural:singular;plural or plural:singular;dual;plural" false

/-- Chooses a plural form as French does, where zero is singular. -/
def pluraz : Operator :=
  pluralNamed "pluraz" "Like plural, but zero takes the singular form" true

/-- The plural rule that a text names by number. -/
def readRule? (text : String) : Option PluralRule :=
  match Decimal.readUnsigned 32 text.toList with
  | .ok number => PluralRule.ofNumber? number
  | .error _ => none

/-- Chooses a plural form by a numbered rule, in `plur:rule;form;form;…`. -/
def plur : Operator where
  name := "plur"
  summary := "Choose among forms with numbered plural rule 1-16: plur:rule;form;..."
  apply site value argument := do
    let argument ← required "plur" argument
    let parts ← site.splitArgument argument
    let ruleText := parts.headD ""
    let forms := parts.tail
    let rule ← Step.require
      (.invalidArgument "plur" ("unknown plural rule " ++ Text.quoted ruleText))
      (readRule? ruleText)
    if forms.isEmpty then
      Step.refuse (.invalidArgument "plur" "no plural forms given")
    let number ← site.number value "plur"
    let whole ← Step.require (.coercion "plur" .count) number.truncate?
    let count := whole.toInt.natAbs
    let index := rule.formIndex count
    match forms[index]? with
    | some form => expandPart site form
    | none => do
        Step.remark ("plural rule " ++ toString rule.number ++ " needs " ++
          toString rule.formCount ++ " forms but only " ++ toString forms.length ++ " given")
        Step.refuse (.invalidArgument "plur"
          ("no form at index " ++ toString index ++ " for count " ++ toString count))

/-- The one or two branches of an argument. -/
def branches (site : Site) (operator : String) (argument : Option String) :
    Step (String × Option String) := do
  let argument ← required operator argument
  let parts ← site.splitArgument argument
  match parts with
  | [whenTrue] => return (whenTrue, none)
  | [whenTrue, whenFalse] => return (whenTrue, some whenFalse)
  | _ =>
      Step.refuse (.invalidArgument operator
        ("expected at most 2 branches, found " ++ toString parts.length))

/-- The branch that the truth of a value chooses. A missing branch is empty. -/
def chosenBranch (site : Site) (operator : String) (value : Value)
    (argument : Option String) : Step String := do
  let (whenTrue, whenFalse) ← branches site operator argument
  let truth ← site.boolean value operator
  return if truth then whenTrue else whenFalse.getD ""

/-- Expands a branch, in `if:branch` or `if:branch;branch`. -/
def conditional : Operator where
  name := "if"
  summary := "Expand the first branch when the value is true, else the second"
  apply site value argument := do
    let chosen ← chosenBranch site "if" value argument
    expandPart site chosen

/-- Gives the value of a reference, in `ifuse:reference` or `ifuse:reference;reference`. -/
def conditionalUse : Operator where
  name := "ifuse"
  summary := "Use the value of the first named variable when true, else the second"
  apply site value argument := do
    let key ← chosenBranch site "ifuse" value argument
    if key = "" then return .string ""
    else Step.require (.unknownVariable "ifuse" key) (site.bindings.atKey? key)

/-- The item at an index, or the last where the index is out of range. -/
def itemAt (items : List String) (index : Option Int64) : String :=
  let last := items.length - 1
  let position :=
    match index with
    | some index => if 0 ≤ index.toInt ∧ index.toInt ≤ last then index.toInt.toNat else last
    | none => last
  items.getD position ""

/-- Expands the item at the index that a value is. -/
def select : Operator where
  name := "select"
  summary := "Expand the item at the value's index, or the last item when out of range"
  apply site value argument := do
    let argument ← required "select" argument
    let number ← site.number value "select"
    let items ← site.splitArgument argument
    expandPart site (itemAt items number.truncate?)

/-- Negates a truth value. -/
def negation : Operator where
  name := "not"
  summary := "Logical negation"
  apply site value _ := do
    let truth ← site.boolean value "not"
    return .bool (!truth)

/-- The choosing operators. -/
def choosing : List Operator :=
  [plural, pluraz, plur, conditional, conditionalUse, select, negation]

end MessageTemplate.Operator
