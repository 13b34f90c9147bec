import MessageTemplate.Text.Quoted

/-! # Refusals

Why an operator gives no value. A refusal ends one stage of a pipeline and never the expansion, but
for one: a number with too many fraction digits breaks the whole expansion off. -/

namespace MessageTemplate

/-- The value forms that an operator may ask for in vain. -/
inductive Demand where
  | string
  | number
  | boolean
  | count
deriving DecidableEq, Repr

/-- The name of a demanded form. -/
def Demand.name : Demand → String
  | string => "string"
  | number => "number"
  | boolean => "boolean"
  | count => "count"

/-- The causes for which an operator gives no value. -/
inductive Refusal where
  | unknownOperator (name : String)
  | missingArgument (operator : String)
  | invalidArgument (operator reason : String)
  | coercion (operator : String) (demand : Demand)
  | unknownVariable (operator name : String)
  | recursionLimit (limit : Nat)
  | failed (operator message : String)
  /-- Not a refusal of the operator: the program breaks off while a number is formatted. -/
  | tooManyDigits
deriving DecidableEq, Repr

/-- The wording of a refusal. -/
def Refusal.message : Refusal → String
  | unknownOperator name => "Unknown operator: " ++ name
  | missingArgument operator => "Operator '" ++ operator ++ "' requires an argument"
  | invalidArgument operator reason =>
      "Invalid argument for '" ++ operator ++ "': " ++ reason
  | coercion operator demand =>
      "Operator '" ++ operator ++ "' could not coerce value to " ++ demand.name
  | unknownVariable operator name =>
      "Operator '" ++ operator ++ "' references unknown variable '" ++ name ++ "'"
  | recursionLimit limit => "Template recursion limit of " ++ toString limit ++ " exceeded"
  | failed operator message => "Operator '" ++ operator ++ "' failed: " ++ message
  | tooManyDigits => "Formatting argument out of range"

end MessageTemplate
