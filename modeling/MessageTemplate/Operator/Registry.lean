import MessageTemplate.Entries
import MessageTemplate.Failure
import MessageTemplate.Operator.Choice
import MessageTemplate.Operator.Inspection
import MessageTemplate.Operator.Numeric
import MessageTemplate.Operator.Textual

/-! # The registry of operators

A registry holds operators by name. Each is put under its own name, which must be one that a
template can call, and a later operator takes the place of an earlier one of its name. -/

namespace MessageTemplate

/-- The operators that templates can call, with the names that they are called by. -/
structure Registry where
  entries : List (String × Operator) := []

namespace Registry

/-- A registry without operators. -/
def empty : Registry := {}

/-- The operator under a name. -/
def get? (registry : Registry) (name : String) : Option Operator :=
  registry.entries.lookup name

/-- Whether a name is registered. -/
def contains (registry : Registry) (name : String) : Bool :=
  (registry.get? name).isSome

/-- Puts an operator under its name, whatever the name. -/
def insert (registry : Registry) (operator : Operator) : Registry :=
  ⟨Entries.put operator.name operator registry.entries⟩

/-- Registers an operator, and tells which one it replaced. -/
def register (registry : Registry) (operator : Operator) :
    Except Failure (Registry × Option Operator) :=
  if Reference.isIdentifier operator.name.toList then
    .ok (registry.insert operator, registry.get? operator.name)
  else .error (.invalidOperatorName operator.name)

/-- The operators that come with the library. -/
def standardOperators : List Operator :=
  Operator.numeric ++ Operator.choosing ++ Operator.textual ++ Operator.inspecting

/-- The registry of the operators that come with the library. -/
def standard : Registry :=
  standardOperators.foldl insert empty

/-- How many operators are registered. -/
def size (registry : Registry) : Nat :=
  registry.entries.length

/-- Whether no operator is registered. -/
def isEmpty (registry : Registry) : Bool :=
  registry.entries.isEmpty

/-- The registered names in ascending order. -/
def names (registry : Registry) : List String :=
  (registry.entries.map Prod.fst).mergeSort fun left right => decide (left ≤ right)

/-- Applies the operator under a name. -/
def apply (registry : Registry) (name : String) (site : Site) (value : Value)
    (argument : Option String) : Step Value :=
  match registry.get? name with
  | some operator => operator.apply site value argument
  | none => Step.refuse (.unknownOperator name)

/-- A description for developers. -/
def description (registry : Registry) : String :=
  "OperatorRegistry \x7b operators: [" ++
    ", ".intercalate (registry.names.map Text.quoted) ++ "] \x7d"

end Registry

end MessageTemplate
