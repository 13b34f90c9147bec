import MessageTemplate.Operator.Basic

/-! # Inspecting operators

Operators for finding out what value a template was given. They never refuse. -/

namespace MessageTemplate.Operator

/-- The token of a value in hexadecimal. -/
def tokenText (value : Value) : String :=
  "0x" ++ String.ofList (Nat.toDigits 16 value.token)

/-- The token of a value. -/
def pointer : Operator where
  name := "pointer"
  summary := "Address of the value in hexadecimal"
  apply _ value _ := return .string (tokenText value)

/-- The kind and the token of a value. -/
def baseDescription : Operator where
  name := "basedesc"
  summary := "Type name and address, ignoring custom descriptions"
  apply _ value _ := return .string ("<" ++ value.typeName ++ ": " ++ tokenText value ++ ">")

/-- The description of a value. -/
def debugDescription : Operator where
  name := "debugdesc"
  summary := "Debug description of the value"
  apply _ value _ := return .string value.description

/-- The inspecting operators. -/
def inspecting : List Operator := [pointer, baseDescription, debugDescription]

end MessageTemplate.Operator
