import MessageTemplate.Template.Reference
import MessageTemplate.Text.Braces

/-! # Segments of a template

A template is a list of segments: literal text and substitutions. A substitution names a value and
the operators to apply to it, as in `{count|num:0.0|plural:s}`. Its text can be read and printed. -/

namespace MessageTemplate

open MessageTemplate.Text

/-- An operator and the text after its colon, if it has one. -/
structure OperatorCall where
  name : String
  argument : Option String
deriving DecidableEq, Repr, Inhabited

/-- A value reference and its pipeline of operators. -/
structure Substitution where
  /-- The whole text, braces included. -/
  source : String
  reference : Reference
  operators : List OperatorCall
deriving DecidableEq, Repr, Inhabited

/-- One part of a template. -/
inductive Segment where
  | literal (text : String)
  | substitution (substitution : Substitution)
deriving DecidableEq, Repr

/-- The template text of a segment. -/
def Segment.source : Segment → String
  | literal text => text
  | substitution part => part.source

/-- Why the text between two braces is not a substitution. -/
inductive GroupProblem where
  /-- The reference is neither an identifier nor a position. -/
  | reference (text : String)
  /-- The name of an operator is not an identifier. -/
  | operatorName (name : String)
deriving DecidableEq, Repr

/-- Separates the reference and the operators. -/
def operatorSeparator : Char := '|'

/-- Separates the name of an operator from its argument. -/
def argumentMark : Char := ':'

/-- Separates the parts of an argument. -/
def argumentSeparator : Char := ';'

/-- Reads the text of one operator: a name, or a name, a colon and an argument. -/
def OperatorCall.read (text : List Char) : Except GroupProblem OperatorCall :=
  let name := text.takeWhile (· != argumentMark)
  let argument :=
    match text.dropWhile (· != argumentMark) with
    | [] => none
    | _ :: argument => some (String.ofList argument)
  if Reference.isIdentifier name then .ok ⟨String.ofList name, argument⟩
  else .error (.operatorName (String.ofList name))

/-- The template text of an operator call. -/
def OperatorCall.write (call : OperatorCall) : List Char :=
  match call.argument with
  | none => call.name.toList
  | some argument => call.name.toList ++ argumentMark :: argument.toList

/-- Reads the text between two matching braces. -/
def Substitution.read (body : List Char) : Except GroupProblem Substitution :=
  match (splitBalanced operatorSeparator body).parts with
  | [] => .error (.reference "")
  | head :: stages =>
      match Reference.read? head with
      | none => .error (.reference (String.ofList head))
      | some reference => do
          let operators ← stages.mapM OperatorCall.read
          return ⟨String.ofList ('{' :: body ++ ['}']), reference, operators⟩

end MessageTemplate
