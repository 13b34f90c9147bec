import MessageTemplate.Operator.Refusal
import MessageTemplate.Text.Quoted

/-! # Diagnostics

What went wrong while a template was read or expanded. A diagnostic keeps the cause; its kind, its
wording and its display are functions of the cause. -/

namespace MessageTemplate

open MessageTemplate.Text

/-- The classes of problems. -/
inductive DiagnosticKind where
  | unbalancedBrace
  | unterminatedSubstitution
  | invalidReference
  | invalidOperatorName
  | unresolvedReference
  | unknownOperator
  | operatorFailed
  | operatorWarning
  | recursionLimit
deriving DecidableEq, Repr

namespace DiagnosticKind

/-- Whether a kind is found by reading the template alone. -/
def isSyntax : DiagnosticKind → Bool
  | unbalancedBrace | unterminatedSubstitution | invalidReference | invalidOperatorName => true
  | _ => false

/-- The words that open a displayed diagnostic. -/
def label : DiagnosticKind → String
  | unbalancedBrace => "unbalanced brace"
  | unterminatedSubstitution => "unterminated substitution"
  | invalidReference => "invalid reference"
  | invalidOperatorName => "invalid operator name"
  | unresolvedReference => "unresolved reference"
  | unknownOperator => "unknown operator"
  | operatorFailed => "operator failed"
  | operatorWarning => "operator warning"
  | recursionLimit => "recursion limit"

end DiagnosticKind

/-- The causes of diagnostics. -/
inductive Problem where
  /-- A closing brace of the template that closes nothing. -/
  | strayBrace
  /-- A closing brace of an operator's argument that closes nothing. -/
  | strayBraceInArgument (argument : String)
  /-- An opening brace without its closing brace, with the text from it on. -/
  | unclosedGroup (text : String)
  /-- A group whose reference contains a blank. -/
  | blankInReference (group : String)
  /-- A group whose reference is neither an identifier nor a position. -/
  | notAReference (group : String)
  /-- A group with an operator whose name is not an identifier. -/
  | badOperatorName (name group : String)
  /-- A substitution whose reference is bound to nothing. -/
  | unboundReference (source : String)
  /-- A call of an operator that is not registered. -/
  | noSuchOperator (name : String)
  /-- An operator that refused its value or its argument. -/
  | refused (refusal : Refusal)
  /-- A remark of an operator that goes on. -/
  | remark (text : String)
  /-- A fragment nested more deeply than the limit allows. -/
  | tooDeep (fragment : String) (limit : Nat)
deriving DecidableEq, Repr

namespace Problem

/-- The class that a cause belongs to. -/
def kind : Problem → DiagnosticKind
  | strayBrace | strayBraceInArgument _ => .unbalancedBrace
  | unclosedGroup _ => .unterminatedSubstitution
  | blankInReference _ | notAReference _ => .invalidReference
  | badOperatorName _ _ => .invalidOperatorName
  | unboundReference _ => .unresolvedReference
  | noSuchOperator _ => .unknownOperator
  | refused _ => .operatorFailed
  | remark _ => .operatorWarning
  | tooDeep _ _ => .recursionLimit

/-- The wording of a cause. -/
def message : Problem → String
  | strayBrace => "'\x7d' without matching '\x7b'"
  | strayBraceInArgument argument =>
      "'\x7d' without matching '\x7b' in argument " ++ quoted argument
  | unclosedGroup text => "no closing '\x7d' for " ++ quoted text
  | blankInReference group => "whitespace is not allowed in reference " ++ quoted group
  | notAReference group => quoted group ++ " is not a variable name or index"
  | badOperatorName name group => "invalid operator " ++ quoted name ++ " in " ++ quoted group
  | unboundReference source => "no variable for " ++ source
  | noSuchOperator name => "no operator named '" ++ name ++ "'"
  | refused refusal => refusal.message
  | remark text => text
  | tooDeep fragment limit =>
      "not expanding " ++ quoted fragment ++ " beyond depth " ++ toString limit

end Problem

/-- A problem and the byte offset it was met at, where that is known. -/
structure Diagnostic where
  problem : Problem
  offset : Option Nat
deriving DecidableEq, Repr

namespace Diagnostic

/-- The class of the problem. -/
def kind (diagnostic : Diagnostic) : DiagnosticKind :=
  diagnostic.problem.kind

/-- The wording of the problem. -/
def message (diagnostic : Diagnostic) : String :=
  diagnostic.problem.message

/-- The label, the place and the wording in one line. -/
def display (diagnostic : Diagnostic) : String :=
  match diagnostic.offset with
  | some offset =>
      diagnostic.kind.label ++ " at byte " ++ toString offset ++ ": " ++ diagnostic.message
  | none => diagnostic.kind.label ++ ": " ++ diagnostic.message

end Diagnostic

end MessageTemplate
