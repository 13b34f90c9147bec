import MessageTemplate.Decimal.Reading
import MessageTemplate.Failure

/-! # Failures of a command

Why a command that was understood could not be carried out. A failure is reported as a chain of
messages, from what was attempted to what went wrong. -/

namespace MessageTemplate.Tool

open MessageTemplate.Decimal

/-- The failures of a command. -/
inductive CommandFailure where
  /-- The library refused something. -/
  | refused (failure : Failure)
  /-- A table that the settings name cannot be loaded. -/
  | configuredTable (path : String) (failure : Failure)
  /-- A table that the command line names cannot be loaded. -/
  | extraTable (path : String) (failure : Failure)
  | unreadableSettings (problem : FileProblem)
  | malformedSettings
  /-- The depth limit in the environment is no whole number. -/
  | badDepthLimit (problem : IntegerProblem)
  /-- The switch in the environment is no truth value. -/
  | badSwitch
  | unreadableVariables (path : String) (problem : FileProblem)
  /-- A variables file is not YAML. -/
  | malformedVariables (path : String)
  /-- A variables file holds no bindings. -/
  | badVariables (path : String) (failure : Failure)
  /-- A named value is given without an equals sign. -/
  | notAssignment (text : String)
  /-- A template that is checked strictly has problems. -/
  | problemsFound (count : Nat)

/-- What lies behind a failure of the library, in words. -/
def causeMessages : Failure → List String
  | .unreadableTable _ problem => [problem.message]
  | .malformedTable _ => ["not a mapping of texts"]
  | .malformedYaml => ["not a document of the expected form"]
  | .malformedJson => ["not a JSON document"]
  | _ => []

namespace CommandFailure

/-- The messages of a failure, from what was attempted to what went wrong. -/
def messages : CommandFailure → List String
  | refused failure => failure.message :: causeMessages failure
  | configuredTable path failure =>
      ("Failed to load configured table " ++ path) :: failure.message :: causeMessages failure
  | extraTable path failure =>
      ("Failed to load table " ++ path) :: failure.message :: causeMessages failure
  | unreadableSettings problem => [problem.message]
  | malformedSettings => ["the settings file is not a document of the expected form"]
  | badDepthLimit problem => [problem.message]
  | badSwitch => ["provided string was not \x60true\x60 or \x60false\x60"]
  | unreadableVariables path problem =>
      ["Failed to read variables file " ++ path, problem.message]
  | malformedVariables path => ["Invalid YAML in " ++ path, "not a YAML document of JSON values"]
  | badVariables path failure =>
      ("Invalid variables file " ++ path) :: failure.message :: causeMessages failure
  | notAssignment text => ["Invalid variable format '" ++ text ++ "'. Expected 'name=value'"]
  | problemsFound count => ["Template has " ++ toString count ++ " problem(s)"]

/-- What was attempted. -/
def message (failure : CommandFailure) : String :=
  failure.messages.headD ""

/-- A cause on lines of its own, behind its number where there are several causes. -/
def reportCause (number : Option Nat) (cause : String) : String :=
  let (mark, margin) :=
    match number with
    | some number =>
        let digits := toString number
        ("".pushn ' ' (5 - digits.length) ++ digits ++ ": ", "       ")
    | none => ("    ", "    ")
  "\n" ++ mark ++ cause.replace "\n" ("\n" ++ margin)

/-- The report of a failure: its message, and then the causes behind it. -/
def report (failure : CommandFailure) : String :=
  let causes :=
    match failure.messages.tail with
    | [] => ""
    | [cause] => "\n\nCaused by:" ++ reportCause none cause
    | causes =>
        "\n\nCaused by:" ++ String.join (causes.zipIdx.map fun (cause, number) =>
          reportCause (some number) cause)
  "Error: " ++ failure.message ++ causes ++ "\n"

end CommandFailure

end MessageTemplate.Tool
