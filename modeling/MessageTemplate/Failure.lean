import MessageTemplate.Json.Basic
import MessageTemplate.Text.Quoted

/-! # Failures

What the library refuses at its boundary: names, tags, documents and files given to it. Expansion
itself never fails in these ways. -/

namespace MessageTemplate

/-- Why a file gave no text. -/
inductive FileProblem where
  | missing
  | isDirectory
  | notADirectory
  | nameTooLong
  | denied
  | notText
  | zeroInPath
  | other (message : String)
deriving DecidableEq, Repr

/-- The wording of a file problem. -/
def FileProblem.message : FileProblem → String
  | missing => "No such file or directory (os error 2)"
  | isDirectory => "Is a directory (os error 21)"
  | notADirectory => "Not a directory (os error 20)"
  | nameTooLong => "File name too long (os error 36)"
  | denied => "Permission denied (os error 13)"
  | notText => "stream did not contain valid UTF-8"
  | zeroInPath => "file name contained an unexpected NUL byte"
  | other message => message

/-- The failures of the library. -/
inductive Failure where
  /-- An operator's name is not an identifier. -/
  | invalidOperatorName (name : String)
  /-- No locale has the tag. -/
  | unknownLocale (tag : String)
  /-- A table file cannot be read. -/
  | unreadableTable (path : String) (problem : FileProblem)
  /-- A table file does not map texts to texts. -/
  | malformedTable (path : String)
  /-- A document for bindings is neither an object nor an array. -/
  | notBindings (found : Json)
  /-- A text is not YAML of the form asked for. -/
  | malformedYaml
  /-- A text is not JSON. -/
  | malformedJson

/-- The wording of a failure. -/
def Failure.message : Failure → String
  | invalidOperatorName name => "Invalid operator name: " ++ Text.quoted name
  | unknownLocale tag => "Unknown locale: " ++ tag
  | unreadableTable path problem =>
      "Failed to read string table " ++ path ++ ": " ++ problem.message
  | malformedTable path => "Invalid string table " ++ path ++ ": not a mapping of texts"
  | notBindings found =>
      "Invalid variable set: expected an object or array, found " ++ found.compact
  | malformedYaml => "YAML error: not a document of the expected form"
  | malformedJson => "JSON error: not a JSON document"

end MessageTemplate
