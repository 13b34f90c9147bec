import MessageTemplate.Bindings
import MessageTemplate.Json.Reading
import MessageTemplate.Tool.Arguments
import MessageTemplate.Tool.Settings
import MessageTemplate.Yaml.Views

/-! # Values from the command line

Bindings for `expand` come from four sources: the variables file, the positional values, the named
values, and the settings, whose values only fill in. -/

namespace MessageTemplate.Tool

open MessageTemplate.Decimal

/-- The value that a text on the command line stands for: a truth value, null, a whole number or a
finite decimal where it reads as one, and else itself. -/
def spelledValue (text : String) : Value :=
  match text with
  | "true" => .bool true
  | "false" => .bool false
  | "null" => .null
  | text =>
      match readInt64? text.toList with
      | some value => .int value
      | none =>
          match (readFloat? text.toList).filter isFinite with
          | some value => .float value
          | none => .string text

/-- The name before the first equals sign and the value behind it. -/
def readAssignment (text : String) : Except CommandFailure (String × Value) :=
  let name := text.toList.takeWhile (· != '=')
  match text.toList.dropWhile (· != '=') with
  | [] => .error (.notAssignment text)
  | _ :: value => .ok (String.ofList name, spelledValue (String.ofList value))

/-- The bindings that assignments make in turn. -/
def readAssignments (texts : List String) : Except CommandFailure Bindings := do
  return Bindings.empty.insertAll (← texts.mapM readAssignment)

/-- The end of a file name behind its last point. A point at the start of a name begins no end. -/
def extension? (path : String) : Option String :=
  let names := (FileTree.pathParts path).filter fun name => name ≠ [] ∧ name ≠ ['.']
  match names.getLast? with
  | none => none
  | some name =>
      let ending := (name.reverse.takeWhile (· != '.')).reverse
      let start := name.take (name.length - ending.length - 1)
      if name = ['.', '.'] ∨ start = [] then none else some (String.ofList ending)

/-- Whether a file is named as a YAML file. -/
def isYamlPath (path : String) : Bool :=
  extension? path == some "yaml" || extension? path == some "yml"

/-- The document in the text of a variables file, which is YAML if its name says so and else
JSON. -/
def readDocument (path text : String) : Except CommandFailure Json :=
  if isYamlPath path then
    match Yaml.readJson? text with
    | some document => .ok document
    | none => .error (.malformedVariables path)
  else
    match Json.read? text with
    | some document => .ok document
    | none => .error (.badVariables path .malformedJson)

/-- The bindings in the text of a variables file. -/
def readVariables (path text : String) : Except CommandFailure Bindings := do
  let document ← readDocument path text
  match Bindings.ofJson? document with
  | some bindings => return bindings
  | none => throw (.badVariables path (.notBindings document))

/-- The bindings of a request, given those of its variables file. Positional values follow the
file's; named values come next and replace the file's; the settings bind what is still free. -/
def collect (request : ExpandRequest) (settings : Settings) (fromFile : Bindings) :
    Except CommandFailure Bindings := do
  let positional := request.positional.foldl (fun held text => held.push (spelledValue text)) fromFile
  let assigned ← readAssignments request.assignments
  let named := positional.insertAll assigned.named
  return settings.templateVars.foldl
    (fun held default => held.insertNew default.1 (spelledValue default.2)) named

variable {m : Type → Type} [Monad m]

/-- The bindings in the variables file of a request, if it has one. -/
def loadVariables (files : FileAccess m) (request : ExpandRequest) :
    m (Except CommandFailure Bindings) := do
  match request.variablesFile with
  | none => return .ok .empty
  | some path =>
      match ← files.read path with
      | .error problem => return .error (.unreadableVariables path problem)
      | .ok text => return readVariables path text

/-- The bindings of a request. -/
def loadBindings (files : FileAccess m) (request : ExpandRequest) (settings : Settings) :
    m (Except CommandFailure Bindings) := do
  return (← loadVariables files request).bind (collect request settings)

end MessageTemplate.Tool
