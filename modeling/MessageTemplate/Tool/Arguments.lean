import MessageTemplate.Tool.Options

/-! # The tool's command line

`expand` expands a template, `check` reads one and lists its problems, and `operators` lists what
templates can call. The options for verbosity, colour and the settings file may stand before or
behind the command; what stands behind it counts. -/

namespace MessageTemplate.Tool

/-- What `expand` is asked to do. -/
structure ExpandRequest where
  /-- The template, or the key of one. -/
  template : String := ""
  /-- Named values as `name=value`. -/
  assignments : List String := []
  /-- Values by position. -/
  positional : List String := []
  /-- A file with values. -/
  variablesFile : Option String := none
  /-- Files with translations. -/
  tables : List String := []
  tableName : Option String := none
  scope : Option String := none
  /-- Whether the template is a key to look up. -/
  localize : Bool := false
  locale : Option String := none
  /-- Whether the diagnostics are shown. -/
  diagnostics : Bool := false
deriving DecidableEq, Repr, Inhabited

/-- What the tool is asked to do. -/
inductive Command where
  | expand (request : ExpandRequest)
  | check (template : String) (strict : Bool)
  | operators
deriving DecidableEq, Repr

/-- A command line that has been read. -/
structure Arguments where
  command : Command
  verbose : Bool
  /-- The settings file. -/
  config : Option String
  noColor : Bool
deriving DecidableEq, Repr

namespace Arguments

/-- The options that every command takes. -/
def sharedOptions : List OptionForm :=
  [{ long := "verbose", short := some 'v', kind := .switch },
   { long := "config", short := some 'c', kind := .path },
   { long := "no-color", kind := .switch },
   { long := "help", short := some 'h', kind := .help }]

/-- The tool itself, which takes a command. -/
def toolForm : CommandForm where
  name := none
  options := sharedOptions ++ [{ long := "version", short := some 'V', kind := .version }]
  commands := ["expand", "check", "operators", "help"]

/-- What `expand` takes. -/
def expandForm : CommandForm where
  name := some "expand"
  options :=
    [{ long := "var", short := some 'V', kind := .text, repeatable := true },
     { long := "positional", short := some 'p', kind := .text, repeatable := true },
     { long := "vars-file", kind := .path },
     { long := "table", short := some 't', kind := .path, repeatable := true },
     { long := "table-name", kind := .text },
     { long := "scope", kind := .text },
     { long := "localize", kind := .switch },
     { long := "locale", kind := .text },
     { long := "diagnostics", kind := .switch }] ++ sharedOptions
  words := ["template"]

/-- What `check` takes. -/
def checkForm : CommandForm where
  name := some "check"
  options := { long := "strict", kind := .switch } :: sharedOptions
  words := ["template"]

/-- What `operators` takes. -/
def operatorsForm : CommandForm where
  name := some "operators"
  options := sharedOptions

/-- Reads a whole line of a command that no other command follows. -/
def readCommand (form : CommandForm) (arguments : List String) :
    Except UsageProblem Gathered := do
  let (gathered, _) ← form.read {} arguments
  gathered.settle

/-- The only word of a command. -/
def onlyWord (form : CommandForm) (gathered : Gathered) : Except UsageProblem String :=
  match gathered.words with
  | word :: _ => .ok word
  | [] => .error (.missingArgument (form.words.headD ""))

/-- The request of an `expand` line. A table or a scope can only be named for a look-up. -/
def readExpand (arguments : List String) : Except UsageProblem (Gathered × Command) := do
  let gathered ← readCommand expandForm arguments
  let template ← onlyWord expandForm gathered
  if (gathered.has "table-name" || gathered.has "scope") && !gathered.has "localize" then
    throw (.missingArgument "--localize")
  return (gathered, .expand {
    template
    assignments := gathered.values "var"
    positional := gathered.values "positional"
    variablesFile := gathered.value? "vars-file"
    tables := gathered.values "table"
    tableName := gathered.value? "table-name"
    scope := gathered.value? "scope"
    localize := gathered.has "localize"
    locale := gathered.value? "locale"
    diagnostics := gathered.has "diagnostics" })

/-- The request of a `check` line. -/
def readCheck (arguments : List String) : Except UsageProblem (Gathered × Command) := do
  let gathered ← readCommand checkForm arguments
  let template ← onlyWord checkForm gathered
  return (gathered, .check template (gathered.has "strict"))

/-- The request of an `operators` line. -/
def readOperators (arguments : List String) : Except UsageProblem (Gathered × Command) := do
  return (← readCommand operatorsForm arguments, .operators)

/-- What is asked for by a `help` line: help on the tool or on one of its commands. -/
def helpProblem : List String → UsageProblem
  | [] => .helpAsked none
  | [command] =>
      if toolForm.commands.contains command then .helpAsked (some command)
      else .unknownCommand command
  | command :: word :: _ =>
      .unknownCommand (if toolForm.commands.contains command then word else command)

/-- Reads the line of a command. -/
def readNamed (command : String) (arguments : List String) :
    Except UsageProblem (Gathered × Command) :=
  match command with
  | "expand" => readExpand arguments
  | "check" => readCheck arguments
  | "operators" => readOperators arguments
  | _ => .error (helpProblem arguments)

/-- Reads the arguments behind the tool's name. -/
def read (arguments : List String) : Except UsageProblem Arguments := do
  match ← toolForm.read {} arguments with
  | (outer, none) =>
      let outer ← outer.settle
      throw (if outer.given.isEmpty then .nothingGiven else .missingCommand)
  | (outer, some (name, rest)) =>
      let (inner, command) ← readNamed name rest
      let outer ← outer.settle
      return {
        command
        verbose := outer.has "verbose" || inner.has "verbose"
        config := inner.value? "config" <|> outer.value? "config"
        noColor := outer.has "no-color" || inner.has "no-color" }

end Arguments

end MessageTemplate.Tool
