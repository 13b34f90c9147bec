import MessageTemplate.Tool.Variables

/-! # The commands of the tool

A command is carried out on files, settings and a request, and gives a report: what goes to the
output, what goes to the error output, and the exit code. -/

namespace MessageTemplate.Tool

/-- What a run of the tool leaves behind. -/
structure Report where
  output : String := ""
  errors : String := ""
  code : Nat := 0
deriving DecidableEq, Repr, Inhabited

/-- The report of a failure, behind what was put out before it. -/
def Report.ofFailure (failure : CommandFailure) (output : String) : Report :=
  { output, errors := failure.report, code := 1 }

/-- The text of lines. -/
def joinLines (lines : List String) : String :=
  String.join (lines.map (· ++ "\n"))

/-- A table file to load and the failure to report if that does not work. -/
structure TableLoad where
  source : TableSource
  failure : Failure → CommandFailure

/-- The tables to load for a request: first those of the settings. -/
def tableLoads (request : ExpandRequest) (settings : Settings) : List TableLoad :=
  settings.tables.map (fun source => ⟨source, .configuredTable source.path⟩) ++
    request.tables.map fun path =>
      ⟨⟨path, request.tableName, request.scope⟩, .extraTable path⟩

variable {m : Type → Type} [Monad m]

/-- Loads tables into a catalog up to the first failure. -/
def loadTables (files : FileAccess m) : Catalog → List TableLoad →
    m (Except CommandFailure Catalog)
  | catalog, [] => return .ok catalog
  | catalog, load :: rest => do
      let source := load.source
      match catalog.loadFile Yaml.readTexts? source.path (← files.read source.path) source.table
          source.scope with
      | .error failure => return .error (load.failure failure)
      | .ok (next, _) => loadTables files next rest

/-- The engine for a request. A locale on the command line counts before that of the settings. -/
def engineFor (files : FileAccess m) (request : ExpandRequest) (settings : Settings) :
    m (Except CommandFailure Engine) := do
  match Locale.ofTag (request.locale.getD settings.locale) with
  | .error failure => return .error (.refused failure)
  | .ok locale =>
      match ← loadTables files .empty (tableLoads request settings) with
      | .error failure => return .error failure
      | .ok catalog =>
          let translations := if catalog.isEmpty then none else some catalog.lookup
          return .ok { Engine.standard with
            locale, translations, options := settings.engineOptions }

/-- What `expand` works out. -/
structure Expanded where
  engine : Engine
  bindings : Bindings
  expansion : Expansion

/-- Carries out an `expand` request. -/
def expand (files : FileAccess m) (request : ExpandRequest) (settings : Settings) :
    m (Except CommandFailure Expanded) := do
  match ← engineFor files request settings with
  | .error failure => return .error failure
  | .ok engine =>
      match ← loadBindings files request settings with
      | .error failure => return .error failure
      | .ok bindings =>
          let template :=
            if request.localize then
              engine.localize request.template request.tableName request.scope
            else request.template
          return .ok { engine, bindings, expansion := engine.expand template bindings }

/-- The report of an `expand` request. Nothing is put out where the expansion breaks off. -/
def reportExpand (request : ExpandRequest) : Except CommandFailure Expanded → Report
  | .error failure => .ofFailure failure ""
  | .ok expanded =>
      if expanded.expansion.isBroken then
        { errors := Refusal.tooManyDigits.message ++ "\n", code := 101 }
      else
        { output := expanded.expansion.text ++ "\n"
          errors := if request.diagnostics then
              joinLines (expanded.expansion.diagnostics.map Diagnostic.display)
            else "" }

/-- The report of a `check`. -/
def reportCheck (template : String) (strict : Bool) : Report :=
  let diagnostics := Engine.standard.check template
  if diagnostics.isEmpty then { output := "Template is valid\n" }
  else
    let output := joinLines (diagnostics.map Diagnostic.display)
    if strict then .ofFailure (.problemsFound diagnostics.length) output else { output }

/-- A line on an operator. -/
def operatorLine (operator : Operator) : String :=
  operator.name.pushn ' ' (18 - operator.name.length) ++ " " ++ operator.summary

/-- The report of `operators`. -/
def reportOperators : Report :=
  let registry := Registry.standard
  { output := joinLines ((registry.names.filterMap registry.get?).map operatorLine) }

/-- Carries out a command. -/
def carryOut (files : FileAccess m) (settings : Settings) : Command → m Report
  | .expand request => return reportExpand request (← expand files request settings)
  | .check template strict => return reportCheck template strict
  | .operators => return reportOperators

end MessageTemplate.Tool
