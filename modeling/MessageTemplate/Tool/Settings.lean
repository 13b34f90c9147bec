import MessageTemplate.Catalog
import MessageTemplate.Engine
import MessageTemplate.Tool.CommandFailure
import MessageTemplate.Tool.Files
import MessageTemplate.Yaml.Views

/-! # Settings of the tool

Settings come from a YAML file, and after that from the environment. A field that the file leaves
out has its default, and a field of another name is ignored. -/

namespace MessageTemplate.Tool

open MessageTemplate.Decimal
open MessageTemplate.Yaml (Node NodeReader)

/-- A file of translations and the table and scope it is loaded into. -/
structure TableSource where
  path : String
  table : Option String := none
  scope : Option String := none
deriving DecidableEq, Repr

/-- What is logged, and in what form. -/
structure Logging where
  level : String := "info"
  format : String := "pretty"
deriving DecidableEq, Repr

/-- The settings of the tool. -/
structure Settings where
  locale : String := "en-US"
  /-- Whether syntax problems are logged as warnings, if that is settled. -/
  syntaxWarnings : Option Bool := none
  maxDepth : Nat := 32
  tables : List TableSource := []
  /-- Values of names that nothing else binds. -/
  templateVars : List (String × String) := []
  logging : Logging := {}
deriving DecidableEq, Repr, Inhabited

/-- The variables of the environment. -/
abbrev Environment := String → Option String

/-- The value of a field that may be left out. A field that stands twice is refused. -/
def optionalField? (fields : List (String × Node)) (name : String) : Option (Option Node) :=
  match fields.filter (·.1 == name) with
  | [] => some none
  | [(_, node)] => some (some node)
  | _ => none

/-- Reads a field that may be left out. -/
def readField (fields : List (String × Node)) (name : String) (default : α)
    (read : Node → NodeReader α) : NodeReader α := do
  match ← optionalField? fields name with
  | some node => read node
  | none => return default

/-- The fields of a mapping by name. -/
def readFields (node : Node) : NodeReader (List (String × Node)) := do
  (← node.entries).mapM fun (key, value) => return (← key.text, value)

/-- Reads a table source, whose path must be there. -/
def TableSource.ofNode (node : Node) : NodeReader TableSource := do
  let fields ← readFields node
  let path ← readField fields "path" none fun node => some <$> node.text
  let table ← readField fields "table" none (Node.optional Node.text)
  let scope ← readField fields "scope" none (Node.optional Node.text)
  return { path := ← path, table, scope }

/-- Reads what is logged. Both fields must be there. -/
def Logging.ofNode (node : Node) : NodeReader Logging := do
  let fields ← readFields node
  let level ← readField fields "level" none fun node => some <$> node.text
  let format ← readField fields "format" none fun node => some <$> node.text
  return { level := ← level, format := ← format }

namespace Settings

/-- Reads settings. -/
def ofNode (node : Node) : NodeReader Settings := do
  let fields ← readFields node
  let defaults : Settings := {}
  let locale ← readField fields "locale" defaults.locale Node.text
  let syntaxWarnings ← readField fields "syntax_warnings" none (Node.optional Node.bool)
  let maxDepth ← readField fields "max_depth" defaults.maxDepth Node.natural
  let tables ← readField fields "tables" [] fun node => do
    (← node.items).mapM TableSource.ofNode
  let templateVars ← readField fields "template_vars" [] fun node =>
    Entries.ofPairs <$> node.texts
  let logging ← readField fields "logging" {} Logging.ofNode
  return { locale, syntaxWarnings, maxDepth, tables, templateVars, logging }

/-- The settings that a YAML text describes. -/
def read? (text : String) : Option Settings := do
  match ← Yaml.read? text with
  | some document => document.read? ofNode
  | none => return {}

/-- The settings of an engine. -/
def engineOptions (settings : Settings) : Engine.Options :=
  { syntaxWarnings := settings.syntaxWarnings.getD ({} : Engine.Options).syntaxWarnings
    maxDepth := settings.maxDepth }

/-- The depth limit that a text states. -/
def readDepthLimit (text : String) : Except CommandFailure Nat :=
  match readUnsigned 64 text.toList with
  | .ok depth => .ok depth
  | .error problem => .error (.badDepthLimit problem)

/-- The truth value that a text states. -/
def readSwitch (text : String) : Except CommandFailure Bool :=
  if text = "true" then .ok true
  else if text = "false" then .ok false
  else .error .badSwitch

/-- The settings with what the environment says in place of what they say. -/
def withEnvironment (settings : Settings) (environment : Environment) :
    Except CommandFailure Settings := do
  let maxDepth ←
    match environment "TEMPLET_MAX_DEPTH" with
    | some text => readDepthLimit text
    | none => pure settings.maxDepth
  let syntaxWarnings ←
    match environment "TEMPLET_SYNTAX_WARNINGS" with
    | some text => some <$> readSwitch text
    | none => pure settings.syntaxWarnings
  return { settings with
    locale := (environment "TEMPLET_LOCALE").getD settings.locale
    maxDepth
    syntaxWarnings
    logging := {
      level := (environment "TEMPLET_LOG_LEVEL").getD settings.logging.level
      format := (environment "TEMPLET_LOG_FORMAT").getD settings.logging.format } }

/-- Where settings are looked for, in this order, if no file is named. -/
def defaultPaths (home : Option String) : List String :=
  let here := ["templet.yaml", "templet.yml", ".templet.yaml", ".templet.yml"]
  match home with
  | some directory => here ++ [directory ++ "/.templet/config.yaml"]
  | none => here

variable {m : Type → Type} [Monad m]

/-- The first path that leads to something. -/
def firstPresent (files : FileAccess m) : List String → m (Option String)
  | [] => return none
  | path :: rest => do
      if ← files.isPresent path then return some path
      else firstPresent files rest

/-- The settings in a file. -/
def loadFile (files : FileAccess m) (path : String) : m (Except CommandFailure Settings) := do
  match ← files.read path with
  | .error problem => return .error (.unreadableSettings problem)
  | .ok text =>
      match read? text with
      | some settings => return .ok settings
      | none => return .error .malformedSettings

/-- The settings in the file that is named, or else in the first file found. Where there is no file
they are the defaults. The environment has the last word. -/
def load (files : FileAccess m) (environment : Environment) (home : Option String)
    (path : Option String) : m (Except CommandFailure Settings) := do
  let paths :=
    match path with
    | some path => [path]
    | none => defaultPaths home
  let loaded ←
    match ← firstPresent files paths with
    | some path => loadFile files path
    | none => pure (.ok {})
  return loaded.bind fun settings => settings.withEnvironment environment

end Settings

end MessageTemplate.Tool
