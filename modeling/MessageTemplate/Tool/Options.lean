/-! # Command line options

A command takes options, which start with hyphens, and words. What it takes is a value of
`CommandForm`; reading a command line against it gives the options and words in the order in which
they stand. The value of an option is settled when the next known option, the next word or the end of
the line shows that it is complete, so an unknown option right behind it is complained about first. -/

namespace MessageTemplate.Tool

/-- Why a command line is not carried out. -/
inductive UsageProblem where
  /-- An option or word that the command does not take. -/
  | unknownArgument (argument : String)
  /-- A word or an option that the command needs is not there. -/
  | missingArgument (argument : String)
  /-- An option that may stand once stands twice. -/
  | repeatedOption (option : String)
  /-- An option has no value, or an empty one where it needs a path. -/
  | missingValue (option : String)
  /-- An option that takes no value has one. -/
  | unwantedValue (option : String)
  | unknownCommand (word : String)
  | missingCommand
  /-- The command line is empty. -/
  | nothingGiven
  /-- Help is asked for, on a command if one is named. -/
  | helpAsked (command : Option String)
  | versionAsked
deriving DecidableEq, Repr

/-- What an option does. -/
inductive OptionKind where
  /-- Is on when it stands in the line. -/
  | switch
  /-- Takes a text. -/
  | text
  /-- Takes a path, which is not empty. -/
  | path
  /-- Asks for help. -/
  | help
  /-- Asks for the version. -/
  | version
deriving DecidableEq, Repr

/-- An option of a command. -/
structure OptionForm where
  long : String
  short : Option Char := none
  kind : OptionKind
  /-- Whether the option may stand more than once. -/
  repeatable : Bool := false
deriving DecidableEq, Repr

/-- Whether an option takes a value. -/
def OptionForm.takesValue (option : OptionForm) : Bool :=
  option.kind == .text || option.kind == .path

/-- What a command takes. -/
structure CommandForm where
  name : Option String
  options : List OptionForm
  /-- The names of the words. -/
  words : List String := []
  /-- The commands that may follow. -/
  commands : List String := []
deriving DecidableEq, Repr

/-- What has been read of a command line. -/
structure Gathered where
  /-- The settled options with their values. A switch has the value `true`. -/
  given : List (String × String) := []
  words : List String := []
  /-- The last option with its value, not settled yet. -/
  pending : Option (OptionForm × Option String) := none
  /-- Whether all that follows is a word. -/
  wordsOnly : Bool := false
deriving DecidableEq, Repr

namespace Gathered

/-- Whether an option was given. -/
def has (gathered : Gathered) (name : String) : Bool :=
  gathered.given.any (·.1 == name)

/-- The values of an option. -/
def values (gathered : Gathered) (name : String) : List String :=
  gathered.given.filterMap fun (option, value) => if option = name then some value else none

/-- The value of an option that stands at most once. -/
def value? (gathered : Gathered) (name : String) : Option String :=
  gathered.given.lookup name

/-- Takes an option with its value. -/
def accept (gathered : Gathered) (option : OptionForm) (value : String) :
    Except UsageProblem Gathered :=
  if !option.repeatable && gathered.has option.long then .error (.repeatedOption option.long)
  else if option.kind = .path ∧ value = "" then .error (.missingValue option.long)
  else .ok { gathered with given := gathered.given ++ [(option.long, value)] }

/-- Settles the last option. -/
def settle (gathered : Gathered) : Except UsageProblem Gathered :=
  match gathered.pending with
  | none => .ok gathered
  | some (option, none) => .error (.missingValue option.long)
  | some (option, some value) => { gathered with pending := none }.accept option value

/-- Takes an option with a value behind an equals sign or attached to its letter. -/
def attach (gathered : Gathered) (option : OptionForm) (value : String) :
    Except UsageProblem Gathered := do
  (← gathered.settle).accept option value

/-- Takes an option whose value is the next argument. -/
def await (gathered : Gathered) (option : OptionForm) : Except UsageProblem Gathered := do
  return { ← gathered.settle with pending := some (option, none) }

/-- Takes an option without a value. -/
def activate (gathered : Gathered) (form : CommandForm) (option : OptionForm) :
    Except UsageProblem Gathered := do
  let settled ← gathered.settle
  match option.kind with
  | .help => throw (.helpAsked form.name)
  | .version => throw .versionAsked
  | _ => settled.accept option "true"

/-- Takes a long option, given without its hyphens. -/
def takeLong (gathered : Gathered) (form : CommandForm) (name : String)
    (value : Option String) : Except UsageProblem Gathered :=
  match form.options.find? (·.long == name) with
  | none => .error (.unknownArgument ("--" ++ name))
  | some option =>
      match option.takesValue, value with
      | true, some value => gathered.attach option value
      | true, none => gathered.await option
      | false, some _ => .error (.unwantedValue name)
      | false, none => gathered.activate form option

/-- Takes options that are given by their letters behind one hyphen. What follows the letter of an
option with a value is that value. -/
def takeLetters (gathered : Gathered) (form : CommandForm) : List Char →
    Except UsageProblem Gathered
  | [] => .ok gathered
  | letter :: rest =>
      match form.options.find? (·.short == some letter) with
      | none => .error (.unknownArgument (String.ofList ['-', letter]))
      | some option =>
          if option.takesValue then
            match rest with
            | [] => gathered.await option
            | '=' :: value => gathered.attach option (String.ofList value)
            | value => gathered.attach option (String.ofList value)
          else do
            let next ← gathered.activate form option
            next.takeLetters form rest

/-- The problem of a word that a command has no place for. -/
def wordProblem (form : CommandForm) (wordsOnly : Bool) (word : String) : UsageProblem :=
  if form.commands.isEmpty || (wordsOnly && form.commands.contains word) then
    .unknownArgument word
  else .unknownCommand word

/-- Takes a word. -/
def takeWord (gathered : Gathered) (form : CommandForm) (word : String) :
    Except UsageProblem Gathered :=
  if gathered.words.length < form.words.length then do
    let settled ← gathered.settle
    return { settled with words := settled.words ++ [word] }
  else .error (wordProblem form gathered.wordsOnly word)

/-- The option that waits for its value. -/
def awaiting? (gathered : Gathered) : Option OptionForm :=
  match gathered.pending with
  | some (option, none) => some option
  | _ => none

/-- Takes an argument that is neither a word by force nor a command. -/
def take (gathered : Gathered) (form : CommandForm) (argument : String) :
    Except UsageProblem Gathered :=
  match argument.toList with
  | ['-', '-'] => .ok { gathered with wordsOnly := true }
  | '-' :: '-' :: long =>
      let name := String.ofList (long.takeWhile (· != '='))
      match long.dropWhile (· != '=') with
      | [] => gathered.takeLong form name none
      | _ :: value => gathered.takeLong form name (some (String.ofList value))
  | '-' :: letter :: rest => gathered.takeLetters form (letter :: rest)
  | _ =>
      match gathered.awaiting? with
      | some option => .ok { gathered with pending := some (option, some argument) }
      | none => gathered.takeWord form argument

end Gathered

/-- Reads arguments up to the end or up to a command, which is given with the arguments behind it.
The last option is not settled yet. -/
def CommandForm.read (form : CommandForm) (gathered : Gathered) :
    List String → Except UsageProblem (Gathered × Option (String × List String))
  | [] => .ok (gathered, none)
  | argument :: rest =>
      if gathered.wordsOnly then do
        form.read (← gathered.takeWord form argument) rest
      else if gathered.awaiting?.isNone && form.commands.contains argument then
        .ok (gathered, some (argument, rest))
      else do
        form.read (← gathered.take form argument) rest

end MessageTemplate.Tool
