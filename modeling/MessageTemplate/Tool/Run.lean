import MessageTemplate.Tool.Commands

/-! # Running the tool

A run reads the command line, then the settings, and then carries out the command. -/

namespace MessageTemplate.Tool

/-- The help on the options of every command. -/
def sharedHelp : List String :=
  ["  -v, --verbose          Enable verbose output",
   "  -c, --config <CONFIG>  Path to configuration file",
   "      --no-color         Disable colored output",
   "  -h, --help             Print help"]

/-- The help on a command, or on the tool. -/
def help : Option String → List String
  | some "expand" =>
      ["Expand a template and print the result", "",
       "Usage: templet expand [OPTIONS] <TEMPLATE>", "",
       "Arguments:",
       "  <TEMPLATE>  Template text, or the key to translate with --localize", "",
       "Options:",
       "  -V, --var <VARS>               Template variable (name=value)",
       "  -p, --positional <POSITIONAL>  Positional argument for \x7b0\x7d, \x7b1\x7d, ...",
       "      --vars-file <VARS_FILE>    JSON or YAML file with an object of variables or an array of " ++
         "arguments",
       "  -t, --table <TABLE>            YAML translation table to load (repeatable)",
       "      --table-name <TABLE_NAME>  Table to load --table files into and look the template key " ++
         "up in",
       "      --scope <SCOPE>            Resource scope to load --table files into and look the " ++
         "template key up in",
       "      --localize                 Translate the template through the loaded tables first",
       "      --locale <LOCALE>          Locale tag such as en-US or de-DE",
       "      --diagnostics              Print diagnostics to stderr"] ++ sharedHelp
  | some "check" =>
      ["Check template syntax without expanding", "",
       "Usage: templet check [OPTIONS] <TEMPLATE>", "",
       "Arguments:",
       "  <TEMPLATE>  Template text to check", "",
       "Options:",
       "      --strict           Exit with an error when any problem is found"] ++ sharedHelp
  | some "operators" =>
      ["List the available operators", "",
       "Usage: templet operators [OPTIONS]", "",
       "Options:"] ++ sharedHelp
  | _ =>
      ["Expand localizable string templates with named substitutions and operators", "",
       "Usage: templet [OPTIONS] <COMMAND>", "",
       "Commands:",
       "  expand     Expand a template and print the result",
       "  check      Check template syntax without expanding",
       "  operators  List the available operators",
       "  help       Print this message or the help of the given subcommand(s)", "",
       "Options:"] ++ sharedHelp ++
      ["  -V, --version          Print version"]

/-- The complaint about a command line. -/
def UsageProblem.message : UsageProblem → String
  | unknownArgument argument => "error: unexpected argument '" ++ argument ++ "' found"
  | missingArgument argument => "error: a required argument was not provided: " ++ argument
  | repeatedOption option =>
      "error: the argument '--" ++ option ++ "' cannot be used multiple times"
  | missingValue option => "error: a value is required for '--" ++ option ++ "'"
  | unwantedValue option => "error: no value is expected for '--" ++ option ++ "'"
  | unknownCommand word => "error: unrecognized subcommand '" ++ word ++ "'"
  | missingCommand => "error: a subcommand is required"
  | nothingGiven => joinLines (help none)
  | helpAsked command => joinLines (help command)
  | versionAsked => "templet 0.1.0"

/-- The report on a command line that is not carried out. -/
def UsageProblem.report : UsageProblem → Report
  | helpAsked command => { output := joinLines (help command) }
  | versionAsked => { output := versionAsked.message ++ "\n" }
  | problem => { errors := problem.message ++ "\n", code := 2 }

variable {m : Type → Type} [Monad m]

/-- Runs the tool on the arguments behind its name. -/
def run (files : FileAccess m) (environment : Environment) (home : Option String)
    (arguments : List String) : m Report := do
  match Arguments.read arguments with
  | .error problem => return problem.report
  | .ok arguments =>
      match ← Settings.load files environment home arguments.config with
      | .error failure => return .ofFailure failure ""
      | .ok settings => carryOut files settings arguments.command

end MessageTemplate.Tool
