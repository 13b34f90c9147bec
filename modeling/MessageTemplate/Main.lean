import MessageTemplate.Tool.Run

/-! # The program

Gives the tool the files, the environment and the arguments of the process. -/

namespace MessageTemplate

open MessageTemplate.Tool

/-- Why an input operation failed. -/
def fileProblem : IO.Error → FileProblem
  | .noFileOrDirectory .. => .missing
  | .inappropriateType .. => .notADirectory
  | .permissionDenied .. => .denied
  | .invalidArgument _ _ "name too long" => .nameTooLong
  | error => .other (toString error)

/-- The text of a file of the process. -/
def readTextFile (path : String) : IO (Except FileProblem String) := do
  if path.contains '\x00' then return .error .zeroInPath
  try
    let bytes ← IO.FS.readBinFile path
    match String.fromUTF8? bytes with
    | some text => return .ok text
    | none => return .error .notText
  catch error =>
    match error with
    | .inappropriateType _ 21 _ => return .error .isDirectory
    | error => return .error (fileProblem error)

/-- Whether a path of the process leads to something. -/
def pathIsPresent (path : String) : IO Bool := do
  match ← readTextFile path with
  | .error .missing | .error .notADirectory | .error .nameTooLong | .error .zeroInPath =>
      return false
  | _ => return true

/-- The files of the process. -/
def processFiles : FileAccess IO where
  read := readTextFile
  isPresent := pathIsPresent

/-- The variables of the environment that the tool reads. -/
def environmentNames : List String :=
  ["TEMPLET_LOCALE", "TEMPLET_MAX_DEPTH", "TEMPLET_SYNTAX_WARNINGS", "TEMPLET_LOG_LEVEL",
    "TEMPLET_LOG_FORMAT"]

end MessageTemplate

open MessageTemplate MessageTemplate.Tool

/-- Runs the tool in this process. -/
def main (arguments : List String) : IO UInt32 := do
  let held ← environmentNames.filterMapM fun name => do
    return (← IO.getEnv name).map fun value => (name, value)
  let home ← IO.getEnv "HOME"
  let report ← run processFiles (fun name => held.lookup name) home arguments
  IO.print report.output
  IO.eprint report.errors
  return report.code.toUInt32
