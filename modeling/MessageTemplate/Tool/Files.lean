import MessageTemplate.Failure
import MessageTemplate.Text.Offset
import MessageTemplate.Text.Parts

/-! # Files

The tool reads files through `FileAccess`, in whatever monad the files are in. A `FileTree` holds
files in memory; paths in it start from its top directory. A path may lead out of the tree, where
nothing is known but the directories around it. -/

namespace MessageTemplate.Tool

/-- Reading files in a monad. -/
structure FileAccess (m : Type → Type) where
  /-- The text of a file. -/
  read : String → m (Except FileProblem String)
  /-- Whether a path leads to a file or a directory. -/
  isPresent : String → m Bool

/-- Files in memory by the names on the way to them. The directories on the way exist as well. -/
structure FileTree where
  files : List (List String × String) := []
deriving DecidableEq, Repr

/-- A place that a path has led to. -/
inductive FilePlace where
  /-- A directory around the top directory of the tree. -/
  | around
  /-- The end of a way from the top directory, by the names on it. -/
  | inside (names : List String)
deriving DecidableEq, Repr

/-- What a path leads to. -/
inductive FileEntry where
  | file (text : String)
  | directory
  | nothing
deriving DecidableEq, Repr

namespace FileTree

/-- The parts of a path between its slashes. -/
def pathParts (path : String) : List (List Char) :=
  Text.parts '/' path.toList

/-- Adds a file. A later file of the same path counts. -/
def insert (tree : FileTree) (path text : String) : FileTree :=
  let names := (pathParts path).map String.ofList
  ⟨(names.filter fun name => name != "" && name != ".", text) :: tree.files⟩

/-- The tree of files given by path and text. -/
def ofFiles (files : List (String × String)) : FileTree :=
  files.foldl (fun tree file => tree.insert file.1 file.2) {}

/-- What there is in a place. -/
def entry (tree : FileTree) : FilePlace → FileEntry
  | .around => .directory
  | .inside names =>
      match tree.files.lookup names with
      | some text => .file text
      | none =>
          if names.isEmpty || tree.files.any (fun file => names.isPrefixOf file.1) then .directory
          else .nothing

/-- The number of bytes that a name may have. -/
def nameLimit : Nat := 255

/-- The number of bytes that a path may have. -/
def pathLimit : Nat := 4095

/-- Follows the parts of a path from a directory. -/
def follow (tree : FileTree) (place : FilePlace) :
    List (List Char) → Except FileProblem FileEntry
  | [] => .ok (tree.entry place)
  | part :: rest =>
      match tree.entry place with
      | .nothing => .error .missing
      | .file _ => .error .notADirectory
      | .directory =>
          if part = [] ∨ part = ['.'] then tree.follow place rest
          else if part = ['.', '.'] then
            match place with
            | .around | .inside [] => tree.follow .around rest
            | .inside names => tree.follow (.inside names.dropLast) rest
          else if nameLimit < Text.byteLength part then .error .nameTooLong
          else
            match place with
            | .around => .error .missing
            | .inside names => tree.follow (.inside (names ++ [String.ofList part])) rest

/-- What a path leads to. -/
def find (tree : FileTree) (path : String) : Except FileProblem FileEntry :=
  if path.contains '\x00' then .error .zeroInPath
  else if path = "" then .error .missing
  else if pathLimit < Text.byteLength path.toList then .error .nameTooLong
  else tree.follow (if path.startsWith "/" then .around else .inside []) (pathParts path)

/-- The text of the file that a path leads to. -/
def read (tree : FileTree) (path : String) : Except FileProblem String := do
  match ← tree.find path with
  | .file text => return text
  | .directory => throw .isDirectory
  | .nothing => throw .missing

/-- Whether a path leads to a file or a directory. -/
def isPresent (tree : FileTree) (path : String) : Bool :=
  match tree.find path with
  | .ok (.file _) | .ok .directory => true
  | _ => false

/-- The tree as files to read. -/
def access (tree : FileTree) : FileAccess Id where
  read path := pure (tree.read path)
  isPresent path := pure (tree.isPresent path)

end FileTree

end MessageTemplate.Tool
