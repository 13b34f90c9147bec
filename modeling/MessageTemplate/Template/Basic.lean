import MessageTemplate.Character.Blank
import MessageTemplate.Template.Diagnostic
import MessageTemplate.Template.Piece
import MessageTemplate.Template.Segment

/-! # Templates

Reading a template never fails. A group that is no substitution stays in the output as literal text
and is described by a diagnostic, as is every brace without its partner. -/

namespace MessageTemplate

open MessageTemplate.Text

/-- A template that has been read. -/
structure Template where
  source : String
  segments : List Segment
  diagnostics : List Diagnostic
deriving DecidableEq, Repr

namespace Template

/-- The problem that keeps a group from being a substitution. -/
def groupProblem (body : List Char) : GroupProblem → Problem
  | .reference text =>
      let group := String.ofList (Piece.group body).source
      if text.toList.any Character.isBlank then .blankInReference group else .notAReference group
  | .operatorName name => .badOperatorName name (String.ofList (Piece.group body).source)

/-- What a piece stands for: text, with the problem that makes it text, or a substitution. -/
inductive Meaning where
  | text (problem : Option Problem)
  | substitution (substitution : Substitution)

/-- Reads a piece. -/
def meaning : Piece → Meaning
  | .plain _ => .text none
  | .stray => .text (some .strayBrace)
  | .unclosed rest => .text (some (.unclosedGroup (String.ofList ('{' :: rest))))
  | .group body =>
      match Substitution.read body with
      | .ok substitution => .substitution substitution
      | .error problem => .text (some (groupProblem body problem))

/-- Puts literal text in front of segments. Empty text is left out. -/
def withLiteral (text : List Char) (segments : List Segment) : List Segment :=
  if text.isEmpty then segments else .literal (String.ofList text) :: segments

/-- Adds a piece in front of literal text and the segments after that text. -/
def addPiece (piece : Piece) (later : List Char × List Segment) : List Char × List Segment :=
  match meaning piece with
  | .substitution substitution => ([], .substitution substitution :: withLiteral later.1 later.2)
  | .text _ => (piece.source ++ later.1, later.2)

/-- The segments that a list of pieces makes up. Neighbouring literal text is one segment. -/
def segmentsOf (pieces : List Piece) : List Segment :=
  let joined := pieces.foldr addPiece ([], [])
  withLiteral joined.1 joined.2

/-- The problems of a list of pieces that starts at byte `offset`. -/
def problemsFrom : (offset : Nat) → List Piece → List Diagnostic
  | _, [] => []
  | offset, piece :: rest =>
      let later := problemsFrom (offset + byteLength piece.source) rest
      match meaning piece with
      | .text (some problem) => ⟨problem, some offset⟩ :: later
      | _ => later

/-- Reads a template. -/
def read (source : String) : Template :=
  let pieces := Piece.ofText source.toList
  { source, segments := segmentsOf pieces, diagnostics := problemsFrom 0 pieces }

/-- The substitutions of a template, in order. -/
def substitutions (template : Template) : List Substitution :=
  template.segments.filterMap fun
    | .substitution substitution => some substitution
    | .literal _ => none

end Template

end MessageTemplate
