import Mathlib.Data.List.Chain
import MessageTemplate.Proofs.Template.Grammar
import MessageTemplate.Proofs.Template.Pieces
import MessageTemplate.Template.Basic

/-! # The segments of a template

Pieces are joined from the right: literal text gathers until a substitution ends it. What the joined
segments are follows from what one more piece in front of them does, so each statement here is an
induction over pieces with `Template.addPiece` as its step. -/

namespace MessageTemplate

open MessageTemplate.Text

/-- Whether a segment is literal text. -/
def Segment.isLiteral : Segment → Bool
  | literal _ => true
  | substitution _ => false

namespace Template

/-- The template text that segments make up. -/
def textOf (segments : List Segment) : String :=
  String.join (segments.map Segment.source)

/-- No literal is empty, and no two of them are neighbours. -/
structure IsNormal (segments : List Segment) : Prop where
  nonempty : ∀ text, .literal text ∈ segments → text ≠ ""
  separated : segments.IsChain fun left right => left.isLiteral = false ∨ right.isLiteral = false

/-- The literal text that pieces start with, and the segments after it. -/
def joined (pieces : List Piece) : List Char × List Segment :=
  pieces.foldr addPiece ([], [])

/-- The segments of pieces begin with the literal that is left in front. -/
theorem segmentsOf_eq (pieces : List Piece) :
    segmentsOf pieces = withLiteral (joined pieces).1 (joined pieces).2 := rfl

@[simp] theorem joined_nil : joined [] = ([], []) := rfl

@[simp] theorem joined_cons (piece : Piece) (rest : List Piece) :
    joined (piece :: rest) = addPiece piece (joined rest) := rfl

variable {piece : Piece} {pieces : List Piece} {substitution : Substitution}
  {later : List Char × List Segment}

/-- Only a group can be a substitution. -/
theorem meaning_eq_substitution_iff :
    meaning piece = .substitution substitution ↔
      ∃ body, piece = .group body ∧ Substitution.read body = .ok substitution := by
  cases piece with
  | plain character => simp [meaning]
  | stray => simp [meaning]
  | unclosed rest => simp [meaning]
  | group body =>
      cases bodyRead : Substitution.read body with
      | ok other => simp [meaning, bodyRead]
      | error problem => simp [meaning, bodyRead]

/-- A substitution has the text of its piece. -/
theorem source_of_meaning (isSubstitution : meaning piece = .substitution substitution) :
    substitution.source.toList = piece.source := by
  obtain ⟨body, rfl, bodyRead⟩ := meaning_eq_substitution_iff.mp isSubstitution
  obtain ⟨-, -, -, -, source⟩ := Substitution.read_eq_ok_iff_parts.mp bodyRead
  exact source

/-- A piece is a substitution with the text of the piece, or becomes literal text. -/
theorem addPiece_cases (piece : Piece) (later : List Char × List Segment) :
    (∃ body substitution, piece = .group body ∧ Substitution.read body = .ok substitution ∧
      addPiece piece later =
        ([], .substitution substitution :: withLiteral later.1 later.2)) ∨
    addPiece piece later = (piece.source ++ later.1, later.2) := by
  cases pieceMeaning : meaning piece with
  | substitution substitution =>
      obtain ⟨body, isGroup, bodyRead⟩ := meaning_eq_substitution_iff.mp pieceMeaning
      exact .inl ⟨body, substitution, isGroup, bodyRead, by simp [addPiece, pieceMeaning]⟩
  | text problem => exact .inr (by simp [addPiece, pieceMeaning])

/-- The text of segments begins with that of the first. -/
theorem textOf_cons (segment : Segment) (segments : List Segment) :
    (textOf (segment :: segments)).toList = segment.source.toList ++ (textOf segments).toList := by
  simp [textOf]

/-- The text that a segment comes to, where `write` gives that of substitutions. -/
def segmentText (write : Substitution → String) : Segment → String
  | .literal text => text
  | .substitution substitution => write substitution

/-- The text that a piece comes to, where `write` gives that of substitutions. -/
def pieceText (write : Substitution → String) (piece : Piece) : List Char :=
  match meaning piece with
  | .substitution substitution => (write substitution).toList
  | .text _ => piece.source

/-- A piece that stays text is written as it was. -/
theorem pieceText_of_text {write : Substitution → String} {problem : Option Problem}
    (isText : meaning piece = .text problem) : pieceText write piece = piece.source := by
  rw [pieceText, isText]

/-- A substitution is written as it is asked to be. -/
theorem pieceText_of_substitution {write : Substitution → String}
    (isSubstitution : meaning piece = .substitution substitution) :
    pieceText write piece = (write substitution).toList := by
  rw [pieceText, isSubstitution]

/-- What the segments of pieces come to is what the pieces come to, one by one. -/
theorem toList_join_segmentsOf (write : Substitution → String) (pieces : List Piece) :
    (String.join ((segmentsOf pieces).map (segmentText write))).toList =
      pieces.flatMap (pieceText write) := by
  have withText (text : List Char) (segments : List Segment) :
      ((withLiteral text segments).map (segmentText write)).flatMap String.toList =
        text ++ (segments.map (segmentText write)).flatMap String.toList := by
    cases text with
    | nil => rfl
    | cons character rest => simp [withLiteral, segmentText]
  rw [String.toList_join, segmentsOf_eq, withText]
  induction pieces with
  | nil => rfl
  | cons first rest inductionHypothesis =>
      rw [joined_cons, List.flatMap_cons, ← inductionHypothesis, addPiece, pieceText]
      cases meaning first with
      | substitution substitution => simp [withText, segmentText]
      | text problem => simp

/-- Joining pieces loses nothing of their text. -/
theorem textOf_segmentsOf (pieces : List Piece) :
    (textOf (segmentsOf pieces)).toList = pieces.flatMap Piece.source := by
  have segmentSource : Segment.source = segmentText Substitution.source := by
    funext segment
    cases segment <;> rfl
  have pieceSource : pieceText Substitution.source = Piece.source := by
    funext piece
    rw [pieceText]
    cases pieceMeaning : meaning piece with
    | substitution substitution => exact source_of_meaning pieceMeaning
    | text problem => rfl
  rw [textOf, segmentSource, toList_join_segmentsOf, pieceSource]

/-- The segments of a template make up its text. -/
theorem textOf_read (text : String) : textOf (read text).segments = text := by
  apply String.toList_injective
  exact (textOf_segmentsOf _).trans (Piece.flatMap_source_ofText _)

/-- A literal in front adds no substitution. -/
theorem mem_withLiteral {text : List Char} {segments : List Segment} :
    .substitution substitution ∈ withLiteral text segments ↔
      .substitution substitution ∈ segments := by
  cases text <;> simp [withLiteral]

/-- Every substitution among the segments is read from a group among the pieces. -/
theorem mem_segmentsOf (member : .substitution substitution ∈ segmentsOf pieces) :
    ∃ body, .group body ∈ pieces ∧ Substitution.read body = .ok substitution := by
  rw [segmentsOf_eq, mem_withLiteral] at member
  induction pieces with
  | nil => simp at member
  | cons piece rest inductionHypothesis =>
      rw [joined_cons] at member
      have fromRest (restMember : .substitution substitution ∈ (joined rest).2) :
          ∃ body, .group body ∈ piece :: rest ∧ Substitution.read body = .ok substitution := by
        obtain ⟨body, bodyMember, bodyRead⟩ := inductionHypothesis restMember
        exact ⟨body, List.mem_cons_of_mem _ bodyMember, bodyRead⟩
      rcases addPiece_cases piece (joined rest) with
        ⟨body, first, rfl, bodyRead, added⟩ | added
      · rw [added] at member
        rcases List.mem_cons.mp member with equal | restMember
        · cases equal
          exact ⟨body, List.mem_cons_self, bodyRead⟩
        · exact fromRest (mem_withLiteral.mp restMember)
      · rw [added] at member
        exact fromRest member

/-- Every group among the pieces that is a substitution is one among the segments. -/
theorem mem_segmentsOf_of_meaning (member : piece ∈ pieces)
    (isSubstitution : meaning piece = .substitution substitution) :
    .substitution substitution ∈ segmentsOf pieces := by
  rw [segmentsOf_eq, mem_withLiteral]
  induction pieces with
  | nil => cases member
  | cons first rest inductionHypothesis =>
      rw [joined_cons, addPiece]
      rcases List.mem_cons.mp member with rfl | later
      · rw [isSubstitution]
        exact List.mem_cons_self
      · cases meaning first with
        | substitution other =>
            exact List.mem_cons_of_mem _ (mem_withLiteral.mpr (inductionHypothesis later))
        | text problem => exact inductionHypothesis later

/-- Every substitution of a template is written in the grammar. -/
theorem isWrittenWith_of_mem_read {text : String}
    (member : .substitution substitution ∈ (read text).segments) :
    ∃ referenceText, substitution.IsWrittenWith referenceText := by
  obtain ⟨body, bodyMember, bodyRead⟩ := mem_segmentsOf member
  have balanced := Piece.isBalanced_of_group_mem_ofText bodyMember
  exact (Substitution.isWrittenWith_of_read balanced bodyRead).2

/-- Literal text in front of segments that start with a substitution leaves them normal. -/
theorem IsNormal.withLiteral {text : List Char} {segments : List Segment}
    (normal : IsNormal segments) (starts : ∀ first ∈ segments.head?, first.isLiteral = false) :
    IsNormal (withLiteral text segments) := by
  cases text with
  | nil => exact normal
  | cons character rest =>
      refine ⟨?_, List.isChain_cons.mpr ⟨fun first isFirst => .inr (starts first isFirst),
        normal.separated⟩⟩
      intro text member
      rcases List.mem_cons.mp member with equal | later
      · cases equal
        simp
      · exact normal.nonempty text later

/-- A substitution in front of segments leaves them normal. -/
theorem IsNormal.cons_substitution {segments : List Segment} (normal : IsNormal segments) :
    IsNormal (.substitution substitution :: segments) := by
  refine ⟨fun text member => normal.nonempty text (by simpa using member), ?_⟩
  exact List.isChain_cons.mpr ⟨fun _ _ => .inl rfl, normal.separated⟩

/-- The segments that pieces make up are normal. -/
theorem isNormal_segmentsOf (pieces : List Piece) : IsNormal (segmentsOf pieces) := by
  -- What is joined already starts with a substitution, so literal text may come in front of it.
  have invariant : IsNormal (joined pieces).2 ∧
      ∀ first ∈ (joined pieces).2.head?, first.isLiteral = false := by
    induction pieces with
    | nil => exact ⟨⟨by simp, .nil⟩, by simp⟩
    | cons piece rest inductionHypothesis =>
        obtain ⟨normal, starts⟩ := inductionHypothesis
        rcases addPiece_cases piece (joined rest) with
          ⟨body, substitution, rfl, bodyRead, added⟩ | added
        · rw [joined_cons, added]
          exact ⟨(normal.withLiteral starts).cons_substitution, by simp [Segment.isLiteral]⟩
        · rw [joined_cons, added]
          exact ⟨normal, starts⟩
  exact invariant.1.withLiteral invariant.2

/-- A diagnostic of pieces is the problem of one of them. -/
theorem meaning_of_mem_problemsFrom {offset : Nat} {diagnostic : Diagnostic}
    (member : diagnostic ∈ problemsFrom offset pieces) :
    ∃ piece ∈ pieces, meaning piece = .text (some diagnostic.problem) := by
  induction pieces generalizing offset with
  | nil => simp [problemsFrom] at member
  | cons piece rest inductionHypothesis =>
      have fromRest {later : Nat} (restMember : diagnostic ∈ problemsFrom later rest) :
          ∃ other ∈ piece :: rest, meaning other = .text (some diagnostic.problem) := by
        obtain ⟨other, otherMember, isProblem⟩ := inductionHypothesis restMember
        exact ⟨other, List.mem_cons_of_mem _ otherMember, isProblem⟩
      rw [problemsFrom] at member
      split at member
      · next problem pieceMeaning =>
          rcases List.mem_cons.mp member with rfl | later
          · exact ⟨piece, List.mem_cons_self, pieceMeaning⟩
          · exact fromRest later
      · exact fromRest member

/-- Pieces have no diagnostics exactly when none of them is a problem. -/
theorem problemsFrom_eq_nil_iff {offset : Nat} :
    problemsFrom offset pieces = [] ↔
      ∀ piece ∈ pieces, ∀ problem, meaning piece ≠ .text (some problem) := by
  induction pieces generalizing offset with
  | nil => simp [problemsFrom]
  | cons piece rest inductionHypothesis =>
      rw [problemsFrom, List.forall_mem_cons]
      split
      · next problem pieceMeaning =>
          simp [pieceMeaning]
      · next noProblem =>
          rw [inductionHypothesis]
          exact ⟨fun others => ⟨noProblem, others⟩, fun all => all.2⟩

/-- The text of a substitution is read as this substitution and nothing else. -/
theorem read_source {referenceText : List Char}
    (isWritten : substitution.IsWrittenWith referenceText) :
    read substitution.source =
      { source := substitution.source
        segments := [.substitution substitution]
        diagnostics := [] } := by
  obtain ⟨body, source, balanced, bodyRead⟩ := isWritten.read
  have pieces : Piece.ofText substitution.source.toList = [.group body] := by
    rw [source]
    exact Piece.ofText_group balanced []
  have groupMeaning := meaning_eq_substitution_iff.mpr ⟨body, rfl, bodyRead⟩
  have segments : segmentsOf [.group body] = [.substitution substitution] := by
    rw [segmentsOf_eq, joined_cons, joined_nil, addPiece, groupMeaning]
    rfl
  have problems : problemsFrom 0 [.group body] = [] := by
    simp [problemsFrom, groupMeaning]
  simp only [read, pieces, segments, problems]

end Template

end MessageTemplate
