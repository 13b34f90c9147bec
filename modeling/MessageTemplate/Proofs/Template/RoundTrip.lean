import MessageTemplate.Proofs.Template.Segments

/-! # Reading and printing templates

`read_segments_faithful` says what reading any text gives: segments that make up the text, where
every substitution is written in the grammar. `read_textOf` says that reading is complete: segments
of the grammar are read from the text they make up, without a diagnostic. Segments in general are
not read back; two literals in a row, for one, would be read as a single literal. -/

namespace MessageTemplate

open MessageTemplate.Text

/-- What a segment must be to be written in a template without problems: literal text has no brace,
and a substitution is written in the grammar. -/
def Segment.IsWellFormed : Segment → Prop
  | literal text => ∀ character ∈ text.toList, ¬IsBrace character
  | substitution part => ∃ referenceText, part.IsWrittenWith referenceText

namespace Template

/-- Reading loses nothing and invents nothing. The segments make up the text, their literals are not
empty and not neighbours, and each substitution has the text of its reference and of its calls in
braces. -/
theorem read_segments_faithful (text : String) :
    textOf (read text).segments = text ∧
      IsNormal (read text).segments ∧
      ∀ substitution, .substitution substitution ∈ (read text).segments →
        ∃ referenceText, substitution.IsWrittenWith referenceText ∧
          Reference.read? referenceText = some substitution.reference ∧
          IsBalanced referenceText ∧ IsUncut operatorSeparator referenceText := by
  refine ⟨textOf_read text, isNormal_segmentsOf _, ?_⟩
  intro substitution member
  obtain ⟨referenceText, written⟩ := isWrittenWith_of_mem_read member
  have plain := written.reference.plain
  exact ⟨referenceText, written, Reference.read?_eq_some_iff.mpr written.reference,
    isBalanced_plain fun character inside => (plain character inside).1, isUncut_plain plain⟩

/-- A stray brace, a substitution with a nested one in its argument, a group that is none, and a
brace that is never closed. -/
theorem read_segments_faithful_nested :
    .substitution ⟨"{x|if:{y};b}", .name "x", [⟨"if", some "{y};b"⟩]⟩ ∈
        (read "é\x7d{x|if:{y};b}{1bad}\x7b").segments ∧
      ∃ referenceText,
        Substitution.IsWrittenWith ⟨"{x|if:{y};b}", .name "x", [⟨"if", some "{y};b"⟩]⟩
          referenceText := by
  have member : .substitution ⟨"{x|if:{y};b}", .name "x", [⟨"if", some "{y};b"⟩]⟩ ∈
      (read "é\x7d{x|if:{y};b}{1bad}\x7b").segments := by decide
  obtain ⟨-, -, substitutions⟩ := read_segments_faithful "é\x7d{x|if:{y};b}{1bad}\x7b"
  obtain ⟨referenceText, written, -⟩ := substitutions _ member
  exact ⟨member, referenceText, written⟩

variable {segments : List Segment}

/-- The literal text that segments start with, and the segments after it. -/
def uncons : List Segment → List Char × List Segment
  | .literal text :: rest => (text.toList, rest)
  | segments => ([], segments)

/-- Segments that start with no literal have none to take off. -/
theorem uncons_of_not_isLiteral (starts : ∀ first ∈ segments.head?, first.isLiteral = false) :
    uncons segments = ([], segments) := by
  cases segments with
  | nil => rfl
  | cons first rest =>
      cases first with
      | literal text => exact absurd (starts _ rfl) (by simp [Segment.isLiteral])
      | substitution substitution => rfl

/-- A literal that is taken off normal segments can be put back. -/
theorem withLiteral_uncons (normal : IsNormal segments) :
    withLiteral (uncons segments).1 (uncons segments).2 = segments := by
  cases segments with
  | nil => rfl
  | cons first rest =>
      cases first with
      | literal text =>
          have nonempty := normal.nonempty text List.mem_cons_self
          simp [uncons, withLiteral, nonempty]
      | substitution substitution => rfl

/-- Normal segments stay normal without the first of them. -/
theorem IsNormal.tail {first : Segment} {rest : List Segment} (normal : IsNormal (first :: rest)) :
    IsNormal rest where
  nonempty text member := normal.nonempty text (List.mem_cons_of_mem _ member)
  separated := (List.isChain_cons.mp normal.separated).2

/-- Plain characters in front of pieces are literal text in front of their segments. -/
theorem joined_plain_append (text : List Char) (pieces : List Piece) :
    joined (text.map .plain ++ pieces) = (text ++ (joined pieces).1, (joined pieces).2) := by
  induction text with
  | nil => rfl
  | cons character text inductionHypothesis =>
      rw [List.map_cons, List.cons_append, joined_cons, inductionHypothesis]
      rfl

/-- The pieces of printed segments are joined to these segments, and none of them is a problem. -/
theorem joined_ofText_textOf (normal : IsNormal segments)
    (wellFormed : ∀ segment ∈ segments, segment.IsWellFormed) :
    joined (Piece.ofText (textOf segments).toList) = uncons segments ∧
      ∀ piece ∈ Piece.ofText (textOf segments).toList, ∀ problem,
        meaning piece ≠ .text (some problem) := by
  induction segments with
  | nil => exact ⟨rfl, by simp [textOf]⟩
  | cons first rest inductionHypothesis =>
      obtain ⟨firstWellFormed, restWellFormed⟩ := List.forall_mem_cons.mp wellFormed
      obtain ⟨restJoined, restClean⟩ := inductionHypothesis normal.tail restWellFormed
      rw [textOf_cons]
      cases first with
      | literal text =>
          -- No literal follows, or the two would be read as one.
          have starts : ∀ next ∈ rest.head?, next.isLiteral = false := fun next isNext =>
            ((List.isChain_cons.mp normal.separated).1 next isNext).resolve_left
              (by simp [Segment.isLiteral])
          rw [Segment.source, Piece.ofText_plain_append firstWellFormed]
          refine ⟨?_, List.forall_mem_append.mpr ⟨?_, restClean⟩⟩
          · rw [joined_plain_append, restJoined, uncons_of_not_isLiteral starts, List.append_nil]
            rfl
          · intro piece member
            obtain ⟨character, -, rfl⟩ := List.mem_map.mp member
            simp [meaning]
      | substitution substitution =>
          obtain ⟨referenceText, written⟩ := firstWellFormed
          obtain ⟨body, source, balanced, bodyRead⟩ := written.read
          have isGroup : Piece.ofText (substitution.source.toList ++ (textOf rest).toList) =
              .group body :: Piece.ofText (textOf rest).toList := by
            rw [source, List.append_assoc]
            exact Piece.ofText_group balanced _
          rw [Segment.source, isGroup]
          have groupMeaning := meaning_eq_substitution_iff.mpr ⟨body, rfl, bodyRead⟩
          refine ⟨?_, List.forall_mem_cons.mpr ⟨by simp [groupMeaning], restClean⟩⟩
          rw [joined_cons, restJoined, addPiece, groupMeaning]
          simp only [withLiteral_uncons normal.tail]
          rfl

/-- Segments of the grammar are read back from the text they make up, with no diagnostic. -/
theorem read_textOf (normal : IsNormal segments)
    (wellFormed : ∀ segment ∈ segments, segment.IsWellFormed) :
    read (textOf segments) = { source := textOf segments, segments, diagnostics := [] } := by
  obtain ⟨joinedAgain, clean⟩ := joined_ofText_textOf normal wellFormed
  have segmentsAgain : segmentsOf (Piece.ofText (textOf segments).toList) = segments := by
    rw [segmentsOf_eq, joinedAgain, withLiteral_uncons normal]
  simp only [read, segmentsAgain, problemsFrom_eq_nil_iff.mpr clean]

/-- Literal text and a marked position, sent through two calls, the first of which has a nested
substitution, a colon, a semicolon and a separator inside braces in its argument. -/
theorem read_textOf_nested :
    let call : OperatorCall := ⟨"select", some "{n|if::;b};é"⟩
    let segments : List Segment :=
      [.literal "ü: ",
        .substitution ⟨"{@07|select:{n|if::;b};é|trim}", .position 7, [call, ⟨"trim", none⟩]⟩]
    IsNormal segments ∧ (∀ segment ∈ segments, segment.IsWellFormed) ∧
      read "ü: {@07|select:{n|if::;b};é|trim}" =
        { source := "ü: {@07|select:{n|if::;b};é|trim}", segments, diagnostics := [] } := by
  intro call segments
  have normal : IsNormal segments := by
    refine ⟨?_, List.isChain_pair.mpr (.inr rfl)⟩
    rintro text member rfl
    simp [segments] at member
  have callWellFormed : call.IsWellFormed := by
    refine ⟨by decide, ?_⟩
    rintro argument ⟨rfl⟩
    decide
  have wellFormed : ∀ segment ∈ segments, segment.IsWellFormed := by
    refine List.forall_mem_cons.mpr ⟨by simp [Segment.IsWellFormed]; decide,
      List.forall_mem_singleton.mpr ⟨['@', '0', '7'], ?_, ?_, ?_⟩⟩
    · show "{@07|select:{n|if::;b};é|trim}".toList = _
      decide
    · exact Reference.read?_eq_some_iff.mp (by decide)
    · exact List.forall_mem_cons.mpr ⟨callWellFormed,
        List.forall_mem_singleton.mpr ⟨by decide, by simp⟩⟩
  exact ⟨normal, wellFormed, read_textOf normal wellFormed⟩

end Template

end MessageTemplate
