import Mathlib.Data.List.Forall2
import MessageTemplate.Proofs.Template.Nesting
import MessageTemplate.Proofs.Text.OuterBraces

/-! # Every brace is accounted for

Reading a template jumps from a brace to its partner and goes on behind it.
`Template.accountsForBraces` says that nothing is skipped or met twice on the way: the outer braces
of the template, found by counting alone, and what is read of the template correspond one to one and
in order. Nothing is said of the braces inside a group, which are text of the group. -/

namespace MessageTemplate

open MessageTemplate.Text

/-- What becomes of an outer brace. -/
inductive Outcome where
  | substitution (offset : Nat) (substitution : Substitution)
  | problem (offset : Nat) (cause : Problem)

namespace Outcome

/-- The number of bytes before the text that an outcome is about. -/
def offset : Outcome → Nat
  | substitution offset _ | problem offset _ => offset

/-- The substitution that an outcome is, with its place. -/
def placed? : Outcome → Option (Nat × Substitution)
  | substitution offset part => some (offset, part)
  | problem _ _ => none

/-- The diagnostic that an outcome is. -/
def diagnostic? : Outcome → Option Diagnostic
  | substitution _ _ => none
  | problem offset cause => some ⟨cause, some offset⟩

end Outcome

namespace Template

/-- What may become of an outer brace: a closing one is stray, an opening one with a partner opens a
substitution or a group that is none, and an opening one without a partner takes what is left. -/
inductive Settles : OuterBrace → Outcome → Prop where
  | stray (offset : Nat) (rest : List Char) :
      Settles ⟨offset, '}', rest⟩ (.problem offset .strayBrace)
  | substitution (offset : Nat) (body rest : List Char) (substitution : Substitution)
      (balanced : IsBalanced body) (bodyRead : Substitution.read body = .ok substitution)
      (source : substitution.source.toList = '{' :: body ++ ['}']) :
      Settles ⟨offset, '{', body ++ '}' :: rest⟩ (.substitution offset substitution)
  | rejected (offset : Nat) (body rest : List Char) (problem : GroupProblem)
      (balanced : IsBalanced body) (bodyRead : Substitution.read body = .error problem)
      (kind : (groupProblem body problem).kind = .invalidReference ∨
        (groupProblem body problem).kind = .invalidOperatorName) :
      Settles ⟨offset, '{', body ++ '}' :: rest⟩ (.problem offset (groupProblem body problem))
  | unclosed (outer : OuterBrace) (isUnclosed : outer.IsUnclosed) :
      Settles outer
        (.problem outer.offset (.unclosedGroup (String.ofList ('{' :: outer.rest))))

/-- The substitutions of segments that start at byte `offset`, each with the number of bytes before
it. -/
def placedFrom : (offset : Nat) → List Segment → List (Nat × Substitution)
  | _, [] => []
  | offset, .literal text :: rest => placedFrom (offset + byteLength text.toList) rest
  | offset, .substitution substitution :: rest =>
      (offset, substitution) :: placedFrom (offset + byteLength substitution.source.toList) rest

/-- The outcomes of pieces that start at byte `offset`. -/
def outcomesFrom : (offset : Nat) → List Piece → List Outcome
  | _, [] => []
  | offset, piece :: rest =>
      let later := outcomesFrom (offset + byteLength piece.source) rest
      match meaning piece with
      | .substitution substitution => .substitution offset substitution :: later
      | .text (some problem) => .problem offset problem :: later
      | .text none => later

/-- What is read of a template accounts for its outer braces. -/
structure AccountsForBraces (text : String) : Prop where
  /-- There is one outcome to each outer brace, in order. The outcomes are the substitutions, at the
  bytes where their text starts, and the problems. -/
  settled : ∃ outcomes, List.Forall₂ Settles (outerBraces text.toList) outcomes ∧
    placedFrom 0 (read text).segments = outcomes.filterMap Outcome.placed? ∧
    (read text).diagnostics = outcomes.filterMap Outcome.diagnostic?
  /-- A brace that is never closed is the last one. -/
  unclosedLast : ∀ before outer after, outerBraces text.toList = before ++ outer :: after →
    outer.IsUnclosed → after = []
  /-- Each problem has a place, behind those of the problems before it. -/
  ascending : ∃ offsets : List Nat,
    (read text).diagnostics.map Diagnostic.offset = offsets.map some ∧ offsets.Pairwise (· < ·)
  /-- The stray braces are those that cutting the text finds, whatever the separator. -/
  strays : ∀ separator,
    ((read text).diagnostics.filter (·.kind = .unbalancedBrace)).map Diagnostic.offset =
      (splitBalanced separator text.toList).unbalanced.map some

/-! ## From pieces to outcomes -/

/-- The brace that opens a group becomes a substitution or a problem. -/
theorem settles_group (offset : Nat) {body : List Char} (balanced : IsBalanced body)
    (rest : List Char) :
    ∃ outcome, Settles ⟨offset, '{', body ++ '}' :: rest⟩ outcome ∧
      ∀ pieces, outcomesFrom offset (.group body :: pieces) =
        outcome :: outcomesFrom (offset + byteLength (Piece.group body).source) pieces := by
  cases bodyRead : Substitution.read body with
  | ok substitution =>
      have isSubstitution := meaning_eq_substitution_iff.mpr ⟨body, rfl, bodyRead⟩
      refine ⟨.substitution offset substitution, ?_, fun pieces => ?_⟩
      · exact .substitution offset body rest substitution balanced bodyRead
          (source_of_meaning isSubstitution)
      · rw [outcomesFrom, isSubstitution]
  | error problem =>
      have isProblem : meaning (.group body) = .text (some (groupProblem body problem)) := by
        rw [meaning, bodyRead]
      refine ⟨.problem offset (groupProblem body problem), ?_, fun pieces => ?_⟩
      · exact .rejected offset body rest problem balanced bodyRead (kind_groupProblem body problem)
      · rw [outcomesFrom, isProblem]

/-- The outcomes of the pieces of a text settle its outer braces, one by one. -/
theorem settles_outcomesFrom (offset : Nat) (text : List Char) :
    List.Forall₂ Settles (outerBracesFrom 0 offset text)
      (outcomesFrom offset (Piece.ofText text)) := by
  -- Each piece that begins with a brace begins with an outer one, and has no other.
  induction text using Piece.ofText_induction generalizing offset with
  | nil => exact .nil
  | plain character rest isPlain inductionHypothesis =>
      have skipped : outcomesFrom offset (.plain character :: Piece.ofText rest) =
          outcomesFrom (offset + character.utf8Size) (Piece.ofText rest) := rfl
      rw [outerBracesFrom_plain isPlain, skipped]
      exact inductionHypothesis _
  | stray rest inductionHypothesis =>
      rw [outerBracesFrom_close]
      exact .cons (.stray offset rest) (inductionHypothesis _)
  | group body rest balanced inductionHypothesis =>
      obtain ⟨outcome, settles, isFirst⟩ := settles_group offset balanced rest
      rw [outerBracesFrom_group balanced, isFirst]
      exact .cons settles (inductionHypothesis _)
  | unclosed rest isUnclosed =>
      have never (body after : List Char) (balanced : IsBalanced body) :
          rest ≠ body ++ '}' :: after := by
        rintro rfl
        have closed := Piece.ofText_group balanced after
        rw [List.cons_append, isUnclosed] at closed
        cases closed
      rw [outerBracesFrom_open, outerBracesFrom_unclosed never]
      exact .cons (.unclosed ⟨offset, '{', rest⟩ ⟨rfl, never⟩) .nil

/-- The problems of a text are those among the outcomes of its outer braces. -/
theorem problemsFrom_eq (offset : Nat) (pieces : List Piece) :
    problemsFrom offset pieces =
      (outcomesFrom offset pieces).filterMap Outcome.diagnostic? := by
  induction pieces generalizing offset with
  | nil => rfl
  | cons piece rest inductionHypothesis =>
      simp only [problemsFrom, outcomesFrom, inductionHypothesis]
      cases meaning piece with
      | substitution substitution => rfl
      | text problem => cases problem <;> rfl

/-- A literal in front shifts the places of what follows by its length. -/
theorem placedFrom_withLiteral (offset : Nat) (text : List Char) (segments : List Segment) :
    placedFrom offset (withLiteral text segments) =
      placedFrom (offset + byteLength text) segments := by
  cases text with
  | nil => rfl
  | cons character rest =>
      rw [withLiteral, if_neg (by simp), placedFrom, String.toList_ofList]

/-- The substitutions of a template stand where their pieces do. -/
theorem placedFrom_segmentsOf (offset : Nat) (pieces : List Piece) :
    placedFrom offset (segmentsOf pieces) =
      (outcomesFrom offset pieces).filterMap Outcome.placed? := by
  rw [segmentsOf_eq, placedFrom_withLiteral]
  induction pieces generalizing offset with
  | nil => rfl
  | cons piece rest inductionHypothesis =>
      rw [joined_cons, addPiece, outcomesFrom]
      cases pieceMeaning : meaning piece with
      | substitution substitution =>
          simp only [byteLength_nil, Nat.add_zero, placedFrom, placedFrom_withLiteral,
            source_of_meaning pieceMeaning, inductionHypothesis]
          rfl
      | text problem =>
          simp only [byteLength_append, ← Nat.add_assoc, inductionHypothesis]
          cases problem <;> rfl

/-! ## Places of problems -/

variable {outers : List OuterBrace} {outcomes : List Outcome}

/-- Each outcome stands where its brace does. -/
theorem map_offset_of_settles (settles : List.Forall₂ Settles outers outcomes) :
    outcomes.map Outcome.offset = outers.map OuterBrace.offset := by
  induction settles with
  | nil => rfl
  | cons first _ inductionHypothesis =>
      rw [List.map_cons, List.map_cons, inductionHypothesis]
      cases first <;> rfl

/-- The problems among outcomes stand at offsets of outcomes, in the same order. -/
theorem exists_offsets_sublist (outcomes : List Outcome) :
    ∃ offsets : List Nat,
      (outcomes.filterMap Outcome.diagnostic?).map Diagnostic.offset = offsets.map some ∧
        offsets.Sublist (outcomes.map Outcome.offset) := by
  induction outcomes with
  | nil => exact ⟨[], rfl, .slnil⟩
  | cons outcome rest inductionHypothesis =>
      obtain ⟨offsets, found, included⟩ := inductionHypothesis
      cases outcome with
      | substitution offset substitution => exact ⟨offsets, found, included.cons offset⟩
      | problem offset cause =>
          exact ⟨offset :: offsets, congrArg (some offset :: ·) found, included.cons_cons offset⟩

/-- Problems with stray braces are at the offsets of the outer braces that close. -/
theorem strays_of_settles (settles : List.Forall₂ Settles outers outcomes) :
    ((outcomes.filterMap Outcome.diagnostic?).filter (·.kind = .unbalancedBrace)).map
        Diagnostic.offset =
      ((outers.filter (·.brace = '}')).map OuterBrace.offset).map some := by
  induction settles with
  | nil => rfl
  | cons first _ inductionHypothesis =>
      cases first with
      | stray offset rest => exact congrArg (some offset :: ·) inductionHypothesis
      | substitution offset body rest substitution => exact inductionHypothesis
      | rejected offset body rest problem balanced bodyRead kind =>
          let diagnostic : Diagnostic := ⟨groupProblem body problem, some offset⟩
          have diagnosed : Outcome.diagnostic? (.problem offset (groupProblem body problem)) =
              some diagnostic := rfl
          have notStray : diagnostic.kind ≠ .unbalancedBrace := by
            rw [Diagnostic.kind]
            rcases kind with kind | kind <;> simp [diagnostic, kind]
          rw [List.filterMap_cons_some diagnosed,
            List.filter_cons_of_neg (by simpa using notStray)]
          exact inductionHypothesis
      | unclosed outer isUnclosed =>
          rw [List.filter_cons_of_neg (by simp [isUnclosed.1])]
          exact inductionHypothesis

/-- Reading a template accounts for each of its outer braces once. -/
theorem accountsForBraces (text : String) : AccountsForBraces text := by
  have settles := settles_outcomesFrom 0 text.toList
  have problems : (read text).diagnostics = _ := problemsFrom_eq 0 (Piece.ofText text.toList)
  refine ⟨⟨_, settles, placedFrom_segmentsOf 0 _, problems⟩, ?unclosedLast, ?ascending, ?strays⟩
  case unclosedLast => exact fun before outer after found isUnclosed => isUnclosed.last found
  case ascending =>
    obtain ⟨offsets, found, included⟩ := exists_offsets_sublist (outcomesFrom 0 _)
    refine ⟨offsets, (congrArg _ problems).trans found, .sublist included ?_⟩
    rw [map_offset_of_settles settles]
    exact List.pairwise_map.mpr (pairwise_outerBracesFrom 0 0 text.toList)
  case strays =>
    intro separator
    rw [problems, strays_of_settles settles, unbalanced_splitBalanced, strayOffsets,
      strayOffsetsFrom_eq]

/-- A stray brace, a substitution, a rejected group with a group inside, and an open brace. -/
example :
    let text := "é\x7d{x}{ bad {y}}\x7b{z}"
    (outerBraces text.toList).map OuterBrace.offset = [2, 3, 6, 16] ∧
      (placedFrom 0 (read text).segments).map Prod.fst = [3] ∧
      (read text).diagnostics.map Diagnostic.offset = [some 2, some 6, some 16] := by
  decide

end Template

end MessageTemplate
