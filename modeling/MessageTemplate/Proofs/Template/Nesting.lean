import MessageTemplate.Proofs.Operator.Decision
import MessageTemplate.Proofs.Template.Segments
import MessageTemplate.Proofs.Text.Depth

/-! # Nested texts

What an operator call may have expanded is nested in the template that the call is written in.
Nested text is balanced, whatever is wrong around it, and less deep than the template. Which of the
nested texts is expanded depends on values, and is not settled here. -/

namespace MessageTemplate

open MessageTemplate.Text

namespace DiagnosticKind

/-- Whether a kind is about a brace without its partner. -/
def isBrace : DiagnosticKind → Bool
  | unbalancedBrace | unterminatedSubstitution => true
  | _ => false

/-- Whether a kind is met at one substitution or at one stage of its pipeline. -/
def isStage : DiagnosticKind → Bool
  | unresolvedReference | unknownOperator | operatorFailed | operatorWarning => true
  | _ => false

variable {kind : DiagnosticKind}

/-- Problems of braces are problems of syntax. -/
theorem isSyntax_of_isBrace : kind.isBrace = true → kind.isSyntax = true := by
  cases kind <;> decide

/-- No problem met at stages is one of braces. -/
theorem isBrace_of_isStage : kind.isStage = true → kind.isBrace = false := by
  cases kind <;> decide

/-- No problem met at stages is one of syntax. -/
theorem isSyntax_of_isStage : kind.isStage = true → kind.isSyntax = false := by
  cases kind <;> decide

end DiagnosticKind

/-- Whether a call may have a text expanded: a part of its argument, or the empty text in the place
of a part that is missing. -/
def OperatorCall.Nests (call : OperatorCall) (fragment : String) : Prop :=
  ∃ argument, call.argument = some argument ∧ (fragment = "" ∨ fragment ∈ argumentParts argument)

/-- Whether a call of a template may have a text expanded. -/
def Template.Nests (template : Template) (fragment : String) : Prop :=
  ∃ substitution ∈ template.substitutions, ∃ call ∈ substitution.operators, call.Nests fragment

/-- The mark between parts of an argument is no brace. -/
theorem argumentSeparator_plain : ¬IsBrace argumentSeparator := by decide

namespace OperatorCall

variable {call : OperatorCall} {fragment : String}

/-- What is nested in a call has its braces closed. -/
theorem Nests.isBalanced (nests : call.Nests fragment) (wellFormed : call.IsWellFormed) :
    IsBalanced fragment.toList := by
  obtain ⟨argument, hasArgument, rfl | isPart⟩ := nests
  · exact rfl
  · obtain ⟨characters, member, rfl⟩ := List.mem_map.mp isPart
    rw [String.toList_ofList]
    exact isBalanced_of_mem_splitTopLevel argumentSeparator_plain
      (wellFormed.argument argument hasArgument).1 member

/-- What a call nests is no deeper than the call. -/
theorem Nests.greatestDepth_le (nests : call.Nests fragment) (wellFormed : call.IsWellFormed) :
    greatestDepth 0 fragment.toList ≤ greatestDepth 0 call.write := by
  obtain ⟨argument, hasArgument, rfl | isPart⟩ := nests
  · exact Nat.zero_le _
  · obtain ⟨characters, member, rfl⟩ := List.mem_map.mp isPart
    have namePlain : ∀ character ∈ call.name.toList ++ [argumentMark], ¬IsBrace character :=
      List.forall_mem_append.mpr
        ⟨fun character inside => (Reference.isIdentifier_plain wellFormed.name character inside).1,
          List.forall_mem_singleton.mpr (by decide)⟩
    have written : call.write = call.name.toList ++ [argumentMark] ++ argument.toList := by
      simp [write, hasArgument]
    rw [String.toList_ofList, written]
    exact Nat.le_trans
      (greatestDepth_le_of_mem_splitTopLevel argumentSeparator_plain
        (wellFormed.argument argument hasArgument).1 member)
      ((isBalanced_plain namePlain).greatestDepth_le_append _)

end OperatorCall

/-- A group of a text is less deep than the text. -/
theorem Piece.greatestDepth_lt_of_group_mem_ofText {body text : List Char}
    (member : .group body ∈ ofText text) : greatestDepth 0 body < greatestDepth 0 text := by
  induction text using ofText_induction with
  | nil => simp at member
  | plain character rest isPlain inductionHypothesis =>
      have later := inductionHypothesis (by simpa using member)
      rwa [greatestDepth, depthAfter_plain isPlain, Nat.zero_max]
  | stray rest inductionHypothesis => exact inductionHypothesis (by simpa using member)
  | group other rest balanced inductionHypothesis =>
      rw [greatestDepth_group balanced]
      rcases List.mem_cons.mp member with equal | later
      · cases equal
        exact Nat.le_max_left ..
      · exact Nat.lt_of_lt_of_le (inductionHypothesis later) (Nat.le_max_right ..)
  | unclosed rest => simp at member

namespace Template

variable {text fragment : String} {substitution : Substitution} {diagnostic : Diagnostic}

/-- The substitutions of a template are those among its segments. -/
theorem mem_substitutions {template : Template} :
    substitution ∈ template.substitutions ↔ .substitution substitution ∈ template.segments := by
  simp only [substitutions, List.mem_filterMap]
  constructor
  · rintro ⟨segment, member, found⟩
    cases segment with
    | literal text => cases found
    | substitution other =>
        cases found
        exact member
  · exact fun member => ⟨_, member, rfl⟩

/-- The substitutions among the pieces of a text are those of the template. -/
theorem mem_substitutions_of_meaning {piece : Piece} (member : piece ∈ Piece.ofText text.toList)
    (isSubstitution : meaning piece = .substitution substitution) :
    substitution ∈ (read text).substitutions :=
  mem_substitutions.mpr (mem_segmentsOf_of_meaning member isSubstitution)

/-- The calls that a reader finds are well formed. -/
theorem isWellFormed_of_mem_read (member : substitution ∈ (read text).substitutions) :
    ∀ call ∈ substitution.operators, call.IsWellFormed := by
  obtain ⟨referenceText, isWritten⟩ := isWrittenWith_of_mem_read (mem_substitutions.mp member)
  exact isWritten.operators

/-- Nested text is balanced. -/
theorem Nests.isBalanced (nests : (read text).Nests fragment) : IsBalanced fragment.toList := by
  obtain ⟨substitution, member, call, callMember, callNests⟩ := nests
  exact callNests.isBalanced (isWellFormed_of_mem_read member call callMember)

/-- Nested text is less deep than the template. -/
theorem Nests.greatestDepth_lt (nests : (read text).Nests fragment) :
    greatestDepth 0 fragment.toList < greatestDepth 0 text.toList := by
  obtain ⟨substitution, member, call, callMember, callNests⟩ := nests
  obtain ⟨body, bodyMember, bodyRead⟩ := mem_segmentsOf (mem_substitutions.mp member)
  obtain ⟨referenceText, parts, -⟩ := Substitution.read_eq_ok_iff_parts.mp bodyRead
  have callPart : call.write ∈ splitTopLevel operatorSeparator body := by
    rw [parts]
    exact List.mem_cons_of_mem _ (List.mem_map_of_mem callMember)
  calc greatestDepth 0 fragment.toList
      ≤ greatestDepth 0 call.write :=
        callNests.greatestDepth_le (isWellFormed_of_mem_read member call callMember)
    _ ≤ greatestDepth 0 body :=
        greatestDepth_le_of_mem_splitTopLevel operatorSeparator_plain
          (Piece.isBalanced_of_group_mem_ofText bodyMember) callPart
    _ < greatestDepth 0 text.toList := Piece.greatestDepth_lt_of_group_mem_ofText bodyMember

/-- The texts that the operator calls of a template may have expanded. -/
def nestedTexts (template : Template) : List String :=
  template.substitutions.flatMap fun substitution => substitution.operators.flatMap fun call =>
    match call.argument with
    | none => []
    | some argument => "" :: argumentParts argument

/-- What is nested in a template can be listed. -/
theorem nests_iff_mem_nestedTexts {template : Template} :
    template.Nests fragment ↔ fragment ∈ template.nestedTexts := by
  simp only [nestedTexts, List.mem_flatMap, Nests]
  refine exists_congr fun substitution => and_congr_right fun _ =>
    exists_congr fun call => and_congr_right fun _ => ?_
  cases argument : call.argument <;> simp [OperatorCall.Nests, argument]

/-- A group that is no substitution has a wrong reference or a wrong operator name. -/
theorem kind_groupProblem (body : List Char) (problem : GroupProblem) :
    (groupProblem body problem).kind = .invalidReference ∨
      (groupProblem body problem).kind = .invalidOperatorName := by
  cases problem with
  | reference text =>
      simp only [groupProblem]
      split
      · exact .inl rfl
      · exact .inl rfl
  | operatorName name => exact .inr rfl

/-- A piece that is a problem is a brace without its partner, or a group with a bad reference or a
bad name in it. -/
theorem kind_of_meaning {piece : Piece} {problem : Problem}
    (isProblem : meaning piece = .text (some problem)) :
    (problem.kind.isBrace = true ∧ (piece = .stray ∨ ∃ rest, piece = .unclosed rest)) ∨
      problem.kind = .invalidReference ∨ problem.kind = .invalidOperatorName := by
  cases piece with
  | plain character => cases isProblem
  | stray =>
      cases isProblem
      exact .inl ⟨rfl, .inl rfl⟩
  | unclosed rest =>
      cases isProblem
      exact .inl ⟨rfl, .inr ⟨rest, rfl⟩⟩
  | group body =>
      cases bodyRead : Substitution.read body with
      | ok substitution => simp [meaning, bodyRead] at isProblem
      | error groupProblem =>
          simp only [meaning, bodyRead] at isProblem
          cases isProblem
          exact .inr (kind_groupProblem body groupProblem)

/-- What reading a template finds is about its syntax. -/
theorem isSyntax_of_mem_read (member : diagnostic ∈ (read text).diagnostics) :
    diagnostic.kind.isSyntax = true := by
  obtain ⟨piece, -, isProblem⟩ := meaning_of_mem_problemsFrom member
  rw [Diagnostic.kind]
  rcases kind_of_meaning isProblem with ⟨isBrace, -⟩ | kind | kind
  · exact DiagnosticKind.isSyntax_of_isBrace isBrace
  · rw [kind]
    rfl
  · rw [kind]
    rfl

/-- In balanced text, no brace is without its partner. -/
theorem isBrace_of_mem_read (balanced : IsBalanced text.toList)
    (member : diagnostic ∈ (read text).diagnostics) : diagnostic.kind.isBrace = false := by
  obtain ⟨piece, pieceMember, isProblem⟩ := meaning_of_mem_problemsFrom member
  have whole := Piece.plain_or_group_of_mem_ofText balanced pieceMember
  rw [Diagnostic.kind]
  rcases kind_of_meaning isProblem with ⟨-, rfl | ⟨rest, rfl⟩⟩ | kind | kind
  · simp at whole
  · simp at whole
  · rw [kind]
    rfl
  · rw [kind]
    rfl

end Template

end MessageTemplate
