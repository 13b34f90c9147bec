import Mathlib.Data.List.Infix
import MessageTemplate.Proofs.Template.Nesting

/-! # What a template mentions

A template mentions a reference where a substitution refers to it, or `ifuse` has it for a key, in
the template or in a text nested in it. Whatever is mentioned is written in the template:
`Template.Mentions.isWritten`. That it is mentioned does not say that it is ever looked up; what is
nested need not be expanded. -/

namespace MessageTemplate

open MessageTemplate.Text

/-- The references that a call looks up itself: the keys of `ifuse`. -/
def OperatorCall.references (call : OperatorCall) : List Reference :=
  if call.name = "ifuse" then
    (call.argument.toList.flatMap argumentParts).filterMap fun key => Reference.read? key.toList
  else []

/-- The references of a substitution and of its calls. -/
def Substitution.references (substitution : Substitution) : List Reference :=
  substitution.reference :: substitution.operators.flatMap OperatorCall.references

/-- The references of the substitutions of a template. Those in arguments that are expanded do not
count. -/
def Template.references (template : Template) : List Reference :=
  template.substitutions.flatMap Substitution.references

/-- Whether a template refers to something, itself or in a text that is nested in it. -/
inductive Template.Mentions : (text : String) → Reference → Prop where
  | here {text : String} {reference : Reference} (member : reference ∈ (read text).references) :
      Mentions text reference
  | nested {text fragment : String} {reference : Reference} (nests : (read text).Nests fragment)
      (mentions : Mentions fragment reference) : Mentions text reference

variable {text fragment : String} {substitution : Substitution} {call : OperatorCall}

/-- What a call nests is a contiguous part of the call. -/
theorem OperatorCall.Nests.isInfix (nests : call.Nests fragment) :
    fragment.toList <:+: call.write := by
  obtain ⟨argument, hasArgument, rfl | isPart⟩ := nests
  · exact List.nil_infix
  · have written : call.write = call.name.toList ++ [argumentMark] ++ argument.toList := by
      simp [write, hasArgument]
    rw [written]
    exact (isInfix_of_mem_argumentParts isPart).trans (List.suffix_append _ _).isInfix

/-- What a call refers to is read from a text nested in it. -/
theorem OperatorCall.exists_key_of_mem_references {reference : Reference}
    (refers : reference ∈ call.references) :
    ∃ key, call.Nests key ∧ Reference.read? key.toList = some reference := by
  rw [references] at refers
  split at refers
  · obtain ⟨key, isPart, keyRead⟩ := List.mem_filterMap.mp refers
    obtain ⟨argument, hasArgument, isPart⟩ := List.mem_flatMap.mp isPart
    exact ⟨key, ⟨argument, Option.mem_toList.mp hasArgument, .inr isPart⟩, keyRead⟩
  · cases refers

/-- The reference and the calls of a substitution are contiguous parts of its text. -/
theorem Substitution.IsWrittenWith.isInfix {referenceText : List Char}
    (isWritten : substitution.IsWrittenWith referenceText) :
    referenceText <:+: substitution.source.toList ∧
      ∀ call ∈ substitution.operators, call.write <:+: substitution.source.toList := by
  have source : substitution.source.toList = ['{'] ++ referenceText ++
      (substitution.operators.flatMap (fun call => operatorSeparator :: call.write) ++ ['}']) := by
    rw [isWritten.source, written]
    simp
  refine ⟨source ▸ List.infix_append .., fun call member => ?_⟩
  obtain ⟨before, after, operators⟩ := List.append_of_mem member
  have around : substitution.source.toList =
      '{' :: referenceText ++ before.flatMap (fun call => operatorSeparator :: call.write) ++
        [operatorSeparator] ++ call.write ++
        (after.flatMap (fun call => operatorSeparator :: call.write) ++ ['}']) := by
    rw [source, operators]
    simp
  rw [around]
  exact List.infix_append ..

namespace Template

/-- The text of a substitution is a contiguous part of its template. -/
theorem isInfix_of_mem_read (member : substitution ∈ (read text).substitutions) :
    substitution.source.toList <:+: text.toList := by
  obtain ⟨before, after, segments⟩ := List.append_of_mem (mem_substitutions.mp member)
  have around : text.toList =
      (textOf before).toList ++ substitution.source.toList ++ (textOf after).toList := by
    conv_lhs => rw [← textOf_read text, segments]
    simp [textOf, Segment.source]
  rw [around]
  exact List.infix_append ..

/-- A call of a template stands in its text as it is written. -/
theorem isInfix_write_of_mem_read (member : substitution ∈ (read text).substitutions)
    (callMember : call ∈ substitution.operators) : call.write <:+: text.toList := by
  obtain ⟨referenceText, isWritten⟩ := isWrittenWith_of_mem_read (mem_substitutions.mp member)
  exact (isWritten.isInfix.2 call callMember).trans (isInfix_of_mem_read member)

/-- Nested text is a contiguous part of the template. -/
theorem Nests.isInfix (nests : (read text).Nests fragment) : fragment.toList <:+: text.toList := by
  obtain ⟨substitution, member, call, callMember, callNests⟩ := nests
  exact callNests.isInfix.trans (isInfix_write_of_mem_read member callMember)

/-- A text mentions the references of its substitutions. -/
theorem Mentions.of_substitution (member : substitution ∈ (read text).substitutions) :
    Mentions text substitution.reference :=
  .here (List.mem_flatMap.mpr ⟨substitution, member, List.mem_cons_self⟩)

/-- A text mentions the keys that its conditions use. -/
theorem Mentions.of_key {key : String} {reference : Reference}
    (member : substitution ∈ (read text).substitutions)
    (callMember : call ∈ substitution.operators) (uses : call.name = "ifuse")
    (nests : call.Nests key) (keyRead : Reference.read? key.toList = some reference) :
    Mentions text reference := by
  obtain ⟨argument, hasArgument, rfl | isPart⟩ := nests
  · cases keyRead
  · have callRefers : reference ∈ call.references := by
      rw [OperatorCall.references, if_pos uses, hasArgument]
      exact List.mem_filterMap.mpr ⟨key, by simpa using isPart, keyRead⟩
    refine .here (List.mem_flatMap.mpr ⟨substitution, member, List.mem_cons_of_mem _ ?_⟩)
    exact List.mem_flatMap.mpr ⟨call, callMember, callRefers⟩

/-- What is mentioned is written in the template. -/
theorem Mentions.exists_key {reference : Reference} (mentions : Mentions text reference) :
    ∃ key : String, key.toList <:+: text.toList ∧ Reference.read? key.toList = some reference := by
  induction mentions with
  | @here text reference refers =>
      obtain ⟨substitution, member, refers⟩ := List.mem_flatMap.mp refers
      obtain ⟨referenceText, isWritten⟩ := isWrittenWith_of_mem_read (mem_substitutions.mp member)
      rcases List.mem_cons.mp refers with rfl | refers
      · refine ⟨String.ofList referenceText, ?_, ?_⟩
        · rw [String.toList_ofList]
          exact isWritten.isInfix.1.trans (isInfix_of_mem_read member)
        · rw [String.toList_ofList]
          exact Reference.read?_eq_some_iff.mpr isWritten.reference
      · obtain ⟨call, callMember, refers⟩ := List.mem_flatMap.mp refers
        obtain ⟨key, nests, keyRead⟩ := OperatorCall.exists_key_of_mem_references refers
        exact ⟨key, nests.isInfix.trans (isInfix_write_of_mem_read member callMember), keyRead⟩
  | nested nests _ inductionHypothesis =>
      obtain ⟨key, isPart, keyRead⟩ := inductionHypothesis
      exact ⟨key, isPart.trans nests.isInfix, keyRead⟩

/-- The references that can be read in contiguous parts of a text, mentioned or not. -/
def writtenReferences (text : String) : List Reference :=
  (text.toList.tails.flatMap List.inits).filterMap Reference.read?

/-- A reference is written in a text exactly if some part of the text is read as it. -/
theorem mem_writtenReferences {reference : Reference} :
    reference ∈ writtenReferences text ↔
      ∃ key : String, key.toList <:+: text.toList ∧
        Reference.read? key.toList = some reference := by
  simp only [writtenReferences, List.mem_filterMap, List.mem_flatMap, List.mem_tails,
    List.mem_inits]
  constructor
  · rintro ⟨key, ⟨tail, isTail, isInit⟩, keyRead⟩
    refine ⟨String.ofList key, ?_, ?_⟩
    · rw [String.toList_ofList]
      exact isInit.isInfix.trans isTail.isInfix
    · rwa [String.toList_ofList]
  · rintro ⟨key, isPart, keyRead⟩
    obtain ⟨tail, isInit, isTail⟩ := List.infix_iff_prefix_suffix.mp isPart
    exact ⟨key.toList, ⟨tail, isTail, isInit⟩, keyRead⟩

/-- What a text mentions is written in it. -/
theorem Mentions.isWritten {reference : Reference} (mentions : Mentions text reference) :
    reference ∈ writtenReferences text :=
  mem_writtenReferences.mpr mentions.exists_key

end Template

end MessageTemplate
