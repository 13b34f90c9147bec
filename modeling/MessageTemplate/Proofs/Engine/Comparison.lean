import MessageTemplate.Proofs.Engine.Rendering
import MessageTemplate.Proofs.Operator.Lookup
import MessageTemplate.Proofs.Template.Mentions

/-! # Two renderings compared

Two sites may differ in what is bound, in their depth, and in what they expand nested texts to. How
what they log is related does not depend on the way in which rendering puts it together:
`Engine.holds_renderAt` asks for it where a record is made, a reference is looked up and a text is
expanded. With operators of a user nothing of the kind is promised. -/

namespace MessageTemplate

open MessageTemplate.Text

/-- Whether a problem says that a reference or a key of `ifuse` is bound to nothing. -/
def Problem.IsMissing : Problem → Prop
  | unboundReference _ => True
  | refused (.unknownVariable operator _) => operator = "ifuse"
  | _ => False

/-- A relation between logged results that holds of each result and itself, and of related results
that go on in related ways. -/
structure LogRelation where
  Holds : {α : Type} → Logged α → Logged α → Prop
  refl : ∀ {α : Type} (logged : Logged α), Holds logged logged
  bind : ∀ {α β : Type} {left right : Logged α} {leftNext rightNext : α → Logged β},
    Holds left right → Holds (leftNext left.result) (rightNext left.result) →
      Holds (left >>= leftNext) (right >>= rightNext)

namespace LogRelation

/-- The results and the logs are the same. -/
def same : LogRelation where
  Holds left right := left = right
  refl _ := rfl
  bind := by
    rintro _ _ left _ leftNext rightNext rfl next
    have result : (leftNext left.result).result = (rightNext left.result).result :=
      congrArg Logged.result next
    exact Logged.ext result (congrArg (left.events ++ ·.events) next)

/-- The results and the problems are the same. -/
def sameReport : LogRelation where
  Holds left right := left.result = right.result ∧ left.diagnostics = right.diagnostics
  refl _ := ⟨rfl, rfl⟩
  bind := by
    rintro _ _ left right leftNext rightNext ⟨result, diagnostics⟩ ⟨nextResult, nextDiagnostics⟩
    rw [Logged.result_bind, Logged.result_bind, Logged.diagnostics_bind, Logged.diagnostics_bind,
      ← result, ← diagnostics, nextResult, nextDiagnostics]
    exact ⟨rfl, rfl⟩

/-- What reports the same does so the other way round. -/
theorem sameReport_symm {left right : Logged α} (same : sameReport.Holds left right) :
    sameReport.Holds right left :=
  ⟨same.1.symm, same.2.symm⟩

/-- What reports the same as a third does so directly. -/
theorem sameReport_trans {left between right : Logged α} (first : sameReport.Holds left between)
    (second : sameReport.Holds between right) : sameReport.Holds left right :=
  ⟨first.1.trans second.1, first.2.trans second.2⟩

/-- The results and the logs are the same, unless something is missing for the first of them. -/
def sameIfFound : LogRelation where
  Holds left right :=
    (∀ diagnostic ∈ left.diagnostics, ¬diagnostic.problem.IsMissing) → left = right
  refl _ _ := rfl
  bind := by
    intro _ _ left right leftNext rightNext first next found
    rw [Logged.diagnostics_bind, List.forall_mem_append] at found
    exact same.bind (first found.1) (next found.2)

variable {relation : LogRelation}

/-- A relation of logged results is kept by what is done to the results alone. -/
theorem map {left right : Logged α} (map : α → β) (holds : relation.Holds left right) :
    relation.Holds (map <$> left) (map <$> right) :=
  relation.bind holds (relation.refl _)

/-- Whether anything may happen on the right where something is missing on the left. -/
def ForgivesMissing (relation : LogRelation) : Prop :=
  ∀ {α : Type} (result : α) (problem : Problem), problem.IsMissing →
    ∀ logged, relation.Holds ⟨result, [.problem ⟨problem, none⟩]⟩ logged

/-- To be the same if everything is found asks nothing where something is missing. -/
theorem sameIfFound_forgivesMissing : sameIfFound.ForgivesMissing :=
  fun _ problem isMissing _ found =>
    absurd isMissing (found ⟨problem, none⟩ (List.mem_singleton_self _))

/-- Whether two sets of bindings give the same for a reference, or the first gives nothing and may
be forgiven for it. -/
def Agrees (relation : LogRelation) (left right : Bindings) (reference : Reference) : Prop :=
  left.resolve? reference = right.resolve? reference ∨
    (left.resolve? reference = none ∧ relation.ForgivesMissing)

end LogRelation

/-- Whether two sites do related things wherever they are asked for something in a template. -/
structure Site.ComparesOn (relation : LogRelation) (left right : Site) (text : String) : Prop where
  locale : left.locale = right.locale
  /-- Readings and calls are recorded. -/
  records : ∀ event : Nat → Event, (∀ depth, (event depth).isProblem = false) →
    relation.Holds (Logged.record (event left.depth)) (Logged.record (event right.depth))
  /-- References and keys are looked up. -/
  bindings : ∀ reference, Template.Mentions text reference →
    relation.Agrees left.bindings right.bindings reference
  /-- Nested texts are expanded. -/
  expand : ∀ fragment, (Template.read text).Nests fragment →
    relation.Holds (left.expand fragment).run (right.expand fragment).run

section Calls

variable {relation : LogRelation} {left right : Site}

/-- A decision carries a relation over from the texts that it has expanded. -/
theorem Decision.holds_run {decision : Decision} {left right : String → Step String}
    (expands : ∀ fragment, decision.outcome = .expand fragment →
      relation.Holds (left fragment).run (right fragment).run) :
    relation.Holds (decision.run left).run (decision.run right).run := by
  cases outcome : decision.outcome with
  | answer result =>
      simp only [run, outcome]
      exact relation.refl _
  | expand fragment =>
      rw [run_of_expand outcome, run_of_expand outcome]
      exact relation.bind (relation.refl _)
        (relation.bind (expands fragment outcome) (relation.refl _))

namespace Engine

/-- A call logs itself and goes through its stage to the end. -/
theorem applyCall_eq_bind (registry : Registry) (site : Site) (value : Value)
    (call : OperatorCall) :
    applyCall registry site value call =
      Logged.record (.called site.depth call.name) >>= fun _ =>
        (registry.apply call.name site value call.argument).run >>= stageEnd :=
  applyCall_eq registry site value call

/-- What `ifuse` ends with for a key. -/
theorem holds_useKey {left right : Bindings} {key : String}
    (agrees : ∀ reference, Reference.read? key.toList = some reference →
      relation.Agrees left right reference) :
    relation.Holds ((Operator.useKey left key).run >>= stageEnd)
      ((Operator.useKey right key).run >>= stageEnd) := by
  by_cases noKey : key = ""
  · simp only [Operator.useKey, if_pos noKey]
    exact relation.refl _
  · simp only [Operator.useKey, if_neg noKey, Bindings.atKey?]
    cases keyRead : Reference.read? key.toList with
    | none => exact relation.refl _
    | some reference =>
        rcases agrees reference keyRead with same | ⟨missing, forgives⟩
        · simp only [Option.bind_some, same]
          exact relation.refl _
        · simp only [Option.bind_some, missing]
          exact forgives Value.null (.refused (.unknownVariable "ifuse" key)) rfl _

/-- A stage of a pipeline, if its operator is a standard one. -/
theorem holds_stage {operator : Operator} (isStandard : operator ∈ Registry.standardOperators)
    {call : OperatorCall} (named : operator.name = call.name) (locale : left.locale = right.locale)
    (keys : call.name = "ifuse" → ∀ key reference, call.Nests key →
      Reference.read? key.toList = some reference →
        relation.Agrees left.bindings right.bindings reference)
    (expands : ∀ fragment, call.Nests fragment →
      relation.Holds (left.expand fragment).run (right.expand fragment).run) (value : Value) :
    relation.Holds ((operator.apply left value call.argument).run >>= stageEnd)
      ((operator.apply right value call.argument).run >>= stageEnd) := by
  -- `ifuse` alone looks at the bindings. Any other operator comes to one decision at both sites.
  rcases Operator.eq_conditionalUse_or_ignoresBindings isStandard with rfl | ignores
  · have sameBranch : Operator.chosenBranch right "ifuse" value call.argument =
        Operator.chosenBranch left "ifuse" value call.argument := rfl
    rw [Operator.conditionalUse_apply, Operator.conditionalUse_apply, sameBranch]
    cases branch : (Operator.chosenBranch left "ifuse" value call.argument).run.result with
    | error refusal =>
        rw [Step.bind_of_error _ branch, Step.bind_of_error _ branch]
        exact relation.refl _
    | ok key =>
        have nests : call.Nests key := Operator.mem_of_chosenBranch branch
        rw [Step.run_bind_of_ok _ branch, Step.run_bind_of_ok _ branch, bind_assoc, bind_assoc]
        exact relation.bind (relation.refl _)
          (holds_useKey fun reference => keys named.symm key reference nests)
  · obtain ⟨decision, isFor, decided⟩ := Operator.isDecided_of_mem_standardOperators operator
      isStandard left.locale left.bindings value call.argument
    have leftApplied : operator.apply left value call.argument = decision.run left.expand :=
      decided left.depth left.expand
    have rightApplied : operator.apply right value call.argument = decision.run right.expand := by
      rw [← ignores right left.bindings, ← decided right.depth right.expand, locale]
    rw [leftApplied, rightApplied]
    exact relation.bind
      (Decision.holds_run fun fragment outcome => expands fragment (isFor.expands fragment outcome))
      (relation.refl _)

variable {registry : Registry} {text : String} (standardOnly : registry.HoldsOnlyStandard)
  (compares : Site.ComparesOn relation left right text)

include standardOnly compares

/-- A call carries the relation over from the texts nested in the template. -/
theorem holds_applyCall {substitution : Substitution} {call : OperatorCall}
    (member : substitution ∈ (Template.read text).substitutions)
    (callMember : call ∈ substitution.operators) (value : Value) :
    relation.Holds (applyCall registry left value call) (applyCall registry right value call) := by
  rw [applyCall_eq_bind, applyCall_eq_bind]
  refine relation.bind (compares.records (.called · call.name) fun _ => rfl) ?_
  cases found : registry.get? call.name with
  | none =>
      simp only [Registry.apply, found]
      exact relation.refl _
  | some operator =>
      obtain ⟨named, isStandard⟩ := standardOnly call.name operator (Registry.mem_of_get? found)
      simp only [Registry.apply, found]
      refine holds_stage isStandard named.symm compares.locale
        (fun uses key reference nests keyRead => ?_) (fun fragment nests => ?_) value
      · exact compares.bindings reference (.of_key member callMember uses nests keyRead)
      · exact compares.expand fragment ⟨substitution, member, call, callMember, nests⟩

/-- A pipeline carries the relation over from the texts nested in the template. -/
theorem holds_applyCalls {substitution : Substitution} {calls : List OperatorCall}
    (member : substitution ∈ (Template.read text).substitutions)
    (callMembers : calls ⊆ substitution.operators) (value : Value) :
    relation.Holds (applyCalls registry left value calls)
      (applyCalls registry right value calls) := by
  induction calls generalizing value with
  | nil => exact relation.refl _
  | cons call rest inductionHypothesis =>
      obtain ⟨callMember, restMembers⟩ := List.cons_subset.mp callMembers
      exact relation.bind (holds_applyCall standardOnly compares member callMember value)
        (inductionHypothesis restMembers _)

/-- A substitution carries the relation over from the texts nested in the template. -/
theorem holds_substitute {substitution : Substitution}
    (member : substitution ∈ (Template.read text).substitutions) :
    relation.Holds (substitute registry left substitution)
      (substitute registry right substitution) := by
  rcases compares.bindings _ (.of_substitution member) with same | ⟨missing, forgives⟩
  · simp only [substitute, same, compares.locale]
    cases right.bindings.resolve? substitution.reference with
    | none => exact relation.refl _
    | some value =>
        exact relation.bind
          (holds_applyCalls standardOnly compares member (List.Subset.refl _) value)
          (relation.refl _)
  · simp only [substitute, missing]
    exact forgives substitution.source (.unboundReference substitution.source) trivial _

/-- Segments of a template are rendered in related ways. -/
theorem holds_renderSegments {segments : List Segment}
    (members : segments ⊆ (Template.read text).segments) :
    relation.Holds (renderSegments registry left segments)
      (renderSegments registry right segments) := by
  induction segments with
  | nil => exact relation.refl _
  | cons segment rest inductionHypothesis =>
      obtain ⟨member, restMembers⟩ := List.cons_subset.mp members
      refine relation.bind ?_ (relation.map _ (inductionHypothesis restMembers))
      cases segment with
      | literal literal => exact relation.refl _
      | substitution substitution =>
          exact holds_substitute standardOnly compares (Template.mem_substitutions.mpr member)

/-- Sites that do related things for a template render it in related ways. -/
theorem holds_renderAt :
    relation.Holds (renderAt registry left (Template.read text))
      (renderAt registry right (Template.read text)) := by
  have segments := holds_renderSegments standardOnly compares (List.Subset.refl _)
  exact relation.bind (compares.records (.fragment · (Template.read text).source) fun _ => rfl)
    (relation.bind (relation.refl _) (relation.bind segments (relation.refl _)))

end Engine

end Calls

end MessageTemplate
