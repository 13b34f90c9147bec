import MessageTemplate.Proofs.Engine.Comparison

/-! # Nested expansion

With standard operators, a template is expanded by stages and by expansions of the texts nested in
it: `Engine.logs_segments` says that nothing else is logged, and `Engine.renderAt_congr` that
nothing else matters. A `NestingInvariant` carries a property of nested texts down all levels, and
with it a property of what their expansions log. Nothing is promised of operators of a user. -/

namespace MessageTemplate

open MessageTemplate.Text

namespace Event

/-- Whether an event belongs to one substitution or to one stage of its pipeline. -/
def isStage : Event → Bool
  | fragment _ _ => false
  | called _ _ => true
  | problem diagnostic => diagnostic.kind.isStage

/-- Whether an event is a problem of one of the kinds that a test accepts. -/
def isProblemOf (test : DiagnosticKind → Bool) : Event → Bool
  | problem diagnostic => test diagnostic.kind
  | _ => false

end Event

/-- A property of logs that holds of what stages log and of two logs one after the other. -/
structure LogProperty (property : List Event → Prop) : Prop where
  stages : ∀ {events}, (∀ event ∈ events, event.isStage = true) → property events
  append : ∀ {first second}, property first → property second → property (first ++ second)

/-- That all events are of some sort is such a property when those of stages are of that sort. -/
theorem LogProperty.forall_mem {allowed : Event → Prop}
    (stage : ∀ event, event.isStage = true → allowed event) :
    LogProperty fun events => ∀ event ∈ events, allowed event where
  stages isStage event member := stage event (isStage event member)
  append first second := List.forall_mem_append.mpr ⟨first, second⟩

/-- Stages log no problem of a kind that is not met at stages. -/
theorem LogProperty.avoids {test : DiagnosticKind → Bool}
    (elsewhere : ∀ kind, kind.isStage = true → test kind = false) :
    LogProperty fun events => ∀ event ∈ events, event.isProblemOf test = false :=
  .forall_mem fun event isStage => by
    cases event with
    | problem diagnostic => exact elsewhere diagnostic.kind isStage
    | fragment depth text => rfl
    | called depth operator => rfl

namespace Site

/-- Whether a site logs as a property says, where it expands a nested text. -/
def Logs (site : Site) (property : List Event → Prop) (nested : String → Prop) : Prop :=
  ∀ fragment, nested fragment → property (site.expand fragment).run.events

/-- Whether two sites differ at most in how they expand texts that are not nested. -/
structure AgreesOn (left right : Site) (nested : String → Prop) : Prop where
  locale : left.locale = right.locale
  bindings : left.bindings = right.bindings
  depth : left.depth = right.depth
  expand : ∀ fragment, nested fragment → left.expand fragment = right.expand fragment

end Site

section Decisions

variable {argument : Option String} {diagnostic : Diagnostic} {decision : Decision}
  {call : OperatorCall}

/-- A balanced argument has no stray brace to report, so that only remarks remain. -/
theorem Diagnostic.IsReportOn.kind (reported : diagnostic.IsReportOn argument)
    (balanced : ∀ text, argument = some text → IsBalanced text.toList) :
    diagnostic.kind = .operatorWarning := by
  rcases reported with ⟨text, rfl⟩ | ⟨text, isArgument, offset, member, rfl⟩
  · rfl
  · have noStray : strayOffsets text.toList = [] :=
      IsBalancedFrom.strayOffsetsFrom (balanced text isArgument) 0
    rw [noStray] at member
    cases member

/-- All that a decision reports are warnings. -/
theorem Decision.IsFor.kind (isFor : decision.IsFor call.argument)
    (wellFormed : call.IsWellFormed) :
    ∀ diagnostic ∈ decision.problems, diagnostic.kind = .operatorWarning :=
  fun diagnostic member => (isFor.reports diagnostic member).kind fun text isArgument =>
    (wellFormed.argument text isArgument).1

/-- A decision logs as the texts do that are nested in its call. -/
theorem Decision.IsFor.logs_run (isFor : decision.IsFor call.argument)
    (wellFormed : call.IsWellFormed) {property : List Event → Prop}
    (logProperty : LogProperty property) {site : Site} (logs : site.Logs property call.Nests) :
    property (decision.run site.expand).run.events := by
  have problems : property (decision.problems.map .problem) := by
    refine logProperty.stages (List.forall_mem_map.mpr fun diagnostic member => ?_)
    exact congrArg DiagnosticKind.isStage (isFor.kind wellFormed diagnostic member)
  cases outcome : decision.outcome with
  | answer result =>
      simp only [run, outcome]
      exact problems
  | expand fragment =>
      have nested := logs fragment (isFor.expands fragment outcome)
      simp only [run, outcome]
      exact logProperty.append problems nested

end Decisions

namespace Engine

/-- What is logged at the end of a stage belongs to the stage. -/
theorem isStage_stageEnd (outcome : Except Refusal Value) :
    ∀ event ∈ (stageEnd outcome).events, event.isStage = true := by
  cases outcome with
  | ok value => simp [stageEnd]
  | error refusal =>
      refine List.forall_mem_singleton.mpr ?_
      cases refusal <;> rfl

section Rendering

variable {registry : Registry} {site left right : Site} {call : OperatorCall}
  {calls : List OperatorCall} {text : String}
  (standardOnly : registry.HoldsOnlyStandard)

include standardOnly

/-! ## What is logged -/

section Logged

variable {property : List Event → Prop} (logProperty : LogProperty property)

include logProperty

/-- A call logs as the texts do that are nested in it. -/
theorem logs_applyCall (wellFormed : call.IsWellFormed) (logs : site.Logs property call.Nests)
    (value : Value) : property (applyCall registry site value call).events := by
  obtain ⟨decision, isFor, decided⟩ := standardOnly.decides_apply call.name site.locale
    site.bindings value call.argument
  have applied : registry.apply call.name site value call.argument = decision.run site.expand :=
    decided site.depth site.expand
  have called : property [.called site.depth call.name] :=
    logProperty.stages (List.forall_mem_singleton.mpr rfl)
  have ending := logProperty.stages (isStage_stageEnd (decision.run site.expand).run.result)
  rw [applyCall_eq, applied]
  exact logProperty.append called
    (logProperty.append (isFor.logs_run wellFormed logProperty logs) ending)

/-- A pipeline logs as the texts do that are nested in its calls. -/
theorem logs_applyCalls (wellFormed : ∀ call ∈ calls, call.IsWellFormed)
    (logs : site.Logs property fun fragment => ∃ call ∈ calls, call.Nests fragment)
    (value : Value) : property (applyCalls registry site value calls).events := by
  induction calls generalizing value with
  | nil => exact logProperty.stages (by simp [applyCalls])
  | cons call rest inductionHypothesis =>
      obtain ⟨callWellFormed, restWellFormed⟩ := List.forall_mem_cons.mp wellFormed
      have first := logs_applyCall standardOnly logProperty callWellFormed
        (fun fragment nests => logs fragment ⟨call, List.mem_cons_self, nests⟩) value
      have later := inductionHypothesis restWellFormed
        (fun fragment ⟨other, isOther, nests⟩ =>
          logs fragment ⟨other, List.mem_cons_of_mem _ isOther, nests⟩)
        (applyCall registry site value call).result
      exact logProperty.append first later

/-- A segment logs as the texts do that are nested in the template. -/
theorem logs_renderSegment (logs : site.Logs property (Template.read text).Nests)
    (segment : Segment) (isSegment : segment ∈ (Template.read text).segments) :
    property (renderSegment registry site segment).events := by
  cases segment with
  | literal literal => exact logProperty.stages (by simp [renderSegment])
  | substitution substitution =>
      rw [renderSegment]
      cases bound : site.bindings.resolve? substitution.reference with
      | none =>
          rw [substitute, bound]
          exact logProperty.stages (List.forall_mem_singleton.mpr rfl)
      | some value =>
          have isSubstitution := Template.mem_substitutions.mpr isSegment
          rw [substitute_eq_of_bound registry site bound]
          exact logs_applyCalls standardOnly logProperty
            (Template.isWellFormed_of_mem_read isSubstitution)
            (fun fragment nests => logs fragment ⟨substitution, isSubstitution, nests⟩) value

/-- A property of what nested texts log is one of what the segments of their template log. -/
theorem logs_segments (logs : site.Logs property (Template.read text).Nests) :
    property ((Template.read text).segments.flatMap fun segment =>
      (renderSegment registry site segment).events) := by
  have each := logs_renderSegment standardOnly logProperty logs
  generalize (Template.read text).segments = segments at each
  induction segments with
  | nil => exact logProperty.stages (by simp)
  | cons segment rest inductionHypothesis =>
      obtain ⟨first, later⟩ := List.forall_mem_cons.mp each
      exact logProperty.append first (inductionHypothesis later)

end Logged

/-! ## What matters -/

/-- Sites that agree on the texts nested in a template render it alike. -/
theorem renderAt_congr (agrees : left.AgreesOn right (Template.read text).Nests) :
    renderAt registry left (Template.read text) =
      renderAt registry right (Template.read text) := by
  have compares : Site.ComparesOn .same left right text :=
    { locale := agrees.locale
      records := fun event _ => congrArg (fun depth => Logged.record (event depth)) agrees.depth
      bindings := fun reference _ => .inl (congrArg (·.resolve? reference) agrees.bindings)
      expand := fun fragment nests => congrArg ExceptT.run (agrees.expand fragment nests) }
  exact holds_renderAt standardOnly compares

end Rendering

/-! ## All levels -/

/-- The site of the operators in a text, `levels` of whose expansions may be nested below it. -/
def siteAt (engine : Engine) (bindings : Bindings) (depth levels : Nat) : Site where
  locale := engine.locale
  bindings
  depth
  expand := expandWithin engine bindings levels

/-- Where a level remains, nested text is rendered one level deeper. -/
theorem run_expandWithin_succ (engine : Engine) (bindings : Bindings) (levels : Nat)
    (fragment : String) :
    (expandWithin engine bindings (levels + 1) fragment).run =
      let rendered := renderAt engine.registry
        (engine.siteAt bindings (engine.options.maxDepth - levels) levels) (Template.read fragment)
      ⟨.ok rendered.result, rendered.events⟩ :=
  Step.run_liftM _

/-- What is expanded where a level remains is related as what it is rendered to. -/
theorem holds_expandWithin_succ {engine : Engine} {relation : LogRelation} {left right : Bindings}
    {leftLevels rightLevels : Nat} {fragment : String}
    (holds : relation.Holds
      (renderAt engine.registry
        (engine.siteAt left (engine.options.maxDepth - leftLevels) leftLevels)
        (Template.read fragment))
      (renderAt engine.registry
        (engine.siteAt right (engine.options.maxDepth - rightLevels) rightLevels)
        (Template.read fragment))) :
    relation.Holds (expandWithin engine left (leftLevels + 1) fragment).run
      (expandWithin engine right (rightLevels + 1) fragment).run :=
  relation.map Except.ok holds

/-- A trace logs the template, its problems, and then what its segments log. -/
theorem events_trace (engine : Engine) (text : String) (bindings : Bindings) :
    (engine.trace (Template.read text) bindings).events =
      .fragment 0 text :: ((engine.check text).map .problem ++
        (Template.read text).segments.flatMap fun segment =>
          (renderSegment engine.registry (engine.topSite bindings) segment).events) :=
  events_renderAt ..

/-- An expansion reports the problems of its template first. -/
theorem diagnostics_expand {engine : Engine} {text : String} {bindings : Bindings}
    {later : List Event}
    (logged : (engine.trace (Template.read text) bindings).events =
      .fragment 0 text :: ((engine.check text).map .problem ++ later)) :
    (engine.expand text bindings).diagnostics =
      engine.check text ++ (Logged.mk () later).diagnostics := by
  have reported : (engine.expand text bindings).diagnostics =
      (Logged.mk () (engine.trace (Template.read text) bindings).events).diagnostics := rfl
  have read : (Logged.mk () ((engine.check text).map .problem ++ later)).diagnostics =
      engine.check text ++ (Logged.mk () later).diagnostics := by
    rw [Logged.diagnostics_append, Logged.diagnostics_problems]
  rw [reported, logged, ← read]
  rfl

/-- A property of nested texts, by the levels that remain for their expansion, that is passed on to
the texts nested in them, and that gives a property of what their expansions log. -/
structure NestingInvariant (engine : Engine) (property : List Event → Prop) where
  Holds : (levels : Nat) → String → Prop
  logProperty : LogProperty property
  limit : ∀ fragment, Holds 0 fragment →
    property [.problem ⟨.tooDeep fragment engine.options.maxDepth, none⟩]
  reads : ∀ {levels fragment}, Holds (levels + 1) fragment → ∀ depth,
    property (.fragment depth fragment :: (engine.check fragment).map .problem)
  nests : ∀ {levels fragment inner}, Holds (levels + 1) fragment →
    (Template.read fragment).Nests inner → Holds levels inner

namespace NestingInvariant

variable {engine : Engine} {property : List Event → Prop}

/-- The property of an invariant is one of all that the expansion of a nested text logs. -/
theorem logs_expandWithin (invariant : NestingInvariant engine property)
    (standardOnly : engine.registry.HoldsOnlyStandard) (bindings : Bindings) {levels : Nat}
    {fragment : String} (holds : invariant.Holds levels fragment) :
    property (expandWithin engine bindings levels fragment).run.events := by
  induction levels generalizing fragment with
  | zero => exact invariant.limit fragment holds
  | succ levels inductionHypothesis =>
      rw [run_expandWithin_succ]
      dsimp only
      rw [events_renderAt]
      exact invariant.logProperty.append (invariant.reads holds _)
        (logs_segments standardOnly invariant.logProperty
          fun inner nests => inductionHypothesis (invariant.nests holds nests))

/-- If an invariant holds of the texts nested in a template, its property is one of all that the
expansion logs after the problems of the template itself. -/
theorem exists_events_trace (invariant : NestingInvariant engine property)
    (standardOnly : engine.registry.HoldsOnlyStandard) {text : String}
    (holds : ∀ fragment, (Template.read text).Nests fragment →
      invariant.Holds engine.options.maxDepth fragment) (bindings : Bindings) :
    ∃ later, (engine.trace (Template.read text) bindings).events =
        .fragment 0 text :: ((engine.check text).map .problem ++ later) ∧ property later :=
  ⟨_, events_trace engine text bindings, logs_segments standardOnly invariant.logProperty
    fun fragment nests => invariant.logs_expandWithin standardOnly bindings (holds fragment nests)⟩

end NestingInvariant

end Engine

end MessageTemplate
