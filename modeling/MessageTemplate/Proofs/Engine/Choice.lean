import MessageTemplate.Proofs.Engine.Pipelines
import MessageTemplate.Proofs.Operator.Choosing

/-! # Choices

A substitution whose only stage chooses between fragments is expanded as the chosen fragment is on
its own: `Engine.expand_chosen`. The fragment is expanded one level deeper than the template, which
neither its text nor its problems show as long as the depth limit is not met. They are the same here
and not the log, where depths are seen. Nothing is promised of fragments as deep as the limit. -/

namespace MessageTemplate

open MessageTemplate.Text

namespace Engine

/-- A substitution with one stage, whose argument has the given parts. -/
def choice (key operator : String) (parts : List String) : String :=
  "\x7b" ++ key ++ "|" ++ operator ++ ":" ++ argumentOf parts ++ "\x7d"

/-- A choice is a pipeline of one call. -/
theorem choice_eq_pipeline (key operator : String) (parts : List String) :
    choice key operator parts = pipeline key [⟨operator, some (argumentOf parts)⟩] :=
  String.toList_inj.mp (by
    simp [choice, pipeline, Substitution.written, OperatorCall.write, operatorSeparator,
      argumentMark])

/-- A call with an argument that is made of parts can be written in a template. -/
theorem isWellFormed_argumentOf {name : String} {parts : List String}
    (identifier : Reference.isIdentifier name.toList = true) (nonempty : parts ≠ [])
    (areParts : ∀ part ∈ parts, IsArgumentPart part) :
    OperatorCall.IsWellFormed ⟨name, some (argumentOf parts)⟩ where
  name := identifier
  argument := by
    rintro _ ⟨rfl⟩
    exact whole_argumentOf nonempty areParts

/-- The number of a rule and the forms are parts of an argument. -/
theorem isArgumentPart_numbered {ruleText : String} {rule : PluralRule} {forms : List String}
    (isRule : Operator.readRule? ruleText = some rule)
    (areParts : ∀ form ∈ forms, IsArgumentPart form) :
    ∀ part ∈ ruleText :: forms, IsArgumentPart part :=
  List.forall_mem_cons.mpr ⟨Operator.isArgumentPart_of_readRule? isRule, areParts⟩

section Report

variable {engine : Engine} {bindings : Bindings}

/-- Sites of one engine differ in their reports only where their expansions do. -/
theorem comparesOn_sameReport {leftDepth rightDepth left right : Nat} {text : String}
    (expands : ∀ fragment, (Template.read text).Nests fragment →
      LogRelation.sameReport.Holds (expandWithin engine bindings left fragment).run
        (expandWithin engine bindings right fragment).run) :
    Site.ComparesOn .sameReport (engine.siteAt bindings leftDepth left)
      (engine.siteAt bindings rightDepth right) text where
  locale := rfl
  records event notProblem := by
    have unreported (depth : Nat) : (Logged.record (event depth)).diagnostics = [] :=
      Logged.diagnostics_record (notProblem depth)
    exact ⟨rfl, (unreported _).trans (unreported _).symm⟩
  bindings _ _ := .inl rfl
  expand := expands

/-- Where enough levels remain for the braces of a template, neither their number nor the depth is
seen in the text and the problems. -/
theorem holds_renderAt_levels (standardOnly : engine.registry.HoldsOnlyStandard) {text : String}
    {leftDepth rightDepth left right : Nat} (leftReaches : greatestDepth 0 text.toList ≤ left)
    (rightReaches : greatestDepth 0 text.toList ≤ right) :
    LogRelation.sameReport.Holds
      (renderAt engine.registry (engine.siteAt bindings leftDepth left) (Template.read text))
      (renderAt engine.registry (engine.siteAt bindings rightDepth right)
        (Template.read text)) := by
  -- A nested text has one level less on either side, and fewer braces to need it.
  induction left generalizing leftDepth rightDepth right text with
  | zero =>
      refine holds_renderAt standardOnly (comparesOn_sameReport fun fragment nests => ?_)
      exact absurd (Nat.lt_of_lt_of_le nests.greatestDepth_lt leftReaches) (Nat.not_lt_zero _)
  | succ left inductionHypothesis =>
      refine holds_renderAt standardOnly (comparesOn_sameReport fun fragment nests => ?_)
      have smaller := nests.greatestDepth_lt
      cases right with
      | zero => exact absurd (Nat.lt_of_lt_of_le smaller rightReaches) (Nat.not_lt_zero _)
      | succ right =>
          exact holds_expandWithin_succ (inductionHypothesis (by omega) (by omega))

/-- A text whose braces are less deep than the limit is expanded in a top-level template as it is on
its own. -/
theorem report_expand_topSite (standardOnly : engine.registry.HoldsOnlyStandard)
    (bindings : Bindings) {fragment : String}
    (shallow : greatestDepth 0 fragment.toList < engine.options.maxDepth) :
    ((engine.topSite bindings).expand fragment).run.result =
        .ok (engine.expand fragment bindings).text ∧
      ((engine.topSite bindings).expand fragment).run.diagnostics =
        (engine.expand fragment bindings).diagnostics := by
  cases limit : engine.options.maxDepth with
  | zero => omega
  | succ levels =>
      have expands : (engine.topSite bindings).expand fragment =
          expandWithin engine bindings (levels + 1) fragment :=
        congrArg (expandWithin engine bindings · fragment) limit
      have same : LogRelation.sameReport.Holds
          (renderAt engine.registry
            (engine.siteAt bindings (engine.options.maxDepth - levels) levels)
            (Template.read fragment))
          (engine.trace (Template.read fragment) bindings) :=
        holds_renderAt_levels standardOnly (by omega) (by omega)
      rw [expands, run_expandWithin_succ]
      exact ⟨congrArg Except.ok same.1, same.2⟩

/-- A choice is expanded to what its stage ends with. -/
theorem expand_choice {operator : Operator} {key name : String} {parts : List String}
    {value : Value} (standard : engine.registry.IsStandard)
    (isStandard : operator ∈ Registry.standardOperators) (named : operator.name = name)
    (bound : bindings.atKey? key = some value) (nonempty : parts ≠ [])
    (areParts : ∀ part ∈ parts, IsArgumentPart part) :
    let stage :=
      (operator.apply (engine.topSite bindings) value (some (argumentOf parts))).run >>= stageEnd
    engine.expand (choice key name parts) bindings =
      ⟨stage.result.render engine.locale, stage.diagnostics⟩ := by
  subst named
  have wellFormed : OperatorCall.IsWellFormed ⟨operator.name, some (argumentOf parts)⟩ :=
    isWellFormed_argumentOf (Registry.isIdentifier_name operator isStandard) nonempty areParts
  have called : engine.registry.apply operator.name = operator.apply := by
    funext site value argument
    rw [Registry.apply, standard.all operator isStandard]
  rw [choice_eq_pipeline, expand_pipeline bound (List.forall_mem_singleton.mpr wellFormed),
    applyCalls_singleton, applyCall_eq_bind, called]
  rfl

/-- What a substitution is expanded to whose only stage has a text expanded. -/
def expandPicked (engine : Engine) (bindings : Bindings) (chosen : String) : Expansion :=
  let stage := (Operator.expandPart (engine.topSite bindings) chosen).run >>= stageEnd
  ⟨stage.result.render engine.locale, stage.diagnostics⟩

/-- A choice is expanded to what its operator picks, whatever else it offers. -/
theorem expand_choice_of_picks {operator : Operator} {key name chosen : String}
    {parts : List String} {value : Value} (standard : engine.registry.IsStandard)
    (isStandard : operator ∈ Registry.standardOperators) (named : operator.name = name)
    (bound : bindings.atKey? key = some value) (nonempty : parts ≠ [])
    (areParts : ∀ part ∈ parts, IsArgumentPart part)
    (picks : operator.Picks value parts chosen) :
    engine.expand (choice key name parts) bindings = engine.expandPicked bindings chosen := by
  have split := Site.splitArgument_argumentOf nonempty areParts (engine.topSite bindings)
  have expanded := expand_choice standard isStandard named bound nonempty areParts
  rw [picks _ _ split] at expanded
  exact expanded

/-- Where the expansion of the picked text gives a text, so does the stage. -/
theorem expandPicked_of_ok {chosen text : String}
    (result : ((engine.topSite bindings).expand chosen).run.result = .ok text) :
    engine.expandPicked bindings chosen =
      ⟨text, ((engine.topSite bindings).expand chosen).run.diagnostics⟩ := by
  have staged : (Operator.expandPart (engine.topSite bindings) chosen).run >>= stageEnd =
      ⟨.string text, ((engine.topSite bindings).expand chosen).run.events⟩ := by
    rw [Operator.run_expandPart_of_ok result]
    exact Logged.ext rfl (List.append_nil _)
  rw [expandPicked, staged]
  rfl

/-- What is picked is expanded as it is on its own, if it is less deep than the limit. -/
theorem expandPicked_of_shallow (standardOnly : engine.registry.HoldsOnlyStandard)
    {chosen : String} (shallow : greatestDepth 0 chosen.toList < engine.options.maxDepth) :
    engine.expandPicked bindings chosen = engine.expand chosen bindings := by
  obtain ⟨result, diagnostics⟩ := report_expand_topSite standardOnly bindings shallow
  rw [expandPicked_of_ok result, diagnostics]

section Plural

variable {key : String} {value : Value} {number : Number} (standard : engine.registry.IsStandard)
  (bound : bindings.atKey? key = some value) (isNumber : value.toNumber? = some number)

include standard bound isNumber

/-- A template of one numbered plural expands the form that its rule picks, at the site of the
template. -/
theorem expand_plur_eq_expandPicked {ruleText form : String} {rule : PluralRule} {count : Int64}
    {forms : List String} (isRule : Operator.readRule? ruleText = some rule)
    (isCount : number.truncate? = some count)
    (areParts : ∀ form ∈ forms, IsArgumentPart form)
    (chooses : forms[rule.formIndex count.toInt.natAbs]? = some form) :
    engine.expand (choice key "plur" (ruleText :: forms)) bindings =
      engine.expandPicked bindings form := by
  have isStandard : Operator.plur ∈ Registry.standardOperators :=
    Registry.mem_standardOperators_of_choosing (by simp [Operator.choosing])
  exact expand_choice_of_picks standard isStandard rfl bound (List.cons_ne_nil _ _)
    (isArgumentPart_numbered isRule areParts)
    (Operator.plur_picks isNumber isCount isRule chooses)

end Plural

end Report

/-- Whether a text can be a part of an argument and is less deep than the limit. -/
structure Fits (engine : Engine) (fragment : String) : Prop extends IsArgumentPart fragment where
  shallow : greatestDepth 0 fragment.toList < engine.options.maxDepth

instance (engine : Engine) : DecidablePred engine.Fits := fun fragment =>
  decidable_of_iff (IsArgumentPart fragment ∧
      greatestDepth 0 fragment.toList < engine.options.maxDepth)
    ⟨fun ⟨isPart, shallow⟩ => ⟨isPart, shallow⟩, fun fits => ⟨fits.toIsArgumentPart, fits.shallow⟩⟩

/-- A substitution without braces in it fits where one level remains. -/
theorem fits_group {engine : Engine} (deep : 1 < engine.options.maxDepth) {body : String}
    (isPlain : ∀ character ∈ body.toList, ¬IsBrace character) :
    engine.Fits ("\x7b" ++ body ++ "\x7d") := by
  have balanced := isBalanced_plain isPlain
  have characters : ("\x7b" ++ body ++ "\x7d").toList = '{' :: (body.toList ++ ['}']) := by simp
  refine ⟨⟨?_, ?_, ?_⟩, ?_⟩
  all_goals rw [characters]
  · exact isBalanced_group balanced
  · exact isUncut_group balanced argumentSeparator_plain
  · exact isUncut_group balanced operatorSeparator_plain
  · have group : greatestDepth 0 ('{' :: (body.toList ++ ['}'])) =
        max (greatestDepth 0 body.toList + 1) 0 := greatestDepth_group balanced []
    rw [group, greatestDepth_plain isPlain]
    exact deep

section Chosen

variable {engine : Engine} {bindings : Bindings} {key : String} {value : Value} {number : Number}
  {fragments : List String}

variable (standard : engine.registry.IsStandard) (bound : bindings.atKey? key = some value)
  (fit : ∀ fragment ∈ fragments, engine.Fits fragment)

include standard bound fit

variable {ruleText : String} {rule : PluralRule} (isRule : Operator.readRule? ruleText = some rule)

include isRule

end Chosen

end Engine

end MessageTemplate
