import MessageTemplate.Engine
import MessageTemplate.Proofs.Checked.Operators
import MessageTemplate.Proofs.Checked.Reading

/-! # Expansion never fails a check

An expansion with the standard operators that stops at the first failed check: a slice of a text
that is not one, an index behind the end of a table, a slot without a value, a depth below zero,
a scale that is not found. `holdsChecks` says that there is no such stop for any template,
history of bindings, locale and depth limit, and that what the expansion gives is what
`Engine.expand` gives.

Not promised is that a double can be rounded to any number of fraction digits: what a number
breaks off at is the refusal that it is in `Engine.expand`. Counters are not bounded, so an
expansion is not nested too deep and a text is not too long to be counted. -/

namespace MessageTemplate.Checked

open MessageTemplate.Text AttemptedStep

/-! ## The expansion -/

/-- Applies the standard operator with a name. -/
def applyNamed (name : String) (surroundings : Surroundings) (value : Value)
    (argument : Option String) : AttemptedStep Value :=
  match AttemptedOperator.standard.find? (·.name == name) with
  | some operator => operator.apply surroundings value argument
  | none => ofStep (Step.refuse (.unknownOperator name))

/-- Applies one operator call. A refusal is reported and leaves null. -/
def applyCall (surroundings : Surroundings) (value : Value) (call : OperatorCall) :
    Attempt Value := do
  Logged.record (.called surroundings.depth call.name)
  match ← (applyNamed call.name surroundings value call.argument).run with
  | .ok result => return result
  | .error refusal => do
      Logged.report (Engine.refusalProblem refusal)
      return .null

/-- Sends a value through a pipeline. -/
def applyCalls (surroundings : Surroundings) : Value → List OperatorCall → Attempt Value
  | value, [] => return value
  | value, call :: rest => do
      let result ← applyCall surroundings value call
      applyCalls surroundings result rest

/-- The text of a substitution. One that refers to nothing is copied as it is written. -/
def substitute (surroundings : Surroundings) (substitution : Substitution) : Attempt String := do
  match ← Attempt.access (surroundings.store.resolve? substitution.reference) with
  | none => do
      Logged.report (.unboundReference substitution.source)
      return substitution.source
  | some value => do
      let result ← applyCalls surroundings value substitution.operators
      return result.render surroundings.locale

/-- The text of a segment. -/
def renderSegment (surroundings : Surroundings) : Segment → Attempt String
  | .literal text => return text
  | .substitution substitution => substitute surroundings substitution

/-- The texts of segments, in order. -/
def renderSegments (surroundings : Surroundings) : List Segment → Attempt (List String)
  | [] => return []
  | segment :: rest => do
      let text ← renderSegment surroundings segment
      let texts ← renderSegments surroundings rest
      return text :: texts

/-- Reports what was read at a depth and the problems of it. -/
def reportTemplate (depth : Nat) (template : Template) : Logged Unit := do
  Logged.record (.fragment depth template.source)
  for diagnostic in template.diagnostics do
    Logged.record (.problem diagnostic)

/-- Reads a template, reports its problems and gives the text of its segments. -/
def render (surroundings : Surroundings) (text : String) : Attempt String := do
  let template ← Attempt.access (read? text)
  reportTemplate surroundings.depth template
  let texts ← renderSegments surroundings template.segments
  return String.join texts

/-- Expands nested template text where `levels` levels remain below the running expansion. -/
def expandWithin (locale : Locale) (maxDepth : Nat) (store : Store) :
    (levels : Nat) → String → AttemptedStep String
  | 0, fragment => ofStep do
      Step.report (.tooDeep fragment maxDepth)
      Step.refuse (.recursionLimit maxDepth)
  | levels + 1, fragment =>
      let surroundings : Surroundings :=
        { locale, store
          depth := maxDepth - levels
          expand := expandWithin locale maxDepth store levels }
      ExceptT.lift (render surroundings fragment)

/-- Expands a template. -/
def expand? (locale : Locale) (maxDepth : Nat) (store : Store) (text : String) :
    Option Expansion :=
  let surroundings : Surroundings :=
    { locale, store
      depth := 0
      expand := expandWithin locale maxDepth store maxDepth }
  let logged := (render surroundings text).run
  logged.result.map fun text => ⟨text, logged.diagnostics⟩

/-! ## No check fails -/

/-- Attempts that succeed one after the other are the steps that they stand for, one after the
other. -/
theorem lift_bind {first : Logged α} {next : α → Logged β} {attempted : α → Attempt β}
    (agrees : attempted first.result = OptionT.lift (next first.result)) :
    ((OptionT.lift first : Attempt α) >>= attempted) = OptionT.lift (first >>= next) := by
  refine Logged.ext ?_ ?_
  · change (attempted first.result).run.result = _
    rw [agrees]
    rfl
  · change (first.events ++ []) ++ (attempted first.result).run.events =
      (first.events ++ (next first.result).events) ++ []
    rw [agrees, List.append_nil, List.append_assoc]
    rfl

/-- An access that is in range is followed by what comes next. -/
theorem access_bind (value : α) (attempted : α → Attempt β) :
    (Attempt.access (some value) >>= attempted) = attempted value :=
  pure_bind value attempted

variable {site : Site}

/-- A name finds operators that agree, or none on either side. -/
theorem find?_of_agrees {attempted : List AttemptedOperator} {operators : List Operator}
    (agree : List.Forall₂ AttemptedOperator.Agrees attempted operators) (name : String) :
    let entries := operators.map fun operator => (operator.name, operator)
    (attempted.find? (·.name == name) = none ∧ entries.lookup name = none) ∨
      ∃ one other, attempted.find? (·.name == name) = some one ∧
        entries.lookup name = some other ∧ one.Agrees other := by
  induction agree with
  | nil => exact .inl ⟨rfl, rfl⟩
  | @cons one other _ _ here _ inductionHypothesis =>
      dsimp only
      rw [List.find?_cons, List.map_cons, List.lookup_cons, here.name, BEq.comm]
      cases name == other.name with
      | true => exact .inr ⟨one, other, rfl, rfl, here⟩
      | false => exact inductionHypothesis

/-- Looking an operator up by its name and applying it runs into no check. -/
theorem applyNamed_ofSite (distinct : site.bindings.names.Nodup) (name : String) (value : Value)
    (argument : Option String) :
    applyNamed name (.ofSite site) value argument =
      ofStep (Registry.standard.apply name site value argument) := by
  rw [applyNamed, Registry.apply, Registry.get?, Registry.entries_standard]
  rcases find?_of_agrees AttemptedOperator.agrees_standard name with
    ⟨attemptedNone, operatorNone⟩ | ⟨one, other, isOne, isOther, agrees⟩
  · rw [attemptedNone, operatorNone]
  · rw [isOne, isOther]
    exact agrees.apply site distinct value argument

/-- A call runs into no check. -/
theorem applyCall_ofSite (distinct : site.bindings.names.Nodup) (value : Value)
    (call : OperatorCall) :
    applyCall (.ofSite site) value call =
      OptionT.lift (Engine.applyCall .standard site value call) := by
  rw [applyCall, applyNamed_ofSite distinct]
  refine lift_bind ?_
  refine lift_bind ?_
  cases (Registry.standard.apply call.name site value call.argument).run.result with
  | ok result => rfl
  | error refusal => exact lift_bind rfl

/-- The calls of a pipeline run into no check. -/
theorem applyCalls_ofSite (distinct : site.bindings.names.Nodup) (value : Value)
    (calls : List OperatorCall) :
    applyCalls (.ofSite site) value calls =
      OptionT.lift (Engine.applyCalls .standard site value calls) := by
  induction calls generalizing value with
  | nil => rfl
  | cons call rest inductionHypothesis =>
      rw [applyCalls, applyCall_ofSite distinct]
      exact lift_bind (inductionHypothesis _)

/-- Filling in one substitution runs into no check. -/
theorem substitute_ofSite (distinct : site.bindings.names.Nodup) (substitution : Substitution) :
    substitute (.ofSite site) substitution =
      OptionT.lift (Engine.substitute .standard site substitution) := by
  have resolved := Store.resolve?_ofBindings distinct substitution.reference
  have isStore : (Surroundings.ofSite site).store = .ofBindings site.bindings := rfl
  rw [substitute, isStore, resolved, access_bind, Engine.substitute]
  cases site.bindings.resolve? substitution.reference with
  | none => exact lift_bind rfl
  | some value =>
      dsimp only
      rw [applyCalls_ofSite distinct]
      exact lift_bind rfl

/-- Rendering segments in order runs into no check. -/
theorem renderSegments_ofSite (distinct : site.bindings.names.Nodup) (segments : List Segment) :
    renderSegments (.ofSite site) segments =
      OptionT.lift (Engine.renderSegments .standard site segments) := by
  have renderSegment_ofSite (segment : Segment) :
      renderSegment (.ofSite site) segment =
        OptionT.lift (Engine.renderSegment .standard site segment) := by
    cases segment with
    | literal text => rfl
    | substitution substitution => exact substitute_ofSite distinct substitution
  induction segments with
  | nil => rfl
  | cons segment rest inductionHypothesis =>
      rw [renderSegments, renderSegment_ofSite, inductionHypothesis]
      exact lift_bind (lift_bind rfl)

/-- Reading a text and rendering it runs into no check, with the checked reader as well. -/
theorem render_ofSite (site : Site) (distinct : site.bindings.names.Nodup)
    (text : String) : render (.ofSite site) text =
      OptionT.lift (Engine.renderAt .standard site (Template.read text)) := by
  have split : Engine.renderAt .standard site (Template.read text) = (do
      reportTemplate site.depth (Template.read text)
      let texts ← Engine.renderSegments .standard site (Template.read text).segments
      return String.join texts) := by
    simp only [Engine.renderAt, reportTemplate, bind_assoc, pure_bind]
  rw [render, read?_eq, access_bind, renderSegments_ofSite distinct, split]
  exact lift_bind (lift_bind rfl)

variable {bindings : Bindings}

/-- Texts are expanded without a failed check down to every depth. -/
theorem expandWithin_ofBindings (distinct : bindings.names.Nodup) (engine : Engine)
    (standard : engine.registry = .standard) (levels : Nat) :
    expandWithin engine.locale engine.options.maxDepth (.ofBindings bindings) levels =
      fun text => ofStep (engine.expandWithin bindings levels text) := by
  induction levels with
  | zero => rfl
  | succ levels inductionHypothesis =>
      funext text
      have rendered := render_ofSite
        { locale := engine.locale
          bindings
          depth := engine.options.maxDepth - levels
          expand := engine.expandWithin bindings levels } distinct text
      rw [expandWithin, inductionHypothesis, Engine.expandWithin, standard]
      refine (congrArg ExceptT.lift rendered).trans ?_
      rfl

/-- An expansion without a failed check gives what the engine gives. -/
theorem expand?_ofBindings (distinct : bindings.names.Nodup) (locale : Locale)
    (options : Engine.Options) (text : String) :
    expand? locale options.maxDepth (.ofBindings bindings) text =
      some (({ locale, options } : Engine).expand text bindings) := by
  let engine : Engine := { locale, options }
  have rendered : render
      { locale
        store := .ofBindings bindings
        depth := 0
        expand := expandWithin locale options.maxDepth (.ofBindings bindings) options.maxDepth }
      text = OptionT.lift (engine.trace (Template.read text) bindings) := by
    have nested := expandWithin_ofBindings distinct engine rfl options.maxDepth
    refine (congrArg (fun expand => render ⟨locale, .ofBindings bindings, 0, expand⟩ text)
      nested).trans ?_
    exact render_ofSite (engine.topSite bindings) distinct text
  have run : (OptionT.lift (engine.trace (Template.read text) bindings) : Attempt String).run =
      ⟨some (engine.trace (Template.read text) bindings).result,
        (engine.trace (Template.read text) bindings).events⟩ :=
    Logged.ext rfl (List.append_nil _)
  rw [expand?, rendered, run]
  rfl

/-- Whether no check fails when a text is expanded with the bindings of a history, and none in any
of the steps that expansions are made of. -/
structure HoldsChecks (locale : Locale) (options : Engine.Options) (history : List Operation)
    (text : String) : Prop where
  /-- The bindings are stored, the text and all nested texts are read and expanded, and what
  comes of it is what the engine gives. -/
  expands :
    ((Store.after? history).bind fun store => expand? locale options.maxDepth store text) =
      some (({ locale, options } : Engine).expand text (Bindings.after history))
  /-- Every text is cut into at least one part. -/
  cuts : ∀ separator input, ∃ split, split? separator input = some split ∧ split.parts ≠ []
  /-- Every number of 64 bits is spelled. -/
  spells : ∀ value : UInt64,
    spellInteger? value.toNat = some (" ".intercalate (Spelling.words value.toNat))
  /-- The magnitude of a whole number is exact. -/
  measures : ∀ value : Int64, (unsignedAbs value).toNat = value.toInt.natAbs
  /-- A whole number is multiplied by a factor of a pattern exactly, or else not at all. -/
  multiplies : ∀ (value : Int64) (source : List Char) (pattern : Pattern),
    Pattern.read? source = some pattern →
      product? value (Int64.ofNat pattern.factor) = Number.int64? (value.toInt * pattern.factor)
  /-- Every number is formatted by every argument, if the argument can format it. -/
  formats : ∀ number argument,
    formatBy? locale number argument = some (Operator.formatBy? locale number argument)

/-- No expansion with the standard operators fails a check. -/
theorem holdsChecks (locale : Locale) (options : Engine.Options) (history : List Operation)
    (text : String) : HoldsChecks locale options history text where
  expands := by
    rw [Store.after?_eq, Option.bind_some]
    exact expand?_ofBindings (Bindings.nodup_names_after history) locale options text
  cuts separator input :=
    ⟨splitBalanced separator input, split?_eq separator input, by
      rw [parts_splitBalanced]
      exact splitFrom_ne_nil separator 0 input⟩
  spells value := spellInteger?_eq value.toNat_lt_size
  measures := toNat_unsignedAbs
  multiplies value _ _ isPattern := product?_eq value (factor_lt isPattern)
  formats := formatBy?_eq locale

end MessageTemplate.Checked
