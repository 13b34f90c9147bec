import MessageTemplate.Proofs.Engine.Precision

/-! # Every expansion ends

Texts that operators have expanded need not get smaller: a variable may name itself. The rules of
`Engine.Evaluates` say how an expansion goes, with the depth of each nested one counted up to the
limit and nothing counted down. An expansion ends with its text, or else the program breaks off in
its midst, as it formats a number with too many fraction digits. `Engine.trace_evaluates` says that
the rules always lead to an end, which is what the engine gives, and when that is a text. It is the
levels below the limit that get fewer. Nothing is said of operators that have other ways to reach
an engine than to have texts expanded, or that break off by themselves. -/

namespace MessageTemplate

namespace Event

/-- Whether the depth of an event passes a test, if it has one. -/
def HasDepth (test : Nat → Prop) : Event → Prop
  | fragment depth _ | called depth _ => test depth
  | problem _ => True

variable {event : Event} {test wider : Nat → Prop}

/-- Problems have no depth that a test could fail on. -/
theorem hasDepth_of_isProblem (isProblem : event.isProblem = true) : event.HasDepth test := by
  cases event with
  | problem diagnostic => trivial
  | fragment depth text => cases isProblem
  | called depth operator => cases isProblem

/-- What has a depth of some sort has one of a wider sort. -/
theorem HasDepth.mono (hasDepth : event.HasDepth test)
    (widens : ∀ depth, test depth → wider depth) : event.HasDepth wider := by
  cases event with
  | problem diagnostic => trivial
  | fragment depth text => exact widens depth hasDepth
  | called depth operator => exact widens depth hasDepth

end Event

namespace Engine

/-! ## Rendering follows a script -/

section Rendering

variable {registry : Registry} (scripted : registry.HoldsOnlyScripted) (locale : Locale)
  (bindings : Bindings) (depth : Nat)

include scripted

/-- A call follows a script, whatever its operator expands. -/
theorem followsScript_applyCall (value : Value) (call : OperatorCall) :
    FollowsScript (Event.HasDepth (· = depth)) fun expand =>
      applyCall registry { locale, bindings, depth, expand } value call := by
  have called : FollowsScript (Event.HasDepth (· = depth)) fun _ =>
      Logged.record (.called depth call.name) :=
    .of_logged _ (List.forall_mem_singleton.mpr rfl)
  have applied : FollowsScript (Event.HasDepth (· = depth)) fun expand =>
      (registry.apply call.name { locale, bindings, depth, expand } value call.argument).run :=
    (scripted.followsScript call.name locale bindings depth value call.argument).mono
      fun _ isReport => Event.hasDepth_of_isProblem isReport.1
  refine called.bind fun _ => applied.bind fun result => ?_
  cases result with
  | ok result => exact .pure result
  | error refusal =>
      have reported : FollowsScript (Event.HasDepth (· = depth)) fun _ =>
          Logged.report (refusalProblem refusal) :=
        .of_logged _ (List.forall_mem_singleton.mpr trivial)
      exact reported.bind fun _ => .pure Value.null

/-- A pipeline follows a script. -/
theorem followsScript_applyCalls (value : Value) (calls : List OperatorCall) :
    FollowsScript (Event.HasDepth (· = depth)) fun expand =>
      applyCalls registry { locale, bindings, depth, expand } value calls := by
  induction calls generalizing value with
  | nil => exact .pure value
  | cons call rest inductionHypothesis =>
      exact (followsScript_applyCall scripted locale bindings depth value call).bind
        inductionHypothesis

/-- A segment follows a script. -/
theorem followsScript_renderSegment (segment : Segment) :
    FollowsScript (Event.HasDepth (· = depth)) fun expand =>
      renderSegment registry { locale, bindings, depth, expand } segment := by
  cases segment with
  | literal text => exact .pure text
  | substitution substitution =>
      cases bound : bindings.resolve? substitution.reference with
      | none =>
          simp only [renderSegment, substitute, bound]
          have reported : FollowsScript (Event.HasDepth (· = depth)) fun _ =>
              Logged.report (.unboundReference substitution.source) :=
            .of_logged _ (List.forall_mem_singleton.mpr trivial)
          exact reported.bind fun _ => .pure substitution.source
      | some value =>
          simp only [renderSegment, substitute, bound]
          exact (followsScript_applyCalls scripted locale bindings depth value
            substitution.operators).bind fun result => .pure (result.render locale)

/-- Segments in order follow a script. -/
theorem followsScript_renderSegments (segments : List Segment) :
    FollowsScript (Event.HasDepth (· = depth)) fun expand =>
      renderSegments registry { locale, bindings, depth, expand } segments := by
  induction segments with
  | nil => exact .pure []
  | cons segment rest inductionHypothesis =>
      exact (followsScript_renderSegment scripted locale bindings depth segment).bind fun text =>
        inductionHypothesis.bind fun texts => .pure (text :: texts)

/-- A template follows a script: it comes to the same wherever its texts are expanded alike. -/
theorem followsScript_renderAt (template : Template) :
    FollowsScript (Event.HasDepth (· = depth)) fun expand =>
      renderAt registry { locale, bindings, depth, expand } template := by
  have read : FollowsScript (Event.HasDepth (· = depth)) fun _ =>
      Logged.record (.fragment depth template.source) :=
    .of_logged _ (List.forall_mem_singleton.mpr rfl)
  refine read.bind fun _ => ?_
  refine FollowsScript.bind (.of_logged _ ?_) fun _ => ?_
  · rw [Logged.events_forIn_record]
    exact List.forall_mem_map.mpr fun _ _ => trivial
  · exact (followsScript_renderSegments scripted locale bindings depth template.segments).bind
      fun texts => .pure (String.join texts)

end Rendering

/-! ## The rules -/

/-- Whether a text is expanded at a depth as a script says, whoever expands the texts nested in
it. -/
def IsScriptAt (engine : Engine) (bindings : Bindings) (depth : Nat) (text : String)
    (script : Script String) : Prop :=
  ∀ expand, renderAt engine.registry { locale := engine.locale, bindings, depth, expand }
    (Template.read text) = script.run expand

/-- How an expansion at a depth comes to its end, from a script that remains: with a text, or with
none where the program breaks off, and with what is logged until then. -/
inductive Evaluates (engine : Engine) (bindings : Bindings) :
    (depth : Nat) → Script String → Logged (Option String) → Prop
  /-- The text is there. -/
  | done : Evaluates engine bindings depth (.done text) ⟨some text, []⟩
  /-- An event is logged. -/
  | record : event.isBreak = false → Evaluates engine bindings depth next logged →
      Evaluates engine bindings depth (.record event next) ⟨logged.result, event :: logged.events⟩
  /-- The program breaks off, and nothing comes after that. -/
  | breakOff : event.isBreak = true →
      Evaluates engine bindings depth (.record event next) ⟨none, []⟩
  /-- One level deeper is beyond the limit. Nothing is read, and the operator is refused. -/
  | refuse : engine.options.maxDepth < depth + 1 →
      Evaluates engine bindings depth (next (.error (.recursionLimit engine.options.maxDepth)))
        logged →
      Evaluates engine bindings depth (.expand fragment next)
        ⟨logged.result,
          .problem ⟨.tooDeep fragment engine.options.maxDepth, none⟩ :: logged.events⟩
  /-- A text is expanded one level deeper, and the operator gets the result. -/
  | nest : depth + 1 ≤ engine.options.maxDepth →
      engine.IsScriptAt bindings (depth + 1) fragment script →
      Evaluates engine bindings (depth + 1) script ⟨some text, nested⟩ →
      Evaluates engine bindings depth (next (.ok text)) logged →
      Evaluates engine bindings depth (.expand fragment next)
        ⟨logged.result, nested ++ logged.events⟩
  /-- The program breaks off one level deeper, and the operator gets nothing. -/
  | unwind : depth + 1 ≤ engine.options.maxDepth →
      engine.IsScriptAt bindings (depth + 1) fragment script →
      Evaluates engine bindings (depth + 1) script ⟨none, nested⟩ →
      Evaluates engine bindings depth (.expand fragment next) ⟨none, nested⟩

/-- Whether the expansion of a text at a depth comes to its end. -/
def Ends (engine : Engine) (bindings : Bindings) (depth : Nat) (text : String) : Prop :=
  ∃ script logged, engine.IsScriptAt bindings depth text script ∧
    engine.Evaluates bindings depth script logged

variable {engine : Engine} {bindings : Bindings} {depth : Nat}

/-- Every text has a script at every depth, and the script logs nothing at any other depth. -/
theorem exists_isScriptAt (scripted : engine.registry.HoldsOnlyScripted) (bindings : Bindings)
    (depth : Nat) (text : String) :
    ∃ script, script.Records (Event.HasDepth (· = depth)) ∧
      engine.IsScriptAt bindings depth text script :=
  followsScript_renderAt scripted engine.locale bindings depth (Template.read text)

/-- A script comes to its end if the texts come to theirs that it has expanded. -/
theorem exists_evaluates (nested : depth + 1 ≤ engine.options.maxDepth →
      ∀ fragment, engine.Ends bindings (depth + 1) fragment) (script : Script String) :
    ∃ logged, engine.Evaluates bindings depth script logged := by
  induction script with
  | done result => exact ⟨_, .done⟩
  | record event next inductionHypothesis =>
      cases isBreak : event.isBreak with
      | true => exact ⟨_, .breakOff isBreak⟩
      | false =>
          obtain ⟨logged, evaluates⟩ := inductionHypothesis
          exact ⟨_, .record isBreak evaluates⟩
  | expand fragment next inductionHypothesis =>
      by_cases within : depth + 1 ≤ engine.options.maxDepth
      · obtain ⟨script, ⟨ending, inner⟩, isScript, innerEvaluates⟩ := nested within fragment
        cases ending with
        | none => exact ⟨_, .unwind within isScript innerEvaluates⟩
        | some text =>
            obtain ⟨logged, evaluates⟩ := inductionHypothesis (.ok text)
            exact ⟨_, .nest within isScript innerEvaluates evaluates⟩
      · obtain ⟨logged, evaluates⟩ := inductionHypothesis (.error _)
        exact ⟨_, .refuse (Nat.lt_of_not_le within) evaluates⟩

/-- Every text comes to its end at every depth, for the levels below the limit get fewer. -/
theorem ends (scripted : engine.registry.HoldsOnlyScripted) (bindings : Bindings) (depth : Nat)
    (text : String) : engine.Ends bindings depth text := by
  obtain ⟨script, -, isScript⟩ := exists_isScriptAt scripted bindings depth text
  have nested : depth + 1 ≤ engine.options.maxDepth →
      ∀ fragment, engine.Ends bindings (depth + 1) fragment :=
    fun below fragment => ends scripted bindings (depth + 1) fragment
  obtain ⟨logged, evaluates⟩ := exists_evaluates nested script
  exact ⟨script, logged, isScript, evaluates⟩
termination_by engine.options.maxDepth - depth

/-! ## The engine keeps to the rules -/

/-- The site of the operators in a text at a depth. -/
def siteAtDepth (engine : Engine) (bindings : Bindings) (depth : Nat) : Site :=
  engine.siteAt bindings depth (engine.options.maxDepth - depth)

/-- Below the limit, an operator has texts expanded at the depth after its own. -/
theorem run_expand_siteAtDepth_of_lt (below : depth < engine.options.maxDepth)
    (fragment : String) :
    ((engine.siteAtDepth bindings depth).expand fragment).run =
      let rendered := renderAt engine.registry (engine.siteAtDepth bindings (depth + 1))
        (Template.read fragment)
      ⟨.ok rendered.result, rendered.events⟩ := by
  obtain ⟨levels, remaining⟩ : ∃ levels, engine.options.maxDepth = depth + (levels + 1) :=
    ⟨engine.options.maxDepth - (depth + 1), by omega⟩
  have here : engine.options.maxDepth - depth = levels + 1 := by omega
  have deeper : engine.options.maxDepth - (depth + 1) = levels := by omega
  have depthDeeper : engine.options.maxDepth - levels = depth + 1 := by omega
  have expands : (engine.siteAtDepth bindings depth).expand fragment =
      expandWithin engine bindings (levels + 1) fragment := by
    rw [siteAtDepth, siteAt, here]
  rw [expands, run_expandWithin_succ, siteAtDepth, deeper, depthDeeper]

/-- At the limit, nothing is read. The operator is refused, and there is one problem. -/
theorem run_expand_siteAtDepth_maxDepth (engine : Engine) (bindings : Bindings)
    (fragment : String) :
    ((engine.siteAtDepth bindings engine.options.maxDepth).expand fragment).run =
      ⟨.error (.recursionLimit engine.options.maxDepth),
        [.problem ⟨.tooDeep fragment engine.options.maxDepth, none⟩]⟩ := by
  rw [siteAtDepth, siteAt, Nat.sub_self]
  rfl

/-- What the rules lead to is what the engine gives, as far as the program comes. -/
theorem Evaluates.eq_run {script : Script String} {logged : Logged (Option String)}
    (evaluates : engine.Evaluates bindings depth script logged)
    (within : depth ≤ engine.options.maxDepth) :
    logged = (script.run (engine.siteAtDepth bindings depth).expand).unwound := by
  induction evaluates with
  | done => rfl
  | record goesOn _ inductionHypothesis =>
      rw [Script.run, Logged.unwound_cons goesOn, inductionHypothesis within]
  | breakOff isBreak => rw [Script.run, Logged.unwound_cons_of_isBreak isBreak]
  | @refuse depth next logged fragment beyond _ inductionHypothesis =>
      obtain rfl : depth = engine.options.maxDepth := by omega
      rw [Script.run, run_expand_siteAtDepth_maxDepth]
      dsimp only
      rw [List.singleton_append, Logged.unwound_cons rfl, inductionHypothesis within]
  | @nest depth fragment script text nested next logged below isScript _ _ nestedHypothesis
      inductionHypothesis =>
      have rendered : renderAt engine.registry (engine.siteAtDepth bindings (depth + 1))
          (Template.read fragment) = script.run (engine.siteAtDepth bindings (depth + 1)).expand :=
        isScript _
      obtain ⟨goesOn, ran⟩ := Logged.of_unwound_eq_some (nestedHypothesis below).symm
      rw [ran] at goesOn
      rw [Script.run, run_expand_siteAtDepth_of_lt below, rendered, ran]
      dsimp only
      rw [Logged.unwound_append goesOn, inductionHypothesis within]
  | @unwind depth fragment script nested next below isScript _ nestedHypothesis =>
      have rendered : renderAt engine.registry (engine.siteAtDepth bindings (depth + 1))
          (Template.read fragment) = script.run (engine.siteAtDepth bindings (depth + 1)).expand :=
        isScript _
      have ending := nestedHypothesis below
      have breaks := Logged.result_unwound_eq_none_iff.mp (congrArg Logged.result ending).symm
      rw [Script.run, run_expand_siteAtDepth_of_lt below, rendered]
      dsimp only
      rw [Logged.unwound_append_of_broken breaks, ← ending]

/-- No depth in a log is beyond the limit. -/
theorem hasDepth_renderAt (scripted : engine.registry.HoldsOnlyScripted) (bindings : Bindings)
    (depth : Nat) (within : depth ≤ engine.options.maxDepth) (text : String) :
    ∀ event ∈ (renderAt engine.registry (engine.siteAtDepth bindings depth)
        (Template.read text)).events,
      event.HasDepth (· ≤ engine.options.maxDepth) := by
  obtain ⟨script, records, isScript⟩ := exists_isScriptAt scripted bindings depth text
  have rendered : renderAt engine.registry (engine.siteAtDepth bindings depth)
      (Template.read text) = script.run (engine.siteAtDepth bindings depth).expand := isScript _
  rw [rendered]
  refine (records.mono fun _ hasDepth => hasDepth.mono fun _ same => ?_).forall_mem_run
    fun fragment => ?_
  · exact same.trans_le within
  · rcases Nat.lt_or_eq_of_le within with below | rfl
    · rw [run_expand_siteAtDepth_of_lt below]
      exact hasDepth_renderAt scripted bindings (depth + 1) below fragment
    · rw [run_expand_siteAtDepth_maxDepth]
      exact List.forall_mem_singleton.mpr trivial
termination_by engine.options.maxDepth - depth

/-- What operators see and get on each level. -/
structure RespectsLimit (engine : Engine) (bindings : Bindings) : Prop where
  top : engine.topSite bindings = engine.siteAtDepth bindings 0
  depth : ∀ depth, (engine.siteAtDepth bindings depth).depth = depth
  /-- Below the limit, an operator gets the text that is rendered one level deeper, unless the
  program breaks off there. -/
  below : ∀ depth fragment, depth < engine.options.maxDepth →
    ((engine.siteAtDepth bindings depth).expand fragment).run.unwound =
      let rendered := (renderAt engine.registry (engine.siteAtDepth bindings (depth + 1))
        (Template.read fragment)).unwound
      ⟨rendered.result.map .ok, rendered.events⟩
  /-- At the limit it is refused. Nothing is read, and there is one problem. -/
  limit : ∀ fragment,
    ((engine.siteAtDepth bindings engine.options.maxDepth).expand fragment).run =
      ⟨.error (.recursionLimit engine.options.maxDepth),
        [.problem ⟨.tooDeep fragment engine.options.maxDepth, none⟩]⟩

/-- An engine gives operators what the limit allows. -/
theorem respectsLimit (engine : Engine) (bindings : Bindings) : engine.RespectsLimit bindings where
  top := rfl
  depth _ := rfl
  below depth fragment inside := by
    rw [run_expand_siteAtDepth_of_lt inside]
    exact Logged.unwound_mk_map Except.ok _
  limit := run_expand_siteAtDepth_maxDepth engine bindings

/-- Whether the expansion of a text comes to its end by the rules, and how. -/
structure ComesToEnd (engine : Engine) (bindings : Bindings) (text : String) : Prop where
  script : ∃ script, engine.IsScriptAt bindings 0 text script
  /-- The rules lead to one end, which is what the engine gives as far as the program comes. -/
  evaluates : ∀ script, engine.IsScriptAt bindings 0 text script → ∀ logged,
    engine.Evaluates bindings 0 script logged ↔
      logged = (engine.trace (Template.read text) bindings).unwound
  /-- An expansion that does not break off returns its text. -/
  returns : (engine.expand text bindings).isBroken = false →
    (engine.trace (Template.read text) bindings).unwound =
      ⟨some (engine.expand text bindings).text,
        (engine.trace (Template.read text) bindings).events⟩
  /-- One that breaks off returns nothing. -/
  breaksOff : (engine.expand text bindings).isBroken = true →
    (engine.trace (Template.read text) bindings).unwound.result = none
  /-- It breaks off only where it has read a text with more digit marks than a number can be
  formatted with. -/
  onlyMarks : (∀ event ∈ (engine.trace (Template.read text) bindings).unwound.events,
      event.HasFewMarks) → (engine.expand text bindings).isBroken = false
  /-- Nothing is read and no operator is called beyond the limit. -/
  depths : ∀ event ∈ (engine.trace (Template.read text) bindings).events,
    event.HasDepth (· ≤ engine.options.maxDepth)
  limit : engine.RespectsLimit bindings

/-- With operators that follow scripts, each expansion comes to an end by the rules, in one way,
and this is what the engine gives. It is a text unless a number is formatted with too many fraction
digits. No operator sees a depth beyond the limit. -/
theorem trace_evaluates (engine : Engine) (scripted : engine.registry.HoldsOnlyScripted)
    (text : String) (bindings : Bindings) : engine.ComesToEnd bindings text := by
  obtain ⟨script, -, isScript⟩ := exists_isScriptAt scripted bindings 0 text
  constructor
  case script => exact ⟨script, isScript⟩
  case evaluates =>
    intro script isScript logged
    have rendered : engine.trace (Template.read text) bindings =
        script.run (engine.siteAtDepth bindings 0).expand := isScript _
    constructor
    · intro evaluates
      rw [rendered, evaluates.eq_run (Nat.zero_le _)]
    · rintro rfl
      obtain ⟨logged, evaluates⟩ := exists_evaluates
        (fun _ fragment => ends scripted bindings 1 fragment) script
      rwa [rendered, ← evaluates.eq_run (Nat.zero_le _)]
  case returns =>
    exact fun goesOn => Logged.unwound_of_unbroken (isBroken_expand_eq_false_iff.mp goesOn)
  case breaksOff =>
    intro isBroken
    rw [Logged.result_unwound_eq_none_iff, ← isBroken_expand_eq_false_iff, isBroken]
    exact Bool.noConfusion
  case onlyMarks =>
    exact fun few => isBroken_expand_eq_false_iff.mpr (breaksByMarks_trace scripted text bindings few)
  case depths => exact hasDepth_renderAt scripted bindings 0 (Nat.zero_le _) text
  case limit => exact respectsLimit engine bindings

/-- A variable that names itself is expanded down to the limit and no further. One and a half,
formatted with one fraction digit more than can be, breaks off what expands it. -/
theorem trace_evaluates_reexpand :
    let engine : Engine :=
      { registry := Registry.standard.insert .reexpand, options := { maxDepth := 3 } }
    let bindings := (Bindings.empty.insert "x" (.string "{x|reexpand}")).insert "h"
      (.float (Float.ofBits 0x3FF8000000000000))
    let traced := engine.trace (Template.read "{x|reexpand}") bindings
    let tooLong := formatting "h" (String.ofList (Pattern.marks 65536))
    engine.registry.HoldsOnlyScripted ∧
      (∃ script, engine.IsScriptAt bindings 0 "{x|reexpand}" script ∧
        engine.Evaluates bindings 0 script ⟨some "(null)", traced.events⟩) ∧
      (∀ event ∈ traced.events, event.HasDepth (· ≤ 3)) ∧
      traced.events.countP Event.isFragment = 4 ∧
      traced.diagnostics.map Diagnostic.kind = [.recursionLimit, .operatorFailed] ∧
      standard.registry.HoldsOnlyScripted ∧
      ∃ script logged, standard.IsScriptAt bindings 0 tooLong script ∧
        standard.Evaluates bindings 0 script logged ∧ logged.result = none := by
  intro engine bindings traced tooLong
  have standardScripted := Registry.standard_holdsOnlyStandard.holdsOnlyScripted
  have scripted : engine.registry.HoldsOnlyScripted := by
    intro name operator member
    rcases Registry.mem_insert member with ⟨-, rfl⟩ | isStandard
    · exact .inr ⟨Operator.isScripted_reexpand, Operator.isUnbroken_reexpand⟩
    · exact standardScripted name operator isStandard
  have nested := trace_evaluates engine scripted "{x|reexpand}" bindings
  have cut := trace_evaluates standard standardScripted tooLong bindings
  refine ⟨scripted, ?ends, nested.depths, by decide, by decide, standardScripted, ?breaks⟩
  case ends =>
    obtain ⟨script, isScript⟩ := nested.script
    have expanded : (engine.expand "{x|reexpand}" bindings).text = "(null)" := by decide
    have returned := nested.returns (by decide)
    rw [expanded] at returned
    exact ⟨script, isScript, (nested.evaluates script isScript _).mpr returned.symm⟩
  case breaks =>
    obtain ⟨script, isScript⟩ := cut.script
    have bound : bindings.atKey? "h" = some (.float (Float.ofBits 0x3FF8000000000000)) := rfl
    have isBroken : (standard.expand tooLong bindings).isBroken = true :=
      (isBroken_formatting_iff Registry.standard_isStandard bound rfl
        (isWellFormed_marks 65536)).mpr (asksTooMuch_marks (by decide) (by decide))
    exact ⟨script, _, isScript, (cut.evaluates script isScript _).mpr rfl, cut.breaksOff isBroken⟩

end Engine

end MessageTemplate
