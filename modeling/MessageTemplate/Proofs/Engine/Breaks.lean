import MessageTemplate.Proofs.Engine.Nesting
import MessageTemplate.Proofs.Operator.Script
import MessageTemplate.Proofs.Template.Mentions

/-! # What breaks an expansion off

A finite double that is formatted with too many fraction digits breaks off all that the program is
doing. `Engine.breaksByMarks_trace` says that nothing else does, with the standard operators and
with such as follow scripts: before a break, a text with too many digit marks has been read.
The marks of such a text need not be used, so it need not break anything off. -/

namespace MessageTemplate

open MessageTemplate.Text

/-- Whether an event is no reading of a text with more digit marks than the greatest precision. -/
def Event.HasFewMarks : Event → Prop
  | fragment _ text => digitMarks text.toList ≤ Digits.greatestPrecision
  | called _ _ | problem _ => True

/-- Whether a log breaks off only behind the reading of a text with too many digit marks. -/
def BreaksByMarks (events : List Event) : Prop :=
  (∀ event ∈ (Logged.mk () events).unwound.events, event.HasFewMarks) → IsUnbrokenLog events

namespace BreaksByMarks

variable {event : Event} {earlier later : List Event}

/-- A log without a break breaks off only by marks, as it does not break off. -/
theorem of_unbroken (unbroken : IsUnbrokenLog later) : BreaksByMarks later :=
  fun _ => unbroken

/-- What comes behind a text with too many marks does not matter. -/
theorem cons (goesOn : event.isBreak = false)
    (behind : event.HasFewMarks → BreaksByMarks later) : BreaksByMarks (event :: later) := by
  intro few
  rw [Logged.unwound_cons goesOn] at few
  obtain ⟨here, fewBehind⟩ := List.forall_mem_cons.mp few
  exact List.forall_mem_cons.mpr ⟨goesOn, behind here fewBehind⟩

/-- What breaks off only by marks may follow one another. -/
theorem append (first : BreaksByMarks earlier) (second : BreaksByMarks later) :
    BreaksByMarks (earlier ++ later) := by
  intro few
  by_cases goesOn : IsUnbrokenLog earlier
  · rw [Logged.unwound_append goesOn] at few
    exact isUnbrokenLog_append.mpr ⟨goesOn, second (List.forall_mem_append.mp few).2⟩
  · rw [Logged.unwound_append_of_broken goesOn ()] at few
    exact absurd (first few) goesOn

end BreaksByMarks

/-- A script that records no break leads to none but in the texts that it has expanded. -/
theorem Script.Records.breaksByMarks_run {script : Script α}
    (records : script.Records Event.IsReport) {expand : String → Step String}
    (expands : ∀ fragment, BreaksByMarks (expand fragment).run.events) :
    BreaksByMarks (script.run expand).events := by
  induction script with
  | done result => exact .of_unbroken (List.forall_mem_nil _)
  | record event rest inductionHypothesis =>
      exact .cons records.1.2 fun _ => inductionHypothesis records.2
  | expand fragment rest inductionHypothesis =>
      exact (expands fragment).append (inductionHypothesis _ (records _))

/-- Whether a site expands every text to an answer, and breaks off only for too many marks. -/
def Site.BreaksByMarks (site : Site) : Prop :=
  ∀ fragment, (site.expand fragment).IsUnbroken ∧
    MessageTemplate.BreaksByMarks (site.expand fragment).run.events

/-- Whether the argument of a call has no more digit marks than the greatest precision. -/
def OperatorCall.HasFewMarks (call : OperatorCall) : Prop :=
  ∀ text, call.argument = some text → digitMarks text.toList ≤ Digits.greatestPrecision

/-- The calls of a template with few digit marks have few of them. -/
theorem OperatorCall.HasFewMarks.of_mem_read {text : String} {substitution : Substitution}
    {call : OperatorCall} (member : substitution ∈ (Template.read text).substitutions)
    (callMember : call ∈ substitution.operators)
    (fewMarks : digitMarks text.toList ≤ Digits.greatestPrecision) : call.HasFewMarks := by
  intro argument isArgument
  have written : call.write = call.name.toList ++ [argumentMark] ++ argument.toList := by
    simp [OperatorCall.write, isArgument]
  have isInfix := Template.isInfix_write_of_mem_read member callMember
  rw [written] at isInfix
  exact Nat.le_trans
    (digitMarks_le_of_isInfix ((List.suffix_append _ _).isInfix.trans isInfix)) fewMarks

/-- A problem of syntax is no break. -/
theorem Event.isBreak_eq_false_of_isSyntax {diagnostic : Diagnostic}
    (isSyntax : diagnostic.kind.isSyntax = true) : (Event.problem diagnostic).isBreak = false := by
  rw [isBreak, beq_eq_false_iff_ne]
  intro isBreak
  rw [Diagnostic.kind, isBreak] at isSyntax
  cases isSyntax

namespace Engine

variable {registry : Registry} {site : Site} {call : OperatorCall} {calls : List OperatorCall}
  {text : String}

/-- The end of a stage breaks off exactly if it is a refusal of too many digits. -/
theorem isUnbrokenLog_stageEnd_iff {outcome : Except Refusal Value} :
    IsUnbrokenLog (stageEnd outcome).events ↔ outcome ≠ .error .tooManyDigits := by
  cases outcome with
  | ok value => simp [stageEnd, IsUnbrokenLog]
  | error refusal =>
      cases refusal <;> simp [stageEnd, IsUnbrokenLog, Event.isBreak, refusalProblem]

section Scripted

variable (scripted : registry.HoldsOnlyScripted)

include scripted

/-- A call with few digit marks is answered or refused where the texts that it has expanded are. -/
theorem isUnbroken_apply (fewMarks : call.HasFewMarks)
    (expands : ∀ fragment, (site.expand fragment).IsUnbroken) (value : Value) :
    (registry.apply call.name site value call.argument).IsUnbroken := by
  rw [Registry.apply]
  cases found : registry.get? call.name with
  | none => exact Step.isUnbroken_refuse Refusal.noConfusion
  | some operator =>
      rcases scripted call.name operator (Registry.mem_of_get? found) with
        isStandard | ⟨-, isUnbroken⟩
      · rcases Operator.eq_num_or_isUnbroken isStandard with rfl | isUnbroken
        · cases isNumber : value.toNumber? with
          | none => exact Operator.isUnbroken_num_of_none isNumber call.argument
          | some number =>
              exact (Operator.num_isUnbroken_iff isNumber call.argument).mpr
                (Operator.breaksOff_eq_false fewMarks)
        · exact isUnbroken site value call.argument expands
      · exact isUnbroken site value call.argument expands

/-- A call with few digit marks breaks off only in a text that its operator has expanded. -/
theorem breaksByMarks_applyCall (fewMarks : call.HasFewMarks) (breaks : site.BreaksByMarks)
    (value : Value) : BreaksByMarks (applyCall registry site value call).events := by
  obtain ⟨script, records, same⟩ := scripted.followsScript call.name site.locale site.bindings
    site.depth value call.argument
  have applied : (registry.apply call.name site value call.argument).run =
      script.run site.expand := same site.expand
  have answered := isUnbroken_apply scripted fewMarks (fun fragment => (breaks fragment).1) value
  rw [Step.IsUnbroken, applied] at answered
  rw [applyCall_eq, applied]
  exact .cons rfl fun _ =>
    (records.breaksByMarks_run fun fragment => (breaks fragment).2).append
      (.of_unbroken (isUnbrokenLog_stageEnd_iff.mpr answered))

/-- Calls with few digit marks break off only in texts that their operators have expanded. -/
theorem breaksByMarks_applyCalls (fewMarks : ∀ call ∈ calls, call.HasFewMarks)
    (breaks : site.BreaksByMarks) (value : Value) :
    BreaksByMarks (applyCalls registry site value calls).events := by
  induction calls generalizing value with
  | nil => exact .of_unbroken (List.forall_mem_nil _)
  | cons call rest inductionHypothesis =>
      obtain ⟨callMarks, restMarks⟩ := List.forall_mem_cons.mp fewMarks
      exact (breaksByMarks_applyCall scripted callMarks breaks value).append
        (inductionHypothesis restMarks _)

/-- A segment of a text with few digit marks breaks off only in texts that are nested in it. -/
theorem breaksByMarks_renderSegment (breaks : site.BreaksByMarks)
    (fewMarks : digitMarks text.toList ≤ Digits.greatestPrecision) (segment : Segment)
    (isSegment : segment ∈ (Template.read text).segments) :
    BreaksByMarks (renderSegment registry site segment).events := by
  cases segment with
  | literal literal => exact .of_unbroken (List.forall_mem_nil _)
  | substitution substitution =>
      rw [renderSegment]
      cases bound : site.bindings.resolve? substitution.reference with
      | none =>
          rw [substitute, bound]
          exact .of_unbroken (List.forall_mem_singleton.mpr rfl)
      | some value =>
          rw [substitute_eq_of_bound registry site bound]
          exact breaksByMarks_applyCalls scripted
            (fun call member => .of_mem_read (Template.mem_substitutions.mpr isSegment) member
              fewMarks) breaks value

/-- A template breaks off only for its own marks or for those of a text that is expanded in it. -/
theorem breaksByMarks_renderAt (breaks : site.BreaksByMarks) (text : String) :
    BreaksByMarks (renderAt registry site (Template.read text)).events := by
  have problems : IsUnbrokenLog ((Template.read text).diagnostics.map .problem) :=
    List.forall_mem_map.mpr fun diagnostic member =>
      Event.isBreak_eq_false_of_isSyntax (Template.isSyntax_of_mem_read member)
  rw [events_renderAt]
  -- The text itself is read first, so that its marks are few from there on.
  refine .cons rfl fun fewMarks => (BreaksByMarks.of_unbroken problems).append ?_
  have few : digitMarks text.toList ≤ Digits.greatestPrecision := fewMarks
  have each := breaksByMarks_renderSegment scripted breaks few
  generalize (Template.read text).segments = segments at each
  induction segments with
  | nil => exact .of_unbroken (List.forall_mem_nil _)
  | cons segment rest inductionHypothesis =>
      obtain ⟨first, later⟩ := List.forall_mem_cons.mp each
      exact first.append (inductionHypothesis later)

end Scripted

variable {engine : Engine}

/-- However many levels remain, a text is expanded to an answer, or breaks off for too many
marks. -/
theorem breaksByMarks_siteAt (scripted : engine.registry.HoldsOnlyScripted) (bindings : Bindings)
    (depth levels : Nat) : (engine.siteAt bindings depth levels).BreaksByMarks := by
  induction levels generalizing depth with
  | zero => exact fun fragment => ⟨nofun, .of_unbroken (List.forall_mem_singleton.mpr rfl)⟩
  | succ levels inductionHypothesis =>
      intro fragment
      have run := run_expandWithin_succ engine bindings levels fragment
      rw [Step.IsUnbroken, siteAt, run]
      exact ⟨nofun, breaksByMarks_renderAt scripted (inductionHypothesis _) fragment⟩

/-- An expansion breaks off only behind the reading of a text with too many digit marks. -/
theorem breaksByMarks_trace (scripted : engine.registry.HoldsOnlyScripted) (text : String)
    (bindings : Bindings) :
    BreaksByMarks (engine.trace (Template.read text) bindings).events :=
  breaksByMarks_renderAt scripted
    (breaksByMarks_siteAt scripted bindings 0 engine.options.maxDepth) text

/-- An expansion breaks off exactly where a break is logged. -/
theorem isBroken_eq_false_iff {logged : Logged α} :
    (Expansion.mk text logged.diagnostics).isBroken = false ↔ IsUnbrokenLog logged.events := by
  rw [Expansion.isBroken, List.any_eq_false]
  constructor
  · intro unbroken event member
    cases event with
    | problem diagnostic =>
        exact Bool.eq_false_iff.mpr (unbroken diagnostic (Logged.mem_diagnostics.mpr member))
    | fragment depth text => rfl
    | called depth operator => rfl
  · exact fun unbroken diagnostic member =>
      Bool.eq_false_iff.mp (unbroken _ (Logged.mem_diagnostics.mp member))

/-- An expansion does not break off exactly where its log has no break. -/
theorem isBroken_expand_eq_false_iff {bindings : Bindings} :
    (engine.expand text bindings).isBroken = false ↔
      IsUnbrokenLog (engine.trace (Template.read text) bindings).events :=
  isBroken_eq_false_iff

/-! ## Standard operators -/

/-- With standard operators, all texts that are read have few marks where the template has. -/
def fewMarks (engine : Engine) :
    NestingInvariant engine fun events => ∀ event ∈ events, event.HasFewMarks where
  Holds _ fragment := digitMarks fragment.toList ≤ Digits.greatestPrecision
  logProperty := .forall_mem fun event isStage => by
    cases event with
    | fragment depth text => cases isStage
    | called depth operator => trivial
    | problem diagnostic => trivial
  limit _ _ := List.forall_mem_singleton.mpr trivial
  reads holds _ := List.forall_mem_cons.mpr ⟨holds, List.forall_mem_map.mpr fun _ _ => trivial⟩
  nests holds nests := Nat.le_trans (digitMarks_le_of_isInfix nests.isInfix) holds

/-- With standard operators, a text with few digit marks does not break off where it is nested. -/
theorem isUnbrokenLog_expandWithin (standardOnly : engine.registry.HoldsOnlyStandard)
    (bindings : Bindings) (levels : Nat)
    (few : digitMarks text.toList ≤ Digits.greatestPrecision) :
    IsUnbrokenLog (expandWithin engine bindings levels text).run.events := by
  have logs : ∀ event ∈ (expandWithin engine bindings levels text).run.events, event.HasFewMarks :=
    engine.fewMarks.logs_expandWithin standardOnly bindings few
  have breaks := breaksByMarks_siteAt standardOnly.holdsOnlyScripted bindings 0 levels text
  exact breaks.2 fun event member => logs event (Logged.events_unwound_subset _ member)

/-- With standard operators, a template with few digit marks does not break off. -/
theorem isBroken_expand_of_fewMarks (standardOnly : engine.registry.HoldsOnlyStandard)
    (bindings : Bindings) (few : digitMarks text.toList ≤ Digits.greatestPrecision) :
    (engine.expand text bindings).isBroken = false := by
  obtain ⟨later, logged, laterFew⟩ := engine.fewMarks.exists_events_trace standardOnly
    (fun _ nests => Nat.le_trans (digitMarks_le_of_isInfix nests.isInfix) few) bindings
  have readFew : ∀ event ∈ Event.fragment 0 text :: (engine.check text).map Event.problem,
      event.HasFewMarks :=
    List.forall_mem_cons.mpr ⟨few, List.forall_mem_map.mpr fun _ _ => trivial⟩
  have allFew := List.forall_mem_append.mpr ⟨readFew, laterFew⟩
  refine isBroken_expand_eq_false_iff.mpr
    (breaksByMarks_trace standardOnly.holdsOnlyScripted text bindings fun event member => ?_)
  have logs := Logged.events_unwound_subset _ member
  rw [logged] at logs
  exact allFew event logs

end Engine

end MessageTemplate
