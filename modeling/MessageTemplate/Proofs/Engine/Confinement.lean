import MessageTemplate.Proofs.Engine.CallSites
import MessageTemplate.Proofs.Engine.Rendering
import MessageTemplate.Proofs.Operator.Decision
import MessageTemplate.Proofs.Template.Segments

/-! # Expansion stays inside the template

An engine with none but standard operators reads nothing as a template that is not written in the
template it was given: `Engine.trace_confined` follows every nested expansion back to a stretch of
an argument. What a value or a result contains is never read. Operators of a user may expand what
they like, and nothing is promised of them. -/

namespace MessageTemplate

open MessageTemplate.Text

/-- Whether a site, where it expands a stretch of a text, logs no more than problems or else reads
the stretch one level deeper and accounts for what follows. -/
def Site.IsConfined (site : Site) (whole : List Char) : Prop :=
  ∀ fragment : Place, fragment.IsIn whole →
    (site.expand (String.ofList fragment.text)).IsQuiet ∨
    ∃ later, (site.expand (String.ofList fragment.text)).run.events =
        .fragment (site.depth + 1) (String.ofList fragment.text) :: later ∧
      AccountedFor whole fragment later

/-- What is expanded for a call is a stretch of its argument. -/
theorem Decision.IsFor.exists_stretch {decision : Decision} {call : OperatorCall} {start : Nat}
    {whole : List Char} (isFor : decision.IsFor call.argument)
    (isIn : Place.IsIn ⟨start, operatorSeparator :: call.write⟩ whole) {fragment : String}
    (expands : decision.outcome = .expand fragment) (depth : Nat) :
    ∃ stretch : Place, stretch.text = fragment.toList ∧ stretch.IsIn whole ∧
      CallSite.IsIn ⟨depth, call, start, some stretch⟩ whole := by
  obtain ⟨text, hasArgument, choice⟩ := isFor.expands fragment expands
  have stands : fragment.toList <:+: text.toList := by
    rcases choice with rfl | isPart
    · exact List.nil_infix
    · exact isInfix_of_mem_argumentParts isPart
  obtain ⟨before, after, parts⟩ := stands
  let argument : Place := ⟨start + call.name.length + 2, text.toList⟩
  let stretch : Place := ⟨argument.start + before.length, fragment.toList⟩
  have argumentIn : argument.IsIn whole := by
    refine Place.IsIn.part argument (operatorSeparator :: call.name.toList ++ [argumentMark]) []
      (?_ : Place.IsIn ⟨start, _⟩ whole) ?_
    · simpa [OperatorCall.write, hasArgument] using isIn
    · simp [argument, Nat.add_assoc, String.length_toList]
  have argumentText : argument = ⟨argument.start, before ++ stretch.text ++ after⟩ := by
    simp only [stretch, parts, argument]
  have stretchIn : stretch.IsIn whole := by
    rw [argumentText] at argumentIn
    exact argumentIn.part stretch before after rfl
  have stretchWithin : stretch.Within argument := by
    rw [argumentText]
    exact Place.within_part stretch before after rfl
  have isArgument : argument ∈ CallSite.argumentPlace? ⟨depth, call, start, some stretch⟩ := by
    rw [CallSite.argumentPlace?, hasArgument]
    rfl
  refine ⟨stretch, rfl, stretchIn, isIn, ?_⟩
  rintro _ ⟨rfl⟩
  exact ⟨stretchIn, argument, isArgument, stretchWithin⟩

namespace Engine

/-- A call logs itself, what its operator logs, and a problem where the operator refuses. -/
theorem events_applyCall (registry : Registry) (site : Site) (value : Value)
    (call : OperatorCall) :
    ∃ problems : List Diagnostic, (applyCall registry site value call).events =
      .called site.depth call.name ::
        ((registry.apply call.name site value call.argument).run.events ++
          problems.map .problem) := by
  cases result : (registry.apply call.name site value call.argument).run.result with
  | ok value => exact ⟨[], by simp [applyCall_eq, result, stageEnd]⟩
  | error refusal =>
      exact ⟨[⟨refusalProblem refusal, none⟩], by simp [applyCall_eq, result, stageEnd]⟩

section Rendering

variable {registry : Registry} {site : Site} {whole : List Char} {start : Nat}
  (standardOnly : registry.HoldsOnlyStandard) (confined : site.IsConfined whole)

include standardOnly confined

/-- A call accounts for what it logs. -/
theorem accountedFor_applyCall (value : Value) (call : OperatorCall)
    (isIn : Place.IsIn ⟨start, operatorSeparator :: call.write⟩ whole) :
    AccountedFor whole ⟨start, operatorSeparator :: call.write⟩
      (applyCall registry site value call).events := by
  obtain ⟨problems, logged⟩ := events_applyCall registry site value call
  obtain ⟨decision, isFor, decided⟩ := standardOnly.decides_apply call.name site.locale
    site.bindings value call.argument
  have applied : registry.apply call.name site value call.argument = decision.run site.expand :=
    decided site.depth site.expand
  rw [logged, applied]
  cases outcome : decision.outcome with
  | answer result =>
      simpa [Decision.run, outcome] using
        AccountedFor.call site.depth (decision.problems ++ problems) isIn
  | expand fragment =>
      obtain ⟨stretch, text, stretchIn, callIn⟩ := isFor.exists_stretch isIn outcome site.depth
      have sameText : String.ofList stretch.text = fragment := by rw [text, String.ofList_toList]
      rcases confined stretch stretchIn with ⟨others, quiet⟩ | ⟨later, reads, accounted⟩
      · rw [sameText] at quiet
        simpa [Decision.run, outcome, quiet] using
          AccountedFor.call site.depth (decision.problems ++ others ++ problems) isIn
      · have nested : (decision.run site.expand).run.events = decision.problems.map .problem ++
            .fragment (site.depth + 1) (String.ofList stretch.text) :: later := by
          rw [← reads, sameText]
          simp [Decision.run, outcome]
        rw [nested]
        exact (AccountedFor.expansion callIn rfl accounted).append_problems

/-- A pipeline accounts for what it logs, call by call. -/
theorem accountedFor_applyCalls (value : Value) (calls : List OperatorCall)
    (isIn : Place.IsIn ⟨start, calls.flatMap fun call => operatorSeparator :: call.write⟩ whole) :
    AccountedFor whole ⟨start, calls.flatMap fun call => operatorSeparator :: call.write⟩
      (applyCalls registry site value calls).events := by
  induction calls generalizing value start with
  | nil => exact .of_problems whole _ []
  | cons call rest inductionHypothesis =>
      have first := accountedFor_applyCall standardOnly confined value call isIn.append_left
      have later := inductionHypothesis (applyCall registry site value call).result
        isIn.append_right
      simp only [applyCalls, Logged.events_bind]
      exact first.append later (Nat.le_refl _) Place.within_append_left Place.within_append_right

/-- A substitution accounts for what it logs. -/
theorem accountedFor_substitute {substitution : Substitution} {referenceText : List Char}
    (isWritten : substitution.IsWrittenWith referenceText)
    (isIn : Place.IsIn ⟨start, substitution.source.toList⟩ whole) :
    AccountedFor whole ⟨start, substitution.source.toList⟩
      (substitute registry site substitution).events := by
  cases bound : site.bindings.resolve? substitution.reference with
  | none =>
      rw [substitute, bound]
      exact .of_problems whole _ [_]
  | some value =>
      let calls : Place := ⟨start + ('{' :: referenceText).length,
        substitution.operators.flatMap fun call => operatorSeparator :: call.write⟩
      have source : substitution.source.toList = '{' :: referenceText ++ calls.text ++ ['}'] := by
        rw [isWritten.source, Substitution.written]
        rfl
      rw [source] at isIn ⊢
      have piped := accountedFor_applyCalls standardOnly confined value substitution.operators
        (isIn.part calls ('{' :: referenceText) ['}'] rfl)
      have logged : (substitute registry site substitution).events =
          (applyCalls registry site value substitution.operators).events := by
        rw [substitute_eq_of_bound registry site bound]
      rw [logged]
      exact piped.widen (Place.within_part calls ('{' :: referenceText) ['}'] rfl)

/-- The segments of a template account for what they log, one after the other. -/
theorem accountedFor_segments (segments : List Segment)
    (areWritten : ∀ substitution, .substitution substitution ∈ segments →
      ∃ referenceText, substitution.IsWrittenWith referenceText)
    (isIn : Place.IsIn ⟨start, (Template.textOf segments).toList⟩ whole) :
    AccountedFor whole ⟨start, (Template.textOf segments).toList⟩
      (segments.flatMap fun segment => (renderSegment registry site segment).events) := by
  induction segments generalizing start with
  | nil => exact .of_problems whole _ []
  | cons segment rest inductionHypothesis =>
      rw [Template.textOf_cons] at isIn ⊢
      have first : AccountedFor whole ⟨start, segment.source.toList⟩
          (renderSegment registry site segment).events := by
        cases segment with
        | literal text => exact .of_problems whole _ []
        | substitution substitution =>
            obtain ⟨referenceText, isWritten⟩ := areWritten substitution List.mem_cons_self
            exact accountedFor_substitute standardOnly confined isWritten isIn.append_left
      have later := inductionHypothesis
        (fun substitution member => areWritten substitution (List.mem_cons_of_mem _ member))
        isIn.append_right
      exact first.append later (Nat.le_refl _) Place.within_append_left Place.within_append_right

/-- A template that stands in a text accounts for what its rendering logs after reading it. -/
theorem accountedFor_renderAt {place : Place} (isIn : place.IsIn whole) :
    ∃ later, (renderAt registry site (Template.read (String.ofList place.text))).events =
        .fragment site.depth (String.ofList place.text) :: later ∧
      AccountedFor whole place later := by
  have text : (Template.textOf (Template.read (String.ofList place.text)).segments).toList =
      place.text := by
    rw [Template.textOf_read, String.toList_ofList]
  have textIn : Place.IsIn
      ⟨place.start, (Template.textOf (Template.read (String.ofList place.text)).segments).toList⟩
      whole := by
    rwa [text]
  have rendered := accountedFor_segments standardOnly confined _
    (fun substitution member => Template.isWrittenWith_of_mem_read member) textIn
  rw [text] at rendered
  exact ⟨_, events_renderAt .., rendered.problems_append⟩

end Rendering

/-- However many levels remain, nested expansions are confined to the text they are nested in. -/
theorem isConfined_expandWithin {engine : Engine}
    (standardOnly : engine.registry.HoldsOnlyStandard) (bindings : Bindings) (whole : List Char)
    (levels depth : Nat) (remaining : depth + levels = engine.options.maxDepth) :
    Site.IsConfined ⟨engine.locale, bindings, depth, expandWithin engine bindings levels⟩
      whole := by
  induction levels generalizing depth with
  | zero =>
      -- Nothing is read beyond the limit: there is a problem in its place.
      exact fun fragment _ => .inl ⟨[_], rfl⟩
  | succ levels inductionHypothesis =>
      intro fragment isIn
      have deeper : engine.options.maxDepth - levels = depth + 1 := by omega
      obtain ⟨later, reads, accounted⟩ := accountedFor_renderAt standardOnly
        (inductionHypothesis (depth + 1) (by omega)) isIn
      refine .inr ⟨later, ?_, accounted⟩
      simp only [← reads, expandWithin, deeper]
      exact List.append_nil _

/-- In an engine with none but standard operators, whatever its locale and settings, an expansion
reads its template and after that only stretches of arguments of the template. The stretches are
read for different calls and do not overlap unless they are nested, so they are no more than the
operator separators of the template. -/
theorem trace_confined (engine : Engine) (standardOnly : engine.registry.HoldsOnlyStandard)
    (text : String) (bindings : Bindings) :
    ∃ later sites,
      (engine.trace (Template.read text) bindings).events = .fragment 0 text :: later ∧
      ConfinedLog text later sites := by
  have confined : (engine.topSite bindings).IsConfined text.toList :=
    isConfined_expandWithin standardOnly bindings text.toList engine.options.maxDepth 0
      (Nat.zero_add _)
  obtain ⟨later, reads, accounted⟩ :=
    accountedFor_renderAt standardOnly confined (Place.isIn_self text.toList)
  rw [String.ofList_toList] at reads
  obtain ⟨sites, confinedLog⟩ := accounted.confinedLog
  exact ⟨later, sites, reads, confinedLog⟩

/-- A value that looks like a template is copied, and the branches around it are read. -/
theorem trace_confined_nested :
    let bindings := ((Bindings.empty.insert "n" (.string "2")).insert "ok" (.bool true)).insert
      "who" (.string "{n|if:x}")
    let text := "{ok|if:{n|plural:{who};{who}s};none}"
    standard.registry.HoldsOnlyStandard ∧
      (standard.trace (Template.read text) bindings).result = "{n|if:x}s" ∧
      ∃ later sites,
        (standard.trace (Template.read text) bindings).events = .fragment 0 text :: later ∧
        ConfinedLog text later sites ∧ later.countP Event.isFragment = 2 := by
  intro bindings text
  have standardOnly : standard.registry.HoldsOnlyStandard := Registry.standard_holdsOnlyStandard
  obtain ⟨later, sites, reads, confinedLog⟩ := trace_confined standard standardOnly text bindings
  have readings :
      (standard.trace (Template.read text) bindings).events.countP Event.isFragment = 3 := by
    decide
  rw [reads, List.countP_cons] at readings
  exact ⟨standardOnly, by decide, later, sites, reads, confinedLog, Nat.succ.inj readings⟩

end Engine

end MessageTemplate
