import MessageTemplate.Operator.Registry
import MessageTemplate.Proofs.Operator.Logs
import MessageTemplate.Proofs.Text.Balance

/-! # Decisions of the standard operators

A standard operator looks at its value, its argument, the locale and the bindings, and then either
answers or leaves one text to the engine to expand. `Operator.isDecided_of_mem_standardOperators`
says so for all of them, that the text is a part of the argument or empty, and that nothing else is
reported than remarks and stray braces of the argument. Nothing is said here about which operator
chooses which part. -/

namespace MessageTemplate

open MessageTemplate.Text

/-- The parts of an argument between its top-level semicolons. -/
def argumentParts (text : String) : List String :=
  (splitTopLevel argumentSeparator text.toList).map String.ofList

/-- Whether a diagnostic is one that an operator may report of its argument: a remark, or a stray
brace of the argument. -/
def Diagnostic.IsReportOn (argument : Option String) (diagnostic : Diagnostic) : Prop :=
  (∃ text, diagnostic = ⟨.remark text, none⟩) ∨
    ∃ text, argument = some text ∧ ∃ offset ∈ strayOffsets text.toList,
      diagnostic = ⟨.strayBraceInArgument text, some offset⟩

/-- How an operator ends: with an answer, or with a text that is expanded for the answer. -/
inductive Decision.Outcome where
  | answer (result : Except Refusal Value)
  | expand (fragment : String)

/-- What an operator settles before anything is expanded. -/
structure Decision where
  problems : List Diagnostic
  outcome : Decision.Outcome

namespace Decision

/-- Carries a decision out, where `expand` expands texts. -/
def run (decision : Decision) (expand : String → Step String) : Step Value :=
  match decision.outcome with
  | .answer result => ExceptT.mk ⟨result, decision.problems.map .problem⟩
  | .expand fragment => ExceptT.mk
      ⟨(expand fragment).run.result.map .string,
        decision.problems.map .problem ++ (expand fragment).run.events⟩

/-- To carry out a decision to expand a text is to report, to expand, and to answer with the
text. -/
theorem run_of_expand {decision : Decision} {fragment : String}
    (expands : decision.outcome = .expand fragment) (expand : String → Step String) :
    (decision.run expand).run =
      (⟨(), decision.problems.map .problem⟩ : Logged Unit) >>= fun _ =>
        (expand fragment).run >>= fun result => Pure.pure (result.map .string) := by
  simp only [run, expands]
  exact Logged.ext rfl (by simp)

/-- Whether a decision concerns an argument and nothing else. -/
structure IsFor (argument : Option String) (decision : Decision) : Prop where
  /-- What is expanded is a part of the argument or the empty text. -/
  expands : ∀ fragment, decision.outcome = .expand fragment →
    ∃ text, argument = some text ∧
      (fragment = "" ∨ fragment ∈ argumentParts text)
  /-- What is reported is a remark or a stray brace of the argument. -/
  reports : ∀ diagnostic ∈ decision.problems, diagnostic.IsReportOn argument

end Decision

/-- Whether what an operator does at a depth, where `expand` expands texts, comes down to one
decision for an argument. -/
def Decides (argument : Option String) (body : Nat → (String → Step String) → Step Value) : Prop :=
  ∃ decision : Decision, decision.IsFor argument ∧
    ∀ depth expand, body depth expand = decision.run expand

/-- Whether an operator comes down to decisions, which depend on the locale, the bindings, the value
and the argument alone. -/
def Operator.IsDecided (operator : Operator) : Prop :=
  ∀ locale bindings value argument, Decides argument fun depth expand =>
    operator.apply { locale, bindings, depth, expand } value argument

/-- Whether a step logs problems only. -/
def Step.IsQuiet (step : Step α) : Prop :=
  ∃ problems : List Diagnostic, step.run.events = problems.map .problem

/-- Whether a step logs only what an operator may report of an argument. -/
def Step.ReportsOn (argument : Option String) (step : Step α) : Prop :=
  ∃ problems : List Diagnostic, (∀ diagnostic ∈ problems, diagnostic.IsReportOn argument) ∧
    step.run.events = problems.map .problem

namespace Step

variable {argument : Option String}

/-- What only gives a value reports nothing. -/
theorem reportsOn_pure (value : α) : (pure value : Step α).ReportsOn argument :=
  ⟨[], by simp, rfl⟩

/-- A refusal is not yet a report. -/
theorem reportsOn_refuse (refusal : Refusal) : (refuse refusal : Step α).ReportsOn argument :=
  ⟨[], by simp, rfl⟩

/-- To require a value reports nothing. -/
theorem reportsOn_require (refusal : Refusal) (option : Option α) :
    (require refusal option).ReportsOn argument := by
  cases option
  · exact reportsOn_refuse refusal
  · exact reportsOn_pure _

/-- A remark is a warning. -/
theorem reportsOn_remark (text : String) : (remark text).ReportsOn argument :=
  ⟨[⟨.remark text, none⟩], List.forall_mem_singleton.mpr (.inl ⟨text, rfl⟩), rfl⟩

/-- Steps that report on an argument may follow one another. -/
theorem ReportsOn.bind {first : Step α} {next : α → Step β}
    (firstReports : first.ReportsOn argument)
    (nextReports : ∀ value, (next value).ReportsOn argument) :
    (first >>= next).ReportsOn argument := by
  obtain ⟨problems, allowed, logged⟩ := firstReports
  cases result : first.run.result with
  | error refusal => exact ⟨problems, allowed, by rw [bind_of_error next result]; exact logged⟩
  | ok value =>
      obtain ⟨others, othersAllowed, othersLogged⟩ := nextReports value
      refine ⟨problems ++ others, List.forall_mem_append.mpr ⟨allowed, othersAllowed⟩, ?_⟩
      rw [bind_of_ok next result, List.map_append, ← logged, ← othersLogged]
      rfl

/-- A loop over steps that report on an argument reports on it. -/
theorem reportsOn_forIn {items : List α} {body : α → Step PUnit}
    (bodyReports : ∀ item, (body item).ReportsOn argument) :
    (forIn items PUnit.unit fun item _ => do
      body item
      pure (ForInStep.yield PUnit.unit)).ReportsOn argument := by
  induction items with
  | nil => exact reportsOn_pure _
  | cons item rest inductionHypothesis =>
      rw [List.forIn_cons, bind_assoc]
      exact (bodyReports item).bind fun _ => inductionHypothesis

end Step

/-- Cutting an argument gives its parts and logs its stray braces. -/
theorem Site.splitArgument_eq (site : Site) (text : String) :
    site.splitArgument text = ExceptT.mk ⟨.ok (argumentParts text),
      (strayOffsets text.toList).map fun offset =>
        .problem ⟨.strayBraceInArgument text, some offset⟩⟩ := by
  simp only [Site.splitArgument, parts_splitBalanced, unbalanced_splitBalanced]
  rw [Step.forIn_record]
  exact Logged.ext rfl (List.append_nil _)

/-- To expand a text is a decision. -/
theorem Operator.expandPart_eq (site : Site) (fragment : String) :
    expandPart site fragment = Decision.run ⟨[], .expand fragment⟩ site.expand := by
  cases result : (site.expand fragment).run.result with
  | error refusal =>
      refine (Step.bind_of_error _ result).trans ?_
      simp [Decision.run, result, Except.map]
  | ok value =>
      refine (Step.bind_of_ok _ result).trans ?_
      simp [Decision.run, result, Except.map]

namespace Decides

variable {argument : Option String}

/-- A step that only reports decides an answer. -/
theorem of_reportsOn {body : Nat → (String → Step String) → Step Value} (step : Step Value)
    (same : ∀ depth expand, body depth expand = step) (reports : step.ReportsOn argument) :
    Decides argument body := by
  obtain ⟨problems, allowed, logged⟩ := reports
  refine ⟨⟨problems, .answer step.run.result⟩, ⟨by simp, allowed⟩, fun depth expand => ?_⟩
  rw [same]
  exact Logged.ext rfl logged

/-- A value may be given at once. -/
theorem pure {body : Nat → (String → Step String) → Step Value} (value : Value)
    (same : ∀ depth expand, body depth expand = Pure.pure value) : Decides argument body :=
  of_reportsOn _ same (Step.reportsOn_pure value)

/-- An operator may refuse. -/
theorem refuse {body : Nat → (String → Step String) → Step Value} (refusal : Refusal)
    (same : ∀ depth expand, body depth expand = Step.refuse refusal) : Decides argument body :=
  of_reportsOn _ same (Step.reportsOn_refuse refusal)

/-- Problems may be reported before a decision. -/
theorem bind {first : Nat → (String → Step String) → Step α}
    {next : Nat → (String → Step String) → α → Step Value} (step : Step α)
    (same : ∀ depth expand, first depth expand = step) (reports : step.ReportsOn argument)
    (decides : ∀ value, step.run.result = .ok value →
      Decides argument fun depth expand => next depth expand value) :
    Decides argument fun depth expand => first depth expand >>= next depth expand := by
  obtain ⟨problems, allowed, logged⟩ := reports
  simp only [same]
  cases result : step.run.result with
  | error refusal =>
      refine ⟨⟨problems, .answer (.error refusal)⟩, ⟨by simp, allowed⟩,
        fun depth expand => (Step.bind_of_error (next depth expand) result).trans ?_⟩
      exact Logged.ext rfl logged
  | ok value =>
      obtain ⟨decision, isFor, decided⟩ := decides value result
      refine ⟨{ decision with problems := problems ++ decision.problems },
        ⟨isFor.expands, List.forall_mem_append.mpr ⟨allowed, isFor.reports⟩⟩,
        fun depth expand => (Step.bind_of_ok (next depth expand) result).trans ?_⟩
      have nextDecided : next depth expand value = decision.run expand := decided depth expand
      rw [nextDecided, logged]
      cases outcome : decision.outcome with
      | answer answer => simp [Decision.run, outcome]
      | expand fragment => simp [Decision.run, outcome]

/-- An operator may ask for something and be refused. -/
theorem require {refusal : Refusal} {next : Nat → (String → Step String) → α → Step Value}
    (option : Option α)
    (decides : ∀ value, option = some value →
      Decides argument fun depth expand => next depth expand value) :
    Decides argument fun depth expand => Step.require refusal option >>= next depth expand := by
  refine bind _ (fun _ _ => rfl) (Step.reportsOn_require refusal option) fun value result => ?_
  cases option with
  | none => cases result
  | some given =>
      cases result
      exact decides _ rfl

/-- An operator may cut its argument. -/
theorem splitArgument {text : String} (isArgument : argument = some text) {locale : Locale}
    {bindings : Bindings} {next : Nat → (String → Step String) → List String → Step Value}
    (decides : Decides argument fun depth expand => next depth expand (argumentParts text)) :
    Decides argument fun depth expand =>
      Site.splitArgument { locale, bindings, depth, expand } text >>= next depth expand := by
  refine bind _ (fun _ _ => Site.splitArgument_eq _ text) ?reports ?next
  case reports =>
    refine ⟨_, List.forall_mem_map.mpr fun offset member => ?_, (List.map_map ..).symm⟩
    exact .inr ⟨text, isArgument, offset, member, rfl⟩
  case next =>
    rintro parts ⟨rfl⟩
    exact decides

/-- The chosen part is what the engine expands. -/
theorem expandPart {text : String} (isArgument : argument = some text) {fragment : String}
    (isPart : fragment = "" ∨ fragment ∈ argumentParts text)
    {locale : Locale} {bindings : Bindings} :
    Decides argument fun depth expand =>
      Operator.expandPart { locale, bindings, depth, expand } fragment := by
  refine ⟨⟨[], .expand fragment⟩, ⟨?_, by simp⟩, fun depth expand => ?_⟩
  · rintro _ ⟨rfl⟩
    exact ⟨text, isArgument, isPart⟩
  · exact Operator.expandPart_eq _ fragment

end Decides

namespace Operator

/-- An operator that maps texts decides from the value alone. -/
theorem isDecided_mapping (name summary : String) (map : Locale → String → String) :
    (mapping name summary map).IsDecided := by
  intro locale bindings value argument
  refine Decides.require (value.toText? locale) fun text _ => ?_
  exact Decides.pure (.string (map locale text)) fun _ _ => rfl

/-- Counting characters decides from the value alone. -/
theorem isDecided_length : length.IsDecided := by
  intro locale bindings value argument
  refine Decides.require (value.toText? locale) fun text _ => ?_
  exact Decides.pure (Value.ofInt text.length) fun _ _ => rfl

/-- Folding decides from the value and the options that it is given. -/
theorem isDecided_fold : fold.IsDecided := by
  intro locale bindings value argument
  refine Decides.require (value.toText? locale) fun text _ => ?_
  obtain ⟨options, unknown⟩ := Folding.Options.read (argument.getD "")
  refine Decides.bind _ (fun _ _ => rfl) (Step.reportsOn_forIn fun _ => Step.reportsOn_remark _)
    fun _ _ => ?_
  exact Decides.pure (.string (locale.fold options text)) fun _ _ => rfl

/-- Formatting a number expands nothing. -/
theorem isDecided_num : num.IsDecided := by
  intro locale bindings value argument
  refine Decides.require value.toNumber? fun number _ => ?_
  split
  case isTrue => exact Decides.refuse .tooManyDigits fun _ _ => rfl
  case isFalse =>
    refine Decides.require (formatBy? locale number argument) fun text _ => ?_
    exact Decides.pure (.string text) fun _ _ => rfl

/-- Rounding expands nothing. -/
theorem isDecided_round : round.IsDecided := by
  intro locale bindings value argument
  refine Decides.require value.toNumber? fun number _ => ?_
  exact Decides.pure (Value.ofNumber number.roundAway) fun _ _ => rfl

/-- Negation expands nothing. -/
theorem isDecided_negation : negation.IsDecided := by
  intro locale bindings value argument
  refine Decides.require value.toBoolean? fun truth _ => ?_
  exact Decides.pure (.bool (!truth)) fun _ _ => rfl

/-- Operators that inspect a value expand nothing. -/
theorem isDecided_inspecting : ∀ operator ∈ inspecting, operator.IsDecided := by
  intro operator member locale bindings value argument
  simp only [inspecting, List.mem_cons, List.not_mem_nil, or_false] at member
  rcases member with rfl | rfl | rfl
  all_goals exact Decides.pure _ fun _ _ => rfl

/-- A plural form is one of the given forms or empty. -/
theorem mem_of_pluralForm? {singular dual : Bool} {forms : List String} {chosen : String}
    (found : pluralForm? singular dual forms = some chosen) : chosen = "" ∨ chosen ∈ forms := by
  unfold pluralForm? at found
  split at found
  all_goals grind

/-- A named plural expands one form at most. -/
theorem isDecided_pluralNamed (name summary : String) (zeroIsSingular : Bool) :
    (pluralNamed name summary zeroIsSingular).IsDecided := by
  intro locale bindings value argument
  refine Decides.require argument fun text isArgument => ?_
  refine Decides.require value.toNumber? fun number _ => ?_
  refine Decides.splitArgument isArgument ?_
  refine Decides.require (pluralForm? _ _ (argumentParts text)) fun chosen found => ?_
  exact Decides.expandPart isArgument (mem_of_pluralForm? found)

/-- A numbered plural expands one form at most. -/
theorem isDecided_plur : plur.IsDecided := by
  intro locale bindings value argument
  refine Decides.require argument fun text isArgument => ?_
  refine Decides.splitArgument isArgument ?_
  refine Decides.require (readRule? ((argumentParts text).headD "")) fun rule _ => ?_
  by_cases noForms : (argumentParts text).tail.isEmpty = true
  · simp only [noForms, if_true]
    refine Decides.bind _ (fun _ _ => rfl) (Step.reportsOn_refuse _) ?_
    rintro _ ⟨⟩
  · simp only [noForms, Bool.false_eq_true, if_false]
    refine Decides.require value.toNumber? fun number _ => ?_
    refine Decides.require number.truncate? fun whole _ => ?_
    cases found : (argumentParts text).tail[rule.formIndex whole.toInt.natAbs]? with
    | some form =>
        have member : form ∈ argumentParts text :=
          List.mem_of_mem_tail (List.mem_of_getElem? found)
        exact Decides.expandPart isArgument (.inr member)
    | none =>
        exact Decides.bind _ (fun _ _ => rfl) (Step.reportsOn_remark _) fun _ _ =>
          Decides.of_reportsOn _ (fun _ _ => rfl) (Step.reportsOn_refuse _)

/-- An item of a list is one of its members, or empty where the list has no such item. -/
theorem mem_of_getD (items : List String) (position : Nat) :
    items.getD position "" = "" ∨ items.getD position "" ∈ items := by
  rw [List.getD_eq_getElem?_getD]
  cases found : items[position]? with
  | none => exact .inl rfl
  | some item => exact .inr (List.mem_of_getElem? found)

/-- Selecting expands one item at most. -/
theorem isDecided_select : select.IsDecided := by
  intro locale bindings value argument
  refine Decides.require argument fun text isArgument => ?_
  refine Decides.require value.toNumber? fun number _ => ?_
  refine Decides.splitArgument isArgument ?_
  exact Decides.expandPart isArgument (mem_of_getD _ _)

/-- A branch may be chosen, which is a part of the argument or empty. -/
theorem decides_chosenBranch {operator : String} {value : Value} {argument : Option String}
    {locale : Locale} {bindings : Bindings}
    {next : Nat → (String → Step String) → String → Step Value}
    (decides : ∀ text chosen, argument = some text → chosen = "" ∨ chosen ∈ argumentParts text →
      Decides argument fun depth expand => next depth expand chosen) :
    Decides argument fun depth expand =>
      chosenBranch { locale, bindings, depth, expand } operator value argument >>=
        next depth expand := by
  simp only [chosenBranch, branches, bind_assoc]
  refine Decides.require argument fun text isArgument => ?_
  refine Decides.splitArgument isArgument ?_
  rcases parts : argumentParts text with _ | ⟨whenTrue, _ | ⟨whenFalse, _ | ⟨third, others⟩⟩⟩
  case cons.nil =>
    simp only [pure_bind]
    refine Decides.require value.toBoolean? fun truth _ => ?_
    refine decides text _ isArgument ?_
    cases truth <;> simp [parts]
  case cons.cons.nil =>
    simp only [pure_bind]
    refine Decides.require value.toBoolean? fun truth _ => ?_
    refine decides text _ isArgument ?_
    cases truth <;> simp [parts]
  all_goals
    refine Decides.bind _ (fun _ _ => rfl) (Step.reportsOn_refuse _) ?_
    rintro _ ⟨⟩

/-- A condition expands one branch at most. -/
theorem isDecided_conditional : conditional.IsDecided := by
  intro locale bindings value argument
  refine decides_chosenBranch fun text chosen isArgument isPart => ?_
  exact Decides.expandPart isArgument isPart

/-- A condition that uses a key expands one branch at most and looks it up. -/
theorem isDecided_conditionalUse : conditionalUse.IsDecided := by
  intro locale bindings value argument
  refine decides_chosenBranch fun text key _ _ => ?_
  by_cases noKey : key = ""
  · exact Decides.pure (.string "") fun _ _ => if_pos noKey
  · refine Decides.of_reportsOn (Step.require _ (bindings.atKey? key)) (fun _ _ => if_neg noKey) ?_
    exact Step.reportsOn_require _ _

/-- Each of the standard operators comes down to decisions. -/
theorem isDecided_of_mem_standardOperators :
    ∀ operator ∈ Registry.standardOperators, operator.IsDecided := by
  have numericDecided : ∀ operator ∈ numeric, operator.IsDecided :=
    List.forall_mem_cons.mpr ⟨isDecided_num, List.forall_mem_singleton.mpr isDecided_round⟩
  have choosingDecided : ∀ operator ∈ choosing, operator.IsDecided := by
    simp only [choosing, List.forall_mem_cons]
    exact ⟨isDecided_pluralNamed _ _ _, isDecided_pluralNamed _ _ _, isDecided_plur,
      isDecided_conditional, isDecided_conditionalUse, isDecided_select, isDecided_negation,
      by simp⟩
  have textualDecided : ∀ operator ∈ textual, operator.IsDecided := by
    simp only [textual, List.forall_mem_cons]
    exact ⟨isDecided_mapping _ _ _, isDecided_mapping _ _ _, isDecided_mapping _ _ _,
      isDecided_mapping _ _ _, isDecided_mapping _ _ _, isDecided_mapping _ _ _,
      isDecided_mapping _ _ _, isDecided_length, isDecided_fold, by simp⟩
  simp only [Registry.standardOperators, List.forall_mem_append]
  exact ⟨⟨⟨numericDecided, choosingDecided⟩, textualDecided⟩, isDecided_inspecting⟩

end Operator

/-- A part of an argument is a contiguous part of its text. -/
theorem isInfix_of_mem_argumentParts {text part : String} (member : part ∈ argumentParts text) :
    part.toList <:+: text.toList := by
  obtain ⟨characters, isPart, rfl⟩ := List.mem_map.mp member
  rw [String.toList_ofList]
  cases parts : splitTopLevel argumentSeparator text.toList with
  | nil => exact absurd parts (splitFrom_ne_nil _ _ _)
  | cons head tail =>
      rw [parts] at isPart
      rw [splitFrom_join parts]
      rcases List.mem_cons.mp isPart with rfl | later
      · exact (List.prefix_append _ _).isInfix
      · obtain ⟨before, after, rfl⟩ := List.append_of_mem later
        exact ⟨head ++ before.flatMap (argumentSeparator :: ·) ++ [argumentSeparator],
          after.flatMap (argumentSeparator :: ·), by simp⟩

namespace Registry

/-- Whether a registry holds none but standard operators, under their own names. -/
def HoldsOnlyStandard (registry : Registry) : Prop :=
  ∀ name operator, (name, operator) ∈ registry.entries →
    name = operator.name ∧ operator ∈ standardOperators

/-- What is registered after an insertion is the new operator, under its name, or was registered
before. -/
theorem mem_insert {registry : Registry} {operator other : Operator} {name : String}
    (member : (name, other) ∈ (registry.insert operator).entries) :
    (name = operator.name ∧ other = operator) ∨ (name, other) ∈ registry.entries :=
  (Entries.mem_put member).imp_left Prod.mk.inj

/-- An operator that is found under a name is registered under it. -/
theorem mem_of_get? {registry : Registry} {name : String} {operator : Operator}
    (isFound : registry.get? name = some operator) : (name, operator) ∈ registry.entries :=
  Entries.mem_of_lookup isFound

/-- The library registers its operators in their order. -/
theorem entries_standard :
    standard.entries = standardOperators.map fun operator => (operator.name, operator) := rfl

/-- The library registers its operators under their own names, and no others. -/
theorem standard_holdsOnlyStandard : standard.HoldsOnlyStandard := by
  refine List.foldlRecOn standardOperators insert (by simp [empty, HoldsOnlyStandard]) ?_
  intro registry held operator isStandard name other member
  rcases mem_insert member with ⟨rfl, rfl⟩ | before
  · exact ⟨rfl, isStandard⟩
  · exact held name other before

/-- A call of a registry of standard operators comes down to one decision. An unknown name is
refused. -/
theorem HoldsOnlyStandard.decides_apply {registry : Registry}
    (standardOnly : registry.HoldsOnlyStandard) (name : String) (locale : Locale)
    (bindings : Bindings) (value : Value) (argument : Option String) :
    Decides argument fun depth expand =>
      registry.apply name { locale, bindings, depth, expand } value argument := by
  cases found : registry.get? name with
  | none =>
      refine Decides.of_reportsOn _ (fun depth expand => ?_)
        (Step.reportsOn_refuse (.unknownOperator name))
      simp only [apply, found]
  | some operator =>
      have isStandard : operator ∈ standardOperators :=
        (standardOnly name operator (mem_of_get? found)).2
      have isDecided := Operator.isDecided_of_mem_standardOperators operator isStandard
      obtain ⟨decision, isFor, decided⟩ := isDecided locale bindings value argument
      refine ⟨decision, isFor, fun depth expand => ?_⟩
      simp only [apply, found]
      exact decided depth expand

end Registry

end MessageTemplate
