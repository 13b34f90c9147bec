import MessageTemplate.Proofs.Engine.Breaks
import MessageTemplate.Proofs.Engine.Pipelines
import MessageTemplate.Proofs.Operator.Choosing

/-! # The precision limit

An expansion is to end with a text whatever its template says, but a finite double that is
formatted with more than 65535 fraction digits breaks it off. `Engine.limitsPrecision` says for
engines with the standard operators that nothing else does: a template with no more digit marks
than that never breaks off, and one that formats a number by a pattern breaks off exactly beyond
that limit. -/

namespace MessageTemplate

open MessageTemplate.Text

/-- The operator that formats numbers is a standard one. -/
theorem Registry.num_mem_standardOperators :
    Operator.num ∈ standardOperators := by
  simp [standardOperators, Operator.numeric]

namespace Engine

/-- A call breaks off exactly where its operator does. -/
theorem isUnbrokenLog_applyCall_iff {registry : Registry} {site : Site} {call : OperatorCall}
    {value : Value}
    (quiet : IsUnbrokenLog (registry.apply call.name site value call.argument).run.events) :
    IsUnbrokenLog (applyCall registry site value call).events ↔
      (registry.apply call.name site value call.argument).IsUnbroken := by
  rw [applyCall_eq, Step.IsUnbroken, ← isUnbrokenLog_stageEnd_iff]
  simp only [IsUnbrokenLog, List.forall_mem_cons, List.forall_mem_append]
  exact ⟨fun all => all.2.2, fun ends => ⟨rfl, quiet, ends⟩⟩

/-- A template that formats the value of a key. -/
def formatting (key format : String) : String :=
  "\x7b" ++ key ++ "|num:" ++ format ++ "\x7d"

/-- Whether formatting a number by a text asks for too many fraction digits: the text is a
pattern that has more of them than the greatest precision, and the scaled number is a finite
double. -/
def AsksTooMuch (number : Number) (format : String) : Prop :=
  ∃ pattern double, NumberStyle.ofKeyword? format = none ∧
    Pattern.read? format.toList = some pattern ∧ number.scale pattern.factor = .float double ∧
    Decimal.isFinite double = true ∧ Digits.greatestPrecision < pattern.mostFraction

/-- The operator breaks off exactly if its format asks for too much. -/
theorem breaksOff_iff_asksTooMuch {number : Number} {format : String} :
    Operator.breaksOff number (some format) = true ↔ AsksTooMuch number format := by
  rw [Operator.breaksOff_iff]
  constructor
  · rintro ⟨_, pattern, ⟨rfl⟩, noStyle, isPattern, breaks⟩
    simp only [Pattern.breaksOff, Digits.breaksOff] at breaks
    split at breaks
    · cases breaks
    · next double scaled =>
        rw [Bool.and_eq_true, decide_eq_true_eq] at breaks
        exact ⟨pattern, double, noStyle, isPattern, scaled, breaks.1, breaks.2⟩
  · rintro ⟨pattern, double, noStyle, isPattern, scaled, isFinite, tooMany⟩
    refine ⟨format, pattern, rfl, noStyle, isPattern, ?_⟩
    simp [Pattern.breaksOff, Digits.breaksOff, scaled, isFinite, tooMany]

/-- A point with marks behind it asks for too much of a finite double where there are more of
them than the greatest precision. -/
theorem asksTooMuch_marks {double : Float}
    (isFinite : Decimal.isFinite (double * Float.ofNat 1) = true)
    {count : Nat} (tooMany : Digits.greatestPrecision < count) :
    AsksTooMuch (.float double) (String.ofList (Pattern.marks count)) := by
  have noStyle : NumberStyle.ofKeyword? (String.ofList (Pattern.marks count)) = none := by
    unfold NumberStyle.ofKeyword?
    split
    all_goals first
      | rfl
      | next isKeyword =>
          have characters := congrArg String.toList isKeyword
          simp [Pattern.marks] at characters
  have isPattern := Pattern.read?_marks count
  rw [← String.toList_ofList (l := Pattern.marks count)] at isPattern
  exact ⟨_, double * Float.ofNat 1, noStyle, isPattern, by rw [Number.scale], isFinite, tooMany⟩

/-- A point with marks behind it can be written as an argument. -/
theorem isWellFormed_marks (count : Nat) :
    OperatorCall.IsWellFormed ⟨"num", some (String.ofList (Pattern.marks count))⟩ where
  name := Registry.isIdentifier_name Operator.num Registry.num_mem_standardOperators
  argument := by
    rintro _ ⟨rfl⟩
    have plain : ∀ character ∈ Pattern.marks count,
        ¬IsBrace character ∧ character ≠ operatorSeparator := by
      simp [Pattern.marks, List.mem_replicate, IsBrace, operatorSeparator]
    rw [String.toList_ofList]
    exact ⟨isBalanced_plain fun character member => (plain character member).1, isUncut_plain plain⟩

section Formatting

variable {key format : String}

/-- A template that formats a value is a pipeline of one call. -/
theorem formatting_eq_pipeline (key format : String) :
    formatting key format = pipeline key [⟨"num", some format⟩] :=
  String.toList_inj.mp (by
    simp [formatting, pipeline, Substitution.written, OperatorCall.write, operatorSeparator,
      argumentMark])

/-- A template that formats a bound value logs itself and the call of the operator. -/
theorem events_trace_formatting (engine : Engine) {bindings : Bindings} {value : Value}
    (bound : bindings.atKey? key = some value)
    (wellFormed : OperatorCall.IsWellFormed ⟨"num", some format⟩) :
    (engine.trace (Template.read (formatting key format)) bindings).events =
      .fragment 0 (formatting key format) ::
        (applyCall engine.registry (engine.topSite bindings) value
          ⟨"num", some format⟩).events := by
  rw [formatting_eq_pipeline, trace_pipeline bound (List.forall_mem_singleton.mpr wellFormed),
    applyCalls_singleton]

/-- A template that formats a number breaks off exactly if the format asks for too much. -/
theorem isBroken_formatting_iff {engine : Engine} (standard : engine.registry.IsStandard)
    {bindings : Bindings} {value : Value} {number : Number}
    (bound : bindings.atKey? key = some value) (isNumber : value.toNumber? = some number)
    (wellFormed : OperatorCall.IsWellFormed ⟨"num", some format⟩) :
    (engine.expand (formatting key format) bindings).isBroken = true ↔
      AsksTooMuch number format := by
  have found : engine.registry.get? "num" = some Operator.num :=
    standard.all _ Registry.num_mem_standardOperators
  have applied : engine.registry.apply "num" (engine.topSite bindings) value (some format) =
      Operator.num.apply (engine.topSite bindings) value (some format) := by
    rw [Registry.apply, found]
  have quiet : IsUnbrokenLog (engine.registry.apply "num" (engine.topSite bindings) value
      (some format)).run.events := by
    rw [applied, Operator.events_num isNumber]
    exact List.forall_mem_nil _
  have unbroken :
      IsUnbrokenLog (engine.trace (Template.read (formatting key format)) bindings).events ↔
        Operator.breaksOff number (some format) = false := by
    rw [← Operator.num_isUnbroken_iff isNumber, ← applied,
      events_trace_formatting engine bound wellFormed]
    have called : IsUnbrokenLog (applyCall engine.registry (engine.topSite bindings) value
        ⟨"num", some format⟩).events ↔ _ := isUnbrokenLog_applyCall_iff quiet
    exact List.forall_mem_cons.trans ((and_iff_right rfl).trans called)
  rw [← Bool.not_eq_false, isBroken_expand_eq_false_iff, unbroken, Bool.not_eq_false,
    breaksOff_iff_asksTooMuch]

end Formatting

/-- Whether an engine breaks off for too many fraction digits and for nothing else. -/
structure LimitsPrecision (engine : Engine) : Prop where
  /-- A template with no more digit marks than the greatest precision never breaks off. -/
  within : ∀ text bindings, digitMarks text.toList ≤ Digits.greatestPrecision →
    (engine.expand text bindings).isBroken = false
  /-- A template that formats a number breaks off exactly if the format asks for too much. -/
  beyond : ∀ {key format bindings value number}, bindings.atKey? key = some value →
    value.toNumber? = some number → OperatorCall.IsWellFormed ⟨"num", some format⟩ →
      ((engine.expand (formatting key format) bindings).isBroken = true ↔
        AsksTooMuch number format)

/-- With the standard operators, an expansion breaks off for too many fraction digits and for
nothing else. -/
theorem limitsPrecision (engine : Engine) (standard : engine.registry.IsStandard) :
    LimitsPrecision engine where
  within _ bindings fewMarks := isBroken_expand_of_fewMarks standard.only bindings fewMarks
  beyond := isBroken_formatting_iff standard

/-- One and a half is formatted with two fraction digits, and breaks off at one more than the
greatest precision. -/
theorem limitsPrecision_half :
    let bindings := Bindings.empty.insert "x" (.float (Float.ofBits 0x3FF8000000000000))
    standard.registry.IsStandard ∧
      (standard.expand (formatting "x" "0.00") bindings).isBroken = false ∧
      (standard.expand (formatting "x" (String.ofList (Pattern.marks 65536))) bindings).isBroken =
        true := by
  intro bindings
  have isStandard : standard.registry.IsStandard := Registry.standard_isStandard
  have limits := limitsPrecision standard isStandard
  refine ⟨isStandard, limits.within _ bindings (by decide), ?_⟩
  have bound : bindings.atKey? "x" = some (.float (Float.ofBits 0x3FF8000000000000)) := rfl
  exact (limits.beyond bound rfl (isWellFormed_marks 65536)).mpr
    (asksTooMuch_marks (by decide) (by decide))

end Engine

end MessageTemplate
