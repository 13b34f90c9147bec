import Mathlib.Data.List.TakeWhile
import MessageTemplate.Proofs.Operator.Decision

/-! # Numbers that break off

Only `num` breaks off what the program is doing, and it does so for a finite double and a pattern
with more fraction digits than the greatest precision: `Operator.num_isUnbroken_iff`. A pattern
has no more fraction digits than its text has digit marks. Nothing is said about what else a
number is formatted to. -/

namespace MessageTemplate

open MessageTemplate.Text

/-! ## Digit marks -/

/-- How many characters of a text are digit marks of patterns. -/
def digitMarks (text : List Char) : Nat :=
  text.countP Pattern.isDigitMark

/-- A part of a text has no more digit marks than the whole. -/
theorem digitMarks_le_of_isInfix {part whole : List Char} (isInfix : part <:+: whole) :
    digitMarks part ≤ digitMarks whole :=
  isInfix.sublist.countP_le

namespace Pattern

/-- The characters of a pattern are characters of its text, in their order. -/
theorem unquote_sublist (quoted : Bool) (source : List Char) :
    ((unquote quoted source).map PatternChar.character).Sublist source := by
  fun_induction unquote quoted source with
  | case1 quoted rest inductionHypothesis =>
      exact (inductionHypothesis.cons_cons '\'').cons '\''
  | case2 quoted rest notDouble inductionHypothesis => exact inductionHypothesis.cons '\''
  | case3 quoted character rest _ _ _ => exact List.nil_sublist _
  | case4 quoted character rest _ _ _ inductionHypothesis =>
      exact inductionHypothesis.cons_cons character
  | case5 quoted => exact List.nil_sublist _

/-- A pattern has no more fraction digits than its text has digit marks. -/
theorem mostFraction_le {source : List Char} {pattern : Pattern}
    (isPattern : read? source = some pattern) : pattern.mostFraction ≤ digitMarks source := by
  simp only [read?] at isPattern
  split at isPattern
  · cases isPattern
  · cases isPattern
    refine List.Sublist.countP_le (List.Sublist.trans ?body (unquote_sublist false source))
    refine (List.drop_sublist 1 _).trans ((List.dropWhile_sublist _).trans ?_)
    exact ((List.takeWhile_sublist _).trans (List.dropWhile_sublist _)).map _

/-- Text without apostrophes and semicolons is not quoted. -/
theorem unquote_of_plain {text : List Char}
    (plain : ∀ character ∈ text, character ≠ '\'' ∧ character ≠ ';') (quoted : Bool) :
    unquote quoted text = text.map fun character => ⟨character, quoted⟩ := by
  induction text with
  | nil => rfl
  | cons character rest inductionHypothesis =>
      obtain ⟨⟨notQuote, notEnd⟩, later⟩ := List.forall_mem_cons.mp plain
      rw [unquote, if_neg notQuote, if_neg fun ends => notEnd ends.1, inductionHypothesis later,
        List.map_cons]
      exact fun after isQuote => absurd isQuote notQuote

/-- The pattern of a digit, a point and a number of marks behind it. -/
def marks (count : Nat) : List Char :=
  '0' :: '.' :: List.replicate count '#'

/-- The marks behind the point are the fraction digits. -/
theorem read?_marks (count : Nat) :
    read? (marks count) =
      some
        { before := []
          after := []
          leastInteger := 1
          leastFraction := 0
          mostFraction := count
          groupSize := none
          factor := 1 } := by
  have plain : ∀ character ∈ marks count, character ≠ '\'' ∧ character ≠ ';' := by
    simp [marks, List.mem_replicate]
  have numeric : ∀ item ∈ (marks count).map fun character => (⟨character, false⟩ : PatternChar),
      isNumeric item = true := by
    simp [marks, List.mem_replicate, isNumeric]
  have body : ((marks count).map fun character => (⟨character, false⟩ : PatternChar)).map
      PatternChar.character = marks count := by
    rw [List.map_map]
    exact List.map_id _
  rw [read?, unquote_of_plain plain]
  generalize (marks count).map (fun character => (⟨character, false⟩ : PatternChar)) = items
    at numeric body
  have starts : items.takeWhile (fun item => !isNumeric item) = [] ∧
      items.dropWhile (fun item => !isNumeric item) = items := by
    cases items with
    | nil => exact ⟨rfl, rfl⟩
    | cons first rest => simp [(List.forall_mem_cons.mp numeric).1]
  have allDigits : items.takeWhile isNumeric = items := List.takeWhile_eq_self_iff.mpr numeric
  have noneAfter : items.dropWhile isNumeric = [] := List.dropWhile_eq_nil_iff.mpr numeric
  simp only [starts, allDigits, noneAfter, body]
  simp [marks, isDigitMark, groupSizeOf, factorOf, occurs, List.count_replicate,
    List.countP_replicate]

end Pattern

namespace Operator

variable {number : Number} {argument : Option String} {operator : Operator}

/-- A number breaks off at an argument that is no style but a pattern, where it is a double and the
pattern has too many fraction digits. -/
theorem breaksOff_iff :
    breaksOff number argument = true ↔
      ∃ text pattern, argument = some text ∧ NumberStyle.ofKeyword? text = none ∧
        Pattern.read? text.toList = some pattern ∧ pattern.breaksOff number = true := by
  rcases argument with _ | text
  · simp [breaksOff]
  · by_cases isEmpty : text = ""
    · subst isEmpty
      have noPattern : Pattern.read? [] = none := by decide
      simp [breaksOff, noPattern]
    · simp [breaksOff, Pattern.breaksOffAt, Option.any_eq_true]

/-- A number does not break off at an argument with no more digit marks than the greatest
precision. -/
theorem breaksOff_eq_false
    (fewMarks : ∀ text, argument = some text → digitMarks text.toList ≤ Digits.greatestPrecision) :
    breaksOff number argument = false := by
  rw [Bool.eq_false_iff]
  intro breaks
  obtain ⟨text, pattern, isArgument, -, isPattern, breaks⟩ := breaksOff_iff.mp breaks
  have fewDigits : pattern.mostFraction ≤ Digits.greatestPrecision :=
    Nat.le_trans (Pattern.mostFraction_le isPattern) (fewMarks text isArgument)
  simp only [Pattern.breaksOff, Digits.breaksOff] at breaks
  split at breaks
  · cases breaks
  · simp [Nat.not_lt.mpr fewDigits] at breaks

end Operator

/-! ## Steps that do not break off -/

/-- What an operator may report of its argument is no break. -/
theorem Diagnostic.IsReportOn.isBreak_eq_false {argument : Option String} {diagnostic : Diagnostic}
    (reported : diagnostic.IsReportOn argument) : (Event.problem diagnostic).isBreak = false := by
  rcases reported with ⟨text, rfl⟩ | ⟨text, -, offset, -, rfl⟩
  · rfl
  · rfl

namespace Step

/-- Whether a step does not break off. -/
def IsUnbroken (step : Step α) : Prop :=
  step.run.result ≠ .error .tooManyDigits

/-- What only gives a value does not break off. -/
theorem isUnbroken_pure (value : α) : (pure value : Step α).IsUnbroken := nofun

/-- A refusal of any other cause does not break off. -/
theorem isUnbroken_refuse {refusal : Refusal} (differs : refusal ≠ .tooManyDigits) :
    (refuse refusal : Step α).IsUnbroken := fun same => differs (Except.error.inj same)

/-- To require a value does not break off, where the refusal has another cause. -/
theorem isUnbroken_require {refusal : Refusal} (differs : refusal ≠ .tooManyDigits)
    (option : Option α) : (require refusal option).IsUnbroken := by
  cases option with
  | none => exact isUnbroken_refuse differs
  | some value => exact isUnbroken_pure value

/-- To require an argument does not break off. -/
theorem isUnbroken_required (operator : String) (argument : Option String) :
    (Operator.required operator argument).IsUnbroken := by
  apply isUnbroken_require
  nofun

/-- To require a valid argument does not break off. -/
theorem isUnbroken_requireValid (operator reason : String) (option : Option α) :
    (require (.invalidArgument operator reason) option).IsUnbroken := by
  apply isUnbroken_require
  nofun

/-- A value that cannot be coerced does not break off. -/
theorem isUnbroken_coerce (operator : String) (demand : Demand) (option : Option α) :
    (require (.coercion operator demand) option).IsUnbroken := by
  apply isUnbroken_require
  nofun

/-- A remark does not break off. -/
theorem isUnbroken_remark (text : String) : (remark text).IsUnbroken := nofun

/-- Steps that do not break off may follow one another. -/
theorem IsUnbroken.bind {first : Step α} {next : α → Step β} (firstUnbroken : first.IsUnbroken)
    (nextUnbroken : ∀ value, (next value).IsUnbroken) : (first >>= next).IsUnbroken := by
  cases result : first.run.result with
  | error refusal =>
      rw [bind_of_error next result]
      rintro ⟨rfl⟩
      exact firstUnbroken result
  | ok value =>
      rw [bind_of_ok next result]
      exact nextUnbroken value

/-- A loop over steps that do not break off does not either. -/
theorem isUnbroken_forIn {items : List α} {body : α → Step PUnit}
    (bodyUnbroken : ∀ item, (body item).IsUnbroken) :
    (forIn items PUnit.unit fun item _ => do
      body item
      pure (ForInStep.yield PUnit.unit)).IsUnbroken := by
  induction items with
  | nil => exact isUnbroken_pure _
  | cons item rest inductionHypothesis =>
      rw [List.forIn_cons, bind_assoc]
      exact (bodyUnbroken item).bind fun _ => inductionHypothesis

/-- Cutting an argument does not break off. -/
theorem isUnbroken_splitArgument (site : Site) (argument : String) :
    (site.splitArgument argument).IsUnbroken := by
  rw [Site.splitArgument_eq]
  exact nofun

end Step

namespace Operator

open Step

/-- Whether an operator breaks off only where the expansion of a text does. -/
def IsUnbroken (operator : Operator) : Prop :=
  ∀ site value argument, (∀ fragment, (site.expand fragment).IsUnbroken) →
    (operator.apply site value argument).IsUnbroken

/-- What `num` does with a number. -/
theorem num_apply {site : Site} {value : Value} (isNumber : value.toNumber? = some number)
    (argument : Option String) :
    num.apply site value argument =
      if breaksOff number argument then refuse .tooManyDigits
      else do
        let text ← require (.invalidArgument "num" ("cannot format " ++ number.plain ++ " as " ++
          Text.quoted (argument.getD "decimal"))) (formatBy? site.locale number argument)
        return .string text := by
  simp [num, Site.number, require, isNumber]

/-- Where there is a number, `num` breaks off exactly if the number does at the argument. -/
theorem num_isUnbroken_iff {site : Site} {value : Value} (isNumber : value.toNumber? = some number)
    (argument : Option String) :
    (num.apply site value argument).IsUnbroken ↔ breaksOff number argument = false := by
  rw [num_apply isNumber]
  cases breaksOff number argument with
  | true => exact ⟨fun unbroken => absurd rfl unbroken, nofun⟩
  | false =>
      exact ⟨fun _ => rfl, fun _ =>
        (isUnbroken_requireValid "num" _ _).bind fun _ => isUnbroken_pure _⟩

/-- Without a number, `num` refuses. -/
theorem isUnbroken_num_of_none {site : Site} {value : Value} (notNumber : value.toNumber? = none)
    (argument : Option String) : (num.apply site value argument).IsUnbroken := by
  have refused : num.apply site value argument = refuse (.coercion "num" .number) := by
    simp [num, Site.number, require, notNumber, refuse_bind]
  rw [refused]
  exact isUnbroken_refuse nofun

/-- Formatting a number logs nothing. -/
theorem events_num {site : Site} {value : Value} (isNumber : value.toNumber? = some number)
    (argument : Option String) : (num.apply site value argument).run.events = [] := by
  rw [num_apply isNumber]
  split
  case isTrue => rfl
  case isFalse =>
    cases formatBy? site.locale number argument with
    | none => rfl
    | some text => rfl

/-- Expanding a part of an argument breaks off only where its expansion does. -/
theorem isUnbroken_expandPart {site : Site}
    (expands : ∀ fragment, (site.expand fragment).IsUnbroken) (choice : String) :
    (expandPart site choice).IsUnbroken :=
  (expands choice).bind fun _ => isUnbroken_pure _

/-- Mapping a text does not break off. -/
theorem isUnbroken_mapping (name summary : String) (map : Locale → String → String) :
    (mapping name summary map).IsUnbroken := fun _ _ _ _ =>
  (isUnbroken_coerce name .string _).bind fun _ => isUnbroken_pure _

/-- Counting characters does not break off. -/
theorem isUnbroken_length : length.IsUnbroken := fun _ _ _ _ =>
  (isUnbroken_coerce "length" .string _).bind fun _ => isUnbroken_pure _

/-- Folding does not break off, whatever its options. -/
theorem isUnbroken_fold : fold.IsUnbroken := fun _ _ _ _ =>
  (isUnbroken_coerce "fold" .string _).bind fun _ =>
    (isUnbroken_forIn fun _ => isUnbroken_remark _).bind fun _ => isUnbroken_pure _

/-- Rounding formats nothing, so that it does not break off. -/
theorem isUnbroken_round : round.IsUnbroken := fun _ _ _ _ =>
  (isUnbroken_coerce "round" .number _).bind fun _ => isUnbroken_pure _

/-- Negation does not break off. -/
theorem isUnbroken_negation : negation.IsUnbroken := fun _ _ _ _ =>
  (isUnbroken_coerce "not" .boolean _).bind fun _ => isUnbroken_pure _

/-- A named plural breaks off only in the form that it takes. -/
theorem isUnbroken_pluralNamed (name summary : String) (zeroIsSingular : Bool) :
    (pluralNamed name summary zeroIsSingular).IsUnbroken := fun site _ argument expands =>
  (isUnbroken_required name argument).bind fun text =>
    (isUnbroken_coerce name .number _).bind fun _ =>
      (isUnbroken_splitArgument site text).bind fun _ =>
        (isUnbroken_requireValid name _ _).bind fun chosen => isUnbroken_expandPart expands chosen

/-- Selecting breaks off only in the item that it takes. -/
theorem isUnbroken_select : select.IsUnbroken := fun site _ argument expands =>
  (isUnbroken_required "select" argument).bind fun text =>
    (isUnbroken_coerce "select" .number _).bind fun _ =>
      (isUnbroken_splitArgument site text).bind fun _ => isUnbroken_expandPart expands _

/-- A numbered plural breaks off only in the form that it takes. -/
theorem isUnbroken_plur : plur.IsUnbroken := by
  intro site value argument expands
  refine (isUnbroken_required "plur" argument).bind fun text => ?_
  refine (isUnbroken_splitArgument site text).bind fun parts => ?_
  refine (isUnbroken_requireValid "plur" _ _).bind fun rule => ?_
  by_cases noForms : parts.tail.isEmpty = true
  · simp only [noForms, if_true]
    rw [refuse_bind]
    exact isUnbroken_refuse nofun
  · simp only [noForms, Bool.false_eq_true, if_false]
    refine (isUnbroken_coerce "plur" .number _).bind fun number => ?_
    refine (isUnbroken_coerce "plur" .count _).bind fun whole => ?_
    cases parts.tail[rule.formIndex whole.toInt.natAbs]? with
    | some form => exact isUnbroken_expandPart expands form
    | none => exact (isUnbroken_remark _).bind fun _ => isUnbroken_refuse nofun

/-- Choosing a branch does not break off. -/
theorem isUnbroken_chosenBranch (site : Site) (operator : String) (value : Value)
    (argument : Option String) : (chosenBranch site operator value argument).IsUnbroken := by
  refine IsUnbroken.bind ?branches fun _ =>
    (isUnbroken_coerce operator .boolean _).bind fun _ => isUnbroken_pure _
  refine (isUnbroken_required operator argument).bind fun text => ?_
  refine (isUnbroken_splitArgument site text).bind fun parts => ?_
  split
  · exact isUnbroken_pure _
  · exact isUnbroken_pure _
  · exact isUnbroken_refuse nofun

/-- A condition breaks off only in the branch that it takes. -/
theorem isUnbroken_conditional : conditional.IsUnbroken := fun site value argument expands =>
  (isUnbroken_chosenBranch site "if" value argument).bind fun _ =>
    isUnbroken_expandPart expands _

/-- A condition that uses a key does not break off, as what it looks up is not expanded. -/
theorem isUnbroken_conditionalUse : conditionalUse.IsUnbroken := by
  intro site value argument _
  refine (isUnbroken_chosenBranch site "ifuse" value argument).bind fun key => ?_
  split
  case isTrue => exact isUnbroken_pure _
  case isFalse =>
    have differs : Refusal.unknownVariable "ifuse" key ≠ .tooManyDigits := nofun
    exact isUnbroken_require differs _

/-- Each of the standard operators but `num` breaks off only where an expansion does. -/
theorem eq_num_or_isUnbroken (isStandard : operator ∈ Registry.standardOperators) :
    operator = num ∨ operator.IsUnbroken := by
  have numericOperators : ∀ operator ∈ numeric, operator = num ∨ operator.IsUnbroken :=
    List.forall_mem_cons.mpr ⟨.inl rfl, List.forall_mem_singleton.mpr (.inr isUnbroken_round)⟩
  have choosingOperators : ∀ operator ∈ choosing, operator.IsUnbroken := by
    simp only [choosing, List.forall_mem_cons]
    exact ⟨isUnbroken_pluralNamed _ _ _, isUnbroken_pluralNamed _ _ _, isUnbroken_plur,
      isUnbroken_conditional, isUnbroken_conditionalUse, isUnbroken_select, isUnbroken_negation,
      by simp⟩
  have textualOperators : ∀ operator ∈ textual, operator.IsUnbroken := by
    simp only [textual, List.forall_mem_cons]
    exact ⟨isUnbroken_mapping _ _ _, isUnbroken_mapping _ _ _, isUnbroken_mapping _ _ _,
      isUnbroken_mapping _ _ _, isUnbroken_mapping _ _ _, isUnbroken_mapping _ _ _,
      isUnbroken_mapping _ _ _, isUnbroken_length, isUnbroken_fold, by simp⟩
  have inspectingOperators : ∀ operator ∈ inspecting, operator.IsUnbroken := by
    simp only [inspecting, List.forall_mem_cons]
    exact ⟨fun _ _ _ _ => isUnbroken_pure _, fun _ _ _ _ => isUnbroken_pure _,
      fun _ _ _ _ => isUnbroken_pure _, by simp⟩
  simp only [Registry.standardOperators, List.mem_append] at isStandard
  rcases isStandard with ((isNumeric | isChoosing) | isTextual) | isInspecting
  · exact numericOperators operator isNumeric
  · exact .inr (choosingOperators operator isChoosing)
  · exact .inr (textualOperators operator isTextual)
  · exact .inr (inspectingOperators operator isInspecting)

end Operator

end MessageTemplate
