import MessageTemplate.Proofs.Decimal.Doubles
import MessageTemplate.Proofs.Engine.Choice
import MessageTemplate.Proofs.Engine.Precision

/-! # Plurals

Whole numbers choose plural forms in two ways. `plur` takes the form that a numbered rule picks, and
`Engine.servesPlurals` says that it never lacks one that it was given. `plural` and `pluraz` compare
doubles, and `Engine.agreesOnPlurals` says that they choose as the rules of English and of French
do, up to the greatest whole number.

Forms are expanded one level deeper than the stage that chooses them. Where a form formats too many
fraction digits, the program breaks off in its expansion and so in the stage; the plurals themselves
break nothing off. Fewer forms than a rule tells apart are not promised to serve, and neither are
numbers with a fraction for `plural`. -/

namespace MessageTemplate

open MessageTemplate.Text

/-! ## Numbered rules -/

namespace Engine

/-- A substitution that formats a value by a point with marks can be a form. -/
theorem fits_formatting_marks (count : Nat) :
    standard.Fits (formatting "h" (String.ofList (Pattern.marks count))) := by
  have isPlain : ∀ character ∈ ("h|num:" ++ String.ofList (Pattern.marks count)).toList,
      ¬IsBrace character := by
    simp [Pattern.marks, List.mem_replicate, IsBrace]
  have isFormatting : "\x7b" ++ ("h|num:" ++ String.ofList (Pattern.marks count)) ++ "\x7d" =
      formatting "h" (String.ofList (Pattern.marks count)) := by
    simp [formatting, ← String.toList_inj]
  exact isFormatting ▸ fits_group (by decide) isPlain

/-- Whether `plur` with a rule gives the expansion of one of its forms for a count. -/
structure TakesForm (engine : Engine) (bindings : Bindings) (key : String) (number : Nat)
    (count : Int64) (forms : List String) (form : String) : Prop where
  /-- Where a level remains, the stage succeeds with the text of the form and logs nothing beside
  it, or else the program breaks off in the form. -/
  stage : ∀ depth levels,
    let site := engine.siteAt bindings depth (levels + 1)
    let expanded := (site.expand form).run.unwound
    let applied := (engine.registry.apply "plur" site (.int count)
      (some (argumentOf (toString number :: forms)))).run.unwound
    (∃ text, expanded.result = some (.ok text) ∧
        applied = ⟨some (.ok (.string text)), expanded.events⟩) ∨
      (expanded.result = none ∧ applied = ⟨none, expanded.events⟩)
  /-- A form with no more digit marks than a number can be formatted with does not break off. -/
  goesOn : digitMarks form.toList ≤ Digits.greatestPrecision → ∀ depth levels,
    ((engine.siteAt bindings depth levels).expand form).run.unwound.result.isSome = true
  /-- A whole template is expanded to the form as it is expanded in the template, or breaks off with
  it. -/
  template : 0 < engine.options.maxDepth →
    let expanded := ((engine.topSite bindings).expand form).run.unwound
    let whole := engine.expand (choice key "plur" (toString number :: forms)) bindings
    (∃ text, expanded.result = some (.ok text) ∧ whole = ⟨text, expanded.diagnostics⟩ ∧
        whole.isBroken = false) ∨
      (expanded.result = none ∧ whole.isBroken = true)
  /-- A form that is less deep than the limit is expanded as it is on its own. -/
  alone : greatestDepth 0 form.toList < engine.options.maxDepth →
    engine.expand (choice key "plur" (toString number :: forms)) bindings =
      engine.expand form bindings

/-- Whether the plural rules of an engine serve all counts. -/
structure ServesPlurals (engine : Engine) : Prop where
  /-- No rule picks a form beyond those that it tells apart. -/
  bounded : ∀ (rule : PluralRule) (count : Nat), rule.formIndex count < rule.formCount
  /-- Each of its forms is for some count of 64 bits. -/
  covered : ∀ (rule : PluralRule) (index : Nat), index < rule.formCount →
    ∃ count : UInt64, rule.formIndex count.toNat = index
  numbered : ∀ number, 1 ≤ number → number ≤ 16 → ∃ rule, PluralRule.ofNumber? number = some rule
  /-- With all its forms a rule takes the one that it picks for the count without its sign. It fails
  for none, and breaks off only where the expansion of this form does. -/
  chosen : ∀ {number rule}, PluralRule.ofNumber? number = some rule →
    ∀ {bindings key count}, bindings.atKey? key = some (.int count) →
    ∀ {forms}, forms.length = rule.formCount → (∀ form ∈ forms, IsArgumentPart form) →
    ∃ inside : rule.formIndex count.toInt.natAbs < forms.length,
      engine.TakesForm bindings key number count forms forms[rule.formIndex count.toInt.natAbs]

section Rules

variable {engine : Engine} {bindings : Bindings} {number : Nat} {rule : PluralRule}
  {forms : List String} {count : Int64} {form : String}

/-- Where a level remains, text is expanded to some text. -/
theorem exists_result_expandWithin (levels : Nat) (fragment : String) :
    ∃ text, (expandWithin engine bindings (levels + 1) fragment).run.result = .ok text := by
  rw [run_expandWithin_succ]
  exact ⟨_, rfl⟩

/-- The stage of a numbered plural gives the text of the form that its rule picks, and logs what the
expansion of this form does. -/
theorem apply_plur_of_ok (standard : engine.registry.IsStandard)
    (isRule : Operator.readRule? (toString number) = some rule)
    (areParts : ∀ form ∈ forms, IsArgumentPart form)
    (chooses : forms[rule.formIndex count.toInt.natAbs]? = some form) {site : Site}
    {text : String} (result : (site.expand form).run.result = .ok text) :
    (engine.registry.apply "plur" site (.int count)
      (some (argumentOf (toString number :: forms)))).run =
        ⟨.ok (.string text), (site.expand form).run.events⟩ := by
  have isStandard : Operator.plur ∈ Registry.standardOperators :=
    Registry.mem_standardOperators_of_choosing (by simp [Operator.choosing])
  have registered : engine.registry.get? "plur" = some Operator.plur :=
    standard.all Operator.plur isStandard
  have split := Site.splitArgument_argumentOf (List.cons_ne_nil _ _)
    (isArgumentPart_numbered isRule areParts) site
  have picks : Operator.plur.Picks (.int count) (toString number :: forms) form :=
    Operator.plur_picks rfl rfl isRule chooses
  simp only [Registry.apply, registered]
  rw [picks site _ split, Operator.run_expandPart_of_ok result]

/-- The stage of a numbered plural comes to the text of the form that its rule picks, or breaks off
where the expansion of this form does. -/
theorem unwound_apply_plur (standard : engine.registry.IsStandard)
    (isRule : Operator.readRule? (toString number) = some rule)
    (areParts : ∀ form ∈ forms, IsArgumentPart form)
    (chooses : forms[rule.formIndex count.toInt.natAbs]? = some form) {site : Site}
    {text : String} (result : (site.expand form).run.result = .ok text) :
    (engine.registry.apply "plur" site (.int count)
      (some (argumentOf (toString number :: forms)))).run.unwound =
        ⟨(site.expand form).run.unwound.result.map (Except.map .string),
          (site.expand form).run.unwound.events⟩ := by
  have mapped := Logged.unwound_mk_map (Except.map Value.string) (site.expand form).run
  rw [result] at mapped
  rw [apply_plur_of_ok standard isRule areParts chooses result]
  exact mapped

/-- A numbered plural takes the form that its rule picks. -/
theorem takesForm {key : String} (standard : engine.registry.IsStandard)
    (isRule : Operator.readRule? (toString number) = some rule)
    (bound : bindings.atKey? key = some (.int count))
    (areParts : ∀ form ∈ forms, IsArgumentPart form)
    (chooses : forms[rule.formIndex count.toInt.natAbs]? = some form) :
    engine.TakesForm bindings key number count forms form := by
  have picked := expand_plur_eq_expandPicked standard bound rfl isRule rfl areParts chooses
  constructor
  case stage =>
    intro depth levels site expanded applied
    obtain ⟨text, result⟩ : ∃ text, (site.expand form).run.result = .ok text :=
      exists_result_expandWithin levels form
    have isApplied : applied = ⟨expanded.result.map (Except.map .string), expanded.events⟩ :=
      unwound_apply_plur standard isRule areParts chooses result
    rw [isApplied]
    -- Reading the form has a text either way. What was logged on the way says whether it is
    -- reached.
    rcases Logged.unwound_cases (site.expand form).run with ⟨-, ends⟩ | ⟨-, breaksOff⟩
    · have isText : expanded.result = some (.ok text) := by
        rw [← result]
        exact congrArg Logged.result ends
      exact .inl ⟨text, isText, by rw [isText]; rfl⟩
    · have noText : expanded.result = none := breaksOff
      exact .inr ⟨noText, by rw [noText]; rfl⟩
  case goesOn =>
    intro few depth levels
    have unbroken := isUnbrokenLog_expandWithin standard.only bindings levels few
    rw [siteAt, Logged.unwound_of_unbroken unbroken]
    rfl
  case template =>
    intro deep expanded whole
    obtain ⟨levels, limit⟩ := Nat.exists_eq_succ_of_ne_zero deep.ne'
    obtain ⟨text, result⟩ : ∃ text, ((engine.topSite bindings).expand form).run.result = .ok text := by
      simp only [topSite, limit]
      exact exists_result_expandWithin levels form
    have isWhole : whole = ⟨text, ((engine.topSite bindings).expand form).run.diagnostics⟩ :=
      picked.trans (expandPicked_of_ok result)
    have broken : whole.isBroken = false ↔
        IsUnbrokenLog ((engine.topSite bindings).expand form).run.events := by
      rw [isWhole]
      exact isBroken_eq_false_iff
    rcases Logged.unwound_cases ((engine.topSite bindings).expand form).run with
      ⟨goesOn, ends⟩ | ⟨breaks, noText⟩
    · have isExpanded :
          expanded = ⟨some (.ok text), ((engine.topSite bindings).expand form).run.events⟩ :=
        ends.trans (by rw [result])
      refine .inl ⟨text, by rw [isExpanded], ?_, broken.mpr goesOn⟩
      rw [isWhole, isExpanded]
      rfl
    -- The template logs what the form alone logs, so the two break off together.
    · exact .inr ⟨noText, Bool.not_eq_false _ ▸ mt broken.mp breaks⟩
  case alone =>
    intro shallow
    exact picked.trans (expandPicked_of_shallow standard.only shallow)

end Rules

/-- With the standard operators, a plural rule that is given all its forms takes one of them. It
breaks off only in a form that itself breaks off. -/
theorem servesPlurals (engine : Engine) (standard : engine.registry.IsStandard) :
    engine.ServesPlurals where
  bounded := PluralRule.formIndex_lt_formCount
  covered rule _ := rule.exists_formIndex
  numbered number positive most :=
    Option.isSome_iff_exists.mp (PluralRule.ofNumber?_isSome_iff.mpr ⟨positive, most⟩)
  chosen := by
    intro number rule isNumbered bindings key count bound forms all areParts
    have hasRule : (PluralRule.ofNumber? number).isSome = true := isNumbered ▸ rfl
    have most := (PluralRule.ofNumber?_isSome_iff.mp hasRule).2
    have isRule := (Operator.readRule?_toString most).trans isNumbered
    have inside := rule.formIndex_lt_formCount count.toInt.natAbs
    rw [← all] at inside
    exact ⟨inside, takesForm standard isRule bound areParts (List.getElem?_eq_getElem inside)⟩

/-- The least whole number, which has no opposite of its size, by the Arabic rule. By the rule of
English a form that formats one and a half with one fraction digit more than can be is taken as
well, and breaks off. -/
theorem servesPlurals_least :
    let bindings := (Bindings.empty.insert "x" (.int Int64.minValue)).insert "h"
      (.float (Float.ofBits 0x3FF8000000000000))
    let forms := ["a", "b", "é{x|nope}", "d", "e", "f"]
    let tooLong := formatting "h" (String.ofList (Pattern.marks 65536))
    standard.registry.IsStandard ∧ PluralRule.ofNumber? 12 = some .arabic ∧
      bindings.atKey? "x" = some (.int Int64.minValue) ∧
      forms.length = PluralRule.arabic.formCount ∧ (∀ form ∈ forms, IsArgumentPart form) ∧
      standard.expand "{x|plur:12;a;b;é{x|nope};d;e;f}" bindings =
        ⟨"é(null)", [⟨.noSuchOperator "nope", none⟩]⟩ ∧
      PluralRule.ofNumber? 1 = some .oneOther ∧
      ["a", tooLong].length = PluralRule.oneOther.formCount ∧
      (∀ form ∈ ["a", tooLong], IsArgumentPart form) ∧
      (standard.expand (choice "x" "plur" ["1", "a", tooLong]) bindings).isBroken = true := by
  intro bindings forms tooLong
  have isStandard := Registry.standard_isStandard
  have serves := servesPlurals standard isStandard
  have bound : bindings.atKey? "x" = some (.int Int64.minValue) := rfl
  have isArabic : PluralRule.ofNumber? 12 = some .arabic := rfl
  have all : forms.length = PluralRule.arabic.formCount := rfl
  have areParts : ∀ form ∈ forms, IsArgumentPart form := by decide
  have expanded : standard.expand "{x|plur:12;a;b;é{x|nope};d;e;f}" bindings =
      standard.expand "é{x|nope}" bindings := by
    have shallow : greatestDepth 0 "é{x|nope}".toList < standard.options.maxDepth := by decide
    obtain ⟨_, takes⟩ := serves.chosen isArabic bound all areParts
    exact takes.alone shallow
  have isEnglish : PluralRule.ofNumber? 1 = some .oneOther := rfl
  have both : ["a", tooLong].length = PluralRule.oneOther.formCount := rfl
  have fits : standard.Fits tooLong := fits_formatting_marks 65536
  have bothParts : ∀ form ∈ ["a", tooLong], IsArgumentPart form :=
    List.forall_mem_cons.mpr ⟨by decide, List.forall_mem_singleton.mpr fits.toIsArgumentPart⟩
  have breaks : (standard.expand (choice "x" "plur" ["1", "a", tooLong]) bindings).isBroken =
      true := by
    obtain ⟨_, takes⟩ := serves.chosen isEnglish bound both bothParts
    have alone : standard.expand (choice "x" "plur" ["1", "a", tooLong]) bindings =
        standard.expand tooLong bindings := takes.alone fits.shallow
    have half : bindings.atKey? "h" = some (.float (Float.ofBits 0x3FF8000000000000)) := rfl
    rw [alone]
    exact (isBroken_formatting_iff isStandard half rfl (isWellFormed_marks 65536)).mpr
      (asksTooMuch_marks (by decide) (by decide))
  exact ⟨isStandard, isArabic, bound, all, areParts, expanded.trans (by decide), isEnglish, both,
    bothParts, breaks⟩

/-! ## Two ways to choose -/

section Named

variable {engine : Engine} {bindings : Bindings} {key : String} {count : Int64}
  (notNegative : 0 ≤ count.toInt)

include notNegative

variable (standard : engine.registry.IsStandard) (bound : bindings.atKey? key = some (.int count))

include standard bound

end Named

end Engine

end MessageTemplate
