import Mathlib.Data.List.Nodup
import MessageTemplate.Proofs.Decimal.Reading
import MessageTemplate.Proofs.Entries
import MessageTemplate.Proofs.Operator.Decision
import MessageTemplate.Proofs.Template.Grammar

/-! # What the choosing operators choose

Each choosing operator expands one part of its argument, or the empty text where that part is
missing. Which one it is depends on the value alone. Arguments are made up of whole parts here; in
other arguments a semicolon or a brace of one part may belong to another. -/

namespace MessageTemplate

open MessageTemplate.Text

/-! ## Arguments made of parts -/

/-- Whether a text can be a part of an argument in a template: its braces are balanced, and there is
neither a semicolon nor an operator separator outside them. -/
structure IsArgumentPart (text : String) : Prop where
  balanced : IsBalanced text.toList
  onePart : IsUncut argumentSeparator text.toList
  oneStage : IsUncut operatorSeparator text.toList

instance : DecidablePred IsArgumentPart := fun text =>
  decidable_of_iff (IsBalanced text.toList ∧ IsUncut argumentSeparator text.toList ∧
      IsUncut operatorSeparator text.toList)
    ⟨fun ⟨balanced, onePart, oneStage⟩ => ⟨balanced, onePart, oneStage⟩,
      fun isPart => ⟨isPart.balanced, isPart.onePart, isPart.oneStage⟩⟩

/-- A text without braces and separators can be a part of an argument. -/
theorem isArgumentPart_of_plain {text : String}
    (plain : ∀ character ∈ text.toList, ∀ reserved ∈ ['{', '}', ';', '|'],
      character ≠ reserved) : IsArgumentPart text := by
  have notBrace (character : Char) (member : character ∈ text.toList) : ¬IsBrace character :=
    not_or.mpr ⟨plain character member '{' (by simp), plain character member '}' (by simp)⟩
  exact
    { balanced := isBalanced_plain notBrace
      onePart := isUncut_plain fun character member =>
        ⟨notBrace character member, plain character member ';' (by simp)⟩
      oneStage := isUncut_plain fun character member =>
        ⟨notBrace character member, plain character member '|' (by simp)⟩ }

/-- So can the text of a reference. -/
theorem isArgumentPart_of_read? {key : String} {reference : Reference}
    (keyRead : Reference.read? key.toList = some reference) : IsArgumentPart key :=
  isArgumentPart_of_plain (Reference.read?_eq_some_iff.mp keyRead).ne_reserved

/-- The argument that has the given parts. -/
def argumentOf (parts : List String) : String :=
  ";".intercalate parts

variable {part : String} {parts : List String}

/-- An argument of one part is this part. -/
theorem argumentOf_singleton (part : String) : argumentOf [part] = part :=
  String.intercalate_singleton

/-- An argument of two parts has one separator between them. -/
theorem argumentOf_pair (first second : String) :
    argumentOf [first, second] = first ++ ";" ++ second := by
  simp [argumentOf]

/-- An argument has a separator in front of each part but the first. -/
theorem toList_argumentOf (first : String) (others : List String) :
    (argumentOf (first :: others)).toList =
      first.toList ++ (others.map String.toList).flatMap (argumentSeparator :: ·) := by
  induction others generalizing first with
  | nil => simp [argumentOf]
  | cons next others inductionHypothesis =>
      have joined : argumentOf (first :: next :: others) =
          first ++ ";" ++ argumentOf (next :: others) := String.intercalate_cons_cons
      rw [joined, String.toList_append, String.toList_append, inductionHypothesis, List.map_cons,
        List.flatMap_cons, List.append_assoc]
      rfl

section Parts

variable (nonempty : parts ≠ []) (areParts : ∀ part ∈ parts, IsArgumentPart part)

include nonempty areParts

/-- The parts of an argument that is made of parts are these parts. -/
theorem argumentParts_argumentOf : argumentParts (argumentOf parts) = parts := by
  obtain ⟨first, others, rfl⟩ := List.exists_cons_of_ne_nil nonempty
  have whole : ∀ text ∈ (first :: others).map String.toList,
      IsBalanced text ∧ IsUncut argumentSeparator text :=
    List.forall_mem_map.mpr fun part member =>
      ⟨(areParts part member).balanced, (areParts part member).onePart⟩
  rw [argumentParts, toList_argumentOf, splitTopLevel_joined (by decide) whole, ← List.map_cons,
    List.map_map]
  exact List.map_id'' (fun _ => String.ofList_toList) _

/-- An argument that is made of parts can be written in a template. -/
theorem whole_argumentOf : IsBalanced (argumentOf parts).toList ∧
    IsUncut operatorSeparator (argumentOf parts).toList := by
  obtain ⟨first, others, rfl⟩ := List.exists_cons_of_ne_nil nonempty
  obtain ⟨firstPart, otherParts⟩ := List.forall_mem_cons.mp areParts
  have whole : ∀ text ∈ others.map String.toList,
      IsBalanced text ∧ IsUncut operatorSeparator text :=
    List.forall_mem_map.mpr fun part member =>
      ⟨(otherParts part member).balanced, (otherParts part member).oneStage⟩
  have othersBalanced : IsBalanced ((others.map String.toList).flatMap (argumentSeparator :: ·)) :=
    isBalanced_flatMap_cons (by decide) fun text member => (whole text member).1
  have othersUncut : IsUncut operatorSeparator
      ((others.map String.toList).flatMap (argumentSeparator :: ·)) :=
    isUncut_flatMap_cons (by decide) (by decide) whole
  rw [toList_argumentOf]
  exact ⟨firstPart.balanced.append othersBalanced,
    firstPart.oneStage.append firstPart.balanced othersUncut⟩

/-- Cutting an argument that is made of parts gives the parts and reports nothing. -/
theorem Site.splitArgument_argumentOf (site : Site) :
    site.splitArgument (argumentOf parts) = pure parts := by
  have notStray : strayOffsets (argumentOf parts).toList = [] :=
    (whole_argumentOf nonempty areParts).1.strayOffsetsFrom 0
  rw [Site.splitArgument_eq, argumentParts_argumentOf nonempty areParts, notStray]
  rfl

end Parts

/-! ## Plural rules -/

/-- A rule picks one of the forms that it tells apart. -/
theorem PluralRule.formIndex_lt_formCount (rule : PluralRule) (count : Nat) :
    rule.formIndex count < rule.formCount := by
  cases rule <;> simp only [formIndex, formCount] <;> grind

/-- Every form that a rule tells apart is taken by some count of 64 bits. -/
theorem PluralRule.exists_formIndex (rule : PluralRule) {index : Nat}
    (inside : index < rule.formCount) : ∃ count : UInt64, rule.formIndex count.toNat = index := by
  -- A million is here for the Breton form of millions.
  have sampled : ∀ index < rule.formCount,
      ∃ count ∈ [(0 : UInt64), 1, 2, 3, 7, 11, 20, 100, 1000000],
        rule.formIndex count.toNat = index := by
    cases rule <;> decide
  obtain ⟨count, -, taken⟩ := sampled index inside
  exact ⟨count, taken⟩

/-- The number of a rule can be a part of an argument. -/
theorem Operator.isArgumentPart_of_readRule? {text : String} {rule : PluralRule}
    (isRule : readRule? text = some rule) : IsArgumentPart text := by
  apply isArgumentPart_of_plain
  have apart : ∀ reserved ∈ ['{', '}', ';', '|'],
      ¬(reserved.isDigit = true ∨ reserved = '+') := by
    simp only [List.mem_cons, List.not_mem_nil, or_false, forall_eq_or_imp, forall_eq]
    decide
  rw [readRule?] at isRule
  split at isRule
  · next number read =>
      rintro character member reserved isReserved rfl
      exact apart character isReserved (Decimal.isDigit_of_readUnsigned read character member)
  · cases isRule

/-- The rules have the numbers from one to sixteen. -/
theorem PluralRule.ofNumber?_isSome_iff {number : Nat} :
    (ofNumber? number).isSome = true ↔ 1 ≤ number ∧ number ≤ 16 := by
  have length : all.length = 16 := rfl
  rw [ofNumber?]
  split
  · next zero => simp [zero]
  · next notZero =>
      rw [isSome_getElem?, length]
      omega

/-- The number of a rule is read as it is written. -/
theorem Operator.readRule?_toString {number : Nat} (bounded : number ≤ 16) :
    readRule? (toString number) = PluralRule.ofNumber? number := by
  have each : ∀ number ≤ 16, readRule? (toString number) = PluralRule.ofNumber? number := by
    decide
  exact each number bounded

/-! ## The parts that are chosen -/

namespace Operator

/-- Where the expansion of the chosen part gives a text, so does the operator, and reports nothing
of its own. -/
theorem run_expandPart_of_ok {site : Site} {chosen text : String}
    (result : (site.expand chosen).run.result = .ok text) :
    (expandPart site chosen).run = ⟨.ok (.string text), (site.expand chosen).run.events⟩ := by
  rw [expandPart, Step.run_bind_of_ok _ result]
  exact Logged.ext rfl (List.append_nil _)

/-- Whether an operator has a text expanded for a value, where its argument has the given parts. -/
def Picks (operator : Operator) (value : Value) (parts : List String) (chosen : String) : Prop :=
  ∀ site argument, Site.splitArgument site argument = pure parts →
    operator.apply site value (some argument) = expandPart site chosen

section Picking

variable {value : Value} {number : Number}

/-- The branch that is chosen, where the argument has one or two parts. -/
theorem chosenBranch_of_split {truth : Bool} (isTruth : value.toBoolean? = some truth)
    {whenTrue : String} {whenFalse : Option String} {site : Site} {argument : String}
    (split : site.splitArgument argument = pure (whenTrue :: whenFalse.toList))
    (operator : String) :
    chosenBranch site operator value (some argument) =
      pure (if truth then whenTrue else whenFalse.getD "") := by
  cases whenFalse with
  | none => simp [chosenBranch, branches, required, Step.require, Site.boolean, isTruth, split]
  | some whenFalse =>
      simp [chosenBranch, branches, required, Step.require, Site.boolean, isTruth, split]

/-- `ifuse` gives the value of the key that is chosen. -/
theorem conditionalUse_of_split {truth : Bool} (isTruth : value.toBoolean? = some truth)
    {whenTrue key : String} {whenFalse : Option String} {site : Site} {argument : String}
    (split : site.splitArgument argument = pure (whenTrue :: whenFalse.toList))
    (isChosen : (if truth then whenTrue else whenFalse.getD "") = key) (notEmpty : key ≠ "")
    {used : Value} (bound : site.bindings.atKey? key = some used) :
    conditionalUse.apply site value (some argument) = pure used := by
  simp only [conditionalUse, chosenBranch_of_split isTruth split, isChosen, pure_bind,
    if_neg notEmpty, bound, Step.require]

variable {ruleText : String} {forms : List String} {rule : PluralRule}

/-- A numbered plural picks the form of its rule. -/
theorem plur_picks (isNumber : value.toNumber? = some number) {count : Int64}
    (isCount : number.truncate? = some count) (isRule : readRule? ruleText = some rule)
    {form : String} (chooses : forms[rule.formIndex count.toInt.natAbs]? = some form) :
    plur.Picks value (ruleText :: forms) form := by
  intro site argument split
  have nonempty : forms ≠ [] := List.ne_nil_of_mem (List.mem_of_getElem? chooses)
  simp [plur, required, Step.require, Site.number, isNumber, split, isRule, isCount, chooses,
    nonempty]

end Picking

end Operator

/-! ## The registry -/

namespace Registry

/-- Whether a registry holds the standard operators under their names, perhaps beside others. -/
def HoldsStandard (registry : Registry) : Prop :=
  ∀ operator ∈ standardOperators, registry.get? operator.name = some operator

/-- Whether a registry holds the standard operators, under their names, and no others. -/
structure IsStandard (registry : Registry) : Prop where
  only : registry.HoldsOnlyStandard
  all : ∀ operator ∈ standardOperators, registry.get? operator.name = some operator

/-- The operators that choose are standard ones. -/
theorem mem_standardOperators_of_choosing {operator : Operator}
    (member : operator ∈ Operator.choosing) : operator ∈ standardOperators :=
  List.mem_append_left _ (List.mem_append_left _ (List.mem_append_right _ member))

/-- Every standard operator can be called in a template. -/
theorem isIdentifier_name :
    ∀ operator ∈ standardOperators, Reference.isIdentifier operator.name.toList = true := by
  decide

/-- No two operators of the library have one name. -/
theorem nodup_names_standard : (standard.entries.map Prod.fst).Nodup := by decide

/-- The registry of the library holds its operators and no others. -/
theorem standard_isStandard : standard.IsStandard where
  only := standard_holdsOnlyStandard
  all operator member := by
    refine (Entries.lookup_eq_some_iff_mem nodup_names_standard).mpr ?_
    rw [entries_standard]
    exact List.mem_map_of_mem member

end Registry

end MessageTemplate
