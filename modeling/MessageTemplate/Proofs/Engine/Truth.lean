import MessageTemplate.Proofs.Character.Blank
import MessageTemplate.Proofs.Decimal.Digits
import MessageTemplate.Proofs.Engine.Conditions
import MessageTemplate.Proofs.Locale.Integers

/-! # Whole numbers as conditions

A text is read twice, once for its number and once for its truth, by two readers that share nothing:
one takes a whole number to its end, the other skips what stands in front and looks at a single
character. `Engine.sameCondition` says that they agree on every text that stands for a whole number,
so that a condition cannot tell the text from the number.

A text that stands for no whole number can be true all the same, as `1.0` and `yes` are. -/

namespace MessageTemplate

open MessageTemplate.Character MessageTemplate.Decimal

namespace Value

variable {text before after digits written : List Char} {whole : Int} {number : Int64}

/-! ## Blanks in front of a text -/

/-- Blanks in front are skipped up to the first other character. -/
theorem dropBlanks_append (blankBefore : ∀ character ∈ before, isBlank character = true)
    (notBlank : ∀ character ∈ written, isBlank character = false) (nonempty : written ≠ [])
    (after : List Char) : dropBlanks (before ++ (written ++ after)) = written ++ after := by
  obtain ⟨first, rest, rfl⟩ := List.exists_cons_of_ne_nil nonempty
  rw [dropBlanks, List.dropWhile_append_of_pos blankBefore, List.cons_append]
  exact List.dropWhile_cons_of_neg (by simp [notBlank first])

/-! ## How a text stands for a whole number -/

/-- Whether a text is a whole number as it is written, with any blanks around it. -/
def IsSpelled (number : Int64) (text : List Char) : Prop :=
  ∃ before written after, text = before ++ written ++ after ∧ IsWritten number.toInt written ∧
    (∀ character ∈ before, isBlank character = true) ∧ ∀ character ∈ after, isBlank character = true

/-- A whole number is written with at least one character. -/
theorem ne_nil_of_isWritten (isWritten : IsWritten whole written) : written ≠ [] := by
  cases isWritten with
  | unsigned areDigits nonempty => exact nonempty
  | plus areDigits nonempty => exact List.cons_ne_nil _ _
  | minus areDigits nonempty => exact List.cons_ne_nil _ _

/-- A whole number is written without blanks. -/
theorem not_blank_of_isWritten (isWritten : IsWritten whole written) :
    ∀ character ∈ written, isBlank character = false := by
  have notBlank {digits : List Char} (areDigits : ∀ digit ∈ digits, digit.isDigit = true) :
      ∀ digit ∈ digits, isBlank digit = false := fun digit member =>
    isBlank_of_isDigit (areDigits digit member)
  cases isWritten with
  | unsigned areDigits nonempty => exact notBlank areDigits
  | plus areDigits nonempty => exact List.forall_mem_cons.mpr ⟨by decide, notBlank areDigits⟩
  | minus areDigits nonempty => exact List.forall_mem_cons.mpr ⟨by decide, notBlank areDigits⟩

/-- The number of a text is a whole number exactly where the text spells it. -/
theorem readNumber?_eq_int_iff : readNumber? text = some (.int number) ↔ IsSpelled number text := by
  have reads : readNumber? text = some (.int number) ↔
      readInt64? (trimBlanks text) = some number := by
    rw [readNumber?]
    cases readInt64? (trimBlanks text) with
    | some value => simp
    | none => simp
  rw [reads, readInt64?_eq_some_iff]
  constructor
  · intro isWritten
    obtain ⟨before, after, whole, blankBefore, blankAfter⟩ := exists_blanks text
    exact ⟨before, trimBlanks text, after, whole, isWritten, blankBefore, blankAfter⟩
  · rintro ⟨before, written, after, rfl, isWritten, blankBefore, blankAfter⟩
    rwa [trimBlanks_append blankBefore blankAfter,
      trimBlanks_of_not_blank (not_blank_of_isWritten isWritten)]

/-! ## Its truth -/

/-- Without its sign, a whole number is the digits of its magnitude. -/
theorem exists_dropSign (isWritten : IsWritten whole written) (after : List Char) :
    ∃ digits, dropSign (written ++ after) = digits ++ after ∧ naturalOf digits = whole.natAbs ∧
      ∀ digit ∈ digits, digit.isDigit = true := by
  cases isWritten with
  | unsigned areDigits nonempty =>
      obtain ⟨first, rest, rfl⟩ := List.exists_cons_of_ne_nil nonempty
      refine ⟨first :: rest, ?_, rfl, areDigits⟩
      unfold dropSign
      split
      case h_1 same =>
        cases same
        exact absurd (areDigits '+' List.mem_cons_self) (by decide)
      case h_2 same =>
        cases same
        exact absurd (areDigits '-' List.mem_cons_self) (by decide)
      case h_3 => rfl
  | plus areDigits nonempty => exact ⟨_, rfl, rfl, areDigits⟩
  | minus areDigits nonempty => exact ⟨_, rfl, by rw [Int.natAbs_neg]; rfl, areDigits⟩

/-- Behind digits that denote zero the zeros are skipped, and no more. -/
theorem dropWhile_zeros (areDigits : ∀ digit ∈ digits, digit.isDigit = true)
    (isZero : naturalOf digits = 0) (after : List Char) :
    (digits ++ after).dropWhile (· == '0') = after.dropWhile (· == '0') :=
  List.dropWhile_append_of_pos fun digit member =>
    beq_iff_eq.mpr (eq_zeros_of_naturalOf areDigits isZero digit member)

/-- In digits that do not denote zero a digit follows the zeros. -/
theorem exists_dropWhile_zeros (areDigits : ∀ digit ∈ digits, digit.isDigit = true)
    (notZero : naturalOf digits ≠ 0) (after : List Char) :
    ∃ first rest, (digits ++ after).dropWhile (· == '0') = first :: rest ∧
      first.isDigit = true ∧ first ≠ '0' := by
  induction digits with
  | nil => exact absurd rfl notZero
  | cons digit digits inductionHypothesis =>
      obtain ⟨isDigit, restDigits⟩ := List.forall_mem_cons.mp areDigits
      by_cases isFirst : digit = '0'
      · subst isFirst
        have rest := inductionHypothesis restDigits notZero
        rwa [List.cons_append, List.dropWhile_cons_of_pos (by decide)]
      · refine ⟨digit, digits ++ after, ?_, isDigit, isFirst⟩
        rw [List.cons_append, List.dropWhile_cons_of_neg (by simpa using isFirst)]

/-- Whether a text is true that has this character as its first of any weight. -/
def startsTruth (first : Char) : Bool :=
  first == 'Y' || first == 'y' || first == 'T' || first == 't' || ('1' ≤ first && first ≤ '9')

/-- A text that starts with a digit other than zero is true. -/
theorem startsTruth_of_isDigit {first : Char} (isDigit : first.isDigit = true)
    (notZero : first ≠ '0') : startsTruth first = true := by
  rw [Char.isDigit, Bool.and_eq_true, decide_eq_true_eq, decide_eq_true_eq] at isDigit
  have least : 48 ≤ first.toNat := isDigit.1
  have differs : first.toNat ≠ 48 := fun same => notZero (Char.toNat_inj.mp same)
  have fromOne : '1' ≤ first := show 49 ≤ first.toNat by omega
  have toNine : first ≤ '9' := isDigit.2
  simp [startsTruth, fromOne, toNine]

/-- No blank is a sign of truth. -/
theorem startsTruth_of_isBlank {first : Char} (isBlank : isBlank first = true) :
    startsTruth first = false := by
  by_contra isTrue
  simp only [startsTruth, Bool.not_eq_false, Bool.or_eq_true, Bool.and_eq_true, beq_iff_eq,
    decide_eq_true_eq] at isTrue
  rcases isTrue with (((rfl | rfl) | rfl) | rfl) | ⟨fromOne, toNine⟩
  · exact absurd isBlank (by decide)
  · exact absurd isBlank (by decide)
  · exact absurd isBlank (by decide)
  · exact absurd isBlank (by decide)
  · have fromZero : '0' ≤ first := Char.le_trans (by decide) fromOne
    have isDigit : first.isDigit = true := by
      rw [Char.isDigit, Bool.and_eq_true, decide_eq_true_eq, decide_eq_true_eq]
      exact ⟨fromZero, toNine⟩
    exact Bool.false_ne_true ((isBlank_of_isDigit isDigit).symm.trans isBlank)

/-- A whole number is true where it is not zero, however it is spelled. -/
theorem readTruth_of_isSpelled (isSpelled : IsSpelled number text) :
    readTruth text = (number != 0) := by
  obtain ⟨before, written, after, rfl, isWritten, blankBefore, blankAfter⟩ := isSpelled
  obtain ⟨digits, signDropped, magnitude, areDigits⟩ := exists_dropSign isWritten after
  have isZero : number = 0 ↔ naturalOf digits = 0 := by
    rw [magnitude, Int.natAbs_eq_zero, ← Int64.toInt_inj]
    rfl
  rw [readTruth, List.append_assoc, dropBlanks_append blankBefore
    (not_blank_of_isWritten isWritten) (ne_nil_of_isWritten isWritten), signDropped]
  by_cases zero : naturalOf digits = 0
  · rw [dropWhile_zeros areDigits zero, isZero.mpr zero]
    -- Only blanks can follow, and no blank is a sign of truth.
    cases after with
    | nil => rfl
    | cons first rest =>
        have isBlank := blankAfter first List.mem_cons_self
        have notZero : first ≠ '0' := by
          rintro rfl
          exact absurd isBlank (by decide)
        rw [List.dropWhile_cons_of_neg (by simpa using notZero)]
        exact startsTruth_of_isBlank isBlank
  · obtain ⟨first, rest, reached, isDigit, notZero⟩ := exists_dropWhile_zeros areDigits zero after
    have differs : number ≠ 0 := fun isNone => zero (isZero.mp isNone)
    rw [reached, bne_iff_ne.mpr differs]
    exact startsTruth_of_isDigit isDigit notZero

end Value

/-! ## Conditions -/

namespace Operator

/-- The operators that ask for the truth of a value. -/
def conditions : List Operator :=
  [conditional, conditionalUse, negation]

/-- A condition sees nothing of a value but its truth. -/
theorem apply_congr_of_truth {value other : Value} (sameTruth : value.toBoolean? = other.toBoolean?)
    {operator : Operator} (isCondition : operator ∈ conditions) (site : Site)
    (argument : Option String) :
    operator.apply site value argument = operator.apply site other argument := by
  have sameBoolean (name : String) : site.boolean value name = site.boolean other name := by
    rw [Site.boolean, Site.boolean, sameTruth]
  have sameBranch (name : String) :
      chosenBranch site name value argument = chosenBranch site name other argument := by
    rw [chosenBranch, chosenBranch, sameBoolean]
  simp only [conditions, List.mem_cons, List.not_mem_nil, or_false] at isCondition
  rcases isCondition with rfl | rfl | rfl
  · simp only [conditional, sameBranch]
  · simp only [conditionalUse, sameBranch]
  · simp only [negation, sameBoolean]

end Operator

namespace Engine

/-- What it means that a condition cannot tell a text from a whole number. -/
structure SameCondition (text : String) (number : Int64) : Prop where
  /-- The text is the number as it is written, between blanks. -/
  spelled : Value.IsSpelled number text.toList
  ofText : (Value.string text).toBoolean? = some (number != 0)
  ofNumber : (Value.int number).toBoolean? = some (number != 0)
  /-- A stage does the same for both: it takes the same branch and reports the same. -/
  stage : ∀ operator ∈ Operator.conditions, ∀ site argument,
    operator.apply site (.string text) argument = operator.apply site (.int number) argument
  /-- Pipelines that start with a condition are expanded alike on a key of the one and on a key of
  the other. -/
  expanded : ∀ engine : Engine, engine.registry.HoldsStandard → ∀ bindings textKey numberKey,
    bindings.atKey? textKey = some (.string text) → bindings.atKey? numberKey = some (.int number) →
      ∀ operator ∈ Operator.conditions, ∀ argument later,
        (∀ call ∈ (⟨operator.name, argument⟩ : OperatorCall) :: later, call.IsWellFormed) →
          engine.expand (pipeline textKey (⟨operator.name, argument⟩ :: later)) bindings =
            engine.expand (pipeline numberKey (⟨operator.name, argument⟩ :: later)) bindings

/-- A text whose number is a whole number is true where this is not zero, so that every condition
treats the two alike. -/
theorem sameCondition {text : String} {number : Int64}
    (isNumber : (Value.string text).toNumber? = some (.int number)) :
    SameCondition text number := by
  have spelled : Value.IsSpelled number text.toList := Value.readNumber?_eq_int_iff.mp isNumber
  have ofText : (Value.string text).toBoolean? = some (number != 0) :=
    congrArg some (Value.readTruth_of_isSpelled spelled)
  have stage {operator : Operator} (isCondition : operator ∈ Operator.conditions) (site : Site)
      (argument : Option String) :=
    Operator.apply_congr_of_truth (ofText.trans (Eq.refl (Value.int number).toBoolean?)) isCondition
      site argument
  refine ⟨spelled, ofText, rfl, fun operator isCondition => stage isCondition, ?_⟩
  intro engine standard bindings textKey numberKey textBound numberBound operator isCondition
    argument later wellFormed
  have isChoosing : operator ∈ Operator.choosing := by
    simp only [Operator.conditions, List.mem_cons, List.not_mem_nil, or_false] at isCondition
    rcases isCondition with rfl | rfl | rfl <;> simp [Operator.choosing]
  have onText := report_applyCalls standard isChoosing (engine.topSite bindings) (.string text)
    argument later
  have onNumber := report_applyCalls standard isChoosing (engine.topSite bindings) (.int number)
    argument later
  rw [stage isCondition] at onText
  exact expand_pipeline_congr textBound numberBound wellFormed wellFormed
    (LogRelation.sameReport_trans onText (LogRelation.sameReport_symm onNumber))

/-- A sign and zeros between blanks, in front of a number that is not zero and of one that is. -/
theorem sameCondition_padded :
    let bindings := (Bindings.empty.insert "t" (.string "\u3000+007\n")).insert "n" (.int 7)
    (Value.string "\u3000+007\n").toNumber? = some (.int 7) ∧
      (Value.string "\t-000 ").toNumber? = some (.int 0) ∧
      (Value.string "\u3000+007\n").toBoolean? = some true ∧
      (Value.string "\t-000 ").toBoolean? = some false ∧
      standard.expand "{t|not|if:no {n};{t}}" bindings = ⟨"\u3000+007\n", []⟩ ∧
      standard.expand "{t|ifuse:gone;t}" bindings =
        ⟨"(null)", [⟨.refused (.unknownVariable "ifuse" "gone"), none⟩]⟩ := by
  intro bindings
  have isSeven : (Value.string "\u3000+007\n").toNumber? = some (.int 7) := by decide
  have isZero : (Value.string "\t-000 ").toNumber? = some (.int 0) := by decide
  have onSeven := sameCondition isSeven
  have expanded := onSeven.expanded standard Registry.standard_isStandard.all bindings "t" "n" rfl
    rfl
  refine ⟨isSeven, isZero, onSeven.ofText, (sameCondition isZero).ofText, ?_, ?_⟩
  · have wellFormed : ∀ call ∈ [(⟨"not", none⟩ : OperatorCall), ⟨"if", some "no {n};{t}"⟩],
        call.IsWellFormed := by
      simp only [List.forall_mem_cons]
      refine ⟨⟨by decide, nofun⟩, ⟨by decide, ?_⟩, nofun⟩
      rintro _ ⟨rfl⟩
      decide
    have onText : pipeline "t" [⟨"not", none⟩, ⟨"if", some "no {n};{t}"⟩] =
        "{t|not|if:no {n};{t}}" := by decide
    rw [← onText]
    exact (expanded Operator.negation (by simp [Operator.conditions]) none _ wellFormed).trans
      (by decide)
  · have wellFormed : ∀ call ∈ [(⟨"ifuse", some "gone;t"⟩ : OperatorCall)],
        call.IsWellFormed := by
      simp only [List.forall_mem_singleton]
      refine ⟨by decide, ?_⟩
      rintro _ ⟨rfl⟩
      decide
    have onText : pipeline "t" [⟨"ifuse", some "gone;t"⟩] = "{t|ifuse:gone;t}" := by decide
    rw [← onText]
    exact (expanded Operator.conditionalUse (by simp [Operator.conditions]) (some "gone;t") _
      wellFormed).trans (by decide)

end Engine

end MessageTemplate
