import MessageTemplate.Operator.Registry
import MessageTemplate.Proofs.Checked.Patterns
import MessageTemplate.Proofs.Checked.Store
import MessageTemplate.Proofs.Operator.Decision

/-! # Operators that stop at a failed check

The standard operators once more, where a failed check stops all that is being done. Those that
cut an argument, look up a key or format a number check what they take of it; the others are the
operators themselves. `agrees_standard` says that on a site whose bindings have distinct names
no check fails and that each of them does what its operator does. -/

namespace MessageTemplate.Checked

open MessageTemplate.Text

/-- What is done and logged until a check fails. -/
abbrev Attempt (α : Type) := OptionT Logged α

/-- A step of a pipeline until a check fails. -/
abbrev AttemptedStep (α : Type) := ExceptT Refusal (OptionT Logged) α

/-- Something that is checked to be there. -/
def Attempt.access (option : Option α) : Attempt α :=
  OptionT.mk (pure option)

namespace AttemptedStep

/-- Something that is checked to be there. -/
def access (option : Option α) : AttemptedStep α :=
  ExceptT.lift (Attempt.access option)

/-- A step that checks nothing. -/
def ofStep (step : Step α) : AttemptedStep α :=
  ExceptT.mk (OptionT.lift step.run)

/-- An access that is in range succeeds and logs nothing. -/
theorem access_some (value : α) : access (some value) = (pure value : AttemptedStep α) := rfl

/-- A step that is attempted succeeds with its own result and log. -/
theorem run_ofStep (step : Step α) :
    (ofStep step).run.run = ⟨some step.run.result, step.run.events⟩ :=
  Logged.ext rfl (List.append_nil _)

/-- A step after a step that checks nothing need only be right for what that step gives. -/
theorem ofStep_bind {first : Step α} {next : α → Step β} {attempted : α → AttemptedStep β}
    (agrees : ∀ value, first.run.result = .ok value → attempted value = ofStep (next value)) :
    (ofStep first >>= attempted) = ofStep (first >>= next) := by
  obtain ⟨result, events⟩ := first
  cases result with
  | ok value =>
      have same := agrees value rfl
      refine Logged.ext ?_ ?_
      · change (attempted value).run.run.result = _
        rw [same]
        rfl
      · change (events ++ []) ++ (attempted value).run.run.events =
          (events ++ (next value).run.events) ++ []
        rw [same, run_ofStep, List.append_nil, List.append_nil]
  | error refusal =>
      refine Logged.ext rfl ?_
      change (events ++ []) ++ [] = (events ++ []) ++ []
      rfl

end AttemptedStep

/-- What an operator can reach while it runs. -/
structure Surroundings where
  locale : Locale
  store : Store
  depth : Nat
  expand : String → AttemptedStep String

namespace Surroundings

open AttemptedStep

/-- A site with the same locale on which nothing is bound and texts are not expanded. -/
def bare (surroundings : Surroundings) : Site where
  locale := surroundings.locale
  bindings := .empty
  depth := surroundings.depth
  expand := pure

/-- Cuts an argument at its top-level semicolons and reports the closing braces that close
nothing. -/
def splitArgument (_ : Surroundings) (argument : String) :
    AttemptedStep (List String) := do
  let split ← access (split? argumentSeparator argument.toList)
  ofStep do
    for offset in split.unbalanced do
      Logged.record (.problem ⟨.strayBraceInArgument argument, some offset⟩)
    return split.parts.map String.ofList

/-- The surroundings of a site. -/
def ofSite (site : Site) : Surroundings where
  locale := site.locale
  store := .ofBindings site.bindings
  depth := site.depth
  expand text := ofStep (site.expand text)

/-- Cutting an argument by checked positions is cutting it. -/
theorem splitArgument_ofSite (site : Site) (argument : String) :
    (ofSite site).splitArgument argument = ofStep (site.splitArgument argument) := by
  rw [splitArgument, split?_eq]
  rfl

end Surroundings

/-- An operator that checks what it takes. -/
structure AttemptedOperator where
  name : String
  apply : Surroundings → Value → (argument : Option String) → AttemptedStep Value

namespace AttemptedOperator

open AttemptedStep Surroundings

/-- An operator that has nothing to check. -/
def ofOperator (operator : Operator) : AttemptedOperator where
  name := operator.name
  apply surroundings value argument := ofStep (operator.apply surroundings.bare value argument)

/-- The chosen part, expanded. -/
def expandPart (surroundings : Surroundings) (choice : String) : AttemptedStep Value := do
  let text ← surroundings.expand choice
  return .string text

/-- Formats a number. -/
def num : AttemptedOperator where
  name := "num"
  apply surroundings value argument := do
    let number ← ofStep (surroundings.bare.number value "num")
    if Operator.breaksOff number argument then ofStep (Step.refuse .tooManyDigits)
    else
      let reason := "cannot format " ++ number.plain ++ " as " ++
        Text.quoted (argument.getD "decimal")
      let formatted ← access (formatBy? surroundings.locale number argument)
      let text ← ofStep (Step.require (.invalidArgument "num" reason) formatted)
      return .string text

/-- Chooses a plural form as English does, where zero may count as one. -/
def pluralNamed (name : String) (zeroIsSingular : Bool) : AttemptedOperator where
  name := name
  apply surroundings value argument := do
    let argument ← ofStep (Operator.required name argument)
    let number ← ofStep (surroundings.bare.number value name)
    let count := number.toFloat
    let singular := count == 1 || (zeroIsSingular && count == 0)
    let forms ← surroundings.splitArgument argument
    let reason := "expected 1 to 3 forms, found " ++ toString forms.length
    let chosen ← ofStep (Step.require (.invalidArgument name reason)
      (Operator.pluralForm? singular (count == 2) forms))
    expandPart surroundings chosen

/-- Chooses a plural form by a numbered rule. -/
def plur : AttemptedOperator where
  name := "plur"
  apply surroundings value argument := do
    let argument ← ofStep (Operator.required "plur" argument)
    let parts ← surroundings.splitArgument argument
    match parts with
    | [] => ofStep (Step.refuse (.missingArgument "plur"))
    | ruleText :: forms => do
        let rule ← ofStep (Step.require
          (.invalidArgument "plur" ("unknown plural rule " ++ Text.quoted ruleText))
          (Operator.readRule? ruleText))
        if forms.isEmpty then
          ofStep (Step.refuse (.invalidArgument "plur" "no plural forms given"))
        let number ← ofStep (surroundings.bare.number value "plur")
        let whole ← ofStep (Step.require (.coercion "plur" .count) number.truncate?)
        let count := (unsignedAbs whole).toNat
        let index := rule.formIndex count
        match forms[index]? with
        | some form => expandPart surroundings form
        | none => ofStep do
            Step.remark ("plural rule " ++ toString rule.number ++ " needs " ++
              toString rule.formCount ++ " forms but only " ++ toString forms.length ++ " given")
            Step.refuse (.invalidArgument "plur"
              ("no form at index " ++ toString index ++ " for count " ++ toString count))

/-- The branch that the truth of a value chooses. A missing branch is empty. -/
def chosenBranch (surroundings : Surroundings) (operator : String) (value : Value)
    (argument : Option String) : AttemptedStep String := do
  let argument ← ofStep (Operator.required operator argument)
  let parts ← surroundings.splitArgument argument
  let (whenTrue, whenFalse) ← match parts with
    | [whenTrue] => pure (whenTrue, none)
    | [whenTrue, whenFalse] => pure (whenTrue, some whenFalse)
    | _ => ofStep (Step.refuse (.invalidArgument operator
        ("expected at most 2 branches, found " ++ toString parts.length)))
  let truth ← ofStep (surroundings.bare.boolean value operator)
  return if truth then whenTrue else whenFalse.getD ""

/-- Expands a branch. -/
def conditional : AttemptedOperator where
  name := "if"
  apply surroundings value argument := do
    let chosen ← chosenBranch surroundings "if" value argument
    expandPart surroundings chosen

/-- Gives the value of a reference. -/
def conditionalUse : AttemptedOperator where
  name := "ifuse"
  apply surroundings value argument := do
    let key ← chosenBranch surroundings "ifuse" value argument
    if key = "" then return .string ""
    else
      let found ← access (surroundings.store.atKey? key)
      ofStep (Step.require (.unknownVariable "ifuse" key) found)

/-- The item at an index, or the last where the index is out of range. -/
def itemAt (items : List String) (index : Option Int64) : AttemptedStep String := do
  let last ← access (if 1 ≤ items.length then some (items.length - 1) else none)
  let position :=
    match index with
    | some index => if 0 ≤ index.toInt ∧ index.toInt ≤ last then index.toInt.toNat else last
    | none => last
  access items[position]?

/-- Expands the item at the index that a value is. -/
def select : AttemptedOperator where
  name := "select"
  apply surroundings value argument := do
    let argument ← ofStep (Operator.required "select" argument)
    let number ← ofStep (surroundings.bare.number value "select")
    let items ← surroundings.splitArgument argument
    let item ← itemAt items number.truncate?
    expandPart surroundings item

/-- The standard operators in their order. -/
def standard : List AttemptedOperator :=
  [num, ofOperator Operator.round,
    pluralNamed "plural" false, pluralNamed "pluraz" true, plur, conditional, conditionalUse,
    select, ofOperator Operator.negation] ++
  Operator.textual.map ofOperator ++ Operator.inspecting.map ofOperator

/-! ## No check of a standard operator fails -/

/-- Whether no check of an operator fails and it does what another one does, on sites whose bindings
have distinct names. -/
structure Agrees (attempted : AttemptedOperator) (operator : Operator) : Prop where
  name : attempted.name = operator.name
  apply : ∀ (site : Site), site.bindings.names.Nodup → ∀ value argument,
    attempted.apply (ofSite site) value argument = ofStep (operator.apply site value argument)

/-- An access that is in range is followed by what comes next. -/
theorem access_bind (value : α) (next : α → AttemptedStep β) :
    (access (some value) >>= next) = next value := by
  rw [access_some, pure_bind]

/-- Expanding a part of an argument runs into no check. -/
theorem expandPart_ofSite (site : Site) (choice : String) :
    expandPart (ofSite site) choice = ofStep (Operator.expandPart site choice) :=
  ofStep_bind fun _ _ => rfl

/-- Formatting a number runs into no check. -/
theorem agrees_num : Agrees num Operator.num where
  name := rfl
  apply site _ value argument := by
    refine ofStep_bind fun number _ => ?_
    split
    case isTrue => rfl
    case isFalse =>
      rw [formatBy?_eq, access_bind]
      exact ofStep_bind fun _ _ => rfl

/-- Named plurals look no form up that is not there. -/
theorem agrees_pluralNamed (name summary : String) (zeroIsSingular : Bool) :
    Agrees (pluralNamed name zeroIsSingular)
      (Operator.pluralNamed name summary zeroIsSingular) where
  name := rfl
  apply site _ value argument := by
    refine ofStep_bind fun argument _ => ?_
    refine ofStep_bind fun number _ => ?_
    rw [splitArgument_ofSite]
    refine ofStep_bind fun forms _ => ?_
    refine ofStep_bind fun chosen _ => ?_
    exact expandPart_ofSite site chosen

/-- What an argument is cut into is not empty. -/
theorem ne_nil_of_splitArgument {site : Site} {argument : String} {parts : List String}
    (cut : (site.splitArgument argument).run.result = .ok parts) : parts ≠ [] := by
  rw [Site.splitArgument_eq] at cut
  cases cut
  rw [argumentParts, ne_eq, List.map_eq_nil_iff]
  exact splitFrom_ne_nil _ _ _

/-- The checked indices of items are those of at least one item. -/
theorem itemAt_eq {items : List String} (nonempty : items ≠ []) (index : Option Int64) :
    itemAt items index = pure (Operator.itemAt items index) := by
  have atLeastOne : 1 ≤ items.length := List.length_pos_iff.mpr nonempty
  rw [itemAt, if_pos atLeastOne, access_bind, Operator.itemAt.eq_def]
  cases index with
  | none =>
      have inside : items.length - 1 < items.length := by omega
      dsimp only
      rw [getElem?_eq_some_getD inside, access_some]
  | some index =>
      dsimp only
      split
      case isTrue inRange =>
        have inside : index.toInt.toNat < items.length := by omega
        rw [getElem?_eq_some_getD inside, access_some]
      case isFalse =>
        have inside : items.length - 1 < items.length := by omega
        rw [getElem?_eq_some_getD inside, access_some]

/-- Selecting looks no item up that is not there, whatever the number. -/
theorem agrees_select : Agrees select Operator.select where
  name := rfl
  apply site _ value argument := by
    refine ofStep_bind fun argument _ => ?_
    refine ofStep_bind fun number _ => ?_
    rw [splitArgument_ofSite]
    refine ofStep_bind fun items cut => ?_
    rw [itemAt_eq (ne_nil_of_splitArgument cut), pure_bind]
    exact expandPart_ofSite site _

/-- Numbered plurals look no form up that is not there: the count of forms is checked before. -/
theorem agrees_plur : Agrees plur Operator.plur where
  name := rfl
  apply site _ value argument := by
    refine ofStep_bind fun argument _ => ?_
    rw [splitArgument_ofSite]
    refine ofStep_bind fun parts cut => ?_
    obtain ⟨ruleText, forms, rfl⟩ := List.exists_cons_of_ne_nil (ne_nil_of_splitArgument cut)
    refine ofStep_bind fun rule _ => ?_
    by_cases noForms : forms.isEmpty = true
    · simp only [noForms, List.tail_cons, if_true]
      rfl
    · simp only [noForms, List.tail_cons, Bool.false_eq_true, if_false]
      refine ofStep_bind fun number _ => ?_
      refine ofStep_bind fun whole _ => ?_
      rw [toNat_unsignedAbs]
      cases forms[rule.formIndex whole.toInt.natAbs]? with
      | some form => exact expandPart_ofSite site form
      | none => rfl

/-- Choosing a branch runs into no check. -/
theorem chosenBranch_ofSite (site : Site) (operator : String) (value : Value)
    (argument : Option String) :
    chosenBranch (ofSite site) operator value argument =
      ofStep (Operator.chosenBranch site operator value argument) := by
  rw [chosenBranch, Operator.chosenBranch, Operator.branches, bind_assoc]
  refine ofStep_bind fun argument _ => ?_
  rw [splitArgument_ofSite, bind_assoc]
  refine ofStep_bind fun parts _ => ?_
  rcases parts with _ | ⟨whenTrue, _ | ⟨whenFalse, _ | ⟨third, others⟩⟩⟩
  case cons.nil => exact ofStep_bind fun truth _ => rfl
  case cons.cons.nil => exact ofStep_bind fun truth _ => rfl
  all_goals rfl

/-- A condition runs into no check. -/
theorem agrees_conditional : Agrees conditional Operator.conditional where
  name := rfl
  apply site _ value argument := by
    refine (congrArg (· >>= _) (chosenBranch_ofSite site "if" value argument)).trans ?_
    refine ofStep_bind fun chosen _ => ?_
    exact expandPart_ofSite site chosen

/-- A condition that uses a key runs into no check. -/
theorem agrees_conditionalUse : Agrees conditionalUse Operator.conditionalUse where
  name := rfl
  apply site distinct value argument := by
    refine (congrArg (· >>= _) (chosenBranch_ofSite site "ifuse" value argument)).trans ?_
    refine ofStep_bind fun key _ => ?_
    split
    case isTrue => rfl
    case isFalse =>
      have found := Store.atKey?_ofBindings distinct key
      rw [show (ofSite site).store = .ofBindings site.bindings from rfl, found, access_bind]

/-- An operator that looks at no more than the locale has nothing to check. -/
theorem agrees_ofOperator {operator : Operator}
    (same : ∀ site value argument,
      operator.apply (ofSite site).bare value argument = operator.apply site value argument) :
    Agrees (ofOperator operator) operator where
  name := rfl
  apply site _ value argument := congrArg ofStep (same site value argument)

/-- No check fails in any of the standard operators. -/
theorem agrees_standard : List.Forall₂ Agrees standard Registry.standardOperators := by
  have agrees_plain (operators : List Operator)
      (plain : ∀ operator ∈ operators, ∀ site value argument,
        operator.apply (ofSite site).bare value argument = operator.apply site value argument) :
      List.Forall₂ Agrees (operators.map ofOperator) operators :=
    List.forall₂_map_left_iff.mpr (List.forall₂_same.mpr fun operator member =>
      agrees_ofOperator (plain operator member))
  refine List.rel_append (List.rel_append ?deciding (agrees_plain _ ?textual))
    (agrees_plain _ ?inspecting)
  case deciding =>
    exact .cons agrees_num <| .cons (agrees_ofOperator fun _ _ _ => rfl) <|
      .cons (agrees_pluralNamed _ _ _) <| .cons (agrees_pluralNamed _ _ _) <|
      .cons agrees_plur <| .cons agrees_conditional <| .cons agrees_conditionalUse <|
      .cons agrees_select <| .cons (agrees_ofOperator fun _ _ _ => rfl) .nil
  case textual =>
    have mapped (name summary : String) (map : Locale → String → String) :
        ∀ site value argument, (Operator.mapping name summary map).apply (ofSite site).bare
          value argument = (Operator.mapping name summary map).apply site value argument :=
      fun _ _ _ => rfl
    simp only [Operator.textual, List.forall_mem_cons]
    exact ⟨mapped _ _ _, mapped _ _ _, mapped _ _ _, mapped _ _ _, mapped _ _ _, mapped _ _ _,
      mapped _ _ _, fun _ _ _ => rfl, fun _ _ _ => rfl, by simp⟩
  case inspecting =>
    simp only [Operator.inspecting, List.forall_mem_cons]
    exact ⟨fun _ _ _ => rfl, fun _ _ _ => rfl, fun _ _ _ => rfl, by simp⟩

end AttemptedOperator

end MessageTemplate.Checked
