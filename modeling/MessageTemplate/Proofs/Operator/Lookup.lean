import MessageTemplate.Proofs.Operator.Decision

/-! # Operators and the bindings

Only one standard operator looks at the bindings itself, and it looks at one key, which is a part of
its argument. The others see no more of the bindings than what the engine gives them for the texts
that they have expanded. Nothing is promised of operators of a user. -/

namespace MessageTemplate

open MessageTemplate.Text

/-- What is required and given was there. -/
theorem Step.of_require {refusal : Refusal} {option : Option α} {value : α}
    (result : (require refusal option).run.result = .ok value) : option = some value := by
  cases option with
  | none => cases result
  | some given =>
      cases result
      rfl

namespace Operator

/-- Whether an operator does the same whatever is bound. -/
def IgnoresBindings (operator : Operator) : Prop :=
  ∀ site bindings value argument,
    operator.apply { site with bindings } value argument = operator.apply site value argument

/-- What `ifuse` gives for a key. The empty key is for the empty text. -/
def useKey (bindings : Bindings) (key : String) : Step Value :=
  if key = "" then return .string ""
  else Step.require (.unknownVariable "ifuse" key) (bindings.atKey? key)

/-- A condition that uses a key chooses a branch first and then looks it up. -/
theorem conditionalUse_apply (site : Site) (value : Value) (argument : Option String) :
    conditionalUse.apply site value argument =
      chosenBranch site "ifuse" value argument >>= useKey site.bindings := rfl

/-- Each of the standard operators but `ifuse` does the same whatever is bound. -/
theorem eq_conditionalUse_or_ignoresBindings {operator : Operator}
    (isStandard : operator ∈ Registry.standardOperators) :
    operator = conditionalUse ∨ operator.IgnoresBindings := by
  have ignoringNumeric : ∀ operator ∈ numeric, operator.IgnoresBindings := by
    simp only [numeric, List.forall_mem_cons]
    exact ⟨fun _ _ _ _ => rfl, fun _ _ _ _ => rfl, by simp⟩
  have ignoringTextual : ∀ operator ∈ textual, operator.IgnoresBindings := by
    have mapped (name summary : String) (map : Locale → String → String) :
        (mapping name summary map).IgnoresBindings := fun _ _ _ _ => rfl
    simp only [textual, List.forall_mem_cons]
    exact ⟨mapped _ _ _, mapped _ _ _, mapped _ _ _, mapped _ _ _, mapped _ _ _, mapped _ _ _,
      mapped _ _ _, fun _ _ _ _ => rfl, fun _ _ _ _ => rfl, by simp⟩
  have ignoringInspecting : ∀ operator ∈ inspecting, operator.IgnoresBindings := by
    simp only [inspecting, List.forall_mem_cons]
    exact ⟨fun _ _ _ _ => rfl, fun _ _ _ _ => rfl, fun _ _ _ _ => rfl, by simp⟩
  have choosing : ∀ operator ∈ choosing,
      operator = conditionalUse ∨ operator.IgnoresBindings := by
    simp only [choosing, List.forall_mem_cons]
    exact ⟨.inr fun _ _ _ _ => rfl, .inr fun _ _ _ _ => rfl, .inr fun _ _ _ _ => rfl,
      .inr fun _ _ _ _ => rfl, .inl trivial, .inr fun _ _ _ _ => rfl, .inr fun _ _ _ _ => rfl,
      by simp⟩
  simp only [Registry.standardOperators, List.mem_append] at isStandard
  rcases isStandard with ((isNumeric | isChoosing) | isTextual) | isInspecting
  · exact .inr (ignoringNumeric operator isNumeric)
  · exact choosing operator isChoosing
  · exact .inr (ignoringTextual operator isTextual)
  · exact .inr (ignoringInspecting operator isInspecting)

/-- A chosen branch is a part of the argument, or empty where the part is missing. -/
theorem mem_of_chosenBranch {site : Site} {operator chosen : String} {value : Value}
    {argument : Option String}
    (found : (chosenBranch site operator value argument).run.result = .ok chosen) :
    ∃ text, argument = some text ∧ (chosen = "" ∨ chosen ∈ argumentParts text) := by
  obtain ⟨⟨whenTrue, whenFalse⟩, branched, found⟩ := Step.ok_of_bind found
  obtain ⟨truth, -, found⟩ := Step.ok_of_bind found
  obtain ⟨text, isArgument, branched⟩ := Step.ok_of_bind branched
  obtain ⟨parts, isParts, branched⟩ := Step.ok_of_bind branched
  refine ⟨text, Step.of_require isArgument, ?_⟩
  rw [Site.splitArgument_eq] at isParts
  cases isParts
  revert branched
  rcases argumentParts text with _ | ⟨first, _ | ⟨second, _ | ⟨third, others⟩⟩⟩
  case cons.nil =>
    rintro ⟨⟩
    cases found
    cases truth <;> simp
  case cons.cons.nil =>
    rintro ⟨⟩
    cases found
    cases truth <;> simp
  all_goals rintro ⟨⟩

end Operator

end MessageTemplate
