import MessageTemplate.Proofs.Engine.Nesting

/-! # When the depth limit matters

Every nested expansion takes at least one level of braces off, so a template whose braces are no
deeper than the limit never meets it: `Engine.expand_withMaxDepth`. It is braces that are counted
and not expansions, so a template with deeper braces need not meet the limit either. An operator of
a user may expand text that is not nested in the template, and then nothing is promised. -/

namespace MessageTemplate

open MessageTemplate.Text

namespace DiagnosticKind

variable {kind : DiagnosticKind}

/-- No problem met at stages is that of the limit. -/
theorem not_recursionLimit_of_isStage :
    kind.isStage = true → (kind == recursionLimit) = false := by
  cases kind <;> decide

/-- No problem of syntax is that of the limit. -/
theorem not_recursionLimit_of_isSyntax :
    kind.isSyntax = true → (kind == recursionLimit) = false := by
  cases kind <;> decide

end DiagnosticKind

namespace Engine

/-- An engine that differs at most in its depth limit. -/
def withMaxDepth (engine : Engine) (maxDepth : Nat) : Engine :=
  { engine with options := { engine.options with maxDepth } }

/-- A nested text that has more levels left than braces, so that the limit is not met in it. -/
def depthInvariant (engine : Engine) : NestingInvariant engine fun events =>
    ∀ event ∈ events, event.isProblemOf (· == .recursionLimit) = false where
  Holds levels fragment := greatestDepth 0 fragment.toList < levels
  logProperty := .avoids fun _ => DiagnosticKind.not_recursionLimit_of_isStage
  limit _ shallow := absurd shallow (Nat.not_lt_zero _)
  reads _ _ := List.forall_mem_cons.mpr ⟨rfl, List.forall_mem_map.mpr fun _ member =>
    DiagnosticKind.not_recursionLimit_of_isSyntax (Template.isSyntax_of_mem_read member)⟩
  nests shallow nests := by
    have smaller := nests.greatestDepth_lt
    omega

variable {engine : Engine} (standardOnly : engine.registry.HoldsOnlyStandard)

include standardOnly

/-- Two limits that leave more levels than there are braces make no difference. -/
theorem expandWithin_withMaxDepth (bindings : Bindings) {left right leftLevels rightLevels : Nat}
    (depth : Nat) (leftDepth : depth + leftLevels = left) (rightDepth : depth + rightLevels = right)
    {fragment : String} (leftReaches : greatestDepth 0 fragment.toList < leftLevels)
    (rightReaches : greatestDepth 0 fragment.toList < rightLevels) :
    expandWithin (engine.withMaxDepth left) bindings leftLevels fragment =
      expandWithin (engine.withMaxDepth right) bindings rightLevels fragment := by
  induction leftLevels generalizing depth rightLevels fragment with
  | zero => exact absurd leftReaches (Nat.not_lt_zero _)
  | succ leftLevels inductionHypothesis =>
      cases rightLevels with
      | zero => exact absurd rightReaches (Nat.not_lt_zero _)
      | succ rightLevels =>
          have agrees : ((engine.withMaxDepth left).siteAt bindings (left - leftLevels)
                leftLevels).AgreesOn
              ((engine.withMaxDepth right).siteAt bindings (right - rightLevels) rightLevels)
              (Template.read fragment).Nests :=
            { locale := rfl
              bindings := rfl
              depth := show left - leftLevels = right - rightLevels by omega
              expand := fun inner nests => by
                have smaller := nests.greatestDepth_lt
                exact inductionHypothesis (depth + 1) (by omega) (by omega) (by omega) (by omega) }
          exact congrArg (fun rendered => (liftM rendered : Step String))
            (renderAt_congr standardOnly agrees)

/-- Limits no less than the braces are deep make no difference to what an expansion does. -/
theorem trace_withMaxDepth {text : String} {left right : Nat}
    (leftReaches : greatestDepth 0 text.toList ≤ left)
    (rightReaches : greatestDepth 0 text.toList ≤ right) (bindings : Bindings) :
    (engine.withMaxDepth left).trace (Template.read text) bindings =
      (engine.withMaxDepth right).trace (Template.read text) bindings := by
  have agrees : ((engine.withMaxDepth left).topSite bindings).AgreesOn
      ((engine.withMaxDepth right).topSite bindings) (Template.read text).Nests :=
    { locale := rfl
      bindings := rfl
      depth := rfl
      expand := fun fragment nests => by
        have smaller := nests.greatestDepth_lt
        exact expandWithin_withMaxDepth standardOnly bindings 0 (Nat.zero_add left)
          (Nat.zero_add right) (by omega) (by omega) }
  exact renderAt_congr standardOnly agrees

/-- A limit no less than the braces are deep is not met. -/
theorem not_recursionLimit_of_mem_expand {text : String}
    (reaches : greatestDepth 0 text.toList ≤ engine.options.maxDepth) {bindings : Bindings}
    {diagnostic : Diagnostic} (member : diagnostic ∈ (engine.expand text bindings).diagnostics) :
    (diagnostic.kind == .recursionLimit) = false := by
  have shallow : ∀ fragment, (Template.read text).Nests fragment →
      engine.depthInvariant.Holds engine.options.maxDepth fragment :=
    fun fragment nests => Nat.lt_of_lt_of_le nests.greatestDepth_lt reaches
  obtain ⟨later, logged, notMet⟩ :=
    engine.depthInvariant.exists_events_trace standardOnly shallow bindings
  rw [diagnostics_expand logged, List.mem_append, Logged.mem_diagnostics] at member
  rcases member with inTemplate | isLater
  · exact DiagnosticKind.not_recursionLimit_of_isSyntax (Template.isSyntax_of_mem_read inTemplate)
  · exact notMet _ isLater

omit standardOnly

/-- Engines that differ only in their depth limits expand a template alike, and do not meet their
limits, if no limit is less than the greatest depth of the braces. -/
theorem expand_withMaxDepth (engine : Engine) (standardOnly : engine.registry.HoldsOnlyStandard)
    (text : String) (left right : Nat) (leftReaches : greatestDepth 0 text.toList ≤ left)
    (rightReaches : greatestDepth 0 text.toList ≤ right) (bindings : Bindings) :
    (engine.withMaxDepth left).expand text bindings =
        (engine.withMaxDepth right).expand text bindings ∧
      ∀ diagnostic ∈ ((engine.withMaxDepth left).expand text bindings).diagnostics,
        diagnostic.kind ≠ .recursionLimit := by
  constructor
  · have same := trace_withMaxDepth standardOnly leftReaches rightReaches bindings
    rw [expand, render, same]
    rfl
  · intro diagnostic member
    have leftStandard : (engine.withMaxDepth left).registry.HoldsOnlyStandard := standardOnly
    have notMet := not_recursionLimit_of_mem_expand leftStandard leftReaches member
    exact beq_eq_false_iff_ne.mp notMet

/-- A limit of the greatest depth suffices for a plural form in a choice, and one less does not. -/
theorem expand_withMaxDepth_nested :
    let bindings := (Bindings.empty.insert "n" (.string "2")).insert "ok" (.bool true)
    let text := "{ok|if:{n|plural:mouse;mice};none}"
    standard.registry.HoldsOnlyStandard ∧ greatestDepth 0 text.toList = 2 ∧
      (standard.withMaxDepth 2).expand text bindings =
        (standard.withMaxDepth 32).expand text bindings ∧
      ((standard.withMaxDepth 2).expand text bindings).text = "mice" ∧
      (∀ diagnostic ∈ ((standard.withMaxDepth 2).expand text bindings).diagnostics,
        diagnostic.kind ≠ .recursionLimit) ∧
      ((standard.withMaxDepth 1).expand text bindings).diagnostics.map Diagnostic.kind =
        [.recursionLimit, .operatorFailed] := by
  intro bindings text
  have standardOnly : standard.registry.HoldsOnlyStandard := Registry.standard_holdsOnlyStandard
  have depth : greatestDepth 0 text.toList = 2 := by decide
  obtain ⟨same, notMet⟩ := expand_withMaxDepth standard standardOnly text 2 32 depth.le
    (depth.trans_le (by decide)) bindings
  exact ⟨standardOnly, depth, same, by decide, notMet, by decide⟩

end Engine

end MessageTemplate
