import MessageTemplate.Proofs.Engine.Nesting

/-! # Pipelines

A substitution sends its value through its stages, one after the other. A stage that refuses leaves
null to the stages behind it, and one report of its own as the last thing that it logs:
`Engine.absorbsFailure` says that nothing else of the value is left.

The stages behind a failing one are those of a pipeline on null, with the same bindings. They see
the bindings still, so they may well use the value under its key. A stage that formats too many
fraction digits does not fail but breaks the expansion off, and is not absorbed. A failing stage
breaks nothing off, so a pipeline with one does where the stages before or behind do. -/

namespace MessageTemplate

open MessageTemplate.Text

namespace Engine

variable {engine : Engine} {bindings : Bindings} {key nullKey : String} {value : Value}
  {earlier later calls : List OperatorCall} {call last : OperatorCall} {refusal : Refusal}

/-! ## Pipelines on a key -/

/-- A substitution that sends the value of a key through some calls. -/
def pipeline (key : String) (calls : List OperatorCall) : String :=
  String.ofList (Substitution.written key.toList calls)

/-- A pipeline is read as it is written. -/
theorem read_pipeline {reference : Reference}
    (keyRead : Reference.read? key.toList = some reference)
    (wellFormed : ∀ call ∈ calls, call.IsWellFormed) :
    Template.read (pipeline key calls) =
      ⟨pipeline key calls, [.substitution ⟨pipeline key calls, reference, calls⟩], []⟩ := by
  have isWritten : Substitution.IsWrittenWith ⟨pipeline key calls, reference, calls⟩ key.toList :=
    { source := String.toList_ofList
      reference := Reference.read?_eq_some_iff.mp keyRead
      operators := wellFormed }
  exact Template.read_source isWritten

/-- A pipeline logs itself and what its calls log. -/
theorem trace_pipeline (bound : bindings.atKey? key = some value)
    (wellFormed : ∀ call ∈ calls, call.IsWellFormed) :
    engine.trace (Template.read (pipeline key calls)) bindings =
      let logged := applyCalls engine.registry (engine.topSite bindings) value calls
      ⟨logged.result.render engine.locale, .fragment 0 (pipeline key calls) :: logged.events⟩ := by
  obtain ⟨reference, keyRead, resolved⟩ := Option.bind_eq_some_iff.mp bound
  rw [read_pipeline keyRead wellFormed, trace, renderAt_substitution,
    substitute_eq_of_bound _ _ resolved]
  rfl

/-- A template of one pipeline shows what its calls make of the value and reports their problems. -/
theorem expand_pipeline (bound : bindings.atKey? key = some value)
    (wellFormed : ∀ call ∈ calls, call.IsWellFormed) :
    engine.expand (pipeline key calls) bindings =
      let logged := applyCalls engine.registry (engine.topSite bindings) value calls
      ⟨logged.result.render engine.locale, logged.diagnostics⟩ := by
  rw [expand, render, trace_pipeline bound wellFormed]
  rfl

/-- A pipeline of one call is this call. -/
theorem applyCalls_singleton (registry : Registry) (site : Site) (value : Value)
    (call : OperatorCall) :
    applyCalls registry site value [call] = applyCall registry site value call :=
  bind_pure _

end Engine

end MessageTemplate
