import MessageTemplate.Engine
import MessageTemplate.Proofs.Operator.Logs

/-! # What rendering logs

Each layer of the engine has its result and its events in closed form, so that later statements
about a log never open a loop. -/

namespace MessageTemplate

namespace Engine

variable (registry : Registry) (site : Site)

/-- How a stage ends: with the value of its operator, or with null and a report of the refusal. -/
def stageEnd : Except Refusal Value → Logged Value
  | .ok value => ⟨value, []⟩
  | .error refusal => ⟨.null, [.problem ⟨refusalProblem refusal, none⟩]⟩

/-- A call logs itself, then what its operator logs, and then how the stage ends. -/
theorem applyCall_eq (value : Value) (call : OperatorCall) :
    applyCall registry site value call =
      let step := (registry.apply call.name site value call.argument).run
      ⟨(stageEnd step.result).result,
        .called site.depth call.name :: (step.events ++ (stageEnd step.result).events)⟩ := by
  cases result : (registry.apply call.name site value call.argument).run.result with
  | ok value => ext1 <;> simp [applyCall, result, stageEnd]
  | error refusal => ext1 <;> simp [applyCall, result, stageEnd]

/-- A substitution whose reference is bound is its value, sent through the calls. -/
theorem substitute_eq_of_bound {substitution : Substitution} {value : Value}
    (bound : site.bindings.resolve? substitution.reference = some value) :
    substitute registry site substitution =
      let logged := applyCalls registry site value substitution.operators
      ⟨logged.result.render site.locale, logged.events⟩ := by
  rw [substitute, bound]
  exact Logged.ext rfl (List.append_nil _)

/-- Segments are rendered independently of each other, in order. -/
theorem renderSegments_eq (segments : List Segment) :
    renderSegments registry site segments =
      ⟨segments.map fun segment => (renderSegment registry site segment).result,
        segments.flatMap fun segment => (renderSegment registry site segment).events⟩ := by
  induction segments with
  | nil => rfl
  | cons segment rest inductionHypothesis =>
      ext1
      · simp [renderSegments, inductionHypothesis]
      · simp [renderSegments, inductionHypothesis]

/-- The text of a template is that of its segments. -/
theorem result_renderAt (template : Template) :
    (renderAt registry site template).result =
      String.join (template.segments.map fun segment =>
        (renderSegment registry site segment).result) := by
  simp [renderAt, renderSegments_eq]

/-- A rendering logs the text that was read, its problems, and then what each segment logs. -/
theorem events_renderAt (template : Template) :
    (renderAt registry site template).events =
      .fragment site.depth template.source :: (template.diagnostics.map .problem ++
        template.segments.flatMap fun segment =>
          (renderSegment registry site segment).events) := by
  simp only [renderAt, renderSegments_eq, Logged.events_bind, Logged.events_record,
    Logged.events_forIn_record, Logged.events_pure]
  simp

/-- The rendering of a template that is one substitution. -/
theorem renderAt_substitution (source : String) (substitution : Substitution) :
    renderAt registry site ⟨source, [.substitution substitution], []⟩ =
      let logged := substitute registry site substitution
      ⟨logged.result, .fragment site.depth source :: logged.events⟩ := by
  ext1
  · simp [result_renderAt, renderSegment]
  · simp [events_renderAt, renderSegment]

end Engine

end MessageTemplate
