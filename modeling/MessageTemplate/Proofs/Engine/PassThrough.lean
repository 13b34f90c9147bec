import MessageTemplate.Proofs.Engine.Rendering
import MessageTemplate.Proofs.Template.Segments

/-! # Templates that refer to nothing

A template whose references are all unbound comes out as it went in, with one diagnostic for each of
its substitutions. Nothing is promised of a substitution beside one whose reference is bound. -/

namespace MessageTemplate

/-- Whether no substitution of a template refers to a value. What stands inside arguments does not
count. -/
def Bindings.ResolvesNone (bindings : Bindings) (template : Template) : Prop :=
  ∀ substitution ∈ template.substitutions, bindings.resolve? substitution.reference = none

/-- The diagnostic of a substitution whose reference is bound to nothing. -/
def Substitution.unbound (substitution : Substitution) : Diagnostic :=
  ⟨.unboundReference substitution.source, none⟩

/-- Nothing is found in empty bindings. -/
@[simp] theorem Bindings.resolve?_empty (reference : Reference) :
    Bindings.empty.resolve? reference = none := by
  cases reference <;> rfl

namespace Engine

/-- What a segment logs when its reference is bound to nothing. -/
def unboundEvents : Segment → List Event
  | .literal _ => []
  | .substitution substitution => [.problem substitution.unbound]

/-- Where nothing is found, each substitution logs that it is unbound, and literals log nothing. -/
theorem flatMap_unboundEvents (template : Template) :
    template.segments.flatMap unboundEvents =
      (template.substitutions.map Substitution.unbound).map .problem := by
  rw [Template.substitutions]
  induction template.segments with
  | nil => rfl
  | cons segment rest inductionHypothesis =>
      rw [List.flatMap_cons, inductionHypothesis]
      cases segment <;> rfl

/-- A segment that refers to nothing is copied. -/
theorem renderSegment_of_resolvesNone (registry : Registry) {site : Site} {template : Template}
    (unresolved : site.bindings.ResolvesNone template) (segment : Segment)
    (member : segment ∈ template.segments) :
    renderSegment registry site segment = ⟨segment.source, unboundEvents segment⟩ := by
  cases segment with
  | literal text => rfl
  | substitution substitution =>
      have isSubstitution : substitution ∈ template.substitutions :=
        List.mem_filterMap.mpr ⟨_, member, rfl⟩
      rw [renderSegment, substitute, unresolved substitution isSubstitution]
      rfl

/-- A template that refers to nothing comes out unchanged, whatever the engine. Its log holds the
template, its problems and one unresolved reference for each substitution, so no operator was called
and nothing else was read. Empty bindings leave every reference unresolved. -/
theorem expand_of_resolvesNone (engine : Engine) (text : String) :
    Bindings.empty.ResolvesNone (Template.read text) ∧
    ∀ bindings : Bindings, bindings.ResolvesNone (Template.read text) →
      engine.expand text bindings =
        ⟨text, engine.check text ++
          (Template.read text).substitutions.map Substitution.unbound⟩ ∧
      (engine.trace (Template.read text) bindings).events =
        .fragment 0 text :: (engine.check text ++
          (Template.read text).substitutions.map Substitution.unbound).map .problem := by
  refine ⟨fun substitution _ => Bindings.resolve?_empty _, fun bindings unresolved => ?_⟩
  have siteUnresolved :
      (engine.topSite bindings).bindings.ResolvesNone (Template.read text) := unresolved
  have rendered := renderSegment_of_resolvesNone engine.registry siteUnresolved
  have textKept : (engine.trace (Template.read text) bindings).result = text := by
    rw [trace, result_renderAt, List.map_congr_left fun segment member =>
      congrArg Logged.result (rendered segment member)]
    exact Template.textOf_read text
  have logged : (engine.trace (Template.read text) bindings).events =
      .fragment 0 text :: (engine.check text ++
        (Template.read text).substitutions.map Substitution.unbound).map .problem := by
    rw [trace, events_renderAt, List.flatMap_congr fun segment member =>
      congrArg Logged.events (rendered segment member), flatMap_unboundEvents, List.map_append]
    rfl
  refine ⟨?_, logged⟩
  rw [expand, render, Logged.diagnostics, textKept, logged]
  simp [List.filterMap_map, Function.comp_def]

/-- A bound name inside the argument of an unbound one is not looked up. -/
theorem expand_of_resolvesNone_nested :
    let bindings := Bindings.empty.insert "y" (.string "secret")
    bindings.ResolvesNone (Template.read "é\x7d{x|if:{y};b}{1bad}\x7b{y}") ∧
      standard.expand "é\x7d{x|if:{y};b}{1bad}\x7b{y}" bindings =
        ⟨"é\x7d{x|if:{y};b}{1bad}\x7b{y}",
          [⟨.strayBrace, some 2⟩, ⟨.notAReference "{1bad}", some 15⟩,
            ⟨.unclosedGroup "\x7b{y}", some 21⟩, ⟨.unboundReference "{x|if:{y};b}", none⟩]⟩ := by
  intro bindings
  have substitutions : (Template.read "é\x7d{x|if:{y};b}{1bad}\x7b{y}").substitutions =
      [⟨"{x|if:{y};b}", .name "x", [⟨"if", some "{y};b"⟩]⟩] := by decide
  have unresolved : bindings.ResolvesNone (Template.read "é\x7d{x|if:{y};b}{1bad}\x7b{y}") := by
    rw [Bindings.ResolvesNone, substitutions]
    exact List.forall_mem_singleton.mpr rfl
  have problems : standard.check "é\x7d{x|if:{y};b}{1bad}\x7b{y}" =
      [⟨.strayBrace, some 2⟩, ⟨.notAReference "{1bad}", some 15⟩,
        ⟨.unclosedGroup "\x7b{y}", some 21⟩] := by decide
  obtain ⟨expanded, -⟩ := (expand_of_resolvesNone standard _).2 bindings unresolved
  rw [expanded, problems, substitutions]
  exact ⟨unresolved, rfl⟩

end Engine

end MessageTemplate
