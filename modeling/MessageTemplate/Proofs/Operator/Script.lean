import Mathlib.Tactic.Choose
import MessageTemplate.Proofs.Operator.Precision

/-! # Scripts

An operator reaches the engine only by what it reports and by the texts that it has expanded, one
after the other, each chosen in view of the answers before it. A `Script` is such a course of
requests, without the engine that answers them: `Script.run` puts one in. Scripts are finite on each
course of answers, however many texts they have expanded. What the answers are is not settled
here. -/

namespace MessageTemplate

/-- A course of requests to an engine: an end, an event for the log, or a text to be expanded, with
what follows for each answer. -/
inductive Script (α : Type) where
  | done (result : α)
  | record (event : Event) (next : Script α)
  | expand (fragment : String) (next : Except Refusal String → Script α)

namespace Script

/-- Follows a script, where `expand` expands texts. -/
def run (expand : String → Step String) : Script α → Logged α
  | done result => ⟨result, []⟩
  | record event next => ⟨(next.run expand).result, event :: (next.run expand).events⟩
  | .expand fragment next =>
      let answered := (expand fragment).run
      let rest := (next answered.result).run expand
      ⟨rest.result, answered.events ++ rest.events⟩

/-- Goes on with a script that depends on the end of another. -/
def andThen (next : α → Script β) : Script α → Script β
  | done result => next result
  | record event rest => record event (rest.andThen next)
  | expand fragment rest => expand fragment fun answer => (rest answer).andThen next

/-- Whether a script itself records only events that are allowed. -/
def Records (allowed : Event → Prop) : Script α → Prop
  | done _ => True
  | record event next => allowed event ∧ next.Records allowed
  | expand _ next => ∀ answer, (next answer).Records allowed

variable {allowed wider : Event → Prop}

/-- A script that goes on with another one is run one after the other. -/
theorem run_andThen (next : α → Script β) (expand : String → Step String) (script : Script α) :
    (script.andThen next).run expand =
      script.run expand >>= fun result => (next result).run expand := by
  induction script with
  | done result => rfl
  | record event rest inductionHypothesis =>
      simp only [andThen, run, inductionHypothesis]
      rfl
  | expand fragment rest inductionHypothesis =>
      simp only [andThen, run, inductionHypothesis]
      exact Logged.ext rfl (List.append_assoc ..).symm

/-- What two scripts record is recorded by one after the other. -/
theorem Records.andThen {script : Script α} {next : α → Script β}
    (records : script.Records allowed) (nextRecords : ∀ result, (next result).Records allowed) :
    (script.andThen next).Records allowed := by
  induction script with
  | done result => exact nextRecords result
  | record event rest inductionHypothesis => exact ⟨records.1, inductionHypothesis records.2⟩
  | expand fragment rest inductionHypothesis =>
      exact fun answer => inductionHypothesis answer (records answer)

/-- What records only some events records only those of a wider sort. -/
theorem Records.mono {script : Script α} (records : script.Records allowed)
    (widens : ∀ event, allowed event → wider event) : script.Records wider := by
  induction script with
  | done result => trivial
  | record event rest inductionHypothesis =>
      exact ⟨widens event records.1, inductionHypothesis records.2⟩
  | expand fragment rest inductionHypothesis =>
      exact fun answer => inductionHypothesis answer (records answer)

/-- What a script leads to be logged is allowed if what it records and what is logged for the texts
that it has expanded are. -/
theorem Records.forall_mem_run {script : Script α} (records : script.Records allowed)
    {expand : String → Step String}
    (expands : ∀ fragment, ∀ event ∈ (expand fragment).run.events, allowed event) :
    ∀ event ∈ (script.run expand).events, allowed event := by
  induction script with
  | done result => exact List.forall_mem_nil _
  | record event rest inductionHypothesis =>
      exact List.forall_mem_cons.mpr ⟨records.1, inductionHypothesis records.2⟩
  | expand fragment rest inductionHypothesis =>
      exact List.forall_mem_append.mpr
        ⟨expands fragment, inductionHypothesis _ (records _)⟩

end Script

/-- Whether a computation follows a script that records only what is allowed, whoever expands the
texts for it. -/
def FollowsScript (allowed : Event → Prop) (body : (String → Step String) → Logged α) : Prop :=
  ∃ script : Script α, script.Records allowed ∧ ∀ expand, body expand = script.run expand

namespace FollowsScript

variable {allowed wider : Event → Prop} {body : (String → Step String) → Logged α}

/-- What follows a script that records only some events follows one that records a wider sort. -/
theorem mono (follows : FollowsScript allowed body)
    (widens : ∀ event, allowed event → wider event) : FollowsScript wider body := by
  obtain ⟨script, records, same⟩ := follows
  exact ⟨script, records.mono widens, same⟩

/-- What follows scripts one after the other follows a script. -/
theorem bind (follows : FollowsScript allowed body)
    {next : α → (String → Step String) → Logged β}
    (nextFollows : ∀ result, FollowsScript allowed (next result)) :
    FollowsScript allowed fun expand => body expand >>= fun result => next result expand := by
  obtain ⟨script, records, same⟩ := follows
  choose nextScript nextRecords nextSame using nextFollows
  refine ⟨script.andThen nextScript, records.andThen nextRecords, fun expand => ?_⟩
  simp only [Script.run_andThen, same, nextSame]

/-- What is logged without the engine follows a script if it is allowed. -/
theorem of_logged (logged : Logged α) (allows : ∀ event ∈ logged.events, allowed event) :
    FollowsScript allowed fun _ => logged := by
  obtain ⟨result, events⟩ := logged
  induction events with
  | nil => exact ⟨.done result, trivial, fun _ => rfl⟩
  | cons event rest inductionHypothesis =>
      obtain ⟨allowsFirst, allowsRest⟩ := List.forall_mem_cons.mp allows
      obtain ⟨script, records, same⟩ := inductionHypothesis allowsRest
      exact ⟨.record event script, ⟨allowsFirst, records⟩, fun expand => by
        rw [Script.run, ← same expand]⟩

/-- What expands nothing follows the script that ends at once. -/
theorem pure (result : α) : FollowsScript allowed fun _ => Pure.pure result :=
  ⟨.done result, trivial, fun _ => rfl⟩

/-- One expansion follows the script that asks for it and gives what it gets. -/
theorem expand (fragment : String) : FollowsScript allowed fun expand => (expand fragment).run :=
  ⟨.expand fragment .done, fun _ => trivial, fun _ => Logged.ext rfl (List.append_nil _).symm⟩

end FollowsScript

/-- Whether an operator may log an event itself: a problem, but not that the program breaks off. -/
def Event.IsReport (event : Event) : Prop :=
  event.isProblem = true ∧ event.isBreak = false

/-- Whether an operator reaches the engine only by the problems that it reports and by the texts
that it has expanded. What it does may depend on all that it sees, the depth included. -/
def Operator.IsScripted (operator : Operator) : Prop :=
  ∀ locale bindings depth value argument, FollowsScript Event.IsReport fun expand =>
    (operator.apply { locale, bindings, depth, expand } value argument).run

/-- To carry out a decision is to follow a script, where nothing that it reports is a break. -/
theorem Decision.followsScript {decision : Decision}
    (reports : ∀ diagnostic ∈ decision.problems, (Event.problem diagnostic).isBreak = false) :
    FollowsScript Event.IsReport fun expand => (decision.run expand).run := by
  have reported : ∀ event ∈ decision.problems.map Event.problem, event.IsReport :=
    List.forall_mem_map.mpr fun diagnostic member => ⟨rfl, reports diagnostic member⟩
  cases outcome : decision.outcome with
  | answer result =>
      simp only [run, outcome]
      exact .of_logged ⟨result, decision.problems.map .problem⟩ reported
  | expand fragment =>
      simp only [run_of_expand outcome]
      exact (FollowsScript.of_logged _ reported).bind fun _ =>
        (FollowsScript.expand fragment).bind fun result => .pure _

/-- An operator that comes down to decisions follows a script. -/
theorem Operator.IsDecided.isScripted {operator : Operator} (isDecided : operator.IsDecided) :
    operator.IsScripted := by
  intro locale bindings depth value argument
  obtain ⟨decision, isFor, decided⟩ := isDecided locale bindings value argument
  simp only [decided]
  exact Decision.followsScript fun diagnostic member =>
    (isFor.reports diagnostic member).isBreak_eq_false

/-- An operator that has the text of its value expanded. -/
def Operator.reexpand : Operator where
  name := "reexpand"
  summary := "The text of the value, expanded as a template"
  apply site value _ := do
    let text ← site.string value "reexpand"
    expandPart site text

/-- To have the value expanded is to follow a script. -/
theorem Operator.isScripted_reexpand : reexpand.IsScripted := by
  intro locale bindings depth value argument
  cases isText : value.toText? locale with
  | none =>
      simp only [reexpand, Site.string, isText]
      exact .pure (Except.error (Refusal.coercion "reexpand" .string))
  | some text =>
      simp only [reexpand, Site.string, isText, Step.require, pure_bind, expandPart_eq]
      exact Decision.followsScript (List.forall_mem_nil _)

/-- The operator that expands its own value breaks off only where that expansion does. -/
theorem Operator.isUnbroken_reexpand : reexpand.IsUnbroken := fun _ _ _ expands =>
  (Step.isUnbroken_coerce "reexpand" .string _).bind fun _ => isUnbroken_expandPart expands _

namespace Registry

/-- Whether a registry holds none but standard operators and such as follow scripts and have no way
of their own to break off. -/
def HoldsOnlyScripted (registry : Registry) : Prop :=
  ∀ name operator, (name, operator) ∈ registry.entries →
    operator ∈ standardOperators ∨ (operator.IsScripted ∧ operator.IsUnbroken)

/-- Standard operators follow scripts. -/
theorem HoldsOnlyStandard.holdsOnlyScripted {registry : Registry}
    (standardOnly : registry.HoldsOnlyStandard) : registry.HoldsOnlyScripted :=
  fun name operator member => .inl (standardOnly name operator member).2

/-- A call of such a registry follows a script. An unknown name is refused. -/
theorem HoldsOnlyScripted.followsScript {registry : Registry}
    (scripted : registry.HoldsOnlyScripted) (name : String) (locale : Locale)
    (bindings : Bindings) (depth : Nat) (value : Value) (argument : Option String) :
    FollowsScript Event.IsReport fun expand =>
      (registry.apply name { locale, bindings, depth, expand } value argument).run := by
  cases found : registry.get? name with
  | none =>
      simp only [apply, found]
      exact .pure (Except.error (Refusal.unknownOperator name))
  | some operator =>
      have isScripted : operator.IsScripted := by
        rcases scripted name operator (mem_of_get? found) with isStandard | ⟨isScripted, -⟩
        · exact (Operator.isDecided_of_mem_standardOperators operator isStandard).isScripted
        · exact isScripted
      simp only [apply, found]
      exact isScripted locale bindings depth value argument

end Registry

end MessageTemplate
