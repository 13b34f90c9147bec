import Mathlib.Logic.Relation
import MessageTemplate.Proofs.Engine.Nesting

/-! # What checking a template promises

Checking reads a template and not the texts nested in it. All brace problems of an expansion are
found by it, for nested text is balanced: `Engine.braceProblems_expand`. A bad reference or operator
name inside an argument is not, until the argument is expanded: `Engine.check_misses_nested`. What
an expansion finds is what checking each text that it reads would find, so
`Engine.hasSyntaxErrors_expand` asks for the nested texts to be checked as well. -/

namespace MessageTemplate

open MessageTemplate.Text

/-- Whether a text is nested in a template, or in a text that is nested in it, and so on. -/
def Template.Encloses : String → String → Prop :=
  Relation.TransGen fun text fragment => (Template.read text).Nests fragment

namespace Template

variable {text fragment : String}

/-- Texts that hold all that is nested in a template, and in each other, hold all that the template
encloses. -/
theorem Encloses.mem_of_closed {texts : List String}
    (closed : ∀ inner ∈ text :: texts, ∀ nested ∈ (read inner).nestedTexts, nested ∈ texts)
    (encloses : Encloses text fragment) : fragment ∈ texts := by
  induction encloses with
  | single nests => exact closed _ List.mem_cons_self _ (nests_iff_mem_nestedTexts.mp nests)
  | tail _ nests inductionHypothesis =>
      exact closed _ (List.mem_cons_of_mem _ inductionHypothesis) _
        (nests_iff_mem_nestedTexts.mp nests)

end Template

namespace Engine

variable {engine : Engine} {text : String} {bindings : Bindings}

/-! ## Brace problems -/

/-- Nested text is balanced, so no brace in it is without its partner. -/
def balancedInvariant (engine : Engine) : NestingInvariant engine fun events =>
    ∀ event ∈ events, event.isProblemOf DiagnosticKind.isBrace = false where
  Holds _ fragment := IsBalanced fragment.toList
  logProperty := .avoids fun _ => DiagnosticKind.isBrace_of_isStage
  limit _ _ := List.forall_mem_singleton.mpr rfl
  reads balanced _ := List.forall_mem_cons.mpr ⟨rfl, List.forall_mem_map.mpr fun _ member =>
    Template.isBrace_of_mem_read balanced member⟩
  nests _ nests := nests.isBalanced

/-- The brace problems of an expansion are those of its template, in order, whatever the engine's
locale and settings. Nothing that is logged after the problems of the template is a brace problem,
at any depth. -/
theorem braceProblems_expand (engine : Engine) (standardOnly : engine.registry.HoldsOnlyStandard)
    (text : String) (bindings : Bindings) :
    (engine.expand text bindings).diagnostics.filter (·.kind.isBrace) =
        (engine.check text).filter (·.kind.isBrace) ∧
      ∃ later, (engine.trace (Template.read text) bindings).events =
          .fragment 0 text :: ((engine.check text).map .problem ++ later) ∧
        ∀ event ∈ later, event.isProblemOf DiagnosticKind.isBrace = false := by
  obtain ⟨later, logged, noBrace⟩ := engine.balancedInvariant.exists_events_trace standardOnly
    (fun fragment nests => nests.isBalanced) bindings
  refine ⟨?_, later, logged, noBrace⟩
  have laterClean : (Logged.mk () later).diagnostics.filter (·.kind.isBrace) = [] := by
    refine List.filter_eq_nil_iff.mpr fun diagnostic member => Bool.eq_false_iff.mp ?_
    exact noBrace (.problem diagnostic) (Logged.mem_diagnostics.mp member)
  rw [diagnostics_expand logged, List.filter_append, laterClean, List.append_nil]

/-- A stray brace and an unclosed one around nested plural forms, a part of which is no
substitution. -/
theorem braceProblems_expand_nested :
    let bindings := (Bindings.empty.insert "n" (.string "2")).insert "ok" (.bool true)
    let text := "é\x7d{ok|if:{n|plural:{n};{ n}s};none}\x7b{n}"
    standard.registry.HoldsOnlyStandard ∧
      (standard.expand text bindings).diagnostics.map Diagnostic.kind =
        [.unbalancedBrace, .unterminatedSubstitution, .invalidReference] ∧
      (standard.expand text bindings).diagnostics.filter (·.kind.isBrace) =
        [⟨.strayBrace, some 2⟩, ⟨.unclosedGroup "\x7b{n}", some 36⟩] := by
  intro bindings text
  have standardOnly : standard.registry.HoldsOnlyStandard := Registry.standard_holdsOnlyStandard
  obtain ⟨found, -⟩ := braceProblems_expand standard standardOnly text bindings
  refine ⟨standardOnly, by decide, ?_⟩
  rw [found]
  decide

/-! ## All syntax problems -/

/-- What nested texts hold may have a syntax problem where the template around them has none. -/
theorem check_misses_nested :
    standard.registry.HoldsOnlyStandard ∧ standard.options.maxDepth = 32 ∧
      standard.check "{x|if:{ bad}}" = [] ∧
      (standard.expand "{x|if:{ bad}}"
        (Bindings.empty.insert "x" (.bool true))).hasSyntaxErrors = true :=
  ⟨Registry.standard_holdsOnlyStandard, by decide, by decide, by decide⟩

/-- What checking finds in the text that an event has read. -/
def foundIn (engine : Engine) : Event → List Diagnostic
  | .fragment _ text => engine.check text
  | _ => []

/-- Of what reading a template logs, only the reading itself counts as one. -/
theorem flatMap_foundIn_read (engine : Engine) (depth : Nat) (text : String) :
    (.fragment depth text :: (engine.check text).map .problem).flatMap engine.foundIn =
      engine.check text := by
  have nothingMore : ((engine.check text).map .problem).flatMap engine.foundIn = [] := by
    rw [List.flatMap_map]
    exact List.flatMap_eq_nil_iff.mpr fun _ _ => rfl
  rw [List.flatMap_cons, nothingMore, List.append_nil, foundIn]

/-- All problems of a template are about its syntax. -/
theorem filter_isSyntax_check (engine : Engine) (text : String) :
    (engine.check text).filter (·.kind.isSyntax) = engine.check text :=
  List.filter_eq_self.mpr fun _ member => Template.isSyntax_of_mem_read member

/-- What is logged when a text is read are the problems that checking it finds. -/
theorem filter_isSyntax_read (engine : Engine) (depth : Nat) (text : String) :
    (Logged.mk () (.fragment depth text :: (engine.check text).map .problem)).diagnostics.filter
      (·.kind.isSyntax) = engine.check text := by
  rw [Logged.diagnostics_fragment, Logged.diagnostics_problems, filter_isSyntax_check]

/-- The syntax problems that are reported are those of the texts that are read, in order. -/
def foundInvariant (engine : Engine) : NestingInvariant engine fun events =>
    (Logged.mk () events).diagnostics.filter (·.kind.isSyntax) =
      events.flatMap engine.foundIn where
  Holds _ _ := True
  logProperty :=
    { stages := fun {events} isStage => by
        have nothingFound : events.flatMap engine.foundIn = [] := by
          refine List.flatMap_eq_nil_iff.mpr fun event member => ?_
          cases event with
          | fragment depth text => cases isStage _ member
          | called depth operator => rfl
          | problem diagnostic => rfl
        rw [nothingFound]
        refine List.filter_eq_nil_iff.mpr fun diagnostic member => Bool.eq_false_iff.mp ?_
        exact DiagnosticKind.isSyntax_of_isStage (isStage _ (Logged.mem_diagnostics.mp member))
      append := fun first second => by
        rw [Logged.diagnostics_append, List.filter_append, List.flatMap_append, first, second] }
  limit _ _ := rfl
  reads _ depth := by
    rw [filter_isSyntax_read, flatMap_foundIn_read]
  nests _ _ := trivial

/-- Whether what an event has read is enclosed in a template. -/
def ReadsWithin (text : String) : Event → Prop
  | .fragment _ fragment => Template.Encloses text fragment
  | _ => True

/-- What an expansion reads besides its template is enclosed in the template. -/
def enclosedInvariant (engine : Engine) (text : String) : NestingInvariant engine fun events =>
    ∀ event ∈ events, ReadsWithin text event where
  Holds _ fragment := Template.Encloses text fragment
  logProperty := .forall_mem fun event isStage => by
    cases event with
    | fragment depth fragment => cases isStage
    | called depth operator => trivial
    | problem diagnostic => trivial
  limit _ _ := List.forall_mem_singleton.mpr trivial
  reads encloses _ :=
    List.forall_mem_cons.mpr ⟨encloses, List.forall_mem_map.mpr fun _ _ => trivial⟩
  nests encloses nests := encloses.tail nests

/-- The syntax problems of an expansion are what checking finds in the texts that it reads. -/
theorem filter_isSyntax_expand (standardOnly : engine.registry.HoldsOnlyStandard) (text : String)
    (bindings : Bindings) :
    (engine.expand text bindings).diagnostics.filter (·.kind.isSyntax) =
      (engine.trace (Template.read text) bindings).events.flatMap engine.foundIn := by
  have nothingAsked : ∀ fragment, (Template.read text).Nests fragment →
      engine.foundInvariant.Holds engine.options.maxDepth fragment := fun _ _ => trivial
  obtain ⟨later, logged, found⟩ := engine.foundInvariant.exists_events_trace standardOnly
    nothingAsked bindings
  calc (engine.expand text bindings).diagnostics.filter (·.kind.isSyntax)
      = engine.check text ++ (Logged.mk () later).diagnostics.filter (·.kind.isSyntax) := by
        rw [diagnostics_expand logged, List.filter_append, filter_isSyntax_check]
    _ = engine.check text ++ later.flatMap engine.foundIn := by rw [found]
    _ = (engine.trace (Template.read text) bindings).events.flatMap engine.foundIn := by
        rw [logged, ← List.cons_append, List.flatMap_append, flatMap_foundIn_read]

/-- Whether an expansion reads a text, at whatever depth. -/
def Reads (engine : Engine) (text : String) (bindings : Bindings) (fragment : String) : Prop :=
  ∃ depth, .fragment depth fragment ∈ (engine.trace (Template.read text) bindings).events

/-- What an expansion reads is its text or enclosed by it. -/
theorem eq_or_encloses_of_reads (standardOnly : engine.registry.HoldsOnlyStandard)
    {fragment : String} (reads : engine.Reads text bindings fragment) :
    fragment = text ∨ Template.Encloses text fragment := by
  obtain ⟨depth, member⟩ := reads
  have nested : ∀ inner, (Template.read text).Nests inner → Template.Encloses text inner :=
    fun _ nests => .single nests
  obtain ⟨later, logged, within⟩ := (engine.enclosedInvariant text).exists_events_trace
    standardOnly nested bindings
  rw [logged, List.mem_cons, List.mem_append] at member
  rcases member with isTemplate | isProblem | isLater
  · exact .inl (Event.fragment.inj isTemplate).2
  · obtain ⟨diagnostic, -, notRead⟩ := List.mem_map.mp isProblem
    cases notRead
  · exact .inr (within _ isLater)

/-- An expansion has no syntax errors if and only if there are none in what it reads. -/
theorem hasSyntaxErrors_eq_false_iff (standardOnly : engine.registry.HoldsOnlyStandard) :
    (engine.expand text bindings).hasSyntaxErrors = false ↔
      ∀ fragment, engine.Reads text bindings fragment → engine.check fragment = [] := by
  have reported : (engine.expand text bindings).hasSyntaxErrors = false ↔
      (engine.expand text bindings).diagnostics.filter (·.kind.isSyntax) = [] := by
    rw [Expansion.hasSyntaxErrors, List.any_eq_false, List.filter_eq_nil_iff]
  rw [reported, filter_isSyntax_expand standardOnly, List.flatMap_eq_nil_iff]
  constructor
  · rintro nothingFound fragment ⟨depth, member⟩
    exact nothingFound _ member
  · intro allChecked event member
    cases event with
    | fragment depth fragment => exact allChecked fragment ⟨depth, member⟩
    | called depth operator => rfl
    | problem diagnostic => rfl

/-- If a template is well-formed, its expansion reads texts enclosed in the template besides, and
has syntax errors if and only if one of these has. So there are none, whatever the variables, if
all enclosed texts are well-formed. -/
theorem hasSyntaxErrors_expand (engine : Engine) (standardOnly : engine.registry.HoldsOnlyStandard)
    (text : String) (checked : engine.check text = []) (bindings : Bindings) :
    (∀ fragment, engine.Reads text bindings fragment →
        fragment = text ∨ Template.Encloses text fragment) ∧
      ((engine.expand text bindings).hasSyntaxErrors = false ↔
        ∀ fragment, engine.Reads text bindings fragment → engine.check fragment = []) ∧
      ((∀ fragment, Template.Encloses text fragment → engine.check fragment = []) →
        (engine.expand text bindings).hasSyntaxErrors = false) := by
  have enclosed : ∀ fragment, engine.Reads text bindings fragment →
      fragment = text ∨ Template.Encloses text fragment :=
    fun _ => eq_or_encloses_of_reads standardOnly
  refine ⟨enclosed, hasSyntaxErrors_eq_false_iff standardOnly, fun enclosedChecked => ?_⟩
  refine (hasSyntaxErrors_eq_false_iff standardOnly).mpr fun fragment reads => ?_
  rcases enclosed fragment reads with rfl | encloses
  · exact checked
  · exact enclosedChecked fragment encloses

/-- Plural forms in a choice, all of which are well-formed. -/
theorem hasSyntaxErrors_expand_nested :
    let bindings := (Bindings.empty.insert "n" (.string "2")).insert "ok" (.bool true)
    let text := "{ok|if:{n|plural:{n} mouse;{n} mice};none}"
    standard.registry.HoldsOnlyStandard ∧ standard.check text = [] ∧
      (∀ fragment, Template.Encloses text fragment → standard.check fragment = []) ∧
      (standard.expand text bindings).text = "2 mice" ∧
      (standard.expand text bindings).hasSyntaxErrors = false := by
  intro bindings text
  have standardOnly : standard.registry.HoldsOnlyStandard := Registry.standard_holdsOnlyStandard
  have checked : standard.check text = [] := by decide
  let texts := ["", "{n|plural:{n} mouse;{n} mice}", "none", "{n} mouse", "{n} mice"]
  have closed : ∀ inner ∈ text :: texts, ∀ nested ∈ (Template.read inner).nestedTexts,
      nested ∈ texts := by decide
  have allChecked : ∀ fragment ∈ texts, standard.check fragment = [] := by decide
  have enclosedChecked : ∀ fragment, Template.Encloses text fragment →
      standard.check fragment = [] := fun fragment encloses =>
    allChecked fragment (encloses.mem_of_closed closed)
  obtain ⟨-, -, noErrors⟩ := hasSyntaxErrors_expand standard standardOnly text checked bindings
  exact ⟨standardOnly, checked, enclosedChecked, by decide, noErrors enclosedChecked⟩

end Engine

end MessageTemplate
