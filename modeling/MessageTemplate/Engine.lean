import MessageTemplate.Operator.Registry

/-! # The expansion engine

An engine expands templates: literal text is copied, substitutions are resolved and sent through
their operators, and the results are put together. A stage that refuses leaves null behind and a
diagnostic, so expansion always gives a text. Operators may expand further text, but only down to
the depth limit of the engine: the levels that remain decrease with every nested expansion, so every
expansion ends. One thing alone breaks an expansion off, and then it gives no text: a number that is
formatted with too many fraction digits. -/

namespace MessageTemplate

/-- Settings of an engine. -/
structure Engine.Options where
  /-- Whether syntax problems are logged as warnings. -/
  syntaxWarnings : Bool := false
  /-- How many expansions may be nested below a top-level one. -/
  maxDepth : Nat := 32
deriving DecidableEq, Repr

/-- A source of translated templates: a key, a table and a scope give a text. -/
abbrev Translations := String → Option String → Option String → Option String

/-- The result of an expansion and the problems met on the way. -/
structure Expansion where
  text : String
  diagnostics : List Diagnostic
deriving DecidableEq, Repr

namespace Expansion

/-- Whether nothing went wrong. -/
def isClean (expansion : Expansion) : Bool :=
  expansion.diagnostics.isEmpty

/-- Whether the program broke off in the midst of the expansion. Then there is no text and there are
no diagnostics: what the expansion holds besides is what would have come of it. -/
def isBroken (expansion : Expansion) : Bool :=
  expansion.diagnostics.any (·.problem == .refused .tooManyDigits)

/-- Whether a template that was read had a syntax problem. -/
def hasSyntaxErrors (expansion : Expansion) : Bool :=
  expansion.diagnostics.any (·.kind.isSyntax)

end Expansion

/-- Operators, a locale, translations and settings. -/
structure Engine where
  registry : Registry := Registry.standard
  locale : Locale := Locale.enUS
  translations : Option Translations := none
  options : Engine.Options := {}

namespace Engine

/-- The engine with the standard operators and the default locale. -/
def standard : Engine := {}

/-- The problem that a refusal is reported as. -/
def refusalProblem : Refusal → Problem
  | .unknownOperator name => .noSuchOperator name
  | refusal => .refused refusal

/-- Applies one operator call. A refusal is reported and leaves null. -/
def applyCall (registry : Registry) (site : Site) (value : Value) (call : OperatorCall) :
    Logged Value := do
  Logged.record (.called site.depth call.name)
  match ← (registry.apply call.name site value call.argument).run with
  | .ok result => return result
  | .error refusal => do
      Logged.report (refusalProblem refusal)
      return .null

/-- Sends a value through a pipeline. -/
def applyCalls (registry : Registry) (site : Site) : Value → List OperatorCall → Logged Value
  | value, [] => return value
  | value, call :: rest => do
      let result ← applyCall registry site value call
      applyCalls registry site result rest

/-- The text of a substitution. One that refers to nothing is copied as it is written. -/
def substitute (registry : Registry) (site : Site) (substitution : Substitution) :
    Logged String :=
  match site.bindings.resolve? substitution.reference with
  | none => do
      Logged.report (.unboundReference substitution.source)
      return substitution.source
  | some value => do
      let result ← applyCalls registry site value substitution.operators
      return result.render site.locale

/-- The text of a segment. -/
def renderSegment (registry : Registry) (site : Site) : Segment → Logged String
  | .literal text => return text
  | .substitution substitution => substitute registry site substitution

/-- The texts of segments, in order. -/
def renderSegments (registry : Registry) (site : Site) : List Segment → Logged (List String)
  | [] => return []
  | segment :: rest => do
      let text ← renderSegment registry site segment
      let texts ← renderSegments registry site rest
      return text :: texts

/-- Reports the problems of a template and gives the text of its segments. -/
def renderAt (registry : Registry) (site : Site) (template : Template) : Logged String := do
  Logged.record (.fragment site.depth template.source)
  for diagnostic in template.diagnostics do
    Logged.record (.problem diagnostic)
  let texts ← renderSegments registry site template.segments
  return String.join texts

/-- Expands nested template text where `levels` levels remain below the running expansion. -/
def expandWithin (engine : Engine) (bindings : Bindings) : (levels : Nat) → String → Step String
  | 0, fragment => do
      Step.report (.tooDeep fragment engine.options.maxDepth)
      Step.refuse (.recursionLimit engine.options.maxDepth)
  | levels + 1, fragment =>
      let site : Site :=
        { locale := engine.locale
          bindings
          depth := engine.options.maxDepth - levels
          expand := expandWithin engine bindings levels }
      liftM (renderAt engine.registry site (Template.read fragment))

/-- The site of the operators in a top-level template. -/
def topSite (engine : Engine) (bindings : Bindings) : Site where
  locale := engine.locale
  bindings
  depth := 0
  expand := expandWithin engine bindings engine.options.maxDepth

/-- Expands a template that has been read, with a log of what it did. -/
def trace (engine : Engine) (template : Template) (bindings : Bindings) : Logged String :=
  renderAt engine.registry (engine.topSite bindings) template

/-- Expands a template that has been read. -/
def render (engine : Engine) (template : Template) (bindings : Bindings) : Expansion :=
  let logged := engine.trace template bindings
  ⟨logged.result, logged.diagnostics⟩

/-- Expands a template. -/
def expand (engine : Engine) (template : String) (bindings : Bindings) : Expansion :=
  engine.render (Template.read template) bindings

/-- The syntax problems of a template, which is not expanded. -/
def check (_ : Engine) (template : String) : List Diagnostic :=
  (Template.read template).diagnostics

/-- The translation of a key, or the key where there is none. -/
def localize (engine : Engine) (key : String) (table scope : Option String) : String :=
  (engine.translations.bind fun lookup => lookup key table scope).getD key

/-- Translates a key and expands the result. -/
def expandTranslation (engine : Engine) (key : String) (table scope : Option String)
    (bindings : Bindings) : Expansion :=
  engine.expand (engine.localize key table scope) bindings

/-- Registers an operator, and tells which one it replaced. -/
def register (engine : Engine) (operator : Operator) :
    Except Failure (Engine × Option Operator) := do
  let (registry, replaced) ← engine.registry.register operator
  return ({ engine with registry }, replaced)

/-- Registers operators one after the other, all or none. -/
def registerAll (engine : Engine) (operators : List Operator) : Except Failure Engine :=
  operators.foldlM (fun held operator => do
    let (next, _) ← held.register operator
    return next) engine

/-- A description for developers. -/
def description (engine : Engine) : String :=
  "TemplateEngine \x7b operators: " ++ toString engine.registry.size ++
    ", locale: " ++ Text.quoted engine.locale.tag ++
    ", translations: " ++ toString engine.translations.isSome ++
    ", options: EngineOptions \x7b syntax_warnings: " ++
    toString engine.options.syntaxWarnings ++
    ", max_depth: " ++ toString engine.options.maxDepth ++ " \x7d \x7d"

end Engine

end MessageTemplate
