import MessageTemplate.Bindings
import MessageTemplate.Template.Basic

/-! # Operators

An operator turns one value into another in a pipeline. While it runs it can see the bindings and
the locale, report problems, and expand further template text one level deeper; it can do nothing
else to the expansion it is part of. What an expansion does is kept in a log, in order. -/

namespace MessageTemplate

open MessageTemplate.Text

/-- What an expansion does, as far as others may want to know. -/
inductive Event where
  /-- Template text was read at a depth, to be expanded. -/
  | fragment (depth : Nat) (text : String)
  /-- An operator was called at a depth. -/
  | called (depth : Nat) (operator : String)
  /-- A problem was met. -/
  | problem (diagnostic : Diagnostic)
deriving DecidableEq, Repr

/-- A result and the events on the way to it. -/
structure Logged (α : Type) where
  result : α
  events : List Event

namespace Logged

instance : Monad Logged where
  pure result := ⟨result, []⟩
  bind first next :=
    let second := next first.result
    ⟨second.result, first.events ++ second.events⟩

/-- Adds an event to the log. -/
def record (event : Event) : Logged Unit :=
  ⟨(), [event]⟩

/-- Adds a problem without a place to the log. -/
def report (problem : Problem) : Logged Unit :=
  record (.problem ⟨problem, none⟩)

/-- The problems in the log, in order. -/
def diagnostics (logged : Logged α) : List Diagnostic :=
  logged.events.filterMap fun
    | .problem diagnostic => some diagnostic
    | _ => none

@[simp] theorem result_pure (result : α) : (pure result : Logged α).result = result := rfl

@[simp] theorem events_pure (result : α) : (pure result : Logged α).events = [] := rfl

@[simp] theorem result_bind (first : Logged α) (next : α → Logged β) :
    (first >>= next).result = (next first.result).result := rfl

@[simp] theorem events_bind (first : Logged α) (next : α → Logged β) :
    (first >>= next).events = first.events ++ (next first.result).events := rfl

instance : LawfulMonad Logged :=
  LawfulMonad.mk' Logged
    (fun logged => by simp [Functor.map])
    (fun _ _ => by simp [bind, pure])
    (fun _ _ _ => by simp [bind, List.append_assoc])

end Logged

/-- A step of a pipeline: a logged result or refusal. -/
abbrev Step (α : Type) := ExceptT Refusal Logged α

namespace Step

/-- Gives no value. -/
def refuse (refusal : Refusal) : Step α :=
  throw refusal

/-- Adds a problem without a place to the log. -/
def report (problem : Problem) : Step Unit :=
  Logged.report problem

/-- Adds a remark to the log. -/
def remark (text : String) : Step Unit :=
  report (.remark text)

/-- The value of an option, or a refusal. -/
def require (refusal : Refusal) : Option α → Step α
  | some value => pure value
  | none => refuse refusal

end Step

/-- What an operator can reach while it runs. -/
structure Site where
  locale : Locale
  bindings : Bindings
  /-- How many expansions the running one is nested in. -/
  depth : Nat
  /-- Expands template text with the same bindings, one level deeper. -/
  expand : String → Step String

namespace Site

/-- The text of a value, asked for by an operator. -/
def string (site : Site) (value : Value) (operator : String) : Step String :=
  Step.require (.coercion operator .string) (value.toText? site.locale)

/-- The number of a value, asked for by an operator. -/
def number (_ : Site) (value : Value) (operator : String) : Step Number :=
  Step.require (.coercion operator .number) value.toNumber?

/-- The truth of a value, asked for by an operator. -/
def boolean (_ : Site) (value : Value) (operator : String) : Step Bool :=
  Step.require (.coercion operator .boolean) value.toBoolean?

/-- Cuts an argument at its top-level semicolons and reports the closing braces that close
nothing. -/
def splitArgument (_ : Site) (argument : String) : Step (List String) := do
  let split := splitBalanced argumentSeparator argument.toList
  for offset in split.unbalanced do
    Logged.record (.problem ⟨.strayBraceInArgument argument, some offset⟩)
  return split.parts.map String.ofList

end Site

/-- A named transformation of values. -/
structure Operator where
  name : String
  /-- One line on what the operator does. -/
  summary : String
  apply : Site → Value → (argument : Option String) → Step Value

end MessageTemplate
