import MessageTemplate.Proofs.Operator.Choosing
import MessageTemplate.Proofs.Template.Nesting

/-! # Registering operators

A registry offered one operator after the other takes those whose names are identifiers and refuses
the rest. `Registry.keepsNames` says what it promises after any history, whether it started empty or
with the standard operators: the name that an operator stands under is its own, and templates can
call exactly the names that it would take. Nothing is said about what the operators do. -/

namespace MessageTemplate

open MessageTemplate.Text

namespace Template

/-- The template that calls an operator without an argument. -/
def ofCall (name : String) : String :=
  "\x7bx|" ++ name ++ "\x7d"

/-- An operator whose name is an identifier can be called. -/
theorem read_ofCall {name : String} (identifier : Reference.isIdentifier name.toList = true) :
    read (ofCall name) =
      ⟨ofCall name, [.substitution ⟨ofCall name, .name "x", [⟨name, none⟩]⟩], []⟩ := by
  have isWritten : Substitution.IsWrittenWith ⟨ofCall name, .name "x", [⟨name, none⟩]⟩ ['x'] :=
    { source := by simp [ofCall, Substitution.written, OperatorCall.write, operatorSeparator]
      reference := .name (by decide)
      operators := List.forall_mem_singleton.mpr ⟨identifier, by simp⟩ }
  exact read_source isWritten

end Template

namespace Registry

variable {registry : Registry} {operator : Operator} {name : String}

/-- The registry after an operator is registered. One that is refused changes nothing. -/
def offer (registry : Registry) (operator : Operator) : Registry :=
  match registry.register operator with
  | .ok (next, _) => next
  | .error _ => registry

/-- The registry after operators are registered one after the other. -/
def offerAll (start : Registry) (history : List Operator) : Registry :=
  history.foldl offer start

/-- An operator under an identifier is registered, and the one that it replaces is handed back. -/
theorem register_of_identifier (registry : Registry)
    (identifier : Reference.isIdentifier operator.name.toList = true) :
    registry.register operator = .ok (registry.insert operator, registry.get? operator.name) :=
  if_pos identifier

/-- An operator under any other name is refused by that name. -/
theorem register_of_not_identifier (registry : Registry)
    (noIdentifier : Reference.isIdentifier operator.name.toList = false) :
    registry.register operator = .error (.invalidOperatorName operator.name) :=
  if_neg (Bool.eq_false_iff.mp noIdentifier)

/-- A registration succeeds exactly under an identifier. -/
theorem isOk_register_iff :
    (registry.register operator).isOk = true ↔
      Reference.isIdentifier operator.name.toList = true := by
  cases identifier : Reference.isIdentifier operator.name.toList with
  | false => simp [register_of_not_identifier registry identifier, Except.isOk, Except.toBool]
  | true => simp [register_of_identifier registry identifier, Except.isOk, Except.toBool]

/-! ## What an insertion does -/

/-- A name finds the operator inserted under it, and other names what they found before. -/
theorem get?_insert (registry : Registry) (operator : Operator) (name : String) :
    (registry.insert operator).get? name =
      if name = operator.name then some operator else registry.get? name :=
  Entries.lookup_put operator.name name operator registry.entries

/-- Only an operator that replaces none adds to the size. -/
theorem size_insert (registry : Registry) (operator : Operator) :
    (registry.insert operator).size =
      registry.size + if (registry.get? operator.name).isSome then 0 else 1 := by
  have sizes (held : Registry) : held.size = (held.entries.map Prod.fst).length :=
    (List.length_map _).symm
  rw [sizes, sizes, insert, Entries.keys_put, get?]
  by_cases isHeld : operator.name ∈ registry.entries.map Prod.fst
  · rw [if_pos isHeld, if_pos (Entries.isSome_lookup_iff.mpr isHeld), Nat.add_zero]
  · rw [if_neg isHeld, if_neg (mt Entries.isSome_lookup_iff.mp isHeld), List.length_append]
    rfl

/-! ## Names after any history -/

/-- Whether each operator stands under its own name, no two under one, and every name can be
called. -/
structure IsNamed (registry : Registry) : Prop where
  distinct : (registry.entries.map Prod.fst).Nodup
  own : ∀ name operator, (name, operator) ∈ registry.entries → name = operator.name
  identifiers : ∀ name operator, (name, operator) ∈ registry.entries →
    Reference.isIdentifier name.toList = true

/-- Without operators there is no name to be wrong. -/
theorem isNamed_empty : empty.IsNamed :=
  ⟨.nil, nofun, nofun⟩

/-- The standard operators are not asked whether their names are identifiers, but they are. -/
theorem isNamed_standard : standard.IsNamed where
  distinct := nodup_names_standard
  own name operator member := (standard_holdsOnlyStandard name operator member).1
  identifiers name operator member := by
    obtain ⟨rfl, isStandard⟩ := standard_holdsOnlyStandard name operator member
    exact isIdentifier_name operator isStandard

/-- An insertion keeps names in order. An operator that replaces another takes its key. -/
theorem IsNamed.insert (isNamed : registry.IsNamed)
    (identifier : Reference.isIdentifier operator.name.toList = true) :
    (registry.insert operator).IsNamed where
  distinct := Entries.nodup_keys_put isNamed.distinct
  own name other member := by
    rcases mem_insert member with ⟨rfl, rfl⟩ | before
    · rfl
    · exact isNamed.own name other before
  identifiers name other member := by
    rcases mem_insert member with ⟨rfl, rfl⟩ | before
    · exact identifier
    · exact isNamed.identifiers name other before

/-- An operator that is offered leaves all names right, whether it is taken or not. -/
theorem IsNamed.offer (isNamed : registry.IsNamed) (operator : Operator) :
    (registry.offer operator).IsNamed := by
  rw [Registry.offer]
  cases identifier : Reference.isIdentifier operator.name.toList with
  | false => rwa [register_of_not_identifier registry identifier]
  | true =>
      rw [register_of_identifier registry identifier]
      exact isNamed.insert identifier

/-- All names are right after any history of offers. -/
theorem IsNamed.offerAll (isNamed : registry.IsNamed) (history : List Operator) :
    (registry.offerAll history).IsNamed := by
  induction history generalizing registry with
  | nil => exact isNamed
  | cons operator rest inductionHypothesis => exact inductionHypothesis (isNamed.offer operator)

/-- What a registry promises about the names of operators. -/
structure KeepsNames (registry : Registry) : Prop where
  /-- No name is registered twice. -/
  distinct : (registry.entries.map Prod.fst).Nodup
  /-- The name that an operator is registered under is its own, is an identifier, and finds it. -/
  own : ∀ name operator, (name, operator) ∈ registry.entries →
    name = operator.name ∧ Reference.isIdentifier name.toList = true ∧
      registry.get? name = some operator
  /-- What is found under a name is registered under it and has this name. -/
  found : ∀ name operator, registry.get? name = some operator →
    (name, operator) ∈ registry.entries ∧ operator.name = name
  /-- Another name is refused, and the registry stays as it is. -/
  refuses : ∀ operator : Operator, Reference.isIdentifier operator.name.toList = false →
    registry.register operator = .error (.invalidOperatorName operator.name) ∧
      registry.offer operator = registry
  /-- An identifier is taken: the operator is found under it in the place of the one before, which
  is handed back, and nothing else changes. -/
  takes : ∀ operator : Operator, Reference.isIdentifier operator.name.toList = true →
    registry.register operator =
        .ok (registry.offer operator, registry.get? operator.name) ∧
      (registry.offer operator).get? operator.name = some operator ∧
      (∀ name, name ≠ operator.name →
        (registry.offer operator).get? name = registry.get? name) ∧
      (registry.offer operator).size =
        registry.size + if (registry.get? operator.name).isSome then 0 else 1
  /-- What would be taken is what templates can call. -/
  agrees : ∀ operator : Operator, (registry.register operator).isOk = true ↔
    ∃ substitution,
      (Template.read ("\x7bx|" ++ operator.name ++ "\x7d")).segments =
        [.substitution substitution] ∧
      substitution.reference = .name "x" ∧ substitution.operators = [⟨operator.name, none⟩]
  /-- Each operator is run by a call that is read without a problem. -/
  callable : ∀ name operator, (name, operator) ∈ registry.entries →
    (Template.read ("\x7bx|" ++ name ++ "\x7d")).diagnostics = [] ∧
      ∀ site value argument,
        registry.apply name site value argument = operator.apply site value argument
  /-- Wherever a template calls an operator, one of this name would be taken. -/
  noOther : ∀ text, ∀ substitution ∈ (Template.read text).substitutions,
    ∀ call ∈ substitution.operators, ∀ operator : Operator, operator.name = call.name →
      (registry.register operator).isOk = true

/-- Under an identifier an offer is taken. -/
theorem offer_of_identifier (registry : Registry)
    (identifier : Reference.isIdentifier operator.name.toList = true) :
    registry.offer operator = registry.insert operator := by
  rw [offer, register_of_identifier registry identifier]

/-- A name is an identifier exactly where a template calls it. -/
theorem isIdentifier_iff_read_ofCall :
    Reference.isIdentifier name.toList = true ↔
      ∃ substitution, (Template.read (Template.ofCall name)).segments =
          [.substitution substitution] ∧
        substitution.reference = .name "x" ∧ substitution.operators = [⟨name, none⟩] := by
  constructor
  · intro identifier
    exact ⟨_, congrArg Template.segments (Template.read_ofCall identifier), rfl, rfl⟩
  · rintro ⟨substitution, segments, -, operators⟩
    have member : substitution ∈ (Template.read (Template.ofCall name)).substitutions := by
      rw [Template.mem_substitutions, segments]
      exact List.mem_singleton_self _
    exact (Template.isWellFormed_of_mem_read member ⟨name, none⟩ (by simp [operators])).name

/-- Where names are distinct, an operator is found under its own. -/
theorem IsNamed.get?_eq (isNamed : registry.IsNamed)
    (member : (name, operator) ∈ registry.entries) : registry.get? name = some operator :=
  (Entries.lookup_eq_some_iff_mem isNamed.distinct).mpr member

/-- A registry in which each operator stands under its own name keeps all promises. -/
theorem IsNamed.promises (isNamed : registry.IsNamed) : KeepsNames registry where
  distinct := isNamed.distinct
  own name operator member :=
    ⟨isNamed.own name operator member, isNamed.identifiers name operator member,
      isNamed.get?_eq member⟩
  found name operator isFound :=
    have member := mem_of_get? isFound
    ⟨member, (isNamed.own name operator member).symm⟩
  refuses operator noIdentifier := by
    rw [Registry.offer, register_of_not_identifier registry noIdentifier]
    exact ⟨rfl, rfl⟩
  takes operator identifier := by
    rw [offer_of_identifier registry identifier]
    refine ⟨register_of_identifier registry identifier, ?_, fun name apart => ?_,
      size_insert registry operator⟩
    · rw [get?_insert, if_pos rfl]
    · rw [get?_insert, if_neg apart]
  agrees operator := isOk_register_iff.trans isIdentifier_iff_read_ofCall
  callable name operator member := by
    refine ⟨congrArg Template.diagnostics
      (Template.read_ofCall (isNamed.identifiers name operator member)),
      fun site value argument => ?_⟩
    rw [apply, isNamed.get?_eq member]
  noOther text substitution member call callMember operator sameName := by
    rw [isOk_register_iff, sameName]
    exact (Template.isWellFormed_of_mem_read member call callMember).name

/-- A registry keeps its promises after any history of registrations. -/
theorem keepsNames (history : List Operator) :
    KeepsNames (empty.offerAll history) ∧ KeepsNames (standard.offerAll history) :=
  ⟨(isNamed_empty.offerAll history).promises, (isNamed_standard.offerAll history).promises⟩

end Registry

end MessageTemplate
