import MessageTemplate.Proofs.Bindings.Arrivals
import MessageTemplate.Proofs.Engine.Pipelines
import MessageTemplate.Proofs.Json.Members

/-! # Members of an object as variables

The keys of an object are names, and its members have positions in the order of their keys. A key
that is written like a position denotes the member in that position, which need not be its own:
`addressesMembers`. -/

namespace MessageTemplate

open MessageTemplate.Engine

namespace Engine

/-- A pipeline on a key that denotes nothing is copied. -/
theorem expand_pipeline_of_unbound {engine : Engine} {bindings : Bindings} {key : String}
    {calls : List OperatorCall} {reference : Reference}
    (keyRead : Reference.read? key.toList = some reference)
    (unbound : bindings.resolve? reference = none)
    (wellFormed : ∀ call ∈ calls, call.IsWellFormed) :
    engine.expand (pipeline key calls) bindings =
      ⟨pipeline key calls, [⟨.unboundReference (pipeline key calls), none⟩]⟩ := by
  rw [expand, render, trace, read_pipeline keyRead wellFormed, renderAt_substitution, substitute]
  have unboundHere : (engine.topSite bindings).bindings.resolve? reference = none := unbound
  simp only [unboundHere]
  rfl

end Engine

namespace Bindings

/-- What the bindings of an object promise, given its members. -/
structure AddressesMembers (members : List (String × Json)) (bindings : Bindings) : Prop where
  /-- A key that is written like a name denotes its own member. -/
  named : ∀ key identifier value, Reference.read? key.toList = some (.name identifier) →
    (key, value) ∈ members → bindings.atKey? key = some (Value.ofJson value)
  /-- A text that is written like a position denotes the member that stands there, whether it is a
  key or not. -/
  numbered : ∀ key position, Reference.read? key.toList = some (.position position) →
    bindings.atKey? key = members[position]?.map fun member => Value.ofJson member.2
  /-- A template that names a key shows what the key denotes. -/
  shown : ∀ (engine : Engine) key value, bindings.atKey? key = some value →
    engine.expand (pipeline key []) bindings = ⟨value.render engine.locale, []⟩
  /-- A template whose key denotes nothing is copied. -/
  copied : ∀ (engine : Engine) key reference, Reference.read? key.toList = some reference →
    bindings.atKey? key = none →
      engine.expand (pipeline key []) bindings =
        ⟨pipeline key [], [⟨.unboundReference (pipeline key []), none⟩]⟩

/-- The members of an object are found by names and by positions. -/
theorem addressesMembers {members : List (String × Json)}
    (isOrdered : (Json.object members).IsOrdered) :
    ∃ bindings, ofJson? (.object members) = some bindings ∧
      bindings.AddressesMembers members := by
  have distinct : (members.map Prod.fst).Nodup := (isOrdered members rfl).nodup
  have noCalls : ∀ call ∈ ([] : List OperatorCall), call.IsWellFormed := nofun
  refine ⟨_, ofJson?_object distinct, ?_, ?_, ?_, ?_⟩
  · intro key identifier value keyRead member
    have isKey : identifier = key := by
      cases Reference.read?_eq_some_iff.mp keyRead with
      | name isIdentifier => exact String.ofList_toList
    have names : (Bindings.mk (members.map fun member =>
        ⟨some member.1, Value.ofJson member.2⟩) []).names = members.map Prod.fst := by
      simp [Bindings.names, List.filterMap_map]
    rw [atKey?, keyRead, isKey]
    exact (get?_eq_some_iff (names ▸ distinct)).mpr (List.mem_map_of_mem member)
  · intro key position keyRead
    rw [atKey?, keyRead, Option.bind_some, resolve?, atPosition?, List.getElem?_map, Option.map_map]
    rfl
  · intro engine key value bound
    exact expand_pipeline bound noCalls
  · intro engine key reference keyRead unbound
    rw [atKey?, keyRead] at unbound
    exact expand_pipeline_of_unbound keyRead unbound noCalls

/-- The same key of digits denotes another member than its own, or none. -/
theorem addressesMembers_digits :
    let members : List (String × Json) := [("1", .string "x"), ("2", .string "y"), ("é", .null)]
    (Json.object members).IsOrdered ∧
      ∃ bindings, ofJson? (.object members) = some bindings ∧
        bindings.atKey? "é" = some .null ∧ bindings.atKey? "1" = some (.string "y") ∧
        bindings.atKey? "@0" = some (.string "x") ∧ bindings.atKey? "3" = none ∧
        Engine.standard.expand "{1}" bindings = ⟨"y", []⟩ ∧
        Engine.standard.expand "{3}" bindings = ⟨"{3}", [⟨.unboundReference "{3}", none⟩]⟩ := by
  intro members
  have isOrdered : (Json.object members).IsOrdered := by
    rintro _ ⟨rfl⟩
    exact Json.ascend_iff.mpr (by decide)
  obtain ⟨bindings, isBound, addressed⟩ := addressesMembers isOrdered
  have first := addressed.numbered "1" 1 (by decide)
  have beyond := addressed.numbered "3" 3 (by decide)
  have shown := addressed.shown Engine.standard "1" _ first
  have copied := addressed.copied Engine.standard "3" (.position 3) (by decide) beyond
  have onFirst : pipeline "1" [] = "{1}" := by decide
  have onBeyond : pipeline "3" [] = "{3}" := by decide
  rw [onFirst] at shown
  rw [onBeyond] at copied
  exact ⟨isOrdered, bindings, isBound, addressed.named "é" "é" .null (by decide) (by simp [members]),
    first, addressed.numbered "@0" 0 (by decide), beyond, shown, copied⟩

/-- An object whose keys are positions that its members do not stand in. -/
theorem not_atKey?_of_member :
    ¬∀ members : List (String × Json), (Json.object members).IsOrdered →
      (members.map fun member => Reference.read? member.1.toList).Nodup →
        ∀ key value, (key, value) ∈ members → (Reference.read? key.toList).isSome = true →
          (ofJson? (.object members)).bind (fun bindings => bindings.atKey? key) =
            some (Value.ofJson value) := by
  intro claimed
  have isOrdered : (Json.object [("1", .string "x"), ("2", .string "y")]).IsOrdered := by
    rintro _ ⟨rfl⟩
    exact Json.ascend_iff.mpr (by decide)
  have found := claimed [("1", .string "x"), ("2", .string "y")] isOrdered (by decide) "1"
    (.string "x") List.mem_cons_self (by decide)
  have swapped : (ofJson? (.object [("1", .string "x"), ("2", .string "y")])).bind
      (fun bindings => bindings.atKey? "1") = some (.string "y") := rfl
  have same : "y" = "x" := Value.string.inj (Option.some.inj (swapped.symm.trans found))
  exact absurd same (by decide)

end Bindings

end MessageTemplate
