import MessageTemplate.Proofs.Bindings.Resolution
import MessageTemplate.Proofs.Entries

/-! # Slots

Bindings seen as arguments, slots of names, and pinned positions, and what an addition or a pin does
to each of them. A bound name keeps its slot, where its argument is replaced; a new one takes the
slot after all arguments. What a name finds is said without a condition where it holds of any
entries; that it finds the argument in its slot needs distinct names, which additions keep
distinct. -/

namespace MessageTemplate

namespace Bindings

variable {bindings : Bindings} {name other : String} {position slot : Nat} {value : Value}

/-- An entry has a name exactly if it is its own. -/
theorem hasName_iff {entry : Binding} : hasName name entry = true ↔ entry.name = some name :=
  beq_iff_eq

/-- A name is bound exactly if it is listed. -/
theorem contains_iff_mem_names : bindings.contains name = true ↔ name ∈ bindings.names := by
  simp only [contains, names, List.any_eq_true, List.mem_filterMap, hasName_iff]

@[simp] theorem getElem?_arguments :
    bindings.arguments[position]? = bindings.entries[position]?.map Binding.value :=
  List.getElem?_map

@[simp] theorem length_arguments : bindings.arguments.length = bindings.entries.length :=
  List.length_map _

/-! ## Slots and names -/

/-- A name has the slot where an entry of that name stands. -/
theorem mem_slots_iff :
    (name, slot) ∈ bindings.slots ↔ ∃ value, bindings.entries[slot]? = some ⟨some name, value⟩ := by
  simp only [slots, List.mem_filterMap, List.mem_zipIdx_iff_getElem?, Option.map_eq_some_iff,
    Prod.mk.injEq]
  constructor
  · rintro ⟨⟨entry, position⟩, found, entryName, isNamed, rfl, rfl⟩
    exact ⟨entry.value, by rw [found, ← isNamed]⟩
  · rintro ⟨value, found⟩
    exact ⟨⟨⟨some name, value⟩, slot⟩, found, name, rfl, rfl, rfl⟩

/-- Slots are listed in the order of the names. -/
theorem map_fst_slots (bindings : Bindings) : bindings.slots.map Prod.fst = bindings.names := by
  have dropPosition : (fun entryAt : Binding × Nat =>
      (entryAt.1.name.map (·, entryAt.2)).map Prod.fst) = Binding.name ∘ Prod.fst := by
    funext entryAt
    simp [Function.comp_def]
  rw [slots, List.map_filterMap, dropPosition, ← List.filterMap_map, List.zipIdx_map_fst, names]

/-- Named values are listed in the order of the names. -/
theorem map_fst_named (bindings : Bindings) : bindings.named.map Prod.fst = bindings.names := by
  rw [named, List.map_filterMap, names]
  congr 1
  funext entry
  cases isNamed : entry.name <;> simp

/-- Named values are those of the entries that have names. -/
theorem mem_named_iff {bindings : Bindings} {name : String} {value : Value} :
    (name, value) ∈ bindings.named ↔ ⟨some name, value⟩ ∈ bindings.entries := by
  simp only [named, List.mem_filterMap, Option.map_eq_some_iff, Prod.mk.injEq]
  constructor
  · rintro ⟨entry, member, other, isNamed, rfl, rfl⟩
    rwa [← isNamed]
  · exact fun member => ⟨_, member, name, rfl, rfl, rfl⟩

/-- Slots ascend in the order of the names. -/
theorem pairwise_slots (bindings : Bindings) :
    bindings.slots.Pairwise fun earlier later => earlier.2 < later.2 := by
  have ascending : bindings.entries.zipIdx.Pairwise fun earlier later => earlier.2 < later.2 := by
    rw [← List.pairwise_map, List.zipIdx_map_snd]
    exact List.pairwise_lt_range'
  refine List.pairwise_filterMap.mpr (ascending.imp fun before one isOne two isTwo => ?_)
  obtain ⟨-, -, rfl⟩ := Option.map_eq_some_iff.mp isOne
  obtain ⟨-, -, rfl⟩ := Option.map_eq_some_iff.mp isTwo
  exact before

/-- Where names are distinct, a name finds the argument in its slot. -/
theorem get?_of_mem_slots (distinct : bindings.names.Nodup)
    (isSlot : (name, slot) ∈ bindings.slots) :
    slot < bindings.arguments.length ∧ bindings.get? name = bindings.arguments[slot]? := by
  obtain ⟨value, found⟩ := mem_slots_iff.mp isSlot
  constructor
  · rw [length_arguments]
    exact (List.getElem?_eq_some_iff.mp found).1
  · rw [getElem?_arguments, found]
    exact (get?_eq_some_iff distinct).mpr (List.mem_of_getElem? found)

/-! ## What an operation does to slots and arguments -/

/-- A new entry has the slot behind all arguments, if it has a name. -/
theorem slots_append (bindings : Bindings) (entry : Binding) :
    (bindings.append entry).slots =
      bindings.slots ++ (entry.name.map (·, bindings.arguments.length)).toList := by
  rw [slots, append, List.zipIdx_append, List.filterMap_append, length_arguments, Nat.zero_add,
    List.zipIdx_singleton]
  cases isNamed : entry.name <;> simp [slots, isNamed]

/-- A new value for a name moves no slot. -/
theorem slots_replace (bindings : Bindings) (name : String) (value : Value) :
    (bindings.replace name value).slots = bindings.slots := by
  have sameName (entry : Binding) :
      (if hasName name entry then { entry with value } else entry).name = entry.name := by
    split <;> rfl
  rw [slots, replace, List.zipIdx_map, List.filterMap_map]
  simp only [Function.comp_def, Prod.map, sameName, id]
  rfl

/-- The name of a new entry comes last. -/
theorem names_append (bindings : Bindings) (entry : Binding) :
    (bindings.append entry).names = bindings.names ++ entry.name.toList := by
  rw [← map_fst_slots, slots_append, List.map_append, map_fst_slots]
  cases entry.name <;> rfl

/-- A new value for a name changes no name. -/
theorem names_replace (bindings : Bindings) (name : String) (value : Value) :
    (bindings.replace name value).names = bindings.names := by
  rw [← map_fst_slots, slots_replace, map_fst_slots]

/-- Inserting gives the name the value, and other names keep theirs. -/
theorem get?_insert (bindings : Bindings) (name : String) (value : Value) (other : String) :
    (bindings.insert name value).get? other =
      if other = name then some value else bindings.get? other := by
  rw [insert]
  split
  case isTrue isBound =>
      have sameName (entry : Binding) :
          hasName other (if hasName name entry then { entry with value } else entry) =
            hasName other entry := by
        split <;> rfl
      simp only [get?, replace, List.find?_map, Function.comp_def, sameName, Option.map_map]
      cases found : bindings.entries.find? (hasName other) with
      | none =>
          have isOther : other ≠ name := by
            rintro rfl
            obtain ⟨entry, member, isNamed⟩ := List.any_eq_true.mp isBound
            exact List.find?_eq_none.mp found entry member isNamed
          rw [if_neg isOther]
          rfl
      | some entry =>
          have isNamed := hasName_iff.mp (List.find?_some found)
          by_cases same : other = name
          · simp [same ▸ isNamed, same, hasName]
          · simp [isNamed, same, hasName]
  case isFalse isNew =>
      have unbound : bindings.entries.find? (hasName name) = none :=
        List.find?_eq_none.mpr fun entry member isNamed =>
          isNew (List.any_eq_true.mpr ⟨entry, member, isNamed⟩)
      rw [get?, append, List.find?_append]
      by_cases same : other = name
      · subst same
        simp [unbound, hasName]
      · simp [get?, hasName, same, Ne.symm same]

/-- A name is bound where it finds a value. -/
theorem contains_eq_isSome_get? (bindings : Bindings) (name : String) :
    bindings.contains name = (bindings.get? name).isSome := by
  rw [contains, get?, Option.isSome_map, List.isSome_find?]

end Bindings

/-! ## What an addition does -/

namespace Addition

/-- The name that an addition binds. -/
def name? : Addition → Option String
  | insert name _ | insertNew name _ => some name
  | push _ => none

/-- The value that an addition brings. -/
def value : Addition → Value
  | insert _ value | insertNew _ value | push value => value

/-- The name that an addition gives a value, bound or not. -/
def replacing? : Addition → Option (String × Value)
  | insert name value => some (name, value)
  | insertNew _ _ | push _ => none

/-- The name that an addition gives a value only if it is not bound. -/
def filling? : Addition → Option (String × Value)
  | insertNew name value => some (name, value)
  | insert _ _ | push _ => none

/-- What an addition makes of an entry that stands already. -/
def revalue : Addition → Binding → Binding
  | insert name value, entry => if Bindings.hasName name entry then { entry with value } else entry
  | insertNew _ _, entry | push _, entry => entry

/-- An addition replaces the value of a bound name, leaves it, or else adds an entry. -/
theorem apply_cases (addition : Addition) (bindings : Bindings) :
    (∃ name value, addition = insert name value ∧ bindings.contains name = true ∧
      addition.apply bindings = bindings.replace name value) ∨
    (∃ name value, addition = insertNew name value ∧ bindings.contains name = true ∧
      addition.apply bindings = bindings) ∨
    ((∀ name, addition.name? = some name → bindings.contains name = false) ∧
      addition.apply bindings = bindings.append ⟨addition.name?, addition.value⟩) := by
  cases addition with
  | insert name value =>
      cases isBound : bindings.contains name with
      | true => exact .inl ⟨name, value, rfl, isBound, by simp [apply, Bindings.insert, isBound]⟩
      | false =>
          exact .inr (.inr ⟨fun _ isName => by cases isName; exact isBound,
            by simp [apply, Bindings.insert, isBound, name?, Addition.value]⟩)
  | insertNew name value =>
      cases isBound : bindings.contains name with
      | true =>
          exact .inr (.inl ⟨name, value, rfl, isBound,
            by simp [apply, Bindings.insertNew, isBound]⟩)
      | false =>
          exact .inr (.inr ⟨fun _ isName => by cases isName; exact isBound,
            by simp [apply, Bindings.insertNew, Bindings.insert, isBound, name?, Addition.value]⟩)
  | push value => exact .inr (.inr ⟨fun _ isName => (by cases isName), rfl⟩)

/-- What an addition does to the entries depends on the entries alone. -/
theorem entries_apply_congr (addition : Addition) {left right : Bindings}
    (same : left.entries = right.entries) :
    (addition.apply left).entries = (addition.apply right).entries := by
  obtain ⟨entries, leftPinned⟩ := left
  obtain ⟨others, rightPinned⟩ := right
  cases same
  have sameNames (name : String) : Bindings.contains ⟨entries, leftPinned⟩ name =
      Bindings.contains ⟨entries, rightPinned⟩ name := rfl
  cases addition with
  | insert name value =>
      rw [apply, apply, Bindings.insert, Bindings.insert, sameNames]
      split <;> rfl
  | insertNew name value =>
      rw [apply, apply, Bindings.insertNew, Bindings.insertNew, Bindings.insert, Bindings.insert,
        sameNames]
      split <;> rfl
  | push value => rfl

/-- An addition pins no position. -/
theorem pinned_apply (addition : Addition) (bindings : Bindings) :
    (addition.apply bindings).pinned = bindings.pinned := by
  rcases addition.apply_cases bindings with
    ⟨name, value, -, -, applied⟩ | ⟨name, value, -, -, applied⟩ | ⟨-, applied⟩
  · rw [applied, Bindings.replace]
  · rw [applied]
  · rw [applied, Bindings.append]

variable {bindings : Bindings} {addition : Addition} {name : String} {position : Nat}
  {entry : Binding}

/-- A name is added behind the others if it is not bound. -/
theorem names_apply (addition : Addition) (bindings : Bindings) :
    (addition.apply bindings).names =
      bindings.names ++ addition.name?.toList.removeAll bindings.names := by
  have nothingNew {name : String} (isBound : bindings.contains name = true) :
      [name].removeAll bindings.names = [] := by
    simp [List.removeAll, Bindings.contains_iff_mem_names.mp isBound]
  rcases addition.apply_cases bindings with
    ⟨name, value, rfl, isBound, applied⟩ | ⟨name, value, rfl, isBound, applied⟩ | ⟨isNew, applied⟩
  · rw [applied, Bindings.names_replace]
    simp [name?, nothingNew isBound]
  · rw [applied]
    simp [name?, nothingNew isBound]
  · rw [applied, Bindings.names_append]
    cases isName : addition.name? with
    | none => rfl
    | some name =>
        have notMember : name ∉ bindings.names := fun member =>
          Bool.false_ne_true ((isNew name isName).symm.trans
            (Bindings.contains_iff_mem_names.mpr member))
        simp [List.removeAll, notMember]

/-- An entry that stands already stays in its position, under its name. -/
theorem getElem?_entries_apply (addition : Addition)
    (stands : bindings.entries[position]? = some entry) :
    (addition.apply bindings).entries[position]? = some (addition.revalue entry) := by
  have inside : position < bindings.entries.length := (List.getElem?_eq_some_iff.mp stands).1
  have member : entry ∈ bindings.entries := List.mem_of_getElem? stands
  rcases addition.apply_cases bindings with
    ⟨name, value, rfl, -, applied⟩ | ⟨name, value, rfl, -, applied⟩ | ⟨isNew, applied⟩
  · rw [applied, Bindings.replace, List.getElem?_map, stands]
    rfl
  · rw [applied, stands]
    rfl
  · rw [applied, Bindings.append, List.getElem?_append_left inside, stands]
    cases addition with
    | insert name value =>
        have notNamed := List.any_eq_false.mp (isNew name rfl) entry member
        rw [revalue, if_neg notNamed]
    | insertNew name value => rfl
    | push value => rfl

/-- What a name finds after an addition: what it gives the name, else what the name had, else what
it fills in. -/
theorem get?_apply (addition : Addition) (bindings : Bindings) (name : String) :
    (addition.apply bindings).get? name =
      (addition.replacing?.toList.lookup name).or
        ((bindings.get? name).or (addition.filling?.toList.lookup name)) := by
  cases addition with
  | insert other value =>
      rw [apply, Bindings.get?_insert, replacing?, filling?, Option.toList_some,
        Entries.lookup_singleton]
      split <;> simp
  | insertNew other value =>
      rw [apply, Bindings.insertNew, Bindings.contains_eq_isSome_get?, replacing?, filling?,
        Option.toList_some, Entries.lookup_singleton]
      cases held : bindings.get? other with
      | some value => by_cases same : name = other <;> simp [same, held]
      | none =>
          simp only [Option.isSome_none, Bool.false_eq_true, if_false, Bindings.get?_insert]
          by_cases same : name = other <;> simp [same, held]
  | push value =>
      rw [apply, Bindings.push, Bindings.get?, Bindings.append, List.find?_append]
      simp [replacing?, filling?, Bindings.get?, Bindings.hasName]

end Addition

end MessageTemplate
