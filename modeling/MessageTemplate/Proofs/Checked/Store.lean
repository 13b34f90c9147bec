import MessageTemplate.Proofs.Bindings.History

/-! # Bindings in a store with slots

Values in a row, the names with their slots in the row, and the pinned positions. A name is
looked up by its slot, which is checked to be one of the row. `Store.after?_eq` says that the
check never fails in a history, and that the store holds what the bindings of that history hold. -/

namespace MessageTemplate.Checked

/-- Values by slots. -/
structure Store where
  arguments : List Value := []
  names : List (String × Nat) := []
  pinned : List (Nat × Value) := []

namespace Store

/-- Binds a name. The value of a bound name is replaced in its slot. -/
def insert? (store : Store) (name : String) (value : Value) : Option Store :=
  match store.names.lookup name with
  | some slot =>
      if slot < store.arguments.length then
        some { store with arguments := store.arguments.set slot value }
      else none
  | none =>
      some { store with
        arguments := store.arguments ++ [value]
        names := store.names ++ [(name, store.arguments.length)] }

/-- Binds a name only if it is not bound. -/
def insertNew? (store : Store) (name : String) (value : Value) : Option Store :=
  if (store.names.lookup name).isSome then some store else store.insert? name value

/-- Adds a value without a name. -/
def push (store : Store) (value : Value) : Store :=
  { store with arguments := store.arguments ++ [value] }

/-- Pins a position to a value. -/
def pin (store : Store) (position : UInt64) (value : Value) : Store :=
  { store with pinned := Bindings.pinIn position.toNat value store.pinned }

/-- Carries out an operation. -/
def perform? (store : Store) : Operation → Option Store
  | .add (.insert name value) => store.insert? name value
  | .add (.insertNew name value) => store.insertNew? name value
  | .add (.push value) => some (store.push value)
  | .pin position value => some (store.pin position value)
  | .insertAll pairs => pairs.foldlM (fun held pair => held.insert? pair.1 pair.2) store

/-- The store after a history of operations. -/
def after? (history : List Operation) : Option Store :=
  history.foldlM perform? {}

/-- The value of a name, if it has one, where its slot is one of the row. -/
def get? (store : Store) (name : String) : Option (Option Value) :=
  match store.names.lookup name with
  | some slot => store.arguments[slot]?.map some
  | none => some none

/-- The value that a reference denotes, if there is one. -/
def resolve? (store : Store) : Reference → Option (Option Value)
  | .name identifier => store.get? identifier
  | .position index => some ((store.pinned.lookup index).or store.arguments[index]?)

/-- The value of a key that is written like a reference. -/
def atKey? (store : Store) (key : String) : Option (Option Value) :=
  match Reference.read? key.toList with
  | some reference => store.resolve? reference
  | none => some none

/-- The store that holds what bindings hold. -/
def ofBindings (bindings : Bindings) : Store :=
  ⟨bindings.arguments, bindings.slots, bindings.pinned⟩

variable {bindings : Bindings} {name : String} {slot : Nat}

/-- Where names are distinct, a bound name is found in the slot where its entry stands. -/
theorem lookup_slots_iff (distinct : bindings.names.Nodup) :
    bindings.slots.lookup name = some slot ↔ (name, slot) ∈ bindings.slots :=
  Entries.lookup_eq_some_iff_mem (by rwa [Bindings.map_fst_slots])

/-- A name has a slot exactly if it is bound. -/
theorem isSome_lookup_slots (bindings : Bindings) (name : String) :
    (bindings.slots.lookup name).isSome = bindings.contains name := by
  rw [Bool.eq_iff_iff, Entries.isSome_lookup_iff, Bindings.map_fst_slots,
    Bindings.contains_iff_mem_names]

/-- To replace the value of a name is to set its slot. -/
theorem arguments_replace (distinct : bindings.names.Nodup)
    (isSlot : (name, slot) ∈ bindings.slots) (value : Value) :
    (bindings.replace name value).arguments = bindings.arguments.set slot value := by
  obtain ⟨held, stands⟩ := Bindings.mem_slots_iff.mp isSlot
  ext1 position
  rw [Bindings.getElem?_arguments, Bindings.replace, List.getElem?_map, List.getElem?_set]
  by_cases same : slot = position
  · subst same
    have inside := (List.getElem?_eq_some_iff.mp stands).1
    rw [stands, if_pos rfl, if_pos (by rwa [Bindings.length_arguments])]
    simp [Bindings.hasName]
  · rw [if_neg same, Bindings.getElem?_arguments]
    cases found : bindings.entries[position]? with
    | none => rfl
    | some entry =>
        have otherName : Bindings.hasName name entry = false := by
          rw [Bool.eq_false_iff]
          intro hasName
          obtain ⟨entryName, entryValue⟩ := entry
          cases Bindings.hasName_iff.mp hasName
          have secondSlot := Bindings.mem_slots_iff.mpr ⟨entryValue, found⟩
          exact same (Option.some.inj (((lookup_slots_iff distinct).mpr isSlot).symm.trans
            ((lookup_slots_iff distinct).mpr secondSlot)))
        simp [otherName]

/-- An entry behind the others is one more argument, and a slot for its name. -/
theorem ofBindings_append (bindings : Bindings) (entry : Binding) :
    ofBindings (bindings.append entry) =
      ⟨bindings.arguments ++ [entry.value],
        bindings.slots ++ (entry.name.map (·, bindings.arguments.length)).toList,
        bindings.pinned⟩ := by
  rw [ofBindings, Bindings.slots_append, Bindings.arguments, Bindings.append, List.map_append]
  rfl

/-! ## Operations -/

/-- The slot of a name that is inserted again is in range. -/
theorem insert?_ofBindings (distinct : bindings.names.Nodup) (name : String) (value : Value) :
    (ofBindings bindings).insert? name value = some (ofBindings (bindings.insert name value)) := by
  rw [Bindings.insert, ← isSome_lookup_slots]
  cases found : bindings.slots.lookup name with
  | none =>
      have unbound : ¬(none : Option Nat).isSome = true := Bool.false_ne_true
      rw [if_neg unbound, ofBindings_append]
      simp [insert?, ofBindings, found]
  | some slot =>
      have isSlot := (lookup_slots_iff distinct).mp found
      have inside := (Bindings.get?_of_mem_slots distinct isSlot).1
      simp only [insert?, ofBindings, found, Option.isSome_some, if_true,
        arguments_replace distinct isSlot, Bindings.slots_replace]
      exact if_pos inside

/-- A default runs into no check. -/
theorem insertNew?_ofBindings (distinct : bindings.names.Nodup) (name : String) (value : Value) :
    (ofBindings bindings).insertNew? name value =
      some (ofBindings (bindings.insertNew name value)) := by
  have bound : ((ofBindings bindings).names.lookup name).isSome = bindings.contains name :=
    isSome_lookup_slots bindings name
  rw [insertNew?, Bindings.insertNew, bound]
  split
  case isTrue => rfl
  case isFalse => exact insert?_ofBindings distinct name value

/-- A value in sequence is one more argument. -/
theorem push_ofBindings (bindings : Bindings) (value : Value) :
    (ofBindings bindings).push value = ofBindings (bindings.push value) := by
  rw [Bindings.push, ofBindings_append]
  simp [push, ofBindings]

/-- Inserting pairs in turn runs into no check. -/
theorem foldlM_insert?_ofBindings (distinct : bindings.names.Nodup)
    (pairs : List (String × Value)) :
    pairs.foldlM (fun held pair => held.insert? pair.1 pair.2) (ofBindings bindings) =
      some (ofBindings (bindings.insertAll pairs)) := by
  induction pairs generalizing bindings with
  | nil => rfl
  | cons pair rest inductionHypothesis =>
      rw [List.foldlM_cons, insert?_ofBindings distinct]
      exact inductionHypothesis
        (Bindings.nodup_names_addAll distinct [.insert pair.1 pair.2])

/-- An operation does to the store what it does to the bindings. -/
theorem perform?_ofBindings (distinct : bindings.names.Nodup) (operation : Operation) :
    (ofBindings bindings).perform? operation = some (ofBindings (operation.apply bindings)) := by
  cases operation with
  | add addition =>
      cases addition with
      | insert name value => exact insert?_ofBindings distinct name value
      | insertNew name value => exact insertNew?_ofBindings distinct name value
      | push value => exact congrArg some (push_ofBindings bindings value)
  | pin position value => rfl
  | insertAll pairs => exact foldlM_insert?_ofBindings distinct pairs

/-- No slot is out of the row in any history. -/
theorem after?_eq (history : List Operation) :
    after? history = some (ofBindings (Bindings.after history)) := by
  induction history using List.reverseRecOn with
  | nil => rfl
  | append_singleton earlier operation inductionHypothesis =>
      have distinct := Bindings.nodup_names_after earlier
      rw [after?] at inductionHypothesis
      rw [after?, List.foldlM_append, inductionHypothesis, Bindings.after_append]
      simpa [Bindings.perform] using perform?_ofBindings distinct operation

/-! ## Looking up -/

/-- The slot of a name that is looked up is in range. -/
theorem get?_ofBindings (distinct : bindings.names.Nodup) (name : String) :
    (ofBindings bindings).get? name = some (bindings.get? name) := by
  cases found : bindings.slots.lookup name with
  | none =>
      have unbound : bindings.get? name = none := by
        have notBound := isSome_lookup_slots bindings name
        rw [found, Bindings.contains_eq_isSome_get?] at notBound
        exact Option.isSome_eq_false_iff.mp notBound.symm |> Option.isNone_iff_eq_none.mp
      simp [get?, ofBindings, found, unbound]
  | some slot =>
      obtain ⟨inside, isValue⟩ := Bindings.get?_of_mem_slots distinct
        ((lookup_slots_iff distinct).mp found)
      rw [isValue, List.getElem?_eq_getElem inside]
      simp [get?, ofBindings, found, List.getElem?_eq_getElem inside]

/-- A look-up finds what it finds in the bindings. -/
theorem resolve?_ofBindings (distinct : bindings.names.Nodup) (reference : Reference) :
    (ofBindings bindings).resolve? reference = some (bindings.resolve? reference) := by
  cases reference with
  | name identifier => exact get?_ofBindings distinct identifier
  | position index =>
      rw [Bindings.resolve?, Bindings.atPosition?_eq]
      rfl

/-- Looking a key up runs into no check. -/
theorem atKey?_ofBindings (distinct : bindings.names.Nodup) (key : String) :
    (ofBindings bindings).atKey? key = some (bindings.atKey? key) := by
  rw [atKey?, Bindings.atKey?]
  cases Reference.read? key.toList with
  | none => rfl
  | some reference => exact resolve?_ofBindings distinct reference

end Store

end MessageTemplate.Checked
