import Mathlib.Data.List.Basic
import Mathlib.Data.List.Induction
import Mathlib.Data.List.Nodup
import MessageTemplate.Proofs.Bindings.Pins

/-! # Bindings after a history

What bindings hold is told by their history alone: `Bindings.keepsAddresses` says which value each
name and each position finds, in which order the names are listed, and how many positions there are,
after any operations in any order. Names depend on what was added and pinned positions on what was
pinned, so each is followed by itself. Positions have 64 bits, and so has their number: where the
last of them is pinned, there is no number of positions. -/

namespace MessageTemplate

/-- What can be done to bindings. -/
inductive Operation where
  | add (addition : Addition)
  | pin (position : UInt64) (value : Value)
  | insertAll (pairs : List (String × Value))

namespace Operation

/-- Carries out an operation. -/
def apply : Operation → Bindings → Bindings
  | add addition, bindings => addition.apply bindings
  | pin position value, bindings => bindings.pin position value
  | insertAll pairs, bindings => bindings.insertAll pairs

/-- What an operation adds, one after the other. -/
def additions : Operation → List Addition
  | add addition => [addition]
  | pin _ _ => []
  | insertAll pairs => pairs.map fun pair => .insert pair.1 pair.2

/-- What an operation pins. -/
def pins : Operation → List (Nat × Value)
  | pin position value => [(position.toNat, value)]
  | add _ | insertAll _ => []

/-- What a history adds, one after the other. -/
def additionsOf (history : List Operation) : List Addition :=
  history.flatMap additions

/-- What a history pins, one after the other. -/
def pinsOf (history : List Operation) : List (Nat × Value) :=
  history.flatMap pins

end Operation

namespace Addition

/-- The last value that additions give a name, bound or not. -/
def lastInsert? (name : String) (additions : List Addition) : Option Value :=
  Entries.last? name (additions.filterMap replacing?)

/-- The first value that additions give a name only if it is not bound. -/
def firstDefault? (name : String) (additions : List Addition) : Option Value :=
  (additions.filterMap filling?).lookup name

/-- A later insert of a name counts before an earlier one. -/
theorem lastInsert?_cons (name : String) (addition : Addition) (rest : List Addition) :
    lastInsert? name (addition :: rest) =
      (lastInsert? name rest).or (addition.replacing?.toList.lookup name) := by
  have lastOfOne : Entries.last? name addition.replacing?.toList =
      addition.replacing?.toList.lookup name := by
    cases addition.replacing? <;> rfl
  simp only [lastInsert?, List.filterMap_eq_flatMap_toList, List.flatMap_cons,
    Entries.last?_append, lastOfOne]

/-- An earlier default of a name counts before a later one. -/
theorem firstDefault?_cons (name : String) (addition : Addition) (rest : List Addition) :
    firstDefault? name (addition :: rest) =
      (addition.filling?.toList.lookup name).or (firstDefault? name rest) := by
  simp only [firstDefault?, List.filterMap_eq_flatMap_toList, List.flatMap_cons,
    List.lookup_append]

/-- An entry with the last value that additions give its name, or else with its own. -/
def settle (additions : List Addition) (entry : Binding) : Binding :=
  { entry with
    value := (entry.name.bind fun name => lastInsert? name additions).getD entry.value }

/-- What additions make of an entry that stands already, one after the other. -/
theorem foldl_revalue (additions : List Addition) (entry : Binding) :
    additions.foldl (fun held addition => addition.revalue held) entry =
      settle additions entry := by
  induction additions generalizing entry with
  | nil =>
      obtain ⟨entryName, held⟩ := entry
      cases entryName <;> rfl
  | cons addition rest inductionHypothesis =>
      obtain ⟨entryName, held⟩ := entry
      rw [List.foldl_cons, inductionHypothesis]
      simp only [settle, lastInsert?_cons]
      cases addition with
      | insert name value =>
          cases entryName with
          | none => rfl
          | some other =>
              by_cases same : other = name <;>
                simp [revalue, replacing?, Bindings.hasName, Entries.lookup_singleton, same]
      | insertNew name value => simp [revalue, replacing?]
      | push value => simp [revalue, replacing?]

end Addition

namespace Bindings

/-- Carries out operations in turn. -/
def perform (bindings : Bindings) (history : List Operation) : Bindings :=
  history.foldl (fun held operation => operation.apply held) bindings

/-- The bindings after a history that starts with none. -/
def after (history : List Operation) : Bindings :=
  empty.perform history

variable {bindings : Bindings} {additions : List Addition} {name : String}

theorem addAll_cons (bindings : Bindings) (addition : Addition) (rest : List Addition) :
    bindings.addAll (addition :: rest) = (addition.apply bindings).addAll rest := rfl

/-- Additions may be carried out in two parts. -/
theorem addAll_append (bindings : Bindings) (earlier later : List Addition) :
    bindings.addAll (earlier ++ later) = (bindings.addAll earlier).addAll later :=
  List.foldl_append

/-- A history may be carried out in two parts. -/
theorem after_append (earlier later : List Operation) :
    after (earlier ++ later) = (after earlier).perform later :=
  List.foldl_append

/-! ## Additions in turn -/

/-- Additions list the names in the order in which they first come. -/
theorem names_addAll_empty (additions : List Addition) :
    (empty.addAll additions).names = (additions.filterMap Addition.name?).eraseDups := by
  induction additions using List.reverseRecOn with
  | nil => rfl
  | append_singleton earlier addition inductionHypothesis =>
      have sameMembers (names : List String) :
          names.removeAll (earlier.filterMap Addition.name?).eraseDups =
            names.removeAll (earlier.filterMap Addition.name?) := by
        simp [List.removeAll]
      have single (others : List String) :
          (addition.name?.toList.removeAll others).eraseDups =
            addition.name?.toList.removeAll others := by
        cases addition.name? with
        | none => rfl
        | some name =>
            by_cases member : name ∈ others <;>
              simp [List.removeAll, member, List.eraseDups_cons]
      have added : (earlier ++ [addition]).filterMap Addition.name? =
          earlier.filterMap Addition.name? ++ addition.name?.toList := by
        rw [List.filterMap_append]
        cases isName : addition.name? <;> simp [isName]
      calc (empty.addAll (earlier ++ [addition])).names
          = (addition.apply (empty.addAll earlier)).names := by rw [addAll_append]; rfl
        _ = (earlier.filterMap Addition.name?).eraseDups ++
              addition.name?.toList.removeAll (earlier.filterMap Addition.name?) := by
            rw [addition.names_apply, inductionHypothesis, sameMembers]
        _ = ((earlier ++ [addition]).filterMap Addition.name?).eraseDups := by
            rw [added, List.eraseDups_append, single]

/-- Distinct names stay distinct. -/
theorem nodup_names_addAll (distinct : bindings.names.Nodup) (additions : List Addition) :
    (bindings.addAll additions).names.Nodup := by
  induction additions generalizing bindings with
  | nil => exact distinct
  | cons addition rest inductionHypothesis =>
      refine inductionHypothesis ?_
      rw [addition.names_apply]
      refine List.nodup_append.mpr ⟨distinct, ?_, ?_⟩
      · cases addition.name? with
        | none => exact .nil
        | some name => exact (List.nodup_singleton name).filter _
      · rintro name member _ added rfl
        simp [List.removeAll, member] at added

/-- What a name finds after additions: the last value it was given, else what it had, else the first
value that was to fill it in. -/
theorem get?_addAll (bindings : Bindings) (additions : List Addition) (name : String) :
    (bindings.addAll additions).get? name =
      (Addition.lastInsert? name additions).or
        ((bindings.get? name).or (Addition.firstDefault? name additions)) := by
  induction additions generalizing bindings with
  | nil => simp [addAll, Addition.lastInsert?, Addition.firstDefault?, Entries.last?]
  | cons addition rest inductionHypothesis =>
      rw [addAll_cons, inductionHypothesis, addition.get?_apply, Addition.lastInsert?_cons,
        Addition.firstDefault?_cons]
      simp only [Option.or_assoc]

/-- An entry that stands already stays in its position, under its name. -/
theorem getElem?_entries_addAll {position : Nat} {entry : Binding}
    (stands : bindings.entries[position]? = some entry) (additions : List Addition) :
    (bindings.addAll additions).entries[position]? =
      some (additions.foldl (fun held addition => addition.revalue held) entry) := by
  induction additions generalizing bindings entry with
  | nil => exact stands
  | cons addition rest inductionHypothesis =>
      exact inductionHypothesis (addition.getElem?_entries_apply stands)

/-! ## Operations in turn -/

/-- What additions do to the entries depends on the entries alone. -/
theorem entries_addAll_congr {left right : Bindings} (same : left.entries = right.entries)
    (additions : List Addition) :
    (left.addAll additions).entries = (right.addAll additions).entries := by
  induction additions generalizing left right with
  | nil => exact same
  | cons addition rest inductionHypothesis =>
      exact inductionHypothesis (addition.entries_apply_congr same)

/-- No addition pins a position. -/
theorem pinned_addAll (bindings : Bindings) (additions : List Addition) :
    (bindings.addAll additions).pinned = bindings.pinned := by
  induction additions generalizing bindings with
  | nil => rfl
  | cons addition rest inductionHypothesis =>
      exact (inductionHypothesis _).trans (addition.pinned_apply bindings)

/-- Binding names in turn is inserting them one after the other. -/
theorem insertAll_eq_addAll (bindings : Bindings) (pairs : List (String × Value)) :
    bindings.insertAll pairs = bindings.addAll (pairs.map fun pair => .insert pair.1 pair.2) := by
  rw [insertAll, addAll, List.foldl_map]
  rfl

/-- Where no name comes twice, the last value listed for a name is the value it finds. -/
theorem last?_named {bindings : Bindings} (distinct : bindings.names.Nodup) (name : String) :
    Entries.last? name bindings.named = bindings.get? name := by
  have distinctKeys : (bindings.named.map Prod.fst).Nodup := by rwa [map_fst_named]
  refine Option.ext fun value => ?_
  rw [Entries.last?_eq_lookup distinctKeys, Entries.lookup_eq_some_iff_mem distinctKeys,
    mem_named_iff, get?_eq_some_iff distinct]

/-- What a name finds in bindings that the named values of others are added to. -/
theorem get?_insertAll_named (first : Bindings) {second : Bindings} (distinct : second.names.Nodup)
    (name : String) :
    (first.insertAll second.named).get? name = (second.get? name).or (first.get? name) := by
  have inserted (pairs : List (String × Value)) :
      Addition.lastInsert? name (pairs.map fun pair => .insert pair.1 pair.2) =
        Entries.last? name pairs := by
    simp [Addition.lastInsert?, List.filterMap_map, Function.comp_def, Addition.replacing?]
  have noDefault (pairs : List (String × Value)) :
      Addition.firstDefault? name (pairs.map fun pair => .insert pair.1 pair.2) = none := by
    simp [Addition.firstDefault?, List.filterMap_map, Function.comp_def, Addition.filling?]
  rw [insertAll_eq_addAll, get?_addAll, inserted, noDefault, last?_named distinct, Option.or_none]

/-- An operation is what it adds and what it pins. -/
theorem apply_eq (operation : Operation) (bindings : Bindings) :
    operation.apply bindings =
      ⟨(bindings.addAll operation.additions).entries, pinAll bindings.pinned operation.pins⟩ := by
  cases operation with
  | add addition =>
      rw [← addition.pinned_apply bindings]
      rfl
  | pin position value => rfl
  | insertAll pairs =>
      rw [Operation.apply, insertAll_eq_addAll, Operation.additions, Operation.pins,
        ← pinned_addAll bindings (pairs.map fun pair => .insert pair.1 pair.2)]
      rfl

/-- Entries come from what was added, and pinned positions from what was pinned. -/
theorem perform_eq (bindings : Bindings) (history : List Operation) :
    bindings.perform history =
      ⟨(bindings.addAll (Operation.additionsOf history)).entries,
        pinAll bindings.pinned (Operation.pinsOf history)⟩ := by
  induction history generalizing bindings with
  | nil => rfl
  | cons operation rest inductionHypothesis =>
      have performed : bindings.perform (operation :: rest) =
          (operation.apply bindings).perform rest := rfl
      have additions : Operation.additionsOf (operation :: rest) =
          operation.additions ++ Operation.additionsOf rest := List.flatMap_cons
      have pins : Operation.pinsOf (operation :: rest) =
          operation.pins ++ Operation.pinsOf rest := List.flatMap_cons
      rw [performed, inductionHypothesis, apply_eq, additions, addAll_append, pins]
      have sameEntries : (Bindings.mk (bindings.addAll operation.additions).entries
            (pinAll bindings.pinned operation.pins)).entries =
          (bindings.addAll operation.additions).entries := rfl
      have entries := entries_addAll_congr sameEntries (Operation.additionsOf rest)
      have pinned : pinAll bindings.pinned (operation.pins ++ Operation.pinsOf rest) =
          pinAll (pinAll bindings.pinned operation.pins) (Operation.pinsOf rest) :=
        List.foldl_append
      rw [entries, pinned]

/-- The entries after a history come from its additions alone. -/
theorem entries_after (history : List Operation) :
    (after history).entries = (empty.addAll (Operation.additionsOf history)).entries := by
  rw [after, perform_eq]

/-- Names are distinct after any history. -/
theorem nodup_names_after (history : List Operation) : (after history).names.Nodup := by
  have noNames : empty.names.Nodup := .nil
  rw [names, entries_after]
  exact nodup_names_addAll noNames _

/-- A default that comes too late, a value replaced in its slot, and an argument hidden by a pin. -/
example :
    let bindings := after [.add (.insert "b" .null), .add (.push .null), .pin 4 (.int 4),
      .insertAll [("a", .int 1), ("b", .int 2)], .add (.insertNew "a" (.int 3)), .pin 1 (.int 5)]
    bindings.slots = [("b", 0), ("a", 2)] ∧ bindings.size? = some 5 ∧
      bindings.get? "a" = some (.int 1) ∧ bindings.atPosition? 0 = some (.int 2) ∧
      bindings.atPosition? 1 = some (.int 5) ∧ bindings.atPosition? 3 = none :=
  ⟨rfl, rfl, rfl, rfl, rfl, rfl⟩

/-- Behind the last position there is no number for the size, though a value is there. -/
example :
    let bindings := after [.add (.push .null), .pin (-1) (.int 1)]
    bindings.size? = none ∧ bindings.isEmpty = false ∧
      bindings.atPosition? (UInt64.size - 1) = some (.int 1) :=
  ⟨rfl, rfl, rfl⟩

end Bindings

end MessageTemplate
