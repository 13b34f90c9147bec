import Mathlib.Data.List.Forall2
import Mathlib.Data.List.Perm.Subperm
import MessageTemplate.Proofs.Bindings.History

/-! # Bindings that are the same

Comparing bindings pays no heed to the order in which names are listed. `Bindings.agree_of_same`
says that the order is the same all the same, and with it everything that can be asked of bindings:
slots ascend in the order of the names, so the same slots are in the same order. Values agree as far
as comparing values tells; an undefined number, for one, is never the same as another. -/

namespace MessageTemplate

/-- Lists of entries that are the same hold the same entries, if no key comes twice. -/
theorem Entries.perm_of_same {κ α : Type} [DecidableEq κ] [BEq α] [LawfulBEq α]
    {left right : List (κ × α)} (distinct : (left.map Prod.fst).Nodup)
    (isSame : same left right = true) : left.Perm right := by
  rw [same, Bool.and_eq_true, beq_iff_eq, List.all_eq_true] at isSame
  obtain ⟨sameLength, found⟩ := isSame
  have included : left ⊆ right := by
    rintro ⟨key, value⟩ member
    have lookedUp : right.lookup key = some value := beq_iff_eq.mp (found _ member)
    obtain ⟨before, rest, rfl, -⟩ := List.lookup_eq_some_iff.mp lookedUp
    exact List.mem_append_right _ List.mem_cons_self
  have subperm := List.subperm_of_subset (distinct.of_map _) included
  exact subperm.perm_of_length_le (Nat.le_of_eq sameLength.symm)

namespace Bindings

variable {left right : Bindings}

/-- Whether two values are the same. -/
def AgreeOnValue (one other : Value) : Prop :=
  (one == other) = true

/-- Whether two entries have one name and the same value. -/
def AgreeOnEntry (one other : Binding) : Prop :=
  one.name = other.name ∧ AgreeOnValue one.value other.value

/-- Whether two pins have one position and the same value. -/
def AgreeOnPin (one other : Nat × Value) : Prop :=
  one.1 = other.1 ∧ AgreeOnValue one.2 other.2

/-- Lists are the same exactly if they are equally long and the same in every place. -/
theorem sameLists_iff {α : Type} {left right : List α} {same : α → α → Bool} :
    sameLists left right same = true ↔
      List.Forall₂ (fun one other => same one other = true) left right := by
  rw [sameLists, Bool.and_eq_true, beq_iff_eq, List.all_eq_true, List.forall₂_iff_zip]
  simp

/-- The same names at the same slots are listed in the same order. -/
theorem slots_eq_of_same (distinct : left.names.Nodup)
    (isSame : Entries.same left.slots right.slots = true) : left.slots = right.slots := by
  rw [← map_fst_slots] at distinct
  have noTwo : ∀ one other : String × Nat, one ∈ left.slots → other ∈ right.slots →
      one.2 < other.2 → other.2 < one.2 → one = other := by
    intro one other _ _ before behind
    exact absurd before (Nat.lt_asymm behind)
  exact List.Perm.eq_of_pairwise noTwo (pairwise_slots left) (pairwise_slots right)
    (Entries.perm_of_same distinct isSame)

/-- The same slots of as many entries are the same names in the same positions. -/
theorem map_name_eq_of_slots_eq (sameLength : left.entries.length = right.entries.length)
    (sameSlots : left.slots = right.slots) :
    left.entries.map Binding.name = right.entries.map Binding.name := by
  refine List.ext_getElem (by simpa using sameLength) fun position insideLeft insideRight => ?_
  rw [List.length_map] at insideLeft insideRight
  rw [List.getElem_map, List.getElem_map]
  refine Option.ext fun name => ?_
  have isSlot (bindings : Bindings) (inside : position < bindings.entries.length) :
      bindings.entries[position].name = some name ↔ (name, position) ∈ bindings.slots := by
    rw [mem_slots_iff, List.getElem?_eq_getElem inside]
    constructor
    · exact fun isNamed => ⟨bindings.entries[position].value, by rw [← isNamed]⟩
    · rintro ⟨value, isEntry⟩
      rw [Option.some.inj isEntry]
  rw [isSlot left insideLeft, isSlot right insideRight, sameSlots]

/-- Bindings that are the same have entries that agree one by one, and pins that do. -/
theorem agree_one_by_one (distinct : left.names.Nodup) (isSame : (left == right) = true) :
    List.Forall₂ AgreeOnEntry left.entries right.entries ∧
      List.Forall₂ AgreeOnPin left.pinned right.pinned := by
  have compared : same left right = true := isSame
  rw [same, Bool.and_eq_true, Bool.and_eq_true] at compared
  obtain ⟨⟨sameArguments, sameSlots⟩, samePins⟩ := compared
  have values := sameLists_iff.mp sameArguments
  have sameLength : left.entries.length = right.entries.length := by
    simpa using values.length_eq
  have names := map_name_eq_of_slots_eq sameLength (slots_eq_of_same distinct sameSlots)
  constructor
  · refine List.forall₂_iff_get.mpr ⟨sameLength, fun position insideLeft insideRight => ⟨?_, ?_⟩⟩
    · have sameName := congrArg (fun names => names[position]?) names
      simpa [insideLeft, insideRight] using sameName
    · have sameValue := values.get (i := position) (by simpa) (by simpa)
      simpa [arguments, AgreeOnValue] using sameValue
  · refine (sameLists_iff.mp samePins).imp fun one other agree => ?_
    rw [Bool.and_eq_true, beq_iff_eq] at agree
    exact agree

/-! ## What agrees -/

/-- Entries that agree have the same names in the same order. -/
theorem names_eq_of_agree (agree : List.Forall₂ AgreeOnEntry left.entries right.entries) :
    left.names = right.names := by
  have sameNames : List.Forall₂ Eq left.names right.names := by
    refine List.rel_filterMap ?_ agree
    rintro ⟨name, one⟩ ⟨-, other⟩ ⟨rfl, -⟩
    cases name with
    | none => exact .none
    | some name => exact .some rfl
  rwa [List.forall₂_eq_eq_eq] at sameNames

/-- Entries that agree give the same pairs of names and values in the same order. -/
theorem named_of_agree (agree : List.Forall₂ AgreeOnEntry left.entries right.entries) :
    List.Forall₂ (fun one other => one.1 = other.1 ∧ AgreeOnValue one.2 other.2)
      left.named right.named := by
  refine List.rel_filterMap ?_ agree
  rintro ⟨name, one⟩ ⟨-, other⟩ ⟨rfl, sameValue⟩
  cases name with
  | none => exact .none
  | some name => exact .some ⟨rfl, sameValue⟩

/-- Entries that agree give a name values that agree, or both give it none. -/
theorem get?_of_agree (agree : List.Forall₂ AgreeOnEntry left.entries right.entries)
    (name : String) : Option.Rel AgreeOnValue (left.get? name) (right.get? name) := by
  rw [get?, get?]
  generalize left.entries = leftEntries, right.entries = rightEntries at agree
  induction agree with
  | nil => exact .none
  | @cons one other _ _ first _ inductionHypothesis =>
      have sameName : hasName name one = hasName name other := by rw [hasName, hasName, first.1]
      rw [List.find?_cons, List.find?_cons, sameName]
      cases hasName name other with
      | true => exact .some first.2
      | false => exact inductionHypothesis

/-- Pins that agree find values that agree in every position, or both find none. -/
theorem lookup_of_agree {leftPins rightPins : List (Nat × Value)}
    (agree : List.Forall₂ AgreeOnPin leftPins rightPins) (position : Nat) :
    Option.Rel AgreeOnValue (leftPins.lookup position) (rightPins.lookup position) := by
  induction agree with
  | nil => exact .none
  | @cons one other _ _ first _ inductionHypothesis =>
      obtain ⟨pinned, value⟩ := one
      obtain ⟨otherPinned, otherValue⟩ := other
      obtain ⟨samePosition, sameValue⟩ := first
      cases samePosition
      rw [List.lookup_cons, List.lookup_cons]
      split
      · exact .some sameValue
      · exact inductionHypothesis

/-- Entries that agree have arguments that agree in every position. -/
theorem getElem?_arguments_of_agree (agree : List.Forall₂ AgreeOnEntry left.entries right.entries)
    (position : Nat) :
    Option.Rel AgreeOnValue left.arguments[position]? right.arguments[position]? := by
  rw [getElem?_arguments, getElem?_arguments]
  generalize left.entries = leftEntries, right.entries = rightEntries at agree
  induction agree generalizing position with
  | nil => exact .none
  | cons first _ inductionHypothesis =>
      cases position with
      | zero => exact .some first.2
      | succ earlier => exact inductionHypothesis earlier

/-- Where entries and pins agree, so does what every position finds. -/
theorem atPosition?_of_agree (agree : List.Forall₂ AgreeOnEntry left.entries right.entries)
    (agreePins : List.Forall₂ AgreeOnPin left.pinned right.pinned) (position : Nat) :
    Option.Rel AgreeOnValue (left.atPosition? position) (right.atPosition? position) := by
  have samePin := lookup_of_agree agreePins position
  rw [atPosition?_eq, atPosition?_eq]
  generalize left.pinned.lookup position = leftPin, right.pinned.lookup position = rightPin
    at samePin
  cases samePin with
  | some sameValue => exact .some sameValue
  | none => exact getElem?_arguments_of_agree agree position

/-- What agrees is counted alike. -/
theorem size?_eq_of_agree (agree : List.Forall₂ AgreeOnEntry left.entries right.entries)
    (agreePins : List.Forall₂ AgreeOnPin left.pinned right.pinned) : left.size? = right.size? := by
  have samePositions : left.pinned.map Prod.fst = right.pinned.map Prod.fst := by
    rw [← List.forall₂_eq_eq_eq, List.forall₂_map_left_iff, List.forall₂_map_right_iff]
    exact agreePins.imp fun _ _ agree => agree.1
  have sameLast := congrArg List.getLast? samePositions
  rw [List.getLast?_map, List.getLast?_map] at sameLast
  rw [size?, size?, agree.length_eq]
  cases isLast : left.pinned.getLast? with
  | none =>
      rw [isLast] at sameLast
      rw [Option.map_eq_none_iff.mp sameLast.symm]
  | some last =>
      rw [isLast] at sameLast
      obtain ⟨other, isOther, samePosition⟩ := Option.map_eq_some_iff.mp sameLast.symm
      simp only [isOther, samePosition]

/-- Bindings that are the same, whatever their histories, list the same names with the same values
in the same order, have the same size, and find the same for each name and each position. -/
theorem agree_of_same (leftHistory rightHistory : List Operation)
    (isSame : (after leftHistory == after rightHistory) = true) :
    let left := after leftHistory
    let right := after rightHistory
    left.names = right.names ∧
      List.Forall₂ (fun one other => one.1 = other.1 ∧ AgreeOnValue one.2 other.2)
        left.named right.named ∧
      left.size? = right.size? ∧
      (∀ name, Option.Rel AgreeOnValue (left.get? name) (right.get? name)) ∧
      ∀ position,
        Option.Rel AgreeOnValue (left.atPosition? position) (right.atPosition? position) := by
  intro left right
  obtain ⟨agree, agreePins⟩ := agree_one_by_one (nodup_names_after leftHistory) isSame
  exact ⟨names_eq_of_agree agree, named_of_agree agree, size?_eq_of_agree agree agreePins,
    get?_of_agree agree, atPosition?_of_agree agree agreePins⟩

/-- One history binds and pins each thing once; the other one fills `b` in and replaces it when it
binds `a`, and pins the first position again. -/
theorem agree_of_same_interleaved :
    let left := after [.add (.insert "b" (.int 1)), .add (.push (.string "p")),
      .pin 0 (.bool true), .add (.insert "a" (.int 2))]
    let right := after [.add (.insertNew "b" .null), .pin 0 .null, .add (.push (.string "p")),
      .insertAll [("a", .int 2), ("b", .int 1)], .pin 0 (.bool true)]
    (left == right) = true ∧ left.names = ["b", "a"] ∧ left.names = right.names ∧
      Option.Rel AgreeOnValue (left.get? "b") (right.get? "b") ∧
      Option.Rel AgreeOnValue (left.atPosition? 0) (right.atPosition? 0) := by
  intro left right
  have isSame : (left == right) = true := by decide
  obtain ⟨names, -, -, byName, byPosition⟩ := agree_of_same _ _ isSame
  exact ⟨isSame, by decide, names, byName "b", byPosition 0⟩

end Bindings

end MessageTemplate
