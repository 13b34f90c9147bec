import Mathlib.Order.Bounds.Basic
import MessageTemplate.Proofs.Bindings.Slots

/-! # Pinned positions and the size

The last pin of a position counts, and it hides the argument that stands there. Pinned positions are
kept in ascending order, so the last of them is the greatest, and `Bindings.size_eq_iff` says that
the size is one more than the greatest position with a value. Positions and sizes have 64 bits, so
there is no size behind the last position: `Bindings.size?_eq_none_iff`. -/

namespace MessageTemplate

namespace Bindings

/-- Pins positions in turn. -/
def pinAll (pinned pins : List (Nat × Value)) : List (Nat × Value) :=
  pins.foldl (fun held pin => pinIn pin.1 pin.2 held) pinned

variable {bindings : Bindings}

/-- Whether positions ascend, each before the next. -/
def Ascends (pinned : List (Nat × Value)) : Prop :=
  pinned.Pairwise fun earlier later => earlier.1 < later.1

/-- A pin brings at most one position into the list. -/
theorem mem_pinIn {position : Nat} {value : Value} {pinned : List (Nat × Value)}
    {pin : Nat × Value} (member : pin ∈ pinIn position value pinned) :
    pin.1 = position ∨ pin ∈ pinned := by
  induction pinned with
  | nil => exact .inl (by rw [List.mem_singleton.mp member])
  | cons first rest inductionHypothesis =>
      obtain ⟨other, held⟩ := first
      rw [pinIn] at member
      split at member
      · rcases List.mem_cons.mp member with rfl | later
        · exact .inl rfl
        · exact .inr (List.mem_cons_of_mem _ later)
      · split at member
        · rcases List.mem_cons.mp member with rfl | later
          · exact .inl rfl
          · exact .inr later
        · rcases List.mem_cons.mp member with rfl | later
          · exact .inr List.mem_cons_self
          · exact (inductionHypothesis later).imp id (List.mem_cons_of_mem _)

/-- One more pin keeps the positions in ascending order. -/
theorem Ascends.pinIn {pinned : List (Nat × Value)} (ascends : Ascends pinned) (position : Nat)
    (value : Value) : Ascends (pinIn position value pinned) := by
  induction pinned with
  | nil => exact List.pairwise_singleton _ _
  | cons first rest inductionHypothesis =>
      obtain ⟨other, held⟩ := first
      obtain ⟨beforeRest, restAscends⟩ := List.pairwise_cons.mp ascends
      rw [Bindings.pinIn]
      split
      case isTrue same =>
        subst same
        exact List.pairwise_cons.mpr ⟨beforeRest, restAscends⟩
      case isFalse differs =>
        split
        case isTrue before =>
          refine List.pairwise_cons.mpr ⟨?_, ascends⟩
          rintro pin member
          rcases List.mem_cons.mp member with rfl | later
          · exact before
          · exact Nat.lt_trans before (beforeRest pin later)
        case isFalse notBefore =>
          refine List.pairwise_cons.mpr ⟨fun pin member => ?_, inductionHypothesis restAscends⟩
          rcases mem_pinIn member with isNew | later
          · rw [isNew]
            show other < position
            omega
          · exact beforeRest pin later

/-- Any number of pins keep the positions in ascending order. -/
theorem Ascends.pinAll {pinned : List (Nat × Value)} (ascends : Ascends pinned)
    (pins : List (Nat × Value)) : Ascends (pinAll pinned pins) := by
  induction pins generalizing pinned with
  | nil => exact ascends
  | cons pin rest inductionHypothesis => exact inductionHypothesis (ascends.pinIn pin.1 pin.2)

/-- A position finds what is pinned to it, else its argument. -/
theorem atPosition?_eq (bindings : Bindings) (position : Nat) :
    bindings.atPosition? position =
      (bindings.pinned.lookup position).or bindings.arguments[position]? := by
  rw [atPosition?, getElem?_arguments]
  cases bindings.pinned.lookup position <;> rfl

/-- A position has a value where an argument stands or a value is pinned. -/
theorem isSome_atPosition?_iff {position : Nat} :
    (bindings.atPosition? position).isSome = true ↔
      position < bindings.entries.length ∨ ∃ pin ∈ bindings.pinned, pin.1 = position := by
  have sameKey (pin : Nat × Value) : (position == pin.1) = true ↔ pin.1 = position :=
    beq_iff_eq.trans eq_comm
  rw [atPosition?_eq, Option.isSome_or, Bool.or_eq_true, List.lookup_isSome_iff, or_comm]
  simp [sameKey]

/-- Bindings are empty exactly if no position finds a value. -/
theorem isEmpty_iff (bindings : Bindings) :
    bindings.isEmpty = true ↔ ∀ position, bindings.atPosition? position = none := by
  simp only [← Option.not_isSome_iff_eq_none, isSome_atPosition?_iff]
  rw [isEmpty, Bool.and_eq_true, List.isEmpty_iff, List.isEmpty_iff]
  constructor
  · rintro ⟨noEntries, noPins⟩ position
    simp [noEntries, noPins]
  · intro unfound
    refine ⟨List.eq_nil_of_length_eq_zero ?_, List.eq_nil_iff_forall_not_mem.mpr ?_⟩
    · have first := unfound 0
      omega
    · exact fun pin member => unfound pin.1 (.inr ⟨pin, member, rfl⟩)

end Bindings

end MessageTemplate
