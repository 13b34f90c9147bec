import MessageTemplate.Proofs.Text.Balance

/-! # Cuts at the top level

Where a text is cut is decided by the depth of each of its positions, which is counted from the
left. `splitBalanced_isTopLevelCut` says for every text what its parts and its stray braces are, and
that parts which could have come from a cut are found again in the text they make up. A brace that
is never closed takes the rest of the text into the last part, so that part alone may end deeper. -/

namespace MessageTemplate.Text

/-- The positions at depth zero where a character stands, in a text that starts at depth `depth`.
Positions count characters, not bytes. -/
def placesFrom (depth : Nat) (character : Char) (text : List Char) : List Nat :=
  (List.range text.length).filter fun place =>
    text[place]? = some character ∧ finalDepth depth (text.take place) = 0

/-- The positions at depth zero where a character stands. -/
def topLevelPlaces (character : Char) (text : List Char) : List Nat :=
  placesFrom 0 character text

section Places

variable {separator : Char} {depth : Nat} {text head : List Char} {tail : List (List Char)}

/-- The first position counts if the text starts at depth zero with the character. -/
theorem placesFrom_cons (depth : Nat) (character first : Char) (rest : List Char) :
    placesFrom depth character (first :: rest) =
      (if first = character ∧ depth = 0 then [0] else []) ++
        (placesFrom (depthAfter depth first) character rest).map (· + 1) := by
  have later (place : Nat) : finalDepth depth ((first :: rest).take (place + 1)) =
      finalDepth (depthAfter depth first) (rest.take place) := rfl
  have start : finalDepth depth ((first :: rest).take 0) = depth := rfl
  rw [placesFrom, List.length_cons, List.range_succ_eq_map, List.filter_cons, List.filter_map]
  simp only [Function.comp_def, Nat.succ_eq_add_one, later, start, List.getElem?_cons_zero,
    List.getElem?_cons_succ, Option.some.injEq, decide_eq_true_eq]
  split
  · rfl
  · rfl

/-- There is one more part than there are separators at depth zero. -/
theorem length_splitFrom (isSeparator : ¬IsBrace separator) (depth : Nat) (text : List Char) :
    (splitFrom separator depth text).length = (placesFrom depth separator text).length + 1 := by
  induction text generalizing depth with
  | nil => rfl
  | cons character rest inductionHypothesis =>
      rw [placesFrom_cons, List.length_append, List.length_map]
      cases parts : splitFrom separator depth (character :: rest) with
      | nil => exact absurd parts (splitFrom_ne_nil _ _ _)
      | cons head tail =>
          rcases splitFrom_cons_cases parts with
            ⟨rfl, rfl, plain, -, first, others, rfl, restParts⟩ | ⟨noCut, later, -, restParts⟩
          · have restLength := inductionHypothesis 0
            rw [restParts] at restLength
            rw [if_pos ⟨rfl, rfl⟩, depthAfter_plain plain, List.length_cons, restLength,
              List.length_singleton, Nat.add_comm 1]
          · have restLength := inductionHypothesis (depthAfter depth character)
            rw [restParts] at restLength
            have noPlace : ¬(character = separator ∧ depth = 0) := fun place =>
              noCut ⟨place.1, place.2, place.1 ▸ isSeparator⟩
            rw [if_neg noPlace, List.length_nil, Nat.zero_add, ← restLength]
            rfl

/-- The first item is not the last one if others follow it. -/
theorem forall_mem_dropLast_cons {first : α} {rest : List α} {property : α → Prop} :
    (∀ item ∈ (first :: rest).dropLast, property item) ↔
      (rest ≠ [] → property first) ∧ ∀ item ∈ rest.dropLast, property item := by
  cases rest with
  | nil => simp
  | cons next rest => simp

/-- Every part but the last ends at depth zero. The first one starts where the text does. -/
theorem splitFrom_closed (parts : splitFrom separator depth text = head :: tail) :
    (tail ≠ [] → finalDepth depth head = 0) ∧ ∀ part ∈ tail.dropLast, finalDepth 0 part = 0 := by
  induction text generalizing depth head tail with
  | nil =>
      obtain ⟨rfl, rfl⟩ := List.cons.inj parts
      simp
  | cons character rest inductionHypothesis =>
      rcases splitFrom_cons_cases parts with
        ⟨rfl, rfl, -, rfl, first, others, rfl, restParts⟩ | ⟨-, later, rfl, restParts⟩
      · exact ⟨fun _ => rfl, forall_mem_dropLast_cons.mpr (inductionHypothesis restParts)⟩
      · have closed := inductionHypothesis restParts
        exact closed

/-- The stray braces are the closing braces at depth zero. -/
theorem strayOffsetsFrom_eq_map (depth offset : Nat) (text : List Char) :
    strayOffsetsFrom depth offset text =
      (placesFrom depth '}' text).map fun place => offset + byteLength (text.take place) := by
  induction text generalizing depth offset with
  | nil => rfl
  | cons character rest inductionHypothesis =>
      rw [strayOffsetsFrom, placesFrom_cons, inductionHypothesis]
      split
      · simp [Nat.add_assoc]
      · simp [Nat.add_assoc]

/-- A position further on is more bytes further on. -/
theorem byteLength_take_lt {left right : Nat} (ascends : left < right)
    (inside : left < text.length) :
    byteLength (text.take left) < byteLength (text.take right) := by
  obtain ⟨between, rfl⟩ := Nat.exists_eq_add_of_lt ascends
  have wide : 0 < text[left].utf8Size := text[left].utf8Size_pos
  rw [Nat.add_right_comm, List.take_add, List.take_succ_eq_append_getElem inside,
    byteLength_append, byteLength_append, byteLength_cons]
  omega

/-- Places are listed in ascending order. -/
theorem pairwise_placesFrom (depth : Nat) (character : Char) (text : List Char) :
    (placesFrom depth character text).Pairwise (· < ·) :=
  List.pairwise_lt_range.filter _

/-- A text is its only part exactly if it has no separator at depth zero. -/
theorem parts_splitBalanced_eq_singleton_iff (isSeparator : ¬IsBrace separator) :
    (splitBalanced separator text).parts = [text] ↔ IsUncut separator text := by
  rw [parts_splitBalanced]
  exact ⟨fun alone => (splitFrom_uncut isSeparator alone).1, splitFrom_uncut_eq⟩

/-- Joined parts have a separator in front of each but the first. -/
theorem intercalate_cons (separator : Char) (head : List Char) (tail : List (List Char)) :
    [separator].intercalate (head :: tail) = head ++ tail.flatMap (separator :: ·) := by
  induction tail generalizing head with
  | nil => simp
  | cons next tail inductionHypothesis =>
      rw [List.intercalate_cons_cons, inductionHypothesis, List.flatMap_cons, List.append_assoc]
      rfl

end Places

/-- What the parts and the stray braces of a text are, where it is cut at its top-level
separators. -/
structure IsTopLevelCut (separator : Char) (text : List Char) (split : Split) : Prop where
  /-- The parts, joined by the separator, are the text. -/
  joined : [separator].intercalate split.parts = text
  length : split.parts.length = (topLevelPlaces separator text).length + 1
  /-- No part is cut again. -/
  alone : ∀ part ∈ split.parts, (splitBalanced separator part).parts = [part]
  closed : ∀ part ∈ split.parts.dropLast, finalDepth 0 part = 0
  /-- The stray braces are the closing braces at depth zero, by the bytes before them. -/
  strays : split.unbalanced =
    (topLevelPlaces '}' text).map fun place => byteLength (text.take place)
  ascending : split.unbalanced.Pairwise (· < ·)

/-- A text is cut exactly at its separators of depth zero, and parts that are not cut themselves and
end at depth zero, but for the last one, are the parts of the text they make up. -/
theorem splitBalanced_isTopLevelCut (separator : Char) (isSeparator : ¬IsBrace separator) :
    (∀ text, IsTopLevelCut separator text (splitBalanced separator text)) ∧
      ∀ parts ≠ [], (∀ part ∈ parts, (splitBalanced separator part).parts = [part]) →
        (∀ part ∈ parts.dropLast, finalDepth 0 part = 0) →
          (splitBalanced separator ([separator].intercalate parts)).parts = parts := by
  constructor
  · intro text
    obtain ⟨head, tail, parts⟩ := List.exists_cons_of_ne_nil (splitFrom_ne_nil separator 0 text)
    have partsEq : (splitBalanced separator text).parts = head :: tail :=
      (parts_splitBalanced separator text).trans parts
    have strays : (splitBalanced separator text).unbalanced =
        (topLevelPlaces '}' text).map fun place => byteLength (text.take place) := by
      rw [unbalanced_splitBalanced, strayOffsets, strayOffsetsFrom_eq_map]
      simp only [Nat.zero_add]
      rfl
    refine ⟨?joined, ?length, ?alone, ?closed, strays, ?ascending⟩
    case joined => rw [partsEq, intercalate_cons, ← splitFrom_join parts]
    case length => exact partsEq ▸ parts ▸ length_splitFrom isSeparator 0 text
    case alone =>
      rw [partsEq]
      obtain ⟨headUncut, tailUncut⟩ := splitFrom_uncut isSeparator parts
      exact List.forall_mem_cons.mpr
        ⟨(parts_splitBalanced_eq_singleton_iff isSeparator).mpr headUncut, fun part member =>
          (parts_splitBalanced_eq_singleton_iff isSeparator).mpr (tailUncut part member)⟩
    case closed =>
      rw [partsEq]
      exact forall_mem_dropLast_cons.mpr (splitFrom_closed parts)
    case ascending =>
      rw [strays, List.pairwise_map]
      refine (pairwise_placesFrom 0 '}' text).imp_of_mem fun {left right} member _ ascends => ?_
      have inside : left < text.length := List.mem_range.mp (List.mem_filter.mp member).1
      exact byteLength_take_lt ascends inside
  · intro parts nonempty alone closed
    obtain ⟨head, tail, rfl⟩ := List.exists_cons_of_ne_nil nonempty
    rw [parts_splitBalanced, intercalate_cons]
    -- Each part ends at depth zero, so that the separator behind it is at the top level.
    refine splitTopLevel_joined_of_closed isSeparator (fun part member => ?_) closed
    exact (parts_splitBalanced_eq_singleton_iff isSeparator).mp (alone part member)

/-- A stray brace, separators of three bytes inside and outside a group, an empty part, and a brace
that is never closed. -/
theorem splitBalanced_isTopLevelCut_wide :
    let text := "ü\x7d→{b→é}→→\x7bc→d".toList
    let parts := ["ü\x7d".toList, "{b→é}".toList, [], "\x7bc→d".toList]
    ¬IsBrace '→' ∧ topLevelPlaces '→' text = [2, 8, 9] ∧ IsTopLevelCut '→' text ⟨parts, [2]⟩ ∧
      (splitBalanced '→' (['→'].intercalate parts)).parts = parts := by
  intro text parts
  have isSeparator : ¬IsBrace '→' := by decide
  obtain ⟨cut, found⟩ := splitBalanced_isTopLevelCut '→' isSeparator
  have split : splitBalanced '→' text = ⟨parts, [2]⟩ := by rfl
  have isCut : IsTopLevelCut '→' text ⟨parts, [2]⟩ := split ▸ cut text
  exact ⟨isSeparator, by decide, isCut, found parts (List.cons_ne_nil _ _) isCut.alone isCut.closed⟩

end MessageTemplate.Text
