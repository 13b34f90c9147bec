import MessageTemplate.Proofs.Text.Balance

/-! # Greatest depth

The greatest depth of a text comes from the depths of its parts: balanced text does not change the
depth of what follows it, and a group is one deeper than what stands between its braces. Nothing is
said of text that follows an opening brace without its partner. -/

namespace MessageTemplate.Text

variable {depth : Nat} {left right body text part : List Char}

/-- A text is at least as deep as it starts. -/
theorem le_greatestDepth (depth : Nat) (text : List Char) : depth ≤ greatestDepth depth text := by
  cases text with
  | nil => exact Nat.le_refl depth
  | cons character rest => exact Nat.le_max_left ..

/-- Without braces, a text gets no deeper than it starts. -/
theorem greatestDepth_plain (isPlain : ∀ character ∈ text, ¬IsBrace character) (depth : Nat) :
    greatestDepth depth text = depth := by
  induction text with
  | nil => rfl
  | cons character text inductionHypothesis =>
      obtain ⟨characterPlain, textPlain⟩ := List.forall_mem_cons.mp isPlain
      rw [greatestDepth, depthAfter_plain characterPlain, inductionHypothesis textPlain,
        Nat.max_self]

/-- A text in two parts is as deep as the deeper of them, where the second starts at the depth that
the first ends at. -/
theorem greatestDepth_append (depth : Nat) (left right : List Char) :
    greatestDepth depth (left ++ right) =
      max (greatestDepth depth left) (greatestDepth (finalDepth depth left) right) := by
  induction left generalizing depth with
  | nil => exact (Nat.max_eq_right (le_greatestDepth depth right)).symm
  | cons character left inductionHypothesis =>
      rw [List.cons_append, greatestDepth, inductionHypothesis, greatestDepth, Nat.max_assoc]
      rfl

/-- The beginning of a text is no deeper than the whole. -/
theorem greatestDepth_le_append (depth : Nat) (left right : List Char) :
    greatestDepth depth left ≤ greatestDepth depth (left ++ right) := by
  rw [greatestDepth_append]
  exact Nat.le_max_left ..

/-- A text that closes no outer brace is as much deeper as it starts deeper. -/
theorem IsBalancedFrom.greatestDepth_add (balanced : IsBalancedFrom depth text) (outer : Nat) :
    greatestDepth (depth + outer) text = greatestDepth depth text + outer := by
  induction text generalizing depth with
  | nil => rfl
  | cons character rest inductionHypothesis =>
      rw [greatestDepth, depthAfter_add balanced.1, inductionHypothesis balanced.2, greatestDepth,
        Nat.add_max_add_right]

/-- What follows balanced text is as deep as it is alone. -/
theorem IsBalanced.greatestDepth_append (balanced : IsBalanced left) (right : List Char) :
    greatestDepth 0 (left ++ right) = max (greatestDepth 0 left) (greatestDepth 0 right) := by
  rw [Text.greatestDepth_append, balanced.finalDepth]

/-- A group is one deeper than what stands between its braces. -/
theorem greatestDepth_group (balanced : IsBalanced body) (rest : List Char) :
    greatestDepth 0 ('{' :: body ++ '}' :: rest) =
      max (greatestDepth 0 body + 1) (greatestDepth 0 rest) := by
  have opened : greatestDepth 0 ('{' :: body ++ '}' :: rest) =
      max 0 (greatestDepth (0 + 1) (body ++ '}' :: rest)) := rfl
  have closed : greatestDepth 1 ('}' :: rest) = max 1 (greatestDepth 0 rest) := rfl
  rw [opened, Nat.zero_max, Text.greatestDepth_append, balanced.greatestDepth_add,
    balanced.finalDepth_add, closed, ← Nat.max_assoc]
  congr 1
  exact Nat.max_eq_left (Nat.le_add_left ..)

/-- A text that follows balanced text is no deeper than the whole. -/
theorem IsBalanced.greatestDepth_le_append (balanced : IsBalanced left) (right : List Char) :
    greatestDepth 0 right ≤ greatestDepth 0 (left ++ right) := by
  rw [balanced.greatestDepth_append]
  exact Nat.le_max_right ..

/-- The parts of a balanced text are no deeper than the text. -/
theorem greatestDepth_le_of_mem_splitTopLevel {separator : Char} (isSeparator : ¬IsBrace separator)
    (balanced : IsBalanced text) (member : part ∈ splitTopLevel separator text) :
    greatestDepth 0 part ≤ greatestDepth 0 text := by
  cases parts : splitTopLevel separator text with
  | nil => exact absurd parts (splitFrom_ne_nil _ _ _)
  | cons head tail =>
      obtain ⟨joined, whole⟩ := splitTopLevel_parts isSeparator balanced parts
      rw [parts] at member
      rw [joined]
      rcases List.mem_cons.mp member with rfl | later
      · exact Text.greatestDepth_le_append ..
      · obtain ⟨earlier, others, rfl⟩ := List.append_of_mem later
        have headBalanced := (whole head List.mem_cons_self).1
        have earlierBalanced : IsBalanced (earlier.flatMap (separator :: ·)) :=
          isBalanced_flatMap_cons isSeparator fun other isEarlier =>
            (whole other (List.mem_cons_of_mem _ (List.mem_append_left _ isEarlier))).1
        have markBalanced : IsBalanced [separator] :=
          isBalanced_plain (List.forall_mem_singleton.mpr isSeparator)
        have before : IsBalanced
            (head ++ earlier.flatMap (separator :: ·) ++ [separator]) :=
          (headBalanced.append earlierBalanced).append markBalanced
        calc greatestDepth 0 part
            ≤ greatestDepth 0 (part ++ others.flatMap (separator :: ·)) :=
              Text.greatestDepth_le_append ..
          _ ≤ greatestDepth 0 (head ++ earlier.flatMap (separator :: ·) ++ [separator] ++
                (part ++ others.flatMap (separator :: ·))) :=
              before.greatestDepth_le_append _
          _ = greatestDepth 0
                (head ++ (earlier ++ part :: others).flatMap (separator :: ·)) := by simp

end MessageTemplate.Text
