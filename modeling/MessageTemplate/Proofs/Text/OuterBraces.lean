import MessageTemplate.Proofs.Text.Depth

/-! # Outer braces

The outer braces of a text are those at depth zero, found by counting from the left and without
looking for partners. A group has one of them, its opening brace, and so has a brace that is never
closed, whatever its rest of the text: what follows an outer brace is the place where its partner is
looked for. -/

namespace MessageTemplate.Text

/-- A brace at depth zero. -/
structure OuterBrace where
  /-- The number of bytes before it. -/
  offset : Nat
  brace : Char
  /-- The text behind it. -/
  rest : List Char

/-- The outer braces of a text that starts at depth `depth` and byte `offset`. -/
def outerBracesFrom : (depth offset : Nat) → List Char → List OuterBrace
  | _, _, [] => []
  | depth, offset, character :: rest =>
      let later := outerBracesFrom (depthAfter depth character) (offset + character.utf8Size) rest
      if IsBrace character ∧ depth = 0 then ⟨offset, character, rest⟩ :: later else later

/-- The outer braces of a text. -/
def outerBraces (text : List Char) : List OuterBrace :=
  outerBracesFrom 0 0 text

/-- Whether a brace opens a group that the text behind it never closes. -/
def OuterBrace.IsUnclosed (outer : OuterBrace) : Prop :=
  outer.brace = '{' ∧ ∀ body rest, IsBalanced body → outer.rest ≠ body ++ '}' :: rest

variable {depth offset : Nat} {text body rest : List Char} {outer : OuterBrace}

/-- A character that is no brace is passed over. -/
theorem outerBracesFrom_plain {character : Char} (isPlain : ¬IsBrace character) (depth : Nat) :
    outerBracesFrom depth offset (character :: rest) =
      outerBracesFrom depth (offset + character.utf8Size) rest := by
  rw [outerBracesFrom, depthAfter_plain isPlain, if_neg fun outer => isPlain outer.1]

/-- Outside all groups, an opening brace is an outer one. -/
theorem outerBracesFrom_open (offset : Nat) (rest : List Char) :
    outerBracesFrom 0 offset ('{' :: rest) =
      ⟨offset, '{', rest⟩ :: outerBracesFrom (0 + 1) (offset + '{'.utf8Size) rest := by
  rw [outerBracesFrom, if_pos ⟨.inl rfl, rfl⟩]
  rfl

/-- Outside all groups, a closing brace is an outer one. -/
theorem outerBracesFrom_close (offset : Nat) (rest : List Char) :
    outerBracesFrom 0 offset ('}' :: rest) =
      ⟨offset, '}', rest⟩ :: outerBracesFrom 0 (offset + '}'.utf8Size) rest := by
  rw [outerBracesFrom, if_pos ⟨.inr rfl, rfl⟩]
  rfl

/-- Inside a group no brace is an outer one. -/
theorem outerBracesFrom_inside {character : Char} (depth : Nat) :
    outerBracesFrom (depth + 1) offset (character :: rest) =
      outerBracesFrom (depthAfter (depth + 1) character) (offset + character.utf8Size) rest := by
  rw [outerBracesFrom, if_neg fun outer => Nat.succ_ne_zero depth outer.2]

/-- There are no outer braces before the brace that closes the outermost group. -/
theorem outerBracesFrom_balanced (balanced : IsBalancedFrom depth body) (offset : Nat)
    (rest : List Char) :
    outerBracesFrom (depth + 1) offset (body ++ '}' :: rest) =
      outerBracesFrom 0 (offset + byteLength (body ++ ['}'])) rest := by
  induction body generalizing depth offset with
  | nil =>
      cases balanced
      rw [List.nil_append, outerBracesFrom_inside]
      rfl
  | cons character body inductionHypothesis =>
      rw [List.cons_append, outerBracesFrom_inside, depthAfter_add balanced.1,
        inductionHypothesis balanced.2, List.cons_append, byteLength_cons, Nat.add_assoc]

/-- The only outer brace of a group is the one that opens it. -/
theorem outerBracesFrom_group (balanced : IsBalanced body) (offset : Nat) (rest : List Char) :
    outerBracesFrom 0 offset ('{' :: body ++ '}' :: rest) =
      ⟨offset, '{', body ++ '}' :: rest⟩ ::
        outerBracesFrom 0 (offset + byteLength ('{' :: body ++ ['}'])) rest := by
  rw [List.cons_append, outerBracesFrom_open, outerBracesFrom_balanced balanced,
    List.cons_append, byteLength_cons, Nat.add_assoc]

/-- A text that never closes the group around it has no outer braces. -/
theorem outerBracesFrom_unclosed
    (never : ∀ inner rest, IsBalancedFrom depth inner → text ≠ inner ++ '}' :: rest)
    (offset : Nat) : outerBracesFrom (depth + 1) offset text = [] := by
  induction text generalizing depth offset with
  | nil => rfl
  | cons character later inductionHypothesis =>
      have closes : character = '}' → depth ≠ 0 := by
        rintro rfl rfl
        exact never [] later rfl rfl
      rw [outerBracesFrom_inside, depthAfter_add closes]
      refine inductionHypothesis (fun inner rest balanced isClosed => ?_) _
      exact never (character :: inner) rest ⟨closes, balanced⟩ (congrArg (character :: ·) isClosed)

/-- What follows an outer brace is found behind it. -/
theorem outerBracesFrom_after {before after : List OuterBrace}
    (found : outerBracesFrom depth offset text = before ++ outer :: after) :
    after = outerBracesFrom (depthAfter 0 outer.brace) (outer.offset + outer.brace.utf8Size)
      outer.rest := by
  induction text generalizing depth offset before with
  | nil => cases before <;> cases found
  | cons character rest inductionHypothesis =>
      rw [outerBracesFrom] at found
      split at found
      · next isOuter =>
          obtain ⟨-, rfl⟩ := isOuter
          cases before with
          | nil =>
              cases found
              rfl
          | cons first others => exact inductionHypothesis (List.cons.inj found).2
      · exact inductionHypothesis found

/-- Nothing that follows a brace that is never closed is an outer brace. -/
theorem OuterBrace.IsUnclosed.last {before after : List OuterBrace} (isUnclosed : outer.IsUnclosed)
    (found : outerBraces text = before ++ outer :: after) : after = [] := by
  obtain ⟨isOpen, never⟩ := isUnclosed
  have opened : depthAfter 0 '{' = 0 + 1 := rfl
  rw [outerBracesFrom_after found, isOpen, opened]
  exact outerBracesFrom_unclosed never _

/-! ## Offsets -/

/-- Outer braces stand behind where the search for them started. -/
theorem le_offset_of_mem_outerBracesFrom (member : outer ∈ outerBracesFrom depth offset text) :
    offset ≤ outer.offset := by
  induction text generalizing depth offset with
  | nil => cases member
  | cons character rest inductionHypothesis =>
      have fromRest {next : Nat}
          (later : outer ∈ outerBracesFrom next (offset + character.utf8Size) rest) :
          offset ≤ outer.offset :=
        Nat.le_trans (Nat.le_add_right ..) (inductionHypothesis later)
      rw [outerBracesFrom] at member
      split at member
      · rcases List.mem_cons.mp member with rfl | later
        · exact Nat.le_refl offset
        · exact fromRest later
      · exact fromRest member

/-- Outer braces are listed from left to right. -/
theorem pairwise_outerBracesFrom (depth offset : Nat) (text : List Char) :
    (outerBracesFrom depth offset text).Pairwise fun earlier later =>
      earlier.offset < later.offset := by
  induction text generalizing depth offset with
  | nil => exact .nil
  | cons character rest inductionHypothesis =>
      rw [outerBracesFrom]
      split
      · refine .cons (fun outer member => ?_) (inductionHypothesis _ _)
        have wide : 0 < character.utf8Size := character.utf8Size_pos
        exact Nat.lt_of_lt_of_le (Nat.lt_add_of_pos_right wide)
          (le_offset_of_mem_outerBracesFrom member)
      · exact inductionHypothesis _ _

/-- The closing braces that close nothing are the outer braces that close. -/
theorem strayOffsetsFrom_eq (depth offset : Nat) (text : List Char) :
    strayOffsetsFrom depth offset text =
      ((outerBracesFrom depth offset text).filter (·.brace = '}')).map OuterBrace.offset := by
  induction text generalizing depth offset with
  | nil => rfl
  | cons character rest inductionHypothesis =>
      rw [strayOffsetsFrom, outerBracesFrom, inductionHypothesis]
      by_cases atTop : depth = 0
      · by_cases isClose : character = '}'
        · simp [atTop, isClose, IsBrace]
        · by_cases isOpen : character = '{'
          · simp [atTop, isOpen, IsBrace]
          · simp [isClose, isOpen, IsBrace]
      · simp [atTop]

end MessageTemplate.Text
