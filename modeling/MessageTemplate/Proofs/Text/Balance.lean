import MessageTemplate.Text.Braces

/-! # Balanced text and its parts

A text is balanced when its depth is never negative and zero at its end. `splitTopLevel` takes a
text apart without losing a character, and it takes a balanced text apart in the only way there is
into balanced parts without a separator outside braces: `splitTopLevel_parts` says that its parts
are such, and `splitTopLevel_joined` that such parts are found again. -/

namespace MessageTemplate.Text

/-- Whether a character opens or closes a group. -/
def IsBrace (character : Char) : Prop :=
  character = '{' ∨ character = '}'

instance : DecidablePred IsBrace := fun character =>
  inferInstanceAs (Decidable (character = '{' ∨ character = '}'))

/-- Whether a text that follows `depth` open braces closes each of them, and otherwise closes only
what it opens and opens only what it closes. -/
def IsBalancedFrom : (depth : Nat) → List Char → Prop
  | depth, [] => depth = 0
  | depth, character :: rest =>
      (character = '}' → depth ≠ 0) ∧ IsBalancedFrom (depthAfter depth character) rest

/-- Whether the depth of a text is never negative and zero at its end. -/
def IsBalanced (text : List Char) : Prop :=
  IsBalancedFrom 0 text

/-- Whether a text that follows `depth` open braces has no separator at depth zero. -/
def IsUncutFrom (separator : Char) : (depth : Nat) → List Char → Prop
  | _, [] => True
  | depth, character :: rest =>
      (character = separator → depth ≠ 0) ∧
        IsUncutFrom separator (depthAfter depth character) rest

/-- Whether a text has no separator outside its braces. -/
def IsUncut (separator : Char) (text : List Char) : Prop :=
  IsUncutFrom separator 0 text

instance decidableIsBalancedFrom :
    (depth : Nat) → (text : List Char) → Decidable (IsBalancedFrom depth text)
  | depth, [] => inferInstanceAs (Decidable (depth = 0))
  | depth, character :: rest =>
      have := decidableIsBalancedFrom (depthAfter depth character) rest
      inferInstanceAs (Decidable
        ((character = '}' → depth ≠ 0) ∧ IsBalancedFrom (depthAfter depth character) rest))

instance : DecidablePred IsBalanced := decidableIsBalancedFrom 0

instance decidableIsUncutFrom (separator : Char) :
    (depth : Nat) → (text : List Char) → Decidable (IsUncutFrom separator depth text)
  | _, [] => inferInstanceAs (Decidable True)
  | depth, character :: rest =>
      have := decidableIsUncutFrom separator (depthAfter depth character) rest
      inferInstanceAs (Decidable ((character = separator → depth ≠ 0) ∧
        IsUncutFrom separator (depthAfter depth character) rest))

instance (separator : Char) : DecidablePred (IsUncut separator) :=
  decidableIsUncutFrom separator 0

/-- A character that is no brace leaves the depth as it is. -/
theorem depthAfter_plain {character : Char} (plain : ¬IsBrace character) (depth : Nat) :
    depthAfter depth character = depth := by
  obtain ⟨notOpen, notClose⟩ := not_or.mp plain
  rw [depthAfter, if_neg notOpen, if_neg notClose]

section Balance

variable {depth : Nat} {plain left right rest text : List Char}

@[simp] theorem isBalancedFrom_cons {character : Char} :
    IsBalancedFrom depth (character :: rest) ↔
      (character = '}' → depth ≠ 0) ∧ IsBalancedFrom (depthAfter depth character) rest := Iff.rfl

/-- Characters that are no braces do not count. -/
theorem isBalancedFrom_plain_append (isPlain : ∀ character ∈ plain, ¬IsBrace character) :
    IsBalancedFrom depth (plain ++ rest) ↔ IsBalancedFrom depth rest := by
  induction plain with
  | nil => rfl
  | cons character plain inductionHypothesis =>
      have characterPlain : ¬IsBrace character := isPlain character List.mem_cons_self
      have notClose : character ≠ '}' := fun equal => characterPlain (.inr equal)
      have restPlain := fun other member => isPlain other (List.mem_cons_of_mem _ member)
      rw [List.cons_append, isBalancedFrom_cons, depthAfter_plain characterPlain,
        inductionHypothesis restPlain]
      simp [notClose]

/-- A text without braces is balanced. -/
theorem isBalanced_plain (isPlain : ∀ character ∈ plain, ¬IsBrace character) :
    IsBalanced plain := by
  have appended : IsBalancedFrom 0 (plain ++ []) ↔ IsBalancedFrom 0 [] :=
    isBalancedFrom_plain_append isPlain
  rw [List.append_nil] at appended
  exact appended.mpr rfl

/-- What is balanced may follow where all braces are closed. -/
theorem IsBalancedFrom.append (first : IsBalancedFrom depth left) (second : IsBalanced right) :
    IsBalancedFrom depth (left ++ right) := by
  induction left generalizing depth with
  | nil =>
      cases first
      exact second
  | cons character left inductionHypothesis =>
      exact ⟨first.1, inductionHypothesis first.2⟩

/-- Balanced texts one after the other, each with a separator in front, are balanced. -/
theorem isBalanced_flatMap_cons {separator : Char} (isSeparator : ¬IsBrace separator)
    {parts : List (List Char)} (balanced : ∀ part ∈ parts, IsBalanced part) :
    IsBalanced (parts.flatMap (separator :: ·)) := by
  induction parts with
  | nil => exact rfl
  | cons part parts inductionHypothesis =>
      have partBalanced := balanced part List.mem_cons_self
      have later := inductionHypothesis fun other member =>
        balanced other (List.mem_cons_of_mem _ member)
      have separated : IsBalanced (separator :: part) := by
        refine ⟨fun isClose => absurd (.inr isClose) isSeparator, ?_⟩
        rwa [depthAfter_plain isSeparator]
      exact separated.append later

/-- A closing brace of balanced text closes something. -/
theorem IsBalancedFrom.strayOffsetsFrom (balanced : IsBalancedFrom depth text) (offset : Nat) :
    strayOffsetsFrom depth offset text = [] := by
  induction text generalizing depth offset with
  | nil => rfl
  | cons character rest inductionHypothesis =>
      have noStray : ¬(character = '}' ∧ depth = 0) := fun stray => balanced.1 stray.1 stray.2
      simp only [Text.strayOffsetsFrom, if_neg noStray]
      exact inductionHypothesis balanced.2 _

/-- A text that closes the braces before it goes on to the brace that closes the outermost of
them. -/
theorem IsBalancedFrom.exists_close (balanced : IsBalancedFrom (depth + 1) text) :
    ∃ inner rest, text = inner ++ '}' :: rest ∧ IsBalancedFrom depth inner ∧
      IsBalanced rest := by
  induction text generalizing depth with
  | nil => exact absurd balanced (Nat.succ_ne_zero depth)
  | cons character rest inductionHypothesis =>
      obtain ⟨-, restBalanced⟩ := balanced
      by_cases isOpen : character = '{'
      · subst isOpen
        have inside : IsBalancedFrom (depth + 1 + 1) rest := restBalanced
        obtain ⟨inner, after, rfl, innerBalanced, afterBalanced⟩ := inductionHypothesis inside
        exact ⟨'{' :: inner, after, rfl, ⟨by simp, innerBalanced⟩, afterBalanced⟩
      · by_cases isClose : character = '}'
        · subst isClose
          cases depth with
          | zero => exact ⟨[], rest, rfl, rfl, restBalanced⟩
          | succ outer =>
              have inside : IsBalancedFrom (outer + 1) rest := restBalanced
              obtain ⟨inner, after, rfl, innerBalanced, afterBalanced⟩ := inductionHypothesis inside
              exact ⟨'}' :: inner, after, rfl, ⟨by simp, innerBalanced⟩, afterBalanced⟩
        · have isPlain : ¬IsBrace character := not_or.mpr ⟨isOpen, isClose⟩
          rw [depthAfter_plain isPlain] at restBalanced
          obtain ⟨inner, after, rfl, innerBalanced, afterBalanced⟩ :=
            inductionHypothesis restBalanced
          refine ⟨character :: inner, after, rfl, ⟨fun equal => absurd equal isClose, ?_⟩,
            afterBalanced⟩
          rwa [depthAfter_plain isPlain]

/-- Around a text that never closes more than `depth` braces, more open braces do not matter. -/
theorem depthAfter_add {character : Char} (closes : character = '}' → depth ≠ 0) (outer : Nat) :
    depthAfter (depth + outer) character = depthAfter depth character + outer := by
  unfold depthAfter
  split
  · omega
  · split
    · next isClose =>
        have positive := closes isClose
        omega
    · rfl

/-- One more closing brace closes one more open brace. -/
theorem IsBalancedFrom.close (balanced : IsBalancedFrom depth text) :
    IsBalancedFrom (depth + 1) (text ++ ['}']) := by
  induction text generalizing depth with
  | nil =>
      cases balanced
      exact ⟨fun _ => Nat.one_ne_zero, rfl⟩
  | cons character text inductionHypothesis =>
      refine ⟨fun _ => Nat.succ_ne_zero depth, ?_⟩
      rw [depthAfter_add balanced.1]
      exact inductionHypothesis balanced.2

/-- Balanced text in braces is balanced. -/
theorem isBalanced_group (balanced : IsBalanced text) : IsBalanced ('{' :: (text ++ ['}'])) :=
  ⟨nofun, balanced.close⟩

/-- A text closes the braces it is balanced after, and no other. -/
theorem IsBalancedFrom.finalDepth_add (balanced : IsBalancedFrom depth text) (outer : Nat) :
    finalDepth (depth + outer) text = outer := by
  induction text generalizing depth with
  | nil =>
      cases balanced
      exact Nat.zero_add outer
  | cons character rest inductionHypothesis =>
      have step : finalDepth (depth + outer) (character :: rest) =
          finalDepth (depthAfter (depth + outer) character) rest := rfl
      rw [step, depthAfter_add balanced.1, inductionHypothesis balanced.2]

/-- Balanced text ends outside all braces. -/
theorem IsBalanced.finalDepth (balanced : IsBalanced text) : finalDepth 0 text = 0 :=
  IsBalancedFrom.finalDepth_add balanced 0

/-- Induction along balanced text: a character outside all braces, or a group. -/
theorem IsBalanced.induction {motive : List Char → Prop} (nil : motive [])
    (plain : ∀ character rest, ¬IsBrace character → motive rest → motive (character :: rest))
    (group : ∀ body rest, IsBalanced body → motive rest → motive ('{' :: body ++ '}' :: rest))
    {text : List Char} (balanced : IsBalanced text) : motive text := by
  match text, balanced with
  | [], _ => exact nil
  | character :: rest, ⟨closes, restBalanced⟩ =>
      by_cases isOpen : character = '{'
      · subst isOpen
        have inside : IsBalancedFrom (0 + 1) rest := restBalanced
        obtain ⟨body, after, rfl, bodyBalanced, afterBalanced⟩ := inside.exists_close
        have shorter : after.length < ('{' :: (body ++ '}' :: after)).length := by
          simp
          omega
        exact group body after bodyBalanced (induction nil plain group afterBalanced)
      · have isPlain : ¬IsBrace character :=
          not_or.mpr ⟨isOpen, fun isClose => closes isClose rfl⟩
        rw [depthAfter_plain isPlain] at restBalanced
        exact plain character rest isPlain (induction nil plain group restBalanced)
termination_by text.length

end Balance

section Parts

variable {separator : Char} {depth : Nat} {plain text head rest : List Char}
  {tail : List (List Char)}

@[simp] theorem isUncutFrom_nil : IsUncutFrom separator depth [] ↔ True := Iff.rfl

@[simp] theorem isUncutFrom_cons {character : Char} :
    IsUncutFrom separator depth (character :: rest) ↔
      (character = separator → depth ≠ 0) ∧
        IsUncutFrom separator (depthAfter depth character) rest := Iff.rfl

/-- Characters that are neither braces nor separators do not count. -/
theorem isUncutFrom_plain_append
    (isPlain : ∀ character ∈ plain, ¬IsBrace character ∧ character ≠ separator) :
    IsUncutFrom separator depth (plain ++ rest) ↔ IsUncutFrom separator depth rest := by
  induction plain with
  | nil => rfl
  | cons character plain inductionHypothesis =>
      obtain ⟨characterPlain, notSeparator⟩ := isPlain character List.mem_cons_self
      have restPlain := fun other member => isPlain other (List.mem_cons_of_mem _ member)
      rw [List.cons_append, isUncutFrom_cons, depthAfter_plain characterPlain,
        inductionHypothesis restPlain]
      simp [notSeparator]

/-- A text without braces and separators is uncut. -/
theorem isUncut_plain
    (isPlain : ∀ character ∈ plain, ¬IsBrace character ∧ character ≠ separator) :
    IsUncut separator plain := by
  have appended : IsUncutFrom separator 0 (plain ++ []) ↔ IsUncutFrom separator 0 [] :=
    isUncutFrom_plain_append isPlain
  rw [List.append_nil] at appended
  exact appended.mpr trivial

/-- What is uncut may follow where all braces are closed. -/
theorem IsUncutFrom.append {left right : List Char} (first : IsUncutFrom separator depth left)
    (balanced : IsBalancedFrom depth left) (second : IsUncut separator right) :
    IsUncutFrom separator depth (left ++ right) := by
  induction left generalizing depth with
  | nil =>
      cases balanced
      exact second
  | cons character left inductionHypothesis =>
      exact ⟨first.1, inductionHypothesis first.2 balanced.2⟩

/-- Nothing cuts a text before the brace that closes it. -/
theorem IsBalancedFrom.isUncutFrom_close (balanced : IsBalancedFrom depth text) :
    IsUncutFrom separator (depth + 1) (text ++ ['}']) := by
  induction text generalizing depth with
  | nil => exact ⟨fun _ => Nat.succ_ne_zero depth, trivial⟩
  | cons character text inductionHypothesis =>
      refine ⟨fun _ => Nat.succ_ne_zero depth, ?_⟩
      rw [depthAfter_add balanced.1]
      exact inductionHypothesis balanced.2

/-- Balanced text in braces is uncut. -/
theorem isUncut_group (balanced : IsBalanced text) (isSeparator : ¬IsBrace separator) :
    IsUncut separator ('{' :: (text ++ ['}'])) :=
  ⟨fun isOpen => absurd (.inl isOpen.symm) isSeparator, balanced.isUncutFrom_close⟩

/-- Whole texts one after the other, each with another character in front, are uncut. -/
theorem isUncut_flatMap_cons {mark : Char} (isMark : ¬IsBrace mark) (apart : mark ≠ separator)
    {parts : List (List Char)}
    (whole : ∀ part ∈ parts, IsBalanced part ∧ IsUncut separator part) :
    IsUncut separator (parts.flatMap (mark :: ·)) := by
  induction parts with
  | nil => exact trivial
  | cons part parts inductionHypothesis =>
      obtain ⟨⟨partBalanced, partUncut⟩, others⟩ := List.forall_mem_cons.mp whole
      have marked : IsUncut separator ([mark] ++ part) :=
        (isUncutFrom_plain_append (List.forall_mem_singleton.mpr ⟨isMark, apart⟩)).mpr partUncut
      have markedBalanced : IsBalanced ([mark] ++ part) :=
        (isBalancedFrom_plain_append (List.forall_mem_singleton.mpr isMark)).mpr partBalanced
      exact marked.append markedBalanced (inductionHypothesis others)

/-- The first character of a text is a cut, or else the first character of the first part. -/
theorem splitFrom_cons_cases {character : Char}
    (parts : splitFrom separator depth (character :: rest) = head :: tail) :
    (character = separator ∧ depth = 0 ∧ ¬IsBrace character ∧ head = [] ∧
      ∃ first others, tail = first :: others ∧
        splitFrom separator 0 rest = first :: others) ∨
    (¬(character = separator ∧ depth = 0 ∧ ¬IsBrace character) ∧
      ∃ later, head = character :: later ∧
        splitFrom separator (depthAfter depth character) rest = later :: tail) := by
  rw [splitFrom] at parts
  split at parts
  case isTrue cut =>
      obtain ⟨isSeparator, rfl, notOpen, notClose⟩ := cut
      obtain ⟨rfl, rfl⟩ := List.cons.inj parts
      obtain ⟨first, others, restParts⟩ := List.exists_cons_of_ne_nil
        (splitFrom_ne_nil separator 0 rest)
      exact .inl ⟨isSeparator, rfl, not_or.mpr ⟨notOpen, notClose⟩, rfl,
        first, others, restParts, restParts⟩
  case isFalse noCut =>
      refine .inr ⟨fun cut => noCut ⟨cut.1, cut.2.1, not_or.mp cut.2.2⟩, ?_⟩
      cases restParts : splitFrom separator (depthAfter depth character) rest with
      | nil => exact absurd restParts (splitFrom_ne_nil _ _ _)
      | cons later others =>
          rw [restParts] at parts
          obtain ⟨rfl, rfl⟩ := List.cons.inj parts
          exact ⟨later, rfl, rfl⟩

/-- The parts of a text, joined by the separator, are the text. -/
theorem splitFrom_join (parts : splitFrom separator depth text = head :: tail) :
    text = head ++ tail.flatMap (separator :: ·) := by
  induction text generalizing depth head tail with
  | nil =>
      obtain ⟨rfl, rfl⟩ := List.cons.inj parts
      rfl
  | cons character rest inductionHypothesis =>
      rcases splitFrom_cons_cases parts with
        ⟨rfl, rfl, -, rfl, first, others, rfl, restParts⟩ | ⟨-, later, rfl, restParts⟩
      · rw [inductionHypothesis restParts]
        rfl
      · rw [inductionHypothesis restParts]
        rfl

/-- No part has a separator outside braces. -/
theorem splitFrom_uncut (isSeparator : ¬IsBrace separator)
    (parts : splitFrom separator depth text = head :: tail) :
    IsUncutFrom separator depth head ∧ ∀ part ∈ tail, IsUncut separator part := by
  induction text generalizing depth head tail with
  | nil =>
      obtain ⟨rfl, rfl⟩ := List.cons.inj parts
      simp
  | cons character rest inductionHypothesis =>
      rcases splitFrom_cons_cases parts with
        ⟨rfl, rfl, -, rfl, first, others, rfl, restParts⟩ | ⟨noCut, later, rfl, restParts⟩
      · obtain ⟨firstUncut, othersUncut⟩ := inductionHypothesis restParts
        exact ⟨trivial, List.forall_mem_cons.mpr ⟨firstUncut, othersUncut⟩⟩
      · obtain ⟨laterUncut, tailUncut⟩ := inductionHypothesis restParts
        refine ⟨⟨fun equal atTop => noCut ⟨equal, atTop, equal ▸ isSeparator⟩, laterUncut⟩,
          tailUncut⟩

/-- The parts of a balanced text are balanced. -/
theorem splitFrom_balanced (balanced : IsBalancedFrom depth text)
    (parts : splitFrom separator depth text = head :: tail) :
    IsBalancedFrom depth head ∧ ∀ part ∈ tail, IsBalanced part := by
  induction text generalizing depth head tail with
  | nil =>
      obtain ⟨rfl, rfl⟩ := List.cons.inj parts
      exact ⟨balanced, by simp⟩
  | cons character rest inductionHypothesis =>
      rcases splitFrom_cons_cases parts with
        ⟨rfl, rfl, plain, rfl, first, others, rfl, restParts⟩ | ⟨-, later, rfl, restParts⟩
      · have restBalanced : IsBalancedFrom 0 rest := by
          have after := balanced.2
          rwa [depthAfter_plain plain] at after
        obtain ⟨firstBalanced, othersBalanced⟩ := inductionHypothesis restBalanced restParts
        exact ⟨rfl, List.forall_mem_cons.mpr ⟨firstBalanced, othersBalanced⟩⟩
      · obtain ⟨laterBalanced, tailBalanced⟩ := inductionHypothesis balanced.2 restParts
        exact ⟨⟨balanced.1, laterBalanced⟩, tailBalanced⟩

/-- A text without separators outside braces is its only part. -/
theorem splitFrom_uncut_eq (uncut : IsUncutFrom separator depth text) :
    splitFrom separator depth text = [text] := by
  induction text generalizing depth with
  | nil => rfl
  | cons character rest inductionHypothesis =>
      have noCut : ¬(character = separator ∧ depth = 0 ∧ character ≠ '{' ∧ character ≠ '}') :=
        fun cut => uncut.1 cut.1 cut.2.1
      rw [splitFrom, if_neg noCut, inductionHypothesis uncut.2]
      rfl

/-- A text that ends at depth zero and has no separator there is the part before the next
separator. -/
theorem splitFrom_uncut_append (isSeparator : ¬IsBrace separator)
    (closed : finalDepth depth head = 0) (uncut : IsUncutFrom separator depth head) :
    splitFrom separator depth (head ++ separator :: rest) =
      head :: splitFrom separator 0 rest := by
  induction head generalizing depth with
  | nil =>
      have atTop : depth = 0 := closed
      obtain ⟨notOpen, notClose⟩ := not_or.mp isSeparator
      rw [List.nil_append, splitFrom, if_pos ⟨rfl, atTop, notOpen, notClose⟩, atTop]
  | cons character head inductionHypothesis =>
      have noCut : ¬(character = separator ∧ depth = 0 ∧ character ≠ '{' ∧ character ≠ '}') :=
        fun cut => uncut.1 cut.1 cut.2.1
      rw [List.cons_append, splitFrom, if_neg noCut, inductionHypothesis closed uncut.2]
      rfl

/-- The parts of a balanced text are balanced, have no separator outside braces, and make up the
text. -/
theorem splitTopLevel_parts (isSeparator : ¬IsBrace separator) (balanced : IsBalanced text)
    (parts : splitTopLevel separator text = head :: tail) :
    text = head ++ tail.flatMap (separator :: ·) ∧
      ∀ part ∈ head :: tail, IsBalanced part ∧ IsUncut separator part := by
  obtain ⟨headBalanced, tailBalanced⟩ := splitFrom_balanced balanced parts
  obtain ⟨headUncut, tailUncut⟩ := splitFrom_uncut isSeparator parts
  refine ⟨splitFrom_join parts, List.forall_mem_cons.mpr ⟨⟨headBalanced, headUncut⟩, ?_⟩⟩
  exact fun part member => ⟨tailBalanced part member, tailUncut part member⟩

/-- The parts of balanced text are balanced. -/
theorem isBalanced_of_mem_splitTopLevel (isSeparator : ¬IsBrace separator)
    (balanced : IsBalanced text) {part : List Char} (member : part ∈ splitTopLevel separator text) :
    IsBalanced part := by
  cases parts : splitTopLevel separator text with
  | nil => exact absurd parts (splitFrom_ne_nil _ _ _)
  | cons head tail =>
      rw [parts] at member
      exact ((splitTopLevel_parts isSeparator balanced parts).2 part member).1

/-- Parts without separators at depth zero, each of which but the last ends at depth zero, are the
parts of the text they make up. -/
theorem splitTopLevel_joined_of_closed (isSeparator : ¬IsBrace separator)
    (uncut : ∀ part ∈ head :: tail, IsUncut separator part)
    (closed : ∀ part ∈ (head :: tail).dropLast, finalDepth 0 part = 0) :
    splitTopLevel separator (head ++ tail.flatMap (separator :: ·)) = head :: tail := by
  induction tail generalizing head with
  | nil =>
      rw [List.flatMap_nil, List.append_nil]
      exact splitFrom_uncut_eq (uncut head List.mem_cons_self)
  | cons next tail inductionHypothesis =>
      obtain ⟨headUncut, othersUncut⟩ := List.forall_mem_cons.mp uncut
      rw [List.dropLast_cons_cons] at closed
      obtain ⟨headClosed, othersClosed⟩ := List.forall_mem_cons.mp closed
      rw [List.flatMap_cons, List.cons_append, splitTopLevel,
        splitFrom_uncut_append isSeparator headClosed headUncut]
      exact congrArg (head :: ·) (inductionHypothesis othersUncut othersClosed)

/-- Balanced parts without separators outside braces are the parts of the text they make up. -/
theorem splitTopLevel_joined (isSeparator : ¬IsBrace separator)
    (whole : ∀ part ∈ head :: tail, IsBalanced part ∧ IsUncut separator part) :
    splitTopLevel separator (head ++ tail.flatMap (separator :: ·)) = head :: tail :=
  splitTopLevel_joined_of_closed isSeparator (fun part member => (whole part member).2)
    fun part member => (whole part (List.dropLast_subset _ member)).1.finalDepth

end Parts

end MessageTemplate.Text
