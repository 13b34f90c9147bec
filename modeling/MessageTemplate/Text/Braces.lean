import MessageTemplate.Text.Offset
import MessageTemplate.Text.Parts

/-! # Brace depth

Braces nest, and nothing else does. The depth of a text is counted from its left end; a closing
brace at depth zero closes nothing and leaves the depth at zero. -/

namespace MessageTemplate.Text

/-- The depth after a character met at depth `depth`. -/
def depthAfter (depth : Nat) (character : Char) : Nat :=
  if character = '{' then depth + 1
  else if character = '}' then depth - 1
  else depth

/-- The depth at the end of a text that starts at depth `depth`. -/
def finalDepth (depth : Nat) (text : List Char) : Nat :=
  text.foldl depthAfter depth

/-- The greatest depth met in a text that starts at depth `depth`. -/
def greatestDepth : (depth : Nat) → List Char → Nat
  | depth, [] => depth
  | depth, character :: rest => max depth (greatestDepth (depthAfter depth character) rest)

/-- The byte offsets of the closing braces that close nothing, in a text that starts at depth
`depth` and byte `offset`. -/
def strayOffsetsFrom : (depth offset : Nat) → List Char → List Nat
  | _, _, [] => []
  | depth, offset, character :: rest =>
      let later := strayOffsetsFrom (depthAfter depth character) (offset + character.utf8Size) rest
      if character = '}' ∧ depth = 0 then offset :: later else later

/-- The byte offsets of the closing braces that close nothing. -/
def strayOffsets (text : List Char) : List Nat :=
  strayOffsetsFrom 0 0 text

/-- Cuts a text that starts at depth `depth` at the separators of depth zero. A brace never
separates. -/
def splitFrom (separator : Char) : (depth : Nat) → List Char → List (List Char)
  | _, [] => [[]]
  | depth, character :: rest =>
      if character = separator ∧ depth = 0 ∧ character ≠ '{' ∧ character ≠ '}' then
        [] :: splitFrom separator depth rest
      else
        pushFront character (splitFrom separator (depthAfter depth character) rest)

/-- Cuts a text at its top-level separators. There is always at least one part, and empty parts are
kept. -/
def splitTopLevel (separator : Char) (text : List Char) : List (List Char) :=
  splitFrom separator 0 text

/-- What cutting a text gives: its parts, and the byte offsets of the closing braces that close
nothing. -/
structure Split where
  parts : List (List Char)
  unbalanced : List Nat

/-- Puts a character in front of the first part. -/
def Split.pushFront (character : Char) (split : Split) : Split :=
  { split with parts := Text.pushFront character split.parts }

/-- Cuts a text that starts at depth `depth` and byte `offset`, and notes its stray braces on the
way. -/
def splitBalancedFrom (separator : Char) : (depth offset : Nat) → List Char → Split
  | _, _, [] => ⟨[[]], []⟩
  | depth, offset, character :: rest =>
      let later (depth : Nat) :=
        splitBalancedFrom separator depth (offset + character.utf8Size) rest
      if character = '{' then (later (depth + 1)).pushFront character
      else if character = '}' then
        match depth with
        | outer + 1 => (later outer).pushFront character
        | 0 =>
            let split := (later 0).pushFront character
            { split with unbalanced := offset :: split.unbalanced }
      else if character = separator ∧ depth = 0 then
        let split := later 0
        { split with parts := [] :: split.parts }
      else (later depth).pushFront character

/-- Cuts a text at its top-level separators and finds its stray braces, in one pass. -/
def splitBalanced (separator : Char) (text : List Char) : Split :=
  splitBalancedFrom separator 0 0 text

/-- The parts and the stray braces do not depend on each other, nor the stray braces on the
separator. -/
theorem splitBalancedFrom_eq (separator : Char) (depth offset : Nat) (text : List Char) :
    splitBalancedFrom separator depth offset text =
      ⟨splitFrom separator depth text, strayOffsetsFrom depth offset text⟩ := by
  induction text generalizing depth offset with
  | nil => rfl
  | cons character rest inductionHypothesis =>
      simp only [splitBalancedFrom, splitFrom, strayOffsetsFrom, inductionHypothesis]
      by_cases isOpen : character = '{'
      · subst isOpen
        simp [depthAfter, Split.pushFront]
      · by_cases isClose : character = '}'
        · subst isClose
          cases depth with
          | zero => simp [depthAfter, Split.pushFront]
          | succ outer => simp [depthAfter, Split.pushFront]
        · by_cases cuts : character = separator ∧ depth = 0
          · obtain ⟨rfl, rfl⟩ := cuts
            simp [depthAfter, isOpen, isClose]
          · have noCut : ¬(character = separator ∧ depth = 0 ∧ character ≠ '{' ∧
                character ≠ '}') := fun cut => cuts ⟨cut.1, cut.2.1⟩
            rw [if_neg isOpen, if_neg isClose, if_neg cuts, if_neg noCut]
            simp [depthAfter, isOpen, isClose, Split.pushFront]

@[simp] theorem parts_splitBalanced (separator : Char) (text : List Char) :
    (splitBalanced separator text).parts = splitTopLevel separator text :=
  congrArg Split.parts (splitBalancedFrom_eq separator 0 0 text)

@[simp] theorem unbalanced_splitBalanced (separator : Char) (text : List Char) :
    (splitBalanced separator text).unbalanced = strayOffsets text :=
  congrArg Split.unbalanced (splitBalancedFrom_eq separator 0 0 text)

/-- There is always a part, were it only an empty one. -/
theorem splitFrom_ne_nil (separator : Char) (depth : Nat) (text : List Char) :
    splitFrom separator depth text ≠ [] := by
  cases text with
  | nil => simp [splitFrom]
  | cons character rest =>
      rw [splitFrom]
      split
      · simp
      · exact pushFront_ne_nil _ _

end MessageTemplate.Text
