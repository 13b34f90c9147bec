import MessageTemplate.Proofs.Checked.Text

/-! # Cutting a text by offsets

A text is cut at its top-level separators with nothing kept but byte offsets: where the part that is
being read starts, and where each character stands. `split?_eq` says that every slice this takes
exists and that the parts and stray braces are those of `Text.splitBalanced`. -/

namespace MessageTemplate.Checked

open MessageTemplate.Text

/-- What has been found of a text while it is cut. -/
structure Cutting where
  parts : List (List Char) := []
  unbalanced : List Nat := []
  depth : Nat := 0
  /-- The offset at which the part that is being read starts. -/
  start : Nat := 0

/-- The characters of a text that starts at byte `offset`, with their offsets. -/
def charIndicesFrom : (offset : Nat) → List Char → List (Nat × Char)
  | _, [] => []
  | offset, character :: rest =>
      (offset, character) :: charIndicesFrom (offset + character.utf8Size) rest

/-- Takes note of a character. -/
def cutStep? (separator : Char) (input : List Char) (cutting : Cutting) (indexed : Nat × Char) :
    Option Cutting :=
  let (index, character) := indexed
  if character = '{' then some { cutting with depth := cutting.depth + 1 }
  else if character = '}' then
    if 0 < cutting.depth then some { cutting with depth := cutting.depth - 1 }
    else some { cutting with unbalanced := cutting.unbalanced ++ [index] }
  else if character = separator ∧ cutting.depth = 0 then do
    let part ← slice? input cutting.start index
    return { cutting with
      parts := cutting.parts ++ [part], start := index + character.utf8Size }
  else some cutting

/-- Ends the last part. -/
def lastPart? (input : List Char) (cutting : Cutting) : Option Split := do
  let part ← slice? input cutting.start (bytesOf input).length
  return ⟨cutting.parts ++ [part], cutting.unbalanced⟩

/-- Cuts a text at its top-level separators. -/
def split? (separator : Char) (input : List Char) : Option Split :=
  (charIndicesFrom 0 input).foldlM (cutStep? separator input) {} >>= lastPart? input

/-- Puts text in front of the first of some parts. -/
def prepend (text : List Char) : List (List Char) → List (List Char)
  | [] => [text]
  | part :: parts => (text ++ part) :: parts

/-- Nothing in front of the first part changes no part. -/
theorem prepend_nil {parts : List (List Char)} (nonempty : parts ≠ []) :
    prepend [] parts = parts := by
  cases parts with
  | nil => exact absurd rfl nonempty
  | cons part parts => rfl

/-- A text in front of a character in front of the first part is one longer text there. -/
theorem prepend_pushFront (text : List Char) (character : Char) (parts : List (List Char)) :
    prepend text (pushFront character parts) = prepend (text ++ [character]) parts := by
  cases parts with
  | nil => rfl
  | cons part parts => simp [pushFront, prepend]

/-- There is always a part for the text at the end. -/
theorem parts_splitBalancedFrom_ne_nil {separator : Char} {depth offset : Nat} {text : List Char} :
    (splitBalancedFrom separator depth offset text).parts ≠ [] := by
  rw [splitBalancedFrom_eq]
  exact splitFrom_ne_nil separator depth text

/-- How far a text has been cut in front of a character. -/
structure Cut where
  /-- The text that has been cut off, with the separators behind its parts. -/
  early : List Char := []
  /-- The beginning of the part that is being read. -/
  pending : List Char := []
  parts : List (List Char) := []
  unbalanced : List Nat := []
  depth : Nat := 0

namespace Cut

/-- The text in front of the character. -/
def text (cut : Cut) : List Char :=
  cut.early ++ cut.pending

/-- What has been found in front of the character. -/
def cutting (cut : Cut) : Cutting :=
  ⟨cut.parts, cut.unbalanced, cut.depth, byteLength cut.early⟩

/-- Adds a character to the part that is being read, which is at a depth behind it. -/
def goOn (cut : Cut) (character : Char) (depth : Nat) : Cut :=
  { cut with pending := cut.pending ++ [character], depth }

/-- Adds a closing brace that closes nothing, and notes where it stands. -/
def noteStray (cut : Cut) : Cut :=
  { cut.goOn '}' 0 with unbalanced := cut.unbalanced ++ [byteLength cut.text] }

/-- Ends a part with a separator behind it. -/
def endPart (cut : Cut) (separator : Char) : Cut :=
  { cut with early := cut.text ++ [separator], pending := [], parts := cut.parts ++ [cut.pending] }

/-- What cutting a text gives where the rest of it is cut into the given parts. -/
def split (cut : Cut) (rest : Split) : Split :=
  ⟨cut.parts ++ prepend cut.pending rest.parts, cut.unbalanced ++ rest.unbalanced⟩

variable (cut : Cut)

/-- One more character has been read where the cut goes on. -/
theorem text_goOn (character : Char) (depth : Nat) :
    (cut.goOn character depth).text = cut.text ++ [character] := by
  simp [goOn, text]

/-- A stray brace has been read as well. -/
theorem text_noteStray : cut.noteStray.text = cut.text ++ ['}'] :=
  cut.text_goOn '}' 0

/-- The separator has been read where a part ends. -/
theorem text_endPart (separator : Char) :
    (cut.endPart separator).text = cut.text ++ [separator] := by
  simp [endPart, text]

/-- A character that continues the part may be counted to what has been read or to what follows. -/
theorem split_pushFront (character : Char) (depth : Nat) (rest : Split) :
    cut.split (rest.pushFront character) = (cut.goOn character depth).split rest := by
  rw [split, Split.pushFront, prepend_pushFront]
  rfl

/-- A stray brace may be counted to what has been read or to what follows. -/
theorem split_stray (rest : Split) :
    cut.split ⟨(rest.pushFront '}').parts,
        byteLength cut.text :: (rest.pushFront '}').unbalanced⟩ = cut.noteStray.split rest := by
  simp [split, Split.pushFront, prepend_pushFront, noteStray, goOn]

/-- A separator may be counted to what has been read or to what follows. -/
theorem split_separator {rest : Split} (nonempty : rest.parts ≠ []) (separator : Char) :
    cut.split { rest with parts := [] :: rest.parts } = (cut.endPart separator).split rest := by
  rw [split, split, endPart, prepend_nil nonempty]
  simp [prepend]

/-- The slice from the start of the part to where the cut stands is the part so far. -/
theorem slice?_pending (rest : List Char) :
    slice? (cut.text ++ rest) (byteLength cut.early) (byteLength cut.text) = some cut.pending := by
  have slice := slice?_append cut.early cut.pending rest
  rwa [← byteLength_append] at slice

/-- The slice at the end is the last part. -/
theorem lastPart?_cutting :
    lastPart? cut.text cut.cutting = some (cut.split ⟨[[]], []⟩) := by
  have slice := cut.slice?_pending []
  rw [List.append_nil] at slice
  simp [lastPart?, cutting, slice, split, prepend]

/-- A separator at the top is reached with a slice of the part in front of it. -/
theorem cutStep?_separator {separator : Char} (isPlain : ¬IsBrace separator)
    (atTop : cut.depth = 0) (rest : List Char) :
    cutStep? separator (cut.text ++ separator :: rest) cut.cutting
      (byteLength cut.text, separator) = some (cut.endPart separator).cutting := by
  obtain ⟨isOpen, isClose⟩ := not_or.mp isPlain
  have slice := cut.slice?_pending (separator :: rest)
  rw [cutStep?, if_neg isOpen, if_neg isClose]
  refine (if_pos ⟨rfl, atTop⟩).trans ?_
  simp [cutting, slice, endPart, atTop, byteLength_append]

/-- Every character takes a step, and the cut behind it gives what the cut in front of it gives. -/
theorem exists_step (separator character : Char) (rest : List Char) :
    ∃ next : Cut, next.text = cut.text ++ [character] ∧
      cutStep? separator (cut.text ++ character :: rest) cut.cutting
        (byteLength cut.text, character) = some next.cutting ∧
      cut.split
          (splitBalancedFrom separator cut.depth (byteLength cut.text) (character :: rest)) =
        next.split
          (splitBalancedFrom separator next.depth (byteLength cut.text + character.utf8Size)
            rest) := by
  simp only [splitBalancedFrom]
  by_cases isOpen : character = '{'
  · subst isOpen
    exact ⟨cut.goOn '{' (cut.depth + 1), cut.text_goOn .., rfl, cut.split_pushFront ..⟩
  · by_cases isClose : character = '}'
    · subst isClose
      rw [if_neg isOpen, if_pos rfl]
      cases atDepth : cut.depth with
      | zero =>
          refine ⟨cut.noteStray, cut.text_noteStray, ?_, cut.split_stray _⟩
          simp [cutStep?, cutting, noteStray, goOn, atDepth]
      | succ outer =>
          refine ⟨cut.goOn '}' outer, cut.text_goOn .., ?_, cut.split_pushFront ..⟩
          simp [cutStep?, cutting, goOn, atDepth]
    · rw [if_neg isOpen, if_neg isClose]
      by_cases cuts : character = separator ∧ cut.depth = 0
      · obtain ⟨rfl, atTop⟩ := cuts
        refine ⟨cut.endPart character, cut.text_endPart character,
          cut.cutStep?_separator (not_or.mpr ⟨isOpen, isClose⟩) atTop rest, ?_⟩
        rw [if_pos ⟨rfl, atTop⟩, show (cut.endPart character).depth = 0 from atTop]
        exact cut.split_separator (parts_splitBalancedFrom_ne_nil) character
      · rw [if_neg cuts]
        refine ⟨cut.goOn character cut.depth, cut.text_goOn .., ?_, cut.split_pushFront ..⟩
        rw [cutStep?, if_neg isOpen, if_neg isClose]
        exact if_neg cuts

end Cut

/-- Cutting the rest of a text finds the parts of the rest, the first of them behind the part that
is being read. -/
theorem foldlM_cutStep? (separator : Char) (rest : List Char) (cut : Cut) :
    (charIndicesFrom (byteLength cut.text) rest).foldlM (cutStep? separator (cut.text ++ rest))
        cut.cutting >>= lastPart? (cut.text ++ rest) =
      some (cut.split (splitBalancedFrom separator cut.depth (byteLength cut.text) rest)) := by
  induction rest generalizing cut with
  | nil =>
      rw [List.append_nil]
      exact cut.lastPart?_cutting
  | cons character rest inductionHypothesis =>
      obtain ⟨next, behind, taken, splits⟩ := cut.exists_step separator character rest
      have offset : byteLength (cut.text ++ [character]) =
          byteLength cut.text + character.utf8Size := byteLength_append cut.text [character]
      have later := inductionHypothesis next
      rw [behind, offset, List.append_assoc, List.singleton_append] at later
      rw [splits, charIndicesFrom, List.foldlM_cons, taken]
      exact later

/-- Every slice of the cutting exists, and the parts are those of the text. -/
theorem split?_eq (separator : Char) (input : List Char) :
    split? separator input = some (splitBalanced separator input) := by
  have cut := foldlM_cutStep? separator input {}
  have nonempty : (splitBalanced separator input).parts ≠ [] :=
    parts_splitBalancedFrom_ne_nil
  exact cut.trans (congrArg (fun parts => some (Split.mk parts _)) (prepend_nil nonempty))

end MessageTemplate.Checked
