import Mathlib.Data.List.DropRight
import MessageTemplate.Character.Blank

/-! # Blanks around a text

Trimming takes the blanks at both ends of a text and nothing else. So blanks that are put around a
text make no difference to it (`trimBlanks_append`), and it does not matter whether characters are
changed before or after it, as long as blanks are changed to blanks only (`trimBlanks_map`). -/

namespace MessageTemplate.Character

variable {character : Char} {before text after : List Char}

/-! ## Letters and digits -/

/-- The space is the last blank among the ASCII characters. -/
theorem isBlank_of_isPrintable (above : 0x20 < character.toNat) (below : character.toNat < 0x7F) :
    isBlank character = false := by
  simp only [isBlank, Bool.or_eq_false_iff, Bool.and_eq_false_iff, decide_eq_false_iff_not,
    beq_eq_false_iff_ne]
  omega

/-- No digit is blank. -/
theorem isBlank_of_isDigit (isDigit : character.isDigit = true) : isBlank character = false := by
  rw [Char.isDigit, Bool.and_eq_true, decide_eq_true_eq, decide_eq_true_eq] at isDigit
  have least : 48 ≤ character.toNat := isDigit.1
  have most : character.toNat ≤ 57 := isDigit.2
  exact isBlank_of_isPrintable (by omega) (by omega)

/-- No letter is blank. -/
theorem isBlank_of_isAlpha (isAlpha : character.isAlpha = true) : isBlank character = false := by
  rcases Bool.or_eq_true_iff.mp isAlpha with isUpper | isLower
  · have inRange : 65 ≤ character.toNat ∧ character.toNat ≤ 90 := of_decide_eq_true isUpper
    exact isBlank_of_isPrintable (by omega) (by omega)
  · obtain ⟨isLeast, isMost⟩ := Bool.and_eq_true_iff.mp isLower
    have least : 97 ≤ character.toNat := of_decide_eq_true isLeast
    have most : character.toNat ≤ 122 := of_decide_eq_true isMost
    exact isBlank_of_isPrintable (by omega) (by omega)

/-! ## Trimming -/

/-- Trimming takes blanks from both ends. -/
theorem exists_blanks (text : List Char) :
    ∃ before after, text = before ++ trimBlanks text ++ after ∧
      (∀ character ∈ before, isBlank character = true) ∧
      ∀ character ∈ after, isBlank character = true := by
  refine ⟨text.takeWhile isBlank, (dropBlanks text).rtakeWhile isBlank, ?_, ?_, ?_⟩
  · have right : trimBlanks text ++ (dropBlanks text).rtakeWhile isBlank = dropBlanks text :=
      List.rdropWhile_append_rtakeWhile
    rw [List.append_assoc, right]
    exact List.takeWhile_append_dropWhile.symm
  · exact fun _ => List.mem_takeWhile_imp
  · exact fun _ => List.mem_rtakeWhile_imp

/-- Nothing but blanks at its ends is taken from a text. -/
theorem trimBlanks_of_not_blank (notBlank : ∀ character ∈ text, isBlank character = false) :
    trimBlanks text = text := by
  have kept {text : List Char} (notBlank : ∀ character ∈ text, isBlank character = false) :
      text.dropWhile isBlank = text := by
    cases text with
    | nil => rfl
    | cons first rest => exact List.dropWhile_cons_of_neg (by simp [notBlank first])
  have reversed : ∀ character ∈ text.reverse, isBlank character = false := fun character member =>
    notBlank character (List.mem_reverse.mp member)
  rw [trimBlanks, dropBlanks, kept notBlank, dropBlanksRight, kept reversed, List.reverse_reverse]

/-- Blanks around a text make no difference. -/
theorem trimBlanks_append (blankBefore : ∀ character ∈ before, isBlank character = true)
    (blankAfter : ∀ character ∈ after, isBlank character = true) (text : List Char) :
    trimBlanks (before ++ text ++ after) = trimBlanks text := by
  rw [trimBlanks, dropBlanks, List.append_assoc, List.dropWhile_append_of_pos blankBefore,
    List.dropWhile_append]
  split
  case isTrue allBlank =>
    -- Of a text of blanks nothing is left, so that those behind it are the first to be met.
    rw [List.dropWhile_eq_nil_iff.mpr blankAfter, trimBlanks, dropBlanks,
      List.isEmpty_iff.mp allBlank]
  case isFalse =>
    have reversed : ∀ character ∈ after.reverse, isBlank character = true :=
      fun character member => blankAfter character (List.mem_reverse.mp member)
    rw [dropBlanksRight, List.reverse_append, List.dropWhile_append_of_pos reversed]
    rfl

/-- Characters can be changed after trimming instead of before it, where their change makes no
blanks and removes none. -/
theorem trimBlanks_map {change : Char → Char}
    (keepsBlanks : ∀ character, isBlank (change character) = isBlank character)
    (text : List Char) : trimBlanks (text.map change) = (trimBlanks text).map change := by
  have sameTest : isBlank ∘ change = isBlank := funext keepsBlanks
  simp only [trimBlanks, dropBlanks, dropBlanksRight, List.dropWhile_map, ← List.map_reverse,
    sameTest]

end MessageTemplate.Character
