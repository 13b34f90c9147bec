import MessageTemplate.Proofs.Text.Balance

/-! # Texts by their bytes

A text as its bytes in UTF-8, and slices of it between byte offsets. A slice is checked: there is
none where an offset lies inside a character, behind the end of the text, or behind the offset that
ends the slice. `isSome_cut?_iff` says in terms of the bytes where a text can be cut. -/

namespace MessageTemplate.Checked

open MessageTemplate.Text

/-- The bytes of a text in UTF-8. -/
def bytesOf (text : List Char) : List UInt8 :=
  text.flatMap String.utf8EncodeChar

/-- The byte of `{`. -/
def openByte : UInt8 := 123

/-- The byte of `}`. -/
def closeByte : UInt8 := 125

/-- Whether a byte goes on with a character that began before it. -/
def isContinuation (byte : UInt8) : Bool :=
  decide (128 ≤ byte.toNat) && decide (byte.toNat < 192)

/-- Cuts a text at a byte offset. There is no cut inside a character or behind the end. -/
def cut? : List Char → (offset : Nat) → Option (List Char × List Char)
  | text, 0 => some ([], text)
  | [], _ + 1 => none
  | character :: rest, offset + 1 =>
      if character.utf8Size ≤ offset + 1 then
        (cut? rest (offset + 1 - character.utf8Size)).map fun (before, after) =>
          (character :: before, after)
      else none

/-- The part of a text between two byte offsets. -/
def slice? (text : List Char) (start stop : Nat) : Option (List Char) :=
  if start ≤ stop then do
    let (_, rest) ← cut? text start
    let (part, _) ← cut? rest (stop - start)
    return part
  else none

@[simp] theorem bytesOf_nil : bytesOf [] = [] := rfl

@[simp] theorem bytesOf_cons (character : Char) (rest : List Char) :
    bytesOf (character :: rest) = String.utf8EncodeChar character ++ bytesOf rest := rfl

/-- The bytes of texts follow one another. -/
@[simp] theorem bytesOf_append (left right : List Char) :
    bytesOf (left ++ right) = bytesOf left ++ bytesOf right :=
  List.flatMap_append

/-- A text has as many bytes as its offsets count. -/
@[simp] theorem length_bytesOf (text : List Char) : (bytesOf text).length = byteLength text := by
  induction text with
  | nil => rfl
  | cons character rest inductionHypothesis => simp [inductionHypothesis]

/-! ## Slices -/

/-- A text can be cut behind each of its beginnings. -/
theorem cut?_byteLength (before after : List Char) :
    cut? (before ++ after) (byteLength before) = some (before, after) := by
  induction before with
  | nil => simp [cut?]
  | cons character before inductionHypothesis =>
      obtain ⟨size, isSize⟩ := Nat.exists_eq_add_one.mpr character.utf8Size_pos
      have length : byteLength (character :: before) = size + byteLength before + 1 := by
        rw [byteLength_cons, isSize]
        omega
      have fits : character.utf8Size ≤ size + byteLength before + 1 := by omega
      have remaining : size + byteLength before + 1 - character.utf8Size = byteLength before := by
        omega
      rw [List.cons_append, length, cut?, if_pos fits, remaining, inductionHypothesis]
      rfl

/-- The offsets around a part of a text give this part. -/
theorem slice?_append (before part after : List Char) :
    slice? (before ++ part ++ after) (byteLength before) (byteLength before + byteLength part) =
      some part := by
  have first := cut?_byteLength before (part ++ after)
  have second := cut?_byteLength part after
  simp [slice?, first, second]

/-! ## The bytes of a character -/

variable {character : Char} {byte : UInt8}

/-- A character of one byte is that byte. The first byte of another is no character of its own, and
the rest go on with it. -/
theorem utf8EncodeChar_cases (character : Char) :
    (character.toNat < 128 ∧ String.utf8EncodeChar character = [UInt8.ofNat character.toNat]) ∨
      ∃ first later, String.utf8EncodeChar character = first :: later ∧ 192 ≤ first.toNat ∧
        ∀ byte ∈ later, isContinuation byte = true := by
  have bounded : character.val.toNat < 1114112 := by
    have valid := character.valid
    omega
  unfold String.utf8EncodeChar
  dsimp only
  split
  case isTrue small => exact .inl ⟨Nat.lt_succ_of_le small, rfl⟩
  case isFalse =>
    refine .inr ?_
    split
    case isTrue => refine ⟨_, _, rfl, ?_⟩; simp [isContinuation]; omega
    case isFalse =>
      split
      case isTrue => refine ⟨_, _, rfl, ?_⟩; simp [isContinuation]; omega
      case isFalse => refine ⟨_, _, rfl, ?_⟩; simp [isContinuation]; omega

/-- The first byte of a character does not go on with another. -/
theorem utf8EncodeChar_eq_cons (character : Char) :
    ∃ first later, String.utf8EncodeChar character = first :: later ∧
      isContinuation first = false ∧ ∀ byte ∈ later, isContinuation byte = true := by
  rcases utf8EncodeChar_cases character with ⟨small, single⟩ | ⟨first, later, bytes, great, goesOn⟩
  · refine ⟨_, [], single, ?_, by simp⟩
    simp [isContinuation]
    omega
  · exact ⟨first, later, bytes, by simp [isContinuation]; omega, goesOn⟩

/-- The bytes of braces are met nowhere but in braces. -/
theorem ne_brace_of_mem (notBrace : ¬IsBrace character)
    (member : byte ∈ String.utf8EncodeChar character) : byte ≠ openByte ∧ byte ≠ closeByte := by
  have great (byte : UInt8) (isGreat : 128 ≤ byte.toNat) : byte ≠ openByte ∧ byte ≠ closeByte := by
    constructor
    · rintro rfl
      exact absurd isGreat (by decide)
    · rintro rfl
      exact absurd isGreat (by decide)
  rcases utf8EncodeChar_cases character with
    ⟨small, single⟩ | ⟨first, later, bytes, atLeast, goesOn⟩
  · rw [single, List.mem_singleton] at member
    have value : byte.toNat = character.toNat := by
      rw [member, UInt8.toNat_ofNat']
      omega
    constructor
    · rintro rfl
      exact notBrace (.inl (Char.toNat_inj.mp value.symm))
    · rintro rfl
      exact notBrace (.inr (Char.toNat_inj.mp value.symm))
  · rw [bytes, List.mem_cons] at member
    rcases member with rfl | isLater
    · exact great _ (by omega)
    · have continues := goesOn byte isLater
      simp only [isContinuation, Bool.and_eq_true, decide_eq_true_eq] at continues
      exact great _ continues.1

/-! ## Where a text can be cut -/

/-- A text can be cut at its end and in front of each byte that does not go on with a character. -/
theorem isSome_cut?_iff (text : List Char) (offset : Nat) :
    (cut? text offset).isSome = true ↔
      offset = (bytesOf text).length ∨
        ∃ byte, (bytesOf text)[offset]? = some byte ∧ isContinuation byte = false := by
  induction text generalizing offset with
  | nil => cases offset <;> simp [cut?]
  | cons character rest inductionHypothesis =>
      obtain ⟨first, later, bytes, starts, goesOn⟩ := utf8EncodeChar_eq_cons character
      have size : character.utf8Size = later.length + 1 := by
        rw [← String.length_utf8EncodeChar, bytes, List.length_cons]
      rw [bytesOf_cons, bytes]
      cases offset with
      | zero => simp [cut?, starts]
      | succ offset =>
          rw [cut?, size]
          by_cases inside : offset < later.length
          · have noCut : ¬later.length + 1 ≤ offset + 1 := by omega
            have goesOnHere : isContinuation later[offset] = true :=
              goesOn _ (List.getElem_mem inside)
            rw [if_neg noCut]
            simp [List.getElem?_append_left, inside, goesOnHere]
            omega
          · have cut : later.length + 1 ≤ offset + 1 := by omega
            have later_le : (first :: later).length ≤ offset + 1 := cut
            rw [if_pos cut, Option.isSome_map, inductionHypothesis,
              List.getElem?_append_right later_le, List.length_append, List.length_cons]
            refine or_congr ?_ Iff.rfl
            omega

/-- There is no slice that ends inside a character, and one that ends behind it. -/
example : slice? ['a', 'é'] 0 2 = none ∧ slice? ['a', 'é'] 1 3 = some ['é'] := by decide

end MessageTemplate.Checked
