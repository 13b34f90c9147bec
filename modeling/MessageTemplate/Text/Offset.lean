/-! # Byte offsets

Diagnostics point into a text by the number of UTF-8 bytes before a character. -/

namespace MessageTemplate.Text

/-- The number of bytes of a text in UTF-8. -/
def byteLength : List Char → Nat
  | [] => 0
  | character :: rest => character.utf8Size + byteLength rest

@[simp] theorem byteLength_nil : byteLength [] = 0 := rfl

@[simp] theorem byteLength_cons (character : Char) (rest : List Char) :
    byteLength (character :: rest) = character.utf8Size + byteLength rest := rfl

/-- Bytes of texts one after the other add up. -/
@[simp] theorem byteLength_append (left right : List Char) :
    byteLength (left ++ right) = byteLength left + byteLength right := by
  induction left with
  | nil => simp
  | cons character rest inductionHypothesis => simp [inductionHypothesis, Nat.add_assoc]

end MessageTemplate.Text
