/-! # Ranges of characters

A character property is written down as the inclusive ranges of code points that have it. -/

namespace MessageTemplate.Character

/-- Whether a character lies in one of the inclusive ranges. -/
def inRanges (ranges : List (Nat × Nat)) (character : Char) : Bool :=
  ranges.any fun range => range.1 ≤ character.toNat && character.toNat ≤ range.2

end MessageTemplate.Character
