/-! # Characters that consist of letters

Hangul syllables consist of a leading consonant, a vowel and perhaps a trailing consonant, and are
numbered by their parts. Three Kirat Rai vowels also consist of letters. Joining is the inverse of
taking apart. -/

namespace MessageTemplate.Folding

/-- The number of Hangul vowels. -/
def vowelCount : Nat := 21

/-- The number of Hangul trailing consonants, with none as the first. -/
def trailingCount : Nat := 28

/-- The number of Hangul syllables. -/
def syllableCount : Nat := 19 * vowelCount * trailingCount

/-- The letters that a character consists of. A character with no letters inside is its own part. -/
def letters (character : Char) : List Char :=
  let code := character.toNat
  if 0xAC00 ≤ code ∧ code < 0xAC00 + syllableCount then
    let index := code - 0xAC00
    let leading := Char.ofNat (0x1100 + index / (vowelCount * trailingCount))
    let vowel := Char.ofNat (0x1161 + index % (vowelCount * trailingCount) / trailingCount)
    let trailing := index % trailingCount
    if trailing = 0 then [leading, vowel]
    else [leading, vowel, Char.ofNat (0x11A7 + trailing)]
  else if code = 0x16D68 then [Char.ofNat 0x16D67, Char.ofNat 0x16D67]
  else if code = 0x16D69 then [Char.ofNat 0x16D63, Char.ofNat 0x16D67]
  else if code = 0x16D6A then [Char.ofNat 0x16D63, Char.ofNat 0x16D67, Char.ofNat 0x16D67]
  else [character]

/-- The character that consists of two neighbours, if there is one. -/
def join? (left right : Char) : Option Char :=
  let first := left.toNat
  let second := right.toNat
  if 0x1100 ≤ first ∧ first ≤ 0x1112 ∧ 0x1161 ≤ second ∧ second ≤ 0x1175 then
    some (Char.ofNat
      (0xAC00 + ((first - 0x1100) * vowelCount + (second - 0x1161)) * trailingCount))
  else if 0xAC00 ≤ first ∧ first < 0xAC00 + syllableCount ∧
      (first - 0xAC00) % trailingCount = 0 ∧ 0x11A8 ≤ second ∧ second ≤ 0x11C2 then
    some (Char.ofNat (first + (second - 0x11A7)))
  else if first = 0x16D67 ∧ second = 0x16D67 then some (Char.ofNat 0x16D68)
  else if first = 0x16D63 ∧ second = 0x16D67 then some (Char.ofNat 0x16D69)
  else if first = 0x16D69 ∧ second = 0x16D67 then some (Char.ofNat 0x16D6A)
  else none

/-- Joins `last` with the characters after it, as far as they go together. -/
def joinAfter : (last : Char) → List Char → List Char
  | last, [] => [last]
  | last, next :: rest =>
      match join? last next with
      | some joined => joinAfter joined rest
      | none => last :: joinAfter next rest

/-- Joins neighbours from the left as far as they go together. -/
def joinLetters : List Char → List Char
  | [] => []
  | first :: rest => joinAfter first rest

end MessageTemplate.Folding
