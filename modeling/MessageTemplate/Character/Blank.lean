/-! # Blank characters

The characters with the Unicode property `White_Space`, and the removal of blanks at the ends of a
text. -/

namespace MessageTemplate.Character

/-- Whether a character is blank: a space, a line break or a tab of any script. -/
def isBlank (character : Char) : Bool :=
  let code := character.toNat
  (9 ≤ code && code ≤ 13) || code == 0x20 || code == 0x85 || code == 0xA0 || code == 0x1680 ||
    (0x2000 ≤ code && code ≤ 0x200A) || code == 0x2028 || code == 0x2029 || code == 0x202F ||
    code == 0x205F || code == 0x3000

/-- The text without the blanks at its start. -/
def dropBlanks (text : List Char) : List Char :=
  text.dropWhile isBlank

/-- The text without the blanks at its end. -/
def dropBlanksRight (text : List Char) : List Char :=
  (text.reverse.dropWhile isBlank).reverse

/-- The text without the blanks at either end. -/
def trimBlanks (text : List Char) : List Char :=
  dropBlanksRight (dropBlanks text)

end MessageTemplate.Character
