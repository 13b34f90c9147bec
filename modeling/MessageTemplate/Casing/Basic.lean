import MessageTemplate.Character.Blank
import MessageTemplate.Character.Cased
import MessageTemplate.Character.CaseIgnorable
import MessageTemplate.Casing.Lower
import MessageTemplate.Casing.Upper

/-! # Case mapping of whole texts

Upper case maps each character by itself. Lower case also looks around a capital sigma, which takes
its final form at the end of a word. The Turkic mappings pair `i` with `İ` and `ı` with `I`, and map
each character by itself in both directions. -/

namespace MessageTemplate.Casing

open MessageTemplate.Character

/-- Whether the first character that is not case-ignorable has a case. -/
def startsCased (text : List Char) : Bool :=
  match text.dropWhile isCaseIgnorable with
  | [] => false
  | character :: _ => isCased character

/-- The small form of a capital sigma between `before`, read backwards, and `after`. -/
def smallSigma (before after : List Char) : Char :=
  if startsCased before && !startsCased after then 'ς' else 'σ'

/-- Lower case of a text that follows `before`, read backwards. -/
def lowerAfter : (before text : List Char) → List Char
  | _, [] => []
  | before, character :: rest =>
      (if character = 'Σ' then [smallSigma before rest] else lowerChar character) ++
        lowerAfter (character :: before) rest

/-- Turkic upper case of a character. -/
def turkicUpperChar (character : Char) : List Char :=
  if character = 'i' then ['İ'] else if character = 'ı' then ['I'] else upperChar character

/-- Turkic lower case of a character. -/
def turkicLowerChar (character : Char) : List Char :=
  if character = 'I' then ['ı'] else if character = 'İ' then ['i'] else lowerChar character

/-- The upper-case form of a text. -/
def upper (turkic : Bool) (text : List Char) : List Char :=
  text.flatMap (if turkic then turkicUpperChar else upperChar)

/-- The lower-case form of a text. -/
def lower (turkic : Bool) (text : List Char) : List Char :=
  if turkic then text.flatMap turkicLowerChar else lowerAfter [] text

/-- Capitalizes the words of a text, where `atStart` tells that the next character begins a word. -/
def capitalizeFrom (turkic : Bool) : (atStart : Bool) → List Char → List Char
  | _, [] => []
  | atStart, character :: rest =>
      if isBlank character then
        character :: capitalizeFrom turkic true rest
      else if atStart then
        (if turkic then turkicUpperChar else upperChar) character ++
          capitalizeFrom turkic false rest
      else
        (if turkic then turkicLowerChar else lowerChar) character ++
          capitalizeFrom turkic false rest

/-- Upper case for the first character of each word between blanks, lower case for the others. -/
def capitalize (turkic : Bool) (text : List Char) : List Char :=
  capitalizeFrom turkic true text

end MessageTemplate.Casing
