import MessageTemplate.Character.Extending
import MessageTemplate.Character.Invisible

/-! # Quoted text

Messages quote the text they are about. Quotation marks, backslashes and everything a reader could
not see are written as escapes, so the quotation stays on one line. -/

namespace MessageTemplate.Text

open MessageTemplate.Character

/-- The escape of a character by its code point, as in `\u{301}`. -/
def codePointEscape (character : Char) : List Char :=
  "\\u\x7b".toList ++ Nat.toDigits 16 character.toNat ++ ['}']

/-- How a quotation writes one character. -/
def quotedChar (character : Char) : List Char :=
  if character = '"' then ['\\', '"']
  else if character = '\\' then ['\\', '\\']
  else if character = '\n' then ['\\', 'n']
  else if character = '\r' then ['\\', 'r']
  else if character = '\t' then ['\\', 't']
  else if character = '\x00' then ['\\', '0']
  else if isExtending character || isInvisible character then codePointEscape character
  else [character]

/-- The text between quotation marks. -/
def quoted (text : String) : String :=
  String.ofList ('"' :: text.toList.flatMap quotedChar ++ ['"'])

end MessageTemplate.Text
