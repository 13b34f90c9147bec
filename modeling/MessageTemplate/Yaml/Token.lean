import MessageTemplate.Text.Offset

/-! # YAML tokens

The tokens of a YAML stream, and the position of a reader in it. Indentation is turned into tokens
that open and close block collections, so that what comes after need not look at columns. -/

namespace MessageTemplate.Yaml

/-- How a scalar was written. -/
inductive ScalarStyle where
  | plain
  | singleQuoted
  | doubleQuoted
  | literal
  | folded
deriving DecidableEq, Repr

/-- A tag by its bytes. Percent escapes can spell bytes that are no text. -/
structure Tag where
  bytes : List UInt8
deriving DecidableEq, Repr, Inhabited

namespace Tag

/-- The tag that a text spells. -/
def ofText (text : String) : Tag :=
  ⟨text.toUTF8.data.toList⟩

/-- A tag behind the start that its handle stands for. -/
def append (start suffix : Tag) : Tag :=
  ⟨start.bytes ++ suffix.bytes⟩

end Tag

/-- The tokens of a stream. -/
inductive Token where
  | streamEnd
  | versionDirective (major minor : Nat)
  | tagDirective (handle : String) (start : Tag)
  | documentStart
  | documentEnd
  | blockSequenceStart
  | blockMappingStart
  | blockEnd
  | flowSequenceStart
  | flowSequenceEnd
  | flowMappingStart
  | flowMappingEnd
  | blockEntry
  | flowEntry
  | key
  | value
  | alias (name : String)
  | anchor (name : String)
  | tag (handle : String) (suffix : Tag)
  | scalar (text : String) (style : ScalarStyle)
deriving DecidableEq, Repr, Inhabited

/-- Whether a character ends a line. -/
def isBreak (character : Char) : Bool :=
  character == '\n' || character == '\r' || character == '\u0085' || character == '\u2028' ||
    character == '\u2029'

/-- Whether a character is a space or a tab. -/
def isSpace (character : Char) : Bool :=
  character == ' ' || character == '\t'

/-- Whether a character may be part of a name: an ASCII letter or digit, `_` or `-`. -/
def isNameChar (character : Char) : Bool :=
  character.isAlphanum || character == '_' || character == '-'

/-- Whether a character may occur in a stream. -/
def isAllowed (character : Char) : Bool :=
  let code := character.toNat
  code == 9 || code == 10 || code == 13 || (32 ≤ code && code ≤ 126) || code == 0x85 ||
    (0xA0 ≤ code && code ≤ 0xD7FF) || (0xE000 ≤ code && code ≤ 0xFFFD) || 0x10000 ≤ code

/-- A place in a stream, with the text from there on. -/
structure Cursor where
  rest : List Char
  /-- The number of bytes before the place. -/
  offset : Nat := 0
  line : Nat := 0
  column : Nat := 0

namespace Cursor

/-- The character `distance` places ahead. -/
def peek (cursor : Cursor) (distance : Nat) : Option Char :=
  cursor.rest[distance]?

/-- Whether a given character stands `distance` places ahead. -/
def sees (cursor : Cursor) (distance : Nat) (character : Char) : Bool :=
  cursor.peek distance == some character

/-- Whether the stream ends at the cursor. -/
def atEnd (cursor : Cursor) : Bool :=
  cursor.rest.isEmpty

/-- Whether a line break stands `distance` places ahead. -/
def seesBreak (cursor : Cursor) (distance : Nat) : Bool :=
  (cursor.peek distance).elim false isBreak

/-- Whether a space or a tab stands `distance` places ahead. -/
def seesSpace (cursor : Cursor) (distance : Nat) : Bool :=
  (cursor.peek distance).elim false isSpace

/-- Whether a word cannot go on `distance` places ahead. -/
def seesGap (cursor : Cursor) (distance : Nat) : Bool :=
  (cursor.peek distance).elim true fun character => isBreak character || isSpace character

/-- Moves over characters of one line. -/
def skip (cursor : Cursor) (count : Nat) : Cursor :=
  { cursor with
    rest := cursor.rest.drop count
    offset := cursor.offset + Text.byteLength (cursor.rest.take count)
    column := cursor.column + count }

/-- Moves over a line break. A carriage return and a line feed are one break. -/
def skipBreak (cursor : Cursor) : Cursor :=
  let count := if cursor.sees 0 '\r' && cursor.sees 1 '\n' then 2 else 1
  { rest := cursor.rest.drop count
    offset := cursor.offset + Text.byteLength (cursor.rest.take count)
    line := cursor.line + 1
    column := 0 }

/-- The text of the line break at the cursor. Only the Unicode separators stay as they are. -/
def breakText (cursor : Cursor) : List Char :=
  match cursor.rest with
  | '\u2028' :: _ => ['\u2028']
  | '\u2029' :: _ => ['\u2029']
  | character :: _ => if isBreak character then ['\n'] else []
  | [] => []

/-- Moves over the line break at the cursor, if there is one. -/
def skipAnyBreak (cursor : Cursor) : Cursor :=
  if cursor.seesBreak 0 then cursor.skipBreak else cursor

/-- The characters of one line ahead that a test accepts. -/
def takeWhile (cursor : Cursor) (test : Char → Bool) : List Char :=
  cursor.rest.takeWhile test

/-- Moves over the characters of one line that a test accepts. -/
def skipWhile (cursor : Cursor) (test : Char → Bool) : Cursor :=
  cursor.skip (cursor.takeWhile test).length

/-- Whether `---` or `...` stands at the start of a line as a word of its own. -/
def seesDocumentMark (cursor : Cursor) (mark : Char) : Bool :=
  cursor.column == 0 && cursor.sees 0 mark && cursor.sees 1 mark && cursor.sees 2 mark &&
    cursor.seesGap 3

end Cursor

end MessageTemplate.Yaml
