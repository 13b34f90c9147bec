import MessageTemplate.Yaml.Scalar

/-! # From text to tokens

The tokens of a YAML text. Columns open and close block collections, and a text before a colon turns
out to be a key only at the colon, so the token for a key is put in front of tokens that are already
read. Such a key must end on the line it starts on, within 1024 bytes. A byte order mark may start
any line, where it takes up a column. -/

namespace MessageTemplate.Yaml

/-- A place where a key may turn out to have started. -/
structure KeyPlace where
  /-- Whether nothing but a key can stand there. -/
  required : Bool
  /-- How many tokens were read before. -/
  position : Nat
  offset : Nat
  line : Nat
  column : Nat

/-- A tokenizer between two tokens. -/
structure Tokenizer where
  cursor : Cursor
  tokens : Array Token := #[]
  /-- The column of the innermost block collection, or -1 outside all of them. -/
  indent : Int := -1
  /-- The columns of the collections around it. -/
  outerIndents : List Int := []
  /-- Whether a key may start here. -/
  keyAllowed : Bool := true
  /-- The possible key of each open collection, where the first is outside all flow collections. -/
  keyPlace : Option KeyPlace := none
  /-- The possible keys of the flow collections around, the innermost first. -/
  outerKeyPlaces : List (Option KeyPlace) := []

namespace Tokenizer

/-- Whether a flow collection is open. -/
def inFlow (state : Tokenizer) : Bool :=
  !state.outerKeyPlaces.isEmpty

/-- Adds a token. -/
def emit (state : Tokenizer) (token : Token) : Tokenizer :=
  { state with tokens := state.tokens.push token }

/-- Puts a token in front of the tokens from `position` on. -/
def emitAt (state : Tokenizer) (position : Nat) (token : Token) : Tokenizer :=
  { state with
    tokens := (state.tokens.extract 0 position).push token ++
      state.tokens.extract position state.tokens.size }

/-- Moves over characters of one line. -/
def skip (state : Tokenizer) (count : Nat) : Tokenizer :=
  { state with cursor := state.cursor.skip count }

/-- Gives up the possible key of the innermost collection, unless it is required. -/
def dropKey? (state : Tokenizer) : Option Tokenizer :=
  match state.keyPlace with
  | some place => if place.required then none else some { state with keyPlace := none }
  | none => some state

/-- Notes that a key may start at the cursor. -/
def noteKey? (state : Tokenizer) : Option Tokenizer := do
  if !state.keyAllowed then return state
  let cursor := state.cursor
  let required := !state.inFlow && state.indent == (cursor.column : Int)
  let state ← state.dropKey?
  return { state with
    keyPlace := some
      ⟨required, state.tokens.size, cursor.offset, cursor.line, cursor.column⟩ }

/-- Whether a possible key is out of reach of the cursor. -/
def isStale (state : Tokenizer) (place : KeyPlace) : Bool :=
  place.line < state.cursor.line || place.offset + 1024 < state.cursor.offset

/-- Gives up a possible key that is out of reach, unless it is required. -/
def refreshKey? (state : Tokenizer) (place : Option KeyPlace) : Option (Option KeyPlace) :=
  match place with
  | some place =>
      if state.isStale place then (if place.required then none else some none)
      else some (some place)
  | none => some none

/-- Gives up all possible keys that are out of reach. -/
def refreshKeys? (state : Tokenizer) : Option Tokenizer := do
  let keyPlace ← state.refreshKey? state.keyPlace
  let outerKeyPlaces ← state.outerKeyPlaces.mapM state.refreshKey?
  return { state with keyPlace, outerKeyPlaces }

/-- Opens a block collection at a column right of the innermost one, with the given token in front
of the tokens from `position` on. -/
def openBlock (state : Tokenizer) (column position : Nat) (token : Token) : Tokenizer :=
  if !state.inFlow && state.indent < column then
    { state.emitAt position token with
      indent := column, outerIndents := state.indent :: state.outerIndents }
  else state

/-- Closes the block collections right of a column. -/
def closeBlocks (state : Tokenizer) (column : Int) : Tokenizer :=
  if state.inFlow then state else go state.outerIndents.length state
where
  /-- Closes at most `count` collections. -/
  go : (count : Nat) → Tokenizer → Tokenizer
    | 0, state => state
    | count + 1, state =>
        match state.outerIndents with
        | outer :: outerIndents =>
            if column < state.indent then
              go count { state.emit .blockEnd with indent := outer, outerIndents }
            else state
        | [] => state

/-- Moves over blanks, comments and line breaks to the next token, and over a byte order mark that
starts a line. Tabs are blanks only where no key may start. -/
def skipToToken : (fuel : Nat) → Tokenizer → Tokenizer
  | 0, state => state
  | fuel + 1, state =>
      let tabs := state.inFlow || !state.keyAllowed
      let cursor :=
        if state.cursor.column == 0 && state.cursor.sees 0 '\uFEFF' then state.cursor.skip 1
        else state.cursor
      let cursor := cursor.skipWhile fun character =>
        character == ' ' || (tabs && character == '\t')
      let cursor :=
        if cursor.sees 0 '#' then cursor.skipWhile fun character => !isBreak character else cursor
      if cursor.seesBreak 0 then
        skipToToken fuel
          { state with
            cursor := cursor.skipBreak, keyAllowed := state.keyAllowed || !state.inFlow }
      else { state with cursor }

/-- Ends the stream. -/
def endStream? (state : Tokenizer) : Option Tokenizer := do
  let state ← (state.closeBlocks (-1)).dropKey?
  return state.emit .streamEnd

/-- Reads `---` or `...`. -/
def readDocumentMark? (state : Tokenizer) (token : Token) : Option Tokenizer := do
  let state ← (state.closeBlocks (-1)).dropKey?
  return { (state.skip 3).emit token with keyAllowed := false }

/-- Reads a whole number of at most nine digits. -/
def readVersionPart? (cursor : Cursor) : Option (Nat × Cursor) :=
  let digits := cursor.takeWhile Char.isDigit
  if digits.isEmpty || 9 < digits.length then none
  else some (Decimal.naturalOf digits, cursor.skip digits.length)

/-- Reads a tag handle: `!`, `!!` or `!name!`. A directive does not take `!name`. -/
def readHandle? (directive : Bool) (cursor : Cursor) : Option (List Char × Cursor) :=
  if !cursor.sees 0 '!' then none
  else
    let name := (cursor.skip 1).takeWhile isNameChar
    let cursor := (cursor.skip 1).skip name.length
    if cursor.sees 0 '!' then some ('!' :: name ++ ['!'], cursor.skip 1)
    else if directive && !name.isEmpty then none
    else some ('!' :: name, cursor)

/-- Whether a character may be part of a tag. -/
def isTagChar (verbatim : Bool) (character : Char) : Bool :=
  isNameChar character || ";/?:@&=+$.%!~*'()".toList.contains character ||
    (verbatim && (character == ',' || character == '[' || character == ']'))

/-- The byte that a percent escape denotes. -/
def percentByte? : List Char → Option UInt8
  | '%' :: high :: low :: _ => do
      let high ← Decimal.digitValue? 16 high
      let low ← Decimal.digitValue? 16 low
      return (16 * high + low).toUInt8
  | _ => none

/-- How many bytes a character takes up that starts with the given byte. -/
def sequenceLength? (first : UInt8) : Option Nat :=
  if first < 0x80 then some 1
  else if first < 0xC0 then none
  else if first < 0xE0 then some 2
  else if first < 0xF0 then some 3
  else if first < 0xF8 then some 4
  else none

/-- Reads the percent escapes of `count` bytes inside a character. -/
def readInnerBytes? : (count : Nat) → List Char → Option (List UInt8 × List Char)
  | 0, text => some ([], text)
  | count + 1, text => do
      let byte ← percentByte? text
      if byte < 0x80 || 0xC0 ≤ byte then none
      let (later, rest) ← readInnerBytes? count (text.drop 3)
      return (byte :: later, rest)

/-- The bytes of a tag. Percent escapes come in sequences that are as long as the first byte of a
character says; whether they denote one is not looked at. -/
def tagBytes? : (fuel : Nat) → List Char → Option (List UInt8)
  | 0, _ => none
  | _ + 1, [] => some []
  | fuel + 1, character :: rest =>
      if character = '%' then do
        let first ← percentByte? (character :: rest)
        let length ← sequenceLength? first
        let (inner, rest) ← readInnerBytes? (length - 1) (rest.drop 2)
        let later ← tagBytes? fuel rest
        return first :: inner ++ later
      else do
        let later ← tagBytes? fuel rest
        return (String.singleton character).toUTF8.data.toList ++ later

/-- Reads the characters of a tag after the text `start`. There must be some. A zero byte ends the
tag. -/
def readTagText? (verbatim : Bool) (start : List Char) (cursor : Cursor) :
    Option (Tag × Cursor) := do
  let text := cursor.takeWhile (isTagChar verbatim)
  let bytes ← tagBytes? (text.length + 1) text
  if start.isEmpty && text.isEmpty then none
  let opening := (String.ofList (start.drop 1)).toUTF8.data.toList
  return (⟨(opening ++ bytes).takeWhile (· != 0)⟩, cursor.skip text.length)

/-- Reads a directive. -/
def readDirective? (state : Tokenizer) : Option Tokenizer := do
  let state ← (state.closeBlocks (-1)).dropKey?
  let cursor := state.cursor.skip 1
  let name := cursor.takeWhile isNameChar
  let cursor := cursor.skip name.length
  if name.isEmpty || !cursor.seesGap 0 then none
  let cursor := cursor.skipWhile isSpace
  let (token, cursor) ←
    match String.ofList name with
    | "YAML" => do
        let (major, cursor) ← readVersionPart? cursor
        if !cursor.sees 0 '.' then none
        let (minor, cursor) ← readVersionPart? (cursor.skip 1)
        some (Token.versionDirective major minor, cursor)
    | "TAG" => do
        let (handle, cursor) ← readHandle? true cursor
        if !cursor.seesSpace 0 then none
        let (start, cursor) ← readTagText? true [] (cursor.skipWhile isSpace)
        if !cursor.seesGap 0 then none
        some (Token.tagDirective (String.ofList handle) start, cursor)
    | _ => none
  let cursor := cursor.skipWhile isSpace
  let cursor :=
    if cursor.sees 0 '#' then cursor.skipWhile fun character => !isBreak character else cursor
  if !cursor.atEnd && !cursor.seesBreak 0 then none
  return { state.emit token with cursor := cursor.skipAnyBreak, keyAllowed := false }

/-- Reads the start of a flow collection. -/
def openFlow? (state : Tokenizer) (token : Token) : Option Tokenizer := do
  let state ← state.noteKey?
  return { (state.skip 1).emit token with
    keyAllowed := true
    keyPlace := none
    outerKeyPlaces := state.keyPlace :: state.outerKeyPlaces }

/-- Reads the end of a flow collection. -/
def closeFlow? (state : Tokenizer) (token : Token) : Option Tokenizer := do
  let state ← state.dropKey?
  let state := { (state.skip 1).emit token with keyAllowed := false }
  match state.outerKeyPlaces with
  | keyPlace :: outerKeyPlaces => return { state with keyPlace, outerKeyPlaces }
  | [] => return state

/-- Reads a comma between the entries of a flow collection. -/
def readFlowEntry? (state : Tokenizer) : Option Tokenizer := do
  let state ← state.dropKey?
  return { (state.skip 1).emit .flowEntry with keyAllowed := true }

/-- Reads the dash before an entry of a block sequence. -/
def readBlockEntry? (state : Tokenizer) : Option Tokenizer := do
  if !state.inFlow && !state.keyAllowed then none
  let state := state.openBlock state.cursor.column state.tokens.size .blockSequenceStart
  let state ← state.dropKey?
  return { (state.skip 1).emit .blockEntry with keyAllowed := true }

/-- Reads the question mark before a key. -/
def readKey? (state : Tokenizer) : Option Tokenizer := do
  if !state.inFlow && !state.keyAllowed then none
  let state := state.openBlock state.cursor.column state.tokens.size .blockMappingStart
  let state ← state.dropKey?
  return { (state.skip 1).emit .key with keyAllowed := !state.inFlow }

/-- Reads the colon before a value. -/
def readValue? (state : Tokenizer) : Option Tokenizer := do
  match state.keyPlace with
  | some place =>
      let state := (state.emitAt place.position .key).openBlock place.column place.position
        .blockMappingStart
      return { (state.skip 1).emit .value with keyPlace := none, keyAllowed := false }
  | none =>
      if !state.inFlow && !state.keyAllowed then none
      let state := state.openBlock state.cursor.column state.tokens.size .blockMappingStart
      return { (state.skip 1).emit .value with keyAllowed := !state.inFlow }

/-- Reads an alias or an anchor. -/
def readName? (state : Tokenizer) (token : String → Token) : Option Tokenizer := do
  let state ← state.noteKey?
  let cursor := state.cursor.skip 1
  let name := cursor.takeWhile isNameChar
  let cursor := cursor.skip name.length
  let ended := cursor.seesGap 0 || (cursor.peek 0).elim true "?:,]\x7d%@\x60".toList.contains
  if name.isEmpty || !ended then none
  return { state.emit (token (String.ofList name)) with cursor, keyAllowed := false }

/-- Reads a tag: `!<text>`, `!handle!text` or `!text`. -/
def readTag? (state : Tokenizer) : Option Tokenizer := do
  let state ← state.noteKey?
  let (token, cursor) ←
    if state.cursor.sees 1 '<' then do
      let (text, cursor) ← readTagText? true [] (state.cursor.skip 2)
      if !cursor.sees 0 '>' then none
      some (Token.tag "" text, cursor.skip 1)
    else do
      let (handle, cursor) ← readHandle? false state.cursor
      if 2 ≤ handle.length && handle.getLast? == some '!' then do
        let (text, cursor) ← readTagText? false [] cursor
        some (Token.tag (String.ofList handle) text, cursor)
      else do
        let (text, cursor) ← readTagText? false handle cursor
        if text.bytes.isEmpty then some (Token.tag "" (.ofText "!"), cursor)
        else some (Token.tag "!" text, cursor)
  if !cursor.seesGap 0 && !(state.inFlow && cursor.sees 0 ',') then none
  return { state.emit token with cursor, keyAllowed := false }

/-- Reads a block scalar. -/
def readBlockScalar? (state : Tokenizer) (literal : Bool) : Option Tokenizer := do
  let state ← state.dropKey?
  let (text, cursor) ← readBlock? literal state.indent state.cursor
  return { state.emit (.scalar text (if literal then .literal else .folded)) with
    cursor, keyAllowed := true }

/-- Reads a quoted scalar. -/
def readQuotedScalar? (state : Tokenizer) (single : Bool) : Option Tokenizer := do
  let state ← state.noteKey?
  let (text, cursor) ←
    readQuoted? single (state.cursor.rest.length + 1) [] (state.cursor.skip 1)
  return { state.emit (.scalar text (if single then .singleQuoted else .doubleQuoted)) with
    cursor, keyAllowed := false }

/-- Reads a plain scalar. A key may start on a line after it. -/
def readPlainScalar? (state : Tokenizer) : Option Tokenizer := do
  let state ← state.noteKey?
  let scalar ← readPlain? state.inFlow (state.indent + 1).toNat (state.cursor.rest.length + 1) []
    {} state.cursor
  return { state.emit (.scalar scalar.text .plain) with
    cursor := scalar.cursor, keyAllowed := scalar.broken }

/-- Whether a plain scalar may start at the cursor. -/
def startsPlain (state : Tokenizer) : Bool :=
  let cursor := state.cursor
  match cursor.peek 0 with
  | none => false
  | some first =>
      (!isSpace first && !isBreak first && !"-?:,[]\x7b\x7d#&*!|>'\"%@\x60".toList.contains first) ||
        (first == '-' && !cursor.seesSpace 1) ||
        (!state.inFlow && (first == '?' || first == ':') && !cursor.seesGap 1)

/-- Reads the next token, or the tokens that go with it. -/
def step? (state : Tokenizer) : Option Tokenizer := do
  let state ← (skipToToken (state.cursor.rest.length + 1) state).refreshKeys?
  let state := state.closeBlocks state.cursor.column
  let cursor := state.cursor
  match cursor.peek 0 with
  | none => state.endStream?
  | some first =>
      let indicator := !state.inFlow && cursor.seesGap 1
      if cursor.column == 0 && first == '%' then state.readDirective?
      else if cursor.seesDocumentMark '-' then state.readDocumentMark? .documentStart
      else if cursor.seesDocumentMark '.' then state.readDocumentMark? .documentEnd
      else if first == '[' then state.openFlow? .flowSequenceStart
      else if first == '{' then state.openFlow? .flowMappingStart
      else if first == ']' then state.closeFlow? .flowSequenceEnd
      else if first == '}' then state.closeFlow? .flowMappingEnd
      else if first == ',' then state.readFlowEntry?
      else if first == '-' && cursor.seesGap 1 then state.readBlockEntry?
      else if first == '?' && (state.inFlow || indicator) then state.readKey?
      else if first == ':' && (state.inFlow || indicator) then state.readValue?
      else if first == '*' then state.readName? .alias
      else if first == '&' then state.readName? .anchor
      else if first == '!' then state.readTag?
      else if first == '|' && !state.inFlow then state.readBlockScalar? true
      else if first == '>' && !state.inFlow then state.readBlockScalar? false
      else if first == '\'' then state.readQuotedScalar? true
      else if first == '"' then state.readQuotedScalar? false
      else if state.startsPlain then state.readPlainScalar?
      else none

/-- Reads tokens to the end of the stream. -/
def run? : (fuel : Nat) → Tokenizer → Option (List Token)
  | 0, _ => none
  | fuel + 1, state => do
      let state ← state.step?
      if state.tokens.back? == some .streamEnd then return state.tokens.toList
      else run? fuel state

end Tokenizer

/-- The tokens of a text, if it is well formed as far as tokens go. -/
def tokenize? (text : String) : Option (List Token) :=
  let characters := text.toList
  if characters.all isAllowed then
    Tokenizer.run? (characters.length + 2) { cursor := { rest := characters } }
  else none

end MessageTemplate.Yaml
