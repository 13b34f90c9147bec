import MessageTemplate.Decimal.Reading
import MessageTemplate.Yaml.Token

/-! # Scalars of a YAML stream

Reading plain, quoted and block scalars at a cursor. A line break inside a flowing scalar becomes a
space, and each empty line after it a line break. -/

namespace MessageTemplate.Yaml

/-- Blanks met inside a scalar: spaces on one line, or a first line break and those after it. -/
structure Gap where
  spaces : List Char := []
  broken : Bool := false
  first : List Char := []
  later : List Char := []

/-- What a gap adds to a flowing scalar. -/
def Gap.text (gap : Gap) : List Char :=
  if gap.broken then
    if gap.first = ['\n'] then (if gap.later.isEmpty then [' '] else gap.later)
    else gap.first ++ gap.later
  else gap.spaces

/-- Reads the blanks at a cursor into a gap. In a plain scalar no tab may stand left of the
indentation `indent` on a further line. -/
def readGap? (indent : Option Nat) : (fuel : Nat) → Gap → Cursor → Option (Gap × Cursor)
  | 0, _, _ => none
  | fuel + 1, gap, cursor =>
      match cursor.rest with
      | [] => some (gap, cursor)
      | character :: _ =>
          if isSpace character then
            let violates := match indent with
              | some indent => gap.broken && cursor.column < indent && character == '\t'
              | none => false
            if violates then none
            else
              let gap := if gap.broken then gap
                else { gap with spaces := gap.spaces ++ [character] }
              readGap? indent fuel gap (cursor.skip 1)
          else if isBreak character then
            let gap := if gap.broken then { gap with later := gap.later ++ cursor.breakText }
              else { gap with spaces := [], broken := true, first := cursor.breakText }
            readGap? indent fuel gap cursor.skipBreak
          else some (gap, cursor)

/-- The character that a letter after a backslash stands for. -/
def escapeOf? : Char → Option Char
  | '0' => some '\x00'
  | 'a' => some '\x07'
  | 'b' => some '\x08'
  | 't' | '\t' => some '\t'
  | 'n' => some '\n'
  | 'v' => some '\x0b'
  | 'f' => some '\x0c'
  | 'r' => some '\r'
  | 'e' => some '\x1b'
  | ' ' => some ' '
  | '"' => some '"'
  | '/' => some '/'
  | '\\' => some '\\'
  | 'N' => some '\u0085'
  | '_' => some '\u00A0'
  | 'L' => some '\u2028'
  | 'P' => some '\u2029'
  | _ => none

/-- How many hexadecimal digits follow a letter after a backslash. -/
def escapeLength? : Char → Option Nat
  | 'x' => some 2
  | 'u' => some 4
  | 'U' => some 8
  | _ => none

/-- The character that hexadecimal digits denote. -/
def codePoint? (digits : List Char) (count : Nat) : Option Char := do
  if digits.length ≠ count then none
  let values ← digits.mapM (Decimal.digitValue? 16)
  let code := values.foldl (fun value digit => 16 * value + digit) 0
  if (0xD800 ≤ code && code ≤ 0xDFFF) || 0x10FFFF < code then none
  return Char.ofNat code

/-- Reads a run of a quoted scalar without blanks, up to a blank, the closing quotation mark, or an
escaped line break. Gives the characters in reverse, the cursor, and whether a break was escaped. -/
def readQuotedRun? (single : Bool) :
    (fuel : Nat) → (read : List Char) → Cursor → Option (List Char × Cursor × Bool)
  | 0, _, _ => none
  | fuel + 1, read, cursor =>
      if cursor.seesGap 0 then some (read, cursor, false)
      else if single && cursor.sees 0 '\'' && cursor.sees 1 '\'' then
        readQuotedRun? single fuel ('\'' :: read) (cursor.skip 2)
      else if cursor.sees 0 (if single then '\'' else '"') then some (read, cursor, false)
      else if !single && cursor.sees 0 '\\' then
        if cursor.seesBreak 1 then some (read, (cursor.skip 1).skipBreak, true)
        else do
          let letter ← cursor.peek 1
          match escapeLength? letter with
          | some count => do
              let character ← codePoint? ((cursor.rest.drop 2).take count) count
              readQuotedRun? single fuel (character :: read) (cursor.skip (2 + count))
          | none => do
              let character ← escapeOf? letter
              readQuotedRun? single fuel (character :: read) (cursor.skip 2)
      else do
        let character ← cursor.peek 0
        readQuotedRun? single fuel (character :: read) (cursor.skip 1)

/-- Reads a quoted scalar behind its opening quotation mark, after the characters `read`, which are
in reverse. -/
def readQuoted? (single : Bool) : (fuel : Nat) → (read : List Char) → Cursor →
    Option (String × Cursor)
  | 0, _, _ => none
  | fuel + 1, read, cursor =>
      if cursor.seesDocumentMark '-' || cursor.seesDocumentMark '.' || cursor.atEnd then none
      else do
        let (read, cursor, escapedBreak) ← readQuotedRun? single (cursor.rest.length + 1) read cursor
        if !escapedBreak && cursor.sees 0 (if single then '\'' else '"') then
          return (String.ofList read.reverse, cursor.skip 1)
        let (gap, cursor) ←
          readGap? none (cursor.rest.length + 1) { broken := escapedBreak } cursor
        readQuoted? single fuel (gap.text.reverse ++ read) cursor

/-- Whether a plain scalar ends at a cursor. -/
def endsPlain (flow : Bool) (cursor : Cursor) : Bool :=
  (cursor.sees 0 ':' && cursor.seesGap 1) ||
    (flow && (cursor.sees 0 ',' || cursor.sees 0 '[' || cursor.sees 0 ']' || cursor.sees 0 '{' ||
      cursor.sees 0 '}'))

/-- Whether a colon stands at a cursor that a plain scalar in a flow collection cannot hold. -/
def badColon (flow : Bool) (cursor : Cursor) : Bool :=
  flow && cursor.sees 0 ':' && (cursor.peek 1).elim false fun next =>
    next == ',' || next == '?' || next == '[' || next == ']' || next == '{' || next == '}'

/-- Reads a run of a plain scalar without blanks. Gives the characters in reverse. -/
def readPlainRun? (flow : Bool) :
    (fuel : Nat) → (read : List Char) → Cursor → Option (List Char × Cursor)
  | 0, _, _ => none
  | fuel + 1, read, cursor =>
      match cursor.rest with
      | [] => some (read, cursor)
      | character :: _ =>
          if isSpace character || isBreak character then some (read, cursor)
          else if badColon flow cursor then none
          else if endsPlain flow cursor then some (read, cursor)
          else readPlainRun? flow fuel (character :: read) (cursor.skip 1)

/-- A plain scalar that has been read. -/
structure PlainScalar where
  text : String
  cursor : Cursor
  /-- Whether a line break followed the scalar. -/
  broken : Bool

/-- Reads a plain scalar after the characters `read`, which are in reverse, and a gap. -/
def readPlain? (flow : Bool) (indent : Nat) : (fuel : Nat) → (read : List Char) → Gap → Cursor →
    Option PlainScalar
  | 0, _, _, _ => none
  | fuel + 1, read, gap, cursor =>
      let finished : PlainScalar := ⟨String.ofList read.reverse, cursor, gap.broken⟩
      if cursor.seesDocumentMark '-' || cursor.seesDocumentMark '.' || cursor.sees 0 '#' then
        some finished
      else do
        let (run, cursor) ← readPlainRun? flow (cursor.rest.length + 1) [] cursor
        let read := if run.isEmpty then read else run ++ gap.text.reverse ++ read
        let gap := if run.isEmpty then gap else {}
        if !cursor.seesSpace 0 && !cursor.seesBreak 0 then
          return ⟨String.ofList read.reverse, cursor, gap.broken⟩
        let (gap, cursor) ← readGap? (some indent) (cursor.rest.length + 1) gap cursor
        if !flow && cursor.column < indent then
          return ⟨String.ofList read.reverse, cursor, gap.broken⟩
        readPlain? flow indent fuel read gap cursor

/-- What becomes of the line breaks at the end of a block scalar. -/
inductive Chomping where
  | clip
  | strip
  | keep
deriving DecidableEq, Repr

/-- Reads the indicators behind `|` or `>`: chomping and indentation, in either order. -/
def readBlockHeader? (cursor : Cursor) : Option (Chomping × Nat × Cursor) :=
  let chomping? := fun (cursor : Cursor) =>
    if cursor.sees 0 '+' then some Chomping.keep
    else if cursor.sees 0 '-' then some Chomping.strip
    else none
  let digit? := fun (cursor : Cursor) =>
    (cursor.peek 0).bind fun character =>
      if character.isDigit then some (character.toNat - '0'.toNat) else none
  match chomping? cursor, digit? cursor with
  | some chomping, _ =>
      match digit? (cursor.skip 1) with
      | some 0 => none
      | some increment => some (chomping, increment, cursor.skip 2)
      | none => some (chomping, 0, cursor.skip 1)
  | none, some 0 => none
  | none, some increment =>
      match chomping? (cursor.skip 1) with
      | some chomping => some (chomping, increment, cursor.skip 2)
      | none => some (.clip, increment, cursor.skip 1)
  | none, none => some (.clip, 0, cursor)

/-- Reads the empty lines before a line of a block scalar. An indentation of zero is still to be
determined, so all spaces belong to it; `widest` is the widest seen. -/
def readEmptyLines? (indent : Nat) : (fuel widest : Nat) → (breaks : List Char) → Cursor →
    Option (Nat × List Char × Cursor)
  | 0, _, _, _ => none
  | fuel + 1, widest, breaks, cursor =>
      let spaces := (cursor.takeWhile (· == ' ')).length
      let cursor := cursor.skip (if indent = 0 then spaces else min spaces (indent - cursor.column))
      let widest := max widest cursor.column
      if (indent = 0 || cursor.column < indent) && cursor.sees 0 '\t' then none
      else if cursor.seesBreak 0 then
        readEmptyLines? indent fuel widest (breaks ++ cursor.breakText) cursor.skipBreak
      else some (widest, breaks, cursor)

/-- A block scalar while it is read: its text in reverse, the break after its last line, the empty
lines after that, and whether its last line started with a blank. -/
structure BlockText where
  read : List Char := []
  lineBreak : List Char := []
  emptyLines : List Char := []
  indented : Bool := false

/-- What separates the lines read so far from a next one. -/
def BlockText.separator (text : BlockText) (literal indented : Bool) : List Char :=
  let lineBreak :=
    if !literal && text.lineBreak = ['\n'] && !text.indented && !indented then
      (if text.emptyLines.isEmpty then [' '] else [])
    else text.lineBreak
  lineBreak ++ text.emptyLines

/-- Reads the lines of a block scalar with a known indentation. -/
def readBlockLines? (literal : Bool) (indent : Nat) : (fuel : Nat) → BlockText → Cursor →
    Option (BlockText × Cursor)
  | 0, _, _ => none
  | fuel + 1, text, cursor =>
      if cursor.column ≠ indent || cursor.atEnd then some (text, cursor)
      else do
        let indented := cursor.seesSpace 0
        let line := cursor.takeWhile fun character => !isBreak character
        let atBreak := cursor.skip line.length
        let read := line.reverse ++ (text.separator literal indented).reverse ++ text.read
        let (_, emptyLines, next) ←
          readEmptyLines? indent (cursor.rest.length + 1) 0 [] atBreak.skipAnyBreak
        readBlockLines? literal indent fuel
          { read, lineBreak := atBreak.breakText, emptyLines, indented } next

/-- Reads a block scalar at its indicator, inside a collection indented by `outer`. -/
def readBlock? (literal : Bool) (outer : Int) (cursor : Cursor) : Option (String × Cursor) := do
  let (chomping, increment, cursor) ← readBlockHeader? (cursor.skip 1)
  let cursor := cursor.skipWhile isSpace
  let cursor :=
    if cursor.sees 0 '#' then cursor.skipWhile fun character => !isBreak character else cursor
  if !cursor.atEnd && !cursor.seesBreak 0 then none
  let cursor := cursor.skipAnyBreak
  let fuel := cursor.rest.length + 2
  let given := if increment = 0 then 0 else (max outer 0).toNat + increment
  let (widest, emptyLines, cursor) ← readEmptyLines? given fuel 0 [] cursor
  let indent := if given = 0 then max (max widest (outer + 1).toNat) 1 else given
  let (text, cursor) ← readBlockLines? literal indent fuel { emptyLines } cursor
  let tail :=
    match chomping with
    | .strip => []
    | .clip => text.lineBreak
    | .keep => text.lineBreak ++ text.emptyLines
  return (String.ofList (text.read.reverse ++ tail), cursor)

end MessageTemplate.Yaml
