import MessageTemplate.Proofs.Checked.Split
import MessageTemplate.Proofs.Template.Segments

/-! # Reading a template by its bytes

A template is read with a cursor that goes over its bytes, from brace to brace, and with the offset
at which the literal text that is not yet put out starts. Braces are matched by counting. Every
slice is checked, and so is that the count is not lowered below zero. Where a piece of the template
starts, the scan is at a `Position`, and reading the piece leads to the position behind it. By
induction over pieces, `read?_eq` says that no check fails, that there are no more turns than bytes,
and that what is read is `Template.read`. -/

namespace MessageTemplate.Checked

open MessageTemplate.Text MessageTemplate.Template

/-- What has been read of a template. -/
structure Scan where
  cursor : Nat := 0
  /-- The offset at which the literal text before the cursor starts. -/
  literalStart : Nat := 0
  segments : List Segment := []
  diagnostics : List Diagnostic := []

/-- The index of the byte that closes the outermost of `depth` open braces, if there is one. The
depth cannot be lowered from zero. -/
def findClosing? : (depth index : Nat) → List UInt8 → Option (Option Nat)
  | _, _, [] => some none
  | depth, index, byte :: rest =>
      if byte = openByte then findClosing? (depth + 1) (index + 1) rest
      else if byte = closeByte then
        if depth = 0 then none
        else if depth - 1 = 0 then some (some index)
        else findClosing? (depth - 1) (index + 1) rest
      else findClosing? depth (index + 1) rest

/-- The problem of a group, given with its braces. -/
def problemIn (group : List Char) : GroupProblem → Problem
  | .reference text =>
      if text.toList.any Character.isBlank then .blankInReference (String.ofList group)
      else .notAReference (String.ofList group)
  | .operatorName name => .badOperatorName name (String.ofList group)

/-- Reads the parts of a group, given with its braces. -/
def readParts (group : List Char) (parts : List (List Char)) : Except Problem Substitution :=
  let referenceText := parts.headD []
  match Reference.read? referenceText with
  | none => .error (problemIn group (.reference (String.ofList referenceText)))
  | some reference =>
      match parts.tail.mapM OperatorCall.read with
      | .ok operators => .ok ⟨String.ofList group, reference, operators⟩
      | .error problem => .error (problemIn group problem)

/-- Puts out the literal text between two offsets, if there is any. -/
def pushLiteral? (source : List Char) (start stop : Nat) (segments : List Segment) :
    Option (List Segment) :=
  if start < stop then do
    let text ← slice? source start stop
    return segments ++ [.literal (String.ofList text)]
  else some segments

/-- Reads the group from the cursor to its closing brace. -/
def readGroup? (source : List Char) (scan : Scan) (close : Nat) : Option Scan := do
  let group ← slice? source scan.cursor (close + 1)
  let body ← slice? source (scan.cursor + 1) close
  let split ← split? operatorSeparator body
  match readParts group split.parts with
  | .ok substitution =>
      let segments ← pushLiteral? source scan.literalStart scan.cursor scan.segments
      return {
        scan with
        cursor := close + 1
        literalStart := close + 1
        segments := segments ++ [.substitution substitution] }
  | .error problem =>
      return {
        scan with
        cursor := close + 1
        diagnostics := scan.diagnostics ++ [⟨problem, some scan.cursor⟩] }

/-- Reads on from the byte at the cursor. -/
def scanStep? (source : List Char) (scan : Scan) : Option Scan := do
  let bytes := bytesOf source
  let byte ← bytes[scan.cursor]?
  if byte = openByte then
    match ← findClosing? 0 scan.cursor (bytes.drop scan.cursor) with
    | some close => readGroup? source scan close
    | none =>
        let rest ← slice? source scan.cursor bytes.length
        return {
          scan with
          cursor := bytes.length
          diagnostics := scan.diagnostics ++
            [⟨.unclosedGroup (String.ofList rest), some scan.cursor⟩] }
  else if byte = closeByte then
    return {
      scan with
      cursor := scan.cursor + 1
      diagnostics := scan.diagnostics ++ [⟨.strayBrace, some scan.cursor⟩] }
  else return { scan with cursor := scan.cursor + 1 }

/-- Reads to the end of a template, in no more than the given number of turns. -/
def scanAll? (source : List Char) : (turns : Nat) → Scan → Option Scan
  | 0, scan => if scan.cursor < (bytesOf source).length then none else some scan
  | turns + 1, scan =>
      if scan.cursor < (bytesOf source).length then do
        let next ← scanStep? source scan
        scanAll? source turns next
      else some scan

/-- Puts out the literal text at the end. -/
def finish? (source : List Char) (scan : Scan) : Option Template := do
  let segments ← pushLiteral? source scan.literalStart (bytesOf source).length scan.segments
  return ⟨String.ofList source, segments, scan.diagnostics⟩

/-- Reads a template. -/
def read? (text : String) : Option Template :=
  scanAll? text.toList (bytesOf text.toList).length {} >>= finish? text.toList

/-! ## Closing braces -/

/-- An opening brace goes one deeper. -/
theorem findClosing?_open (depth index : Nat) (rest : List UInt8) :
    findClosing? depth index (openByte :: rest) = findClosing? (depth + 1) (index + 1) rest := by
  rw [findClosing?, if_pos rfl]

/-- A closing brace that is not the sought one goes back by one level. -/
theorem findClosing?_close (depth index : Nat) (rest : List UInt8) :
    findClosing? (depth + 2) index (closeByte :: rest) =
      findClosing? (depth + 1) (index + 1) rest := by
  rw [findClosing?, if_neg (by decide), if_pos rfl, if_neg (by omega), if_neg (by omega)]
  rfl

/-- A character that is no brace is passed over. -/
theorem findClosing?_plain {character : Char} (isPlain : ¬IsBrace character) (depth index : Nat)
    (rest : List UInt8) :
    findClosing? depth index (String.utf8EncodeChar character ++ rest) =
      findClosing? depth (index + character.utf8Size) rest := by
  have plainBytes : ∀ byte ∈ String.utf8EncodeChar character, byte ≠ openByte ∧ byte ≠ closeByte :=
    fun byte member => ne_brace_of_mem isPlain member
  rw [← String.length_utf8EncodeChar]
  generalize String.utf8EncodeChar character = bytes at plainBytes
  induction bytes generalizing index with
  | nil => rfl
  | cons byte bytes inductionHypothesis =>
      obtain ⟨⟨notOpen, notClose⟩, later⟩ := List.forall_mem_cons.mp plainBytes
      rw [List.cons_append, findClosing?, if_neg notOpen, if_neg notClose,
        inductionHypothesis _ later, List.length_cons, Nat.add_right_comm, Nat.add_assoc]

/-- A text that closes the braces around it leads to the brace behind it. -/
theorem findClosing?_balanced {depth : Nat} {inner : List Char}
    (balanced : IsBalancedFrom depth inner) (index : Nat) (rest : List Char) :
    findClosing? (depth + 1) index (bytesOf (inner ++ '}' :: rest)) =
      some (some (index + byteLength inner)) := by
  induction inner generalizing depth index with
  | nil =>
      cases balanced
      rfl
  | cons character inner inductionHypothesis =>
      obtain ⟨closes, later⟩ := balanced
      rw [List.cons_append, bytesOf_cons, byteLength_cons, ← Nat.add_assoc]
      by_cases isOpen : character = '{'
      · subst isOpen
        have inside : IsBalancedFrom (depth + 1) inner := later
        exact (findClosing?_open _ _ _).trans (inductionHypothesis inside (index + 1))
      · by_cases isClose : character = '}'
        · subst isClose
          obtain ⟨outer, rfl⟩ := Nat.exists_eq_succ_of_ne_zero (closes rfl)
          have inside : IsBalancedFrom outer inner := later
          exact (findClosing?_close _ _ _).trans (inductionHypothesis inside (index + 1))
        · have isPlain : ¬IsBrace character := not_or.mpr ⟨isOpen, isClose⟩
          rw [depthAfter_plain isPlain] at later
          rw [findClosing?_plain isPlain]
          exact inductionHypothesis later _

/-- Where no brace closes the outermost group, none is found. -/
theorem findClosing?_unclosed {depth : Nat} {body text whole : List Char}
    (unclosed : Piece.scan (depth + 1) body text = [.unclosed whole]) (index : Nat) :
    findClosing? (depth + 1) index (bytesOf text) = some none := by
  induction text generalizing depth body index with
  | nil => rfl
  | cons character rest inductionHypothesis =>
      rw [bytesOf_cons]
      by_cases isOpen : character = '{'
      · subst isOpen
        simp only [Piece.scan, if_true] at unclosed
        exact (findClosing?_open _ _ _).trans (inductionHypothesis unclosed (index + 1))
      · by_cases isClose : character = '}'
        · subst isClose
          simp only [Piece.scan, if_neg isOpen, if_true] at unclosed
          cases depth with
          | zero => simp at unclosed
          | succ outer =>
              exact (findClosing?_close _ _ _).trans (inductionHypothesis unclosed (index + 1))
        · simp only [Piece.scan, if_neg isOpen, if_neg isClose] at unclosed
          rw [findClosing?_plain (not_or.mpr ⟨isOpen, isClose⟩)]
          exact inductionHypothesis unclosed _

/-! ## One turn -/

/-- The parts of a group are read to what the group is. -/
theorem readParts_eq (body : List Char) :
    readParts ('{' :: body ++ ['}']) (splitBalanced operatorSeparator body).parts =
      match Substitution.read body with
      | .ok substitution => .ok substitution
      | .error problem => .error (groupProblem body problem) := by
  obtain ⟨head, stages, parts⟩ := List.exists_cons_of_ne_nil
    (splitFrom_ne_nil operatorSeparator 0 body)
  have parts : splitTopLevel operatorSeparator body = head :: stages := parts
  rw [readParts, Substitution.read, parts_splitBalanced, parts]
  simp only [List.headD_cons, List.tail_cons]
  cases Reference.read? head with
  | none => rfl
  | some reference =>
      cases stages.mapM OperatorCall.read with
      | ok operators => rfl
      | error problem => cases problem <;> rfl

/-- Literal text is put out if it is not empty. -/
theorem pushLiteral?_append (before text after : List Char) (segments : List Segment) :
    pushLiteral? (before ++ text ++ after) (byteLength before)
      (byteLength before + byteLength text) segments = some (segments ++ withLiteral text []) := by
  rw [pushLiteral?, slice?_append]
  cases text with
  | nil => simp [withLiteral]
  | cons character rest =>
      have positive := character.utf8Size_pos
      rw [if_pos (by rw [byteLength_cons]; omega)]
      rfl

/-- A literal is put in front of the segments, if there is one. -/
theorem withLiteral_eq_append (text : List Char) (segments : List Segment) :
    withLiteral text segments = withLiteral text [] ++ segments := by
  cases text <;> rfl

section Turns

variable {source : List Char} {scan next : Scan} {byte : UInt8}

/-- A step is only taken from a byte, so it takes a turn. -/
theorem scanAll?_succ (step : scanStep? source scan = some next) (turns : Nat) :
    scanAll? source (turns + 1) scan = scanAll? source turns next := by
  have inside : scan.cursor < (bytesOf source).length := by
    refine Nat.lt_of_not_le fun isEnd => ?_
    simp [scanStep?, List.getElem?_eq_none isEnd] at step
  rw [scanAll?, if_pos inside, step]
  rfl

/-- At the end of the text nothing is left to scan. -/
theorem scanAll?_end (isEnd : scan.cursor = (bytesOf source).length) (turns : Nat) :
    scanAll? source turns scan = some scan := by
  cases turns with
  | zero => rw [scanAll?, if_neg (by omega)]
  | succ turns => rw [scanAll?, if_neg (by omega)]

/-- A byte that is no brace is passed over. -/
theorem scanStep?_plain (isByte : (bytesOf source)[scan.cursor]? = some byte)
    (notOpen : byte ≠ openByte) (notClose : byte ≠ closeByte) :
    scanStep? source scan = some { scan with cursor := scan.cursor + 1 } := by
  simp [scanStep?, isByte, notOpen, notClose]

/-- Bytes that are no braces are passed over, each in a turn. -/
theorem scanAll?_plain {before plain after : List UInt8}
    (plainBytes : ∀ byte ∈ plain, byte ≠ openByte ∧ byte ≠ closeByte)
    (bytes : bytesOf source = before ++ plain ++ after) (turns : Nat)
    (atPlain : scan.cursor = before.length) :
    scanAll? source (plain.length + turns) scan =
      scanAll? source turns { scan with cursor := scan.cursor + plain.length } := by
  induction plain generalizing before scan with
  | nil => simp
  | cons byte plain inductionHypothesis =>
      obtain ⟨⟨notOpen, notClose⟩, later⟩ := List.forall_mem_cons.mp plainBytes
      have isByte : (bytesOf source)[scan.cursor]? = some byte := by
        rw [bytes, atPlain]
        simp
      have atNext : ({ scan with cursor := scan.cursor + 1 } : Scan).cursor =
          (before ++ [byte]).length := by simp [atPlain]
      have remaining := inductionHypothesis later (by simpa using bytes) atNext
      rw [List.length_cons, Nat.add_right_comm,
        scanAll?_succ (scanStep?_plain isByte notOpen notClose), remaining, Nat.add_right_comm,
        Nat.add_assoc]

end Turns

/-! ## From piece to piece -/

/-- The bytes of a text begin behind those of what stands before it. -/
theorem drop_bytesOf (before after : List Char) :
    (bytesOf (before ++ after)).drop (byteLength before) = bytesOf after := by
  rw [bytesOf_append, ← length_bytesOf, List.drop_left]

/-- The byte at the end of what has been read is the first of the rest. -/
theorem getElem?_bytesOf (before after : List Char) :
    (bytesOf (before ++ after))[byteLength before]? = (bytesOf after)[0]? := by
  rw [bytesOf_append, ← length_bytesOf, List.getElem?_append_right (Nat.le_refl _), Nat.sub_self]

/-- How far a template has been read where a piece starts. -/
structure Position where
  /-- The text that has been put out. -/
  early : List Char := []
  /-- The literal text behind it, which is not yet put out. -/
  pending : List Char := []
  segments : List Segment := []
  diagnostics : List Diagnostic := []

namespace Position

/-- The text before a position. -/
def text (position : Position) : List Char :=
  position.early ++ position.pending

/-- The scan at a position. -/
def scan (position : Position) : Scan :=
  ⟨byteLength position.text, byteLength position.early, position.segments, position.diagnostics⟩

/-- The position behind a piece. -/
def behind (position : Position) (piece : Piece) : Position :=
  match meaning piece with
  | .text problem? =>
      { position with
        pending := position.pending ++ piece.source
        diagnostics := position.diagnostics ++
          (problem?.map fun problem => ⟨problem, some (byteLength position.text)⟩).toList }
  | .substitution substitution =>
      { early := position.text ++ piece.source
        segments := position.segments ++ withLiteral position.pending [] ++
          [.substitution substitution]
        diagnostics := position.diagnostics }

/-- The template that is read where pieces follow a position. -/
def template (position : Position) (pieces : List Piece) : Template :=
  ⟨String.ofList (position.text ++ pieces.flatMap Piece.source),
    position.segments ++ withLiteral (position.pending ++ (joined pieces).1) (joined pieces).2,
    position.diagnostics ++ problemsFrom (byteLength position.text) pieces⟩

variable (position : Position)

/-- Behind a piece, its source has been read as well. -/
@[simp] theorem text_behind (piece : Piece) :
    (position.behind piece).text = position.text ++ piece.source := by
  cases isMeaning : meaning piece with
  | text problem? => simp [behind, isMeaning, text]
  | substitution substitution => simp [behind, isMeaning, text]

/-- Behind a piece that stays text, the literal goes on and a problem of the piece is noted where it
begins. -/
theorem scan_behind_text {piece : Piece} {problem? : Option Problem}
    (isText : meaning piece = .text problem?) :
    (position.behind piece).scan =
      ⟨byteLength (position.text ++ piece.source), byteLength position.early, position.segments,
        position.diagnostics ++
          (problem?.map fun problem => ⟨problem, some (byteLength position.text)⟩).toList⟩ := by
  rw [scan, text_behind, behind, isText]

/-- Behind a substitution, the literal before it is closed and a new one begins. -/
theorem scan_behind_substitution {piece : Piece} {substitution : Substitution}
    (isSubstitution : meaning piece = .substitution substitution) :
    (position.behind piece).scan =
      ⟨byteLength (position.text ++ piece.source), byteLength (position.text ++ piece.source),
        position.segments ++ withLiteral position.pending [] ++ [.substitution substitution],
        position.diagnostics⟩ := by
  rw [scan, text_behind, behind, isSubstitution]

/-- To read a piece is to go on behind it. -/
theorem template_cons (piece : Piece) (pieces : List Piece) :
    position.template (piece :: pieces) = (position.behind piece).template pieces := by
  have texts : position.text ++ (piece :: pieces).flatMap Piece.source =
      (position.behind piece).text ++ pieces.flatMap Piece.source := by simp
  rw [template, template, texts, text_behind, joined_cons, addPiece, problemsFrom,
    byteLength_append]
  cases isMeaning : meaning piece with
  | text problem? =>
      cases problem? with
      | none => simp [behind, isMeaning]
      | some problem => simp [behind, isMeaning]
  | substitution substitution =>
      rw [withLiteral_eq_append _ (_ :: _)]
      simp [behind, isMeaning]

/-- At the end, the literal text that is left is put out. -/
theorem finish?_scan : finish? position.text position.scan = some (position.template []) := by
  have literal := pushLiteral?_append position.early position.pending [] position.segments
  rw [List.append_nil, ← byteLength_append] at literal
  simp only [finish?, scan, text, length_bytesOf, literal]
  simp [template, text, problemsFrom]

/-- The byte at the cursor is the first of the next piece. -/
theorem getElem?_piece (piece : Piece) (rest : List Char) :
    (bytesOf (position.text ++ piece.source ++ rest))[position.scan.cursor]? =
      (bytesOf (piece.source ++ rest))[0]? := by
  rw [List.append_assoc]
  exact getElem?_bytesOf position.text (piece.source ++ rest)

/-- A character that is no brace takes a turn for each of its bytes. -/
theorem scanAll?_character {character : Char} (isPlain : ¬IsBrace character) (rest : List Char)
    (turns : Nat) :
    scanAll? (position.text ++ (Piece.plain character).source ++ rest)
        (character.utf8Size + turns) position.scan =
      scanAll? (position.text ++ (Piece.plain character).source ++ rest) turns
        (position.behind (.plain character)).scan := by
  have bytes : bytesOf (position.text ++ (Piece.plain character).source ++ rest) =
      bytesOf position.text ++ String.utf8EncodeChar character ++ bytesOf rest := by
    simp [Piece.source]
  have isStart : position.scan.cursor = (bytesOf position.text).length :=
    (length_bytesOf position.text).symm
  have passed := scanAll?_plain (fun byte member => ne_brace_of_mem isPlain member) bytes turns
    isStart
  rw [String.length_utf8EncodeChar] at passed
  have ends : byteLength (position.text ++ (Piece.plain character).source) =
      position.scan.cursor + character.utf8Size := byteLength_append position.text [character]
  rw [position.scan_behind_text rfl, ends, passed]
  simp [scan]

/-- A stray brace is read in one turn. -/
theorem scanStep?_stray (rest : List Char) :
    scanStep? (position.text ++ Piece.stray.source ++ rest) position.scan =
      some (position.behind .stray).scan := by
  have isByte : (bytesOf (position.text ++ Piece.stray.source ++ rest))[position.scan.cursor]? =
      some closeByte := position.getElem?_piece .stray rest
  have notOpen : closeByte ≠ openByte := by decide
  have ends : byteLength (position.text ++ Piece.stray.source) = position.scan.cursor + 1 :=
    byteLength_append position.text ['}']
  rw [position.scan_behind_text rfl, ends]
  simp only [scanStep?, isByte, Option.bind_eq_bind, Option.bind_some, if_neg notOpen, if_true]
  rfl

/-- The slices from brace to brace and between them are the group and its body. -/
theorem slices_group (body rest : List Char) :
    let source := position.text ++ (Piece.group body).source ++ rest
    let close := byteLength position.text + 1 + byteLength body
    slice? source (byteLength position.text) (close + 1) = some ('{' :: body ++ ['}']) ∧
      slice? source (byteLength position.text + 1) close = some body := by
  intro source close
  have size : '{'.utf8Size = 1 := rfl
  have closeSize : '}'.utf8Size = 1 := rfl
  constructor
  · have slice := slice?_append position.text ('{' :: body ++ ['}']) rest
    simpa [source, close, Piece.source, size, closeSize, Nat.add_assoc] using slice
  · have slice := slice?_append (position.text ++ ['{']) body ('}' :: rest)
    simpa [source, close, Piece.source, size, Nat.add_assoc] using slice

/-- A group that is cut out at its braces is read to what it is. -/
theorem readGroup?_scan (body rest : List Char) :
    readGroup? (position.text ++ (Piece.group body).source ++ rest) position.scan
        (byteLength position.text + 1 + byteLength body) =
      some (position.behind (.group body)).scan := by
  let source := position.text ++ (Piece.group body).source ++ rest
  obtain ⟨group, inner⟩ := position.slices_group body rest
  have literal : pushLiteral? source (byteLength position.early) (byteLength position.text)
      position.segments = some (position.segments ++ withLiteral position.pending []) := by
    have pushed := pushLiteral?_append position.early position.pending
      ((Piece.group body).source ++ rest) position.segments
    rwa [← byteLength_append, ← List.append_assoc] at pushed
  have ends : byteLength (position.text ++ (Piece.group body).source) =
      byteLength position.text + 1 + byteLength body + 1 := by
    simp [Piece.source, show '{'.utf8Size = 1 from rfl, show '}'.utf8Size = 1 from rfl,
      Nat.add_assoc]
  have parts := readParts_eq body
  cases bodyRead : Substitution.read body with
  | ok substitution =>
      have groupMeaning : meaning (.group body) = .substitution substitution := by
        simp [meaning, bodyRead]
      rw [bodyRead] at parts
      rw [position.scan_behind_substitution groupMeaning, ends]
      simp only [readGroup?, scan, group, inner, split?_eq, parts, Option.bind_eq_bind,
        Option.bind_some, literal, source]
      rfl
  | error problem =>
      have groupMeaning : meaning (.group body) = .text (some (groupProblem body problem)) := by
        simp [meaning, bodyRead]
      rw [bodyRead] at parts
      rw [position.scan_behind_text groupMeaning, ends]
      simp only [readGroup?, scan, group, inner, split?_eq, parts, Option.bind_eq_bind,
        Option.bind_some]
      rfl

/-- A group is read in one turn. -/
theorem scanStep?_group {body : List Char} (balanced : IsBalanced body) (rest : List Char) :
    scanStep? (position.text ++ (Piece.group body).source ++ rest) position.scan =
      some (position.behind (.group body)).scan := by
  let source := position.text ++ (Piece.group body).source ++ rest
  have whole : source = position.text ++ ('{' :: body ++ '}' :: rest) := by
    simp [source, Piece.source]
  have isByte : (bytesOf source)[position.scan.cursor]? = some openByte :=
    position.getElem?_piece (.group body) rest
  have close : findClosing? 0 position.scan.cursor ((bytesOf source).drop position.scan.cursor) =
      some (some (byteLength position.text + 1 + byteLength body)) := by
    rw [whole]
    exact (congrArg _ (drop_bytesOf position.text _)).trans
      ((findClosing?_open _ _ _).trans (findClosing?_balanced balanced _ rest))
  change scanStep? source position.scan = _
  simp only [scanStep?, isByte, Option.bind_eq_bind, Option.bind_some, if_true, close]
  exact position.readGroup?_scan body rest

/-- A brace that is never closed is read in one turn, with the slice from it to the end. -/
theorem scanStep?_unclosed {rest : List Char}
    (whole : Piece.ofText ('{' :: rest) = [.unclosed rest]) :
    scanStep? (position.text ++ (Piece.unclosed rest).source) position.scan =
      some (position.behind (.unclosed rest)).scan := by
  let source := position.text ++ (Piece.unclosed rest).source
  have isByte : (bytesOf source)[position.scan.cursor]? = some openByte := by
    have isFirst := position.getElem?_piece (.unclosed rest) []
    rwa [List.append_nil, List.append_nil] at isFirst
  have stays : Piece.scan 1 [] rest = [.unclosed rest] := by
    rw [← whole, Piece.ofText]
    simp [Piece.scan]
  have close : findClosing? 0 position.scan.cursor ((bytesOf source).drop position.scan.cursor) =
      some none :=
    (congrArg _ (drop_bytesOf position.text _)).trans
      ((findClosing?_open _ _ _).trans (findClosing?_unclosed stays _))
  have slice : slice? source position.scan.cursor (byteLength source) = some ('{' :: rest) := by
    have slice := slice?_append position.text ('{' :: rest) []
    rwa [List.append_nil, ← byteLength_append] at slice
  change scanStep? source position.scan = _
  simp only [scanStep?, isByte, Option.bind_eq_bind, Option.bind_some, if_true, close,
    length_bytesOf, slice]
  rw [position.scan_behind_text rfl]
  rfl

end Position

/-- A character takes at least one turn. -/
theorem exists_turn {character : Char} {rest : List Char} {turns : Nat}
    (enough : byteLength (character :: rest) ≤ turns) :
    ∃ later, turns = later + 1 ∧ byteLength rest ≤ later := by
  have positive := character.utf8Size_pos
  rw [byteLength_cons] at enough
  exact ⟨turns - 1, by omega, by omega⟩

/-- From a position on, the rest of a template is read to the template of its pieces. -/
theorem scanAll?_finish? (rest : List Char) : ∀ (position : Position) (turns : Nat),
    byteLength rest ≤ turns →
    scanAll? (position.text ++ rest) turns position.scan >>= finish? (position.text ++ rest) =
      some (position.template (Piece.ofText rest)) := by
  induction rest using Piece.ofText_induction with
  | nil =>
      intro position turns _
      rw [List.append_nil, scanAll?_end (length_bytesOf _).symm]
      exact position.finish?_scan
  | plain character rest isPlain inductionHypothesis =>
      intro position turns enough
      rw [byteLength_cons] at enough
      -- Turns are counted in bytes, and a plain character takes one for each of its own.
      obtain ⟨later, rfl⟩ := Nat.exists_eq_add_of_le (Nat.le_of_add_right_le enough)
      have next := inductionHypothesis (position.behind (.plain character)) later (by omega)
      have step := position.scanAll?_character isPlain rest later
      rw [position.text_behind, ← position.template_cons, ← step, List.append_assoc] at next
      exact next
  | stray rest inductionHypothesis =>
      intro position turns enough
      obtain ⟨later, rfl, remaining⟩ := exists_turn enough
      have next := inductionHypothesis (position.behind .stray) later remaining
      have step := scanAll?_succ (position.scanStep?_stray rest) later
      rw [position.text_behind, ← position.template_cons, ← step, List.append_assoc] at next
      exact next
  | group body rest balanced inductionHypothesis =>
      intro position turns enough
      obtain ⟨later, rfl, remaining⟩ := exists_turn enough
      have behind : byteLength rest ≤ later := by
        rw [List.append_eq, byteLength_append, byteLength_cons] at remaining
        omega
      have next := inductionHypothesis (position.behind (.group body)) later behind
      have step := scanAll?_succ (position.scanStep?_group balanced rest) later
      rw [position.text_behind, ← position.template_cons, ← step] at next
      simpa [Piece.source] using next
  | unclosed rest whole =>
      intro position turns enough
      obtain ⟨later, rfl, -⟩ := exists_turn enough
      have step := scanAll?_succ (position.scanStep?_unclosed whole) later
      have ends := (position.behind (.unclosed rest)).finish?_scan
      rw [position.text_behind, ← position.template_cons] at ends
      refine (congrArg (· >>= finish? _) step).trans ?_
      rw [scanAll?_end (by rw [length_bytesOf, ← position.text_behind]; rfl)]
      exact ends

/-- No check fails while a template is read, and what is read is the template. -/
theorem read?_eq (text : String) : read? text = some (Template.read text) := by
  have scanned := scanAll?_finish? text.toList {} (bytesOf text.toList).length
    (Nat.le_of_eq (length_bytesOf _).symm)
  have start : ({} : Position).template (Piece.ofText text.toList) = Template.read text := by
    simp [Position.template, Position.text, Template.read, segmentsOf_eq,
      Piece.flatMap_source_ofText]
  rw [← start]
  exact scanned

end MessageTemplate.Checked
