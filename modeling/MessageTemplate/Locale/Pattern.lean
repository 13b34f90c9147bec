import MessageTemplate.Locale.Digits

/-! # Number patterns

A pattern such as `#,##0.00` shows where digits and separators go, between text that is copied.
Apostrophes quote text, so that it means nothing but itself; two of them are one apostrophe. Only
the part before an unquoted semicolon is used. -/

namespace MessageTemplate

/-- A character of a pattern. Quoted ones only stand for themselves. -/
structure PatternChar where
  character : Char
  quoted : Bool
deriving DecidableEq, Repr

/-- A pattern that has been read. -/
structure Pattern where
  before : List PatternChar
  after : List PatternChar
  leastInteger : Nat
  leastFraction : Nat
  mostFraction : Nat
  groupSize : Option Nat
  factor : Nat
deriving DecidableEq, Repr

namespace Pattern

/-- Resolves the quotation of a pattern up to its first unquoted semicolon. -/
def unquote : (quoted : Bool) → List Char → List PatternChar
  | quoted, '\'' :: '\'' :: rest => ⟨'\'', true⟩ :: unquote quoted rest
  | quoted, character :: rest =>
      if character = '\'' then unquote (!quoted) rest
      else if character = ';' ∧ quoted = false then []
      else ⟨character, quoted⟩ :: unquote quoted rest
  | _, [] => []

/-- Whether a character is part of the digits of a pattern. -/
def isNumeric (item : PatternChar) : Bool :=
  !item.quoted && (item.character == '#' || item.character == '0' || item.character == ',' ||
    item.character == '.')

/-- Whether a pattern character stands for a digit. -/
def isDigitMark (character : Char) : Bool :=
  character == '#' || character == '0'

/-- The size of the last group: the digits after the last comma. -/
def groupSizeOf (integer : List Char) : Option Nat :=
  if integer.contains ',' then
    let size := (integer.reverse.takeWhile (· != ',')).countP isDigitMark
    if size = 0 then none else some size
  else none

/-- Whether an unquoted character occurs in a text. -/
def occurs (character : Char) (text : List PatternChar) : Bool :=
  text.contains ⟨character, false⟩

/-- What a number is multiplied by: a hundred for `%`, a thousand for `‰`. -/
def factorOf (affixes : List PatternChar) : Nat :=
  if occurs '%' affixes then 100 else if occurs '‰' affixes then 1000 else 1

/-- Reads a pattern. There must be a digit, and no separator after the point. -/
def read? (source : List Char) : Option Pattern :=
  let items := unquote false source
  let before := items.takeWhile fun item => !isNumeric item
  let fromDigits := items.dropWhile fun item => !isNumeric item
  let body := (fromDigits.takeWhile isNumeric).map PatternChar.character
  let after := fromDigits.dropWhile isNumeric
  let integer := body.takeWhile (· != '.')
  let fraction := (body.dropWhile (· != '.')).drop 1
  if !body.any isDigitMark || fraction.contains '.' || fraction.contains ',' then none
  else some
    { before, after
      leastInteger := integer.count '0'
      leastFraction := fraction.count '0'
      mostFraction := fraction.countP isDigitMark
      groupSize := groupSizeOf integer
      factor := factorOf (before ++ after) }

/-- The text around the digits, with the currency symbol in the place of its sign. -/
def affixText (locale : Locale) (affix : List PatternChar) : List Char :=
  affix.flatMap fun item =>
    if item = ⟨'¤', false⟩ then locale.currencySymbol.toList else [item.character]

/-- Whether writing a number in a pattern breaks off what the program is doing, because the pattern
has too many fraction digits. -/
def breaksOff (pattern : Pattern) (number : Number) : Bool :=
  Digits.breaksOff (number.scale pattern.factor) pattern.mostFraction

/-- A number written in a pattern, where that does not break off. -/
def format? (pattern : Pattern) (locale : Locale) (number : Number) : Option (List Char) :=
  (Digits.fixed? (number.scale pattern.factor) pattern.leastFraction pattern.mostFraction).map
    fun digits =>
      digits.sign ++ affixText locale pattern.before ++
        locale.joinDigits digits pattern.leastInteger pattern.groupSize ++
        affixText locale pattern.after

end Pattern

/-- Whether writing a number in a pattern given as text breaks off what the program is doing. -/
def Pattern.breaksOffAt (number : Number) (source : String) : Bool :=
  (Pattern.read? source.toList).any (·.breaksOff number)

/-- A number written in a pattern given as text, where that does not break off. -/
def Locale.formatPattern? (locale : Locale) (number : Number) (source : String) :
    Option String :=
  (Pattern.read? source.toList).bind fun pattern =>
    (pattern.format? locale number).map String.ofList

end MessageTemplate
