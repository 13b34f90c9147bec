import MessageTemplate.Decimal.Reading
import MessageTemplate.Json.Basic

/-! # Reading JSON

A reader of JSON texts. Values may nest 127 deep. A number with a fraction or an exponent is the
double that its first digits, as many as fit 64 bits, give when multiplied or divided once by a
power of ten; a number beyond the doubles is refused. -/

namespace MessageTemplate.Json

/-- Skips the blanks between tokens. -/
def skipBlanks (text : List Char) : List Char :=
  text.dropWhile fun character =>
    character == ' ' || character == '\n' || character == '\t' || character == '\r'

/-- The value of four hexadecimal digits, and what follows them. -/
def readHex4? : List Char → Option (Nat × List Char)
  | first :: second :: third :: fourth :: rest => do
      let digits ← [first, second, third, fourth].mapM (Decimal.digitValue? 16)
      return (digits.foldl (fun value digit => 16 * value + digit) 0, rest)
  | _ => none

/-- Reads the part of a string escape after `\u`. A leading surrogate needs a trailing one. -/
def readUnicodeEscape? (text : List Char) : Option (Char × List Char) := do
  let (first, rest) ← readHex4? text
  if 0xDC00 ≤ first ∧ first < 0xE000 then none
  else if 0xD800 ≤ first ∧ first < 0xDC00 then
    match rest with
    | '\\' :: 'u' :: trailing => do
        let (second, rest) ← readHex4? trailing
        if 0xDC00 ≤ second ∧ second < 0xE000 then
          return (Char.ofNat (0x10000 + (first - 0xD800) * 1024 + (second - 0xDC00)), rest)
        else none
    | _ => none
  else return (Char.ofNat first, rest)

/-- The character that a single letter after a backslash stands for. -/
def simpleEscape? : Char → Option Char
  | '"' => some '"'
  | '\\' => some '\\'
  | '/' => some '/'
  | 'b' => some '\x08'
  | 'f' => some '\x0c'
  | 'n' => some '\n'
  | 'r' => some '\r'
  | 't' => some '\t'
  | _ => none

/-- Reads a string from behind its opening quotation mark, after the characters `read`, which are in
reverse. -/
def readStringFrom? : (fuel : Nat) → (read text : List Char) → Option (String × List Char)
  | 0, _, _ => none
  | _, _, [] => none
  | fuel + 1, read, character :: rest =>
      if character = '"' then some (String.ofList read.reverse, rest)
      else if character = '\\' then
        match rest with
        | 'u' :: escape => do
            let (character, rest) ← readUnicodeEscape? escape
            readStringFrom? fuel (character :: read) rest
        | letter :: rest => do
            let character ← simpleEscape? letter
            readStringFrom? fuel (character :: read) rest
        | [] => none
      else if character.toNat < 32 then none
      else readStringFrom? fuel (character :: read) rest

/-- Reads a string from behind its opening quotation mark. -/
def readString? (text : List Char) : Option (String × List Char) :=
  readStringFrom? (text.length + 1) [] text

/-- The digits of a number as far as they fit 64 bits, with the power of ten that restores their
places. A digit of the whole part that does not fit raises the power, as do all whole digits after
it; one of the fraction is lost with all digits after it. -/
structure Significand where
  value : Nat
  exponent : Int
  full : Bool

/-- Adds a digit of the whole part. -/
def Significand.pushWhole (significand : Significand) (digit : Nat) : Significand :=
  if significand.full || UInt64.size ≤ 10 * significand.value + digit then
    { significand with exponent := significand.exponent + 1, full := true }
  else { significand with value := 10 * significand.value + digit }

/-- Adds a digit of the fraction. -/
def Significand.pushFraction (significand : Significand) (digit : Nat) : Significand :=
  if significand.full || UInt64.size ≤ 10 * significand.value + digit then
    { significand with full := true }
  else
    { significand with
      value := 10 * significand.value + digit, exponent := significand.exponent - 1 }

/-- The greatest power of ten that is a double. -/
def greatestPower : Int := 308

/-- The double nearest to a power of ten. -/
def powerOfTen (exponent : Int) : Float :=
  (Decimal.Magnitude.scaled 1 exponent).toFloat

/-- Multiplies or divides by a power of ten in doubles. A power below the doubles is divided out in
steps, of which three lead to zero from any start; one above them is refused. -/
def scaleFloat? : (steps : Nat) → (value : Float) → (exponent : Int) → Option Float
  | 0, _, _ => some 0
  | steps + 1, value, exponent =>
      if exponent < -greatestPower then
        if value == 0 then some value
        else scaleFloat? steps (value / powerOfTen greatestPower) (exponent + greatestPower)
      else if exponent < 0 then some (value / powerOfTen (-exponent))
      else if exponent ≤ greatestPower then
        let product := value * powerOfTen exponent
        if Decimal.isFinite product then some product else none
      else if value == 0 then some value
      else none

/-- The double of a sign, digits and a power of ten. -/
def floatOf? (negative : Bool) (significand : Nat) (exponent : Int) : Option Float :=
  (scaleFloat? 6 (Float.ofNat significand) exponent).map fun value =>
    if negative then -value else value

/-- Reads an exponent behind its mark. -/
def readPower? (text : List Char) : Option (Int × List Char) :=
  let (negative, digits) :=
    match text with
    | '+' :: rest => (false, rest)
    | '-' :: rest => (true, rest)
    | rest => (false, rest)
  let power := digits.takeWhile Char.isDigit
  if power.isEmpty then none
  else
    some (Decimal.signed negative (Decimal.naturalOf power), digits.dropWhile Char.isDigit)

/-- Reads the rest of a number behind its whole digits. -/
def readNumberTail? (negative : Bool) (whole : List Char) (text : List Char) :
    Option (Json × List Char) := do
  let digit := fun (character : Char) => character.toNat - '0'.toNat
  let significand := (whole.map digit).foldl Significand.pushWhole ⟨0, 0, false⟩
  let (significand, rest, hasFraction) ←
    match text with
    | '.' :: rest =>
        let fraction := rest.takeWhile Char.isDigit
        if fraction.isEmpty then none
        else some ((fraction.map digit).foldl Significand.pushFraction { significand with full := false },
          rest.dropWhile Char.isDigit, true)
    | rest => some (significand, rest, false)
  let (power, rest, hasPower) ←
    match rest with
    | 'e' :: rest | 'E' :: rest => (readPower? rest).map fun (power, rest) => (power, rest, true)
    | rest => some (0, rest, false)
  let whole := Decimal.naturalOf whole
  let value := Decimal.signed negative whole
  if !hasFraction && !hasPower && !significand.full && Int64.minValue.toInt ≤ value &&
      !(negative && whole = 0) then
    return (integer value, rest)
  else
    let result ← floatOf? negative significand.value (significand.exponent + power)
    return (float result, rest)

/-- Reads a number. -/
def readNumber? (text : List Char) : Option (Json × List Char) :=
  let (negative, unsigned) :=
    match text with
    | '-' :: rest => (true, rest)
    | rest => (false, rest)
  match unsigned with
  | '0' :: rest =>
      if (rest.head?.map Char.isDigit).getD false then none
      else readNumberTail? negative ['0'] rest
  | rest =>
      let whole := rest.takeWhile Char.isDigit
      if whole.isEmpty then none else readNumberTail? negative whole (rest.dropWhile Char.isDigit)

/-- Skips a given word. -/
def skipWord? : (word text : List Char) → Option (List Char)
  | [], text => some text
  | letter :: word, character :: rest => if letter = character then skipWord? word rest else none
  | _ :: _, [] => none

mutual

/-- Reads a value that may nest `depth` deep. -/
def readValue? : (fuel depth : Nat) → List Char → Option (Json × List Char)
  | 0, _, _ => none
  | fuel + 1, depth, text =>
      match skipBlanks text with
      | '"' :: rest => (readString? rest).map fun (text, rest) => (string text, rest)
      | '[' :: rest =>
          match depth with
          | 0 | 1 => none
          | depth + 1 =>
              match skipBlanks rest with
              | ']' :: rest => some (array [], rest)
              | rest => readItems? fuel depth [] rest
      | '{' :: rest =>
          match depth with
          | 0 | 1 => none
          | depth + 1 =>
              match skipBlanks rest with
              | '}' :: rest => some (object [], rest)
              | rest => readMembers? fuel depth [] rest
      | 'n' :: rest => (skipWord? "ull".toList rest).map fun rest => (null, rest)
      | 't' :: rest => (skipWord? "rue".toList rest).map fun rest => (bool true, rest)
      | 'f' :: rest => (skipWord? "alse".toList rest).map fun rest => (bool false, rest)
      | rest => readNumber? rest

/-- Reads the items of an array after the items `read`, which are in reverse. -/
def readItems? : (fuel depth : Nat) → (read : List Json) → List Char → Option (Json × List Char)
  | 0, _, _, _ => none
  | fuel + 1, depth, read, text => do
      let (item, rest) ← readValue? fuel depth text
      match skipBlanks rest with
      | ',' :: rest => readItems? fuel depth (item :: read) rest
      | ']' :: rest => return (array (item :: read).reverse, rest)
      | _ => none

/-- Reads the members of an object after the members `read`, which are in reverse. -/
def readMembers? : (fuel depth : Nat) → (read : List (String × Json)) → List Char →
    Option (Json × List Char)
  | 0, _, _, _ => none
  | fuel + 1, depth, read, text =>
      match skipBlanks text with
      | '"' :: rest => do
          let (name, rest) ← readString? rest
          match skipBlanks rest with
          | ':' :: rest => do
              let (value, rest) ← readValue? fuel depth rest
              match skipBlanks rest with
              | ',' :: rest => readMembers? fuel depth ((name, value) :: read) rest
              | '}' :: rest => return (ofMembers ((name, value) :: read).reverse, rest)
              | _ => none
          | _ => none
      | _ => none

end

/-- How deep values may nest, exclusively. -/
def depthBound : Nat := 128

/-- Reads a text that holds one value. -/
def read? (text : String) : Option Json :=
  let characters := text.toList
  match readValue? (2 * characters.length + 2) depthBound characters with
  | some (value, rest) => if (skipBlanks rest).isEmpty then some value else none
  | none => none

end MessageTemplate.Json
