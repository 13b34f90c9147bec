import MessageTemplate.Decimal.Reading
import MessageTemplate.Json.Basic
import MessageTemplate.Locale.Style
import MessageTemplate.Text.Quoted

/-! # Values

What flows through a substitution. A value can be asked for a text, a number or a truth value, and
may refuse. Host values answer for themselves; all others answer by one rule each. -/

namespace MessageTemplate

/-- The text of the null value and of a failed pipeline. -/
def nullMarker : String := "(null)"

/-- A value of the host program, with its answers. Two host values are the same when they have one
identity. -/
structure HostValue where
  identity : Nat
  /-- The text shown when nothing else is known about the value. -/
  display : String
  string : Locale → Option String
  number : Option Number
  boolean : Option Bool
  typeName : String
  description : Option String

namespace HostValue

/-- A host value that has a text and nothing else. -/
def ofText (identity : Nat) (text : String) : HostValue where
  identity
  display := text
  string _ := some text
  number := none
  boolean := none
  typeName := "Host"
  description := none

/-- A host value that has a text and a number, which also decides its truth. -/
def ofNumber (identity : Nat) (text : String) (number : Option Number) : HostValue :=
  { ofText identity text with number, boolean := number.map fun number => !number.isZero }

end HostValue

/-- The values of a template. -/
inductive Value where
  | null
  | bool (value : Bool)
  | int (value : Int64)
  | float (value : Float)
  | string (text : String)
  | host (value : HostValue)

namespace Value

instance : Inhabited Value := ⟨null⟩

/-- The value of a number. -/
def ofNumber : Number → Value
  | .int value => int value
  | .float value => float value

/-- The value of a whole number, as a double where it has more than 64 bits. -/
def ofInt (value : Int) : Value :=
  ofNumber (Number.ofInt value)

/-- The value of a JSON value. Arrays and objects become their compact text. -/
def ofJson : Json → Value
  | .null => null
  | .bool value => bool value
  | .integer value => ofInt value
  | .float value => float value
  | .string text => string text
  | other => string other.compact

/-- Whether a value is null. -/
def isNull : Value → Bool
  | null => true
  | _ => false

/-- The name of the kind of a value. -/
def typeName : Value → String
  | null => "null"
  | bool _ => "bool"
  | int _ => "int"
  | float _ => "float"
  | string _ => "string"
  | host value => value.typeName

/-- The number that a text denotes between blanks: a whole number, or else a finite double. -/
def readNumber? (text : List Char) : Option Number :=
  let trimmed := Character.trimBlanks text
  match Decimal.readInt64? trimmed with
  | some value => some (.int value)
  | none => ((Decimal.readFloat? trimmed).filter Decimal.isFinite).map .float

/-- The text without a sign at its start. -/
def dropSign : List Char → List Char
  | '+' :: rest | '-' :: rest => rest
  | text => text

/-- The truth of a text. Blanks, one sign and zeros at its start are skipped; the text is true when
the next character is a digit, a `Y` or a `T`. -/
def readTruth (text : List Char) : Bool :=
  match (dropSign (Character.dropBlanks text)).dropWhile (· == '0') with
  | [] => false
  | first :: _ =>
      first == 'Y' || first == 'y' || first == 'T' || first == 't' ||
        ('1' ≤ first && first ≤ '9')

/-- The text of a value in a locale. -/
def toText? (locale : Locale) : Value → Option String
  | null => some nullMarker
  | bool value => locale.formatNumber? (.int (if value then 1 else 0)) .decimal
  | int value => locale.formatNumber? (.int value) .decimal
  | float value => locale.formatNumber? (.float value) .decimal
  | string text => some text
  | host value => value.string locale

/-- The number of a value. -/
def toNumber? : Value → Option Number
  | null => none
  | bool value => some (.int (if value then 1 else 0))
  | int value => some (.int value)
  | float value => some (.float value)
  | string text => readNumber? text.toList
  | host value => value.number

/-- The truth of a value. -/
def toBoolean? : Value → Option Bool
  | null => some false
  | bool value => some value
  | int value => some (value != 0)
  | float value => some (value != 0)
  | string text => some (readTruth text.toList)
  | host value => value.boolean

/-- The text that stands for a value in the output. -/
def render (locale : Locale) (value : Value) : String :=
  (value.toText? locale).getD nullMarker

/-- A description of a value that tells its kind. -/
def description : Value → String
  | null => "<null>"
  | bool value => if value then "true" else "false"
  | int value => toString value.toInt
  | float value => Decimal.descriptionForm.write value
  | string text => Text.quoted text
  | host value => value.description.getD value.display

/-- Whether two values are the same. An undefined number differs from itself. -/
def same : Value → Value → Bool
  | null, null => true
  | bool left, bool right => left == right
  | int left, int right => left == right
  | float left, float right => left == right
  | string left, string right => left == right
  | host left, host right => left.identity == right.identity
  | _, _ => false

instance : BEq Value := ⟨same⟩

/-- A number that stands for a value in diagnostics: zero for null, and the same twelve hexadecimal
digits for equal descriptions. -/
def token (value : Value) : Nat :=
  match value with
  | null => 0
  | other =>
      let start := 0x550000000000
      start + other.description.toList.foldl
        (fun sum character => (31 * sum + character.toNat) % 0x10000000000) 16

end Value

end MessageTemplate
