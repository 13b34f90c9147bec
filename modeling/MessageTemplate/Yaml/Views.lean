import MessageTemplate.Json.Basic
import MessageTemplate.Yaml.NodeReader

/-! # What a YAML node is read as

A node has no type of its own: the one who reads it asks for a text, a truth value, a whole number,
a mapping or a JSON value. Only plain scalars are anything but texts. -/

namespace MessageTemplate.Yaml

open MessageTemplate.Decimal

/-- Whether a plain scalar is written as null. -/
def isNullText (text : String) : Bool :=
  text == "null" || text == "Null" || text == "NULL" || text == "~"

/-- The truth value that a plain scalar is written as. -/
def readBool? (text : String) : Option Bool :=
  if text = "true" ∨ text = "True" ∨ text = "TRUE" then some true
  else if text = "false" ∨ text = "False" ∨ text = "FALSE" then some false
  else none

/-- Whether a text is a zero and further digits, perhaps with a sign. Such a text is no number. -/
def hasLeadingZero (text : List Char) : Bool :=
  let unsigned :=
    match text with
    | '-' :: rest | '+' :: rest => rest
    | text => text
  match unsigned with
  | '0' :: rest => !rest.isEmpty && rest.all Char.isDigit
  | _ => false

/-- A whole number in a base, without a sign. -/
def readBased? (base : Nat) (greatest : Int) (digits : List Char) : Option Int :=
  match digits with
  | '+' :: _ | '-' :: _ => none
  | digits => (readInteger base 0 greatest digits).toOption

/-- A whole number from zero on, in base ten or with the mark of another base. -/
def readUnsigned? (greatest : Int) (text : List Char) : Option Int :=
  let unsigned :=
    match text with
    | '+' :: rest => rest
    | text => text
  let marked :=
    match unsigned with
    | '0' :: 'x' :: digits => readBased? 16 greatest digits
    | '0' :: 'o' :: digits => readBased? 8 greatest digits
    | '0' :: 'b' :: digits => readBased? 2 greatest digits
    | _ => none
  match marked with
  | some value => some value
  | none => if hasLeadingZero text then none else readBased? 10 greatest unsigned

/-- A whole number with a minus sign, in base ten or with the mark of another base. -/
def readNegative? (least : Int) (text : List Char) : Option Int :=
  let based := fun (base : Nat) (digits : List Char) =>
    match digits with
    | '+' :: _ | '-' :: _ => none
    | digits => (readInteger base least 0 ('-' :: digits)).toOption
  match text with
  | '-' :: digits =>
      let marked :=
        match digits with
        | '0' :: 'x' :: digits => based 16 digits
        | '0' :: 'o' :: digits => based 8 digits
        | '0' :: 'b' :: digits => based 2 digits
        | _ => none
      match marked with
      | some value => some value
      | none => if hasLeadingZero text then none else based 10 digits
  | _ => none

/-- The double that a plain scalar is written as. -/
def readFloatText? (text : List Char) : Option Float :=
  let name := String.ofList text
  let unsigned? :=
    match text with
    | '+' :: '+' :: _ | '+' :: '-' :: _ => none
    | '+' :: rest => some rest
    | text => some text
  match unsigned? with
  | none => none
  | some unsigned =>
      let unsignedName := String.ofList unsigned
      if unsignedName = ".inf" ∨ unsignedName = ".Inf" ∨ unsignedName = ".INF" then some infinity
      else if name = "-.inf" ∨ name = "-.Inf" ∨ name = "-.INF" then some (-infinity)
      else if name = ".nan" ∨ name = ".NaN" ∨ name = ".NAN" then some (0 / 0)
      else (readFloat? unsigned).filter isFinite

/-- The JSON number of a double. Infinite and undefined ones are null. -/
def floatToJson (value : Float) : Json :=
  if isFinite value then .float value else .null

/-- The JSON number that a scalar is written as. Whole numbers of 65 to 128 bits are refused. -/
def readNumber? (text : List Char) : Option (Option Json) :=
  match readUnsigned? (twoTo 64 - 1) text with
  | some value => some (some (.integer value))
  | none =>
      match readNegative? (-twoTo 63) text with
      | some value => some (some (.integer value))
      | none =>
          if (readUnsigned? (twoTo 128 - 1) text).isSome || (readNegative? (-twoTo 127) text).isSome
          then none
          else some none

/-- The JSON value of a plain scalar without a tag. -/
def plainToJson? (text : String) : Option Json :=
  if text.isEmpty || isNullText text then some .null
  else
    match readBool? text with
    | some value => some (.bool value)
    | none =>
        match readNumber? text.toList with
        | none => none
        | some (some number) => some number
        | some none =>
            if hasLeadingZero text.toList then some (.string text)
            else
              match readFloatText? text.toList with
              | some value => some (floatToJson value)
              | none => some (.string text)

/-- The tag of a YAML type. -/
def typeTag (name : String) : Tag := .ofText ("tag:yaml.org,2002:" ++ name)

namespace Tag

/-- Whether a tag starts with an exclamation mark. -/
def isMarked (tag : Tag) : Bool :=
  tag.bytes.head? == some '!'.toUInt8

/-- Whether a tag is one of the document's own, which no JSON value can have. It is a text behind an
exclamation mark. -/
def isLocal (tag : Tag) : Bool :=
  tag.isMarked && (String.fromUTF8? ⟨tag.bytes.toArray⟩).isSome

end Tag

/-- The JSON value of a scalar. The tag of a type demands that type, an exclamation mark and bytes that
are no text demand nothing, and any other tag makes it a text. -/
def scalarToJson? (text : String) (style : ScalarStyle) (tag : Option Tag) : Option Json :=
  match tag with
  | some tag =>
      if tag = typeTag "bool" then (readBool? text).map .bool
      else if tag = typeTag "int" then (readNumber? text.toList).bind id
      else if tag = typeTag "float" then (readFloatText? text.toList).map floatToJson
      else if tag = typeTag "null" then (if isNullText text then some .null else none)
      else if tag.isMarked && style = .plain then plainToJson? text
      else some (.string text)
  | none => if style = .plain then plainToJson? text else some (.string text)

namespace Node

/-- The tag of a node. -/
def tag? : Node → Option Tag
  | scalar _ _ tag | sequence tag _ | mapping tag _ => tag
  | .alias _ => none

/-- Whether a node is a missing value. -/
def isMissing : Node → Bool
  | scalar text style _ => text.isEmpty && style == .plain
  | _ => false

/-- The text of a scalar, however it is written. -/
def text (node : Node) : NodeReader String := do
  match ← node.follow with
  | scalar text _ _ => return text
  | _ => failure

/-- The entries of a mapping. A missing value has none. -/
def entries (node : Node) : NodeReader (List (Node × Node)) := do
  match ← node.follow with
  | mapping _ entries => return entries
  | node => if node.isMissing then return [] else failure

/-- The items of a sequence. A missing value has none. -/
def items (node : Node) : NodeReader (List Node) := do
  match ← node.follow with
  | sequence _ items => return items
  | node => if node.isMissing then return [] else failure

/-- Whether a node is null. Only plain scalars are, and the tag of the type demands it. -/
def isNull? : Node → Option Bool
  | scalar text .plain none => some (text.isEmpty || isNullText text)
  | scalar text .plain (some tag) =>
      if tag = typeTag "null" then (if isNullText text then some true else none) else some false
  | _ => some false

/-- What a node is read as, unless it is null. -/
def optional {α : Type} (read : Node → NodeReader α) (node : Node) : NodeReader (Option α) := do
  let node ← node.follow
  if ← node.isNull? then return none
  return some (← read node)

/-- The text of a scalar that is written as a value of a type: plainly, or as a literal with the tag
of the type. -/
def typedText (typeName : String) (node : Node) : NodeReader String := do
  match ← node.follow with
  | scalar text style tag =>
      if style = .plain ∨ (style = .literal ∧ tag = some (typeTag typeName)) then return text
      else failure
  | _ => failure

/-- The truth value of a node. -/
def bool (node : Node) : NodeReader Bool := do
  readBool? (← node.typedText "bool")

/-- The whole number below `2 ^ 64` of a node. -/
def natural (node : Node) : NodeReader Nat := do
  return (← readUnsigned? (twoTo 64 - 1) (← node.typedText "int").toList).toNat

/-- How deep collections may nest in a JSON value. -/
def depthBound : Nat := 128

/-- The node itself, or the one it stands for, unless it has a tag of the document's own. -/
def followNonlocal (node : Node) : NodeReader Node := do
  let node ← node.follow
  if node.tag?.any Tag.isLocal then failure else return node

/-- The JSON value of a node that may nest `depth` deep. Every key must be a scalar. -/
def toJsonWithin : (depth : Nat) → Node → NodeReader Json
  | 0, node => do
      match ← node.followNonlocal with
      | scalar text style tag => scalarToJson? text style tag
      | _ => failure
  | depth + 1, node => do
      match ← node.followNonlocal with
      | scalar text style tag => scalarToJson? text style tag
      | sequence _ items => return .array (← items.mapM (toJsonWithin depth))
      | mapping _ entries =>
          return .ofMembers (← entries.mapM fun (key, value) =>
            return (← key.text, ← toJsonWithin depth value))
      | .alias _ => failure

/-- The JSON value of a node. -/
def toJson (node : Node) : NodeReader Json :=
  node.toJsonWithin depthBound

/-- The pairs of texts that a mapping of texts to texts is written with, in order. -/
def texts (node : Node) : NodeReader (List (String × String)) := do
  (← node.entries).mapM fun (key, value) => return (← key.text, ← value.text)

end Node

/-- The JSON value of a document. A stream without a document is null. -/
def readJson? (text : String) : Option Json := do
  match ← read? text with
  | some document => document.read? Node.toJson
  | none => return .null

/-- Reads a document that maps texts to texts. -/
def readTexts? (text : String) : Option (List (String × String)) := do
  match ← read? text with
  | some document => document.read? Node.texts
  | none => return []

end MessageTemplate.Yaml
