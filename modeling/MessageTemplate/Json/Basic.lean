import MessageTemplate.Decimal.Written

/-! # JSON values

A JSON value whose objects keep their members in the order of the UTF-8 bytes of their names, one
member to a name, and its compact text. Numbers are whole where they were written so and fit 64
bits, with or without a sign; all others are doubles. -/

namespace MessageTemplate

/-- A JSON value. -/
inductive Json where
  | null
  | bool (value : Bool)
  /-- A whole number from `-2 ^ 63` to `2 ^ 64 - 1`. -/
  | integer (value : Int)
  /-- A finite double. -/
  | float (value : Float)
  | string (text : String)
  | array (items : List Json)
  | object (members : List (String × Json))
deriving Inhabited

namespace Json

/-- Binds a name in members that are in order. An earlier value of the name is replaced. -/
def insertMember (name : String) (value : Json) :
    List (String × Json) → List (String × Json)
  | [] => [(name, value)]
  | (other, held) :: rest =>
      if name = other then (name, value) :: rest
      else if name < other then (name, value) :: (other, held) :: rest
      else (other, held) :: insertMember name value rest

/-- The object with the given members, where the last of several values of a name counts. -/
def ofMembers (members : List (String × Json)) : Json :=
  object (members.foldl (fun held member => insertMember member.1 member.2 held) [])

/-- How the text of a string writes one character. -/
def escapedChar (character : Char) : List Char :=
  if character = '"' then ['\\', '"']
  else if character = '\\' then ['\\', '\\']
  else if character = '\n' then ['\\', 'n']
  else if character = '\r' then ['\\', 'r']
  else if character = '\t' then ['\\', 't']
  else if character = '\x08' then ['\\', 'b']
  else if character = '\x0c' then ['\\', 'f']
  else if character.toNat < 32 then
    "\\u00".toList ++ [Nat.digitChar (character.toNat / 16), Nat.digitChar (character.toNat % 16)]
  else [character]

/-- The text of a string between quotation marks. -/
def writeString (text : String) : List Char :=
  '"' :: text.toList.flatMap escapedChar ++ ['"']

mutual

/-- The compact text of a value. -/
def write : Json → List Char
  | null => "null".toList
  | bool value => if value then "true".toList else "false".toList
  | integer value => (toString value).toList
  | float value => (Decimal.dataForm.write value).toList
  | string text => writeString text
  | array items => '[' :: writeItems items
  | object members => '{' :: writeMembers members

/-- The text of the items of an array up to its end. -/
def writeItems : List Json → List Char
  | [] => [']']
  | [item] => write item ++ [']']
  | item :: next :: rest => write item ++ ',' :: writeItems (next :: rest)

/-- The text of the members of an object up to its end. -/
def writeMembers : List (String × Json) → List Char
  | [] => ['}']
  | [(name, value)] => writeString name ++ ':' :: write value ++ ['}']
  | (name, value) :: next :: rest =>
      writeString name ++ ':' :: write value ++ ',' :: writeMembers (next :: rest)

end

/-- The compact text of a value. -/
def compact (value : Json) : String :=
  String.ofList value.write

/-- The value of a name in an object. -/
def field? (value : Json) (name : String) : Option Json :=
  match value with
  | object members => members.lookup name
  | _ => none

end Json

end MessageTemplate
