import MessageTemplate.Entries
import MessageTemplate.Template.Reference
import MessageTemplate.Value

/-! # Bindings

The values that a template can refer to, by name and by position. Every value has the next free
position when it arrives, and a name stays at the position it first arrived at. A position can also
be pinned to a value of its own, which then hides the value that arrived there. -/

namespace MessageTemplate

/-- A value in its position, with its name if it has one. -/
structure Binding where
  name : Option String
  value : Value

/-- Named and positional values. -/
structure Bindings where
  /-- The values in the order of their positions. -/
  entries : List Binding := []
  /-- The pinned positions in ascending order. -/
  pinned : List (Nat × Value) := []

namespace Bindings

/-- No bindings. -/
def empty : Bindings := {}

instance : Inhabited Bindings := ⟨empty⟩

/-- Whether an entry has a name. -/
def hasName (name : String) (entry : Binding) : Bool :=
  entry.name == some name

/-- Whether a name is bound. -/
def contains (bindings : Bindings) (name : String) : Bool :=
  bindings.entries.any (hasName name)

/-- Adds an entry in the next free position. -/
def append (bindings : Bindings) (entry : Binding) : Bindings :=
  { bindings with entries := bindings.entries ++ [entry] }

/-- Gives a bound name a value and leaves all positions as they are. -/
def replace (bindings : Bindings) (name : String) (value : Value) : Bindings :=
  { bindings with
    entries := bindings.entries.map fun entry =>
      if hasName name entry then { entry with value } else entry }

/-- Binds a name to a value. A name that is bound already keeps its position. -/
def insert (bindings : Bindings) (name : String) (value : Value) : Bindings :=
  if bindings.contains name then bindings.replace name value
  else bindings.append ⟨some name, value⟩

/-- Binds a name only if it is not bound. -/
def insertNew (bindings : Bindings) (name : String) (value : Value) : Bindings :=
  if bindings.contains name then bindings else bindings.insert name value

/-- Adds a value without a name. -/
def push (bindings : Bindings) (value : Value) : Bindings :=
  bindings.append ⟨none, value⟩

/-- The next free position. -/
def nextPosition (bindings : Bindings) : Nat :=
  bindings.entries.length

/-- Binds a position in pinned positions that are in order. -/
def pinIn (position : Nat) (value : Value) : List (Nat × Value) → List (Nat × Value)
  | [] => [(position, value)]
  | (other, held) :: rest =>
      if position = other then (position, value) :: rest
      else if position < other then (position, value) :: (other, held) :: rest
      else (other, held) :: pinIn position value rest

/-- Pins a position of 64 bits to a value. -/
def pin (bindings : Bindings) (position : UInt64) (value : Value) : Bindings :=
  { bindings with pinned := pinIn position.toNat value bindings.pinned }

/-- Binds names in turn. -/
def insertAll (bindings : Bindings) (pairs : List (String × Value)) : Bindings :=
  pairs.foldl (fun held pair => held.insert pair.1 pair.2) bindings

/-- The value of a name. -/
def get? (bindings : Bindings) (name : String) : Option Value :=
  (bindings.entries.find? (hasName name)).map Binding.value

/-- The value in a position. -/
def atPosition? (bindings : Bindings) (position : Nat) : Option Value :=
  match bindings.pinned.lookup position with
  | some value => some value
  | none => bindings.entries[position]?.map Binding.value

/-- The value that a reference denotes. -/
def resolve? (bindings : Bindings) : Reference → Option Value
  | .name identifier => bindings.get? identifier
  | .position index => bindings.atPosition? index

/-- The value of a key that is written like a reference. -/
def atKey? (bindings : Bindings) (key : String) : Option Value :=
  (Reference.read? key.toList).bind bindings.resolve?

/-- The values in the order of their positions. -/
def arguments (bindings : Bindings) : List Value :=
  bindings.entries.map Binding.value

/-- The names with the positions they stay at, in the order of the positions. -/
def slots (bindings : Bindings) : List (String × Nat) :=
  bindings.entries.zipIdx.filterMap fun (entry, position) => entry.name.map (·, position)

/-- The names and their values in the order of their positions. -/
def named (bindings : Bindings) : List (String × Value) :=
  bindings.entries.filterMap fun entry => entry.name.map fun name => (name, entry.value)

/-- The names in the order of their positions. -/
def names (bindings : Bindings) : List String :=
  bindings.entries.filterMap Binding.name

/-- One more than the greatest position with a value, counted in 64 bits. Behind the last position
that they can hold the count overflows, and there is no number for it. -/
def size? (bindings : Bindings) : Option Nat :=
  match bindings.pinned.getLast? with
  | some (last, _) =>
      if last + 1 < Reference.positionBound then some (max bindings.entries.length (last + 1))
      else none
  | none => some bindings.entries.length

/-- Whether no position has a value. -/
def isEmpty (bindings : Bindings) : Bool :=
  bindings.entries.isEmpty && bindings.pinned.isEmpty

/-- Whether two lists of values agree in length and in every place. -/
def sameLists (left right : List α) (same : α → α → Bool) : Bool :=
  left.length == right.length && (left.zip right).all fun pair => same pair.1 pair.2

/-- Whether two sets of bindings have the same values in the same positions, the same names at the
same positions, and the same pinned positions. The order in which names are listed does not count. -/
def same (left right : Bindings) : Bool :=
  sameLists left.arguments right.arguments (· == ·) &&
    Entries.same left.slots right.slots &&
    sameLists left.pinned right.pinned
      (fun one other => one.1 == other.1 && one.2 == other.2)

instance : BEq Bindings := ⟨same⟩

/-- The bindings of a JSON document: an object binds names, an array binds positions. -/
def ofJson? : Json → Option Bindings
  | .object members => some (empty.insertAll (members.map fun (name, value) =>
      (name, Value.ofJson value)))
  | .array items => some (items.foldl (fun held item => held.push (Value.ofJson item)) empty)
  | _ => none

end Bindings

end MessageTemplate
