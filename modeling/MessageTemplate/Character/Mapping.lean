/-! # Character mappings

A mapping moves runs of characters by one distance each. A run may skip every other character,
because upper and lower case often alternate. A few characters expand to several. -/

namespace MessageTemplate.Character

/-- The characters `first, first + step, … , last`, each mapped `distance` code points away. -/
structure Run where
  first : Nat
  last : Nat
  step : Nat
  distance : Int

/-- Whether the run holds a code point. -/
def Run.contains (run : Run) (code : Nat) : Bool :=
  run.first ≤ code && code ≤ run.last && (code - run.first) % run.step == 0

/-- Runs of shifted characters, and the characters that expand to several. -/
structure Mapping where
  runs : List Run
  expansions : List (Nat × List Nat)

/-- What a mapping makes of a character: its expansion, its shifted form, or itself. -/
def Mapping.apply (mapping : Mapping) (character : Char) : List Char :=
  match mapping.expansions.lookup character.toNat with
  | some codes => codes.map Char.ofNat
  | none =>
      match mapping.runs.find? (·.contains character.toNat) with
      | some run => [Char.ofNat (character.toNat + run.distance).toNat]
      | none => [character]

end MessageTemplate.Character
