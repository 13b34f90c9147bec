import MessageTemplate.Locale.Digits

/-! # Byte counts

A count of bytes is written in the largest unit it fills. A unit is the base times the unit before
it; larger units show more fraction digits. -/

namespace MessageTemplate

namespace ByteCount

/-- A unit and how many fraction digits it shows. -/
structure Unit where
  name : String
  places : Nat
deriving DecidableEq, Repr

/-- The smallest unit above the byte. -/
def kilobyte : Unit := ⟨"KB", 0⟩

/-- The units above the kilobyte, in ascending order. -/
def largerUnits : List Unit := [⟨"MB", 1⟩, ⟨"GB", 2⟩, ⟨"TB", 2⟩, ⟨"PB", 2⟩, ⟨"EB", 2⟩]

/-- Divides an amount by the base as long as it fills the next unit. -/
def fill (base : Float) : (amount : Float) → (unit : Unit) → (larger : List Unit) → Float × Unit
  | amount, unit, [] => (amount, unit)
  | amount, unit, next :: larger =>
      if base ≤ amount then fill base (amount / base) next larger else (amount, unit)

end ByteCount

open ByteCount

/-- A number of bytes in units of a base. -/
def Locale.byteCount? (locale : Locale) (number : Number) (base : Nat) : Option (List Char) :=
  number.truncate?.bind fun bytes =>
    let magnitude := bytes.toInt.natAbs
    let sign := if bytes < 0 then ['-'] else []
    if magnitude = 0 then some "Zero KB".toList
    else if magnitude < base then
      let digits : Digits := ⟨decide (bytes < 0), magnitude, []⟩
      let unit := if magnitude = 1 then "byte" else "bytes"
      some (sign ++ locale.joinDigits digits 1 (some 3) ++ ' ' :: unit.toList)
    else
      let (amount, unit) :=
        fill (Float.ofNat base) (Float.ofNat magnitude / Float.ofNat base) kilobyte largerUnits
      (Digits.fixed? (.float amount) 0 unit.places).map fun digits =>
        sign ++ locale.joinDigits digits 1 (some 3) ++ ' ' :: unit.name.toList

end MessageTemplate
