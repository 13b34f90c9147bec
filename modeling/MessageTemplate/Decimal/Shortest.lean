import MessageTemplate.Decimal.Digits
import MessageTemplate.Decimal.Exact

/-! # The shortest decimal that reads back

Every real number in an interval around a double reads back as that double. Among the decimals in
the interval, the one with the fewest digits is chosen, and of two such the nearer to the double.
Where both are equally near, the form that is written says which one is meant. -/

namespace MessageTemplate.Decimal

/-- Which of two equally near decimals is chosen. -/
inductive Tie where
  /-- The greater one. -/
  | greater
  /-- The one whose last digit is even. -/
  | even
deriving DecidableEq, Repr

/-- Whether a tie between a number and its successor goes to the successor. -/
def Tie.goesUp (tie : Tie) (below : Nat) : Bool :=
  match tie with
  | greater => true
  | even => below % 2 == 1

/-- A positive decimal `digits * 10 ^ exponent`. -/
structure Scaled where
  digits : Nat
  exponent : Int
deriving DecidableEq, Repr

/-- The reals that read back as a double, as fractions of one denominator. -/
structure Interval where
  lower : Nat
  value : Nat
  upper : Nat
  denominator : Nat
  /-- Whether the ends read back too, as they do for an even significand. -/
  closed : Bool

/-- The interval of a positive finite double. Below a power of two doubles lie half as far apart. -/
def interval (significand : Nat) (exponent : Int) : Interval :=
  let scale := twoTo (exponent - 2).toNat
  let gapBelow := if significand = twoTo 52 ∧ -1074 < exponent then 1 else 2
  { lower := (4 * significand - gapBelow) * scale
    value := 4 * significand * scale
    upper := (4 * significand + 2) * scale
    denominator := denominator (exponent - 2)
    closed := significand % 2 == 0 }

/-- Whether `digits * 10 ^ exponent` lies in an interval. -/
def Interval.contains (interval : Interval) (candidate : Scaled) : Bool :=
  let point := candidate.digits * tenTo candidate.exponent.toNat * interval.denominator
  let unit := tenTo (-candidate.exponent).toNat
  if interval.closed then interval.lower * unit ≤ point && point ≤ interval.upper * unit
  else interval.lower * unit < point && point < interval.upper * unit

/-- The multiple of `10 ^ exponent` that the interval holds nearest to its double. -/
def Interval.onGrid? (interval : Interval) (tie : Tie) (exponent : Int) : Option Scaled :=
  let numerator := interval.value * tenTo (-exponent).toNat
  let denominator := interval.denominator * tenTo exponent.toNat
  let below : Scaled := ⟨numerator / denominator, exponent⟩
  let above : Scaled := ⟨numerator / denominator + 1, exponent⟩
  let doubled := 2 * (numerator % denominator)
  let nearerAbove :=
    denominator < doubled || (doubled == denominator && tie.goesUp (numerator / denominator))
  match interval.contains below, interval.contains above with
  | true, true => some (if nearerAbove then above else below)
  | true, false => some below
  | false, true => some above
  | false, false => none

/-- The first hit on ever finer grids. Seventeen digits always suffice. -/
def Interval.search (interval : Interval) (tie : Tie) : (attempts : Nat) → (exponent : Int) → Scaled
  | 0, exponent => ⟨interval.value * tenTo (-exponent).toNat /
      (interval.denominator * tenTo exponent.toNat), exponent⟩
  | attempts + 1, exponent =>
      match interval.onGrid? tie exponent with
      | some found => found
      | none => interval.search tie attempts (exponent - 1)

/-- The shortest decimal of a positive finite double. -/
def shortest (tie : Tie) (significand : Nat) (exponent : Int) : Scaled :=
  let range := interval significand exponent
  let found := range.search tie 17 (decimalExponent range.value range.denominator)
  let stripped := withoutZeros 400 found.digits
  ⟨stripped.1, found.exponent + stripped.2⟩

end MessageTemplate.Decimal
