/-! # Powers of two and ten

Doubles are counted in powers of two and decimals in powers of ten. -/

namespace MessageTemplate.Decimal

/-- A power of two. -/
def twoTo (exponent : Nat) : Nat :=
  Nat.pow 2 exponent

/-- A power of ten. -/
def tenTo (exponent : Nat) : Nat :=
  Nat.pow 10 exponent

@[simp] theorem twoTo_zero : twoTo 0 = 1 := rfl

theorem twoTo_succ (exponent : Nat) : twoTo (exponent + 1) = twoTo exponent * 2 := rfl

@[simp] theorem tenTo_zero : tenTo 0 = 1 := rfl

theorem tenTo_succ (exponent : Nat) : tenTo (exponent + 1) = tenTo exponent * 10 := rfl

end MessageTemplate.Decimal
