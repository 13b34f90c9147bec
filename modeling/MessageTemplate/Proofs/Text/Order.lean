import Mathlib.Tactic.ByContra
import Mathlib.Tactic.SplitIfs
import MessageTemplate.Proofs.Checked.Text

/-! # The order of texts

Texts are in the order of their characters, and so are their bytes in UTF-8: `bytesOf_lt_iff`. An
order of names by bytes can therefore be had without ever writing the bytes down. -/

namespace MessageTemplate.Checked

/-- Of two numbers the smaller has the smaller digits in front, or else the smaller last digit. -/
theorem digits_lt {low high : Nat} (before : low < high) :
    low / 64 < high / 64 ∨ low / 64 = high / 64 ∧ low % 64 < high % 64 := by
  omega

/-- The smaller of two characters has the smaller byte where their bytes differ first. -/
theorem utf8EncodeChar_append_lt {first second : Char} (before : first < second)
    (left right : List UInt8) :
    String.utf8EncodeChar first ++ left < String.utf8EncodeChar second ++ right := by
  have ascends : first.val.toNat < second.val.toNat := before
  have bounded : second.val.toNat < 1114112 := by
    have valid := second.valid
    omega
  have last (number : Nat) : (number % 64 + 128) % 2 ^ 8 = number % 64 + 128 := by omega
  unfold String.utf8EncodeChar
  dsimp only
  generalize first.val.toNat = low at *
  generalize second.val.toNat = high at *
  rcases Nat.lt_or_ge 65535 low with great | small
  · -- Both have four bytes, one for each digit in base 64.
    have leading (number : Nat) (inside : number < 1114112) :
        (number / 262144 % 8 + 240) % 2 ^ 8 = number / 64 / 64 / 64 + 240 := by omega
    have digits (number : Nat) : number / 4096 = number / 64 / 64 :=
      (Nat.div_div_eq_div_mul number 64 64).symm
    iterate 6 rw [if_neg (by omega)]
    simp only [List.cons_append, List.cons_lt_cons_iff, UInt8.lt_iff_toNat_lt, ← UInt8.toNat_inj,
      UInt8.toNat_ofNat', last, leading low (by omega), leading high bounded, digits,
      Nat.add_lt_add_iff_right, Nat.add_right_cancel_iff]
    rcases digits_lt ascends with less | ⟨same, less⟩
    · rcases digits_lt less with less | ⟨same, less⟩
      · rcases digits_lt less with less | ⟨same, less⟩
        · exact .inl less
        · exact .inr ⟨same, .inl less⟩
      · simp only [same, less, true_or, true_and, or_true]
    · simp only [same, less, true_or, true_and, or_true]
  · split_ifs <;>
      simp only [List.cons_append, List.cons_lt_cons_iff, UInt8.lt_iff_toNat_lt, ← UInt8.toNat_inj,
        UInt8.toNat_ofNat', last] <;>
      omega

/-- What comes first as characters comes first as bytes. -/
theorem bytesOf_lt {left right : List Char} (before : left < right) :
    bytesOf left < bytesOf right := by
  induction left generalizing right with
  | nil =>
      cases right with
      | nil => exact absurd before (List.lt_irrefl [])
      | cons character rest =>
          obtain ⟨first, later, bytes, -, -⟩ := utf8EncodeChar_eq_cons character
          rw [bytesOf_cons, bytes]
          exact List.nil_lt_cons first _
  | cons character left inductionHypothesis =>
      cases right with
      | nil => exact absurd before (List.not_lt_nil _)
      | cons other right =>
          rw [bytesOf_cons, bytesOf_cons]
          rcases List.cons_lt_cons_iff.mp before with differs | ⟨rfl, restBefore⟩
          · exact utf8EncodeChar_append_lt differs _ _
          · exact List.append_left_lt (inductionHypothesis restBefore)

/-- One text stands before another where its bytes do. -/
theorem bytesOf_lt_iff {left right : List Char} : bytesOf left < bytesOf right ↔ left < right := by
  refine ⟨fun bytesBefore => ?_, bytesOf_lt⟩
  by_contra notBefore
  rcases List.le_iff_lt_or_eq.mp (List.not_lt.mp notBefore) with after | rfl
  · exact List.lt_asymm bytesBefore (bytesOf_lt after)
  · exact List.lt_irrefl _ bytesBefore

end MessageTemplate.Checked
