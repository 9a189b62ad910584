import Mathlib.Data.Nat.Bitwise

/-! Reading and clearing fields of packed numbers. -/

namespace Foundation

variable {position high low mask rest : Nat}

/-- A mask acts on the two parts of a number split at one position separately. -/
theorem and_of_split (below : low < 2 ^ position) (restBelow : rest < 2 ^ position)
    : (2 ^ position * high + low) &&& (2 ^ position * mask + rest)
      = 2 ^ position * (high &&& mask) + (low &&& rest) := by
  have both : low &&& rest < 2 ^ position := Nat.and_lt_two_pow low restBelow
  apply Nat.eq_of_testBit_eq
  intro bit
  rw [Nat.testBit_and, Nat.testBit_two_pow_mul_add _ below, Nat.testBit_two_pow_mul_add _ restBelow,
    Nat.testBit_two_pow_mul_add _ both]
  split <;> rw [Nat.testBit_and]

/-- The field of `width` bits at a position. -/
theorem field_of_split (below : low < 2 ^ position) (width : Nat)
    : ((2 ^ position * high + low) >>> position) &&& (2 ^ width - 1) = high % 2 ^ width := by
  rw [Nat.and_two_pow_sub_one_eq_mod, Nat.shiftRight_eq_div_pow,
    Nat.mul_add_div (Nat.two_pow_pos position), Nat.div_eq_of_lt below, Nat.add_zero]

end Foundation
