import Mathlib.Algebra.Order.Ring.Int
import Mathlib.Data.Fin.Basic

/-! Integers of a fixed width. A computation in such a type has a result only where the result
stays inside the type, so a value is also the proof that nothing overflowed, underflowed or was
cut off on the way.
-/

namespace Foundation

/-- The values of an unsigned type. -/
abbrev Unsigned (bits : Nat) : Type := Fin (2 ^ bits)

-- Literals of the two small types, without a search for what makes `2 ^ bits` positive.
instance neZero_byte : NeZero (2 ^ 8) := ⟨by decide⟩

instance neZero_word : NeZero (2 ^ 16) := ⟨by decide⟩

/-- A result in an unsigned type: a sum, a product, or a conversion that loses nothing. -/
def narrow (bits value : Nat) : Option (Unsigned bits) :=
  if inside : value < 2 ^ bits then some ⟨value, inside⟩ else none

/-- A difference in an unsigned type. -/
def minus {bits : Nat} (value : Unsigned bits) (less : Nat) : Option (Unsigned bits) :=
  if less ≤ value then some ⟨value - less, (Nat.sub_le _ _).trans_lt value.isLt⟩ else none

/-- A result in a signed type. -/
def signed (bits : Nat) (value : Int) : Option Int :=
  if -2 ^ (bits - 1) ≤ value ∧ value < 2 ^ (bits - 1) then some value else none

variable {bits value : Nat}

theorem narrow_of_lt (inside : value < 2 ^ bits) : narrow bits value = some ⟨value, inside⟩ :=
  dif_pos inside

theorem minus_of_le {value : Unsigned bits} {less : Nat} (enough : less ≤ value)
    : minus value less = some ⟨value - less, (Nat.sub_le _ _).trans_lt value.isLt⟩ :=
  if_pos enough

/-- A value inside the type has a result there. -/
theorem exists_narrow (bits value : Nat) (inside : value < 2 ^ bits)
    : ∃ result, narrow bits value = some result ∧ result.val = value :=
  ⟨_, narrow_of_lt inside, rfl⟩

/-- Taking away no more than there is has a result. -/
theorem exists_minus (value : Unsigned bits) (less : Nat) (enough : less ≤ value)
    : ∃ result, minus value less = some result ∧ result.val = value - less :=
  ⟨_, minus_of_le enough, rfl⟩

/-- A sequence whose first part has a result is the rest of it. -/
theorem bind_of_some {α β : Type} {first : Option α} {next : α → Option β} {result : α}
    (fits : first = some result) : first >>= next = next result := by
  rw [fits]
  rfl

/-- A signed result is the value itself. -/
theorem signed_eq_some {value result : Int} (fits : signed bits value = some result)
    : value = result := by
  unfold signed at fits
  split at fits
  · exact Option.some.inj fits
  · cases fits

end Foundation
