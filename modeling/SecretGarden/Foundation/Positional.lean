import Mathlib.Data.Nat.Digits.Defs

/-! Numbers spelled in a base, most significant digit first.
Spellings of one length compare as the numbers they spell do: the first difference decides.
-/

namespace Foundation

/-- The number that the digits spell. -/
def spelled (base : Nat) (digits : List Nat) : Nat := Nat.ofDigits base digits.reverse

/-- The difference at the first position where two spellings differ. -/
def firstDifference : List Nat → List Nat → Int
  | x :: xs, y :: ys => if x ≠ y then (x : Int) - y else firstDifference xs ys
  | _, _ => 0

variable {base : Nat}

/-- The first digit weighs as much as all numbers of the remaining length. -/
theorem spelled_cons (base digit : Nat) (rest : List Nat)
    : spelled base (digit :: rest) = spelled base rest + base ^ rest.length * digit := by
  rw [spelled, List.reverse_cons, Nat.ofDigits_append, Nat.ofDigits_singleton,
    List.length_reverse, spelled]

theorem spelled_lt (proper : 1 < base) {digits : List Nat} (below : ∀ digit ∈ digits, digit < base)
    : spelled base digits < base ^ digits.length := by
  rw [spelled, ← List.length_reverse]
  exact Nat.ofDigits_lt_base_pow_length proper fun digit listed =>
    below digit (List.mem_reverse.mp listed)

/-- A smaller first digit makes the smaller number, whatever follows. -/
theorem spelled_lt_of_first (proper : 1 < base) {x y : Nat} {xs ys : List Nat}
    (length : xs.length = ys.length) (below : ∀ digit ∈ xs, digit < base) (first : x < y)
    : spelled base (x :: xs) < spelled base (y :: ys) := by
  have small := spelled_lt proper below
  rw [spelled_cons, spelled_cons, ← length]
  calc
    spelled base xs + base ^ xs.length * x
      < base ^ xs.length + base ^ xs.length * x := Nat.add_lt_add_right small _
    _ = base ^ xs.length * (x + 1) := by rw [Nat.mul_succ, Nat.add_comm]
    _ ≤ base ^ xs.length * y := Nat.mul_le_mul_left _ first
    _ ≤ spelled base ys + base ^ xs.length * y := Nat.le_add_left _ _

/-- The first difference has the sign of the comparison, by induction on the digits. -/
theorem firstDifference_nonpos (proper : 1 < base) {xs ys : List Nat}
    (length : xs.length = ys.length) (belowX : ∀ digit ∈ xs, digit < base)
    (belowY : ∀ digit ∈ ys, digit < base)
    : firstDifference xs ys ≤ 0 ↔ spelled base xs ≤ spelled base ys := by
  induction xs generalizing ys with
  | nil =>
      cases ys with
      | nil => simp [firstDifference]
      | cons y ys => cases length
  | cons x xs ih =>
      cases ys with
      | nil => cases length
      | cons y ys =>
          have rest : xs.length = ys.length := Nat.succ.inj length
          obtain ⟨_, laterX⟩ := List.forall_mem_cons.mp belowX
          obtain ⟨_, laterY⟩ := List.forall_mem_cons.mp belowY
          unfold firstDifference
          rcases Nat.lt_trichotomy x y with smaller | same | larger
          · rw [if_pos (ne_of_lt smaller)]
            exact iff_of_true (by omega) (spelled_lt_of_first proper rest laterX smaller).le
          · subst same
            rw [if_neg (not_not.mpr rfl), ih rest laterX laterY, spelled_cons, spelled_cons, rest,
              Nat.add_le_add_iff_right]
          · rw [if_pos (ne_of_gt larger)]
            refine iff_of_false (by omega) (not_le.mpr ?_)
            exact spelled_lt_of_first proper rest.symm laterY larger

/-- Spellings of one length are told apart by the numbers they spell. -/
theorem spelled_injective (proper : 1 < base) {xs ys : List Nat}
    (length : xs.length = ys.length) (belowX : ∀ digit ∈ xs, digit < base)
    (belowY : ∀ digit ∈ ys, digit < base) (same : spelled base xs = spelled base ys)
    : xs = ys := by
  apply List.reverse_inj.mp
  refine Nat.ofDigits_inj_of_len_eq proper (by simpa using length) ?_ ?_ same
  · exact fun digit listed => belowX digit (List.mem_reverse.mp listed)
  · exact fun digit listed => belowY digit (List.mem_reverse.mp listed)

end Foundation
