import Mathlib.Algebra.Order.Ring.Nat
import Mathlib.Data.List.Perm.Subperm
import Mathlib.Data.List.Sort

/-! Paying a list of recipients: splitting an amount into equal shares, and visiting a
finite set through a strictly ascending cursor.
-/

namespace Foundation

/-- An amount split `count` ways: equal shares, the last one with the remainder. -/
def evenShares (amount count : Nat) : List Nat :=
  List.replicate (count - 1) (amount / count) ++ [amount - amount / count * (count - 1)]

/-- The last share is an equal share and the remainder of the division. -/
theorem last_evenShare {amount count : Nat} (nonempty : 1 ≤ count)
    : amount - amount / count * (count - 1) = amount / count + amount % count := by
  obtain ⟨fewer, rfl⟩ := Nat.exists_eq_add_of_le' nonempty
  have division := Nat.div_add_mod' amount (fewer + 1)
  rw [Nat.mul_add_one] at division
  rw [Nat.add_sub_cancel]
  generalize amount % (fewer + 1) = rest at division ⊢
  generalize amount / (fewer + 1) = share at division ⊢
  generalize share * fewer = most at division ⊢
  omega

/-- The shares add up to the amount. -/
theorem sum_evenShares {amount count : Nat}
    : (evenShares amount count).sum = amount := by
  have fits : amount / count * (count - 1) ≤ amount :=
    (Nat.mul_le_mul_left _ (Nat.sub_le _ _)).trans (Nat.div_mul_le_self _ _)
  simp only [evenShares, List.sum_append, List.sum_replicate_nat, List.sum_singleton]
  rw [Nat.mul_comm (count - 1)]
  omega

/-- No share is empty when there is a unit for everyone. -/
theorem one_le_of_mem_evenShares {amount count share : Nat} (nonempty : 1 ≤ count)
    (enough : count ≤ amount) (member : share ∈ evenShares amount count) : 1 ≤ share := by
  have positive : 1 ≤ amount / count := (Nat.one_le_div_iff nonempty).mpr enough
  rcases List.mem_append.mp member with equal | last
  · rwa [List.eq_of_mem_replicate equal]
  · rw [List.mem_singleton.mp last, last_evenShare nonempty]
    omega

variable {α : Type} [LinearOrder α]

/-- Targets visited in strictly ascending order, none of them above the cursor. -/
structure Visited (targets visited : List α) (cursor : α) : Prop where
  ascending : visited.Pairwise (· < ·)
  included : ∀ target ∈ visited, target ∈ targets
  below : ∀ target ∈ visited, target ≤ cursor

/-- Nothing has been visited at first. -/
theorem Visited.nil {targets : List α} {cursor : α} : Visited targets [] cursor :=
  ⟨List.Pairwise.nil, by simp, by simp⟩

/-- The last of an ascending batch, or the cursor before it. -/
theorem le_getLast_of_ascending {cursor target : α} {batch : List α}
    (ascending : (cursor :: batch).Pairwise (· < ·)) (member : target ∈ cursor :: batch)
    : target ≤ batch.getLast?.getD cursor := by
  induction batch generalizing cursor target with
  | nil => simp_all
  | cons next rest ih =>
      obtain ⟨above, tail⟩ := List.pairwise_cons.mp ascending
      rw [List.getLast?_cons, Option.getD_some]
      rcases List.mem_cons.mp member with rfl | later
      · exact (above next List.mem_cons_self).le.trans (ih tail List.mem_cons_self)
      · exact ih tail later

/-- An ascending batch of targets above the cursor extends the visit. -/
theorem Visited.extend {targets visited batch : List α} {cursor : α}
    (known : Visited targets visited cursor)
    (ascending : (cursor :: batch).Pairwise (· < ·))
    (included : ∀ target ∈ batch, target ∈ targets)
    : Visited targets (visited ++ batch) (batch.getLast?.getD cursor) := by
  obtain ⟨above, tail⟩ := List.pairwise_cons.mp ascending
  have advanced : cursor ≤ batch.getLast?.getD cursor :=
    le_getLast_of_ascending ascending List.mem_cons_self
  constructor
  · exact List.pairwise_append.mpr ⟨known.ascending, tail, fun earlier old later new =>
      (known.below earlier old).trans_lt (above later new)⟩
  · intro target member
    exact (List.mem_append.mp member).elim (known.included target) (included target)
  · intro target member
    rcases List.mem_append.mp member with old | new
    · exact (known.below target old).trans advanced
    · exact le_getLast_of_ascending ascending (List.mem_cons_of_mem _ new)

/-- No target is visited twice. -/
theorem Visited.nodup {targets visited : List α} {cursor : α}
    (known : Visited targets visited cursor) : visited.Nodup :=
  known.ascending.imp ne_of_lt

/-- As many visits as there are targets visit each of them exactly once. -/
theorem Visited.complete {targets visited : List α} {cursor : α}
    (known : Visited targets visited cursor) (count : targets.length ≤ visited.length)
    : visited.Perm targets :=
  (List.subperm_of_subset known.nodup known.included).perm_of_length_le count

/-- The targets may change as long as the visited ones stay. -/
theorem Visited.mono {targets others visited : List α} {cursor : α}
    (known : Visited targets visited cursor) (kept : ∀ target ∈ targets, target ∈ others)
    : Visited others visited cursor :=
  ⟨known.ascending, fun target member => kept target (known.included target member),
    known.below⟩

end Foundation
