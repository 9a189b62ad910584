import Mathlib.Data.List.Nodup
import Mathlib.Data.Vector.Basic

/-! Drawing without repetition: a pool whose first places are exchanged, one after the
other, with places not drawn yet.
-/

namespace Foundation

variable {α : Type} {size : Nat} {choice : Nat → Nat} {pool : Vector α size} {length count : Nat}

/-- Exchange each of the first `count` places with the place chosen for it, in turn. -/
def partialShuffle (choice : Nat → Nat) (pool : Vector α size) : (count : Nat) → Vector α size
  | 0 => pool
  | k + 1 => (partialShuffle choice pool k).swapIfInBounds k (choice k)

/-- Every choice is a place not drawn yet among the first `length`. -/
def ChoosesAhead (choice : Nat → Nat) (length count : Nat) : Prop :=
  ∀ k < count, k ≤ choice k ∧ choice k < length

theorem ChoosesAhead.of_le {fewer : Nat} (ahead : ChoosesAhead choice length count)
    (least : fewer ≤ count) : ChoosesAhead choice length fewer :=
  fun k early => ahead k (early.trans_le least)

/-- There are at least as many places as draws. -/
theorem ChoosesAhead.le_length (ahead : ChoosesAhead choice length count) : count ≤ length := by
  cases count with
  | zero => exact Nat.zero_le _
  | succ count =>
      obtain ⟨later, inside⟩ := ahead count (Nat.lt_succ_self count)
      omega

/-- The checked exchange of two places of the pool. -/
theorem swapIfInBounds_eq {i j : Nat} (left : i < size) (right : j < size)
    : pool.swapIfInBounds i j = pool.swap i j left right := by
  apply Vector.toArray_inj.mp
  simp [Array.swapIfInBounds, left, right]

/-- Exchanging two of the first places rearranges the first places.
The places behind them do not change, so they cancel in the rearranged whole.
-/
theorem take_swap_perm {i j : Nat} (left : i < length) (right : j < length)
    (fits : length ≤ size)
    : ((pool.swapIfInBounds i j).toList.take length).Perm (pool.toList.take length) := by
  have leftInside : i < size := by omega
  have rightInside : j < size := by omega
  have behind : (pool.swap i j leftInside rightInside).toList.drop length
      = pool.toList.drop length := by
    apply List.ext_getElem?
    intro k
    rw [List.getElem?_drop, List.getElem?_drop, Vector.getElem?_toList,
      Vector.getElem?_toList, Vector.getElem?_swap, if_neg (by omega), if_neg (by omega)]
  have whole : (pool.swap i j leftInside rightInside).toList.Perm pool.toList :=
    (Vector.swap_perm leftInside rightInside).toList
  rw [← List.take_append_drop length (pool.swap i j leftInside rightInside).toList,
    ← List.take_append_drop length pool.toList, behind] at whole
  rw [swapIfInBounds_eq leftInside rightInside]
  exact (List.perm_append_right_iff _).mp whole

/-- The draws rearrange the first `length` places, by induction on the draws. -/
theorem take_partialShuffle_perm (ahead : ChoosesAhead choice length count)
    (fits : length ≤ size)
    : ((partialShuffle choice pool count).toList.take length).Perm (pool.toList.take length) := by
  induction count with
  | zero => exact List.Perm.refl _
  | succ k ih =>
      obtain ⟨later, inside⟩ := ahead k (Nat.lt_succ_self k)
      exact (take_swap_perm (by omega) inside fits).trans (ih (ahead.of_le (Nat.le_succ k)))

/-- A drawn place keeps what it drew, by induction on the later draws. -/
theorem getElem?_partialShuffle {i : Nat} (ahead : ChoosesAhead choice length count)
    (fits : length ≤ size) (drawn : i < count)
    : (partialShuffle choice pool count)[i]? = (partialShuffle choice pool (i + 1))[i]? := by
  induction count with
  | zero => omega
  | succ k ih =>
      rcases Nat.lt_succ_iff_lt_or_eq.mp drawn with earlier | rfl
      · obtain ⟨later, inside⟩ := ahead k (Nat.lt_succ_self k)
        rw [← ih (ahead.of_le (Nat.le_succ k)) earlier, partialShuffle,
          swapIfInBounds_eq (by omega) (by omega), Vector.getElem?_swap, if_neg (by omega),
          if_neg (by omega)]
      · rfl

/-- What is drawn from places without repetition has none, and comes from these places. -/
theorem partialShuffle_drawn (ahead : ChoosesAhead choice length count) (fits : length ≤ size)
    (distinct : (pool.toList.take length).Nodup)
    : ((partialShuffle choice pool count).toList.take count).Nodup
      ∧ ∀ x ∈ (partialShuffle choice pool count).toList.take count,
          x ∈ pool.toList.take length := by
  have rearranged
      : ((partialShuffle choice pool count).toList.take length).Perm (pool.toList.take length) :=
    take_partialShuffle_perm ahead fits
  have front
      : ((partialShuffle choice pool count).toList.take count).Sublist
          ((partialShuffle choice pool count).toList.take length) := by
    rw [← Nat.min_eq_left ahead.le_length, ← List.take_take]
    exact List.take_sublist _ _
  exact ⟨(rearranged.nodup_iff.mpr distinct).sublist front,
    fun x drawn => rearranged.mem_iff.mp (front.mem drawn)⟩

end Foundation
