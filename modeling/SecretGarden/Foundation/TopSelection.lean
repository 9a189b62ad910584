import Mathlib.Data.List.Sort

/-! Selecting the first elements of a list under a linear order.
A tournament that keeps the first `count` of each group loses nothing: the first `count`
of the survivors are the first `count` of the whole field.
-/

namespace Foundation

variable {α : Type} [LinearOrder α]

/-- The first `count` elements in ascending order. -/
def top (count : Nat) (field : List α) : List α :=
  (field.insertionSort (· ≤ ·)).take count

/-- A selection holds `count` elements, or the whole field when that is smaller. -/
@[simp] theorem length_top (count : Nat) (field : List α)
    : (top count field).length = min count field.length := by
  simp [top]

/-- A selected element belongs to the field. -/
theorem mem_of_mem_top {count : Nat} {field : List α} {x : α} (selected : x ∈ top count field)
    : x ∈ field :=
  (List.mem_insertionSort _).mp (List.mem_of_mem_take selected)

/-- A selection is listed in ascending order. -/
theorem top_sorted (count : Nat) (field : List α)
    : (top count field).Pairwise (· ≤ ·) :=
  (List.pairwise_insertionSort (· ≤ ·) field).sublist (List.take_sublist _ _)

/-- Selecting from a duplicate-free field repeats nothing. -/
theorem top_nodup {count : Nat} {field : List α} (unique : field.Nodup)
    : (top count field).Nodup :=
  ((List.perm_insertionSort (· ≤ ·) field).nodup_iff.mpr unique).sublist
    (List.take_sublist _ _)

/-- The selection does not depend on the order in which the field is listed. -/
theorem top_perm {count : Nat} {left right : List α} (same : left.Perm right)
    : top count left = top count right := by
  have sorted : left.insertionSort (· ≤ ·) = right.insertionSort (· ≤ ·) := by
    apply List.Perm.eq_of_pairwise' (r := (· ≤ ·))
    · exact List.pairwise_insertionSort _ _
    · exact List.pairwise_insertionSort _ _
    · exact (List.perm_insertionSort _ _).trans (same.trans (List.perm_insertionSort _ _).symm)
  rw [top, sorted, top]

/-- An ascending list is its own arrangement, so selecting from it is taking a prefix. -/
theorem top_of_sorted {count : Nat} {field : List α} (sorted : field.Pairwise (· ≤ ·))
    : top count field = field.take count := by
  rw [top, List.Pairwise.insertionSort_eq sorted]

/-- Inserting into a truncated arrangement changes nothing below the truncation point,
by induction on the arrangement.
-/
theorem take_orderedInsert_take (count : Nat) (x : α) (sorted : List α)
    : ((sorted.take count).orderedInsert (· ≤ ·) x).take count
      = (sorted.orderedInsert (· ≤ ·) x).take count := by
  induction sorted generalizing count with
  | nil => simp
  | cons head rest ih =>
      cases count with
      | zero => simp
      | succ count =>
          simp only [List.take_succ_cons, List.orderedInsert_cons]
          split
          · simp only [List.take_succ_cons, List.cons.injEq, true_and]
            cases count with
            | zero => simp
            | succ count => simp [List.take_take]
          · simp only [List.take_succ_cons, ih]

/-- Only the selection of a block matters to what is selected from a larger list,
by induction on the other block.
-/
theorem top_append_top (count : Nat) (left right : List α)
    : top count (left ++ top count right) = top count (left ++ right) := by
  induction left with
  | nil =>
      simp only [List.nil_append]
      rw [top_of_sorted (top_sorted count right), top, List.take_take, Nat.min_self]
  | cons head rest ih =>
      simp only [top, List.cons_append, List.insertionSort_cons] at ih ⊢
      rw [← take_orderedInsert_take, ih, take_orderedInsert_take]

/-- The selection of the survivors of each group is the selection of the whole field,
by induction on the groups.
-/
theorem top_flatMap_top (count : Nat) (groups : List (List α))
    : top count (groups.flatMap (top count)) = top count groups.flatten := by
  induction groups with
  | nil => rfl
  | cons group rest ih =>
      have survivors
          : top count (top count group ++ rest.flatMap (top count))
            = top count (group ++ rest.flatMap (top count)) := by
        rw [top_perm List.perm_append_comm, top_append_top, top_perm List.perm_append_comm]
      rw [List.flatMap_cons, survivors, ← top_append_top, ih, top_append_top,
        List.flatten_cons]

/-- In a strictly ascending list exactly the elements before a position are smaller,
by induction on the list.
-/
theorem countP_lt_getElem {sorted : List α} (ascending : sorted.Pairwise (· < ·))
    {position : Nat} (inside : position < sorted.length)
    : sorted.countP (· < sorted[position]) = position := by
  induction sorted generalizing position with
  | nil => simp at inside
  | cons head rest ih =>
      obtain ⟨below, tail⟩ := List.pairwise_cons.mp ascending
      cases position with
      | zero =>
          simp only [List.getElem_cons_zero, List.countP_cons, lt_self_iff_false,
            decide_false, Bool.false_eq_true, ↓reduceIte, Nat.add_zero]
          apply List.countP_eq_zero.mpr
          intro x member
          simpa using (below x member).le
      | succ position =>
          have shorter : position < rest.length := by simpa using inside
          simp only [List.getElem_cons_succ, List.countP_cons]
          rw [ih tail shorter]
          simp [below rest[position] (List.getElem_mem shorter)]

/-- Arranging a duplicate-free field gives a strictly ascending list. -/
theorem insertionSort_ascending {field : List α} (unique : field.Nodup)
    : (field.insertionSort (· ≤ ·)).Pairwise (· < ·) := by
  have sorted := List.pairwise_insertionSort (· ≤ ·) field
  have distinct := (List.perm_insertionSort (· ≤ ·) field).nodup_iff.mpr unique
  exact (sorted.and distinct).imp fun ⟨below, apart⟩ => lt_of_le_of_ne below apart

/-- Counting the smaller elements numbers a duplicate-free field from zero: in ascending
order each element is numbered by its position.
-/
theorem ranks_perm_range {field : List α} (unique : field.Nodup)
    : (field.map fun x => field.countP (· < x)).Perm (List.range field.length) := by
  have permuted := List.perm_insertionSort (· ≤ ·) field
  have numbered
      : (field.insertionSort (· ≤ ·)).map (fun x => field.countP (· < x))
        = List.range field.length := by
    apply List.ext_getElem
    · simp
    · intro position inside _
      have ordered : position < (field.insertionSort (· ≤ ·)).length := by simpa using inside
      rw [List.getElem_map, List.getElem_range, ← permuted.countP_eq,
        countP_lt_getElem (insertionSort_ascending unique) ordered]
  rw [← numbered]
  exact permuted.symm.map _

/-- The element with exactly `position` smaller ones is the one selected at `position`. -/
theorem top_getElem_of_rank {count position : Nat} {field : List α} {x : α}
    (unique : field.Nodup) (member : x ∈ field) (within : position < count)
    (rank : field.countP (· < x) = position)
    : (top count field)[position]? = some x := by
  have permuted := List.perm_insertionSort (· ≤ ·) field
  obtain ⟨place, inside, found⟩ := List.getElem_of_mem (permuted.mem_iff.mpr member)
  have placed : place = position := by
    rw [← countP_lt_getElem (insertionSort_ascending unique) inside, found,
      permuted.countP_eq, rank]
  subst placed
  rw [top, List.getElem?_take_of_lt within, List.getElem?_eq_getElem inside, found]

end Foundation
