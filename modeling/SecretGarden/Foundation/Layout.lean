import Mathlib.Algebra.Order.Ring.Int
import Mathlib.Data.List.Perm.Subperm
import Mathlib.Data.List.Sort

/-! Declared partitions of a set of keys into consecutive intervals.
A layout records how many keys each interval holds and its first key. When the declared
sizes add up to the number of keys and one run is accepted for every interval, every
accepted run is exactly the keys of its interval.
-/

namespace Foundation

variable {κ : Type} [LinearOrder κ]

/-- The declared size and first key of each interval. -/
structure Layout (κ : Type) where
  sizes : List Nat
  bounds : List κ
deriving DecidableEq

/-- A key lies in interval `index`: at or above its first key and below the next one's. -/
def Layout.Within (layout : Layout κ) (index : Nat) (key : κ) : Prop :=
  (∀ low, layout.bounds[index]? = some low → low ≤ key)
  ∧ ∀ high, layout.bounds[index + 1]? = some high → key < high

instance (layout : Layout κ) (index : Nat) (key : κ) : Decidable (layout.Within index key) :=
  inferInstanceAs (Decidable (_ ∧ _))

/-- A run admissible for interval `index`: ascending, of the declared size, starting at
the declared key and below the next interval.
-/
structure Layout.Admits (layout : Layout κ) (index : Nat) (run : List κ) : Prop where
  size : layout.sizes[index]? = some run.length
  first : run.head? = layout.bounds[index]?
  ascending : run.Pairwise (· < ·)
  below : ∀ key ∈ run, ∀ high, layout.bounds[index + 1]? = some high → key < high

theorem Layout.admits_iff {layout : Layout κ} {index : Nat} {run : List κ}
    : layout.Admits index run
      ↔ layout.sizes[index]? = some run.length
        ∧ run.head? = layout.bounds[index]?
        ∧ run.Pairwise (· < ·)
        ∧ ∀ key ∈ run, ∀ high ∈ layout.bounds[index + 1]?, key < high :=
  ⟨fun ⟨size, first, ascending, below⟩ => ⟨size, first, ascending, below⟩,
    fun ⟨size, first, ascending, below⟩ => ⟨size, first, ascending, below⟩⟩

instance (layout : Layout κ) (index : Nat) (run : List κ)
    : Decidable (layout.Admits index run) :=
  decidable_of_iff _ Layout.admits_iff.symm

/-- Every key of an admitted run lies in its interval: ascending from the first key. -/
theorem Layout.Admits.within {layout : Layout κ} {index : Nat} {run : List κ}
    (admitted : layout.Admits index run) {key : κ} (member : key ∈ run)
    : layout.Within index key := by
  refine ⟨fun low declared => ?_, admitted.below key member⟩
  cases run with
  | nil => cases member
  | cons head rest =>
      have first : head = low := by
        have matched := admitted.first
        rw [declared] at matched
        exact Option.some.inj matched
      subst first
      rcases List.mem_cons.mp member with same | later
      · exact same.ge
      · exact ((List.pairwise_cons.mp admitted.ascending).1 key later).le

/-- Intervals with ascending first keys do not overlap. -/
theorem Layout.within_unique {layout : Layout κ}
    (ascending : layout.bounds.Pairwise (· < ·))
    {first second : Nat} {key : κ}
    (firstInside : first < layout.bounds.length) (secondInside : second < layout.bounds.length)
    (inFirst : layout.Within first key) (inSecond : layout.Within second key)
    : first = second := by
  have ordered {low high : Nat} (inside : high < layout.bounds.length) (lt : low < high)
      (inLow : layout.Within low key) (inHigh : layout.Within high key) : False := by
    have next : low + 1 < layout.bounds.length := by omega
    have above := inLow.2 _ (List.getElem?_eq_getElem next)
    have below := inHigh.1 _ (List.getElem?_eq_getElem inside)
    rcases Nat.lt_or_eq_of_le (Nat.succ_le_of_lt lt) with strict | same
    · have apart := List.pairwise_iff_getElem.mp ascending (low + 1) high next inside strict
      exact absurd (above.trans apart) (not_lt.mpr below)
    · subst same
      exact absurd above (not_lt.mpr below)
  rcases Nat.lt_trichotomy first second with lt | same | gt
  · exact (ordered secondInside lt inFirst inSecond).elim
  · exact same
  · exact (ordered firstInside gt inSecond inFirst).elim

/-- A family of admitted runs, one for each interval. -/
structure Layout.Family (layout : Layout κ) (runs : Nat → List κ) : Prop where
  ascending : layout.bounds.Pairwise (· < ·)
  aligned : layout.sizes.length = layout.bounds.length
  admitted : ∀ index < layout.bounds.length, layout.Admits index (runs index)

variable {layout : Layout κ} {runs : Nat → List κ}

/-- The runs of a family laid end to end. -/
def Layout.concat (layout : Layout κ) (runs : Nat → List κ) : List κ :=
  (List.range layout.bounds.length).flatMap runs

/-- The runs of a family share no key. -/
theorem Layout.Family.concat_nodup (family : layout.Family runs)
    : (layout.concat runs).Nodup := by
  apply List.nodup_flatMap.mpr
  refine ⟨fun index member => ?_, ?_⟩
  · exact (family.admitted index (List.mem_range.mp member)).ascending.imp ne_of_lt
  · have distinct := List.nodup_range (n := layout.bounds.length)
    rw [List.Nodup, List.pairwise_iff_forall_sublist] at distinct
    rw [List.pairwise_iff_forall_sublist]
    intro first second sub key inFirst inSecond
    have firstInside : first < layout.bounds.length :=
      List.mem_range.mp (sub.subset (by simp))
    have secondInside : second < layout.bounds.length :=
      List.mem_range.mp (sub.subset (by simp))
    exact distinct sub (Layout.within_unique family.ascending firstInside secondInside
      ((family.admitted first firstInside).within inFirst)
      ((family.admitted second secondInside).within inSecond))

/-- The runs of a family hold as many keys as the layout declares. -/
theorem Layout.Family.concat_length (family : layout.Family runs)
    : (layout.concat runs).length = layout.sizes.sum := by
  rw [Layout.concat, List.length_flatMap]
  congr 1
  apply List.ext_getElem
  · simp [family.aligned]
  · intro index inside declared
    have bounded : index < layout.bounds.length := by simpa using inside
    have size := (family.admitted index bounded).size
    rw [List.getElem?_eq_getElem declared] at size
    simpa using (Option.some.inj size).symm

section Covering

variable {field : List κ}

/-- A family of declared size of the whole field lists the field exactly once:
distinct members of the field, as many as it has.
-/
theorem Layout.Family.concat_perm (family : layout.Family runs)
    (total : layout.sizes.sum = field.length)
    (drawn : ∀ index < layout.bounds.length, ∀ key ∈ runs index, key ∈ field)
    : (layout.concat runs).Perm field := by
  apply (List.subperm_of_subset family.concat_nodup ?_).perm_of_length_le
  · rw [family.concat_length, total]
  · intro key member
    obtain ⟨index, inside, inRun⟩ := List.mem_flatMap.mp member
    exact drawn index (List.mem_range.mp inside) key inRun

/-- A family covering the field: each interval's keys are exactly its run's keys. -/
theorem Layout.Family.mem_iff_within (family : layout.Family runs)
    (total : layout.sizes.sum = field.length)
    (drawn : ∀ index < layout.bounds.length, ∀ key ∈ runs index, key ∈ field)
    {index : Nat} (inside : index < layout.bounds.length) {key : κ}
    : key ∈ runs index ↔ key ∈ field ∧ layout.Within index key := by
  constructor
  · exact fun member =>
      ⟨drawn index inside key member, (family.admitted index inside).within member⟩
  · rintro ⟨entered, within⟩
    have listed := (family.concat_perm total drawn).mem_iff.mpr entered
    obtain ⟨other, otherInside, inRun⟩ := List.mem_flatMap.mp listed
    have bounded := List.mem_range.mp otherInside
    have same := Layout.within_unique family.ascending inside bounded within
      ((family.admitted other bounded).within inRun)
    exact same ▸ inRun

/-- Any run of field keys admitted for an interval of a covering family is that
interval's run: an ascending subset of the same size.
-/
theorem Layout.Family.admitted_unique (family : layout.Family runs)
    (total : layout.sizes.sum = field.length)
    (drawn : ∀ index < layout.bounds.length, ∀ key ∈ runs index, key ∈ field)
    {index : Nat} (inside : index < layout.bounds.length) {run : List κ}
    (admitted : layout.Admits index run) (entered : ∀ key ∈ run, key ∈ field)
    : run = runs index := by
  have canonical := family.admitted index inside
  have subset : run ⊆ runs index := fun key member =>
    (family.mem_iff_within total drawn inside).mpr
      ⟨entered key member, admitted.within member⟩
  have sizes : run.length = (runs index).length := by
    have declared := admitted.size
    rw [canonical.size] at declared
    exact (Option.some.inj declared).symm
  have nodup : run.Nodup := admitted.ascending.imp ne_of_lt
  have permuted := (List.subperm_of_subset nodup subset).perm_of_length_le sizes.ge
  exact permuted.eq_of_pairwise' (admitted.ascending.imp le_of_lt)
    (canonical.ascending.imp le_of_lt)

end Covering

--------------------------------------------------------------------------------
-- Intervals of a field
--------------------------------------------------------------------------------

/-- The field's keys in one interval, in ascending order. -/
def Layout.interval (layout : Layout κ) (field : List κ) (index : Nat) : List κ :=
  (field.filter (layout.Within index)).insertionSort (· ≤ ·)

/-- The layout splits the field: some family of runs of field keys fills it. -/
def Layout.Splits (layout : Layout κ) (field : List κ) : Prop :=
  layout.sizes.sum = field.length
  ∧ ∃ runs, layout.Family runs
      ∧ ∀ index < layout.bounds.length, ∀ key ∈ runs index, key ∈ field

variable {field : List κ}

/-- An interval lists each of its keys once, in ascending order. -/
theorem Layout.interval_ascending (unique : field.Nodup) (index : Nat)
    : (layout.interval field index).Pairwise (· < ·) := by
  have sorted := List.pairwise_insertionSort (· ≤ ·) (field.filter (layout.Within index))
  have distinct := (List.perm_insertionSort (· ≤ ·) (field.filter (layout.Within index))
    ).nodup_iff.mpr (unique.filter _)
  exact (sorted.and distinct).imp fun ⟨below, apart⟩ => lt_of_le_of_ne below apart

theorem Layout.mem_interval {index : Nat} {key : κ}
    : key ∈ layout.interval field index ↔ key ∈ field ∧ layout.Within index key := by
  simp [Layout.interval]

/-- The runs that fill a layout are the field's intervals: both are ascending with the
same keys.
-/
theorem Layout.Family.eq_interval (family : layout.Family runs)
    (total : layout.sizes.sum = field.length)
    (drawn : ∀ index < layout.bounds.length, ∀ key ∈ runs index, key ∈ field)
    {index : Nat} (inside : index < layout.bounds.length)
    : runs index = layout.interval field index := by
  have unique : field.Nodup :=
    (family.concat_perm total drawn).nodup_iff.mp family.concat_nodup
  have ascending := (family.admitted index inside).ascending
  have sorted := layout.interval_ascending unique index
  have permuted : (runs index).Perm (layout.interval field index) :=
    (List.perm_ext_iff_of_nodup (ascending.imp ne_of_lt) (sorted.imp ne_of_lt)).mpr fun key =>
      (family.mem_iff_within total drawn inside).trans Layout.mem_interval.symm
  exact permuted.eq_of_pairwise' (ascending.imp le_of_lt) (sorted.imp le_of_lt)

/-- A split field lists no key twice. -/
theorem Layout.Splits.nodup (splits : layout.Splits field) : field.Nodup := by
  obtain ⟨total, runs, family, drawn⟩ := splits
  exact (family.concat_perm total drawn).nodup_iff.mp family.concat_nodup

/-- Over a split field an admitted run of field keys is the whole interval. -/
theorem Layout.Splits.admitted_eq (splits : layout.Splits field) {index : Nat}
    (inside : index < layout.bounds.length) {run : List κ}
    (admitted : layout.Admits index run) (entered : ∀ key ∈ run, key ∈ field)
    : run = layout.interval field index := by
  obtain ⟨total, runs, family, drawn⟩ := splits
  rw [family.admitted_unique total drawn inside admitted entered,
    family.eq_interval total drawn inside]

/-- The intervals of a split field are admitted themselves. -/
theorem Layout.Splits.admits (splits : layout.Splits field) {index : Nat}
    (inside : index < layout.bounds.length)
    : layout.Admits index (layout.interval field index) := by
  obtain ⟨total, runs, family, drawn⟩ := splits
  rw [← family.eq_interval total drawn inside]
  exact family.admitted index inside

/-- The intervals of a split field list it exactly once. -/
theorem Layout.Splits.concat_perm (splits : layout.Splits field)
    : (layout.concat (layout.interval field)).Perm field := by
  obtain ⟨total, runs, family, drawn⟩ := splits
  have same : layout.concat (layout.interval field) = layout.concat runs :=
    List.flatMap_congr fun index member =>
      (family.eq_interval total drawn (List.mem_range.mp member)).symm
  rw [same]
  exact family.concat_perm total drawn

/-- Different intervals of a split field share no key. -/
theorem Layout.Splits.disjoint (splits : layout.Splits field) {first second : Nat}
    (firstInside : first < layout.bounds.length) (secondInside : second < layout.bounds.length)
    (apart : first ≠ second)
    : (layout.interval field first).Disjoint (layout.interval field second) := by
  obtain ⟨_, runs, family, _⟩ := splits
  intro key inFirst inSecond
  exact apart (Layout.within_unique family.ascending firstInside secondInside
    (Layout.mem_interval.mp inFirst).2 (Layout.mem_interval.mp inSecond).2)

/-- An interval does not depend on the order in which the field is listed. -/
theorem Layout.interval_perm {others : List κ} (same : field.Perm others)
    : layout.interval field = layout.interval others := by
  funext index
  apply List.Perm.eq_of_pairwise' (r := (· ≤ ·))
  · exact List.pairwise_insertionSort _ _
  · exact List.pairwise_insertionSort _ _
  · exact (List.perm_insertionSort _ _).trans
      ((same.filter _).trans (List.perm_insertionSort _ _).symm)

/-- Neither does whether a layout splits it. -/
theorem Layout.Splits.perm {others : List κ} (splits : layout.Splits field)
    (same : field.Perm others) : layout.Splits others := by
  obtain ⟨total, runs, family, drawn⟩ := splits
  refine ⟨total.trans same.length_eq, runs, family, fun index inside key member => ?_⟩
  exact same.mem_iff.mp (drawn index inside key member)

/-- A layout splits a field exactly when it is consistent and admits every interval. -/
theorem Layout.splits_iff
    : layout.Splits field
      ↔ layout.sizes.sum = field.length
        ∧ layout.bounds.Pairwise (· < ·)
        ∧ layout.sizes.length = layout.bounds.length
        ∧ ∀ index ∈ List.range layout.bounds.length,
            layout.Admits index (layout.interval field index) := by
  constructor
  · intro splits
    refine ⟨splits.1, ?_, ?_, fun index listed => splits.admits (List.mem_range.mp listed)⟩
    · obtain ⟨_, _, family, _⟩ := splits
      exact family.ascending
    · obtain ⟨_, _, family, _⟩ := splits
      exact family.aligned
  · rintro ⟨total, ascending, aligned, admits⟩
    refine ⟨total, layout.interval field, ⟨ascending, aligned, fun index inside => ?_⟩, ?_⟩
    · exact admits index (List.mem_range.mpr inside)
    · exact fun index _ key member => (Layout.mem_interval.mp member).1

instance (layout : Layout κ) (field : List κ) : Decidable (layout.Splits field) :=
  decidable_of_iff _ Layout.splits_iff.symm

end Foundation
