import Mathlib.Algebra.Order.Ring.Int
import Mathlib.Data.List.AList

/-! Finite keyed stores: Mathlib's association lists with one value type.
Each key is held at most once, by construction; the lemmas list and count the keys whose
values satisfy a predicate.
-/

namespace Foundation

variable {κ α : Type} [DecidableEq κ]

/-- Values held under distinct keys. -/
abbrev Store (κ α : Type) : Type := AList fun _ : κ => α

/-- The keys whose values satisfy `selects`. -/
def Store.keysWhere (store : Store κ α) (selects : α → Bool) : List κ :=
  (store.entries.filter fun cell => selects cell.2).map Sigma.fst

/-- Looking up after an insertion: the inserted value at its key, the old one elsewhere. -/
theorem Store.lookup_insert_apply (store : Store κ α) (written key : κ) (value : α)
    : (store.insert written value).lookup key
      = if key = written then some value else store.lookup key := by
  by_cases same : key = written
  · subst same
    simp
  · simp [same, AList.lookup_insert_ne same]

/-- What a store holds after an insertion is the inserted value, or was there before. -/
theorem Store.lookup_insert_eq_some {store : Store κ α} {written key : κ} {value found : α}
    : (store.insert written value).lookup key = some found
      ↔ key = written ∧ value = found ∨ key ≠ written ∧ store.lookup key = some found := by
  rw [lookup_insert_apply]
  split <;> simp [*]

/-- What is absent after an insertion was absent before. -/
theorem Store.lookup_insert_eq_none {store : Store κ α} {written key : κ} {value : α}
    : (store.insert written value).lookup key = none
      ↔ key ≠ written ∧ store.lookup key = none := by
  rw [lookup_insert_apply]
  split <;> simp [*]

/-- An insertion takes nothing away. -/
theorem Store.isSome_lookup_insert {store : Store κ α} {written key : κ} {value : α}
    (held : (store.lookup key).isSome) : ((store.insert written value).lookup key).isSome := by
  rw [lookup_insert_apply]
  split
  · rfl
  · exact held

/-- Looking up after a removal: nothing at the removed key, the old value elsewhere. -/
theorem Store.lookup_erase_apply (store : Store κ α) (removed key : κ)
    : (store.erase removed).lookup key
      = if key = removed then none else store.lookup key := by
  by_cases same : key = removed
  · subst same
    simp
  · simp [same, AList.lookup_erase_ne same]

/-- What a store holds after a removal was there before, under another key. -/
theorem Store.lookup_erase_eq_some {store : Store κ α} {removed key : κ} {found : α}
    : (store.erase removed).lookup key = some found
      ↔ key ≠ removed ∧ store.lookup key = some found := by
  rw [lookup_erase_apply]
  split <;> simp [*]

/-- A key is listed exactly when it holds a value that satisfies the predicate. -/
theorem Store.mem_keysWhere {store : Store κ α} {selects : α → Bool} {key : κ}
    : key ∈ store.keysWhere selects
      ↔ ∃ value, store.lookup key = some value ∧ selects value := by
  simp only [Store.keysWhere, List.mem_map, List.mem_filter, Sigma.exists, exists_and_right,
    exists_eq_right]
  exact exists_congr fun value =>
    and_congr_left fun _ => (AList.mem_lookup_iff (s := store)).symm

omit [DecidableEq κ] in
/-- No key is listed twice, since the store holds it once. -/
theorem Store.keysWhere_nodup (store : Store κ α) (selects : α → Bool)
    : (store.keysWhere selects).Nodup :=
  store.keys_nodup.sublist (List.filter_sublist.map Sigma.fst)

omit [DecidableEq κ] in
/-- A stricter predicate lists fewer of the keys, in the same order. -/
theorem Store.keysWhere_sublist (store : Store κ α) {stricter selects : α → Bool}
    (weaken : ∀ value, stricter value → selects value)
    : (store.keysWhere stricter).Sublist (store.keysWhere selects) := by
  apply List.Sublist.map
  apply List.monotone_filter_right
  exact fun cell => weaken cell.2

omit [DecidableEq κ] in
/-- Stores that list the same keys list them equally often. -/
theorem Store.keysWhere_perm {first second : Store κ α} {selects : α → Bool}
    (same : ∀ key, key ∈ first.keysWhere selects ↔ key ∈ second.keysWhere selects)
    : (first.keysWhere selects).Perm (second.keysWhere selects) :=
  (List.perm_ext_iff_of_nodup (first.keysWhere_nodup _) (second.keysWhere_nodup _)).mpr same

/-- A value stored under a new key is listed once more. -/
theorem Store.keysWhere_insert_new {store : Store κ α} {selects : α → Bool} {key : κ}
    {value : α} (unused : store.lookup key = none) (selected : selects value)
    : Store.keysWhere (store.insert key value) selects = key :: store.keysWhere selects := by
  have absent : key ∉ store := AList.lookup_eq_none.mp unused
  simp only [Store.keysWhere]
  rw [AList.entries_insert_of_notMem absent]
  simp [selected]

/-- Removing a key removes it from the listing. -/
theorem Store.keysWhere_erase_perm (store : Store κ α) (selects : α → Bool) (removed : κ)
    : (Store.keysWhere (store.erase removed) selects).Perm
        ((store.keysWhere selects).erase removed) := by
  refine (List.perm_ext_iff_of_nodup (keysWhere_nodup _ _)
    ((store.keysWhere_nodup selects).erase removed)).mpr fun key => ?_
  rw [(store.keysWhere_nodup selects).mem_erase_iff, mem_keysWhere, mem_keysWhere,
    lookup_erase_apply]
  split
  · next same => simp [same]
  · next other => simp [other]

/-- A removal takes the removed value out of the count. -/
theorem Store.length_keysWhere_erase (store : Store κ α) (selects : α → Bool) (removed : κ)
    : (Store.keysWhere (store.erase removed) selects).length
        + ((store.lookup removed).any selects).toNat
      = (store.keysWhere selects).length := by
  have listed : removed ∈ store.keysWhere selects ↔ (store.lookup removed).any selects := by
    rw [mem_keysWhere, Option.any_eq_true]
  rw [(store.keysWhere_erase_perm selects removed).length_eq]
  by_cases counted : (store.lookup removed).any selects
  · have present := listed.mpr counted
    rw [List.length_erase_of_mem present, counted, Bool.toNat_true]
    exact Nat.succ_pred_eq_of_pos (List.length_pos_of_mem present)
  · rw [List.erase_of_not_mem (mt listed.mp counted), Bool.not_eq_true _ |>.mp counted,
      Bool.toNat_false, Nat.add_zero]

/-- A written value replaces the old one in the count. -/
theorem Store.length_keysWhere_insert (store : Store κ α) (selects : α → Bool) (written : κ)
    (value : α)
    : (Store.keysWhere (store.insert written value) selects).length
        + ((store.lookup written).any selects).toNat
      = (store.keysWhere selects).length + (selects value).toNat := by
  have inserted
      : (Store.keysWhere (store.insert written value) selects).length
        = (Store.keysWhere (store.erase written) selects).length + (selects value).toNat := by
    rw [keysWhere, keysWhere, AList.entries_insert, List.filter_cons]
    cases selects value with
    | false => rfl
    | true => rfl
  rw [inserted, Nat.add_right_comm, length_keysWhere_erase]

end Foundation
