import Mathlib.Data.List.Nodup
import Mathlib.Data.Vector.Basic

/-! Fixed arrays whose used slots come first: the used part grows at its end, and taking an
element out moves the later ones forward.
-/

namespace Foundation

variable {α : Type} {size : Nat} {blank : α} {slots : Vector α size} {used : List α}

/-- The array lists `used` from its first slot on and is blank behind it. -/
def Listed (blank : α) (slots : Vector α size) (used : List α) : Prop :=
  slots.toList = used ++ List.replicate (size - used.length) blank

/-- Copy the next slot into each slot from `pos` on, up to the last of `count` slots. -/
def shiftLeft (blank : α) (slots : Vector α size) (pos count : Nat) : Vector α size :=
  (List.range' pos (count - 1 - pos)).foldl
    (fun slots i => slots.setIfInBounds i (slots[i + 1]?.getD blank)) slots

theorem lists_replicate : Listed blank (Vector.replicate size blank) [] := by
  simp [Listed]

namespace Listed

/-- The used part fits the array. -/
theorem length_le (listed : Listed blank slots used) : used.length ≤ size := by
  have lengths := congrArg List.length listed
  simp only [Vector.length_toList, List.length_append, List.length_replicate] at lengths
  omega

/-- Cutting the array behind the used slots gives the used part. -/
theorem take_eq (listed : Listed blank slots used) : slots.toList.take used.length = used := by
  rw [listed, List.take_left]

/-- What is behind the used slots is blank. -/
theorem drop_eq (listed : Listed blank slots used)
    : slots.toList.drop used.length = List.replicate (size - used.length) blank := by
  rw [listed, List.drop_left]

/-- The content of each slot of the array. -/
theorem getElem? (listed : Listed blank slots used) (k : Nat)
    : slots[k]? = if k < used.length then used[k]?
        else if k < size then some blank else none := by
  have fits := listed.length_le
  rw [← Vector.getElem?_toList, listed, List.getElem?_append, List.getElem?_replicate]
  split
  · rfl
  · split <;> split <;> first | rfl | omega

/-- An array with such contents lists the used part. -/
theorem of_getElem? (fits : used.length ≤ size)
    (contents : ∀ k, slots[k]? = if k < used.length then used[k]?
      else if k < size then some blank else none)
    : Listed blank slots used := by
  apply List.ext_getElem?
  intro k
  rw [Vector.getElem?_toList, contents, List.getElem?_append, List.getElem?_replicate]
  split
  · rfl
  · split <;> split <;> first | rfl | omega

/-- Writing the first free slot appends to the used part. -/
theorem append (listed : Listed blank slots used) (room : used.length < size) (x : α)
    : Listed blank (slots.setIfInBounds used.length x) (used ++ [x]) := by
  apply of_getElem?
  · rw [List.length_append, List.length_singleton]
    omega
  · intro k
    rw [Vector.getElem?_setIfInBounds, listed.getElem?, List.getElem?_append,
      List.length_append, List.length_singleton]
    rcases lt_trichotomy k used.length with before | rfl | after
    · have : k < used.length + 1 := by omega
      simp [before, before.ne', this]
    · simp [room]
    · have : ¬ k < used.length + 1 := by omega
      simp [after.ne, after.le, this]

end Listed

/-- Each slot that was shifted holds what was behind it, by induction on the slots copied. -/
theorem getElem?_shiftLeft {pos count : Nat} (fits : count ≤ size) (k : Nat)
    : (shiftLeft blank slots pos count)[k]?
      = if pos ≤ k ∧ k < count - 1 then slots[k + 1]? else slots[k]? := by
  have copied (steps : Nat) (inside : pos + steps ≤ count - 1)
      : ∀ k, ((List.range' pos steps).foldl
          (fun slots i => slots.setIfInBounds i (slots[i + 1]?.getD blank)) slots)[k]?
        = if pos ≤ k ∧ k < pos + steps then slots[k + 1]? else slots[k]? := by
    induction steps with
    | zero =>
        intro k
        rw [if_neg (by omega)]
        rfl
    | succ steps ih =>
        have earlier := ih (by omega)
        intro k
        rw [List.range'_1_concat, List.foldl_append, List.foldl_cons, List.foldl_nil,
          Vector.getElem?_setIfInBounds]
        by_cases here : pos + steps = k
        · subst here
          have next : pos + steps + 1 < size := by omega
          have copiedNow : pos ≤ pos + steps ∧ pos + steps < pos + (steps + 1) := by omega
          rw [if_pos rfl, if_pos (by omega), earlier, if_neg (by omega), if_pos copiedNow,
            Vector.getElem?_eq_getElem next]
          rfl
        · rw [if_neg here, earlier]
          by_cases before : pos ≤ k ∧ k < pos + steps
          · rw [if_pos before, if_pos (by omega)]
          · rw [if_neg before, if_neg (by omega)]
  rw [shiftLeft]
  by_cases inside : pos ≤ count - 1
  · rw [copied _ (by omega)]
    by_cases moved : pos ≤ k ∧ k < count - 1
    · rw [if_pos moved, if_pos (by omega)]
    · rw [if_neg moved, if_neg (by omega)]
  · have none : count - 1 - pos = 0 := by omega
    rw [none, if_neg (by omega)]
    rfl

/-- Shifting over a used slot and blanking the last one takes the element out. -/
theorem Listed.eraseIdx (listed : Listed blank slots used) {pos : Nat} (inside : pos < used.length)
    : Listed blank
        ((shiftLeft blank slots pos used.length).setIfInBounds (used.length - 1) blank)
        (used.eraseIdx pos) := by
  have fits := listed.length_le
  have shorter := List.length_eraseIdx_of_lt inside
  apply of_getElem?
  · omega
  · intro k
    rw [Vector.getElem?_setIfInBounds, getElem?_shiftLeft fits, shorter,
      List.getElem?_eraseIdx, listed.getElem?, listed.getElem?]
    by_cases last : used.length - 1 = k
    · subst last
      have inSize : used.length - 1 < size := by omega
      simp only [inSize, lt_self_iff_false, ↓reduceIte]
    · rw [if_neg last]
      by_cases before : k < pos
      · rw [if_neg (by omega), if_pos (by omega), if_pos (by omega), if_pos before]
      · by_cases behind : k < used.length - 1
        · rw [if_pos (by omega), if_pos (by omega), if_pos behind, if_neg before]
        · rw [if_neg (by omega), if_neg (by omega), if_neg behind]

end Foundation
