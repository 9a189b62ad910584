import Mathlib.Data.List.Basic
import Mathlib.Logic.Function.Basic

/-! Records that are made longer in place.
A growth keeps the old content as it is and gives each new position its initial value.
-/

namespace Foundation

variable {α : Type} {size position : Nat} {initial : Nat → α} {fill value : α}
  {old new : List α}

/-- Cut or extend to `size`, filling what is new. -/
def resize (fill : α) (size : Nat) (old : List α) : List α :=
  old.take size ++ List.replicate (size - old.length) fill

/-- The new record has `size` positions: the old content, then the initial values. -/
structure GrewTo (size : Nat) (initial : Nat → α) (old new : List α) : Prop where
  length : new.length = size
  unchanged : old <+: new
  appended : ∀ i, old.length ≤ i → i < size → new[i]? = some (initial i)

/-- Extending a record is a growth whose new positions are filled. -/
theorem resize_grewTo (shorter : old.length ≤ size)
    : GrewTo size (fun _ => fill) old (resize fill size old) := by
  have whole : old.take size = old := List.take_of_length_le shorter
  rw [resize, whole]
  exact {
    length := by
      rw [List.length_append, List.length_replicate]
      omega
    unchanged := List.prefix_append _ _
    appended := fun i behind inside => by
      rw [List.getElem?_append_right behind, List.getElem?_replicate, if_pos (by omega)]
  }

/-- Writing one position of a grown record sets its initial value if the position is new;
an old position must have held the value already.
-/
theorem GrewTo.set_iff (grew : GrewTo size initial old new)
    (inside : position < size)
    : GrewTo size (Function.update initial position value) old (new.set position value)
      ↔ position < old.length → old[position]? = some value := by
  have positioned : position < new.length := grew.length ▸ inside
  constructor
  · intro written present
    obtain ⟨rest, whole⟩ := written.unchanged
    have kept : (new.set position value)[position]? = old[position]? := by
      rw [← whole, List.getElem?_append_left present]
    rw [← kept, List.getElem?_set_self positioned]
  · intro held
    refine ⟨?_, ?_, ?_⟩
    · rw [List.length_set, grew.length]
    · obtain ⟨rest, whole⟩ := grew.unchanged
      rw [← whole, List.set_append]
      by_cases present : position < old.length
      · have same : old.set position value = old := by
          apply List.ext_getElem?
          intro i
          by_cases here : position = i
          · subst here
            rw [List.getElem?_set_self present, held present]
          · rw [List.getElem?_set_ne here]
        rw [if_pos present, same]
        exact List.prefix_append _ _
      · rw [if_neg present]
        exact List.prefix_append _ _
    · intro i behind within
      by_cases here : position = i
      · subst here
        rw [List.getElem?_set_self positioned, Function.update_self]
      · rw [List.getElem?_set_ne here, Function.update_of_ne (Ne.symm here)]
        exact grew.appended i behind within

end Foundation
