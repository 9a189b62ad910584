import Mathlib.Algebra.Order.Ring.Int
import Mathlib.Logic.Basic

/-! Guarded computations: a check that fails aborts everything computed so far.
The lemmas invert a successful computation into the facts its checks established.
-/

namespace Foundation

variable {ε α β : Type}

/-- A check: continue when `condition` holds, abort with `error` otherwise. -/
def require (condition : Prop) [Decidable condition] (error : ε) : Except ε Unit :=
  if condition then .ok () else .error error

/-- Read a value that may be absent, aborting with `error` when it is. -/
def fetch (value : Option α) (error : ε) : Except ε α :=
  match value with
  | some found => .ok found
  | none => .error error

/-- A sequence succeeds exactly when its first part does and the rest then does. -/
theorem bind_eq_ok {first : Except ε α} {next : α → Except ε β} {result : β}
    : first >>= next = .ok result ↔ ∃ value, first = .ok value ∧ next value = .ok result := by
  cases first with
  | error failure =>
      constructor
      · intro impossible
        cases impossible
      · rintro ⟨value, impossible, _⟩
        cases impossible
  | ok value =>
      constructor
      · exact fun rest => ⟨value, rfl, rest⟩
      · rintro ⟨other, same, rest⟩
        cases same
        exact rest

/-- A sequence whose first part succeeds is the rest of it. -/
theorem bind_of_ok {first : Except ε α} {next : α → Except ε β} {value : α}
    (success : first = .ok value) : first >>= next = next value := by
  rw [success]
  rfl

/-- Renaming its errors leaves a success. -/
theorem mapError_eq_ok {ε' : Type*} {rename : ε → ε'} {outcome : Except ε α} {result : α}
    : outcome.mapError rename = .ok result ↔ outcome = .ok result := by
  cases outcome <;> simp [Except.mapError]

/-- Returning a value succeeds with exactly that value. -/
theorem pure_eq_ok {value result : α}
    : (pure value : Except ε α) = .ok result ↔ value = result :=
  ⟨Except.ok.inj, fun same => same ▸ rfl⟩

/-- A check on its own succeeds exactly when its condition holds. -/
theorem require_eq_ok {condition : Prop} [Decidable condition] {error : ε} {done : Unit}
    : require condition error = .ok done ↔ condition := by
  unfold require
  by_cases held : condition <;> simp [held]

/-- A read on its own succeeds exactly with the value that is present. -/
theorem fetch_eq_ok {value : Option α} {error : ε} {found : α}
    : fetch value error = .ok found ↔ value = some found := by
  cases value <;> simp [fetch]

/-- A sequence fails exactly when its first part does, or that succeeds and the rest fails. -/
theorem bind_eq_error {first : Except ε α} {next : α → Except ε β} {failure : ε}
    : first >>= next = .error failure
      ↔ first = .error failure
        ∨ ∃ value, first = .ok value ∧ next value = .error failure := by
  cases first with
  | error other =>
      constructor
      · exact fun failed => .inl (congrArg _ (Except.error.inj failed))
      · rintro (failed | ⟨value, impossible, _⟩)
        · exact congrArg _ (Except.error.inj failed)
        · cases impossible
  | ok value =>
      constructor
      · exact fun rest => .inr ⟨value, rfl, rest⟩
      · rintro (impossible | ⟨other, same, rest⟩)
        · cases impossible
        · cases same
          exact rest

/-- A check fails exactly when its condition does not hold, with its own error. -/
theorem require_eq_error {condition : Prop} [Decidable condition] {error failure : ε}
    : require condition error = .error failure ↔ ¬ condition ∧ error = failure := by
  unfold require
  by_cases held : condition <;> simp [held]

/-- A read fails exactly when nothing is present, with its own error. -/
theorem fetch_eq_error {value : Option α} {error failure : ε}
    : fetch value error = .error failure ↔ value = none ∧ error = failure := by
  cases value <;> simp [fetch]

/-- Returning a value does not fail. -/
theorem pure_ne_error {value : α} {failure : ε} : (pure value : Except ε α) ≠ .error failure := by
  rintro ⟨⟩

/-- A check with another error does not fail with this one. -/
theorem require_ne_error {condition : Prop} [Decidable condition] {error failure : ε}
    (other : error ≠ failure) : require condition error ≠ .error failure :=
  fun failed => other (require_eq_error.mp failed).2

/-- A read with another error does not fail with this one. -/
theorem fetch_ne_error {value : Option α} {error failure : ε} (other : error ≠ failure)
    : fetch value error ≠ .error failure :=
  fun failed => other (fetch_eq_error.mp failed).2

/-- A sequence does not fail with an error that none of its parts fails with. -/
theorem bind_ne_error {first : Except ε α} {next : α → Except ε β} {failure : ε}
    (head : first ≠ .error failure) (tail : ∀ value, next value ≠ .error failure)
    : first >>= next ≠ .error failure := by
  intro failed
  rcases bind_eq_error.mp failed with impossible | ⟨value, _, rest⟩
  · exact head impossible
  · exact tail value rest

/-- A computation that succeeds has a result. -/
theorem exists_of_isOk {outcome : Except ε α} (success : outcome.isOk)
    : ∃ result, outcome = .ok result := by
  cases outcome with
  | error => cases success
  | ok result => exact ⟨result, rfl⟩

end Foundation
