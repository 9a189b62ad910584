import SecretGarden.Foundation.Outcome

/-! Runs of a system whose transactions succeed or fail.
A failed transaction changes nothing; `condition` restricts which accepted ones a run
may contain, so one induction serves both unrestricted and restricted runs.
-/

namespace Foundation

variable {ε σ α : Type}

/-- Histories from `start`: the accepted actions in order and the state they lead to.
Every accepted action met `condition` in the state it was submitted to; a rejected one
leaves no trace.
-/
inductive Run (step : σ → α → Except ε σ) (condition : σ → α → Prop) (start : σ)
    : List α → σ → Prop
  | start : Run step condition start [] start
  | accepted {history before action after}
    (earlier : Run step condition start history before)
    (met : condition before action)
    (success : step before action = .ok after)
    : Run step condition start (history ++ [action]) after
  | rejected {history before action failure}
    (earlier : Run step condition start history before)
    (failed : step before action = .error failure)
    : Run step condition start history before

/-- The condition every action meets. -/
def anyAction : σ → α → Prop := fun _ _ => True

variable {step : σ → α → Except ε σ} {condition : σ → α → Prop} {start : σ}

/-- What holds at the start and survives every accepted action holds after every run,
by induction on the run.
-/
theorem Run.invariant {property : σ → Prop}
    (initially : property start)
    (preserved
      : ∀ {before action after},
          property before
          → condition before action
          → step before action = .ok after
          → property after)
    {history : List α} {state : σ}
    (run : Run step condition start history state)
    : property state := by
  induction run with
  | start => exact initially
  | accepted _ met success ih => exact preserved ih met success
  | rejected _ _ ih => exact ih

/-- The invariant rule with an invariant that is known already. -/
theorem Run.invariant_with {known property : σ → Prop}
    (always : ∀ {history state}, Run step condition start history state → known state)
    (initially : property start)
    (preserved
      : ∀ {before action after},
          known before
          → property before
          → condition before action
          → step before action = .ok after
          → property after)
    {history : List α} {state : σ}
    (run : Run step condition start history state)
    : property state := by
  induction run with
  | start => exact initially
  | accepted earlier met success ih => exact preserved (always earlier) ih met success
  | rejected _ _ ih => exact ih

/-- A weaker condition admits every run of a stronger one. -/
theorem Run.mono {weaker : σ → α → Prop} {history : List α} {state : σ}
    (weaken : ∀ before action, condition before action → weaker before action)
    (run : Run step condition start history state)
    : Run step weaker start history state := by
  induction run with
  | start => exact .start
  | accepted _ met success ih => exact .accepted ih (weaken _ _ met) success
  | rejected _ failed ih => exact .rejected ih failed

/-- A run meets a condition that its accepted actions meet in whatever state. -/
theorem Run.of_forall {other : σ → α → Prop} {history : List α} {state : σ}
    (run : Run step condition start history state)
    (meets : ∀ action ∈ history, ∀ before, other before action)
    : Run step other start history state := by
  induction run with
  | start => exact .start
  | accepted _ _ success ih =>
      refine .accepted (ih fun action listed => ?_) (meets _ (by simp) _) success
      exact meets action (List.mem_append_left _ listed)
  | rejected _ failed ih => exact .rejected (ih meets) failed

/-- A run meets another condition as well when an invariant of it turns each accepted action's
condition into the other one.
-/
theorem Run.transfer {other : σ → α → Prop} {property : σ → Prop}
    (initially : property start)
    (preserved
      : ∀ {before action after},
          property before
          → condition before action
          → step before action = .ok after
          → property after)
    (turns
      : ∀ {before action after},
          property before
          → condition before action
          → step before action = .ok after
          → other before action)
    {history : List α} {state : σ}
    (run : Run step condition start history state)
    : Run step other start history state := by
  induction run with
  | start => exact .start
  | accepted earlier met success ih =>
      have known := earlier.invariant initially preserved
      exact .accepted ih (turns known met success) success
  | rejected _ failed ih => exact .rejected ih failed

/-- Runs compose, by induction on the second one. -/
theorem Run.append {middle finish : σ} {first second : List α}
    (before : Run step condition start first middle)
    (after : Run step condition middle second finish)
    : Run step condition start (first ++ second) finish := by
  induction after with
  | start => simpa using before
  | accepted _ met success ih =>
      rw [← List.append_assoc]
      exact .accepted ih met success
  | rejected _ failed ih => exact .rejected ih failed

/-- Submit the actions in order, stopping at the first that fails or breaks `condition`. -/
def replay (step : σ → α → Except ε σ) (condition : σ → α → Prop)
    [∀ state action, Decidable (condition state action)] (start : σ)
    : List α → Option σ
  | [] => some start
  | action :: rest =>
      if condition start action then
        match step start action with
        | .ok next => replay step condition next rest
        | .error _ => none
      else none

/-- A replayed script is a run, by induction on the script. -/
theorem Run.of_replay [∀ state action, Decidable (condition state action)]
    {script : List α} {finish : σ}
    (replayed : replay step condition start script = some finish)
    : Run step condition start script finish := by
  induction script generalizing start with
  | nil =>
      cases Option.some.inj replayed
      exact .start
  | cons action rest ih =>
      unfold replay at replayed
      split at replayed
      · next met =>
          split at replayed
          · next next success =>
              have one := Run.accepted .start met success
              exact one.append (ih replayed)
          · cases replayed
      · cases replayed

/-- A script whose replay passes a check leads, by a run, to a state that passes it. -/
theorem Run.of_replay_any [∀ state action, Decidable (condition state action)]
    {script : List α} {check : σ → Bool}
    (replayed : (replay step condition start script).any check)
    : ∃ state, Run step condition start script state ∧ check state := by
  obtain ⟨state, reached, checked⟩ := (Option.any_eq_true _ _).mp replayed
  exact ⟨state, .of_replay reached, checked⟩

instance (state : σ) (action : α) : Decidable (anyAction state action) :=
  inferInstanceAs (Decidable True)

--------------------------------------------------------------------------------
-- Phases in order
--------------------------------------------------------------------------------

/-- Run the phases `0, 1, …, count - 1` one after the other. -/
def inOrder (phase : Nat → σ → Except ε σ) : (count : Nat) → σ → Except ε σ
  | 0, state => pure state
  | count + 1, state => do
      let earlier ← inOrder phase count state
      phase count earlier

/-- When every phase succeeds from what the earlier ones achieved, all of them do, by
induction on the number of phases.
-/
theorem inOrder_succeeds {phase : Nat → σ → Except ε σ} {achieved : Nat → σ → Prop}
    {count : Nat} {state : σ} (initially : achieved 0 state)
    (advances : ∀ k < count, ∀ before, achieved k before
      → ∃ after, phase k before = .ok after ∧ achieved (k + 1) after)
    : ∃ after, inOrder phase count state = .ok after ∧ achieved count after := by
  induction count with
  | zero => exact ⟨state, rfl, initially⟩
  | succ count ih =>
      obtain ⟨earlier, reached, before⟩ :=
        ih fun k inside => advances k (Nat.lt_succ_of_lt inside)
      obtain ⟨after, success, held⟩ := advances count (Nat.lt_succ_self count) earlier before
      exact ⟨after, bind_eq_ok.mpr ⟨earlier, reached, success⟩, held⟩

/-- Steps taken for every item of a list succeed when each does with the rest still to come,
by induction on the list.
-/
theorem foldlM_succeeds {step : σ → α → Except ε σ} {achieved : List α → σ → Prop}
    (advances : ∀ item rest before, achieved (item :: rest) before
      → ∃ after, step before item = .ok after ∧ achieved rest after)
    {items : List α} {state : σ} (initially : achieved items state)
    : ∃ after, items.foldlM step state = .ok after ∧ achieved [] after := by
  induction items generalizing state with
  | nil => exact ⟨state, rfl, initially⟩
  | cons item rest ih =>
      obtain ⟨next, success, held⟩ := advances item rest state initially
      obtain ⟨after, finished, achieved⟩ := ih held
      exact ⟨after, by rw [List.foldlM_cons, bind_of_ok success, finished], achieved⟩

/-- The state after a transaction was submitted; one that fails leaves it as it was. -/
def processed (step : σ → α → Except ε σ) (state : σ) (action : α) : σ :=
  match step state action with
  | .ok after => after
  | .error _ => state

theorem processed_of_error {state : σ} {action : α} {failure : ε}
    (failed : step state action = .error failure) : processed step state action = state := by
  rw [processed, failed]

/-- A transaction leaves what its success makes of the state, or the state itself. -/
theorem processed_cases (step : σ → α → Except ε σ) (state : σ) (action : α)
    : step state action = .ok (processed step state action)
      ∨ processed step state action = state := by
  unfold processed
  split
  · next success => exact .inl success
  · exact .inr rfl

variable {η : Type}

/-- A state beside a journal that only the specification reads. -/
structure Journaled (σ η : Type) where
  system : σ
  journal : η

/-- The same transitions, noting each accepted action in the journal. -/
def journaled (step : σ → α → Except ε σ) (note : σ → α → η → η)
    (state : Journaled σ η) (action : α)
    : Except ε (Journaled σ η) := do
  let after ← step state.system action
  pure ⟨after, note state.system action state.journal⟩

/-- An accepted journaled transition is an accepted transition with its note. -/
theorem journaled_eq_ok {note : σ → α → η → η} {state after : Journaled σ η} {action : α}
    : journaled step note state action = .ok after
      ↔ step state.system action = .ok after.system
        ∧ after.journal = note state.system action state.journal := by
  simp only [journaled, bind_eq_ok, pure_eq_ok]
  constructor
  · rintro ⟨system, success, rfl⟩
    exact ⟨success, rfl⟩
  · rintro ⟨success, noted⟩
    exact ⟨after.system, success, by rw [← noted]⟩

/-- Forgetting the journal leaves a run of the system, by induction on the run. -/
theorem Run.forget {note : σ → α → η → η} {condition : Journaled σ η → α → Prop}
    {start state : Journaled σ η} {history : List α}
    (run : Run (journaled step note) condition start history state)
    : Run step anyAction start.system history state.system := by
  induction run with
  | start => exact .start
  | accepted _ _ success ih => exact .accepted ih trivial (journaled_eq_ok.mp success).1
  | rejected _ _ ih => exact ih

/-- Every run of the system can be journaled, by induction on the run. -/
theorem Run.record {note : σ → α → η → η} {history : List α} {state : σ} (journal : η)
    (run : Run step condition start history state)
    : ∃ noted,
        Run (journaled step note) (fun before action => condition before.system action)
          ⟨start, journal⟩ history ⟨state, noted⟩ := by
  induction run with
  | start => exact ⟨journal, .start⟩
  | accepted _ met success ih =>
      obtain ⟨noted, earlier⟩ := ih
      exact ⟨_, .accepted earlier met (journaled_eq_ok.mpr ⟨success, rfl⟩)⟩
  | rejected _ _ ih => exact ih

end Foundation
