import SecretGarden.Season.Mint

/-! What one accepted instruction does to the rounds of a deployment, whichever it is. -/

namespace SecretGarden.Season

open Foundation SecretGarden.Bracket SecretGarden.Settlement

variable {deployment after : Deployment}

/-- The round that is current when the next one opens. -/
def PreviousOver (deployment : Deployment) : Prop :=
  deployment.config.currentRound = 0
  ∨ ∃ key previous,
      deployment.rounds.lookup key = some previous
      ∧ previous.round.roundId = deployment.config.currentRound
      ∧ previous.round.status = .finalized

/-- A round only opens after the one before it is finalized. -/
theorem openRound_previousOver {env : Env} {previousRound : Option RoundKey}
    {funded : Store Pubkey Nat}
    (success : openRound env previousRound funded deployment = .ok after)
    : PreviousOver deployment := by
  simp only [openRound, bind_eq_ok, require_eq_ok, exists_const] at success
  obtain ⟨_, _, _, _, _, _, _, previous, _⟩ := success
  unfold requirePreviousFinalized at previous
  split at previous
  · simp only [bind_eq_ok, fetch_eq_ok, require_eq_ok, exists_const] at previous
    obtain ⟨key, _, ledger, found, numbered, finalized⟩ := previous
    exact .inr ⟨key, ledger, found, numbered, finalized⟩
  · next first => exact .inl (Nat.eq_zero_of_not_pos first)

/-- What became of the rounds and of the count of them. -/
inductive SeasonChange (submission : SeasonSubmission) (deployment after : Deployment) : Prop
  | configured
    (rounds : after.rounds = deployment.rounds)
    (current : after.config.currentRound = deployment.config.currentRound)
    (other : ∀ key instruction, submission.instruction ≠ .round key instruction)
  | opened {targets : Vector Nat 4 × Nat} {funded : Store Pubkey Nat}
    (previous : PreviousOver deployment)
    (unused : deployment.rounds.lookup (deployment.config.currentRound + 1) = none)
    (rounds
      : after.rounds
        = deployment.rounds.insert (deployment.config.currentRound + 1)
            (openedLedger (deployment.config.currentRound + 1) submission.now targets
              deployment.config.sgdMint funded))
    (current : after.config.currentRound = deployment.config.currentRound + 1)
    (other : ∀ key instruction, submission.instruction ≠ .round key instruction)
  | played {key : RoundKey} {instruction : RoundInstruction} {ledger next : RoundLedger}
    (asked : submission.instruction = .round key instruction)
    (found : deployment.rounds.lookup key = some ledger)
    (moved : roundStep ledger ⟨deployment.env submission, instruction⟩ = .ok next)
    (rounds : after.rounds = deployment.rounds.insert key next)
    (current : after.config.currentRound = deployment.config.currentRound)

/-- Every accepted instruction is one of these changes. -/
theorem seasonStep_change {submission : SeasonSubmission}
    (success : seasonStep deployment submission = .ok after)
    : SeasonChange submission deployment after := by
  obtain ⟨signer, slot, now, instruction⟩ := submission
  cases instruction with
  | setSgdMint sgdMint =>
      obtain ⟨_, _, rfl⟩ := setSgdMint_success success
      exact .configured rfl rfl nofun
  | updateSgdMint newSgdMint =>
      obtain ⟨_, _, rfl⟩ := updateSgdMint_success success
      exact .configured rfl rfl nofun
  | administer =>
      obtain rfl := pure_eq_ok.mp success
      exact .configured rfl rfl nofun
  | openRound previousRound funded =>
      have previous := openRound_previousOver success
      obtain ⟨unused, _, rfl⟩ := openRound_success success
      exact .opened previous unused rfl rfl nofun
  | round key instruction =>
      simp only [seasonStep, bind_eq_ok, fetch_eq_ok, pure_eq_ok] at success
      obtain ⟨ledger, found, next, moved, rfl⟩ := success
      exact .played rfl found moved rfl rfl

/-- What holds of every opened round and survives every instruction of a round holds of all rounds
of a deployment.
-/
theorem rounds_of_step {property : RoundLedger → Prop}
    (initially : ∀ ledger, ledger.Opened → property ledger)
    (preserved
      : ∀ {ledger next submission},
          property ledger → roundStep ledger submission = .ok next → property next)
    {submission : SeasonSubmission}
    (known : ∀ key ledger, deployment.rounds.lookup key = some ledger → property ledger)
    (success : seasonStep deployment submission = .ok after)
    : ∀ key ledger, after.rounds.lookup key = some ledger → property ledger := by
  intro key ledger found
  cases seasonStep_change success with
  | configured rounds => exact known key ledger (rounds ▸ found)
  | opened _ _ rounds =>
      rw [rounds] at found
      rcases Store.lookup_insert_eq_some.mp found with ⟨_, rfl⟩ | ⟨_, found⟩
      · exact initially _ (openedLedger_opened _ _ _ _ _ (Nat.succ_pos _))
      · exact known key ledger found
  | played _ present moved rounds =>
      rw [rounds] at found
      rcases Store.lookup_insert_eq_some.mp found with ⟨_, rfl⟩ | ⟨_, found⟩
      · exact preserved (known _ _ present) moved
      · exact known key ledger found

/-- The same over a run, from a deployment without rounds. -/
theorem rounds_of_run {property : RoundLedger → Prop}
    (initially : ∀ ledger, ledger.Opened → property ledger)
    (preserved
      : ∀ {ledger next submission},
          property ledger → roundStep ledger submission = .ok next → property next)
    {condition : Deployment → SeasonSubmission → Prop} {start state : Deployment}
    (fresh : start.Fresh) {history : List SeasonSubmission}
    (run : Run seasonStep condition start history state) {key : RoundKey}
    {ledger : RoundLedger} (found : state.rounds.lookup key = some ledger) : property ledger := by
  have all : ∀ key ledger, state.rounds.lookup key = some ledger → property ledger := by
    refine run.invariant ?_ fun known _ success =>
      rounds_of_step initially preserved known success
    intro key ledger found
    rw [fresh.rounds] at found
    cases found
  exact all key ledger found

end SecretGarden.Season
