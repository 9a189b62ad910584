import SecretGarden.Garden.Rounds

/-! The program while accounts of earlier layouts are still around. Such an account is at its
address already, but cannot be read as a record before a migration has extended it.
-/

namespace SecretGarden.Garden

open Foundation SecretGarden.Bracket SecretGarden.Settlement SecretGarden.Season

/-- The program with the profiles and flowers that are still of an earlier layout. Their
records are kept as they read once extended. Configuration and entries have the current layout.
-/
structure UpgradingProgram where
  program : ProgramState
  earlierProfiles : List Pubkey
  earlierFlowers : List FlowerKey

inductive UpgradingAction where
  | transaction (submission : GardenSubmission)
  | migrateConfig (signer : Pubkey)
  | migrateProfile (signer : Pubkey)
  | migrateFlower (signer : Pubkey) (flowerIndex : Nat)
  | operatorMigrateFlower (signer owner : Pubkey) (flowerIndex : Nat)
  | migrateEntry (signer : Pubkey)

/-- The profiles whose counters a synchronization of the flower adjusts: those of both wallets,
once another than the recorded owner holds the token.
-/
def adjustedProfiles (state : ProgramState) (flowerKey : FlowerKey) (accounts : SyncAccounts)
    : List Pubkey :=
  match state.flowers.lookup flowerKey, state.tokens.lookup accounts.token with
  | some flower, some token =>
      if (state.mints.lookup flowerKey).getD 0 = 0 ∨ token.owner = flower.owner then []
      else [accounts.previousProfile, accounts.newProfile]
  | _, _ => []

/-- A synchronization that succeeds leaves every other profile as it is. -/
theorem syncFlowerOwner_adjusts {state : ProgramState} {now : Int} {flowerKey : FlowerKey}
    {accounts : SyncAccounts} {flower synced : FlowerRecord}
    {profiles after : Store Pubkey PlayerProfile} {wallet : Pubkey}
    (present : state.flowers.lookup flowerKey = some flower)
    (success : syncFlowerOwner state now flowerKey accounts flower profiles = .ok (synced, after))
    (spared : wallet ∉ adjustedProfiles state flowerKey accounts)
    : after.lookup wallet = profiles.lookup wallet := by
  unfold syncFlowerOwner at success
  split at success
  · cases success
    rfl
  · cases success
    rfl
  · next supply minted positive =>
      simp only [bind_eq_ok, fetch_eq_ok, require_eq_ok, exists_const] at success
      obtain ⟨token, held, _, _, moved⟩ := success
      split at moved
      · cases moved
        rfl
      · next sold =>
          have current : ¬((state.mints.lookup flowerKey).getD 0 = 0
              ∨ token.owner = flower.owner) := by
            rw [positive]
            rintro (burned | kept)
            · exact minted burned
            · exact sold kept
          simp only [adjustedProfiles, present, held, if_neg current, List.mem_cons,
            List.not_mem_nil, or_false, not_or] at spared
          simp only [bumpTotalFlowers, bind_eq_ok, fetch_eq_ok, require_eq_ok, exists_const,
            pure_eq_ok, Prod.mk.injEq] at moved
          obtain ⟨_, _, _, _, ⟨_, _, rfl⟩, raised, ⟨_, _, rfl⟩, _, rfl⟩ := moved
          simp [spared.1, spared.2]

/-- The wallets whose profiles an instruction reads as records. A synchronization deserializes
the raw accounts it adjusts, so an earlier layout makes it fail as well.
-/
def loadedProfiles (state : ProgramState) (submission : GardenSubmission) : List Pubkey :=
  match submission.instruction with
  | .claimStarters => [submission.signer]
  | .startBreeding flowerA flowerB syncA syncB _ =>
      submission.signer ::
        (adjustedProfiles state flowerA syncA ++ adjustedProfiles state flowerB syncB)
  | .breedV5Callback experimentKey _ =>
      (state.experiments.lookup experimentKey).toList.map (·.owner)
  | .cancelExpiredExperiment experimentKey =>
      (state.experiments.lookup experimentKey).toList.map (·.owner)
  | .reclaimDeadOffspring _ offspringKey _ =>
      (state.flowers.lookup offspringKey).toList.map (·.owner)
  | .closeFlower _ => [submission.signer]
  | .submitEntry _ _ flowerKey _ accounts =>
      submission.signer :: adjustedProfiles state flowerKey accounts
  | .releaseFlower _ _ flowerKey accounts => adjustedProfiles state flowerKey accounts
  | .queuePrivateHint _ flowerKey accounts _ _ _ => adjustedProfiles state flowerKey accounts
  | .thawFlowerNft flowerKey accounts => adjustedProfiles state flowerKey accounts
  | _ => []

/-- The flowers an instruction reads as records. -/
def loadedFlowers (state : ProgramState) (submission : GardenSubmission) : List FlowerKey :=
  match submission.instruction with
  | .startBreeding flowerA flowerB _ _ _ => [flowerA, flowerB]
  | .breedV5Callback experimentKey _ =>
      (state.experiments.lookup experimentKey).toList.flatMap fun experiment =>
        [experiment.parentA, experiment.parentB, experiment.resultFlower]
  | .cancelExpiredExperiment experimentKey =>
      (state.experiments.lookup experimentKey).toList.flatMap fun experiment =>
        [experiment.parentA, experiment.parentB]
  | .reclaimDeadOffspring _ offspringKey _ => [offspringKey]
  | .closeFlower flowerKey => [flowerKey]
  | .submitEntry _ _ flowerKey _ _ => [flowerKey]
  | .releaseFlower _ _ flowerKey _ => [flowerKey]
  | .queueScoreEntry _ _ _ flowerKey => [flowerKey]
  | .queuePrivateHint _ flowerKey _ _ _ _ => [flowerKey]
  | .mintFlowerNft flowerKey _ _ => [flowerKey]
  | .burnFlowerNft flowerKey _ => [flowerKey]
  | .thawFlowerNft flowerKey _ => [flowerKey]
  | _ => []

/-- Extend a flower's account; one of the current layout stays as it is. -/
def extendFlower (flowerKey : FlowerKey) (state : UpgradingProgram) : Outcome UpgradingProgram := do
  require (state.program.flowers.lookup flowerKey).isSome .constraintRaw
  pure { state with
    earlierFlowers := state.earlierFlowers.filter fun other => other ≠ flowerKey }

def upgradingStep (state : UpgradingProgram) : UpgradingAction → Outcome UpgradingProgram
  | .transaction submission => do
      require (∀ wallet ∈ loadedProfiles state.program submission,
        wallet ∉ state.earlierProfiles) .accountNotInitialized
      require (∀ flowerKey ∈ loadedFlowers state.program submission,
        flowerKey ∉ state.earlierFlowers) .accountNotInitialized
      let program ← gardenStep state.program submission
      pure { state with program := program }
  | .migrateConfig signer => do
      require (signer = state.program.config.authority) .notAuthority
      pure state
  | .migrateProfile signer => do
      require (state.program.profiles.lookup signer).isSome .constraintRaw
      pure { state with
        earlierProfiles := state.earlierProfiles.filter fun other => other ≠ signer }
  | .migrateFlower signer flowerIndex => extendFlower ⟨signer, flowerIndex⟩ state
  | .operatorMigrateFlower signer owner flowerIndex => do
      require (isOperatorOrAuthority state.program.config signer) .notAuthority
      extendFlower ⟨owner, flowerIndex⟩ state
  | .migrateEntry signer => do
      require (isOperatorOrAuthority state.program.config signer) .notAuthority
      pure state

/-- What an accepted action does to the program. -/
inductive UpgradingEffect (action : UpgradingAction) (before after : ProgramState) : Prop
  | transacted {submission : GardenSubmission} (asked : action = .transaction submission)
    (success : gardenStep before submission = .ok after)
  | migrated (other : ∀ submission, action ≠ .transaction submission) (same : after = before)

/-- Every accepted action is a transaction of the program, or a migration that keeps what the
accounts hold.
-/
theorem upgradingStep_effect {state after : UpgradingProgram} {action : UpgradingAction}
    (success : upgradingStep state action = .ok after)
    : UpgradingEffect action state.program after.program := by
  cases action with
  | transaction submission =>
      simp only [upgradingStep, bind_eq_ok, require_eq_ok, exists_const, pure_eq_ok] at success
      obtain ⟨_, _, program, moved, rfl⟩ := success
      exact .transacted rfl moved
  | migrateConfig signer =>
      simp only [upgradingStep, bind_eq_ok, require_eq_ok, exists_const, pure_eq_ok] at success
      obtain ⟨_, rfl⟩ := success
      exact .migrated (by simp) rfl
  | migrateProfile signer =>
      simp only [upgradingStep, bind_eq_ok, require_eq_ok, exists_const, pure_eq_ok] at success
      obtain ⟨_, rfl⟩ := success
      exact .migrated (by simp) rfl
  | migrateFlower signer flowerIndex =>
      simp only [upgradingStep, extendFlower, bind_eq_ok, require_eq_ok, exists_const,
        pure_eq_ok] at success
      obtain ⟨_, rfl⟩ := success
      exact .migrated (by simp) rfl
  | operatorMigrateFlower signer owner flowerIndex =>
      simp only [upgradingStep, extendFlower, bind_eq_ok, require_eq_ok, exists_const,
        pure_eq_ok] at success
      obtain ⟨_, _, rfl⟩ := success
      exact .migrated (by simp) rfl
  | migrateEntry signer =>
      simp only [upgradingStep, bind_eq_ok, require_eq_ok, exists_const, pure_eq_ok] at success
      obtain ⟨_, rfl⟩ := success
      exact .migrated (by simp) rfl

end SecretGarden.Garden
