import SecretGarden.Garden.Machine
import SecretGarden.Settlement.Schedule

/-! What each accepted instruction found and did to profiles, flowers, experiments and mints. -/

namespace SecretGarden.Garden

open Foundation SecretGarden.Bracket SecretGarden.Settlement SecretGarden.Season

variable {env : Env} {state after : ProgramState}

/-- The token account that is presented for a flower has another owner than the record. -/
def needsCorrection (state : ProgramState) (flowerKey : FlowerKey) (accounts : SyncAccounts)
    : Bool :=
  match state.flowers.lookup flowerKey, state.mints.lookup flowerKey,
      state.tokens.lookup accounts.token with
  | some flower, some (_ + 1), some token => token.owner ≠ flower.owner
  | _, _, _ => false

/-- The result of a synchronization: nothing changed, or the owner was corrected and one unit
moved between the two counters.
-/
inductive Synced (state : ProgramState) (now : Int) (flowerKey : FlowerKey)
    (accounts : SyncAccounts) (flower : FlowerRecord) (profiles : Store Pubkey PlayerProfile)
    : FlowerRecord → Store Pubkey PlayerProfile → Prop
  | kept : Synced state now flowerKey accounts flower profiles flower profiles
  | corrected {seller buyer : PlayerProfile}
    (needed : needsCorrection state flowerKey accounts)
    (minted : (state.mints.lookup flowerKey).isSome)
    (moved : accounts.newProfile ≠ flower.owner)
    (sold : profiles.lookup flower.owner = some seller)
    (bought : profiles.lookup accounts.newProfile = some buyer)
    : Synced state now flowerKey accounts flower profiles
        { flower with owner := accounts.newProfile, lastTransferAt := now }
        ((profiles.insert flower.owner
            { seller with totalFlowers := seller.totalFlowers - 1 }).insert
          accounts.newProfile
          { buyer with totalFlowers := min u16Max (buyer.totalFlowers + 1) })

theorem bumpTotalFlowers_success {wallet : Pubkey} {up : Bool}
    {profiles raised : Store Pubkey PlayerProfile}
    (success : bumpTotalFlowers wallet up profiles = .ok raised)
    : ∃ profile, profiles.lookup wallet = some profile
      ∧ raised = profiles.insert wallet { profile with
          totalFlowers :=
            if up then min u16Max (profile.totalFlowers + 1) else profile.totalFlowers - 1 } := by
  obtain ⟨profile, found, bumped⟩ := bind_eq_ok.mp success
  exact ⟨profile, fetch_eq_ok.mp found, (pure_eq_ok.mp bumped).symm⟩

theorem syncFlowerOwner_success {now : Int} {flowerKey : FlowerKey} {accounts : SyncAccounts}
    {flower synced : FlowerRecord} {profiles raised : Store Pubkey PlayerProfile}
    (found : state.flowers.lookup flowerKey = some flower)
    (success
      : syncFlowerOwner state now flowerKey accounts flower profiles = .ok (synced, raised))
    : Synced state now flowerKey accounts flower profiles synced raised := by
  unfold syncFlowerOwner at success
  split at success
  · cases pure_eq_ok.mp success
    exact .kept
  · cases pure_eq_ok.mp success
    exact .kept
  · next supply nonzero minted =>
      simp only [bind_eq_ok, fetch_eq_ok, require_eq_ok, exists_const] at success
      obtain ⟨token, held, _, _, rest⟩ := success
      split at rest
      · cases pure_eq_ok.mp rest
        exact .kept
      · next moved =>
          simp only [bind_eq_ok, require_eq_ok, exists_const] at rest
          obtain ⟨_, buyer, seller, _, lowered, _, lifted, same⟩ := rest
          cases pure_eq_ok.mp same
          obtain ⟨sold, soldFound, rfl⟩ := bumpTotalFlowers_success lowered
          obtain ⟨bought, boughtFound, rfl⟩ := bumpTotalFlowers_success lifted
          rw [← buyer] at moved
          rw [seller] at soldFound boughtFound
          rw [Store.lookup_insert_apply, if_neg moved] at boughtFound
          have needed : needsCorrection state flowerKey accounts := by
            obtain ⟨supply, rfl⟩ := Nat.exists_eq_succ_of_ne_zero nonzero
            simp [needsCorrection, found, minted, held, ← buyer, moved]
          rw [seller, ← buyer]
          exact .corrected needed (by simp [minted]) moved soldFound boughtFound

/-- While the flower's token is in circulation, the account that is presented holds it for the
flower's owner on record.
-/
def OwnsToken (state : ProgramState) (flowerKey : FlowerKey) (accounts : SyncAccounts)
    (flower : FlowerRecord) : Prop :=
  ∀ supply, state.mints.lookup flowerKey = some (supply + 1)
    → ∃ token, state.tokens.lookup accounts.token = some token
        ∧ token.mint = flowerKey
        ∧ token.amount = 1
        ∧ token.owner = flower.owner

/-- After a synchronization the owner on record holds the token. -/
theorem syncFlowerOwner_ownsToken {now : Int} {flowerKey : FlowerKey} {accounts : SyncAccounts}
    {flower synced : FlowerRecord} {profiles raised : Store Pubkey PlayerProfile}
    (success
      : syncFlowerOwner state now flowerKey accounts flower profiles = .ok (synced, raised))
    : OwnsToken state flowerKey accounts synced := by
  intro supply minted
  simp only [syncFlowerOwner, minted, bind_eq_ok, fetch_eq_ok, require_eq_ok, exists_const]
    at success
  obtain ⟨token, held, mint, amount, rest⟩ := success
  refine ⟨token, held, mint, amount, ?_⟩
  split at rest
  · next same =>
      cases pure_eq_ok.mp rest
      exact same
  · simp only [bind_eq_ok, require_eq_ok, exists_const, pure_eq_ok] at rest
    obtain ⟨_, _, _, _, _, _, _, same⟩ := rest
    cases same
    rfl

/-- The same flower, whatever became of its owner, its status and its genome. -/
structure SameFlower (record flower : FlowerRecord) : Prop where
  genomeStatus : flower.genomeStatus = record.genomeStatus
  sourceExperiment : flower.sourceExperiment = record.sourceExperiment

theorem SameFlower.refl (record : FlowerRecord) : SameFlower record record := ⟨rfl, rfl⟩

/-- A synchronization leaves a flower what it is and where it stands. -/
theorem Synced.same {now : Int} {flowerKey : FlowerKey} {accounts : SyncAccounts}
    {record flower : FlowerRecord} {profiles raised : Store Pubkey PlayerProfile}
    (synced : Synced state now flowerKey accounts record profiles flower raised)
    : SameFlower record flower ∧ flower.status = record.status := by
  cases synced with
  | kept => exact ⟨.refl _, rfl⟩
  | corrected => exact ⟨⟨rfl, rfl⟩, rfl⟩

/-- Without a difference between token and record nothing is corrected. -/
theorem Synced.eq_of_unneeded {now : Int} {flowerKey : FlowerKey} {accounts : SyncAccounts}
    {record flower : FlowerRecord} {profiles raised : Store Pubkey PlayerProfile}
    (synced : Synced state now flowerKey accounts record profiles flower raised)
    (unneeded : needsCorrection state flowerKey accounts = false)
    : flower = record ∧ raised = profiles := by
  cases synced with
  | kept => exact ⟨rfl, rfl⟩
  | corrected needed =>
      rw [unneeded] at needed
      cases needed

--------------------------------------------------------------------------------
-- Profiles and starters
--------------------------------------------------------------------------------

/-- A profile that was just created. -/
def newProfile (env : Env) : PlayerProfile :=
  { owner := env.signer
    starterClaimed := false
    totalFlowers := 0
    finalSubmissions := 0
    createdAt := env.now
    activeExperimentCount := 0
    totalExperiments := 0
    nextFlowerIndex := 0
    breedsThisRound := 0
    lastBreedRound := 0 }

theorem createProfile_success (success : createProfile env state = .ok after)
    : state.profiles.lookup env.signer = none
      ∧ after = { state with
          profiles := state.profiles.insert env.signer (newProfile env) } := by
  simp only [createProfile, requireUnpaused, bind_eq_ok, require_eq_ok, exists_const,
    pure_eq_ok, Option.isNone_iff_eq_none] at success
  obtain ⟨_, unused, rfl⟩ := success
  exact ⟨unused, rfl⟩

/-- A profile whose starters were just claimed. -/
def claimedProfile (profile : PlayerProfile) : PlayerProfile :=
  { profile with
    starterClaimed := true
    totalFlowers := starterCount
    nextFlowerIndex := starterCount }

theorem claimStarters_success (success : claimStarters env state = .ok after)
    : ∃ profile, state.profiles.lookup env.signer = some profile
      ∧ profile.starterClaimed = false
      ∧ (∀ index < starterCount, state.flowers.lookup ⟨env.signer, index⟩ = none)
      ∧ after = { state with
          flowers := plantStarters env.signer env.now state.flowers
          profiles := state.profiles.insert env.signer (claimedProfile profile) } := by
  simp only [claimStarters, requireUnpaused, bind_eq_ok, fetch_eq_ok, require_eq_ok,
    exists_const, pure_eq_ok, Option.isNone_iff_eq_none] at success
  obtain ⟨_, profile, found, _, unclaimed, unused, rfl⟩ := success
  exact ⟨profile, found, unclaimed, unused, rfl⟩

/-- Planting leaves every flower at another address alone. -/
theorem lookup_plantStarters_of_ne {owner : Pubkey} {createdAt : Int}
    {flowers : Store FlowerKey FlowerRecord} {key : FlowerKey}
    (other : ∀ index < starterCount, key ≠ ⟨owner, index⟩)
    : (plantStarters owner createdAt flowers).lookup key = flowers.lookup key := by
  unfold plantStarters
  induction List.finRange starterCount with
  | nil => rfl
  | cons index rest ih =>
      rw [List.foldr_cons, Store.lookup_insert_apply, if_neg (other index index.isLt), ih]

/-- Planting at unused addresses keeps every flower. -/
theorem lookup_plantStarters {owner : Pubkey} {createdAt : Int}
    {flowers : Store FlowerKey FlowerRecord} {key : FlowerKey} {flower : FlowerRecord}
    (unused : ∀ index < starterCount, flowers.lookup ⟨owner, index⟩ = none)
    (found : flowers.lookup key = some flower)
    : (plantStarters owner createdAt flowers).lookup key = some flower := by
  rw [lookup_plantStarters_of_ne]
  · exact found
  · rintro index inside rfl
    rw [unused index inside] at found
    cases found

/-- A flower after planting was there before or is one of the starters. -/
theorem plantStarters_origin {owner : Pubkey} {createdAt : Int}
    {flowers : Store FlowerKey FlowerRecord} {key : FlowerKey} {flower : FlowerRecord}
    (found : (plantStarters owner createdAt flowers).lookup key = some flower)
    : flowers.lookup key = some flower
      ∨ ∃ index, key = ⟨owner, index.val⟩
        ∧ flower = populateFlower owner index createdAt := by
  unfold plantStarters at found
  revert found
  induction List.finRange starterCount with
  | nil => exact .inl
  | cons index rest ih =>
      intro found
      rw [List.foldr_cons] at found
      rcases Store.lookup_insert_eq_some.mp found with ⟨planted, rfl⟩ | ⟨_, found⟩
      · exact .inr ⟨index, planted, rfl⟩
      · exact ih found

/-- A flower that passes the cooldown in the transaction that synchronizes it was not corrected
there, except at the clock's zero.
-/
theorem Synced.eq_of_rested {now : Int} {flowerKey : FlowerKey} {accounts : SyncAccounts}
    {record flower : FlowerRecord} {profiles raised : Store Pubkey PlayerProfile}
    (synced : Synced state now flowerKey accounts record profiles flower raised)
    (rested : transferCooldownActive flower now = false) (started : now ≠ 0)
    : flower = record ∧ raised = profiles := by
  cases synced with
  | kept => exact ⟨rfl, rfl⟩
  | corrected =>
      have resting := lt_roundEndTime now
      simp [transferCooldownActive, started, resting] at rested

theorem increment_eq_ok {modulus counter result : Nat}
    : increment modulus counter = .ok result ↔ counter + 1 < modulus ∧ counter + 1 = result := by
  simp only [increment, bind_eq_ok, require_eq_ok, exists_const, pure_eq_ok]

/-- A profile as it counts one more breeding attempt. -/
def attemptedProfile (currentRound : Nat) (profile : PlayerProfile) : PlayerProfile :=
  { profile with
    breedsThisRound :=
      if profile.lastBreedRound ≠ currentRound then 1 else profile.breedsThisRound + 1
    lastBreedRound := currentRound }

theorem registerBreedAttempt_success {currentRound : Nat} {profile registered : PlayerProfile}
    (success : registerBreedAttempt currentRound profile = .ok registered)
    : registered = attemptedProfile currentRound profile
      ∧ registered.breedsThisRound ≤ maxBreedsPerRound := by
  simp only [registerBreedAttempt, bind_eq_ok, require_eq_ok, exists_const, pure_eq_ok]
    at success
  obtain ⟨within, rfl⟩ := success
  unfold attemptedProfile
  by_cases next : profile.lastBreedRound = currentRound
  · subst next
    simp at within ⊢
    exact within
  · simp [next] at within ⊢
    exact within

/-- A parent of a breeding that was just queued. -/
def lockedParent (parent : FlowerRecord) : FlowerRecord :=
  { parent with
    timesBredAsParent := min u8Max (parent.timesBredAsParent + 1)
    status := .locked }

/-- A player's profile after a breeding was queued. -/
def bredProfile (currentRound : Nat) (profile : PlayerProfile) : PlayerProfile :=
  { attemptedProfile currentRound profile with
    totalExperiments := profile.totalExperiments + 1
    activeExperimentCount := profile.activeExperimentCount + 1
    totalFlowers := profile.totalFlowers + 1
    nextFlowerIndex := profile.nextFlowerIndex + 1 }

/-- An experiment that was just queued. -/
def queuedExperiment (env : Env) (flowerA flowerB : FlowerKey) (computationOffset : Nat)
    (offspringKey : FlowerKey) : Experiment :=
  { owner := env.signer
    parentA := flowerA
    parentB := flowerB
    computationOffset := computationOffset
    status := .queued
    resultFlower := offspringKey
    createdAt := env.now
    updatedAt := env.now
    errorCode := 0
    callbackProcessed := false }

/-- A breeding that was accepted: both parents were active, belong to the player once their
owners are synchronized, and have uses left; experiment and offspring are new.
-/
inductive Bred (env : Env) (state : ProgramState) (flowerA flowerB : FlowerKey)
    (syncA syncB : SyncAccounts) (computationOffset : Nat) : ProgramState → Prop
  | queued {profile : PlayerProfile} {recordA recordB parentA parentB : FlowerRecord}
    {profilesA profilesB : Store Pubkey PlayerProfile} {generation : Nat}
    {tokensA tokens : Store Pubkey FlowerToken}
    (player : state.profiles.lookup env.signer = some profile)
    (apart : flowerA ≠ flowerB)
    (foundA : state.flowers.lookup flowerA = some recordA)
    (activeA : recordA.status = .active)
    (foundB : state.flowers.lookup flowerB = some recordB)
    (activeB : recordB.status = .active)
    (unstarted : state.experiments.lookup ⟨env.signer, profile.totalExperiments⟩ = none)
    (unused : state.flowers.lookup ⟨env.signer, profile.nextFlowerIndex⟩ = none)
    (syncedA : Synced state env.now flowerA syncA recordA state.profiles parentA profilesA)
    (syncedB : Synced state env.now flowerB syncB recordB profilesA parentB profilesB)
    (ownedA : parentA.owner = env.signer)
    (ownedB : parentB.owner = env.signer)
    (budget : (attemptedProfile (env.config.currentRound % u32Modulus) profile).breedsThisRound
      ≤ maxBreedsPerRound)
    (capped : profile.totalFlowers - starterCount < flowerCollectionCap)
    (usesA : parentA.timesBredAsParent < maxBreedsAsParent)
    (usesB : parentB.timesBredAsParent < maxBreedsAsParent)
    (restedA : transferCooldownActive parentA env.now = false)
    (restedB : transferCooldownActive parentB env.now = false)
    (younger : generation = max parentA.generation parentB.generation + 1)
    (holderA : OwnsToken state flowerA syncA parentA)
    (holderB : OwnsToken state flowerB syncB parentB)
    (frozenA : freezeFlowerIfMinted state env.signer flowerA syncA.token state.tokens
      = .ok tokensA)
    (frozenB : freezeFlowerIfMinted state env.signer flowerB syncB.token tokensA = .ok tokens)
    : Bred env state flowerA flowerB syncA syncB computationOffset
        { state with
          profiles := profilesB.insert env.signer
            (bredProfile (env.config.currentRound % u32Modulus) profile)
          flowers := ((state.flowers.insert flowerA (lockedParent parentA)).insert flowerB
              (lockedParent parentB)).insert ⟨env.signer, profile.nextFlowerIndex⟩
            (newOffspring env.now env.signer flowerA flowerB parentA parentB
              profile.nextFlowerIndex generation ⟨env.signer, profile.totalExperiments⟩)
          experiments := state.experiments.insert ⟨env.signer, profile.totalExperiments⟩
            (queuedExperiment env flowerA flowerB computationOffset
              ⟨env.signer, profile.nextFlowerIndex⟩)
          tokens := tokens }

/-- The offspring's address stays unused while both parents, found elsewhere, are written. -/
theorem unused_after_parents {flowers : Store FlowerKey FlowerRecord}
    {flowerA flowerB offspringKey : FlowerKey}
    {recordA recordB parentA parentB : FlowerRecord}
    (foundA : flowers.lookup flowerA = some recordA)
    (foundB : flowers.lookup flowerB = some recordB)
    (unused : flowers.lookup offspringKey = none)
    : ((flowers.insert flowerA parentA).insert flowerB parentB).lookup offspringKey = none := by
  simp only [Store.lookup_insert_apply]
  rw [if_neg, if_neg]
  · exact unused
  · rintro rfl
    rw [unused] at foundA
    cases foundA
  · rintro rfl
    rw [unused] at foundB
    cases foundB

theorem startBreeding_success {flowerA flowerB : FlowerKey} {syncA syncB : SyncAccounts}
    {computationOffset : Nat}
    (success
      : startBreeding env flowerA flowerB syncA syncB computationOffset state = .ok after)
    : Bred env state flowerA flowerB syncA syncB computationOffset after := by
  simp only [startBreeding, requireUnpaused, checkCollectionCap, checkBreedAsParent,
    registerBreedAsParent, bind_eq_ok, fetch_eq_ok, require_eq_ok, exists_const, pure_eq_ok,
    Option.isNone_iff_eq_none, increment_eq_ok, Prod.exists] at success
  obtain ⟨_, profile, player, apart, recordA, foundA, activeA, recordB, foundB, activeB,
    unstarted, unused, parentA, profilesA, syncedA, parentB, profilesB, syncedB, ownedA, ownedB,
    registered, attempt, capped, usesA, usesB, _, ⟨_, rfl⟩, _, ⟨_, rfl⟩, generation,
    ⟨_, younger⟩, restedA, restedB, tokensA, frozenA, tokens, frozenB, _, ⟨_, rfl⟩, _, ⟨_, rfl⟩,
    _, ⟨_, rfl⟩, _, ⟨_, rfl⟩, rfl⟩ := success
  obtain ⟨rfl, budget⟩ := registerBreedAttempt_success attempt
  exact .queued player apart foundA activeA foundB activeB unstarted unused
    (syncFlowerOwner_success foundA syncedA) (syncFlowerOwner_success foundB syncedB)
    ownedA ownedB budget capped usesA usesB restedA restedB younger.symm
    (syncFlowerOwner_ownsToken syncedA) (syncFlowerOwner_ownsToken syncedB) frozenA frozenB

--------------------------------------------------------------------------------
-- The end of an experiment
--------------------------------------------------------------------------------

/-- The accounts of an experiment as they are stored. -/
structure Loaded (state : ProgramState) (experimentKey : ExperimentKey)
    (accounts : ExperimentAccounts) : Prop where
  experiment : state.experiments.lookup experimentKey = some accounts.experiment
  profile : state.profiles.lookup accounts.experiment.owner = some accounts.profile
  flowerA : state.flowers.lookup accounts.experiment.parentA = some accounts.flowerA
  flowerB : state.flowers.lookup accounts.experiment.parentB = some accounts.flowerB
  apart : accounts.experiment.parentA ≠ accounts.experiment.parentB

theorem loadExperiment_success {experimentKey : ExperimentKey} {accounts : ExperimentAccounts}
    (success : loadExperiment experimentKey state = .ok accounts)
    : Loaded state experimentKey accounts := by
  simp only [loadExperiment, bind_eq_ok, fetch_eq_ok, require_eq_ok, exists_const, pure_eq_ok]
    at success
  obtain ⟨experiment, found, profile, player, flowerA, foundA, flowerB, foundB, apart, rfl⟩ :=
    success
  exact ⟨found, player, foundA, foundB, apart⟩

/-- An experiment that was just ended. -/
def endedExperiment (env : Env) (experiment : Experiment) (status : ExperimentStatus)
    (errorCode : Nat) : Experiment :=
  { experiment with
    status := status
    callbackProcessed := true
    errorCode := errorCode
    updatedAt := env.now }

/-- An offspring whose genome has arrived. -/
def grownOffspring (offspring : FlowerRecord) (output : BreedOutput) : FlowerRecord :=
  { offspring with
    encryptedGenome := output.ciphertexts
    encryptionMetadata := output.nonce
    genomeCommitment := sha256 (genomeBytes output.ciphertexts output.nonce)
    rarity := (output.mask >>> rarityShift) &&& 7
    revealedTraitMask := output.mask &&& rarityStripMask
    status := .active }

/-- An experiment that completed: parents and offspring are active. -/
def completeExperiment (env : Env) (experimentKey : ExperimentKey)
    (accounts : ExperimentAccounts) (offspring : FlowerRecord) (output : BreedOutput)
    (state : ProgramState) : ProgramState :=
  let resolved := resolveExperiment env experimentKey accounts .completed
    accounts.experiment.errorCode state
  { resolved with
    flowers := resolved.flowers.insert accounts.experiment.resultFlower
      (grownOffspring offspring output) }

/-- Ending an experiment leaves every flower but its parents alone. -/
theorem lookup_resolveExperiment {experimentKey : ExperimentKey} {accounts : ExperimentAccounts}
    {status : ExperimentStatus} {errorCode : Nat} {flowerKey : FlowerKey}
    {flower : FlowerRecord} (notA : flowerKey ≠ accounts.experiment.parentA)
    (notB : flowerKey ≠ accounts.experiment.parentB)
    (found : state.flowers.lookup flowerKey = some flower)
    : (resolveExperiment env experimentKey accounts status errorCode state).flowers.lookup
        flowerKey = some flower :=
  (AList.lookup_insert_ne notB).trans ((AList.lookup_insert_ne notA).trans found)

/-- A delivered breeding computation changed nothing, completed its experiment or failed it. -/
inductive Delivered (env : Env) (experimentKey : ExperimentKey) (accounts : ExperimentAccounts)
    (state : ProgramState) : (answer : Option BreedOutput) → ProgramState → Prop
  | ignored {answer} (processed : accounts.experiment.callbackProcessed)
    : Delivered env experimentKey accounts state answer state
  | completed {offspring : FlowerRecord} {output : BreedOutput}
    (pending : accounts.experiment.callbackProcessed = false)
    (found : state.flowers.lookup accounts.experiment.resultFlower = some offspring)
    (notA : accounts.experiment.resultFlower ≠ accounts.experiment.parentA)
    (notB : accounts.experiment.resultFlower ≠ accounts.experiment.parentB)
    : Delivered env experimentKey accounts state (some output)
        (completeExperiment env experimentKey accounts offspring output state)
  | failed (pending : accounts.experiment.callbackProcessed = false)
    : Delivered env experimentKey accounts state none
        (resolveExperiment env experimentKey accounts .failed breedErrorAborted state)

theorem breedV5Callback_success {experimentKey : ExperimentKey} {output : Option BreedOutput}
    (success : breedV5Callback env experimentKey output state = .ok after)
    : ∃ accounts, Loaded state experimentKey accounts
      ∧ Delivered env experimentKey accounts state output after := by
  obtain ⟨accounts, loaded, rest⟩ := bind_eq_ok.mp success
  refine ⟨accounts, loadExperiment_success loaded, ?_⟩
  simp only [bind_eq_ok, fetch_eq_ok, require_eq_ok, exists_const] at rest
  obtain ⟨offspring, found, ⟨notA, notB⟩, delivered⟩ := rest
  split at delivered
  · next processed =>
      obtain rfl := pure_eq_ok.mp delivered
      exact .ignored processed
  · next pending =>
      rw [Bool.not_eq_true] at pending
      cases output with
      | none =>
          obtain rfl := pure_eq_ok.mp delivered
          exact .failed pending
      | some output =>
          obtain rfl := pure_eq_ok.mp delivered
          exact .completed pending found notA notB

theorem cancelExpiredExperiment_success {experimentKey : ExperimentKey}
    (success : cancelExpiredExperiment env experimentKey state = .ok after)
    : ∃ accounts, Loaded state experimentKey accounts
      ∧ (accounts.experiment.status = .queued ∨ accounts.experiment.status = .processing)
      ∧ after = resolveExperiment env experimentKey accounts .expired
          accounts.experiment.errorCode state := by
  obtain ⟨accounts, loaded, rest⟩ := bind_eq_ok.mp success
  simp only [bind_eq_ok, require_eq_ok, exists_const, pure_eq_ok] at rest
  obtain ⟨unresolved, _, rfl⟩ := rest
  exact ⟨accounts, loadExperiment_success loaded, unresolved, rfl⟩

--------------------------------------------------------------------------------
-- Closing flowers
--------------------------------------------------------------------------------

theorem reclaimDeadOffspring_success {experimentKey : ExperimentKey} {offspringKey : FlowerKey}
    {ownerRecipient : Pubkey}
    (success
      : reclaimDeadOffspring experimentKey offspringKey ownerRecipient state = .ok after)
    : ∃ experiment offspring profile,
        state.experiments.lookup experimentKey = some experiment
        ∧ (experiment.status = .failed ∨ experiment.status = .expired)
        ∧ state.flowers.lookup offspringKey = some offspring
        ∧ offspring.sourceExperiment = some experimentKey
        ∧ state.profiles.lookup offspring.owner = some profile
        ∧ after = removeFlower offspringKey offspring.owner profile state := by
  simp only [reclaimDeadOffspring, bind_eq_ok, fetch_eq_ok, require_eq_ok, exists_const,
    pure_eq_ok] at success
  obtain ⟨experiment, found, dead, offspring, held, source, _, _, _, profile, player, rfl⟩ :=
    success
  exact ⟨experiment, offspring, profile, found, dead, held, source, player, rfl⟩

theorem closeFlower_success {flowerKey : FlowerKey}
    (success : closeFlower env flowerKey state = .ok after)
    : ∃ profile flower,
        state.flowers.lookup flowerKey = some flower
        ∧ flower.owner = env.signer
        ∧ flower.status = .active
        ∧ flower.genomeStatus = .encrypted
        ∧ state.mints.lookup flowerKey = none
        ∧ state.profiles.lookup flower.owner = some profile
        ∧ after = removeFlower flowerKey flower.owner profile state := by
  simp only [closeFlower, requireUnpaused, bind_eq_ok, fetch_eq_ok, require_eq_ok,
    exists_const, pure_eq_ok, Option.isNone_iff_eq_none] at success
  obtain ⟨_, profile, player, flower, found, owned, active, bred, unminted, rfl⟩ := success
  rw [← owned] at player ⊢
  exact ⟨profile, flower, found, rfl, active, bred, unminted, player, rfl⟩

/-- An instruction on a round only changes that round. -/
theorem onRound_success {roundKey : RoundKey} {instruction : RoundInstruction}
    (success : onRound env roundKey instruction state = .ok after)
    : ∃ ledger next,
        state.rounds.lookup roundKey = some ledger
        ∧ roundStep ledger ⟨{ env with config := state.config }, instruction⟩ = .ok next
        ∧ after = { state with rounds := state.rounds.insert roundKey next } := by
  simp only [onRound, seasonStep, bind_eq_ok, fetch_eq_ok, pure_eq_ok] at success
  obtain ⟨_, ⟨ledger, found, next, moved, rfl⟩, rfl⟩ := success
  exact ⟨ledger, next, found, moved, rfl⟩

/-- A flower that was used: its owner is synchronized, and it is locked if and only if it was. -/
structure Used (env : Env) (state : ProgramState) (flowerKey : FlowerKey)
    (accounts : SyncAccounts) (record flower : FlowerRecord)
    (profiles : Store Pubkey PlayerProfile) : Prop where
  found : state.flowers.lookup flowerKey = some record
  synced : ∃ written,
    Synced state env.now flowerKey accounts record state.profiles written profiles
    ∧ flower = { written with status := flower.status }
  holder : OwnsToken state flowerKey accounts flower
  locked : flower.status = .locked ↔ record.status = .locked

/-- An entry that was accepted. -/
theorem submitEntry_success {roundKey : RoundKey} {entryKey playerSgdAta : Pubkey}
    {flowerKey : FlowerKey} {accounts : SyncAccounts}
    (success
      : submitEntry env roundKey entryKey flowerKey playerSgdAta accounts state = .ok after)
    : ∃ profile record flower profiles,
        state.profiles.lookup env.signer = some profile
        ∧ Used env state flowerKey accounts record flower profiles
        ∧ record.status = .active
        ∧ flower.owner = env.signer
        ∧ flower.status = .submitted
        ∧ after = { state with
            rounds := after.rounds
            profiles := profiles.insert env.signer { profile with
              finalSubmissions := min u8Max (profile.finalSubmissions + 1) }
            flowers := state.flowers.insert flowerKey flower
            tokens := after.tokens } := by
  simp only [submitEntry, requireUnpaused, bind_eq_ok, fetch_eq_ok, require_eq_ok,
    exists_const, pure_eq_ok, Prod.exists] at success
  obtain ⟨_, profile, player, record, found, flower, profiles, synced, entered, moved, tokens,
    _, rfl⟩ := success
  obtain ⟨ledger, next, _, accepted, rfl⟩ := onRound_success moved
  obtain ⟨checks, _⟩ := Settlement.submitEntry_success accepted
  have corrected := syncFlowerOwner_success found synced
  have active := corrected.same.2.symm.trans checks.active
  have holder := syncFlowerOwner_ownsToken synced
  refine ⟨profile, record, { flower with status := .submitted }, profiles, player,
    ⟨found, ⟨flower, corrected, rfl⟩, holder, ?_⟩, active, checks.owned, rfl, rfl⟩
  simp [active]

theorem releaseFlower_success {roundKey : RoundKey} {entryKey : Pubkey} {flowerKey : FlowerKey}
    {accounts : SyncAccounts}
    (success : releaseFlower env roundKey entryKey flowerKey accounts state = .ok after)
    : ∃ record flower profiles,
        Used env state flowerKey accounts record flower profiles
        ∧ record.status = .submitted
        ∧ flower.status = .active
        ∧ after = { state with
            rounds := after.rounds
            profiles := profiles
            flowers := state.flowers.insert flowerKey flower } := by
  simp only [releaseFlower, bind_eq_ok, fetch_eq_ok, require_eq_ok, exists_const, pure_eq_ok,
    Prod.exists] at success
  obtain ⟨record, found, released, moved, submitted, _, flower, profiles, synced, rfl⟩ := success
  obtain ⟨ledger, next, _, _, rfl⟩ := onRound_success moved
  have holder := syncFlowerOwner_ownsToken synced
  refine ⟨record, { flower with status := .active }, profiles,
    ⟨found, ⟨flower, syncFlowerOwner_success found synced, rfl⟩, holder, ?_⟩, submitted, rfl, rfl⟩
  simp [submitted]

/-- What an accepted entry did to its round. -/
theorem submitEntry_round {roundKey : RoundKey} {entryKey playerSgdAta : Pubkey}
    {flowerKey : FlowerKey} {accounts : SyncAccounts}
    (success
      : submitEntry env roundKey entryKey flowerKey playerSgdAta accounts state = .ok after)
    : ∃ ledger next flower,
        state.rounds.lookup roundKey = some ledger
        ∧ Settlement.submitEntry { env with config := state.config } entryKey flowerKey flower
            playerSgdAta ledger = .ok next
        ∧ after.rounds = state.rounds.insert roundKey next := by
  simp only [submitEntry, bind_eq_ok, pure_eq_ok, Prod.exists] at success
  obtain ⟨_, _, _, _, _, _, flower, _, _, _, moved, _, _, rfl⟩ := success
  obtain ⟨ledger, next, found, accepted, rfl⟩ := onRound_success moved
  exact ⟨ledger, next, flower, found, accepted, rfl⟩

/-- What an accepted release did to its round. -/
theorem releaseFlower_round {roundKey : RoundKey} {entryKey : Pubkey} {flowerKey : FlowerKey}
    {accounts : SyncAccounts}
    (success : releaseFlower env roundKey entryKey flowerKey accounts state = .ok after)
    : ∃ ledger next,
        state.rounds.lookup roundKey = some ledger
        ∧ releaseEntry { env with config := state.config } entryKey flowerKey ledger = .ok next
        ∧ after.rounds = state.rounds.insert roundKey next := by
  simp only [releaseFlower, bind_eq_ok, pure_eq_ok, Prod.exists] at success
  obtain ⟨_, _, _, moved, _, _, _, _, _, _, _, rfl⟩ := success
  obtain ⟨ledger, next, found, accepted, rfl⟩ := onRound_success moved
  exact ⟨ledger, next, found, accepted, rfl⟩

theorem queueScoreEntry_success {roundKey : RoundKey} {computationOffset : Nat}
    {entryKey : Pubkey} {flowerKey : FlowerKey}
    (success
      : queueScoreEntry env roundKey computationOffset entryKey flowerKey state = .ok after)
    : ∃ ledger next,
        state.rounds.lookup roundKey = some ledger
        ∧ Settlement.queueScoreEntry { env with config := state.config } computationOffset
            entryKey flowerKey ledger = .ok next
        ∧ (state.flowers.lookup flowerKey).isSome
        ∧ after = { state with rounds := state.rounds.insert roundKey next } := by
  simp only [queueScoreEntry, bind_eq_ok, require_eq_ok, exists_const] at success
  obtain ⟨present, moved⟩ := success
  obtain ⟨ledger, next, found, accepted, rfl⟩ := onRound_success moved
  exact ⟨ledger, next, found, accepted, present, rfl⟩

/-- What an accepted request asks for. -/
def hintRequest (player : Pubkey) (flowerKey : FlowerKey) (flower : FlowerRecord)
    (round : CompetitionRound) (hintPubkey hintNonce : Nat) : HintRequest :=
  { player := player
    flower := flowerKey
    genomeNonce := flower.encryptionMetadata
    targetTraits := round.targetTraits
    targetTraitCount := round.targetTraitCount
    hintPubkey := hintPubkey
    hintNonce := hintNonce }

/-- A hint that waits for its answer. -/
def requestedHint (player : Pubkey) (round : CompetitionRound) (hint : HintResult) : HintResult :=
  { hint with
    player := player
    roundId := round.roundId
    targetTraitCount := round.targetTraitCount
    ready := false }

/-- An accepted request on a flower that is not locked, under a new offset. -/
theorem queuePrivateHint_success {roundKey : RoundKey} {flowerKey : FlowerKey}
    {accounts : SyncAccounts} {computationOffset hintPubkey hintNonce : Nat}
    (success
      : queuePrivateHint env roundKey flowerKey accounts computationOffset hintPubkey hintNonce
          state = .ok after)
    : ∃ ledger record flower profiles,
        state.rounds.lookup roundKey = some ledger
        ∧ Used env state flowerKey accounts record flower profiles
        ∧ flower.status = record.status
        ∧ record.status ≠ .locked
        ∧ flower.owner = env.signer
        ∧ state.hintComputations.lookup computationOffset = none
        ∧ after = { state with
            profiles := profiles
            flowers := state.flowers.insert flowerKey flower
            hints := state.hints.insert env.signer (requestedHint env.signer ledger.round
              ((state.hints.lookup env.signer).getD HintResult.zeroed))
            hintComputations := state.hintComputations.insert computationOffset
              (hintRequest env.signer flowerKey flower ledger.round hintPubkey hintNonce) } := by
  simp only [queuePrivateHint, bind_eq_ok, fetch_eq_ok, require_eq_ok, exists_const,
    pure_eq_ok, Prod.exists, Option.isNone_iff_eq_none] at success
  obtain ⟨ledger, round, _, record, found, unlocked, flower, profiles, synced, owned, unused,
    rfl⟩ := success
  have corrected := syncFlowerOwner_success found synced
  have kept := corrected.same.2
  exact ⟨ledger, record, flower, profiles, round,
    ⟨found, ⟨flower, corrected, rfl⟩, syncFlowerOwner_ownsToken synced, by rw [kept]⟩,
    kept, unlocked, owned, unused, rfl⟩

/-- A delivered hint only writes its player's hint. -/
theorem privateHintCallback_success {computationOffset : Nat} {output : Option SealedHint}
    (success : privateHintCallback env computationOffset output state = .ok after)
    : after = { state with hints := after.hints } := by
  simp only [privateHintCallback, bind_eq_ok, fetch_eq_ok] at success
  obtain ⟨request, _, hint, _, delivered⟩ := success
  cases output with
  | none =>
      obtain rfl := pure_eq_ok.mp delivered
      rfl
  | some sealedHint =>
      obtain rfl := pure_eq_ok.mp delivered
      rfl

theorem thawFlowerNft_success {flowerKey : FlowerKey} {accounts : SyncAccounts}
    (success : thawFlowerNft env flowerKey accounts state = .ok after)
    : ∃ record flower profiles,
        Used env state flowerKey accounts record flower profiles
        ∧ record.status = .active
        ∧ flower.status = record.status
        ∧ after = { state with
            profiles := profiles
            flowers := state.flowers.insert flowerKey flower
            tokens := after.tokens } := by
  simp only [thawFlowerNft, bind_eq_ok, fetch_eq_ok, require_eq_ok, exists_const, pure_eq_ok,
    Prod.exists] at success
  obtain ⟨record, found, active, _, token, _, _, _, _, _, flower, profiles, synced, rfl⟩ :=
    success
  have corrected := syncFlowerOwner_success found synced
  have kept := corrected.same.2
  exact ⟨record, flower, profiles,
    ⟨found, ⟨flower, corrected, rfl⟩, syncFlowerOwner_ownsToken synced, by rw [kept]⟩,
    active, kept, rfl⟩

--------------------------------------------------------------------------------
-- Tokens
--------------------------------------------------------------------------------

/-- Mints come into being but never disappear, and nothing else of the collection changes. -/
structure TokensOnly (state after : ProgramState) : Prop where
  frame : after = { state with mints := after.mints, tokens := after.tokens }
  mints : ∀ flowerKey,
    (after.mints.lookup flowerKey).isSome = (state.mints.lookup flowerKey).isSome

theorem mintFlowerNft_success {flowerKey : FlowerKey} {tokenAccount : Pubkey} {uri : String}
    (success : mintFlowerNft env flowerKey tokenAccount uri state = .ok after)
    : ∃ flower, state.flowers.lookup flowerKey = some flower
      ∧ flower.owner = env.signer
      ∧ flower.status = .active
      ∧ flower.genomeStatus = .encrypted
      ∧ state.mints.lookup flowerKey = none
      ∧ after = { state with
          mints := state.mints.insert flowerKey 1
          tokens := after.tokens } := by
  simp only [mintFlowerNft, requireUnpaused, bind_eq_ok, fetch_eq_ok, require_eq_ok,
    exists_const, pure_eq_ok, Option.isNone_iff_eq_none] at success
  obtain ⟨_, _, flower, found, owned, active, bred, unminted, _, _, rfl⟩ := success
  exact ⟨flower, found, owned, active, bred, unminted, rfl⟩

/-- Writing the supply of a mint that exists leaves all mints in being. -/
theorem isSome_lookup_insert {mints : Store FlowerKey Nat} {written key : FlowerKey}
    {supply : Nat} (minted : (mints.lookup written).isSome)
    : ((mints.insert written supply).lookup key).isSome = (mints.lookup key).isSome := by
  rw [Store.lookup_insert_apply]
  split
  · next here =>
      subst here
      rw [minted]
      rfl
  · rfl

theorem burnFlowerNft_success {flowerKey : FlowerKey} {tokenAccount : Pubkey}
    (success : burnFlowerNft env flowerKey tokenAccount state = .ok after)
    : TokensOnly state after := by
  simp only [burnFlowerNft, requireUnpaused, bind_eq_ok, fetch_eq_ok, require_eq_ok,
    exists_const, pure_eq_ok] at success
  obtain ⟨_, flower, _, _, _, supply, minted, _, token, _, _, _, _, rfl⟩ := success
  exact ⟨rfl, fun _ => isSome_lookup_insert (by simp [minted])⟩

/-- Holders and delegates touch tokens only, by cases on what they do. -/
theorem tokensOnly_of_event {event : TokenEvent} (success : event.happen state = .ok after)
    : TokensOnly state after := by
  cases event with
  | createAccount address owner mint =>
      simp only [TokenEvent.happen, bind_eq_ok, require_eq_ok, exists_const, pure_eq_ok]
        at success
      obtain ⟨_, _, rfl⟩ := success
      exact ⟨rfl, fun _ => rfl⟩
  | transfer source destination =>
      simp only [TokenEvent.happen, bind_eq_ok, require_eq_ok, exists_const, pure_eq_ok]
        at success
      obtain ⟨sender, _, receiver, _, _, _, rfl⟩ := success
      exact ⟨rfl, fun _ => rfl⟩
  | setOwner address owner =>
      obtain ⟨token, _, written⟩ := bind_eq_ok.mp success
      obtain rfl := pure_eq_ok.mp written
      exact ⟨rfl, fun _ => rfl⟩
  | approve address delegate =>
      obtain ⟨token, _, written⟩ := bind_eq_ok.mp success
      obtain rfl := pure_eq_ok.mp written
      exact ⟨rfl, fun _ => rfl⟩
  | setFrozen address frozen =>
      simp only [TokenEvent.happen, bind_eq_ok, require_eq_ok, exists_const, pure_eq_ok]
        at success
      obtain ⟨token, _, _, _, rfl⟩ := success
      exact ⟨rfl, fun _ => rfl⟩
  | burn address =>
      simp only [TokenEvent.happen, bind_eq_ok, require_eq_ok, exists_const, pure_eq_ok]
        at success
      obtain ⟨token, _, _, minted, rfl⟩ := success
      exact ⟨rfl, fun _ => isSome_lookup_insert minted⟩
  | closeAccount address =>
      simp only [TokenEvent.happen, bind_eq_ok, require_eq_ok, exists_const, pure_eq_ok]
        at success
      obtain ⟨token, _, _, rfl⟩ := success
      exact ⟨rfl, fun _ => rfl⟩

--------------------------------------------------------------------------------
-- What an instruction leaves alone
--------------------------------------------------------------------------------

/-- Instructions on rounds and on the configuration. -/
def GardenInstruction.StepsSeason : GardenInstruction → Prop
  | .submitEntry _ _ _ _ _ => True
  | .releaseFlower _ _ _ _ => True
  | .queueScoreEntry _ _ _ _ => True
  | .season _ => True
  | _ => False

/-- Requests and answers. -/
def GardenInstruction.TouchesHints : GardenInstruction → Prop
  | .queuePrivateHint _ _ _ _ _ _ => True
  | .privateHintCallback _ _ => True
  | _ => False

/-- The deployment and the hints stay unless the instruction is about them. -/
structure GardenFramed (instruction : GardenInstruction) (state after : ProgramState)
    : Prop where
  deployment : ¬ instruction.StepsSeason → after.toDeployment = state.toDeployment
  hints : ¬ instruction.TouchesHints
    → after.hints = state.hints ∧ after.hintComputations = state.hintComputations

/-- Every accepted instruction is framed, by cases on the instruction. -/
theorem gardenStep_framed {submission : GardenSubmission}
    (success : gardenStep state submission = .ok after)
    : GardenFramed submission.instruction state after := by
  obtain ⟨signer, slot, now, instruction⟩ := submission
  cases instruction with
  | createProfile =>
      obtain ⟨_, rfl⟩ := createProfile_success success
      exact ⟨fun _ => rfl, fun _ => ⟨rfl, rfl⟩⟩
  | claimStarters =>
      obtain ⟨_, _, _, _, rfl⟩ := claimStarters_success success
      exact ⟨fun _ => rfl, fun _ => ⟨rfl, rfl⟩⟩
  | startBreeding flowerA flowerB syncA syncB computationOffset =>
      cases startBreeding_success success
      exact ⟨fun _ => rfl, fun _ => ⟨rfl, rfl⟩⟩
  | breedV5Callback experimentKey output =>
      obtain ⟨_, _, delivered⟩ := breedV5Callback_success success
      cases delivered <;> exact ⟨fun _ => rfl, fun _ => ⟨rfl, rfl⟩⟩
  | cancelExpiredExperiment experimentKey =>
      obtain ⟨_, _, _, rfl⟩ := cancelExpiredExperiment_success success
      exact ⟨fun _ => rfl, fun _ => ⟨rfl, rfl⟩⟩
  | reclaimDeadOffspring experimentKey offspringKey ownerRecipient =>
      obtain ⟨_, _, _, _, _, _, _, _, rfl⟩ := reclaimDeadOffspring_success success
      exact ⟨fun _ => rfl, fun _ => ⟨rfl, rfl⟩⟩
  | closeFlower flowerKey =>
      obtain ⟨_, _, _, _, _, _, _, _, rfl⟩ := closeFlower_success success
      exact ⟨fun _ => rfl, fun _ => ⟨rfl, rfl⟩⟩
  | submitEntry roundKey entryKey flowerKey playerSgdAta accounts =>
      obtain ⟨_, _, _, _, _, _, _, _, _, same⟩ := submitEntry_success success
      exact ⟨fun quiet => absurd trivial quiet, fun _ => ⟨by rw [same], by rw [same]⟩⟩
  | releaseFlower roundKey entryKey flowerKey accounts =>
      obtain ⟨_, _, _, _, _, _, same⟩ := releaseFlower_success success
      exact ⟨fun quiet => absurd trivial quiet, fun _ => ⟨by rw [same], by rw [same]⟩⟩
  | queueScoreEntry roundKey computationOffset entryKey flowerKey =>
      obtain ⟨_, _, _, _, _, rfl⟩ := queueScoreEntry_success success
      exact ⟨fun quiet => absurd trivial quiet, fun _ => ⟨rfl, rfl⟩⟩
  | queuePrivateHint roundKey flowerKey accounts computationOffset hintPubkey hintNonce =>
      obtain ⟨_, _, _, _, _, _, _, _, _, _, rfl⟩ := queuePrivateHint_success success
      exact ⟨fun _ => rfl, fun silent => absurd trivial silent⟩
  | privateHintCallback computationOffset output =>
      have same := privateHintCallback_success success
      exact ⟨fun _ => by rw [same], fun silent => absurd trivial silent⟩
  | setMintingEnabled enabled =>
      obtain ⟨_, _, written⟩ := bind_eq_ok.mp success
      obtain rfl := pure_eq_ok.mp written
      exact ⟨fun _ => rfl, fun _ => ⟨rfl, rfl⟩⟩
  | mintFlowerNft flowerKey tokenAccount uri =>
      obtain ⟨_, _, _, _, _, _, same⟩ := mintFlowerNft_success success
      exact ⟨fun _ => by rw [same], fun _ => ⟨by rw [same], by rw [same]⟩⟩
  | burnFlowerNft flowerKey tokenAccount =>
      have same := (burnFlowerNft_success success).frame
      exact ⟨fun _ => by rw [same], fun _ => ⟨by rw [same], by rw [same]⟩⟩
  | thawFlowerNft flowerKey accounts =>
      obtain ⟨_, _, _, _, _, _, same⟩ := thawFlowerNft_success success
      exact ⟨fun _ => by rw [same], fun _ => ⟨by rw [same], by rw [same]⟩⟩
  | token event =>
      have same := (tokensOnly_of_event success).frame
      exact ⟨fun _ => by rw [same], fun _ => ⟨by rw [same], by rw [same]⟩⟩
  | season instruction =>
      simp only [gardenStep, bind_eq_ok, require_eq_ok, exists_const, pure_eq_ok] at success
      obtain ⟨_, deployment, _, rfl⟩ := success
      exact ⟨fun quiet => absurd trivial quiet, fun _ => ⟨rfl, rfl⟩⟩

end SecretGarden.Garden
