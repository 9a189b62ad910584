import SecretGarden.Garden.Ownership

/-! How flowers come and go: profiles, starters, breeding experiments and their outcomes. -/

namespace SecretGarden.Garden

open Foundation SecretGarden.Bracket SecretGarden.Settlement SecretGarden.Season

variable (env : Env)

def createProfile (state : ProgramState) : Outcome ProgramState := do
  requireUnpaused env
  require (state.profiles.lookup env.signer).isNone .accountInUse
  pure { state with
    profiles := state.profiles.insert env.signer
      { owner := env.signer
        starterClaimed := false
        totalFlowers := 0
        finalSubmissions := 0
        createdAt := env.now
        activeExperimentCount := 0
        totalExperiments := 0
        nextFlowerIndex := 0
        breedsThisRound := 0
        lastBreedRound := 0 } }

/-- One starter, with the looks of its species. -/
def populateFlower (owner : Pubkey) (flowerIndex : Fin starterCount) (createdAt : Int)
    : FlowerRecord :=
  let looks := species[flowerIndex]
  { owner := owner
    flowerIndex := flowerIndex
    visualSpeciesId := looks.visualSpeciesId
    generation := 0
    rarity := looks.rarity
    stability := starterStability
    revealedTraitMask := looks.revealedTraitMask
    parentA := none
    parentB := none
    genomeStatus := .starter
    sourceExperiment := none
    status := .active
    createdAt := createdAt
    encryptedGenome := 0
    encryptionMetadata := 0
    genomeCommitment := .replicate 32 0
    timesBredAsParent := 0
    lastTransferAt := 0 }

/-- The store with the six starters of a wallet, whose addresses must be unused. -/
def plantStarters (owner : Pubkey) (createdAt : Int) (flowers : Store FlowerKey FlowerRecord)
    : Store FlowerKey FlowerRecord :=
  (List.finRange starterCount).foldr
    (fun (flowerIndex : Fin starterCount) flowers =>
      flowers.insert ⟨owner, flowerIndex⟩ (populateFlower owner flowerIndex createdAt))
    flowers

def claimStarters (state : ProgramState) : Outcome ProgramState := do
  requireUnpaused env
  let owner := env.signer
  let profile ← fetch (state.profiles.lookup owner) .accountNotInitialized
  require (profile.owner = owner) .constraintRaw
  require (profile.starterClaimed = false) .startersAlreadyClaimed
  require (∀ index < starterCount, (state.flowers.lookup ⟨owner, index⟩).isNone) .accountInUse
  pure { state with
    flowers := plantStarters owner env.now state.flowers
    profiles := state.profiles.insert owner { profile with
      starterClaimed := true
      totalFlowers := starterCount
      nextFlowerIndex := starterCount } }

/-- Count this attempt against the round's budget, which starts over with each round. -/
def registerBreedAttempt (currentRound : Nat) (profile : PlayerProfile)
    : Outcome PlayerProfile := do
  let current :=
    if profile.lastBreedRound ≠ currentRound then
      { profile with breedsThisRound := 0, lastBreedRound := currentRound }
    else profile
  require (current.breedsThisRound < maxBreedsPerRound) .breedingLimitReached
  pure { current with breedsThisRound := current.breedsThisRound + 1 }

/-- The starters do not count against the cap. -/
def checkCollectionCap (profile : PlayerProfile) : Outcome Unit :=
  require (profile.totalFlowers - starterCount < flowerCollectionCap) .collectionFull

def checkBreedAsParent (flower : FlowerRecord) : Outcome Unit :=
  require (flower.timesBredAsParent < maxBreedsAsParent) .flowerParentLimitReached

def registerBreedAsParent (flower : FlowerRecord) : Outcome FlowerRecord := do
  require (flower.timesBredAsParent < maxBreedsAsParent) .flowerParentLimitReached
  pure { flower with timesBredAsParent := min u8Max (flower.timesBredAsParent + 1) }

/-- A flower rests until the round that was running when it changed hands has ended. -/
def transferCooldownActive (flower : FlowerRecord) (now : Int) : Bool :=
  flower.lastTransferAt ≠ 0 ∧ now < roundEndTime flower.lastTransferAt

/-- A counter's increment, aborting when it leaves its type. -/
def increment (modulus counter : Nat) : Outcome Nat := do
  require (counter + 1 < modulus) .arithmeticOverflow
  pure (counter + 1)

/-- The public data of an offspring; its genome arrives with the computation's result. -/
def newOffspring (now : Int) (player : Pubkey) (flowerA flowerB : FlowerKey)
    (parentA parentB : FlowerRecord) (flowerIndex generation : Nat)
    (experimentKey : ExperimentKey) : FlowerRecord :=
  { owner := player
    flowerIndex := flowerIndex
    visualSpeciesId := hybridVisualSpeciesId
    generation := generation
    rarity := 0
    stability := (parentA.stability + parentB.stability) / 2 - breedingStabilityPenalty
    revealedTraitMask := 0
    parentA := some flowerA
    parentB := some flowerB
    genomeStatus := .encrypted
    sourceExperiment := some experimentKey
    status := .locked
    createdAt := now
    encryptedGenome := 0
    encryptionMetadata := 0
    genomeCommitment := .replicate 32 0
    timesBredAsParent := 0
    lastTransferAt := 0 }

/-- Queue a breeding of two flowers. The player's own profile was read before the owners are
synchronized and is written back at the end, over whatever they wrote to it.
-/
def startBreeding (flowerA flowerB : FlowerKey) (syncA syncB : SyncAccounts)
    (computationOffset : Nat) (state : ProgramState) : Outcome ProgramState := do
  requireUnpaused env
  let player := env.signer
  let profile ← fetch (state.profiles.lookup player) .accountNotInitialized
  require (flowerA ≠ flowerB) .duplicateMutableAccount
  let parentA ← fetch (state.flowers.lookup flowerA) .accountNotInitialized
  require (parentA.status = .active) .flowerNotActive
  let parentB ← fetch (state.flowers.lookup flowerB) .accountNotInitialized
  require (parentB.status = .active) .flowerNotActive
  let experimentKey : ExperimentKey := ⟨player, profile.totalExperiments⟩
  require (state.experiments.lookup experimentKey).isNone .accountInUse
  let offspringKey : FlowerKey := ⟨player, profile.nextFlowerIndex⟩
  require (state.flowers.lookup offspringKey).isNone .accountInUse
  let (parentA, profiles) ← syncFlowerOwner state env.now flowerA syncA parentA state.profiles
  let (parentB, profiles) ← syncFlowerOwner state env.now flowerB syncB parentB profiles
  require (parentA.owner = player) .flowerNotOwned
  require (parentB.owner = player) .flowerNotOwned
  let profile ← registerBreedAttempt (env.config.currentRound % u32Modulus) profile
  checkCollectionCap profile
  checkBreedAsParent parentA
  checkBreedAsParent parentB
  let parentA ← registerBreedAsParent parentA
  let parentB ← registerBreedAsParent parentB
  let generation ← increment u16Modulus (max parentA.generation parentB.generation)
  require (transferCooldownActive parentA env.now = false) .flowerRecentlyTransferred
  require (transferCooldownActive parentB env.now = false) .flowerRecentlyTransferred
  let tokens ← freezeFlowerIfMinted state player flowerA syncA.token state.tokens
  let tokens ← freezeFlowerIfMinted state player flowerB syncB.token tokens
  let totalExperiments ← increment u32Modulus profile.totalExperiments
  let activeExperimentCount ← increment u32Modulus profile.activeExperimentCount
  let totalFlowers ← increment u16Modulus profile.totalFlowers
  let nextFlowerIndex ← increment u32Modulus profile.nextFlowerIndex
  let offspring := newOffspring env.now player flowerA flowerB parentA parentB
    profile.nextFlowerIndex generation experimentKey
  pure { state with
    profiles := profiles.insert player { profile with
      totalExperiments := totalExperiments
      activeExperimentCount := activeExperimentCount
      totalFlowers := totalFlowers
      nextFlowerIndex := nextFlowerIndex }
    flowers := ((state.flowers.insert flowerA { parentA with status := .locked }).insert flowerB
      { parentB with status := .locked }).insert offspringKey offspring
    experiments := state.experiments.insert experimentKey
      { owner := player
        parentA := flowerA
        parentB := flowerB
        computationOffset := computationOffset
        status := .queued
        resultFlower := offspringKey
        createdAt := env.now
        updatedAt := env.now
        errorCode := 0
        callbackProcessed := false }
    tokens := tokens }

--------------------------------------------------------------------------------
-- The end of an experiment
--------------------------------------------------------------------------------

/-- What a verified breeding computation returns: the genome's ciphertext, its nonce, and the
visible classes with the rarity tier packed into them.
-/
structure BreedOutput where
  ciphertexts : Nat
  nonce : Nat
  mask : Nat

/-- The accounts that an experiment's callback writes, as they were queued with it. -/
structure ExperimentAccounts where
  experiment : Experiment
  profile : PlayerProfile
  flowerA : FlowerRecord
  flowerB : FlowerRecord

/-- Load an experiment with its player's profile and both parents. -/
def loadExperiment (experimentKey : ExperimentKey) (state : ProgramState)
    : Outcome ExperimentAccounts := do
  let experiment ← fetch (state.experiments.lookup experimentKey) .accountNotInitialized
  let profile ← fetch (state.profiles.lookup experiment.owner) .accountNotInitialized
  let flowerA ← fetch (state.flowers.lookup experiment.parentA) .accountNotInitialized
  let flowerB ← fetch (state.flowers.lookup experiment.parentB) .accountNotInitialized
  require (experiment.parentA ≠ experiment.parentB) .duplicateMutableAccount
  pure ⟨experiment, profile, flowerA, flowerB⟩

/-- End an experiment: both parents become active again and the player has one experiment less
in flight.
-/
def resolveExperiment (experimentKey : ExperimentKey) (accounts : ExperimentAccounts)
    (status : ExperimentStatus) (errorCode : Nat) (state : ProgramState) : ProgramState :=
  let experiment := accounts.experiment
  { state with
    flowers := (state.flowers.insert experiment.parentA
        { accounts.flowerA with status := .active }).insert experiment.parentB
      { accounts.flowerB with status := .active }
    experiments := state.experiments.insert experimentKey { experiment with
      status := status
      callbackProcessed := true
      errorCode := errorCode
      updatedAt := env.now }
    profiles := state.profiles.insert experiment.owner { accounts.profile with
      activeExperimentCount := accounts.profile.activeExperimentCount - 1 } }

/-- Deliver a breeding computation, its verified output or its failure. Once the experiment is
resolved a delivery changes nothing.
-/
def breedV5Callback (experimentKey : ExperimentKey) (output : Option BreedOutput)
    (state : ProgramState) : Outcome ProgramState := do
  let accounts ← loadExperiment experimentKey state
  let experiment := accounts.experiment
  let offspring ← fetch (state.flowers.lookup experiment.resultFlower) .accountNotInitialized
  require (experiment.resultFlower ≠ experiment.parentA
    ∧ experiment.resultFlower ≠ experiment.parentB) .duplicateMutableAccount
  if experiment.callbackProcessed then pure state
  else
    match output with
    | some result =>
        let grown :=
          { offspring with
            encryptedGenome := result.ciphertexts
            encryptionMetadata := result.nonce
            genomeCommitment := sha256 (genomeBytes result.ciphertexts result.nonce)
            rarity := (result.mask >>> rarityShift) &&& 7
            revealedTraitMask := result.mask &&& rarityStripMask
            status := .active }
        let resolved :=
          resolveExperiment env experimentKey accounts .completed experiment.errorCode state
        pure { resolved with
          flowers := resolved.flowers.insert experiment.resultFlower grown }
    | none =>
        pure (resolveExperiment env experimentKey accounts .failed breedErrorAborted state)

/-- Anyone may expire an experiment that was not answered in time. -/
def cancelExpiredExperiment (experimentKey : ExperimentKey) (state : ProgramState)
    : Outcome ProgramState := do
  let accounts ← loadExperiment experimentKey state
  let experiment := accounts.experiment
  require (experiment.status = .queued ∨ experiment.status = .processing)
    .experimentAlreadyResolved
  require (experimentTimeoutSeconds ≤ env.now - experiment.createdAt) .experimentNotYetExpired
  pure (resolveExperiment env experimentKey accounts .expired experiment.errorCode state)

/-- Remove a flower and count it out of a profile. -/
def removeFlower (flowerKey : FlowerKey) (wallet : Pubkey) (profile : PlayerProfile)
    (state : ProgramState) : ProgramState :=
  { state with
    flowers := state.flowers.erase flowerKey
    profiles := state.profiles.insert wallet { profile with
      totalFlowers := profile.totalFlowers - 1 } }

/-- Anyone may close the offspring of an experiment that failed or expired. -/
def reclaimDeadOffspring (experimentKey : ExperimentKey) (offspringKey : FlowerKey)
    (ownerRecipient : Pubkey) (state : ProgramState) : Outcome ProgramState := do
  let experiment ← fetch (state.experiments.lookup experimentKey) .accountNotInitialized
  require (experiment.status = .failed ∨ experiment.status = .expired) .experimentNotDead
  let offspring ← fetch (state.flowers.lookup offspringKey) .accountNotInitialized
  require (offspring.sourceExperiment = some experimentKey) .offspringNotReclaimable
  require (experiment.resultFlower = offspringKey) .offspringNotReclaimable
  require (offspring.status = .locked) .offspringNotReclaimable
  require (ownerRecipient = offspring.owner) .invalidRentDestination
  let profile ← fetch (state.profiles.lookup offspring.owner) .accountNotInitialized
  pure (removeFlower offspringKey offspring.owner profile state)

/-- A player deletes an active bred flower that was never minted. -/
def closeFlower (flowerKey : FlowerKey) (state : ProgramState) : Outcome ProgramState := do
  requireUnpaused env
  let owner := env.signer
  let profile ← fetch (state.profiles.lookup owner) .accountNotInitialized
  let flower ← fetch (state.flowers.lookup flowerKey) .accountNotInitialized
  require (flower.owner = owner) .flowerNotOwned
  require (flower.status = .active) .flowerNotActive
  require (flower.genomeStatus = .encrypted) .starterNotDeletable
  require (state.mints.lookup flowerKey).isNone .flowerStillMinted
  pure (removeFlower flowerKey owner profile state)

end SecretGarden.Garden
