import SecretGarden.Garden.Competition

/-! The whole program as a state machine: every instruction on profiles and flowers, everything
the rounds and the configuration do besides, and what anyone may do to flower tokens outside
the program.
-/

namespace SecretGarden.Garden

open Foundation SecretGarden.Bracket SecretGarden.Settlement SecretGarden.Season

/-- What holders and their delegates do to token accounts by themselves. -/
inductive TokenEvent where
  | createAccount (address owner : Pubkey) (mint : FlowerKey)
  | transfer (source destination : Pubkey)
  | setOwner (address owner : Pubkey)
  /-- Approve a delegate, or revoke it. -/
  | approve (address : Pubkey) (delegate : Option Delegate)
  /-- A wallet that is the delegate freezes or thaws the account. -/
  | setFrozen (address : Pubkey) (frozen : Bool)
  | burn (address : Pubkey)
  | closeAccount (address : Pubkey)

/-- A token account whose owner may act on it. -/
def unfrozenToken (state : ProgramState) (address : Pubkey) : Outcome FlowerToken := do
  let token ← fetch (state.tokens.lookup address) .accountNotInitialized
  require (token.frozen = false) .accountFrozen
  pure token

def TokenEvent.happen (state : ProgramState) : TokenEvent → Outcome ProgramState
  | .createAccount address owner mint => do
      require (state.mints.lookup mint).isSome .accountNotInitialized
      require (state.tokens.lookup address).isNone .accountInUse
      pure { state with
        tokens := state.tokens.insert address
          { owner := owner
            mint := mint
            amount := 0
            frozen := false
            delegate := none
            delegatedAmount := 0 } }
  | .transfer source destination => do
      let sender ← unfrozenToken state source
      let receiver ← unfrozenToken state destination
      require (source ≠ destination ∧ sender.mint = receiver.mint) .wrongFlowerMint
      require (1 ≤ sender.amount) .insufficientFunds
      pure { state with
        tokens := (state.tokens.insert source { sender with amount := sender.amount - 1 }).insert
          destination { receiver with amount := receiver.amount + 1 } }
  | .setOwner address owner => do
      let token ← unfrozenToken state address
      pure { state with
        tokens := state.tokens.insert address
          { token with owner := owner, delegate := none, delegatedAmount := 0 } }
  | .approve address delegate => do
      let token ← unfrozenToken state address
      pure { state with
        tokens := state.tokens.insert address
          { token with delegate := delegate, delegatedAmount := if delegate.isSome then 1 else 0 } }
  | .setFrozen address frozen => do
      let token ← fetch (state.tokens.lookup address) .accountNotInitialized
      require (token.delegate.isSome ∧ token.delegate ≠ some .mintAuthority) .notFlowerDelegate
      require (1 ≤ token.delegatedAmount) .notFlowerDelegate
      pure { state with tokens := state.tokens.insert address { token with frozen := frozen } }
  | .burn address => do
      let token ← unfrozenToken state address
      require (token.amount = 1) .insufficientFunds
      require (state.mints.lookup token.mint).isSome .accountNotInitialized
      pure { state with
        mints := state.mints.insert token.mint 0
        tokens := state.tokens.erase address }
  | .closeAccount address => do
      let token ← fetch (state.tokens.lookup address) .accountNotInitialized
      require (token.amount = 0) .insufficientFunds
      pure { state with tokens := state.tokens.erase address }

inductive GardenInstruction where
  | createProfile
  | claimStarters
  | startBreeding (flowerA flowerB : FlowerKey) (syncA syncB : SyncAccounts)
    (computationOffset : Nat)
  | breedV5Callback (experimentKey : ExperimentKey) (output : Option BreedOutput)
  | cancelExpiredExperiment (experimentKey : ExperimentKey)
  | reclaimDeadOffspring (experimentKey : ExperimentKey) (offspringKey : FlowerKey)
    (ownerRecipient : Pubkey)
  | closeFlower (flowerKey : FlowerKey)
  | submitEntry (roundKey : RoundKey) (entryKey : Pubkey) (flowerKey : FlowerKey)
    (playerSgdAta : Pubkey) (accounts : SyncAccounts)
  | releaseFlower (roundKey : RoundKey) (entryKey : Pubkey) (flowerKey : FlowerKey)
    (accounts : SyncAccounts)
  | queueScoreEntry (roundKey : RoundKey) (computationOffset : Nat) (entryKey : Pubkey)
    (flowerKey : FlowerKey)
  | queuePrivateHint (roundKey : RoundKey) (flowerKey : FlowerKey) (accounts : SyncAccounts)
    (computationOffset hintPubkey hintNonce : Nat)
  | privateHintCallback (computationOffset : Nat) (output : Option SealedHint)
  | setMintingEnabled (enabled : Bool)
  | mintFlowerNft (flowerKey : FlowerKey) (tokenAccount : Pubkey) (uri : String)
  | burnFlowerNft (flowerKey : FlowerKey) (tokenAccount : Pubkey)
  | thawFlowerNft (flowerKey : FlowerKey) (accounts : SyncAccounts)
  | token (event : TokenEvent)
  /-- Whatever touches rounds and configuration only. -/
  | season (instruction : SeasonInstruction)

/-- Entering, scoring and releasing also take the flower, so they do not count as a season's
own.
-/
def SeasonInstruction.TouchesFlower : SeasonInstruction → Bool
  | .round _ (.submitEntry _ _ _ _) => true
  | .round _ (.queueScoreEntry _ _ _) => true
  | .round _ (.releaseEntry _ _) => true
  | _ => false

structure GardenSubmission where
  signer : Pubkey
  slot : Nat
  now : Int
  instruction : GardenInstruction

def ProgramState.env (state : ProgramState) (submission : GardenSubmission) : Env :=
  { signer := submission.signer
    config := state.config
    slot := submission.slot
    now := submission.now }

def gardenStep (state : ProgramState) (submission : GardenSubmission) : Outcome ProgramState :=
  let env := state.env submission
  match submission.instruction with
  | .createProfile => createProfile env state
  | .claimStarters => claimStarters env state
  | .startBreeding flowerA flowerB syncA syncB computationOffset =>
      startBreeding env flowerA flowerB syncA syncB computationOffset state
  | .breedV5Callback experimentKey output => breedV5Callback env experimentKey output state
  | .cancelExpiredExperiment experimentKey => cancelExpiredExperiment env experimentKey state
  | .reclaimDeadOffspring experimentKey offspringKey ownerRecipient =>
      reclaimDeadOffspring experimentKey offspringKey ownerRecipient state
  | .closeFlower flowerKey => closeFlower env flowerKey state
  | .submitEntry roundKey entryKey flowerKey playerSgdAta accounts =>
      submitEntry env roundKey entryKey flowerKey playerSgdAta accounts state
  | .releaseFlower roundKey entryKey flowerKey accounts =>
      releaseFlower env roundKey entryKey flowerKey accounts state
  | .queueScoreEntry roundKey computationOffset entryKey flowerKey =>
      queueScoreEntry env roundKey computationOffset entryKey flowerKey state
  | .queuePrivateHint roundKey flowerKey accounts computationOffset hintPubkey hintNonce =>
      queuePrivateHint env roundKey flowerKey accounts computationOffset hintPubkey hintNonce state
  | .privateHintCallback computationOffset output =>
      privateHintCallback env computationOffset output state
  | .setMintingEnabled enabled => setMintingEnabled env enabled state
  | .mintFlowerNft flowerKey tokenAccount uri =>
      mintFlowerNft env flowerKey tokenAccount uri state
  | .burnFlowerNft flowerKey tokenAccount => burnFlowerNft env flowerKey tokenAccount state
  | .thawFlowerNft flowerKey accounts => thawFlowerNft env flowerKey accounts state
  | .token event => event.happen state
  | .season instruction => do
      require (SeasonInstruction.TouchesFlower instruction = false) .constraintRaw
      let deployment ← seasonStep state.toDeployment
        ⟨submission.signer, submission.slot, submission.now, instruction⟩
      pure { state with toDeployment := deployment }

/-- A program that was just deployed: nobody has a profile or a flower yet. -/
structure ProgramState.Fresh (state : ProgramState) : Prop where
  deployment : state.toDeployment.Fresh
  profiles : state.profiles = ∅
  flowers : state.flowers = ∅
  experiments : state.experiments = ∅
  mints : state.mints = ∅
  tokens : state.tokens = ∅
  hints : state.hints = ∅
  hintComputations : state.hintComputations = ∅

end SecretGarden.Garden
