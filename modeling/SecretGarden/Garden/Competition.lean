import SecretGarden.Garden.Breeding

/-! Flowers in competition, their hints, and their tokens. -/

namespace SecretGarden.Garden

open Foundation SecretGarden.Bracket SecretGarden.Settlement SecretGarden.Season

variable (env : Env)

/-- What an instruction does to its round. -/
def onRound (roundKey : RoundKey) (instruction : RoundInstruction) (state : ProgramState)
    : Outcome ProgramState := do
  let deployment ← seasonStep state.toDeployment
    ⟨env.signer, env.slot, env.now, .round roundKey instruction⟩
  pure { state with toDeployment := deployment }

/-- Enter a round with a flower. Like breeding, this read the player's profile before the owner
is synchronized and writes it back at the end.
-/
def submitEntry (roundKey : RoundKey) (entryKey : Pubkey) (flowerKey : FlowerKey)
    (playerSgdAta : Pubkey) (accounts : SyncAccounts) (state : ProgramState)
    : Outcome ProgramState := do
  requireUnpaused env
  let player := env.signer
  let profile ← fetch (state.profiles.lookup player) .accountNotInitialized
  let record ← fetch (state.flowers.lookup flowerKey) .accountNotInitialized
  let (flower, profiles) ←
    syncFlowerOwner state env.now flowerKey accounts record state.profiles
  let entered ← onRound env roundKey (.submitEntry entryKey flowerKey flower playerSgdAta) state
  let tokens ← freezeFlowerIfMinted state player flowerKey accounts.token state.tokens
  pure { entered with
    profiles := profiles.insert player { profile with
      finalSubmissions := min u8Max (profile.finalSubmissions + 1) }
    flowers := state.flowers.insert flowerKey { flower with status := .submitted }
    tokens := tokens }

/-- Give a bred flower back to its holder after its round. -/
def releaseFlower (roundKey : RoundKey) (entryKey : Pubkey) (flowerKey : FlowerKey)
    (accounts : SyncAccounts) (state : ProgramState) : Outcome ProgramState := do
  let record ← fetch (state.flowers.lookup flowerKey) .accountNotInitialized
  let released ← onRound env roundKey (.releaseEntry entryKey flowerKey) state
  require (record.status = .submitted) .flowerNotSubmitted
  require (record.genomeStatus = .encrypted) .starterNotDeletable
  let (flower, profiles) ←
    syncFlowerOwner state env.now flowerKey accounts record state.profiles
  pure { released with
    profiles := profiles
    flowers := state.flowers.insert flowerKey { flower with status := .active } }

/-- Score an entry from the genome that its flower holds. -/
def queueScoreEntry (roundKey : RoundKey) (computationOffset : Nat) (entryKey : Pubkey)
    (flowerKey : FlowerKey) (state : ProgramState) : Outcome ProgramState := do
  require (state.flowers.lookup flowerKey).isSome .accountNotInitialized
  onRound env roundKey (.queueScoreEntry computationOffset entryKey flowerKey) state

/-- Ask how well a flower fits the open round, under a computation offset that is new; any older
hint is stale from here on.
-/
def queuePrivateHint (roundKey : RoundKey) (flowerKey : FlowerKey) (accounts : SyncAccounts)
    (computationOffset hintPubkey hintNonce : Nat) (state : ProgramState)
    : Outcome ProgramState := do
  let player := env.signer
  let ledger ← fetch (state.rounds.lookup roundKey) .accountNotInitialized
  require (ledger.round.status = .opened) .noActiveRound
  let record ← fetch (state.flowers.lookup flowerKey) .accountNotInitialized
  require (record.status ≠ .locked) .flowerNotActive
  let (flower, profiles) ←
    syncFlowerOwner state env.now flowerKey accounts record state.profiles
  require (flower.owner = player) .flowerNotOwned
  require (state.hintComputations.lookup computationOffset).isNone .accountInUse
  let hint := (state.hints.lookup player).getD HintResult.zeroed
  pure { state with
    profiles := profiles
    flowers := state.flowers.insert flowerKey flower
    hints := state.hints.insert player { hint with
      player := player
      roundId := ledger.round.roundId
      targetTraitCount := ledger.round.targetTraitCount
      ready := false }
    hintComputations := state.hintComputations.insert computationOffset
      { player := player
        flower := flowerKey
        genomeNonce := flower.encryptionMetadata
        targetTraits := ledger.round.targetTraits
        targetTraitCount := ledger.round.targetTraitCount
        hintPubkey := hintPubkey
        hintNonce := hintNonce } }

/-- An answer sealed for the player. -/
structure SealedHint where
  encryptionKey : Nat
  nonce : Nat
  ciphertext : Nat
deriving DecidableEq

/-- Deliver a hint computation, at any time and more than once: its verified answer, or its
failure. The account it writes was fixed when it was queued.
-/
def privateHintCallback (computationOffset : Nat) (output : Option SealedHint)
    (state : ProgramState) : Outcome ProgramState := do
  let request ← fetch (state.hintComputations.lookup computationOffset) .computationNotFound
  let hint ← fetch (state.hints.lookup request.player) .accountNotInitialized
  match output with
  | some sealedHint =>
      pure { state with
        hints := state.hints.insert request.player { hint with
          encryptionKey := sealedHint.encryptionKey
          nonce := sealedHint.nonce
          ciphertext := sealedHint.ciphertext
          ready := true
          computedAt := env.now } }
  | none => pure state

--------------------------------------------------------------------------------
-- Tokens
--------------------------------------------------------------------------------

def setMintingEnabled (enabled : Bool) (state : ProgramState) : Outcome ProgramState := do
  requireOperator env
  pure { state with mintingEnabled := enabled }

/-- Mint the token of a bred flower into a new account of its owner. -/
def mintFlowerNft (flowerKey : FlowerKey) (tokenAccount : Pubkey) (uri : String)
    (state : ProgramState) : Outcome ProgramState := do
  requireUnpaused env
  require state.mintingEnabled .mintingDisabled
  let owner := env.signer
  let flower ← fetch (state.flowers.lookup flowerKey) .accountNotInitialized
  require (flower.owner = owner) .flowerNotOwned
  require (flower.status = .active) .flowerNotActive
  require (flower.genomeStatus = .encrypted) .starterNotMintable
  require (state.mints.lookup flowerKey).isNone .accountInUse
  require (state.tokens.lookup tokenAccount).isNone .accountInUse
  require (uri.utf8ByteSize ≤ nftMaxUriLen) .uriTooLong
  pure { state with
    mints := state.mints.insert flowerKey 1
    tokens := state.tokens.insert tokenAccount
      { owner := owner
        mint := flowerKey
        amount := 1
        frozen := false
        delegate := none
        delegatedAmount := 0 } }

/-- Burn the token of an active flower; the flower's record stays. -/
def burnFlowerNft (flowerKey : FlowerKey) (tokenAccount : Pubkey) (state : ProgramState)
    : Outcome ProgramState := do
  requireUnpaused env
  let owner := env.signer
  let flower ← fetch (state.flowers.lookup flowerKey) .accountNotInitialized
  require (flower.owner = owner) .flowerNotOwned
  require (flower.status = .active) .flowerNotActive
  let supply ← fetch (state.mints.lookup flowerKey) .accountNotInitialized
  require (supply = 1) .flowerNotMinted
  let token ← fetch (state.tokens.lookup tokenAccount) .accountNotInitialized
  require (token.mint = flowerKey ∧ token.owner = owner) .constraintRaw
  require (token.amount = 1) .flowerNotMinted
  require (token.frozen = false) .accountFrozen
  pure { state with
    mints := state.mints.insert flowerKey 0
    tokens := state.tokens.erase tokenAccount }

/-- Anyone may unlock the token of a flower that is active again. -/
def thawFlowerNft (flowerKey : FlowerKey) (accounts : SyncAccounts) (state : ProgramState)
    : Outcome ProgramState := do
  let record ← fetch (state.flowers.lookup flowerKey) .accountNotInitialized
  require (record.status = .active) .flowerNotActive
  require (state.mints.lookup flowerKey).isSome .accountNotInitialized
  let token ← fetch (state.tokens.lookup accounts.token) .accountNotInitialized
  require (token.mint = flowerKey) .wrongFlowerMint
  require (token.amount = 1) .notFlowerHolder
  require token.frozen .flowerNotFrozen
  require (token.delegate = some .mintAuthority) .notFlowerDelegate
  let (flower, profiles) ←
    syncFlowerOwner state env.now flowerKey accounts record state.profiles
  pure { state with
    profiles := profiles
    flowers := state.flowers.insert flowerKey flower
    tokens := state.tokens.insert accounts.token { token with frozen := false } }

end SecretGarden.Garden
