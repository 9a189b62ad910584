import SecretGarden.Settlement.Ledger

/-! A round from its opening to its finalization: entries, closing, scoring and releasing. -/

namespace SecretGarden.Settlement

open Foundation SecretGarden.Bracket

variable (env : Env)

/-- The next daily anchor that leaves the round at least its minimum length. -/
def roundEndTime (now : Int) : Int :=
  let dayStart := now - now % secondsPerDay
  let anchor := dayStart + roundAnchorUtcSeconds
  let anchor := if anchor ≤ now then anchor + secondsPerDay else anchor
  if anchor - now < minRoundDurationSeconds then anchor + secondsPerDay else anchor

/-- Two places of the pool change their traits. -/
def swapTraits (pool : Vector Nat traitTableLen) (first second : Nat)
    : Vector Nat traitTableLen :=
  (pool.setIfInBounds first (pool[second]?.getD 0)).setIfInBounds second (pool[first]?.getD 0)

/-- Draw `count` traits from the first `poolLen` of the pool, each swapped to the front of what
remains.
-/
def drawTraits (entropy : Vector Byte 32) (poolLen : Nat) (pool : Vector Nat traitTableLen)
    : (count : Nat) → Vector Nat traitTableLen × Vector Nat 4
  | 0 => (pool, .replicate 4 0)
  | k + 1 =>
      let (pool, targets) := drawTraits entropy poolLen pool k
      let draw := (entropy[k + 1]?.getD 0).toNat
      let pool := swapTraits pool k (k + draw % (poolLen - k))
      (pool, targets.setIfInBounds k (pool[k]?.getD 0))

/-- The traits a round asks for and their number. Whether the mutant trait takes part is decided
first.
-/
def selectTargetTraits (entropy : Vector Byte 32) (weight : Nat) : Vector Nat 4 × Nat :=
  let count := targetTraitMin + entropy[0].toNat % (targetTraitMax - targetTraitMin + 1)
  let includeMutant := decide (entropy[mutantGateEntropyIndex].toNat * 255 < weight * 256)
  let traits := (List.range traitTableLen).filter fun id => id != traitIdMutant || includeMutant
  let pool := .ofFn fun place : Fin traitTableLen => traits.getD place 0
  ((drawTraits entropy traits.length pool count).2, count)

/-- What a round's traits are drawn from. -/
def roundEntropy (slot : Nat) (now : Int) (roundId : Nat) : Vector Byte 32 :=
  sha256 (littleEndian slot 8 ++ littleEndian (now % u64Modulus).toNat 8
    ++ littleEndian roundId 8)

/-- A round as `open_round` creates it. -/
def openedRound (roundId : Nat) (now : Int) (targets : Vector Nat 4 × Nat) : CompetitionRound :=
  { roundId := roundId
    status := .opened
    startTime := now
    endTime := roundEndTime now
    maxParticipants := roundCapacity
    participantCount := 0
    targetTraits := targets.1
    targetTraitCount := targets.2
    top1 := 0
    top2 := 0
    top3 := 0
    scoringRevealed := false
    scoredCount := 0 }

/-- The player has entered this round before, under whatever address. -/
def RoundLedger.HasEntered (ledger : RoundLedger) (player : Pubkey) : Prop :=
  ledger.entries.keysWhere (fun entry => entry.round == ledger.round.key
    && entry.player == player) ≠ []

instance (ledger : RoundLedger) (player : Pubkey) : Decidable (ledger.HasEntered player) :=
  inferInstanceAs (Decidable (¬ _ = _))

/-- Enter the round with `flower`, the record as the ownership synchronization left it. The
entry's address is derived from round and player, so it is unused exactly when that player
has not entered yet, and it is never the default address.
-/
def submitEntry (entryKey : Pubkey) (flowerKey : FlowerKey) (flower : FlowerRecord)
    (playerSgdAta : Pubkey) (ledger : RoundLedger) : Outcome RoundLedger := do
  let player := env.signer
  let mint := env.config.sgdMint
  requireUnpaused env
  require (entryKey ≠ 0 ∧ (ledger.entries.lookup entryKey).isNone
    ∧ ¬ ledger.HasEntered player) .accountInUse
  let ata ← fetch (ledger.wallets.lookup playerSgdAta) .accountNotInitialized
  require (ata.owner = player) .wrongSgdMint
  require (ata.mint = mint) .wrongSgdMint
  let balance ← fetch (ledger.vaults.lookup mint) .accountNotInitialized
  require (flower.owner = player) .flowerNotOwned
  require (flower.status = .active) .flowerNotActive
  let round := ledger.round
  require (round.status = .opened) .roundNotOpen
  require (env.now < round.endTime) .roundDeadlinePassed
  require (round.participantCount < round.maxParticipants) .roundFull
  require (mint ≠ 0) .sgdMintNotSet
  require (entryFeeSgd ≤ ata.amount) .insufficientEntryFee
  pure { ledger with
    round := { round with participantCount := round.participantCount + 1 }
    entries := ledger.entries.insert entryKey
      { round := round.key
        player := player
        flowerRecord := flowerKey
        submittedAt := env.now
        status := .submitted
        encryptedScore := 0
        scoreNonce := 0
        scored := false
        scoreErrorCode := 0
        scoreQueued := false
        queuedAt := 0
        raritySnapshot := flower.rarity }
    vaults := ledger.vaults.insert mint (balance + entryFeeSgd)
    wallets := ledger.wallets.insert playerSgdAta
      { ata with amount := ata.amount - entryFeeSgd } }

--------------------------------------------------------------------------------
-- Closing and finalizing
--------------------------------------------------------------------------------

def closeRound (ledger : RoundLedger) : Outcome RoundLedger := do
  requireOperator env
  let round := ledger.round
  require (round.status = .opened) .roundNotOpen
  require (env.signer ≠ env.config.authority
    → minOperatorCloseDelaySeconds ≤ env.now - round.startTime) .roundTooRecentToClose
  pure { ledger with round := { round with status := .closed } }

def finalizeRound (ledger : RoundLedger) : Outcome RoundLedger := do
  requireOperator env
  let round := ledger.round
  require (round.status = .closed) .roundNotClosed
  pure { ledger with round := { round with status := .finalized } }

def queueScoreEntry (computationOffset : Nat) (entryKey : Pubkey) (flowerKey : FlowerKey)
    (ledger : RoundLedger) : Outcome RoundLedger := do
  requireUnpaused env
  let entry ← fetch (ledger.entries.lookup entryKey) .accountNotInitialized
  require (entry.round = ledger.round.key) .constraintRaw
  require (entry.flowerRecord = flowerKey) .constraintRaw
  require (entry.scored = false) .entryAlreadyScored
  require (entry.scoreQueued = false) .scoreAlreadyQueued
  requireOperator env
  require (ledger.round.status = .closed) .roundNotClosed
  require (ledger.scoreComputations.lookup computationOffset).isNone .accountInUse
  pure { ledger with
    entries := ledger.entries.insert entryKey
      { entry with scoreQueued := true, queuedAt := env.now }
    scoreComputations := ledger.scoreComputations.insert computationOffset entryKey }

/-- Deliver a scoring computation, at any time and more than once: its verified score and nonce,
or its failure. An entry that is scored already stays as it is.
-/
def scoreEntryV2Callback (computationOffset : Nat) (output : Option (Nat × Nat))
    (ledger : RoundLedger) : Outcome RoundLedger := do
  let entryKey ← fetch (ledger.scoreComputations.lookup computationOffset) .computationNotFound
  let entry ← fetch (ledger.entries.lookup entryKey) .accountNotInitialized
  require (entry.round = ledger.round.key) .constraintRaw
  if entry.scored then pure ledger
  else
    match output with
    | some (score, nonce) =>
        pure { ledger with
          entries := ledger.entries.insert entryKey
            { entry with
              encryptedScore := score
              scoreNonce := nonce
              scored := true
              scoreQueued := false }
          round := { ledger.round with
            scoredCount := min u16Max (ledger.round.scoredCount + 1) } }
    | none =>
        pure { ledger with
          entries := ledger.entries.insert entryKey
            { entry with scoreErrorCode := scoreErrorAborted, scoreQueued := false } }

def cancelStuckScore (entryKey : Pubkey) (ledger : RoundLedger) : Outcome RoundLedger := do
  let entry ← fetch (ledger.entries.lookup entryKey) .accountNotInitialized
  require (entry.scored = false) .entryAlreadyScored
  require entry.scoreQueued .scoreNotQueued
  require (scoreTimeoutSeconds ≤ env.now - entry.queuedAt) .scoreNotYetTimedOut
  pure { ledger with
    entries := ledger.entries.insert entryKey { entry with scoreQueued := false } }

/-- Give an entry's flower back once the round is over, once for each entry. -/
def releaseEntry (entryKey : Pubkey) (flowerKey : FlowerKey) (ledger : RoundLedger)
    : Outcome RoundLedger := do
  requireUnpaused env
  require (ledger.round.status = .finalized) .roundNotFinalized
  let entry ← fetch (ledger.entries.lookup entryKey) .accountNotInitialized
  require (entry.round = ledger.round.key) .entryMismatch
  require (entry.flowerRecord = flowerKey) .entryMismatch
  require (entry.status = .submitted) .entryAlreadyReleased
  pure { ledger with
    entries := ledger.entries.insert entryKey { entry with status := .released } }

end SecretGarden.Settlement
