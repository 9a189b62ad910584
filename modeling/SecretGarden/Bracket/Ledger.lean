import SecretGarden.Accounts
import SecretGarden.Circuit.RevealTop3

/-! The accounts a round's reveal works on, and what its instructions share: the layout
check, the entry loop, the queued computation and its callback.
-/

namespace SecretGarden.Bracket

open Foundation

/-- One circuit slot: the entry whose score is read in place, its nonce and its rarity. -/
structure RevealSlot where
  account : Pubkey
  nonce : Nat
  rarity : Nat
deriving DecidableEq

structure RevealArgs where
  slots : Fin maxParticipants → RevealSlot
  participantCount : Nat

/-- A queued computation and the result account its callback is registered for. -/
structure RevealComputation where
  target : ResultAddress
  args : RevealArgs

/-- The accounts of one round's reveal, with the program's entry accounts. -/
structure RevealLedger where
  round : CompetitionRound
  entries : Store Pubkey CompetitionEntry
  bracket : Option BracketState
  tier1 : Option Tier1State
  results : Store ResultAddress RevealTop3V3Result
  computations : Store Nat RevealComputation

/-- The checks on a declared partition: the shard count and every size in range, the sizes
adding up to the participants, unused slots zero, and first keys strictly ascending.
-/
def checkShardLayout {capacity : Nat} (shardSizes : Vector Nat capacity)
    (shardBounds : Vector Pubkey capacity) (shardCount participantCount : Nat)
    : Outcome Unit := do
  require (1 ≤ shardCount ∧ shardCount ≤ capacity) .invalidShardLayout
  require (∀ size ∈ shardSizes.toList.take shardCount,
    minShardSize ≤ size ∧ size ≤ maxShardSize) .invalidShardLayout
  require ((shardSizes.toList.take shardCount).sum = participantCount) .invalidShardLayout
  require (∀ size ∈ shardSizes.toList.drop shardCount, size = 0) .invalidShardLayout
  require ((shardBounds.toList.take shardCount).IsChain (· < ·)) .invalidShardLayout

/-- An entry account together with its address. -/
abbrev Contender : Type := Pubkey × CompetitionEntry

/-- The loop over the supplied accounts: each must be an entry of this round, scored where
the caller requires it, placed where `place` allows, and within the key array.
-/
def readRun (entries : Store Pubkey CompetitionEntry) (roundKey : RoundKey)
    (capacity : Nat) (scoredOnly : Bool)
    (place : (i : Nat) → (prev key : Pubkey) → Outcome Unit)
    : (i : Nat) → (prev : Pubkey) → (accounts : List Pubkey) → Outcome (List Contender)
  | _, _, [] => pure []
  | i, prev, key :: rest => do
      let entry ← fetch (entries.lookup key) .accountNotInitialized
      require (entry.round = roundKey) .wrongEntryCount
      require (scoredOnly → entry.scored) .scoringIncomplete
      place i prev key
      require (i < capacity) .arrayIndex
      let later ← readRun entries roundKey capacity scoredOnly place (i + 1) key rest
      pure ((key, entry) :: later)

/-- Placement in shard `k`: the first account is the shard's declared first key, the rest
ascend, and all stay below the next shard's first key.
-/
def shardPlace {capacity : Nat} (shardBounds : Vector Pubkey capacity) (shardCount k : Nat)
    (i : Nat) (prev key : Pubkey) : Outcome Unit := do
  let low ← fetch shardBounds[k]? .arrayIndex
  require (if i = 0 then key = low else prev < key) .shardEntriesOutOfRange
  require (k + 1 < shardCount → shardBounds[k + 1]?.all (key < ·)) .shardEntriesOutOfRange

/-- Placement in the final: ascending recorded finalists. -/
def finalPlace (finalists : List Pubkey) (i : Nat) (prev key : Pubkey) : Outcome Unit := do
  require (0 < i → prev < key) .shardEntriesOutOfRange
  require (key ∈ finalists) .finalistMismatch

/-- Placement in a semifinal: exactly the winner at the same position of the slice. -/
def semifinalPlace (winners : Vector Pubkey maxTier1Winners) (start : Nat)
    (i : Nat) (_prev key : Pubkey) : Outcome Unit :=
  require (winners[start + i]? = some key) .semifinalSliceMismatch

def revealSlot (contender : Contender) : RevealSlot :=
  { account := contender.1
    nonce := contender.2.scoreNonce
    rarity := contender.2.raritySnapshot }

/-- Slots past the run are padded with its first entry, which the circuit masks. -/
def buildRevealArgs (run : List Contender) : RevealArgs :=
  let padding := (run.head?.map revealSlot).getD ⟨0, 0, 0⟩
  { slots := fun i => (run[i.val]?.map revealSlot).getD padding
    participantCount := run.length }

/-- Stamp the result account with the partition's generation, clear it, and queue the
computation whose callback will fill it.
-/
def queueComputation (computationOffset : Nat) (target : ResultAddress) (generation : Nat)
    (run : List Contender) (ledger : RevealLedger) : Outcome RevealLedger := do
  let result := (ledger.results.lookup target).getD RevealTop3V3Result.zeroed
  require (ledger.computations.lookup computationOffset).isNone .accountInUse
  pure { ledger with
    results := ledger.results.insert target
      { result with
        round := ledger.round.key
        ready := false
        errorCode := 0
        generation := generation }
    computations := ledger.computations.insert computationOffset
      { target := target, args := buildRevealArgs run } }

/-- What the circuit reads: scores in place from the entries, the rest from the arguments. -/
def RevealArgs.input (args : RevealArgs) (entries : Store Pubkey CompetitionEntry)
    : Circuit.RevealInput :=
  { raw := fun i => ((entries.lookup (args.slots i).account).map (·.encryptedScore)).getD 0
    participantCount := args.participantCount
    rar := fun i => (args.slots i).rarity }

/-- Deliver a queued computation: its verified output goes to the registered result
account, whatever generation that account now carries. Each is delivered at most once.
-/
def revealTop3V5Callback (computationOffset : Nat) (verified : Bool) (ledger : RevealLedger)
    : Outcome RevealLedger := do
  let computation ← fetch (ledger.computations.lookup computationOffset) .computationNotFound
  let result ← fetch (ledger.results.lookup computation.target) .accountNotInitialized
  require verified .abortedComputation
  let top := Circuit.revealTop3V5 (computation.args.input ledger.entries)
  pure { ledger with
    results := ledger.results.insert computation.target
      { result with
        slot1 := top.slot1, score1 := top.score1
        slot2 := top.slot2, score2 := top.score2
        slot3 := top.slot3, score3 := top.score3
        ready := true }
    computations := ledger.computations.erase computationOffset }

/-- Resolve a revealed slot within a run of `size` keys. -/
def pickWinner (keys : List Pubkey) (size slot : Nat) : Outcome Pubkey := do
  require (slot < size) .wrongEntryCount
  fetch keys[slot]? .arrayIndex

/-- Resolve revealed slots in rank order. -/
def pickWinners (keys : List Pubkey) (size : Nat) : (slots : List Nat) → Outcome (List Pubkey)
  | [] => pure []
  | slot :: rest => do
      let key ← pickWinner keys size slot
      let later ← pickWinners keys size rest
      pure (key :: later)

def pushFinalist (key : Pubkey) (bracket : BracketState) : Outcome BracketState := do
  require (bracket.finalistCount < maxFinalists) .invalidShardLayout
  pure { bracket with
    finalists := bracket.finalists.setIfInBounds bracket.finalistCount key
    finalistCount := bracket.finalistCount + 1 }

def requireOperator (env : Env) : Outcome Unit :=
  require (isOperatorOrAuthority env.config env.signer) .notAuthority

def requireUnpaused (env : Env) : Outcome Unit :=
  require (env.config.paused = false) .gamePaused

end SecretGarden.Bracket
