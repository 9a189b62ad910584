import SecretGarden.Bracket.SingleTier

/-! Two tiers of shards, for rounds above one tier's capacity: tier-1 winners are kept
sorted, sliced into semifinals, and the semifinal winners take the single-tier endgame.
-/

namespace SecretGarden.Bracket

open Foundation

variable (env : Env)

def initTier1Bracket (shardSizes : Vector Nat maxTier1Shards)
    (shardBounds : Vector Pubkey maxTier1Shards) (shardCount : Nat) (ledger : RevealLedger)
    : Outcome RevealLedger := do
  requireUnpaused env
  require ledger.tier1.isNone .accountInUse
  requireOperator env
  let round := ledger.round
  require (round.status = .closed ∨ round.status = .finalized) .roundNotClosed
  require (round.scoringRevealed = false) .scoringAlreadyRevealed
  require (round.scoredCount = round.participantCount) .scoringIncomplete
  require (singleTierCapacity < round.participantCount) .wrongBracketTier
  checkShardLayout shardSizes shardBounds shardCount round.participantCount
  require (((shardSizes.toList.take shardCount).map (min shardWinners)).sum ≤ maxTier1Winners)
    .invalidShardLayout
  pure { ledger with
    tier1 := some
      { round := round.key
        shardBounds := shardBounds
        winners := .replicate _ 0
        shardSizes := shardSizes
        shardDone := .replicate _ false
        shardCount := shardCount
        winnerCount := 0
        promoted := false
        -- the low bits of the clock slot, so that a re-created account differs
        generation := env.slot % generationModulus } }

def closeTier1Bracket (ledger : RevealLedger) : Outcome RevealLedger := do
  require ledger.tier1.isSome .accountNotInitialized
  requireOperator env
  require (ledger.round.scoringRevealed = false) .scoringAlreadyRevealed
  pure { ledger with tier1 := none }

def queueTier1ShardReveal (computationOffset shardIndex : Nat) (accounts : List Pubkey)
    (ledger : RevealLedger) : Outcome RevealLedger := do
  requireUnpaused env
  let tier1 ← fetch ledger.tier1 .accountNotInitialized
  requireOperator env
  require (tier1.round = ledger.round.key) .bracketRoundMismatch
  require (tier1.promoted = false) .tier1AlreadyPromoted
  require (ledger.round.scoringRevealed = false) .scoringAlreadyRevealed
  require (shardIndex < tier1.shardCount) .invalidShardIndex
  let size ← fetch tier1.shardSizes[shardIndex]? .arrayIndex
  require (accounts.length = size) .wrongEntryCount
  let run ← readRun ledger.entries ledger.round.key maxParticipants true
    (shardPlace tier1.shardBounds tier1.shardCount shardIndex) 0 0 accounts
  queueComputation computationOffset (.shard shardIndex) tier1.generation run ledger

/-- Resolve each slot and insert its entry among the sorted winners. -/
def recordWinners (keys : List Pubkey) (size : Nat)
    : (slots : List Nat) → (tier1 : Tier1State) → Outcome Tier1State
  | [], tier1 => pure tier1
  | slot :: rest, tier1 => do
      let key ← pickWinner keys size slot
      let next ← fetch (tier1.insertWinnerSorted key) .tier1WinnerRejected
      recordWinners keys size rest next

def collectTier1Winners (shardIndex : Nat) (accounts : List Pubkey) (ledger : RevealLedger)
    : Outcome RevealLedger := do
  let tier1 ← fetch ledger.tier1 .accountNotInitialized
  let result ← fetch (ledger.results.lookup (.shard shardIndex)) .accountNotInitialized
  requireOperator env
  require result.ready .shardResultNotReady
  require (result.errorCode = 0) .abortedComputation
  require (tier1.round = ledger.round.key) .bracketRoundMismatch
  require (tier1.promoted = false) .tier1AlreadyPromoted
  require (result.generation = tier1.generation) .staleRevealResult
  require (shardIndex < tier1.shardCount) .invalidShardIndex
  require (tier1.shardDone[shardIndex]? = some false) .shardAlreadyCollected
  let size ← fetch tier1.shardSizes[shardIndex]? .arrayIndex
  require (accounts.length = size) .wrongEntryCount
  let run ← readRun ledger.entries ledger.round.key maxShardSize false
    (shardPlace tier1.shardBounds tier1.shardCount shardIndex) 0 0 accounts
  let recorded ← recordWinners (run.map Prod.fst) size
    (result.slots.take (min shardWinners size)) tier1
  pure { ledger with
    tier1 := some { recorded with
      shardDone := recorded.shardDone.setIfInBounds shardIndex true } }

/-- The size of semifinal `k` when `n` winners are split evenly into `count` slices. -/
def balancedSize (n count k : Nat) : Nat :=
  n / count + if k < n % count then 1 else 0

/-- The position of the first winner of semifinal `k`. -/
def sliceStart (n count k : Nat) : Nat :=
  ((List.range k).map (balancedSize n count)).sum

/-- The number of semifinals that hold `n` winners. -/
def semifinalCount (n : Nat) : Nat := (n + maxShardSize - 1) / maxShardSize

def promoteTier1 (ledger : RevealLedger) : Outcome RevealLedger := do
  requireUnpaused env
  let tier1 ← fetch ledger.tier1 .accountNotInitialized
  requireOperator env
  require (tier1.round = ledger.round.key) .bracketRoundMismatch
  require (tier1.promoted = false) .tier1AlreadyPromoted
  require tier1.allShardsCollected .tier1NotReady
  let n := tier1.winnerCount
  require (1 ≤ n) .tier1NotReady
  let count := semifinalCount n
  require (count ≤ maxShards) .invalidShardLayout
  let bracket := ledger.bracket.getD BracketState.zeroed
  pure { ledger with
    bracket := some
      { round := ledger.round.key
        shardCount := count
        shardSizes := .ofFn fun k => if k < count then balancedSize n count k else 0
        shardBounds := .ofFn fun k =>
          if k < count then tier1.winners[sliceStart n count k]?.getD 0 else 0
        shardsCollected := 0
        finalists := .replicate _ 0
        finalistCount := 0
        finalQueued := false
        applied := false
        generation := (bracket.generation + 1) % generationModulus }
    tier1 := some { tier1 with promoted := true } }

/-- The position of the first winner of a semifinal, from the stored sizes. -/
def storedStart (bracket : BracketState) (semiIndex : Nat) : Nat :=
  (bracket.shardSizes.toList.take semiIndex).sum

def queueSemifinalReveal (computationOffset semiIndex : Nat) (accounts : List Pubkey)
    (ledger : RevealLedger) : Outcome RevealLedger := do
  requireUnpaused env
  let tier1 ← fetch ledger.tier1 .accountNotInitialized
  let bracket ← fetch ledger.bracket .accountNotInitialized
  requireOperator env
  require (tier1.round = ledger.round.key ∧ bracket.round = ledger.round.key)
    .bracketRoundMismatch
  require tier1.promoted .semifinalNotReady
  require (ledger.round.scoringRevealed = false) .scoringAlreadyRevealed
  require (semiIndex < bracket.shardCount) .invalidShardIndex
  let size ← fetch bracket.shardSizes[semiIndex]? .arrayIndex
  require (accounts.length = size) .wrongEntryCount
  let run ← readRun ledger.entries ledger.round.key maxParticipants true
    (semifinalPlace tier1.winners (storedStart bracket semiIndex)) 0 0 accounts
  queueComputation computationOffset (.semifinal semiIndex) bracket.generation run ledger

/-- Record resolved entries as the next finalists. -/
def pushFinalists : (keys : List Pubkey) → (bracket : BracketState) → Outcome BracketState
  | [], bracket => pure bracket
  | key :: rest, bracket => do
      let next ← pushFinalist key bracket
      pushFinalists rest next

def collectSemifinalWinners (semiIndex : Nat) (ledger : RevealLedger)
    : Outcome RevealLedger := do
  let tier1 ← fetch ledger.tier1 .accountNotInitialized
  let bracket ← fetch ledger.bracket .accountNotInitialized
  let result ← fetch (ledger.results.lookup (.semifinal semiIndex)) .accountNotInitialized
  requireOperator env
  require (tier1.round = ledger.round.key ∧ bracket.round = ledger.round.key)
    .bracketRoundMismatch
  require tier1.promoted .semifinalNotReady
  require (semiIndex < bracket.shardCount) .invalidShardIndex
  require result.ready .shardResultNotReady
  require (result.errorCode = 0) .abortedComputation
  require (result.generation = bracket.generation) .staleRevealResult
  require (bracket.shardsCollected.testBit semiIndex = false) .shardAlreadyCollected
  let size ← fetch bracket.shardSizes[semiIndex]? .arrayIndex
  let picked ← pickWinners (tier1.winners.toList.drop (storedStart bracket semiIndex)) size
    (result.slots.take (min shardWinners size))
  let recorded ← pushFinalists picked bracket
  pure { ledger with
    bracket := some { recorded with
      shardsCollected := recorded.shardsCollected ||| 1 <<< semiIndex } }

end SecretGarden.Bracket
