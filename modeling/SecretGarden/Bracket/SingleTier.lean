import SecretGarden.Bracket.Ledger

/-! One tier of shards: pin a partition, reveal and collect each shard, reveal the final,
apply the result.
-/

namespace SecretGarden.Bracket

open Foundation

variable (env : Env)

def initBracket (shardSizes : Vector Nat maxShards) (shardBounds : Vector Pubkey maxShards)
    (shardCount : Nat) (ledger : RevealLedger) : Outcome RevealLedger := do
  requireUnpaused env
  requireOperator env
  let round := ledger.round
  require (round.status = .closed ∨ round.status = .finalized) .roundNotClosed
  require (round.scoringRevealed = false) .scoringAlreadyRevealed
  require (round.scoredCount = round.participantCount) .scoringIncomplete
  checkShardLayout shardSizes shardBounds shardCount round.participantCount
  -- the account persists over re-initialization, so its counter keeps rising
  let bracket := ledger.bracket.getD BracketState.zeroed
  pure { ledger with
    bracket := some
      { round := round.key
        shardCount := shardCount
        shardSizes := shardSizes
        shardBounds := shardBounds
        shardsCollected := 0
        finalists := .replicate _ 0
        finalistCount := 0
        finalQueued := false
        applied := false
        generation := (bracket.generation + 1) % generationModulus } }

/-- The number of accounts a queued run must hold: the recorded finalists for the final
reveal, the declared size for an ordinary shard.
-/
def runSize (bracket : BracketState) (shardIndex : Nat) : Outcome Nat :=
  if shardIndex = finalShardIndex then do
    require bracket.needsFinalReveal .finalRevealNotApplicable
    require bracket.allShardsCollected .bracketNotReady
    require (bracket.applied = false) .bracketAlreadyFinal
    pure bracket.finalistCount
  else do
    require (shardIndex < bracket.shardCount) .invalidShardIndex
    fetch bracket.shardSizes[shardIndex]? .arrayIndex

/-- The membership rule of a queued run. -/
def runPlace (bracket : BracketState) (shardIndex : Nat)
    : (i : Nat) → (prev key : Pubkey) → Outcome Unit :=
  if shardIndex = finalShardIndex then finalPlace bracket.activeFinalists
  else shardPlace bracket.shardBounds bracket.shardCount shardIndex

/-- Overwrite the first finalists, one position at a time. -/
def writeFinalists (finalists : Vector Pubkey maxFinalists)
    : (i : Nat) → (keys : List Pubkey) → Vector Pubkey maxFinalists
  | _, [] => finalists
  | i, key :: rest => writeFinalists (finalists.setIfInBounds i key) (i + 1) rest

/-- The final reveal keeps the verified order, which its slots will index. -/
def afterQueue (bracket : BracketState) (shardIndex : Nat) (keys : List Pubkey)
    : BracketState :=
  if shardIndex = finalShardIndex then
    { bracket with
      finalists := writeFinalists bracket.finalists 0 keys
      finalQueued := true }
  else bracket

def queueShardReveal (computationOffset shardIndex : Nat) (accounts : List Pubkey)
    (ledger : RevealLedger) : Outcome RevealLedger := do
  requireUnpaused env
  let bracket ← fetch ledger.bracket .accountNotInitialized
  requireOperator env
  require (bracket.round = ledger.round.key) .bracketRoundMismatch
  require (ledger.round.scoringRevealed = false) .scoringAlreadyRevealed
  let n ← runSize bracket shardIndex
  require (n ≤ maxRevealAccountRefs) .invalidShardLayout
  require (accounts.length = n) .wrongEntryCount
  let run ← readRun ledger.entries ledger.round.key maxParticipants true
    (runPlace bracket shardIndex) 0 0 accounts
  let queued ← queueComputation computationOffset (.shard shardIndex) bracket.generation run
    ledger
  pure { queued with bracket := some (afterQueue bracket shardIndex (run.map Prod.fst)) }

/-- Resolve each slot and record its entry as the next finalist. -/
def recordFinalists (keys : List Pubkey) (size : Nat)
    : (slots : List Nat) → (bracket : BracketState) → Outcome BracketState
  | [], bracket => pure bracket
  | slot :: rest, bracket => do
      let key ← pickWinner keys size slot
      let next ← pushFinalist key bracket
      recordFinalists keys size rest next

def collectShardWinners (shardIndex : Nat) (accounts : List Pubkey) (ledger : RevealLedger)
    : Outcome RevealLedger := do
  let bracket ← fetch ledger.bracket .accountNotInitialized
  let result ← fetch (ledger.results.lookup (.shard shardIndex)) .accountNotInitialized
  requireOperator env
  require (bracket.round = ledger.round.key) .bracketRoundMismatch
  require (shardIndex < bracket.shardCount) .invalidShardIndex
  require result.ready .shardResultNotReady
  require (result.errorCode = 0) .abortedComputation
  require (result.generation = bracket.generation) .staleRevealResult
  require (bracket.shardsCollected.testBit shardIndex = false) .shardAlreadyCollected
  let shardSize ← fetch bracket.shardSizes[shardIndex]? .arrayIndex
  require (accounts.length = shardSize) .wrongEntryCount
  let run ← readRun ledger.entries ledger.round.key maxShardSize false
    (shardPlace bracket.shardBounds bracket.shardCount shardIndex) 0 0 accounts
  let recorded ← recordFinalists (run.map Prod.fst) shardSize
    (result.slots.take (min shardWinners shardSize)) bracket
  pure { ledger with
    bracket := some { recorded with
      shardsCollected := recorded.shardsCollected ||| 1 <<< shardIndex } }

/-- The winners: the finalists as collected when one shard ranked the whole field, the
final reveal's slots into the persisted order otherwise.
-/
def resolveTop (bracket : BracketState) (result : RevealTop3V3Result)
    (resultIndex : Nat) : Outcome (List Pubkey) :=
  if bracket.shardCount = 1 then do
    require (resultIndex = 0) .invalidShardIndex
    require (bracket.finalQueued = false) .finalRevealNotApplicable
    pure (bracket.activeFinalists.take revealTopK)
  else do
    require (resultIndex = finalShardIndex) .invalidShardIndex
    require bracket.finalQueued .bracketNotReady
    pickWinners bracket.activeFinalists bracket.finalistCount
      (result.slots.take bracket.finalistCount)

def applyBracketResult (resultIndex : Nat) (ledger : RevealLedger) : Outcome RevealLedger := do
  let bracket ← fetch ledger.bracket .accountNotInitialized
  let result ← fetch (ledger.results.lookup (.shard resultIndex)) .accountNotInitialized
  requireOperator env
  require (bracket.round = ledger.round.key) .bracketRoundMismatch
  require (bracket.applied = false) .bracketAlreadyFinal
  require bracket.allShardsCollected .bracketNotReady
  require result.ready .shardResultNotReady
  require (result.errorCode = 0) .abortedComputation
  require (result.generation = bracket.generation) .staleRevealResult
  require (ledger.round.scoringRevealed = false) .scoringAlreadyRevealed
  let top ← resolveTop bracket result resultIndex
  pure { ledger with
    round := { ledger.round with
      top1 := top[0]?.getD 0
      top2 := top[1]?.getD 0
      top3 := top[2]?.getD 0
      scoringRevealed := true }
    bracket := some { bracket with applied := true } }

end SecretGarden.Bracket
