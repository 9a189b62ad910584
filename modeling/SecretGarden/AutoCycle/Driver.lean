import SecretGarden.AutoCycle.Planner
import SecretGarden.Bracket.Machine

/-! The script that drives a round's reveal from wherever it stands.
It decides what is left to do from the accounts it reads, sends one transaction after the
other, and waits for the computations it queued. Callbacks land while it waits and between
its transactions.
-/

namespace SecretGarden.AutoCycle

open Foundation SecretGarden.Bracket

inductive DriverFailure where
  | unplannable (error : BracketPlanError)
  | rejected (error : SecretGardenError)
  | accountMissing
  /-- Fewer results came back than were queued. -/
  | resultsMissing
deriving DecidableEq

/-- What the script works with: the environment its transactions run in, fresh offsets for
its computations, and the callbacks that land before its next transaction or while it waits.
-/
structure BracketRevealDeps where
  envs : RevealInstruction → Env
  freshOffset : ResultAddress → Nat
  early : RevealLedger → List Nat
  late : RevealLedger → List Nat

/-- A callback that has nothing to deliver changes nothing. -/
def deliver (computationOffset : Nat) (ledger : RevealLedger) : RevealLedger :=
  match revealTop3V5Callback computationOffset true ledger with
  | .ok after => after
  | .error _ => ledger

/-- Callbacks land one after the other. -/
def land (arrivals : List Nat) (ledger : RevealLedger) : RevealLedger :=
  arrivals.foldl (fun before computationOffset => deliver computationOffset before) ledger

/-- The computation's callback has written a usable result. -/
def resultReady (ledger : RevealLedger) (target : ResultAddress) : Bool :=
  (ledger.results.lookup target).any fun result => result.ready && result.errorCode == 0

section Script

variable (deps : BracketRevealDeps)

def sendTx (instruction : RevealInstruction) (ledger : RevealLedger)
    : Except DriverFailure RevealLedger :=
  match revealStep (land (deps.early ledger) ledger) ⟨deps.envs instruction, instruction⟩ with
  | .ok after => .ok after
  | .error error => .error (.rejected error)

/-- Send a transaction where it is needed. -/
def sendTxIf (needed : Bool) (instruction : RevealInstruction) (ledger : RevealLedger)
    : Except DriverFailure RevealLedger :=
  if needed then sendTx deps instruction ledger else pure ledger

/-- Wait for results, unless there are none to wait for: how many came back, and the ledger
by then.
-/
def awaitResults (targets : List ResultAddress) (ledger : RevealLedger) : Nat × RevealLedger :=
  if targets.isEmpty then (0, ledger)
  else
    let after := land (deps.late ledger) ledger
    (targets.countP (resultReady after), after)

/-- One tier of shards: where its results are, its instructions, and the mark of a shard
whose winners are collected.
-/
structure TierSpec where
  count : Nat
  resultPda : Nat → ResultAddress
  queue : Nat → RevealInstruction
  collected : RevealLedger → Nat → Option Bool
  collect : Nat → RevealInstruction

/-- Collect shard `k` unless that was done before. -/
def collectShard (spec : TierSpec) (ledger : RevealLedger) (k : Nat)
    : Except DriverFailure RevealLedger := do
  let collected ← fetch (spec.collected ledger k) .accountMissing
  if collected then pure ledger else sendTx deps (spec.collect k) ledger

/-- Reveal every shard of a tier and collect its winners. Results that exist are taken as
they are, unless the partition was pinned anew.
-/
def runTier (spec : TierSpec) (forceRequeue : Bool) (existing : RevealLedger)
    : Except DriverFailure RevealLedger := do
  let indices := List.range spec.count
  let missing (ledger : RevealLedger) : List Nat :=
    indices.filter fun k => forceRequeue || !resultReady ledger (spec.resultPda k)
  let inFlight := (missing existing).filter fun k =>
    !forceRequeue && (existing.results.lookup (spec.resultPda k)).isSome
  let settled := (awaitResults deps (inFlight.map spec.resultPda) existing).2
  let needQueue := missing settled
  let queued ← needQueue.foldlM (fun ledger k => sendTx deps (spec.queue k) ledger) settled
  let (landed, revealed) := awaitResults deps (needQueue.map spec.resultPda) queued
  require (needQueue.length ≤ landed) .resultsMissing
  indices.foldlM (collectShard deps spec) revealed

/-- The planned entries of shard `k`. -/
def BracketPlan.entriesOf (plan : BracketPlan) (k : Nat) : List Pubkey :=
  ((plan.shards[k]?).map ShardPlan.entries).getD []

def singleTierSpec (plan : BracketPlan) : TierSpec :=
  { count := plan.shards.length
    resultPda := .shard
    queue := fun k => .queueShardReveal (deps.freshOffset (.shard k)) k (plan.entriesOf k)
    collected := fun ledger k => ledger.bracket.map (·.shardsCollected.testBit k)
    collect := fun k => .collectShardWinners k (plan.entriesOf k) }

/-- Pins the planned partition. -/
def initBracketOf (plan : BracketPlan) : RevealInstruction :=
  .initBracket (padNumbers plan.sizes maxShards)
    (padKeys (plan.shards.map ShardPlan.bound) maxShards) plan.shards.length

def runSingleTier (plan : BracketPlan) (ledger : RevealLedger)
    : Except DriverFailure RevealLedger := do
  let existing := ledger.bracket
  let isMatch := existing.any fun bracket =>
    partitionMatches bracket.shardCount bracket.shardSizes bracket.shardBounds plan
  let repin := existing.isSome && !isMatch
  let pinned ← sendTxIf deps (!isMatch) (initBracketOf plan) ledger
  runTier deps (singleTierSpec deps plan) repin pinned

def tier1Spec (plan : BracketPlan) : TierSpec :=
  { count := plan.shards.length
    resultPda := .shard
    queue := fun k => .queueTier1ShardReveal (deps.freshOffset (.shard k)) k (plan.entriesOf k)
    collected := fun ledger k => ledger.tier1.map (·.shardDone[k]? == some true)
    collect := fun k => .collectTier1Winners k (plan.entriesOf k) }

def initTier1BracketOf (plan : BracketPlan) : RevealInstruction :=
  .initTier1Bracket (padNumbers plan.sizes maxTier1Shards)
    (padKeys (plan.shards.map ShardPlan.bound) maxTier1Shards) plan.shards.length

/-- The winners that play semifinal `k`, by the stored sizes. -/
def sliceFor (tier1 : Tier1State) (bracket : BracketState) (k : Nat) : List Pubkey :=
  (tier1.activeWinners.drop (storedStart bracket k)).take (bracket.shardSizes[k]?.getD 0)

def semifinalSpec (tier1 : Tier1State) (bracket : BracketState) : TierSpec :=
  { count := bracket.shardCount
    resultPda := .semifinal
    queue := fun k =>
      .queueSemifinalReveal (deps.freshOffset (.semifinal k)) k (sliceFor tier1 bracket k)
    collected := fun ledger k => ledger.bracket.map (·.shardsCollected.testBit k)
    collect := .collectSemifinalWinners }

/-- Pin the first tier where it is not pinned as planned, reveal and collect it, and promote
its winners. A promoted first tier is never disturbed.
-/
def runTier1 (plan : BracketPlan) (ledger : RevealLedger)
    : Except DriverFailure RevealLedger := do
  let existing := ledger.tier1
  let isMatch := existing.any fun tier1 =>
    partitionMatches tier1.shardCount tier1.shardSizes tier1.shardBounds plan
  let promoted := existing.any Tier1State.promoted
  let repin := !promoted && existing.isSome && !isMatch
  -- an account of the program always decodes, so it is never stale for its layout
  let cleared ← sendTxIf deps repin .closeTier1Bracket ledger
  let pinned ← sendTxIf deps (existing.isNone || repin) (initTier1BracketOf plan) cleared
  if promoted then pure pinned
  else do
    let collected ← runTier deps (tier1Spec deps plan) repin pinned
    sendTx deps .promoteTier1 collected

/-- After the first tier the semifinals are read from the chain. -/
def runTwoTier (plan : BracketPlan) (ledger : RevealLedger)
    : Except DriverFailure RevealLedger := do
  let promoted ← runTier1 deps plan ledger
  let tier1 ← fetch promoted.tier1 .accountMissing
  let bracket ← fetch promoted.bracket .accountMissing
  runTier deps (semifinalSpec deps tier1 bracket) false promoted

/-- The final reveal over the recorded finalists, queued once. -/
def runFinal (bracket : BracketState) (ledger : RevealLedger)
    : Except DriverFailure RevealLedger := do
  let queued ← sendTxIf deps (!bracket.finalQueued)
    (.queueShardReveal (deps.freshOffset (.shard finalShardIndex)) finalShardIndex
      (sortEntriesByteWise bracket.activeFinalists)) ledger
  let (landed, revealed) := awaitResults deps [.shard finalShardIndex] queued
  require (landed ≠ 0) .resultsMissing
  pure revealed

/-- Reveal whatever the bracket still needs and apply its result. -/
def runEndgame (ledger : RevealLedger) : Except DriverFailure RevealLedger := do
  let bracket ← fetch ledger.bracket .accountMissing
  let single := bracket.shardCount == 1
  if single then sendTx deps (.applyBracketResult 0) ledger
  else do
    let finished ← runFinal deps bracket ledger
    sendTx deps (.applyBracketResult finalShardIndex) finished

/-- Pin, reveal and collect whatever shards are planned. -/
def runTiers (plan : BracketPlan) (ledger : RevealLedger) : Except DriverFailure RevealLedger :=
  match plan.tier with
  | .two => runTwoTier deps plan ledger
  | .single => runSingleTier deps plan ledger

/-- The whole reveal, from wherever it stands to revealed scores. -/
def runBracketReveal (entryKeys : List Pubkey) (ledger : RevealLedger)
    : Except DriverFailure RevealLedger := do
  let plan ← (planBracket entryKeys).mapError .unplannable
  let gathered ← runTiers deps plan ledger
  runEndgame deps gathered

end Script

end SecretGarden.AutoCycle
