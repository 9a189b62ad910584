import SecretGarden.Bracket.Machine

/-! What each reveal instruction checks and changes.
Every instruction is accepted exactly when its named checks hold, and then commits the
stated ledger; later proofs use these facts and never open an instruction again.
-/

namespace SecretGarden.Bracket

open Foundation

/-- Every account passes the placement rule in its turn. -/
def Placed (place : (i : Nat) → (prev key : Pubkey) → Outcome Unit)
    : (i : Nat) → (prev : Pubkey) → (accounts : List Pubkey) → Prop
  | _, _, [] => True
  | i, prev, key :: rest => place i prev key = .ok () ∧ Placed place (i + 1) key rest

/-- A successful entry loop: the accounts' entries, each of this round and placed. -/
structure RunRead (entries : Store Pubkey CompetitionEntry) (roundKey : RoundKey)
    (capacity : Nat) (scoredOnly : Bool)
    (place : (i : Nat) → (prev key : Pubkey) → Outcome Unit)
    (i : Nat) (prev : Pubkey) (accounts : List Pubkey) (run : List Contender)
    : Prop where
  keys : run.map Prod.fst = accounts
  entered : ∀ contender ∈ run,
    entries.lookup contender.1 = some contender.2 ∧ contender.2.round = roundKey
  scored : scoredOnly → ∀ contender ∈ run, contender.2.scored
  fits : ∀ position < accounts.length, i + position < capacity
  placed : Placed place i prev accounts

/-- The entry loop succeeds exactly with a read run, by induction on the accounts. -/
theorem readRun_eq_ok {entries : Store Pubkey CompetitionEntry} {roundKey : RoundKey}
    {capacity : Nat} {scoredOnly : Bool}
    {place : (i : Nat) → (prev key : Pubkey) → Outcome Unit}
    {i : Nat} {prev : Pubkey} {accounts : List Pubkey} {run : List Contender}
    : readRun entries roundKey capacity scoredOnly place i prev accounts = .ok run
      ↔ RunRead entries roundKey capacity scoredOnly place i prev accounts run := by
  induction accounts generalizing i prev run with
  | nil =>
      simp only [readRun, pure_eq_ok]
      constructor
      · rintro rfl
        exact ⟨rfl, by simp, by simp, by simp, trivial⟩
      · exact fun read => (List.map_eq_nil_iff.mp read.keys).symm
  | cons key rest ih =>
      simp only [readRun, bind_eq_ok, fetch_eq_ok, require_eq_ok, exists_const, pure_eq_ok]
      constructor
      · rintro ⟨entry, found, own, scored, _, placed, inside, later, success, rfl⟩
        have read := ih.mp success
        refine ⟨by simp [read.keys], ?_, ?_, ?_, placed, read.placed⟩
        · exact List.forall_mem_cons.mpr ⟨⟨found, own⟩, read.entered⟩
        · exact fun only => List.forall_mem_cons.mpr ⟨scored only, read.scored only⟩
        · intro position within
          cases position with
          | zero => exact inside
          | succ position =>
              have := read.fits position (by simpa using within)
              omega
      · intro read
        cases run with
        | nil => exact absurd read.keys (by simp)
        | cons head later =>
            obtain ⟨entry, rfl⟩ : ∃ entry, head = (key, entry) :=
              ⟨head.2, Prod.ext (List.cons.inj read.keys).1 rfl⟩
            obtain ⟨⟨found, own⟩, entered⟩ := List.forall_mem_cons.mp read.entered
            refine ⟨entry, found, own, fun only => ?_, (), read.placed.1, ?_, later, ?_, rfl⟩
            · exact (List.forall_mem_cons.mp (read.scored only)).1
            · exact read.fits 0 (by simp)
            · refine ih.mpr ⟨(List.cons.inj read.keys).2, entered, fun only => ?_, ?_,
                read.placed.2⟩
              · exact (List.forall_mem_cons.mp (read.scored only)).2
              · intro position within
                have := read.fits (position + 1) (by simpa using within)
                omega

variable {env : Env} {ledger after : RevealLedger}

/-- A declared partition that passes the layout checks. -/
structure LayoutChecked {capacity : Nat} (shardSizes : Vector Nat capacity)
    (shardBounds : Vector Pubkey capacity) (shardCount participantCount : Nat)
    : Prop where
  nonempty : 1 ≤ shardCount
  bounded : shardCount ≤ capacity
  sizes : ∀ size ∈ shardSizes.toList.take shardCount,
    minShardSize ≤ size ∧ size ≤ maxShardSize
  total : (shardSizes.toList.take shardCount).sum = participantCount
  unused : ∀ size ∈ shardSizes.toList.drop shardCount, size = 0
  ascending : (shardBounds.toList.take shardCount).IsChain (· < ·)

theorem checkShardLayout_eq_ok {capacity : Nat} {shardSizes : Vector Nat capacity}
    {shardBounds : Vector Pubkey capacity} {shardCount participantCount : Nat} {done : Unit}
    : checkShardLayout shardSizes shardBounds shardCount participantCount = .ok done
      ↔ LayoutChecked shardSizes shardBounds shardCount participantCount := by
  simp only [checkShardLayout, bind_eq_ok, require_eq_ok, exists_const]
  constructor
  · rintro ⟨⟨nonempty, bounded⟩, sizes, total, unused, ascending⟩
    exact ⟨nonempty, bounded, sizes, total, unused, ascending⟩
  · rintro ⟨nonempty, bounded, sizes, total, unused, ascending⟩
    exact ⟨⟨nonempty, bounded⟩, sizes, total, unused, ascending⟩

/-- The result account after a queue: stamped and cleared. -/
def stampedResult (ledger : RevealLedger) (target : ResultAddress) (generation : Nat)
    : RevealTop3V3Result :=
  { (ledger.results.lookup target).getD RevealTop3V3Result.zeroed with
    round := ledger.round.key
    ready := false
    errorCode := 0
    generation := generation }

/-- The ledger after a queue. -/
def RevealLedger.queue (ledger : RevealLedger) (computationOffset : Nat)
    (target : ResultAddress) (generation : Nat) (run : List Contender) : RevealLedger :=
  { ledger with
    results := ledger.results.insert target (stampedResult ledger target generation)
    computations := ledger.computations.insert computationOffset
      { target := target, args := buildRevealArgs run } }

theorem queueComputation_eq_ok {computationOffset : Nat} {target : ResultAddress}
    {generation : Nat} {run : List Contender}
    : queueComputation computationOffset target generation run ledger = .ok after
      ↔ ledger.computations.lookup computationOffset = none
        ∧ ledger.queue computationOffset target generation run = after := by
  simp only [queueComputation, bind_eq_ok, require_eq_ok, exists_const, pure_eq_ok,
    Option.isNone_iff_eq_none]
  rfl

/-- The result account after a delivery. -/
def deliveredResult (result : RevealTop3V3Result) (top : Circuit.RevealOutput)
    : RevealTop3V3Result :=
  { result with
    slot1 := top.slot1, score1 := top.score1
    slot2 := top.slot2, score2 := top.score2
    slot3 := top.slot3, score3 := top.score3
    ready := true }

theorem revealTop3V5Callback_eq_ok {computationOffset : Nat} {verified : Bool}
    : revealTop3V5Callback computationOffset verified ledger = .ok after
      ↔ ∃ computation result,
          ledger.computations.lookup computationOffset = some computation
          ∧ ledger.results.lookup computation.target = some result
          ∧ verified
          ∧ { ledger with
              results := ledger.results.insert computation.target
                (deliveredResult result
                  (Circuit.revealTop3V5 (computation.args.input ledger.entries)))
              computations := ledger.computations.erase computationOffset } = after := by
  simp only [revealTop3V5Callback, bind_eq_ok, fetch_eq_ok, require_eq_ok, exists_const,
    pure_eq_ok]
  constructor
  · rintro ⟨computation, found, result, present, checked, rfl⟩
    exact ⟨computation, result, found, present, checked, rfl⟩
  · rintro ⟨computation, result, found, present, checked, rfl⟩
    exact ⟨computation, found, result, present, checked, rfl⟩

--------------------------------------------------------------------------------
-- Single tier
--------------------------------------------------------------------------------

/-- What both partition pins require of the round. -/
structure PinChecks (env : Env) (round : CompetitionRound) : Prop where
  unpaused : env.config.paused = false
  operator : isOperatorOrAuthority env.config env.signer
  ended : round.status = .closed ∨ round.status = .finalized
  unrevealed : round.scoringRevealed = false
  scored : round.scoredCount = round.participantCount

/-- The bracket account after a pin. -/
def RevealLedger.freshBracket (ledger : RevealLedger) (shardSizes : Vector Nat maxShards)
    (shardBounds : Vector Pubkey maxShards) (shardCount : Nat) : BracketState :=
  { round := ledger.round.key
    shardCount := shardCount
    shardSizes := shardSizes
    shardBounds := shardBounds
    shardsCollected := 0
    finalists := .replicate _ 0
    finalistCount := 0
    finalQueued := false
    applied := false
    generation := ((ledger.bracket.getD BracketState.zeroed).generation + 1) % generationModulus }

@[simp] theorem activeFinalists_freshBracket {shardSizes : Vector Nat maxShards}
    {shardBounds : Vector Pubkey maxShards} {shardCount : Nat}
    : (ledger.freshBracket shardSizes shardBounds shardCount).activeFinalists = [] := by
  simp [RevealLedger.freshBracket, BracketState.activeFinalists]

theorem initBracket_eq_ok {shardSizes : Vector Nat maxShards}
    {shardBounds : Vector Pubkey maxShards} {shardCount : Nat}
    : initBracket env shardSizes shardBounds shardCount ledger = .ok after
      ↔ PinChecks env ledger.round
        ∧ LayoutChecked shardSizes shardBounds shardCount ledger.round.participantCount
        ∧ { ledger with
            bracket := some (ledger.freshBracket shardSizes shardBounds shardCount) }
          = after := by
  simp only [initBracket, requireUnpaused, requireOperator, bind_eq_ok, require_eq_ok,
    checkShardLayout_eq_ok, exists_const, pure_eq_ok]
  constructor
  · rintro ⟨unpaused, operator, ended, unrevealed, scored, layout, rfl⟩
    exact ⟨⟨unpaused, operator, ended, unrevealed, scored⟩, layout, rfl⟩
  · rintro ⟨⟨unpaused, operator, ended, unrevealed, scored⟩, layout, rfl⟩
    exact ⟨unpaused, operator, ended, unrevealed, scored, layout, rfl⟩

/-- Queueing rewrites the finalists of a bracket at most. -/
theorem afterQueue_frame (bracket : BracketState) (shardIndex : Nat) (keys : List Pubkey)
    : afterQueue bracket shardIndex keys
      = { bracket with
          finalists := (afterQueue bracket shardIndex keys).finalists
          finalQueued := (afterQueue bracket shardIndex keys).finalQueued } := by
  unfold afterQueue
  split <;> rfl

structure QueueChecks (env : Env) (ledger : RevealLedger) (shardIndex : Nat)
    (accounts : List Pubkey) (bracket : BracketState) (run : List Contender) : Prop where
  unpaused : env.config.paused = false
  found : ledger.bracket = some bracket
  operator : isOperatorOrAuthority env.config env.signer
  owned : bracket.round = ledger.round.key
  unrevealed : ledger.round.scoringRevealed = false
  size : runSize bracket shardIndex = .ok accounts.length
  bounded : accounts.length ≤ maxRevealAccountRefs
  read : RunRead ledger.entries ledger.round.key maxParticipants true
    (runPlace bracket shardIndex) 0 0 accounts run

theorem queueShardReveal_eq_ok {computationOffset shardIndex : Nat} {accounts : List Pubkey}
    : queueShardReveal env computationOffset shardIndex accounts ledger = .ok after
      ↔ ∃ bracket run,
          QueueChecks env ledger shardIndex accounts bracket run
          ∧ ledger.computations.lookup computationOffset = none
          ∧ { ledger.queue computationOffset (.shard shardIndex) bracket.generation run with
              bracket := some (afterQueue bracket shardIndex accounts) } = after := by
  simp only [queueShardReveal, requireUnpaused, requireOperator, bind_eq_ok, require_eq_ok,
    fetch_eq_ok, queueComputation_eq_ok, readRun_eq_ok, exists_const, pure_eq_ok]
  constructor
  · rintro ⟨unpaused, bracket, found, operator, owned, unrevealed, _, size, bounded, rfl, run,
      read, _, ⟨free, rfl⟩, rfl⟩
    exact ⟨bracket, run, ⟨unpaused, found, operator, owned, unrevealed, size, bounded, read⟩,
      free, by rw [read.keys]⟩
  · rintro ⟨bracket, run, checks, free, rfl⟩
    exact ⟨checks.unpaused, bracket, checks.found, checks.operator, checks.owned,
      checks.unrevealed, _, checks.size, checks.bounded, rfl, run, checks.read, _,
      ⟨free, rfl⟩, by rw [checks.read.keys]⟩

structure CollectChecks (env : Env) (ledger : RevealLedger) (shardIndex : Nat)
    (accounts : List Pubkey) (bracket : BracketState) (result : RevealTop3V3Result)
    (run : List Contender) : Prop where
  found : ledger.bracket = some bracket
  resulted : ledger.results.lookup (.shard shardIndex) = some result
  operator : isOperatorOrAuthority env.config env.signer
  owned : bracket.round = ledger.round.key
  indexed : shardIndex < bracket.shardCount
  ready : result.ready
  clean : result.errorCode = 0
  current : result.generation = bracket.generation
  uncollected : bracket.shardsCollected.testBit shardIndex = false
  size : bracket.shardSizes[shardIndex]? = some accounts.length
  read : RunRead ledger.entries ledger.round.key maxShardSize false
    (shardPlace bracket.shardBounds bracket.shardCount shardIndex) 0 0 accounts run

/-- The bracket with one more shard collected. -/
def markCollected (bracket : BracketState) (shardIndex : Nat) : BracketState :=
  { bracket with shardsCollected := bracket.shardsCollected ||| 1 <<< shardIndex }

theorem collectShardWinners_eq_ok {shardIndex : Nat} {accounts : List Pubkey}
    : collectShardWinners env shardIndex accounts ledger = .ok after
      ↔ ∃ bracket result run recorded,
          CollectChecks env ledger shardIndex accounts bracket result run
          ∧ recordFinalists accounts accounts.length
              (result.slots.take (min shardWinners accounts.length)) bracket = .ok recorded
          ∧ { ledger with bracket := some (markCollected recorded shardIndex) } = after := by
  simp only [collectShardWinners, requireOperator, bind_eq_ok, require_eq_ok,
    fetch_eq_ok, readRun_eq_ok, exists_const, pure_eq_ok]
  constructor
  · rintro ⟨bracket, found, result, resulted, operator, owned, indexed, ready, clean, current,
      uncollected, _, size, rfl, run, read, recorded, pushed, rfl⟩
    exact ⟨bracket, result, run, recorded,
      ⟨found, resulted, operator, owned, indexed, ready, clean, current, uncollected, size,
        read⟩,
      by rwa [read.keys] at pushed, rfl⟩
  · rintro ⟨bracket, result, run, recorded, checks, pushed, rfl⟩
    exact ⟨bracket, checks.found, result, checks.resulted, checks.operator, checks.owned,
      checks.indexed, checks.ready, checks.clean, checks.current, checks.uncollected, _,
      checks.size, rfl, run, checks.read, recorded, by rwa [checks.read.keys], rfl⟩

/-- A bracket of one shard is won by the first finalists. -/
theorem resolveTop_single {bracket : BracketState} {result : RevealTop3V3Result}
    {resultIndex : Nat} {top : List Pubkey} (one : bracket.shardCount = 1)
    : resolveTop bracket result resultIndex = .ok top
      ↔ resultIndex = 0 ∧ bracket.finalQueued = false
        ∧ bracket.activeFinalists.take revealTopK = top := by
  simp only [resolveTop, if_pos one, bind_eq_ok, require_eq_ok, exists_const, pure_eq_ok]

/-- A bracket of several shards is won by the finalists that the final's result picks. -/
theorem resolveTop_many {bracket : BracketState} {result : RevealTop3V3Result}
    {resultIndex : Nat} {top : List Pubkey} (many : bracket.shardCount ≠ 1)
    : resolveTop bracket result resultIndex = .ok top
      ↔ resultIndex = finalShardIndex ∧ bracket.finalQueued
        ∧ pickWinners bracket.activeFinalists bracket.finalistCount
            (result.slots.take bracket.finalistCount) = .ok top := by
  simp only [resolveTop, if_neg many, bind_eq_ok, require_eq_ok, exists_const]

structure ApplyChecks (env : Env) (ledger : RevealLedger) (resultIndex : Nat)
    (bracket : BracketState) (result : RevealTop3V3Result) : Prop where
  found : ledger.bracket = some bracket
  resulted : ledger.results.lookup (.shard resultIndex) = some result
  operator : isOperatorOrAuthority env.config env.signer
  owned : bracket.round = ledger.round.key
  unapplied : bracket.applied = false
  collected : bracket.allShardsCollected
  ready : result.ready
  clean : result.errorCode = 0
  current : result.generation = bracket.generation
  unrevealed : ledger.round.scoringRevealed = false

/-- The round with its winners written. -/
def revealedRound (round : CompetitionRound) (top : List Pubkey) : CompetitionRound :=
  { round with
    top1 := top[0]?.getD 0
    top2 := top[1]?.getD 0
    top3 := top[2]?.getD 0
    scoringRevealed := true }

theorem applyBracketResult_eq_ok {resultIndex : Nat}
    : applyBracketResult env resultIndex ledger = .ok after
      ↔ ∃ bracket result top,
          ApplyChecks env ledger resultIndex bracket result
          ∧ resolveTop bracket result resultIndex = .ok top
          ∧ { ledger with
              round := revealedRound ledger.round top
              bracket := some { bracket with applied := true } } = after := by
  simp only [applyBracketResult, requireOperator, bind_eq_ok, require_eq_ok, fetch_eq_ok,
    exists_const, pure_eq_ok]
  constructor
  · rintro ⟨bracket, found, result, resulted, operator, owned, unapplied, collected, ready,
      clean, current, unrevealed, top, resolved, rfl⟩
    exact ⟨bracket, result, top,
      ⟨found, resulted, operator, owned, unapplied, collected, ready, clean, current,
        unrevealed⟩,
      resolved, rfl⟩
  · rintro ⟨bracket, result, top, checks, resolved, rfl⟩
    exact ⟨bracket, checks.found, result, checks.resulted, checks.operator, checks.owned,
      checks.unapplied, checks.collected, checks.ready, checks.clean, checks.current,
      checks.unrevealed, top, resolved, rfl⟩

--------------------------------------------------------------------------------
-- Two tiers
--------------------------------------------------------------------------------

/-- The tier-1 account after a pin. -/
def freshTier1 (round : CompetitionRound) (shardSizes : Vector Nat maxTier1Shards)
    (shardBounds : Vector Pubkey maxTier1Shards) (shardCount slot : Nat) : Tier1State :=
  { round := round.key
    shardBounds := shardBounds
    winners := .replicate _ 0
    shardSizes := shardSizes
    shardDone := .replicate _ false
    shardCount := shardCount
    winnerCount := 0
    promoted := false
    generation := slot % generationModulus }

@[simp] theorem activeWinners_freshTier1 {round : CompetitionRound}
    {shardSizes : Vector Nat maxTier1Shards} {shardBounds : Vector Pubkey maxTier1Shards}
    {shardCount slot : Nat}
    : (freshTier1 round shardSizes shardBounds shardCount slot).activeWinners = [] := by
  simp [freshTier1, Tier1State.activeWinners]

theorem initTier1Bracket_eq_ok {shardSizes : Vector Nat maxTier1Shards}
    {shardBounds : Vector Pubkey maxTier1Shards} {shardCount : Nat}
    : initTier1Bracket env shardSizes shardBounds shardCount ledger = .ok after
      ↔ PinChecks env ledger.round
        ∧ ledger.tier1 = none
        ∧ singleTierCapacity < ledger.round.participantCount
        ∧ LayoutChecked shardSizes shardBounds shardCount ledger.round.participantCount
        ∧ ((shardSizes.toList.take shardCount).map (min shardWinners)).sum ≤ maxTier1Winners
        ∧ { ledger with
            tier1 := some
              (freshTier1 ledger.round shardSizes shardBounds shardCount env.slot) }
          = after := by
  simp only [initTier1Bracket, requireUnpaused, requireOperator, bind_eq_ok, require_eq_ok,
    checkShardLayout_eq_ok, exists_const, pure_eq_ok, Option.isNone_iff_eq_none]
  constructor
  · rintro ⟨unpaused, absent, operator, ended, unrevealed, scored, large, layout, fits, rfl⟩
    exact ⟨⟨unpaused, operator, ended, unrevealed, scored⟩, absent, large, layout, fits, rfl⟩
  · rintro ⟨⟨unpaused, operator, ended, unrevealed, scored⟩, absent, large, layout, fits, rfl⟩
    exact ⟨unpaused, absent, operator, ended, unrevealed, scored, large, layout, fits, rfl⟩

theorem closeTier1Bracket_eq_ok
    : closeTier1Bracket env ledger = .ok after
      ↔ (∃ tier1, ledger.tier1 = some tier1)
        ∧ isOperatorOrAuthority env.config env.signer
        ∧ ledger.round.scoringRevealed = false
        ∧ { ledger with tier1 := none } = after := by
  simp only [closeTier1Bracket, requireOperator, bind_eq_ok, require_eq_ok, exists_const,
    pure_eq_ok, Option.isSome_iff_exists]

structure Tier1QueueChecks (env : Env) (ledger : RevealLedger) (shardIndex : Nat)
    (accounts : List Pubkey) (tier1 : Tier1State) (run : List Contender) : Prop where
  unpaused : env.config.paused = false
  found : ledger.tier1 = some tier1
  operator : isOperatorOrAuthority env.config env.signer
  owned : tier1.round = ledger.round.key
  unpromoted : tier1.promoted = false
  unrevealed : ledger.round.scoringRevealed = false
  indexed : shardIndex < tier1.shardCount
  size : tier1.shardSizes[shardIndex]? = some accounts.length
  read : RunRead ledger.entries ledger.round.key maxParticipants true
    (shardPlace tier1.shardBounds tier1.shardCount shardIndex) 0 0 accounts run

theorem queueTier1ShardReveal_eq_ok {computationOffset shardIndex : Nat}
    {accounts : List Pubkey}
    : queueTier1ShardReveal env computationOffset shardIndex accounts ledger = .ok after
      ↔ ∃ tier1 run,
          Tier1QueueChecks env ledger shardIndex accounts tier1 run
          ∧ ledger.computations.lookup computationOffset = none
          ∧ ledger.queue computationOffset (.shard shardIndex) tier1.generation run = after := by
  simp only [queueTier1ShardReveal, requireUnpaused, requireOperator, bind_eq_ok,
    require_eq_ok, fetch_eq_ok, queueComputation_eq_ok, readRun_eq_ok, exists_const]
  constructor
  · rintro ⟨unpaused, tier1, found, operator, owned, unpromoted, unrevealed, indexed, _, size,
      rfl, run, read, free, rfl⟩
    exact ⟨tier1, run,
      ⟨unpaused, found, operator, owned, unpromoted, unrevealed, indexed, size, read⟩, free,
      rfl⟩
  · rintro ⟨tier1, run, checks, free, rfl⟩
    exact ⟨checks.unpaused, tier1, checks.found, checks.operator, checks.owned,
      checks.unpromoted, checks.unrevealed, checks.indexed, _, checks.size, rfl, run,
      checks.read, free, rfl⟩

structure Tier1CollectChecks (env : Env) (ledger : RevealLedger) (shardIndex : Nat)
    (accounts : List Pubkey) (tier1 : Tier1State) (result : RevealTop3V3Result)
    (run : List Contender) : Prop where
  found : ledger.tier1 = some tier1
  resulted : ledger.results.lookup (.shard shardIndex) = some result
  operator : isOperatorOrAuthority env.config env.signer
  ready : result.ready
  clean : result.errorCode = 0
  owned : tier1.round = ledger.round.key
  unpromoted : tier1.promoted = false
  current : result.generation = tier1.generation
  indexed : shardIndex < tier1.shardCount
  uncollected : tier1.shardDone[shardIndex]? = some false
  size : tier1.shardSizes[shardIndex]? = some accounts.length
  read : RunRead ledger.entries ledger.round.key maxShardSize false
    (shardPlace tier1.shardBounds tier1.shardCount shardIndex) 0 0 accounts run

/-- The tier-1 account with one more shard collected. -/
def markDone (tier1 : Tier1State) (shardIndex : Nat) : Tier1State :=
  { tier1 with shardDone := tier1.shardDone.setIfInBounds shardIndex true }

theorem collectTier1Winners_eq_ok {shardIndex : Nat} {accounts : List Pubkey}
    : collectTier1Winners env shardIndex accounts ledger = .ok after
      ↔ ∃ tier1 result run recorded,
          Tier1CollectChecks env ledger shardIndex accounts tier1 result run
          ∧ recordWinners accounts accounts.length
              (result.slots.take (min shardWinners accounts.length)) tier1 = .ok recorded
          ∧ { ledger with tier1 := some (markDone recorded shardIndex) } = after := by
  simp only [collectTier1Winners, requireOperator, bind_eq_ok, require_eq_ok,
    fetch_eq_ok, readRun_eq_ok, exists_const, pure_eq_ok]
  constructor
  · rintro ⟨tier1, found, result, resulted, operator, ready, clean, owned, unpromoted, current,
      indexed, uncollected, _, size, rfl, run, read, recorded, inserted, rfl⟩
    exact ⟨tier1, result, run, recorded,
      ⟨found, resulted, operator, ready, clean, owned, unpromoted, current, indexed,
        uncollected, size, read⟩,
      by rwa [read.keys] at inserted, rfl⟩
  · rintro ⟨tier1, result, run, recorded, checks, inserted, rfl⟩
    exact ⟨tier1, checks.found, result, checks.resulted, checks.operator, checks.ready,
      checks.clean, checks.owned, checks.unpromoted, checks.current, checks.indexed,
      checks.uncollected, _, checks.size, rfl, run, checks.read, recorded,
      by rwa [checks.read.keys], rfl⟩

structure PromoteChecks (env : Env) (ledger : RevealLedger) (tier1 : Tier1State)
    : Prop where
  unpaused : env.config.paused = false
  found : ledger.tier1 = some tier1
  operator : isOperatorOrAuthority env.config env.signer
  owned : tier1.round = ledger.round.key
  unpromoted : tier1.promoted = false
  collected : tier1.allShardsCollected
  winners : 1 ≤ tier1.winnerCount
  fits : semifinalCount tier1.winnerCount ≤ maxShards

/-- The declared sizes of the semifinals. -/
def semifinalSizes (n : Nat) : Vector Nat maxShards :=
  .ofFn fun k => if k < semifinalCount n then balancedSize n (semifinalCount n) k else 0

/-- The first winner of each semifinal. -/
def semifinalBounds (tier1 : Tier1State) : Vector Pubkey maxShards :=
  let n := tier1.winnerCount
  .ofFn fun k =>
    if k < semifinalCount n then tier1.winners[sliceStart n (semifinalCount n) k]?.getD 0 else 0

theorem promoteTier1_eq_ok
    : promoteTier1 env ledger = .ok after
      ↔ ∃ tier1,
          PromoteChecks env ledger tier1
          ∧ { ledger with
              bracket := some (ledger.freshBracket (semifinalSizes tier1.winnerCount)
                (semifinalBounds tier1) (semifinalCount tier1.winnerCount))
              tier1 := some { tier1 with promoted := true } } = after := by
  simp only [promoteTier1, requireUnpaused, requireOperator, bind_eq_ok, require_eq_ok,
    fetch_eq_ok, exists_const, pure_eq_ok]
  constructor
  · rintro ⟨unpaused, tier1, found, operator, owned, unpromoted, collected, winners, fits, rfl⟩
    exact ⟨tier1,
      ⟨unpaused, found, operator, owned, unpromoted, collected, winners, fits⟩, rfl⟩
  · rintro ⟨tier1, checks, rfl⟩
    exact ⟨checks.unpaused, tier1, checks.found, checks.operator, checks.owned,
      checks.unpromoted, checks.collected, checks.winners, checks.fits, rfl⟩

structure SemifinalQueueChecks (env : Env) (ledger : RevealLedger) (semiIndex : Nat)
    (accounts : List Pubkey) (tier1 : Tier1State) (bracket : BracketState)
    (run : List Contender) : Prop where
  unpaused : env.config.paused = false
  foundTier1 : ledger.tier1 = some tier1
  found : ledger.bracket = some bracket
  operator : isOperatorOrAuthority env.config env.signer
  owned : tier1.round = ledger.round.key ∧ bracket.round = ledger.round.key
  promoted : tier1.promoted
  unrevealed : ledger.round.scoringRevealed = false
  indexed : semiIndex < bracket.shardCount
  size : bracket.shardSizes[semiIndex]? = some accounts.length
  read : RunRead ledger.entries ledger.round.key maxParticipants true
    (semifinalPlace tier1.winners (storedStart bracket semiIndex)) 0 0 accounts run

theorem queueSemifinalReveal_eq_ok {computationOffset semiIndex : Nat} {accounts : List Pubkey}
    : queueSemifinalReveal env computationOffset semiIndex accounts ledger = .ok after
      ↔ ∃ tier1 bracket run,
          SemifinalQueueChecks env ledger semiIndex accounts tier1 bracket run
          ∧ ledger.computations.lookup computationOffset = none
          ∧ ledger.queue computationOffset (.semifinal semiIndex) bracket.generation run
            = after := by
  simp only [queueSemifinalReveal, requireUnpaused, requireOperator, bind_eq_ok,
    require_eq_ok, fetch_eq_ok, queueComputation_eq_ok, readRun_eq_ok, exists_const]
  constructor
  · rintro ⟨unpaused, tier1, foundTier1, bracket, found, operator, owned, promoted, unrevealed,
      indexed, _, size, rfl, run, read, free, rfl⟩
    exact ⟨tier1, bracket, run,
      ⟨unpaused, foundTier1, found, operator, owned, promoted, unrevealed, indexed, size,
        read⟩, free, rfl⟩
  · rintro ⟨tier1, bracket, run, checks, free, rfl⟩
    exact ⟨checks.unpaused, tier1, checks.foundTier1, bracket, checks.found, checks.operator,
      checks.owned, checks.promoted, checks.unrevealed, checks.indexed, _, checks.size, rfl,
      run, checks.read, free, rfl⟩

structure SemifinalCollectChecks (env : Env) (ledger : RevealLedger) (semiIndex size : Nat)
    (tier1 : Tier1State) (bracket : BracketState) (result : RevealTop3V3Result)
    : Prop where
  foundTier1 : ledger.tier1 = some tier1
  found : ledger.bracket = some bracket
  resulted : ledger.results.lookup (.semifinal semiIndex) = some result
  operator : isOperatorOrAuthority env.config env.signer
  owned : tier1.round = ledger.round.key ∧ bracket.round = ledger.round.key
  promoted : tier1.promoted
  indexed : semiIndex < bracket.shardCount
  ready : result.ready
  clean : result.errorCode = 0
  current : result.generation = bracket.generation
  uncollected : bracket.shardsCollected.testBit semiIndex = false
  size : bracket.shardSizes[semiIndex]? = some size

theorem collectSemifinalWinners_eq_ok {semiIndex : Nat}
    : collectSemifinalWinners env semiIndex ledger = .ok after
      ↔ ∃ tier1 bracket result size picked recorded,
          SemifinalCollectChecks env ledger semiIndex size tier1 bracket result
          ∧ pickWinners (tier1.winners.toList.drop (storedStart bracket semiIndex)) size
              (result.slots.take (min shardWinners size)) = .ok picked
          ∧ pushFinalists picked bracket = .ok recorded
          ∧ { ledger with bracket := some (markCollected recorded semiIndex) } = after := by
  simp only [collectSemifinalWinners, requireOperator, bind_eq_ok, require_eq_ok,
    fetch_eq_ok, exists_const, pure_eq_ok]
  constructor
  · rintro ⟨tier1, foundTier1, bracket, found, result, resulted, operator, owned, promoted,
      indexed, ready, clean, current, uncollected, size, sized, picked, resolved, recorded,
      pushed, rfl⟩
    exact ⟨tier1, bracket, result, size, picked, recorded,
      ⟨foundTier1, found, resulted, operator, owned, promoted, indexed, ready, clean, current,
        uncollected, sized⟩,
      resolved, pushed, rfl⟩
  · rintro ⟨tier1, bracket, result, size, picked, recorded, checks, resolved, pushed, rfl⟩
    exact ⟨tier1, checks.foundTier1, bracket, checks.found, result, checks.resulted,
      checks.operator, checks.owned, checks.promoted, checks.indexed, checks.ready,
      checks.clean, checks.current, checks.uncollected, size, checks.size, picked, resolved,
      recorded, pushed, rfl⟩

--------------------------------------------------------------------------------
-- What no reveal instruction changes
--------------------------------------------------------------------------------

/-- The entries stay; the round stays or has its winners applied. -/
structure Framed (instruction : RevealInstruction) (ledger after : RevealLedger) : Prop where
  entries : after.entries = ledger.entries
  round : after.round = ledger.round
    ∨ ∃ resultIndex top,
        instruction = .applyBracketResult resultIndex
        ∧ after.round = revealedRound ledger.round top

/-- Every accepted instruction is framed, by cases on the instruction. -/
theorem revealStep_framed {submission : Submission}
    (success : revealStep ledger submission = .ok after)
    : Framed submission.instruction ledger after := by
  obtain ⟨env, instruction⟩ := submission
  cases instruction with
  | initBracket shardSizes shardBounds shardCount =>
      obtain ⟨_, _, rfl⟩ := initBracket_eq_ok.mp success
      exact ⟨rfl, Or.inl rfl⟩
  | queueShardReveal computationOffset shardIndex accounts =>
      obtain ⟨_, _, _, _, rfl⟩ := queueShardReveal_eq_ok.mp success
      exact ⟨rfl, Or.inl rfl⟩
  | collectShardWinners shardIndex accounts =>
      obtain ⟨_, _, _, _, _, _, rfl⟩ := collectShardWinners_eq_ok.mp success
      exact ⟨rfl, Or.inl rfl⟩
  | applyBracketResult resultIndex =>
      obtain ⟨_, _, top, _, _, rfl⟩ := applyBracketResult_eq_ok.mp success
      exact ⟨rfl, Or.inr ⟨resultIndex, top, rfl, rfl⟩⟩
  | initTier1Bracket shardSizes shardBounds shardCount =>
      obtain ⟨_, _, _, _, _, rfl⟩ := initTier1Bracket_eq_ok.mp success
      exact ⟨rfl, Or.inl rfl⟩
  | closeTier1Bracket =>
      obtain ⟨_, _, _, rfl⟩ := closeTier1Bracket_eq_ok.mp success
      exact ⟨rfl, Or.inl rfl⟩
  | queueTier1ShardReveal computationOffset shardIndex accounts =>
      obtain ⟨_, _, _, _, rfl⟩ := queueTier1ShardReveal_eq_ok.mp success
      exact ⟨rfl, Or.inl rfl⟩
  | collectTier1Winners shardIndex accounts =>
      obtain ⟨_, _, _, _, _, _, rfl⟩ := collectTier1Winners_eq_ok.mp success
      exact ⟨rfl, Or.inl rfl⟩
  | promoteTier1 =>
      obtain ⟨_, _, rfl⟩ := promoteTier1_eq_ok.mp success
      exact ⟨rfl, Or.inl rfl⟩
  | queueSemifinalReveal computationOffset semiIndex accounts =>
      obtain ⟨_, _, _, _, _, rfl⟩ := queueSemifinalReveal_eq_ok.mp success
      exact ⟨rfl, Or.inl rfl⟩
  | collectSemifinalWinners semiIndex =>
      obtain ⟨_, _, _, _, _, _, _, _, _, rfl⟩ := collectSemifinalWinners_eq_ok.mp success
      exact ⟨rfl, Or.inl rfl⟩
  | revealTop3V5Callback computationOffset verified =>
      obtain ⟨_, _, _, _, _, rfl⟩ := revealTop3V5Callback_eq_ok.mp success
      exact ⟨rfl, Or.inl rfl⟩

variable {instruction : RevealInstruction}

/-- The round keeps its key. -/
theorem Framed.key (framed : Framed instruction ledger after)
    : after.round.key = ledger.round.key := by
  rcases framed.round with same | ⟨_, top, _, revealed⟩
  · rw [same]
  · rw [revealed]
    rfl

/-- The round keeps its participants. -/
theorem Framed.participants (framed : Framed instruction ledger after)
    : after.round.participantCount = ledger.round.participantCount := by
  rcases framed.round with same | ⟨_, top, _, revealed⟩
  · rw [same]
  · rw [revealed]
    rfl

end SecretGarden.Bracket
