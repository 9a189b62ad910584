import SecretGarden.AutoCycle.Stages

/-! From which states one more run of the script reveals the round.
The script trusts what it reads: a pinned partition, results that are ready, a promoted first
tier. Where these belong together, whatever happened before, it ends with revealed scores.
-/

namespace SecretGarden.AutoCycle

open Foundation SecretGarden.Bracket

/-- What every documented history of a round has established. -/
structure Established (start : RevealLedger) (state : JournaledReveal) : Prop where
  followed : Followed start state
  marked : RunsMarked state
  exact : TournamentExact state
  tracked : Tracked state.system
  upkept : Upkept state
  stamped : Stamped state
  round : state.system.round.scoringRevealed = false → state.system.round = start.round

theorem established_of_run {start : RevealLedger} (unstarted : start.Unstarted)
    (entered : start.roundEntries.length = start.round.participantCount)
    {history : List Submission} {state : JournaledReveal}
    (run : Run journaledReveal DocumentedRead start.journaled history state)
    : Established start state := by
  obtain ⟨tracked, upkept, stamped, round⟩ : Tracked state.system ∧ Upkept state
      ∧ Stamped state
      ∧ (state.system.round.scoringRevealed = false → state.system.round = start.round) := by
    apply run.invariant_with fun earlier => (tournament_of_run unstarted entered earlier).1
    · exact ⟨unstarted.tracked, unstarted.upkept, unstarted.stamped, fun _ => rfl⟩
    rintro before submission after followed ⟨tracked, upkept, stamped, round⟩ _ success
    obtain ⟨accepted, noted⟩ := journaled_eq_ok.mp success
    have formed := followed.formed
    have kept := And.intro (upkept.step formed accepted) (stamped.step formed accepted)
    rw [← noted] at kept
    refine ⟨tracked.step accepted, kept.1, kept.2, fun unrevealed => ?_⟩
    rcases (revealStep_framed accepted).round with same | ⟨_, _, _, revealed⟩
    · rw [same] at unrevealed ⊢
      exact round unrevealed
    · rw [revealed] at unrevealed
      cases unrevealed
  obtain ⟨followed, marked, exact⟩ := tournament_of_run unstarted entered run
  exact ⟨followed, marked, exact, tracked, upkept, stamped, round⟩

--------------------------------------------------------------------------------
-- The condition
--------------------------------------------------------------------------------

/-- The final was queued over its finalists, or nothing is in flight to its account. -/
def FinalResumable (bracket : BracketState) (ledger : RevealLedger) : Prop :=
  if bracket.finalQueued then
    Answers ledger (.shard finalShardIndex) bracket.generation bracket.activeFinalists
  else Idle ledger (.shard finalShardIndex)

/-- A single tier can go on: under the planned partition the results of uncollected shards
answer for them; under another one nothing in flight disagrees with the plan.
-/
def SingleTierResumable (plan : BracketPlan) (ledger : RevealLedger) : Prop :=
  ∀ bracket ∈ ledger.bracket,
    if partitionMatches bracket.shardCount bracket.shardSizes bracket.shardBounds plan then
      (∀ k < plan.shards.length, bracket.shardsCollected.testBit k = false
        → Answers ledger (.shard k) bracket.generation (plan.entriesOf k))
      ∧ FinalResumable bracket ledger
    else
      (∀ k < plan.shards.length, Awaits ledger (.shard k) (plan.entriesOf k))
      ∧ Idle ledger (.shard finalShardIndex)

/-- The semifinals of a promoted first tier can go on: the results of uncollected ones answer
for them; one semifinal alone finds a current result of shard 0.
-/
def SemifinalsResumable (tier1 : Tier1State) (bracket : BracketState) (ledger : RevealLedger)
    : Prop :=
  (∀ k < bracket.shardCount, bracket.shardsCollected.testBit k = false
    → Answers ledger (.semifinal k) bracket.generation (winnersSlice tier1.activeWinners k))
  ∧ (bracket.shardCount = 1
    → resultReady ledger (.shard 0) ∧ ledger.Carries (.shard 0) bracket.generation)
  ∧ FinalResumable bracket ledger

/-- The first tier can go on, as a single tier can; without one there are no results yet. -/
def Tier1Resumable (plan : BracketPlan) (ledger : RevealLedger) : Prop :=
  (ledger.tier1.isNone → ∀ k < plan.shards.length, (ledger.results.lookup (.shard k)).isNone)
  ∧ ∀ tier1 ∈ ledger.tier1,
      if partitionMatches tier1.shardCount tier1.shardSizes tier1.shardBounds plan then
        ∀ k < plan.shards.length, tier1.shardDone[k]? = some false
          → Answers ledger (.shard k) tier1.generation (plan.entriesOf k)
      else ∀ k < plan.shards.length, Awaits ledger (.shard k) (plan.entriesOf k)

/-- Two tiers can go on. Before the promotion no semifinal has a result yet. -/
def TwoTierResumable (plan : BracketPlan) (ledger : RevealLedger) : Prop :=
  if ledger.tier1.any Tier1State.promoted then
    ∀ tier1 ∈ ledger.tier1, ∀ bracket ∈ ledger.bracket, SemifinalsResumable tier1 bracket ledger
  else
    Tier1Resumable plan ledger
    ∧ (∀ k < plan.semifinalSizes.length, (ledger.results.lookup (.semifinal k)).isNone)
    ∧ Idle ledger (.shard finalShardIndex)

/-- The plan for these entries can go on from what stands. -/
def Resumable (entryKeys : List Pubkey) (ledger : RevealLedger) : Prop :=
  ∀ plan ∈ (planBracket entryKeys).toOption,
    if plan.tier = .two then TwoTierResumable plan ledger else SingleTierResumable plan ledger

section Decidable

variable (ledger : RevealLedger) (target : ResultAddress) (generation : Nat)
  (accounts : List Pubkey)

instance : DecidableEq RevealArgs := fun one two =>
  decidable_of_iff ((∀ i, one.slots i = two.slots i) ∧ one.participantCount = two.participantCount)
    ⟨fun ⟨slots, count⟩ => RevealArgs.mk.injEq .. |>.mpr ⟨funext slots, count⟩,
      fun same => same ▸ ⟨fun _ => rfl, rfl⟩⟩

instance : Decidable (Awaits ledger target accounts) :=
  decidable_of_iff (∀ queued ∈ ledger.computations.entries, queued.2.target = target
      → queued.2.args = buildRevealArgs (contenders ledger.entries accounts))
    ⟨fun each computationOffset computation found =>
      each ⟨computationOffset, computation⟩ (AList.mem_lookup_iff.mp found),
    fun awaits queued listed => awaits queued.1 queued.2 (AList.mem_lookup_iff.mpr listed)⟩

instance : Decidable (Idle ledger target) :=
  decidable_of_iff (∀ queued ∈ ledger.computations.entries, queued.2.target ≠ target)
    ⟨fun each computationOffset computation found =>
      each ⟨computationOffset, computation⟩ (AList.mem_lookup_iff.mp found),
    fun idle queued listed => idle queued.1 queued.2 (AList.mem_lookup_iff.mpr listed)⟩

instance : Decidable (Answers ledger target generation accounts) :=
  decidable_of_iff ((∀ result ∈ ledger.results.lookup target, result.generation = generation
        ∧ (result.ready → result.slots = revealedSlots ledger.entries accounts))
      ∧ Awaits ledger target accounts)
    ⟨fun ⟨stamped, awaits⟩ => ⟨stamped, awaits⟩, fun answers => ⟨answers.stamped, answers.awaits⟩⟩

instance : Decidable (ledger.Carries target generation) :=
  decidable_of_iff (∃ result ∈ ledger.results.lookup target, result.generation = generation)
    Iff.rfl

variable (plan : BracketPlan) (tier1 : Tier1State) (bracket : BracketState)

instance : Decidable (FinalResumable bracket ledger) :=
  inferInstanceAs (Decidable (if bracket.finalQueued then _ else _))

instance : Decidable (SingleTierResumable plan ledger) :=
  inferInstanceAs (Decidable (∀ bracket ∈ ledger.bracket, _))

instance : Decidable (SemifinalsResumable tier1 bracket ledger) :=
  inferInstanceAs (Decidable (_ ∧ _ ∧ _))

instance : Decidable (Tier1Resumable plan ledger) :=
  inferInstanceAs (Decidable (_ ∧ ∀ tier1 ∈ ledger.tier1, _))

instance : Decidable (TwoTierResumable plan ledger) :=
  inferInstanceAs (Decidable (if ledger.tier1.any Tier1State.promoted then _ else _))

instance (entryKeys : List Pubkey) : Decidable (Resumable entryKeys ledger) :=
  inferInstanceAs (Decidable (∀ plan ∈ (planBracket entryKeys).toOption, _))

end Decidable

--------------------------------------------------------------------------------
-- A single tier
--------------------------------------------------------------------------------

/-- The script's own transactions are all that is sent, under fresh offsets, and every
callback lands before a wait is over.
-/
structure RunsAlone (deps : BracketRevealDeps) (ledger : RevealLedger) : Prop where
  allowed : Allowed deps.envs
  apart : Function.Injective deps.freshOffset
  free : ∀ target, ledger.computations.lookup (deps.freshOffset target) = none
  prompt : Prompt deps

section SingleTier

variable {deps : BracketRevealDeps} {start ledger : RevealLedger} {state : JournaledReveal}
  {sorted : List Pubkey} {plan : BracketPlan}

/-- What the pins require of the round. -/
theorem Revealable.pinChecks (revealable : Revealable start sorted)
    (alone : RunsAlone deps ledger) (instruction : RevealInstruction)
    : PinChecks (deps.envs instruction) start.round :=
  ⟨(alone.allowed instruction).1, (alone.allowed instruction).2, revealable.ended,
    revealable.unrevealed, revealable.counted⟩

/-- The planned slices are groups of the round. -/
theorem PinnedBracket.groups {base : BracketState} (layout : PinnedBracket start sorted base)
    (revealable : Revealable start sorted) (found : start.bracket = some base)
    (gathered : BracketGathered start.entries (winnersSlice sorted) base base)
    (final : base.finalQueued
      → 1 < base.shardCount
        ∧ base.allShardsCollected
        ∧ base.activeFinalists.Pairwise (· < ·))
    : GroupsPinned start (winnersSlice sorted) base :=
  { found := found
    owned := layout.owned
    unapplied := layout.unapplied
    filled := layout.count ▸ one_le_semifinalCount revealable.filled
    few := layout.few
    disjoint := layout.count ▸ revealable.disjoint
    drawn := fun _ _ _ => revealable.drawn
    gathered := gathered
    final := final }

/-- Pinned anew, the planned shards are revealed whatever there was before. -/
theorem singleTier_repins (alone : RunsAlone deps start)
    (revealable : Revealable start sorted) (planned : Planned sorted plan)
    (small : sorted.length ≤ singleTierCapacity) (tracked : Tracked start) (forceRequeue : Bool)
    (vacant : forceRequeue = false → ∀ target, start.results.lookup target = none)
    (awaits : forceRequeue
      → ∀ k < plan.shards.length, Awaits start (.shard k) (plan.entriesOf k))
    (idle : Idle start (.shard finalShardIndex))
    : ∃ pinned after bracket,
        sendTx deps (initBracketOf plan) start = .ok pinned
        ∧ runTier deps (singleTierSpec deps plan) forceRequeue pinned = .ok after
        ∧ EndgameReady deps bracket after := by
  have few : semifinalCount sorted.length ≤ maxShards := by
    simp only [semifinalCount, singleTierCapacity, maxShards, maxShardSize] at small ⊢
    omega
  obtain ⟨tracking, same, free, vacant, awaits, idle⟩ := ((survives_sameAccounts start).and
    ((Survives.all fun target => survives_free (deps.freshOffset target)).and
      ((Survives.all fun _ => Survives.all fun target => survives_vacant target).and
        ((Survives.all fun _ => Survives.all fun k => Survives.all fun _ =>
            survives_awaits (.shard k) (plan.entriesOf k)).and
          (survives_idle (.shard finalShardIndex)))))).land (deps.early start) tracked
    ⟨.refl start, alone.free, vacant, awaits, idle⟩
  let landed := land (deps.early start) start
  let base := landed.freshBracket (padNumbers plan.sizes maxShards)
    (padKeys (plan.shards.map ShardPlan.bound) maxShards) plan.shards.length
  let pinned : RevealLedger := { landed with bracket := some base }
  have after : Revealable pinned sorted :=
    revealable.kept ⟨same.round, same.entries⟩
  obtain ⟨checked, declared⟩ := planned.pin revealable.filled revealable.ascending few
  have accepted : revealStep landed ⟨deps.envs (initBracketOf plan), initBracketOf plan⟩
      = .ok pinned :=
    initBracket_eq_ok.mpr ⟨after.pinChecks alone _, after.participants ▸ checked, rfl⟩
  have tracked' : Tracked pinned := tracking.quiet rfl rfl
  have layout : PinnedBracket pinned sorted base :=
    ⟨rfl, rfl, planned.count, planned.count.trans_le few, declared⟩
  have ready : TierReady deps (singleTierSpec deps plan) base.generation (winnersSlice sorted)
      forceRequeue pinned := by
    refine ⟨fun k _ => free (.shard k), fun trusted k _ _ => ?_, fun forced k inside => ?_⟩
    · exact answers_of_vacant tracked' (vacant trusted (.shard k)) _ _
    · rw [← planned.entriesOf_eq inside]
      exact SameResults.awaits ⟨rfl, rfl, rfl⟩ (awaits forced k inside)
  obtain ⟨finished, bracket, success, reached⟩ := singleTier_reaches alone.allowed
    alone.apart alone.prompt after planned layout
    (layout.groups after rfl bracketGathered_freshBracket (by rintro ⟨⟩)) ready
    (fun marked => by simp [base, RevealLedger.freshBracket] at marked)
    tracked' ⟨free _, by rintro ⟨⟩, fun _ => idle⟩
  exact ⟨pinned, finished, bracket, sendTx_of_step accepted, success, reached⟩

/-- The account of the final as the tiers take it over. -/
theorem FinalResumable.aside {bracket : BracketState}
    (resumable : FinalResumable bracket state.system) (alone : RunsAlone deps state.system)
    (stamped : Stamped state) (found : state.system.bracket = some bracket)
    : FinalAside deps bracket state.system := by
  rw [FinalResumable] at resumable
  refine ⟨alone.free _, fun queued => ?_, fun unqueued => ?_⟩
  · rw [if_pos queued] at resumable
    exact ⟨resumable, (stamped.final found queued).carries⟩
  · rwa [if_neg (by simp [unqueued])] at resumable

/-- What is pinned as planned has gathered the podiums of the planned shards. -/
theorem Established.gathered (established : Established start state)
    (revealable : Revealable state.system sorted) {bracket : BracketState}
    (found : state.system.bracket = some bracket) (unsliced : state.journal.sliced = none)
    (count : bracket.shardCount = semifinalCount sorted.length)
    (layout : layoutOf bracket.shardSizes bracket.shardBounds bracket.shardCount
      = plannedLayout sorted)
    : BracketGathered state.system.entries (winnersSlice sorted) bracket bracket := by
  have splits := plannedLayout_splits revealable.filled revealable.ascending revealable.same
  have grouped : Grouped state bracket
      ((plannedLayout sorted).interval state.system.roundEntries) := by
    rw [Grouped, unsliced, layout]
    exact ⟨splits, rfl⟩
  obtain ⟨order, gathered, _⟩ := established.exact.bracket found grouped
  refine ⟨rfl, established.followed.formed.counted found, order, gathered.congr fun k inside => ?_⟩
  exact interval_plannedLayout revealable.filled revealable.ascending revealable.same
    (count ▸ inside)

/-- A single tier goes on from where it stands, or is pinned anew. -/
theorem singleTier_resumes (alone : RunsAlone deps state.system)
    (established : Established start state) (revealable : Revealable state.system sorted)
    (planned : Planned sorted plan) (small : sorted.length ≤ singleTierCapacity)
    (resumable : SingleTierResumable plan state.system)
    : ∃ after bracket,
        runSingleTier deps plan state.system = .ok after ∧ EndgameReady deps bracket after := by
  have stamped := established.stamped
  have tracked := established.tracked
  cases found : state.system.bracket with
  | none =>
      have vacant := stamped.unpinned found (revealable.participants ▸ small)
      obtain ⟨pinned, after, bracket, sent, success, ready⟩ := singleTier_repins alone
        revealable planned small tracked false (fun _ => vacant) (by rintro ⟨⟩)
        (idle_of_vacant tracked (vacant _))
      refine ⟨after, bracket, bind_eq_ok.mpr ⟨pinned, ?_, ?_⟩, ready⟩
      · simpa [sendTxIf, found] using sent
      · simpa [found] using success
  | some bracket =>
      have standing := resumable bracket found
      split at standing
      · next isMatch =>
          have unsliced : state.journal.sliced = none := by
            cases sliced : state.journal.sliced with
            | none => rfl
            | some winners =>
                have large := established.upkept.large sliced
                rw [← revealable.participants] at large
                exact absurd large (not_lt.mpr small)
          obtain ⟨count, declared⟩ := planned.layoutOf_eq isMatch
          have gathered := established.gathered revealable found unsliced count declared
          have layout : PinnedBracket state.system sorted bracket :=
            { owned := established.upkept.bracketOwned found
              unapplied := established.upkept.not_applied found revealable.unrevealed
              count := count
              few := established.followed.formed.shardCount_le found
              layout := declared }
          have ready : TierReady deps (singleTierSpec deps plan) bracket.generation
              (winnersSlice sorted) false state.system := by
            refine ⟨fun k _ => alone.free _, fun _ k inside uncollected => ?_, by rintro ⟨⟩⟩
            rw [← planned.entriesOf_eq inside]
            refine standing.1 k inside ?_
            simpa [singleTierSpec, found] using uncollected
          obtain ⟨after, last, success, reached⟩ := singleTier_reaches alone.allowed alone.apart
            alone.prompt revealable planned layout
            (layout.groups revealable found gathered (stamped.settled found)) ready
            (stamped.collected found unsliced 0) tracked (standing.2.aside alone stamped found)
          refine ⟨after, last, bind_eq_ok.mpr ⟨state.system, ?_, ?_⟩, reached⟩
          · simp [sendTxIf, found, isMatch, pure, Except.pure]
          · simpa [found, isMatch] using success
      · next other =>
          obtain ⟨pinned, after, last, sent, success, ready⟩ := singleTier_repins alone
            revealable planned small tracked true (by rintro ⟨⟩) (fun _ => standing.1) standing.2
          refine ⟨after, last, bind_eq_ok.mpr ⟨pinned, ?_, ?_⟩, ready⟩
          · simpa [sendTxIf, found, other] using sent
          · simpa [found, other] using success

end SingleTier

--------------------------------------------------------------------------------
-- Two tiers
--------------------------------------------------------------------------------

section TwoTiers

variable {deps : BracketRevealDeps} {start ledger : RevealLedger} {state : JournaledReveal}
  {sorted : List Pubkey} {plan : BracketPlan}

/-- The first tier, from the pin it stands at, ends with fresh semifinals. -/
def Tier1Finishes (deps : BracketRevealDeps) (sorted : List Pubkey) (plan : BracketPlan)
    (forceRequeue : Bool) (pinned : RevealLedger) : Prop :=
  ∃ collected after tier1 bracket,
    runTier deps (tier1Spec deps plan) forceRequeue pinned = .ok collected
    ∧ sendTx deps .promoteTier1 collected = .ok after
    ∧ after.tier1 = some tier1
    ∧ after.bracket = some bracket
    ∧ FreshSemifinals deps sorted tier1 bracket after

/-- The podiums of the planned shards fit the first tier, with three winners a shard. -/
theorem podiums_fit {shardSizes : Vector Nat maxTier1Shards}
    {shardBounds : Vector Pubkey maxTier1Shards} {shardCount : Nat}
    (declared : layoutOf shardSizes shardBounds shardCount = plannedLayout sorted)
    (few : semifinalCount sorted.length ≤ maxTier1Shards)
    : ((shardSizes.toList.take shardCount).map (min shardWinners)).sum ≤ maxTier1Winners := by
  have sizes : shardSizes.toList.take shardCount = (plannedLayout sorted).sizes :=
    congrArg Layout.sizes declared
  have three : ∀ size ∈ (plannedLayout sorted).sizes.map (min shardWinners),
      size ≤ shardWinners := by
    intro size listed
    obtain ⟨_, _, rfl⟩ := List.mem_map.mp listed
    exact Nat.min_le_left _ _
  have total := List.sum_le_card_nsmul _ _ three
  rw [List.length_map, length_sizes_plannedLayout] at total
  rw [sizes]
  exact total.trans (Nat.mul_le_mul_right shardWinners few)

/-- A first tier that is pinned anew finishes whatever there was before. -/
theorem tier1_repins (alone : RunsAlone deps start) (revealable : Revealable start sorted)
    (planned : Planned sorted plan) (large : singleTierCapacity < sorted.length)
    (tracked : Tracked start) (forceRequeue : Bool)
    (vacant : forceRequeue = false
      → ∀ k < plan.shards.length, start.results.lookup (.shard k) = none)
    (awaits : forceRequeue
      → ∀ k < plan.shards.length, Awaits start (.shard k) (plan.entriesOf k))
    (absent : start.tier1 = none)
    (unused : SemifinalsUnused deps plan.semifinalSizes.length start)
    : ∃ pinned,
        sendTx deps (initTier1BracketOf plan) start = .ok pinned
        ∧ Tier1Finishes deps sorted plan forceRequeue pinned := by
  obtain ⟨_, _, few⟩ := semifinals_of_large large revealable.fits
  rw [planned.length_semifinals large] at unused
  obtain ⟨tracking, same, free, vacant, awaits, unused⟩ := ((survives_sameAccounts start).and
    ((Survives.all fun target => survives_free (deps.freshOffset target)).and
      ((Survives.all fun _ => Survives.all fun k => Survives.all fun _ =>
          survives_vacant (.shard k)).and
        ((Survives.all fun _ => Survives.all fun k => Survives.all fun _ =>
            survives_awaits (.shard k) (plan.entriesOf k)).and
          (survives_semifinalsUnused _))))).land (deps.early start) tracked
    ⟨.refl start, alone.free, vacant, awaits, unused⟩
  let landed := land (deps.early start) start
  let base := freshTier1 landed.round (padNumbers plan.sizes maxTier1Shards)
    (padKeys (plan.shards.map ShardPlan.bound) maxTier1Shards) plan.shards.length
    (deps.envs (initTier1BracketOf plan)).slot
  let pinned : RevealLedger := { landed with tier1 := some base }
  have after : Revealable pinned sorted :=
    revealable.kept ⟨same.round, same.entries⟩
  have tracked' : Tracked pinned := tracking.quiet rfl rfl
  obtain ⟨checked, declared⟩ := planned.pin revealable.filled revealable.ascending few
  have accepted
      : revealStep landed ⟨deps.envs (initTier1BracketOf plan), initTier1BracketOf plan⟩
        = .ok pinned := by
    exact initTier1Bracket_eq_ok.mpr ⟨after.pinChecks alone _, same.tier1.trans absent,
      after.participants ▸ large, after.participants ▸ checked, podiums_fit declared few, rfl⟩
  have layout : PinnedTier1 pinned sorted base :=
    ⟨rfl, rfl, planned.count, planned.count.trans_le few, declared⟩
  have ready : TierReady deps (tier1Spec deps plan) base.generation (winnersSlice sorted)
      forceRequeue pinned := by
    refine ⟨fun k _ => free (.shard k), fun trusted k inside _ => ?_, fun forced k inside => ?_⟩
    · exact answers_of_vacant tracked' (vacant trusted k inside) _ _
    · rw [← planned.entriesOf_eq inside]
      exact SameResults.awaits ⟨rfl, rfl, rfl⟩ (awaits forced k inside)
  exact ⟨pinned, sendTx_of_step accepted, tier1_promotes alone.allowed alone.apart alone.prompt
    after planned large layout rfl tier1Gathered_freshTier1 ready tracked' unused⟩

/-- A first tier pinned as planned goes on from where it stands. -/
theorem tier1_continues (alone : RunsAlone deps state.system)
    (established : Established start state) (revealable : Revealable state.system sorted)
    (planned : Planned sorted plan) (large : singleTierCapacity < sorted.length)
    {tier1 : Tier1State} (found : state.system.tier1 = some tier1)
    (unpromoted : tier1.promoted = false)
    (isMatch : partitionMatches tier1.shardCount tier1.shardSizes tier1.shardBounds plan)
    (answers : ∀ k < plan.shards.length, tier1.shardDone[k]? = some false
      → Answers state.system (.shard k) tier1.generation (plan.entriesOf k))
    (unused : SemifinalsUnused deps plan.semifinalSizes.length state.system)
    : Tier1Finishes deps sorted plan false state.system := by
  obtain ⟨count, declared⟩ := planned.layoutOf_eq isMatch
  obtain ⟨_, checked, winners⟩ := established.followed.formed.tier1 found
  have layout : PinnedTier1 state.system sorted tier1 :=
    ⟨established.upkept.tier1Owned found, unpromoted, count, checked.bounded, declared⟩
  have splits := plannedLayout_splits revealable.filled revealable.ascending revealable.same
  have named : declaredLayout state .tier1 = some (plannedLayout sorted) := by
    rw [declaredLayout, found, Option.map_some, declared]
  obtain ⟨order, gathered⟩ := established.exact.tier1 found named splits
  have known : Tier1Gathered state.system.entries (winnersSlice sorted) tier1 tier1 := by
    refine ⟨rfl, winners, order, gathered.congr fun k inside => ?_⟩
    exact interval_plannedLayout revealable.filled revealable.ascending revealable.same
      (count ▸ inside)
  have ready : TierReady deps (tier1Spec deps plan) tier1.generation (winnersSlice sorted) false
      state.system := by
    refine ⟨fun k _ => alone.free _, fun _ k inside uncollected => ?_, by rintro ⟨⟩⟩
    rw [← planned.entriesOf_eq inside]
    refine answers k inside ?_
    have stored : k < maxTier1Shards :=
      (inside.trans_eq (planned.count.trans count.symm)).trans_le checked.bounded
    have read : state.system.tier1.map (·.shardDone[k]? == some true) = some false := uncollected
    rw [found, Option.map_some, Option.some.injEq, Vector.getElem?_eq_getElem stored] at read
    rw [Vector.getElem?_eq_getElem stored]
    simpa using read
  rw [planned.length_semifinals large] at unused
  exact tier1_promotes alone.allowed alone.apart alone.prompt revealable planned large layout
    found known ready established.tracked unused

/-- A first tier pinned otherwise is closed, and finishes as planned. -/
theorem tier1_replaces (alone : RunsAlone deps start) (revealable : Revealable start sorted)
    (planned : Planned sorted plan) (large : singleTierCapacity < sorted.length)
    (tracked : Tracked start) {tier1 : Tier1State} (found : start.tier1 = some tier1)
    (awaits : ∀ k < plan.shards.length, Awaits start (.shard k) (plan.entriesOf k))
    (unused : SemifinalsUnused deps plan.semifinalSizes.length start)
    : ∃ cleared pinned,
        sendTx deps .closeTier1Bracket start = .ok cleared
        ∧ sendTx deps (initTier1BracketOf plan) cleared = .ok pinned
        ∧ Tier1Finishes deps sorted plan true pinned := by
  obtain ⟨tracking, same, free, awaits, unused⟩ := ((survives_sameAccounts start).and
    ((Survives.all fun target => survives_free (deps.freshOffset target)).and
      ((Survives.all fun k => Survives.all fun _ =>
          survives_awaits (.shard k) (plan.entriesOf k)).and
        (survives_semifinalsUnused _)))).land (deps.early start) tracked
    ⟨.refl start, alone.free, awaits, unused⟩
  let landed := land (deps.early start) start
  let cleared : RevealLedger := { landed with tier1 := none }
  have after : Revealable cleared sorted :=
    revealable.kept ⟨same.round, same.entries⟩
  have accepted : revealStep landed ⟨deps.envs .closeTier1Bracket, .closeTier1Bracket⟩
      = .ok cleared :=
    closeTier1Bracket_eq_ok.mpr ⟨⟨tier1, same.tier1.trans found⟩,
      (alone.allowed .closeTier1Bracket).2, after.unrevealed, rfl⟩
  have alone' : RunsAlone deps cleared := ⟨alone.allowed, alone.apart, free, alone.prompt⟩
  obtain ⟨pinned, sent, finishes⟩ := tier1_repins alone' after planned large
    (tracking.quiet rfl rfl) true nofun
    (fun _ k inside => SameResults.awaits ⟨rfl, rfl, rfl⟩ (awaits k inside)) rfl unused
  exact ⟨cleared, pinned, sendTx_of_step accepted, sent, finishes⟩

/-- Fresh semifinals lead to the endgame. -/
theorem FreshSemifinals.reach {tier1 : Tier1State} {base : BracketState}
    (fresh : FreshSemifinals deps sorted tier1 base ledger) (allowed : Allowed deps.envs)
    (apart : Function.Injective deps.freshOffset) (prompt : Prompt deps)
    : ∃ after bracket,
        runTier deps (semifinalSpec deps tier1 base) false ledger = .ok after
        ∧ EndgameReady deps bracket after :=
  semifinals_reach allowed apart prompt fresh.revealable fresh.promotion fresh.pinned fresh.ready
    (fun one => absurd one fresh.several.ne') fresh.tracked fresh.aside

/-- The semifinals of a promoted first tier go on from where they stand. -/
theorem semifinals_continue (alone : RunsAlone deps state.system)
    (established : Established start state) (revealable : Revealable state.system sorted)
    {tier1 : Tier1State} {base : BracketState} (found : state.system.tier1 = some tier1)
    (promoted : tier1.promoted) (held : state.system.bracket = some base)
    (resumable : SemifinalsResumable tier1 base state.system)
    : ∃ after bracket,
        runTier deps (semifinalSpec deps tier1 base) false state.system = .ok after
        ∧ EndgameReady deps bracket after := by
  have formed := established.followed.formed
  have sliced := formed.promoted found promoted
  obtain ⟨answers, single, final⟩ := resumable
  have promotion : PinnedSemifinals state.system tier1 base :=
    { found := found
      promoted := promoted
      owned := ⟨established.upkept.tier1Owned found, established.upkept.bracketOwned held⟩
      unapplied := established.upkept.not_applied held revealable.unrevealed
      sorted := (formed.tier1 found).2.2
      into := formed.sliced held sliced
      entered := (established.exact.sliced sliced).1 }
  have grouped : Grouped state base (winnersSlice tier1.activeWinners) := by
    rw [Grouped, sliced]
  obtain ⟨order, gathered, _⟩ := established.exact.bracket held grouped
  have ready : TierReady deps (semifinalSpec deps tier1 base) base.generation
      (winnersSlice tier1.activeWinners) false state.system := by
    refine ⟨fun k _ => alone.free _, fun _ k inside uncollected => answers k inside ?_,
      by rintro ⟨⟩⟩
    simpa [semifinalSpec, held] using uncollected
  exact semifinals_reach alone.allowed alone.apart alone.prompt revealable promotion
    (promotion.groups held ⟨rfl, formed.counted held, order, gathered⟩
      (established.stamped.settled held)) ready single established.tracked
    (final.aside alone established.stamped held)

/-- The first tier, where it is not promoted yet, is brought to fresh semifinals. -/
theorem runTier1_succeeds (alone : RunsAlone deps state.system)
    (established : Established start state) (revealable : Revealable state.system sorted)
    (planned : Planned sorted plan) (large : singleTierCapacity < sorted.length)
    (unpromoted : state.system.tier1.any Tier1State.promoted = false)
    (resumable : Tier1Resumable plan state.system)
    (unused : SemifinalsUnused deps plan.semifinalSizes.length state.system)
    : ∃ after tier1 bracket,
        runTier1 deps plan state.system = .ok after
        ∧ after.tier1 = some tier1
        ∧ after.bracket = some bracket
        ∧ FreshSemifinals deps sorted tier1 bracket after := by
  obtain ⟨vacant, standing⟩ := resumable
  cases found : state.system.tier1 with
  | none =>
      obtain ⟨pinned, sent, collected, after, tier1, bracket, tier, promoted, here, there, fresh⟩ :=
        tier1_repins alone revealable planned large established.tracked false
          (fun _ k inside => Option.isNone_iff_eq_none.mp (vacant (found ▸ rfl) k inside)) nofun
          found unused
      refine ⟨after, tier1, bracket, bind_eq_ok.mpr ⟨state.system, ?_, bind_eq_ok.mpr ⟨pinned, ?_,
        ?_⟩⟩, here, there, fresh⟩
      · simp [found, sendTxIf, pure, Except.pure]
      · simpa [found, sendTxIf] using sent
      · simp only [found, Option.any_none, Bool.false_eq_true, if_false]
        exact bind_eq_ok.mpr ⟨collected, tier, promoted⟩
  | some tier1 =>
      rw [found] at unpromoted
      change tier1.promoted = false at unpromoted
      have resumable := standing tier1 found
      split at resumable
      · next isMatch =>
          obtain ⟨collected, after, winners, bracket, tier, promoted, here, there, fresh⟩ :=
            tier1_continues alone established revealable planned large found unpromoted isMatch
              resumable unused
          refine ⟨after, winners, bracket, bind_eq_ok.mpr ⟨state.system, ?_,
            bind_eq_ok.mpr ⟨state.system, ?_, ?_⟩⟩, here, there, fresh⟩
          · simp [found, isMatch, sendTxIf, pure, Except.pure]
          · simp [found, isMatch, sendTxIf, pure, Except.pure]
          · simp only [found, unpromoted, isMatch, Option.any_some, Bool.false_eq_true, if_false]
            exact bind_eq_ok.mpr ⟨collected, tier, promoted⟩
      · next other =>
          obtain ⟨cleared, pinned, closed, sent, collected, after, winners, bracket, tier,
            promoted, here, there, fresh⟩ := tier1_replaces alone revealable planned large
              established.tracked found resumable unused
          refine ⟨after, winners, bracket, bind_eq_ok.mpr ⟨cleared, ?_,
            bind_eq_ok.mpr ⟨pinned, ?_, ?_⟩⟩, here, there, fresh⟩
          · simpa [found, unpromoted, other, sendTxIf] using closed
          · simpa [found, unpromoted, other, sendTxIf] using sent
          · simp only [found, unpromoted, other, Option.any_some, Bool.false_eq_true, if_false]
            exact bind_eq_ok.mpr ⟨collected, tier, promoted⟩

/-- Two tiers go on from where they stand. -/
theorem twoTier_resumes (alone : RunsAlone deps state.system)
    (established : Established start state) (revealable : Revealable state.system sorted)
    (planned : Planned sorted plan) (large : singleTierCapacity < sorted.length)
    (resumable : TwoTierResumable plan state.system)
    : ∃ after bracket,
        runTwoTier deps plan state.system = .ok after ∧ EndgameReady deps bracket after := by
  rw [TwoTierResumable] at resumable
  split at resumable
  · next promoted =>
      obtain ⟨tier1, found, done⟩ := (Option.any_eq_true _ _).mp promoted
      obtain ⟨bracket, held⟩ := established.upkept.promoted found done
      obtain ⟨after, last, success, ready⟩ := semifinals_continue alone established revealable
        found done held (resumable tier1 found bracket held)
      have skipped : runTier1 deps plan state.system = .ok state.system := by
        refine bind_eq_ok.mpr ⟨state.system, ?_, bind_eq_ok.mpr ⟨state.system, ?_, ?_⟩⟩
        · simp [found, done, sendTxIf, pure, Except.pure]
        · simp [found, done, sendTxIf, pure, Except.pure]
        · simp [found, done, pure, Except.pure]
      exact ⟨after, last, bind_eq_ok.mpr ⟨state.system, skipped, bind_eq_ok.mpr ⟨tier1,
        fetch_eq_ok.mpr found, bind_eq_ok.mpr ⟨bracket, fetch_eq_ok.mpr held, success⟩⟩⟩, ready⟩
  · next waiting =>
      obtain ⟨first, vacant, idle⟩ := resumable
      have unused : SemifinalsUnused deps plan.semifinalSizes.length state.system :=
        ⟨fun k inside => Option.isNone_iff_eq_none.mp (vacant k inside), fun k => alone.free _,
          alone.free _, idle⟩
      obtain ⟨promoted, tier1, bracket, success, found, held, fresh⟩ := runTier1_succeeds alone
        established revealable planned large (Bool.not_eq_true _ ▸ waiting) first unused
      obtain ⟨after, last, played, ready⟩ := fresh.reach alone.allowed alone.apart alone.prompt
      exact ⟨after, last, bind_eq_ok.mpr ⟨promoted, success, bind_eq_ok.mpr ⟨tier1,
        fetch_eq_ok.mpr found, bind_eq_ok.mpr ⟨bracket, fetch_eq_ok.mpr held, played⟩⟩⟩, ready⟩

end TwoTiers

--------------------------------------------------------------------------------
-- The whole reveal
--------------------------------------------------------------------------------

/-- A closed round that is fully scored and not revealed, before any reveal instruction; its
entries are counted, and no more than it has room for.
-/
structure AwaitsReveal (start : RevealLedger) : Prop where
  unstarted : start.Unstarted
  ended : start.round.status = .closed ∨ start.round.status = .finalized
  unrevealed : start.round.scoringRevealed = false
  counted : start.round.scoredCount = start.round.participantCount
  scored : start.FullyScored
  entered : start.roundEntries.length = start.round.participantCount
  filled : 1 ≤ start.round.participantCount
  fits : start.round.participantCount ≤ roundCapacity

/-- One more run of the script, alone and with its callbacks in time, reveals a round from any
state a documented history reaches, where what it will trust belongs together.
-/
theorem reveal_resumes {start : RevealLedger} (awaiting : AwaitsReveal start)
    {history : List Submission} {state : JournaledReveal}
    (run : Run journaledReveal DocumentedRead start.journaled history state)
    (unrevealed : state.system.round.scoringRevealed = false)
    {deps : BracketRevealDeps} (alone : RunsAlone deps state.system)
    {entryKeys : List Pubkey} (listed : entryKeys.Perm start.roundEntries)
    (resumable : Resumable entryKeys state.system)
    : ∃ after,
        runBracketReveal deps entryKeys state.system = .ok after
        ∧ after.round.scoringRevealed := by
  have established := established_of_run awaiting.unstarted awaiting.entered run
  have same : SameRound start state.system :=
    ⟨established.round unrevealed, established.followed.entries⟩
  have sorting : (sortEntriesByteWise entryKeys).Perm start.roundEntries :=
    (List.perm_insertionSort _ _).trans listed
  have length : (sortEntriesByteWise entryKeys).length = start.round.participantCount :=
    sorting.length_eq.trans awaiting.entered
  have startable : Revealable start (sortEntriesByteWise entryKeys) :=
    { ended := awaiting.ended
      unrevealed := awaiting.unrevealed
      counted := awaiting.counted
      scored := awaiting.scored
      filled := length ▸ awaiting.filled
      fits := length ▸ awaiting.fits
      ascending := insertionSort_ascending
        (listed.nodup_iff.mpr (Store.keysWhere_nodup _ _))
      same := sorting
      participants := length }
  have revealable := startable.kept same
  obtain ⟨plan, success, planned⟩ := planBracket_succeeds
    (listed.length_eq.trans awaiting.entered ▸ awaiting.filled)
    (listed.length_eq.trans awaiting.entered ▸ awaiting.fits)
  have standing := resumable plan (by rw [success]; rfl)
  have tier := planned.tier
  have gathers : ∃ gathered bracket,
      runTiers deps plan state.system = .ok gathered ∧ EndgameReady deps bracket gathered := by
    rw [runTiers]
    by_cases large : singleTierCapacity < (sortEntriesByteWise entryKeys).length
    · rw [if_pos large] at tier
      rw [tier] at standing ⊢
      exact twoTier_resumes alone established revealable planned large standing
    · rw [if_neg large] at tier
      rw [tier] at standing ⊢
      exact singleTier_resumes alone established revealable planned (not_lt.mp large) standing
  obtain ⟨gathered, bracket, reached, ready⟩ := gathers
  obtain ⟨after, finished, revealed⟩ := ready.runEndgame_succeeds alone.allowed alone.prompt
  refine ⟨after, bind_eq_ok.mpr ⟨plan, ?_, bind_eq_ok.mpr ⟨gathered, reached, finished⟩⟩, revealed⟩
  rw [success]
  rfl

--------------------------------------------------------------------------------
-- Sample runs
--------------------------------------------------------------------------------

/-- The authority's script; whatever is in flight lands while it waits. -/
def patientDeps : BracketRevealDeps :=
  { envs := fun _ => authorityEnv
    freshOffset := fun
      | .shard k => 100 + 2 * k
      | .semifinal k => 101 + 2 * k
    early := fun _ => []
    late := fun ledger => ledger.computations.keys }

theorem patientDeps_alone {ledger : RevealLedger}
    (earlier : ∀ computationOffset ∈ ledger.computations.keys, computationOffset < 100)
    : RunsAlone patientDeps ledger := by
  refine ⟨fun _ => ⟨rfl, rfl⟩, ?_, fun target => ?_, fun ledger computationOffset present => ?_⟩
  · intro one two same
    cases one <;> cases two <;> simp only [patientDeps] at same <;>
      first | omega | (congr 1; omega)
  · by_contra used
    have listed := earlier _ (AList.mem_keys.mp (AList.lookup_isSome.mp
      (Option.ne_none_iff_isSome.mp used)))
    cases target <;> simp only [patientDeps] at listed <;> omega
  · exact AList.mem_keys.mp (AList.lookup_isSome.mp present)

/-- A round with these scores awaits its reveal. -/
theorem scoredRound_awaits {scores : List Nat} (entered
      : (scoredRound scores).roundEntries.length = scores.length)
    (scored : (scoredRound scores).FullyScored) (filled : 1 ≤ scores.length)
    (fits : scores.length ≤ roundCapacity) : AwaitsReveal (scoredRound scores) :=
  ⟨scoredRound_unstarted scores, .inl rfl, rfl, rfl, scored, entered, filled, fits⟩

/-- A run interrupted once its only shard was queued. -/
def interruptedQueue : List Submission :=
  [pinOneShard 3, .queueShardReveal 51 0 [1, 2, 3]].map authoritySubmits

/-- The next run waits for the shard in flight and reveals the round. -/
theorem interruptedQueue_resumes
    : ∃ state after,
        Run journaledReveal DocumentedRead (scoredRound [5, 9, 7]).journaled interruptedQueue state
        ∧ runBracketReveal patientDeps [3, 1, 2] state.system = .ok after
        ∧ after.round.scoringRevealed := by
  have replayed : (replay journaledReveal DocumentedRead (scoredRound [5, 9, 7]).journaled
      interruptedQueue).any fun state =>
        !state.system.round.scoringRevealed
        && decide (∀ computationOffset ∈ state.system.computations.keys, computationOffset < 100)
        && decide (Resumable [3, 1, 2] state.system) := by
    decide +kernel
  obtain ⟨state, run, checked⟩ := Run.of_replay_any replayed
  simp only [Bool.and_eq_true, Bool.not_eq_true', decide_eq_true_eq] at checked
  obtain ⟨⟨unrevealed, earlier⟩, resumable⟩ := checked
  obtain ⟨after, success, revealed⟩ := reveal_resumes
    (scoredRound_awaits (by decide +kernel) (by decide +kernel) (by decide) (by decide)) run
    unrevealed (patientDeps_alone earlier) (by decide +kernel) resumable
  exact ⟨state, after, run, success, revealed⟩

/-- A partition of two entries with both shards revealed, then the script's own first
transaction, which pins the planned one instead; there it was interrupted.
-/
def interruptedRepin : List Submission :=
  [pinTwoShards 1 1,
    .queueShardReveal 51 0 [1], .revealTop3V5Callback 51 true,
    .queueShardReveal 52 1 [2], .revealTop3V5Callback 52 true,
    pinOneShard 2].map authoritySubmits

example : (planBracket [2, 1]).map initBracketOf = .ok (pinOneShard 2) := rfl

/-- After an interrupted re-pin the next run takes the old result of shard 0 for a result of
the planned partition, and its collect is refused.
-/
theorem interruptedRepin_refused
    : ¬ ∀ (start : RevealLedger), AwaitsReveal start
        → ∀ (history : List Submission) (state : JournaledReveal),
          Run journaledReveal DocumentedRead start.journaled history state
          → state.system.round.scoringRevealed = false
          → ∀ (deps : BracketRevealDeps), RunsAlone deps state.system
          → ∀ (entryKeys : List Pubkey), entryKeys.Perm start.roundEntries
          → ∃ after,
              runBracketReveal deps entryKeys state.system = .ok after
              ∧ after.round.scoringRevealed := by
  intro always
  have replayed : (replay journaledReveal DocumentedRead (scoredRound [5, 9]).journaled
      interruptedRepin).any fun state =>
        !state.system.round.scoringRevealed
        && decide (∀ computationOffset ∈ state.system.computations.keys, computationOffset < 100)
        && !(runBracketReveal patientDeps [2, 1] state.system).isOk := by
    decide +kernel
  obtain ⟨state, run, checked⟩ := Run.of_replay_any replayed
  simp only [Bool.and_eq_true, Bool.not_eq_true', decide_eq_true_eq] at checked
  obtain ⟨⟨unrevealed, earlier⟩, refused⟩ := checked
  obtain ⟨after, success, _⟩ := always _
    (scoredRound_awaits (by decide +kernel) (by decide +kernel) (by decide) (by decide)) _ _ run
    unrevealed _ (patientDeps_alone earlier) [2, 1] (by decide +kernel)
  rw [success] at refused
  cases refused

end SecretGarden.AutoCycle
