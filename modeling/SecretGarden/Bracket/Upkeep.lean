import SecretGarden.Bracket.Marks

/-! How the accounts of a reveal keep up with each other in every reachable state.
A result that is not ready has its computation in flight; the partition accounts belong to
the round; and what was collected or queued under a bracket carries the bracket's stamp.
-/

namespace SecretGarden.Bracket

open Foundation

--------------------------------------------------------------------------------
-- Results and the computations in flight
--------------------------------------------------------------------------------

/-- The ledger after a computation was delivered to its result account. -/
def RevealLedger.deliver (ledger : RevealLedger) (computationOffset : Nat)
    (computation : RevealComputation) (result : RevealTop3V3Result) : RevealLedger :=
  { ledger with
    results := ledger.results.insert computation.target
      (deliveredResult result (Circuit.revealTop3V5 (computation.args.input ledger.entries)))
    computations := ledger.computations.erase computationOffset }

/-- Results are free of errors; one that is not ready has a computation in flight, and a
computation in flight has a result account.
-/
structure Tracked (ledger : RevealLedger) : Prop where
  clean : ∀ {target result}, ledger.results.lookup target = some result → result.errorCode = 0
  pending : ∀ {target result}, ledger.results.lookup target = some result
    → result.ready = false
    → ∃ computationOffset computation,
        ledger.computations.lookup computationOffset = some computation
        ∧ computation.target = target
  aimed : ∀ {computationOffset computation},
    ledger.computations.lookup computationOffset = some computation
    → ∃ result, ledger.results.lookup computation.target = some result

/-- There is nothing to track before the first instruction. -/
theorem RevealLedger.Unstarted.tracked {ledger : RevealLedger} (unstarted : ledger.Unstarted)
    : Tracked ledger := by
  constructor
  · intro target result found
    simp [unstarted.results] at found
  · intro target result found
    simp [unstarted.results] at found
  · intro computationOffset computation found
    simp [unstarted.computations] at found

variable {ledger after : RevealLedger}

/-- Results and computations are all that is tracked. -/
theorem Tracked.quiet (tracked : Tracked ledger) (results : after.results = ledger.results)
    (computations : after.computations = ledger.computations) : Tracked after := by
  constructor
  · exact fun found => tracked.clean (results ▸ found)
  · intro target result found waiting
    rw [computations]
    exact tracked.pending (results ▸ found) waiting
  · intro computationOffset computation found
    rw [results]
    exact tracked.aimed (computations ▸ found)

/-- A queued run is in flight to the account it cleared. -/
theorem Tracked.queue (tracked : Tracked ledger) {computationOffset : Nat}
    (free : ledger.computations.lookup computationOffset = none) (target : ResultAddress)
    (generation : Nat) (run : List Contender)
    : Tracked (ledger.queue computationOffset target generation run) := by
  constructor
  · intro place result found
    rcases Store.lookup_insert_eq_some.mp found with ⟨_, rfl⟩ | ⟨_, found⟩
    · rfl
    · exact tracked.clean found
  · intro place result found waiting
    rcases Store.lookup_insert_eq_some.mp found with ⟨here, _⟩ | ⟨_, found⟩
    · exact ⟨computationOffset, _, AList.lookup_insert _, here.symm⟩
    · obtain ⟨earlier, computation, queued, aimed⟩ := tracked.pending found waiting
      have apart : earlier ≠ computationOffset := by
        rintro rfl
        cases free.symm.trans queued
      exact ⟨earlier, computation, (AList.lookup_insert_ne apart).trans queued, aimed⟩
  · intro other computation found
    rw [RevealLedger.queue, Store.lookup_insert_apply] at found
    simp only [RevealLedger.queue, Store.lookup_insert_apply]
    split
    · exact ⟨_, rfl⟩
    · next apart =>
        split at found
        · cases found
          exact absurd rfl apart
        · exact tracked.aimed found

/-- A delivered computation leaves its account ready. -/
theorem Tracked.deliver (tracked : Tracked ledger) {computationOffset : Nat}
    {computation : RevealComputation} {result : RevealTop3V3Result}
    (found : ledger.computations.lookup computationOffset = some computation)
    (present : ledger.results.lookup computation.target = some result)
    : Tracked (ledger.deliver computationOffset computation result) := by
  constructor
  · intro place other stored
    rcases Store.lookup_insert_eq_some.mp stored with ⟨_, rfl⟩ | ⟨_, stored⟩
    · change result.errorCode = 0
      exact tracked.clean present
    · exact tracked.clean stored
  · intro place other stored waiting
    rcases Store.lookup_insert_eq_some.mp stored with ⟨_, rfl⟩ | ⟨apart, stored⟩
    · cases waiting
    · obtain ⟨earlier, queued, listed, aimed⟩ := tracked.pending stored waiting
      have kept : earlier ≠ computationOffset := by
        rintro rfl
        cases found.symm.trans listed
        exact apart aimed.symm
      exact ⟨earlier, queued, (AList.lookup_erase_ne kept).trans listed, aimed⟩
  · intro other queued listed
    rw [RevealLedger.deliver, Store.lookup_erase_apply] at listed
    simp only [RevealLedger.deliver, Store.lookup_insert_apply]
    split
    · exact ⟨_, rfl⟩
    · split at listed
      · cases listed
      · exact tracked.aimed listed

/-- Every accepted instruction keeps track, by cases on the instruction. -/
theorem Tracked.step (tracked : Tracked ledger) {submission : Submission}
    (success : revealStep ledger submission = .ok after) : Tracked after := by
  obtain ⟨env, instruction⟩ := submission
  cases instruction with
  | initBracket shardSizes shardBounds shardCount =>
      obtain ⟨_, _, rfl⟩ := initBracket_eq_ok.mp success
      exact tracked.quiet rfl rfl
  | queueShardReveal computationOffset shardIndex accounts =>
      obtain ⟨bracket, run, _, free, rfl⟩ := queueShardReveal_eq_ok.mp success
      exact (tracked.queue free (.shard shardIndex) bracket.generation run).quiet rfl rfl
  | collectShardWinners shardIndex accounts =>
      obtain ⟨_, _, _, _, _, _, rfl⟩ := collectShardWinners_eq_ok.mp success
      exact tracked.quiet rfl rfl
  | applyBracketResult resultIndex =>
      obtain ⟨_, _, _, _, _, rfl⟩ := applyBracketResult_eq_ok.mp success
      exact tracked.quiet rfl rfl
  | initTier1Bracket shardSizes shardBounds shardCount =>
      obtain ⟨_, _, _, _, _, rfl⟩ := initTier1Bracket_eq_ok.mp success
      exact tracked.quiet rfl rfl
  | closeTier1Bracket =>
      obtain ⟨_, _, _, rfl⟩ := closeTier1Bracket_eq_ok.mp success
      exact tracked.quiet rfl rfl
  | queueTier1ShardReveal computationOffset shardIndex accounts =>
      obtain ⟨tier1, run, _, free, rfl⟩ := queueTier1ShardReveal_eq_ok.mp success
      exact tracked.queue free (.shard shardIndex) tier1.generation run
  | collectTier1Winners shardIndex accounts =>
      obtain ⟨_, _, _, _, _, _, rfl⟩ := collectTier1Winners_eq_ok.mp success
      exact tracked.quiet rfl rfl
  | promoteTier1 =>
      obtain ⟨_, _, rfl⟩ := promoteTier1_eq_ok.mp success
      exact tracked.quiet rfl rfl
  | queueSemifinalReveal computationOffset semiIndex accounts =>
      obtain ⟨_, bracket, run, _, free, rfl⟩ := queueSemifinalReveal_eq_ok.mp success
      exact tracked.queue free (.semifinal semiIndex) bracket.generation run
  | collectSemifinalWinners semiIndex =>
      obtain ⟨_, _, _, _, _, _, _, _, _, rfl⟩ := collectSemifinalWinners_eq_ok.mp success
      exact tracked.quiet rfl rfl
  | revealTop3V5Callback computationOffset verified =>
      obtain ⟨computation, result, found, present, _, rfl⟩ :=
        revealTop3V5Callback_eq_ok.mp success
      exact tracked.deliver found present

--------------------------------------------------------------------------------
-- Partition accounts
--------------------------------------------------------------------------------

variable {state : JournaledReveal} {journal : Journal}

/-- The partition accounts are the round's; an applied bracket has revealed the round; and
only a round above one tier's capacity is promoted, which leaves a bracket.
-/
structure Upkept (state : JournaledReveal) : Prop where
  bracketOwned : ∀ {bracket}, state.system.bracket = some bracket
    → bracket.round = state.system.round.key
  tier1Owned : ∀ {tier1}, state.system.tier1 = some tier1
    → tier1.round = state.system.round.key
  unapplied : ∀ {bracket}, state.system.bracket = some bracket
    → bracket.applied
    → state.system.round.scoringRevealed
  large : ∀ {winners}, state.journal.sliced = some winners
    → singleTierCapacity < state.system.round.participantCount
  promoted : ∀ {tier1}, state.system.tier1 = some tier1
    → tier1.promoted
    → ∃ bracket, state.system.bracket = some bracket

theorem RevealLedger.Unstarted.upkept {ledger : RevealLedger} (unstarted : ledger.Unstarted)
    : Upkept ledger.journaled := by
  constructor
  · intro bracket found
    simp [RevealLedger.journaled, unstarted.bracket] at found
  · intro tier1 found
    simp [RevealLedger.journaled, unstarted.tier1] at found
  · intro bracket found
    simp [RevealLedger.journaled, unstarted.bracket] at found
  · rintro winners ⟨⟩
  · intro tier1 found
    simp [RevealLedger.journaled, unstarted.tier1] at found

/-- Only the progress of partition accounts differs. -/
structure Progressed (ledger after : RevealLedger) : Prop where
  round : after.round = ledger.round
  bracket : ∀ {recorded}, after.bracket = some recorded
    → ∃ bracket,
        ledger.bracket = some bracket
        ∧ recorded.round = bracket.round
        ∧ recorded.applied = bracket.applied
  tier1 : ∀ {recorded}, after.tier1 = some recorded
    → ∃ tier1,
        ledger.tier1 = some tier1
        ∧ recorded.round = tier1.round
        ∧ recorded.promoted = tier1.promoted
  present : ledger.bracket.isSome → after.bracket.isSome

/-- An untouched partition account has not progressed. -/
theorem Progressed.of_same (round : after.round = ledger.round)
    (bracket : after.bracket = ledger.bracket) (tier1 : after.tier1 = ledger.tier1)
    : Progressed ledger after :=
  ⟨round, fun found => ⟨_, bracket ▸ found, rfl, rfl⟩,
    fun found => ⟨_, tier1 ▸ found, rfl, rfl⟩, fun present => bracket ▸ present⟩

/-- A bracket that was rewritten in place has progressed. -/
theorem Progressed.of_bracket {bracket recorded : BracketState}
    (found : ledger.bracket = some bracket) (round : recorded.round = bracket.round)
    (applied : recorded.applied = bracket.applied)
    : Progressed ledger { ledger with bracket := some recorded } := by
  refine ⟨rfl, ?_, fun held => ⟨_, held, rfl, rfl⟩, fun _ => rfl⟩
  rintro _ ⟨⟩
  exact ⟨bracket, found, round, applied⟩

/-- Progress keeps the accounts in order. -/
theorem Upkept.progress (upkept : Upkept state) (progressed : Progressed state.system after)
    (sliced : journal.sliced = state.journal.sliced) : Upkept ⟨after, journal⟩ := by
  constructor
  · intro recorded found
    obtain ⟨bracket, held, round, _⟩ := progressed.bracket found
    rw [round, progressed.round]
    exact upkept.bracketOwned held
  · intro recorded found
    obtain ⟨tier1, held, round, _⟩ := progressed.tier1 found
    rw [round, progressed.round]
    exact upkept.tier1Owned held
  · intro recorded found applied
    obtain ⟨bracket, held, _, same⟩ := progressed.bracket found
    rw [progressed.round]
    exact upkept.unapplied held (same ▸ applied)
  · intro winners slicing
    rw [progressed.round]
    exact upkept.large (sliced ▸ slicing)
  · intro recorded found promoted
    obtain ⟨tier1, held, _, same⟩ := progressed.tier1 found
    obtain ⟨bracket, present⟩ := upkept.promoted held (same ▸ promoted)
    exact Option.isSome_iff_exists.mp (progressed.present (by rw [present]; rfl))

/-- Recording finalists leaves the rest of the bracket alone. -/
theorem recorded_frame {bracket recorded : BracketState} {keys : List Pubkey}
    (pushed : pushFinalists keys bracket = .ok recorded) (k : Nat)
    : markCollected recorded k = { bracket with
        shardsCollected := bracket.shardsCollected ||| 1 <<< k
        finalists := recorded.finalists
        finalistCount := recorded.finalistCount } := by
  obtain ⟨_, rfl⟩ := pushFinalists_eq_ok.mp pushed
  rfl

/-- Every accepted instruction keeps the accounts in order, by cases on the instruction. -/
theorem Upkept.step (upkept : Upkept state) (formed : WellFormed state)
    {submission : Submission} (success : revealStep state.system submission = .ok after)
    : Upkept ⟨after, note state.system submission state.journal⟩ := by
  obtain ⟨env, instruction⟩ := submission
  cases instruction with
  | initBracket shardSizes shardBounds shardCount =>
      obtain ⟨_, layout, rfl⟩ := initBracket_eq_ok.mp success
      refine ⟨?_, upkept.tier1Owned, ?_, ?_, fun _ _ => ⟨_, rfl⟩⟩
      · rintro _ ⟨⟩
        rfl
      · rintro _ ⟨⟩ ⟨⟩
      · rintro _ ⟨⟩
  | promoteTier1 =>
      obtain ⟨tier1, checks, rfl⟩ := promoteTier1_eq_ok.mp success
      refine ⟨?_, ?_, ?_, fun _ => (formed.tier1 checks.found).1, fun _ _ => ⟨_, rfl⟩⟩
      · rintro _ ⟨⟩
        rfl
      · rintro _ ⟨⟩
        exact checks.owned
      · rintro _ ⟨⟩ ⟨⟩
  | initTier1Bracket shardSizes shardBounds shardCount =>
      obtain ⟨_, _, _, _, _, rfl⟩ := initTier1Bracket_eq_ok.mp success
      refine ⟨upkept.bracketOwned, ?_, upkept.unapplied, upkept.large, ?_⟩
      · rintro _ ⟨⟩
        rfl
      · rintro _ ⟨⟩ ⟨⟩
  | closeTier1Bracket =>
      obtain ⟨_, _, _, rfl⟩ := closeTier1Bracket_eq_ok.mp success
      refine ⟨upkept.bracketOwned, ?_, upkept.unapplied, upkept.large, ?_⟩
      · rintro _ ⟨⟩
      · rintro _ ⟨⟩
  | queueShardReveal computationOffset shardIndex accounts =>
      obtain ⟨bracket, run, checks, _, rfl⟩ := queueShardReveal_eq_ok.mp success
      refine upkept.progress ⟨rfl, ?_, fun held => ⟨_, held, rfl, rfl⟩, fun _ => rfl⟩ rfl
      rintro _ ⟨⟩
      rw [afterQueue_frame]
      exact ⟨bracket, checks.found, rfl, rfl⟩
  | queueTier1ShardReveal computationOffset shardIndex accounts =>
      obtain ⟨_, _, _, _, rfl⟩ := queueTier1ShardReveal_eq_ok.mp success
      exact upkept.progress (.of_same rfl rfl rfl) rfl
  | queueSemifinalReveal computationOffset semiIndex accounts =>
      obtain ⟨_, _, _, _, _, rfl⟩ := queueSemifinalReveal_eq_ok.mp success
      exact upkept.progress (.of_same rfl rfl rfl) rfl
  | collectShardWinners shardIndex accounts =>
      obtain ⟨bracket, _, _, recorded, checks, recording, rfl⟩ :=
        collectShardWinners_eq_ok.mp success
      obtain ⟨_, _, pushed⟩ := recordFinalists_eq_ok.mp recording
      rw [recorded_frame pushed]
      exact upkept.progress (.of_bracket checks.found rfl rfl) rfl
  | collectSemifinalWinners semiIndex =>
      obtain ⟨_, bracket, _, _, _, recorded, checks, _, pushed, rfl⟩ :=
        collectSemifinalWinners_eq_ok.mp success
      rw [recorded_frame pushed]
      exact upkept.progress (.of_bracket checks.found rfl rfl) rfl
  | collectTier1Winners shardIndex accounts =>
      obtain ⟨tier1, _, _, recorded, checks, recording, rfl⟩ :=
        collectTier1Winners_eq_ok.mp success
      obtain ⟨_, _, inserted⟩ := recordWinners_eq_ok.mp recording
      have frame := ((formed.tier1 checks.found).2.2.insertWinners inserted).frame
      refine upkept.progress ⟨rfl, fun held => ⟨_, held, rfl, rfl⟩, ?_, id⟩ rfl
      rintro _ ⟨⟩
      refine ⟨tier1, checks.found, ?_, ?_⟩
      · rw [frame, markDone]
      · rw [frame, markDone]
  | applyBracketResult resultIndex =>
      obtain ⟨bracket, _, _, checks, _, rfl⟩ := applyBracketResult_eq_ok.mp success
      refine ⟨?_, upkept.tier1Owned, fun _ _ => rfl, upkept.large, fun _ _ => ⟨_, rfl⟩⟩
      rintro _ ⟨⟩
      exact checks.owned
  | revealTop3V5Callback computationOffset verified =>
      obtain ⟨_, _, _, _, _, rfl⟩ := revealTop3V5Callback_eq_ok.mp success
      exact upkept.progress (.of_same rfl rfl rfl)
        (state.journal.deliver_sliced _)

/-- An account of an unrevealed round is not applied. -/
theorem Upkept.not_applied (upkept : Upkept state) {bracket : BracketState}
    (found : state.system.bracket = some bracket)
    (unrevealed : state.system.round.scoringRevealed = false) : bracket.applied = false := by
  cases applied : bracket.applied with
  | false => rfl
  | true =>
      have revealed := upkept.unapplied found applied
      rw [unrevealed] at revealed
      cases revealed

--------------------------------------------------------------------------------
-- Stamps
--------------------------------------------------------------------------------

/-- The result account exists and carries this stamp. -/
def RevealLedger.Carries (ledger : RevealLedger) (target : ResultAddress) (generation : Nat)
    : Prop :=
  ∃ result, ledger.results.lookup target = some result ∧ result.generation = generation

/-- Stamping an account with what it carries, or another account, changes nothing. -/
theorem RevealLedger.Carries.queue {target other : ResultAddress} {generation stamp : Nat}
    (carries : ledger.Carries target generation) (computationOffset : Nat)
    (run : List Contender) (same : target = other → stamp = generation)
    : (ledger.queue computationOffset other stamp run).Carries target generation := by
  rw [RevealLedger.Carries, RevealLedger.queue, Store.lookup_insert_apply]
  split
  · next here => exact ⟨_, rfl, same here⟩
  · exact carries

/-- A delivery changes no stamp. -/
theorem RevealLedger.Carries.deliver {target : ResultAddress} {generation : Nat}
    (carries : ledger.Carries target generation) {computationOffset : Nat}
    {computation : RevealComputation} {result : RevealTop3V3Result}
    (present : ledger.results.lookup computation.target = some result)
    : (ledger.deliver computationOffset computation result).Carries target generation := by
  rw [RevealLedger.Carries, RevealLedger.deliver, Store.lookup_insert_apply]
  split
  · next here =>
      obtain ⟨held, found, stamp⟩ := carries
      rw [here, present] at found
      cases found
      exact ⟨_, rfl, stamp⟩
  · exact carries

/-- The final was queued over the finalists as they stand, once all shards were collected. -/
structure FinalQueued (ledger : RevealLedger) (bracket : BracketState) : Prop where
  needed : bracket.needsFinalReveal
  collected : bracket.allShardsCollected
  ascending : bracket.activeFinalists.Pairwise (· < ·)
  carries : ledger.Carries (.shard finalShardIndex) bracket.generation

/-- A small round has no result before its bracket; shards collected under a declared
bracket, and the queued final, carry the bracket's stamp.
-/
structure Stamped (state : JournaledReveal) : Prop where
  unpinned : state.system.bracket = none
    → state.system.round.participantCount ≤ singleTierCapacity
    → ∀ target, state.system.results.lookup target = none
  collected : ∀ {bracket}, state.system.bracket = some bracket
    → state.journal.sliced = none
    → ∀ k, bracket.shardsCollected.testBit k
      → state.system.Carries (.shard k) bracket.generation
  final : ∀ {bracket}, state.system.bracket = some bracket
    → bracket.finalQueued
    → FinalQueued state.system bracket

theorem RevealLedger.Unstarted.stamped {ledger : RevealLedger} (unstarted : ledger.Unstarted)
    : Stamped ledger.journaled := by
  constructor
  · intro _ _ target
    simp [RevealLedger.journaled, unstarted.results]
  · intro bracket found
    simp [RevealLedger.journaled, unstarted.bracket] at found
  · intro bracket found
    simp [RevealLedger.journaled, unstarted.bracket] at found

/-- Keeping the bracket and the stamps keeps the invariant. -/
theorem Stamped.quiet (stamped : Stamped state) (bracket : after.bracket = state.system.bracket)
    (sliced : journal.sliced = state.journal.sliced)
    (small : after.bracket = none → after.round.participantCount ≤ singleTierCapacity
      → ∀ target, after.results.lookup target = none)
    (carries : ∀ {target generation}, state.system.Carries target generation
      → after.Carries target generation)
    : Stamped ⟨after, journal⟩ := by
  refine ⟨small, ?_, ?_⟩
  · intro current found unsliced k marked
    exact carries (stamped.collected (bracket ▸ found) (sliced ▸ unsliced) k marked)
  · intro current found queued
    have final := stamped.final (bracket ▸ found) queued
    exact ⟨final.needed, final.collected, final.ascending, carries final.carries⟩

/-- A new bracket has collected nothing. -/
theorem stamped_of_fresh {shardSizes : Vector Nat maxShards}
    {shardBounds : Vector Pubkey maxShards} {shardCount : Nat}
    (pinned : after.bracket = some (ledger.freshBracket shardSizes shardBounds shardCount))
    : Stamped ⟨after, journal⟩ := by
  refine ⟨fun absent => ?_, ?_, ?_⟩
  · cases absent.symm.trans pinned
  · intro bracket found _ k marked
    cases found.symm.trans pinned
    simp [RevealLedger.freshBracket] at marked
  · intro bracket found queued
    cases found.symm.trans pinned
    cases queued

/-- Collecting one more shard keeps the invariant: its result carries the bracket's stamp, and
no final is queued yet.
-/
theorem Stamped.collect (stamped : Stamped state) {bracket recorded : BracketState}
    {keys : List Pubkey} {k : Nat} (found : state.system.bracket = some bracket)
    (few : bracket.shardCount ≤ maxShards) (inside : k < bracket.shardCount)
    (uncollected : bracket.shardsCollected.testBit k = false)
    (pushed : pushFinalists keys bracket = .ok recorded)
    (current : state.journal.sliced = none
      → state.system.Carries (.shard k) bracket.generation)
    (sliced : journal.sliced = state.journal.sliced)
    : Stamped ⟨{ state.system with bracket := some (markCollected recorded k) }, journal⟩ := by
  refine ⟨nofun, ?_, ?_⟩
  · rintro _ ⟨⟩ unsliced j marked
    rw [sliced] at unsliced
    rw [recorded_frame pushed] at marked ⊢
    rcases testBit_markCollected.mp marked with earlier | rfl
    · exact stamped.collected found unsliced j earlier
    · exact current unsliced
  · rintro _ ⟨⟩ queued
    rw [recorded_frame pushed] at queued
    exact absurd (stamped.final found queued).collected
      (not_allShardsCollected few inside uncollected)

/-- A declared bracket belongs to a small round. -/
theorem WellFormed.declared_small (formed : WellFormed state) {bracket : BracketState}
    (found : state.system.bracket = some bracket) (unsliced : state.journal.sliced = none)
    : state.system.round.participantCount ≤ singleTierCapacity :=
  (formed.declared found unsliced).participants_le

/-- In a round of two tiers only the final's account matters to the bracket. -/
theorem Stamped.queue_large (stamped : Stamped state) (formed : WellFormed state)
    (large : singleTierCapacity < state.system.round.participantCount) {target : ResultAddress}
    (apart : target ≠ .shard finalShardIndex) (computationOffset generation : Nat)
    (run : List Contender) (sliced : journal.sliced = state.journal.sliced)
    : Stamped ⟨state.system.queue computationOffset target generation run, journal⟩ := by
  refine ⟨fun _ small => absurd small (not_le.mpr large), ?_, ?_⟩
  · intro bracket found unsliced
    rw [sliced] at unsliced
    exact absurd (formed.declared_small found unsliced) (not_le.mpr large)
  · intro bracket found queued
    have held := stamped.final found queued
    exact ⟨held.needed, held.collected, held.ascending,
      held.carries.queue computationOffset run fun here => absurd here.symm apart⟩

/-- Every accepted instruction keeps the stamps, by cases on the instruction. -/
theorem Stamped.step (stamped : Stamped state) (formed : WellFormed state)
    {submission : Submission} (success : revealStep state.system submission = .ok after)
    : Stamped ⟨after, note state.system submission state.journal⟩ := by
  obtain ⟨env, instruction⟩ := submission
  cases instruction with
  | initBracket shardSizes shardBounds shardCount =>
      obtain ⟨_, _, rfl⟩ := initBracket_eq_ok.mp success
      exact stamped_of_fresh rfl
  | promoteTier1 =>
      obtain ⟨tier1, _, rfl⟩ := promoteTier1_eq_ok.mp success
      exact stamped_of_fresh rfl
  | initTier1Bracket shardSizes shardBounds shardCount =>
      obtain ⟨_, _, _, _, _, rfl⟩ := initTier1Bracket_eq_ok.mp success
      exact stamped.quiet rfl rfl stamped.unpinned id
  | closeTier1Bracket =>
      obtain ⟨_, _, _, rfl⟩ := closeTier1Bracket_eq_ok.mp success
      exact stamped.quiet rfl rfl stamped.unpinned id
  | queueShardReveal computationOffset shardIndex accounts =>
      obtain ⟨bracket, run, checks, _, rfl⟩ := queueShardReveal_eq_ok.mp success
      refine ⟨nofun, ?_, ?_⟩
      · rintro _ ⟨⟩ unsliced k marked
        rw [afterQueue_frame] at marked ⊢
        exact (stamped.collected checks.found unsliced k marked).queue computationOffset run
          fun _ => rfl
      · rintro _ ⟨⟩ queued
        by_cases final : shardIndex = finalShardIndex
        · have run' := checks.finalRun final
          subst final
          refine ⟨?_, ?_, ?_, _, AList.lookup_insert _, ?_⟩
          · rw [afterQueue_frame]
            exact run'.needed
          · rw [afterQueue_frame]
            exact run'.collected
          · rw [run'.activeFinalists_afterQueue (formed.counted checks.found)]
            exact run'.ascending
          · rw [afterQueue_frame]
            rfl
        · have same : afterQueue bracket shardIndex accounts = bracket := if_neg final
          rw [same] at queued ⊢
          have held := stamped.final checks.found queued
          exact ⟨held.needed, held.collected, held.ascending,
            held.carries.queue computationOffset run fun here =>
              absurd (ResultAddress.shard.inj here).symm final⟩
  | queueTier1ShardReveal computationOffset shardIndex accounts =>
      obtain ⟨tier1, run, checks, _, rfl⟩ := queueTier1ShardReveal_eq_ok.mp success
      obtain ⟨large, layout, _⟩ := formed.tier1 checks.found
      refine stamped.queue_large formed large (fun final => ?_) _ _ run rfl
      have inside := checks.indexed.trans_le layout.bounded
      rw [ResultAddress.shard.inj final] at inside
      exact absurd inside (by decide)
  | queueSemifinalReveal computationOffset semiIndex accounts =>
      obtain ⟨tier1, _, run, checks, _, rfl⟩ := queueSemifinalReveal_eq_ok.mp success
      have large := (formed.tier1 checks.foundTier1).1
      exact stamped.queue_large formed large (by rintro ⟨⟩) _ _ run rfl
  | collectShardWinners shardIndex accounts =>
      obtain ⟨bracket, result, _, recorded, checks, recording, rfl⟩ :=
        collectShardWinners_eq_ok.mp success
      obtain ⟨_, _, pushed⟩ := recordFinalists_eq_ok.mp recording
      exact stamped.collect checks.found (formed.shardCount_le checks.found) checks.indexed
        checks.uncollected pushed (fun _ => ⟨result, checks.resulted, checks.current⟩) rfl
  | collectSemifinalWinners semiIndex =>
      obtain ⟨tier1, bracket, _, _, _, recorded, checks, _, pushed, rfl⟩ :=
        collectSemifinalWinners_eq_ok.mp success
      refine stamped.collect checks.found (formed.shardCount_le checks.found) checks.indexed
        checks.uncollected pushed (fun unsliced => ?_) rfl
      cases unsliced.symm.trans (formed.promoted checks.foundTier1 checks.promoted)
  | collectTier1Winners shardIndex accounts =>
      obtain ⟨_, _, _, _, _, _, rfl⟩ := collectTier1Winners_eq_ok.mp success
      exact stamped.quiet rfl rfl stamped.unpinned id
  | applyBracketResult resultIndex =>
      obtain ⟨bracket, _, _, checks, _, rfl⟩ := applyBracketResult_eq_ok.mp success
      refine ⟨nofun, ?_, ?_⟩
      · rintro _ ⟨⟩ unsliced k marked
        exact stamped.collected checks.found unsliced k marked
      · rintro _ ⟨⟩ queued
        have held := stamped.final checks.found queued
        exact ⟨held.needed, held.collected, held.ascending, held.carries⟩
  | revealTop3V5Callback computationOffset verified =>
      obtain ⟨computation, result, _, present, _, rfl⟩ := revealTop3V5Callback_eq_ok.mp success
      refine stamped.quiet rfl (state.journal.deliver_sliced _) ?_
        fun carries => carries.deliver present
      intro absent small
      have vacant := stamped.unpinned absent small computation.target
      cases vacant.symm.trans present

/-- A queued final is complete and ordered. -/
theorem Stamped.settled (stamped : Stamped state) {bracket : BracketState}
    (found : state.system.bracket = some bracket) (queued : bracket.finalQueued)
    : 1 < bracket.shardCount
      ∧ bracket.allShardsCollected
      ∧ bracket.activeFinalists.Pairwise (· < ·) := by
  have final := stamped.final found queued
  exact ⟨by simpa [BracketState.needsFinalReveal] using final.needed, final.collected,
    final.ascending⟩

end SecretGarden.Bracket
