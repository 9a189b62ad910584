import SecretGarden.AutoCycle.Endgame
import SecretGarden.AutoCycle.Gathering

/-! How each stage of the script leads to the next: the shards of the bracket account to the
endgame, and the first tier through its promotion to fresh semifinals.
-/

namespace SecretGarden.AutoCycle

open Foundation SecretGarden.Bracket

--------------------------------------------------------------------------------
-- From the bracket's shards to the endgame
--------------------------------------------------------------------------------

section Shards

variable {deps : BracketRevealDeps} {start ledger : RevealLedger} {sorted : List Pubkey}
  {plan : BracketPlan} {base : BracketState} {groups : Nat → List Pubkey}

/-- A bracket of this round over groups of its entries, not applied yet; a queued final has
its finalists in order.
-/
structure GroupsPinned (start : RevealLedger) (groups : Nat → List Pubkey) (base : BracketState)
    : Prop where
  found : start.bracket = some base
  owned : base.round = start.round.key
  unapplied : base.applied = false
  filled : 1 ≤ base.shardCount
  few : base.shardCount ≤ maxShards
  disjoint : ApartGroups start.entries groups base.shardCount
  drawn : ∀ k < base.shardCount, ∀ key ∈ groups k, key ∈ start.roundEntries
  gathered : BracketGathered start.entries groups base base
  final : base.finalQueued
    → 1 < base.shardCount
      ∧ base.allShardsCollected
      ∧ base.activeFinalists.Pairwise (· < ·)

theorem GroupsPinned.progress (pinned : GroupsPinned start groups base)
    : BracketProgress start groups base start :=
  ⟨⟨rfl, rfl⟩, rfl, fun _ => pinned.found, base, pinned.found, pinned.gathered⟩

/-- With every group collected the endgame is ready. -/
theorem GroupsPinned.endgameReady (pinned : GroupsPinned start groups base)
    (revealable : Revealable start sorted) (tracked : Tracked ledger)
    (progress : BracketProgress start groups base ledger)
    (all : ∀ k < base.shardCount,
      ledger.bracket.map (·.shardsCollected.testBit k) = some true)
    (aside : FinalAside deps base ledger)
    (single : base.shardCount = 1
      → resultReady ledger (.shard 0) ∧ ledger.Carries (.shard 0) base.generation)
    : ∃ bracket, EndgameReady deps bracket ledger := by
  obtain ⟨bracket, found, gathered⟩ := progress.bracket
  have frame := gathered.frame
  have queued : bracket.finalQueued = base.finalQueued := by rw [frame]
  have same : base.finalQueued → bracket = base := fun final =>
    Option.some.inj (found.symm.trans (progress.settled (pinned.final final).2.1))
  have complete : bracket.allShardsCollected := by
    refine gathered.complete pinned.few fun k inside => ?_
    have marked := all k inside
    rw [found] at marked
    exact Option.some.inj marked
  obtain ⟨order, collected⟩ := gathered.gathered
  obtain ⟨free, answers, idle⟩ := aside
  refine ⟨bracket,
    { tracked := tracked
      reached :=
        { found := found
          owned := by rw [frame, progress.same.round]; exact pinned.owned
          unapplied := by rw [frame]; exact pinned.unapplied
          collected := complete
          counted := gathered.counted
          drawn := fun key member => ?_
          unrevealed := by rw [progress.same.round]; exact revealable.unrevealed
          scored := progress.same.scored revealable.scored }
      filled := by rw [frame]; exact pinned.filled
      unique := collected.nodup pinned.disjoint.present pinned.disjoint.unique
        pinned.disjoint.apart
      ordered := fun final => ?_
      aside := ⟨free, fun final => ?_, fun unqueued => idle (queued ▸ unqueued)⟩
      single := ?_ }⟩
  · obtain ⟨k, inside, belongs⟩ := collected.mem member
    rw [progress.same.roundEntries]
    exact pinned.drawn k inside key belongs
  · obtain ⟨several, _, ascending⟩ := pinned.final (queued ▸ final)
    rw [same (queued ▸ final)]
    exact ⟨several, ascending⟩
  · rw [same (queued ▸ final)]
    exact answers (queued ▸ final)
  · rw [frame]
    exact single

/-- A tier of the bracket account leads to the endgame, whichever it is. -/
theorem GroupsPinned.tier_reaches (pinned : GroupsPinned start groups base)
    (revealable : Revealable start sorted) {spec : TierSpec} {aside : RevealLedger → Prop}
    {forceRequeue : Bool}
    (contract
      : TierContract deps spec base.generation groups (BracketProgress start groups base))
    (untouched : Untouched deps spec base.generation aside) (prompt : Prompt deps)
    (counted : spec.count = base.shardCount)
    (marks : ∀ ledger k,
      spec.collected ledger k = ledger.bracket.map (·.shardsCollected.testBit k))
    (ready : TierReady deps spec base.generation groups forceRequeue start)
    (tracked : Tracked start) (held : aside start)
    (final : ∀ {after}, aside after → FinalAside deps base after)
    (single : base.shardCount = 1 → ∀ {after},
      Collecting spec base.generation groups (BracketProgress start groups base) aside start []
          after
        → resultReady after (.shard 0) ∧ after.Carries (.shard 0) base.generation)
    : ∃ after bracket,
        runTier deps spec forceRequeue start = .ok after ∧ EndgameReady deps bracket after := by
  obtain ⟨after, success, collecting⟩ := runTier_succeeds contract untouched prompt ready tracked
    pinned.progress held
  obtain ⟨bracket, reached⟩ := pinned.endgameReady revealable collecting.tracked
    collecting.progressing
    (fun k inside => marks after k ▸ collecting.done k (counted ▸ inside) List.not_mem_nil)
    (final collecting.aside) fun one => single one collecting
  exact ⟨after, bracket, success, reached⟩

/-- The planned shards of a single tier lead to the endgame. -/
theorem singleTier_reaches (allowed : Allowed deps.envs)
    (apart : Function.Injective deps.freshOffset) (prompt : Prompt deps)
    (revealable : Revealable start sorted) (planned : Planned sorted plan)
    (layout : PinnedBracket start sorted base)
    (pinned : GroupsPinned start (winnersSlice sorted) base) {forceRequeue : Bool}
    (ready : TierReady deps (singleTierSpec deps plan) base.generation (winnersSlice sorted)
      forceRequeue start)
    (stamped : base.shardsCollected.testBit 0 → start.Carries (.shard 0) base.generation)
    (tracked : Tracked start) (aside : FinalAside deps base start)
    : ∃ after bracket,
        runTier deps (singleTierSpec deps plan) forceRequeue start = .ok after
        ∧ EndgameReady deps bracket after := by
  have counted : (singleTierSpec deps plan).count = base.shardCount :=
    planned.count.trans layout.count.symm
  have others : ∀ k < (singleTierSpec deps plan).count,
      ResultAddress.shard k ≠ .shard finalShardIndex := fun k inside same =>
    ne_finalShardIndex (counted ▸ inside) layout.few (ResultAddress.shard.inj same)
  refine pinned.tier_reaches revealable
    (singleTier_contract allowed apart revealable planned layout)
    (untouched_final apart others base) prompt counted (fun _ _ => rfl) ready tracked aside id ?_
  intro one after collecting
  have inside : 0 < (singleTierSpec deps plan).count := by
    rw [counted, one]
    exact Nat.one_pos
  have taken := collecting.taken 0 inside
  have present := collecting.ready 0 inside
  refine ⟨present, ?_⟩
  cases before : base.shardsCollected.testBit 0 with
  | true => exact taken.carries (stamped before)
  | false =>
      have uncollected : (singleTierSpec deps plan).collected start 0 = some false := by
        simp only [singleTierSpec, pinned.found, Option.map_some, before]
      exact ((taken.answers uncollected).holds present).carries

/-- The semifinals of a promoted bracket lead to the endgame. -/
theorem semifinals_reach (allowed : Allowed deps.envs)
    (apart : Function.Injective deps.freshOffset) (prompt : Prompt deps)
    (revealable : Revealable start sorted) {tier1 : Tier1State}
    (promotion : PinnedSemifinals start tier1 base)
    (pinned : GroupsPinned start (winnersSlice tier1.activeWinners) base)
    (ready : TierReady deps (semifinalSpec deps tier1 base) base.generation
      (winnersSlice tier1.activeWinners) false start)
    (single : base.shardCount = 1
      → resultReady start (.shard 0) ∧ start.Carries (.shard 0) base.generation)
    (tracked : Tracked start) (aside : FinalAside deps base start)
    : ∃ after bracket,
        runTier deps (semifinalSpec deps tier1 base) false start = .ok after
        ∧ EndgameReady deps bracket after := by
  have elsewhere : ∀ index, ∀ k < (semifinalSpec deps tier1 base).count,
      ResultAddress.semifinal k ≠ .shard index := by
    rintro index k _ ⟨⟩
  have first : Untouched deps (semifinalSpec deps tier1 base) base.generation fun ledger =>
      base.shardCount = 1
        → resultReady ledger (.shard 0) ∧ ledger.Carries (.shard 0) base.generation :=
    Untouched.all fun _ => (untouched_ready (elsewhere 0)).and
      (untouched_carries (elsewhere 0) base.generation)
  exact pinned.tier_reaches revealable (semifinal_contract allowed apart revealable promotion)
    ((untouched_final apart (elsewhere _) base).and first) prompt rfl (fun _ _ => rfl) ready
    tracked ⟨aside, single⟩ And.left fun one _ collecting => collecting.aside.2 one

end Shards

--------------------------------------------------------------------------------
-- From the first tier to its semifinals
--------------------------------------------------------------------------------

section FirstTier

variable {deps : BracketRevealDeps} {start ledger : RevealLedger} {sorted : List Pubkey}
  {plan : BracketPlan} {tier1 : Tier1State}

/-- The slices of promoted winners are groups of the round. -/
theorem PinnedSemifinals.groups {base : BracketState}
    (promotion : PinnedSemifinals start tier1 base) (found : start.bracket = some base)
    (gathered
      : BracketGathered start.entries (winnersSlice tier1.activeWinners) base base)
    (final : base.finalQueued
      → 1 < base.shardCount
        ∧ base.allShardsCollected
        ∧ base.activeFinalists.Pairwise (· < ·))
    : GroupsPinned start (winnersSlice tier1.activeWinners) base := by
  have into := promotion.into
  refine
    { found := found
      owned := promotion.owned.2
      unapplied := promotion.unapplied
      filled := into.count ▸ one_le_semifinalCount into.winning
      few := promotion.few
      disjoint := ?_
      drawn := fun k _ key member => promotion.entered key (winnersSlice_sublist.subset member)
      gathered := gathered
      final := final }
  rw [into.count]
  exact apart_slices into.winning into.ascending
    (allEntries_of_roundEntries promotion.entered)

/-- Nothing of the semifinals or the final exists or is in flight. -/
def SemifinalsUnused (deps : BracketRevealDeps) (count : Nat) (ledger : RevealLedger) : Prop :=
  (∀ k < count, ledger.results.lookup (.semifinal k) = none)
  ∧ (∀ k, ledger.computations.lookup (deps.freshOffset (.semifinal k)) = none)
  ∧ ledger.computations.lookup (deps.freshOffset (.shard finalShardIndex)) = none
  ∧ Idle ledger (.shard finalShardIndex)

theorem untouched_semifinals (apart : Function.Injective deps.freshOffset) {spec : TierSpec}
    {generation count : Nat}
    (semifinals : ∀ index, ∀ k < spec.count, spec.resultPda k ≠ .semifinal index)
    (final : ∀ k < spec.count, spec.resultPda k ≠ .shard finalShardIndex)
    : Untouched deps spec generation (SemifinalsUnused deps count) :=
  (Untouched.all fun k => Untouched.all fun _ => untouched_vacant (semifinals k)).and
    ((Untouched.all fun k => untouched_free (semifinals k) apart).and
      ((untouched_free final apart).and (untouched_idle final)))

theorem survives_semifinalsUnused (count : Nat) : Survives (SemifinalsUnused deps count) :=
  (Survives.all fun _ => Survives.all fun _ => survives_vacant _).and
    ((Survives.all fun _ => survives_free _).and ((survives_free _).and (survives_idle _)))

/-- The first tier was promoted into a bracket whose semifinals are all still to be played. -/
structure FreshSemifinals (deps : BracketRevealDeps) (sorted : List Pubkey)
    (tier1 : Tier1State) (base : BracketState) (ledger : RevealLedger) : Prop where
  tracked : Tracked ledger
  revealable : Revealable ledger sorted
  promotion : PinnedSemifinals ledger tier1 base
  pinned : GroupsPinned ledger (winnersSlice tier1.activeWinners) base
  ready : TierReady deps (semifinalSpec deps tier1 base) base.generation
    (winnersSlice tier1.activeWinners) false ledger
  aside : FinalAside deps base ledger
  several : 1 < base.shardCount

/-- A fully collected first tier is promoted. -/
theorem Tier1Gathered.promote {base : Tier1State} (allowed : Allowed deps.envs)
    (revealable : Revealable start sorted)
    (large : singleTierCapacity < sorted.length) (pinned : PinnedTier1 start sorted base)
    (known : Tier1Gathered start.entries (winnersSlice sorted) base tier1)
    (all : ∀ k < base.shardCount, tier1.shardDone[k]? = some true)
    (same : SameRound start ledger) (found : ledger.tier1 = some tier1)
    (tracked : Tracked ledger)
    (unused : SemifinalsUnused deps
      (semifinalCount (semifinalCount sorted.length * shardWinners)) ledger)
    : ∃ after promoted bracket,
        revealStep ledger ⟨deps.envs .promoteTier1, .promoteTier1⟩ = .ok after
        ∧ after.tier1 = some promoted
        ∧ after.bracket = some bracket
        ∧ FreshSemifinals deps sorted promoted bracket after := by
  have frame := known.frame
  have disjoint := revealable.disjoint
  have winners : tier1.winnerCount = semifinalCount sorted.length * shardWinners := by
    rw [← pinned.count]
    exact known.winnerCount_eq (fun k inside => disjoint.present k (pinned.count ▸ inside))
      (fun k inside => shardWinners_le_slice large (pinned.count ▸ inside)) all
  obtain ⟨several, fits, _⟩ := semifinals_of_large large revealable.fits
  rw [← winners] at several fits unused
  have winning : 1 ≤ tier1.winnerCount := by
    rw [winners]
    exact Nat.mul_pos (one_le_semifinalCount revealable.filled) (by decide)
  have owned : tier1.round = ledger.round.key := by
    rw [frame, same.round]
    exact pinned.owned
  let promoted : Tier1State := { tier1 with promoted := true }
  let bracket := ledger.freshBracket (semifinalSizes tier1.winnerCount)
    (semifinalBounds tier1) (semifinalCount tier1.winnerCount)
  let after : RevealLedger := { ledger with bracket := some bracket, tier1 := some promoted }
  have success : revealStep ledger ⟨deps.envs .promoteTier1, .promoteTier1⟩ = .ok after :=
    promoteTier1_eq_ok.mpr ⟨tier1,
      { unpaused := (allowed .promoteTier1).1
        found := found
        operator := (allowed .promoteTier1).2
        owned := owned
        unpromoted := by rw [frame]; exact pinned.unpromoted
        collected := known.complete all
        winners := winning
        fits := fits }, rfl⟩
  obtain ⟨vacant, free, freeFinal, idle⟩ := unused
  have tracking : Tracked after := tracked.quiet rfl rfl
  obtain ⟨order, gathered⟩ := known.gathered
  have promotion : PinnedSemifinals after promoted bracket :=
    { found := rfl
      promoted := rfl
      owned := ⟨owned, rfl⟩
      unapplied := rfl
      sorted := ⟨known.sorted.counted, known.sorted.ascending⟩
      into := slicedInto_freshBracket known.sorted winning fits
      entered := fun key member => by
        obtain ⟨k, _, belongs⟩ := gathered.mem member
        change key ∈ ledger.roundEntries
        rw [same.roundEntries]
        exact revealable.drawn belongs }
  have round : SameRound start after := ⟨same.round, same.entries⟩
  refine ⟨after, promoted, bracket, success, rfl, rfl, tracking, revealable.kept round,
    promotion, promotion.groups rfl bracketGathered_freshBracket nofun, ?_,
    ⟨freeFinal, nofun, fun _ => idle⟩, several⟩
  exact ⟨fun k _ => free k, fun _ k inside _ => answers_of_vacant tracking (vacant k inside) _ _,
    nofun⟩

/-- The planned first tier is revealed, collected and promoted. -/
theorem tier1_promotes {base : Tier1State} (allowed : Allowed deps.envs)
    (apart : Function.Injective deps.freshOffset) (prompt : Prompt deps)
    (revealable : Revealable start sorted) (planned : Planned sorted plan)
    (large : singleTierCapacity < sorted.length) (pinned : PinnedTier1 start sorted base)
    (found : start.tier1 = some base)
    (known : Tier1Gathered start.entries (winnersSlice sorted) base base) {forceRequeue : Bool}
    (ready : TierReady deps (tier1Spec deps plan) base.generation (winnersSlice sorted)
      forceRequeue start)
    (tracked : Tracked start)
    (unused : SemifinalsUnused deps
      (semifinalCount (semifinalCount sorted.length * shardWinners)) start)
    : ∃ collected after tier1 bracket,
        runTier deps (tier1Spec deps plan) forceRequeue start = .ok collected
        ∧ sendTx deps .promoteTier1 collected = .ok after
        ∧ after.tier1 = some tier1
        ∧ after.bracket = some bracket
        ∧ FreshSemifinals deps sorted tier1 bracket after := by
  have counted : (tier1Spec deps plan).count = base.shardCount :=
    planned.count.trans pinned.count.symm
  have untouched : Untouched deps (tier1Spec deps plan) base.generation
      (SemifinalsUnused deps (semifinalCount (semifinalCount sorted.length * shardWinners))) := by
    refine untouched_semifinals apart ?_ fun k inside same => ?_
    · rintro index k _ ⟨⟩
    · rw [counted] at inside
      have few := inside.trans_le pinned.few
      rw [ResultAddress.shard.inj same] at few
      exact absurd few (by decide)
  obtain ⟨collected, success, collecting⟩ := runTier_succeeds
    (tier1_contract allowed apart revealable planned pinned) untouched prompt ready tracked
    ⟨⟨rfl, rfl⟩, rfl, base, found, known⟩ unused
  obtain ⟨tracking, same, aside⟩ := ((survives_sameAccounts collected).and
    (survives_semifinalsUnused _)).land (deps.early collected) collecting.tracked
      ⟨.refl collected, collecting.aside⟩
  obtain ⟨tier1, stored, gathered⟩ := collecting.progressing.tier1
  have all : ∀ k < base.shardCount, tier1.shardDone[k]? = some true := by
    intro k inside
    have done : collected.tier1.map (·.shardDone[k]? == some true) = some true :=
      collecting.done k (counted ▸ inside) List.not_mem_nil
    rw [stored] at done
    simpa using done
  obtain ⟨after, promoted, bracket, accepted, here, there, fresh⟩ := gathered.promote allowed
    revealable large pinned all
    ⟨same.round.trans collecting.progressing.same.round,
      same.entries.trans collecting.progressing.same.entries⟩
    (same.tier1.trans stored) tracking aside
  exact ⟨collected, after, promoted, bracket, success, sendTx_of_step accepted, here, there,
    fresh⟩

end FirstTier

end SecretGarden.AutoCycle
