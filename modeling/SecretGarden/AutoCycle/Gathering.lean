import SecretGarden.AutoCycle.Planning
import SecretGarden.AutoCycle.Tiers
import SecretGarden.Bracket.Exactness

/-! The script's three tiers: planned shards, planned tier-1 shards, and semifinals.
Each gathers the podiums of its groups, in whatever order and from wherever an earlier run
stopped, and its instructions are accepted while it does.
-/

namespace SecretGarden.AutoCycle

open Foundation SecretGarden.Bracket

/-- A round that one reveal can hold, over by the time its entries are listed in order. -/
structure Revealable (start : RevealLedger) (sorted : List Pubkey) : Prop where
  ended : start.round.status = .closed ∨ start.round.status = .finalized
  unrevealed : start.round.scoringRevealed = false
  counted : start.round.scoredCount = start.round.participantCount
  scored : start.FullyScored
  filled : 1 ≤ sorted.length
  fits : sorted.length ≤ twoTierCapacity
  ascending : sorted.Pairwise (· < ·)
  same : sorted.Perm start.roundEntries
  participants : sorted.length = start.round.participantCount

/-- Nothing about the round changes what can be revealed. -/
theorem Revealable.kept {start ledger : RevealLedger} {sorted : List Pubkey}
    (revealable : Revealable start sorted) (same : SameRound start ledger)
    : Revealable ledger sorted := by
  constructor
  · rw [same.round]
    exact revealable.ended
  · rw [same.round]
    exact revealable.unrevealed
  · rw [same.round]
    exact revealable.counted
  · exact same.scored revealable.scored
  · exact revealable.filled
  · exact revealable.fits
  · exact revealable.ascending
  · rw [same.roundEntries]
    exact revealable.same
  · rw [same.round]
    exact revealable.participants

/-- A slice of sorted entries is drawn from the round. -/
theorem Revealable.drawn {start : RevealLedger} {sorted : List Pubkey}
    (revealable : Revealable start sorted) {k : Nat} {key : Pubkey}
    (member : key ∈ winnersSlice sorted k) : key ∈ start.roundEntries :=
  revealable.same.subset (winnersSlice_sublist.subset member)

--------------------------------------------------------------------------------
-- The bracket account
--------------------------------------------------------------------------------

/-- The bracket has recorded the podiums of its collected groups. -/
structure BracketGathered (entries : Store Pubkey CompetitionEntry) (groups : Nat → List Pubkey)
    (base bracket : BracketState) : Prop where
  frame : bracket = { base with
    shardsCollected := bracket.shardsCollected
    finalists := bracket.finalists
    finalistCount := bracket.finalistCount }
  counted : bracket.finalistCount ≤ maxFinalists
  gathered : ∃ order,
    Gathered entries groups base.shardCount (fun k => bracket.shardsCollected.testBit k)
      bracket.activeFinalists order

section Bracket

variable {entries : Store Pubkey CompetitionEntry} {groups : Nat → List Pubkey}
  {base bracket : BracketState}

theorem BracketGathered.length_activeFinalists (known : BracketGathered entries groups base bracket)
    : bracket.activeFinalists.length = bracket.finalistCount := by
  rw [BracketState.activeFinalists, List.length_take, Vector.length_toList,
    Nat.min_eq_left known.counted]

/-- A fresh bracket has recorded nothing yet. -/
theorem bracketGathered_freshBracket {ledger : RevealLedger} {shardSizes : Vector Nat maxShards}
    {shardBounds : Vector Pubkey maxShards} {shardCount : Nat}
    : BracketGathered entries groups (ledger.freshBracket shardSizes shardBounds shardCount)
        (ledger.freshBracket shardSizes shardBounds shardCount) :=
  ⟨rfl, Nat.zero_le _, gathered_freshBracket.imp fun _ => And.left⟩

/-- One more group's podium is recorded. -/
theorem BracketGathered.record (known : BracketGathered entries groups base bracket)
    (few : base.shardCount ≤ maxShards) {k : Nat} (inside : k < base.shardCount)
    (uncollected : bracket.shardsCollected.testBit k = false)
    : ∃ recorded,
        pushFinalists (podium entries (groups k)) bracket = .ok recorded
        ∧ BracketGathered entries groups base (markCollected recorded k) := by
  obtain ⟨order, gathered⟩ := known.gathered
  have absent : ¬ bracket.shardsCollected.testBit k := by simp [uncollected]
  have room := gathered.room absent inside
  rw [known.length_activeFinalists] at room
  have three := length_podium_le entries (groups k)
  have all : base.shardCount * shardWinners ≤ maxFinalists := Nat.mul_le_mul_right _ few
  have fits : bracket.finalistCount + (podium entries (groups k)).length ≤ maxFinalists := by
    omega
  have pushed := pushFinalists_eq_ok.mpr ⟨fun _ => fits, rfl⟩
  refine ⟨_, pushed, ?_, fits, order ++ [k], ?_⟩
  · rw [recorded_frame pushed, known.frame]
  · refine gathered.collect absent inside (fun j => testBit_markCollected) ?_
    have listed := activeFinalists_of_push known.counted pushed
    exact .of_eq listed

/-- Recording a group's winners marks the group and no other. -/
theorem testBit_collected {recorded : BracketState} {keys : List Pubkey} {j k : Nat}
    (pushed : pushFinalists keys bracket = .ok recorded)
    : (markCollected recorded k).shardsCollected.testBit j
      ↔ bracket.shardsCollected.testBit j ∨ j = k := by
  obtain ⟨_, rfl⟩ := pushFinalists_eq_ok.mp pushed
  exact testBit_markCollected

/-- With every group collected the bracket is complete. -/
theorem BracketGathered.complete (known : BracketGathered entries groups base bracket)
    (few : base.shardCount ≤ maxShards)
    (all : ∀ k < base.shardCount, bracket.shardsCollected.testBit k)
    : bracket.allShardsCollected := by
  obtain ⟨order, gathered⟩ := known.gathered
  have mask : bracket.shardsCollected = 2 ^ base.shardCount - 1 := by
    apply Nat.eq_of_testBit_eq
    intro k
    rw [Nat.testBit_two_pow_sub_one, Bool.eq_iff_iff, decide_eq_true_iff]
    exact ⟨fun marked => gathered.inside k ((gathered.marked k).mp marked), all k⟩
  have count : bracket.shardCount = base.shardCount := by rw [known.frame]
  have notMany : ¬ 8 ≤ base.shardCount := by
    simp only [maxShards] at few
    omega
  simp [BracketState.allShardsCollected, count, notMany, mask, Nat.shiftLeft_eq]

end Bracket

/-- The bracket gathers unless it is complete, and everything else about the round stays. -/
structure BracketProgress (start : RevealLedger) (groups : Nat → List Pubkey)
    (base : BracketState) (ledger : RevealLedger) : Prop where
  same : SameRound start ledger
  tier1 : ledger.tier1 = start.tier1
  settled : base.allShardsCollected → ledger.bracket = some base
  bracket : ∃ bracket,
    ledger.bracket = some bracket ∧ BracketGathered start.entries groups base bracket

section Shards

variable {deps : BracketRevealDeps} {start ledger : RevealLedger} {sorted : List Pubkey}
  {plan : BracketPlan} {base : BracketState}

theorem BracketProgress.kept {groups : Nat → List Pubkey} {before after : RevealLedger}
    (same : SameAccounts before after) (progress : BracketProgress start groups base before)
    : BracketProgress start groups base after := by
  obtain ⟨⟨round, entries⟩, tier1, settled, bracket, found, gathered⟩ := progress
  exact ⟨⟨same.round.trans round, same.entries.trans entries⟩, same.tier1.trans tier1,
    fun complete => same.bracket.trans (settled complete), bracket, same.bracket.trans found,
    gathered⟩

/-- While a shard is uncollected the bracket is not complete. -/
theorem BracketProgress.incomplete {groups : Nat → List Pubkey} {bracket : BracketState}
    (progress : BracketProgress start groups base ledger) (few : base.shardCount ≤ maxShards)
    {k : Nat} (inside : k < base.shardCount) (found : ledger.bracket = some bracket)
    (uncollected : bracket.shardsCollected.testBit k = false) : ¬ base.allShardsCollected := by
  intro complete
  cases found.symm.trans (progress.settled complete)
  exact not_allShardsCollected few inside uncollected complete

/-- The bracket that is there has gathered so far. -/
theorem BracketProgress.gathered_of_found {groups : Nat → List Pubkey} {bracket : BracketState}
    (progress : BracketProgress start groups base ledger)
    (found : ledger.bracket = some bracket)
    : BracketGathered start.entries groups base bracket := by
  obtain ⟨_, stored, gathered⟩ := progress.bracket
  cases found.symm.trans stored
  exact gathered

/-- A shard that the operator reads as uncollected has no mark on the bracket. -/
theorem unmarked_of_read {bracket : BracketState} {k : Nat} (found : ledger.bracket = some bracket)
    (read : ledger.bracket.map (·.shardsCollected.testBit k) = some false)
    : bracket.shardsCollected.testBit k = false := by
  rw [found] at read
  exact Option.some.inj read

/-- A bracket that recorded one more shard still gathers. -/
theorem BracketProgress.advance {groups : Nat → List Pubkey} {bracket after : BracketState}
    (progress : BracketProgress start groups base ledger) (few : base.shardCount ≤ maxShards)
    {k : Nat} (inside : k < base.shardCount) (found : ledger.bracket = some bracket)
    (uncollected : bracket.shardsCollected.testBit k = false)
    (advanced : BracketGathered start.entries groups base after)
    : BracketProgress start groups base { ledger with bracket := some after } := by
  refine ⟨⟨progress.same.round, progress.same.entries⟩, progress.tier1, ?_, after, rfl, advanced⟩
  exact fun complete =>
    absurd complete (progress.incomplete few inside found uncollected)

theorem Planned.entriesOf_eq (planned : Planned sorted plan) {k : Nat}
    (inside : k < plan.shards.length) : plan.entriesOf k = winnersSlice sorted k := by
  rw [BracketPlan.entriesOf, planned.shard (planned.count ▸ inside)]
  rfl

/-- The declared size of a planned shard is the length of its slice. -/
theorem size_of_layout {capacity : Nat} {shardSizes : Vector Nat capacity}
    {shardBounds : Vector Pubkey capacity} {shardCount : Nat}
    (filled : 1 ≤ sorted.length) (ascending : sorted.Pairwise (· < ·))
    (layout : layoutOf shardSizes shardBounds shardCount = plannedLayout sorted) {k : Nat}
    (inside : k < shardCount) (counted : shardCount = semifinalCount sorted.length)
    : shardSizes[k]? = some (winnersSlice sorted k).length := by
  have size := (plannedLayout_admits filled ascending (counted ▸ inside)).size
  rwa [← layout, layoutOf, List.getElem?_take_of_lt inside, Vector.getElem?_toList] at size

/-- Planned slices are no larger than a shard, and not empty. -/
theorem length_planned (filled : 1 ≤ sorted.length) {k : Nat}
    (inside : k < semifinalCount sorted.length)
    : minShardSize ≤ (winnersSlice sorted k).length
      ∧ (winnersSlice sorted k).length ≤ maxShardSize := by
  rw [length_winnersSlice inside]
  exact balancedSize_bounds filled

/-- The planned slice passes the placement of its shard. -/
theorem placed_of_layout {capacity : Nat} {shardSizes : Vector Nat capacity}
    {shardBounds : Vector Pubkey capacity} {shardCount : Nat}
    (filled : 1 ≤ sorted.length) (ascending : sorted.Pairwise (· < ·))
    (layout : layoutOf shardSizes shardBounds shardCount = plannedLayout sorted) {k : Nat}
    (inside : k < shardCount) (counted : shardCount = semifinalCount sorted.length)
    : Placed (shardPlace shardBounds shardCount k) 0 0 (winnersSlice sorted k) := by
  have occupied : winnersSlice sorted k ≠ [] := by
    have size := (length_planned filled (counted ▸ inside)).1
    rintro empty
    rw [empty] at size
    exact absurd size (by decide)
  refine (placed_iff_admits inside (size_of_layout filled ascending layout inside counted)
    occupied).mpr ?_
  rw [layout]
  exact plannedLayout_admits filled ascending (counted ▸ inside)

/-- The slices of a planned round are groups of its entries. -/
theorem Revealable.group (revealable : Revealable start sorted) {k : Nat}
    (inside : k < semifinalCount sorted.length) : ShardGroup start (winnersSlice sorted k) :=
  ⟨fun _ => revealable.drawn, revealable.ascending.sublist winnersSlice_sublist,
    (length_planned revealable.filled inside).2⟩

/-- A bracket pinned as planned, not applied yet. -/
structure PinnedBracket (start : RevealLedger) (sorted : List Pubkey) (base : BracketState)
    : Prop where
  owned : base.round = start.round.key
  unapplied : base.applied = false
  count : base.shardCount = semifinalCount sorted.length
  few : base.shardCount ≤ maxShards
  layout : layoutOf base.shardSizes base.shardBounds base.shardCount = plannedLayout sorted

/-- A planned shard has the declared size. -/
theorem PinnedBracket.size (pinned : PinnedBracket start sorted base)
    (revealable : Revealable start sorted) {k : Nat} (inside : k < base.shardCount)
    : base.shardSizes[k]? = some (winnersSlice sorted k).length :=
  size_of_layout revealable.filled revealable.ascending pinned.layout inside pinned.count

/-- A planned shard passes its placement. -/
theorem PinnedBracket.placed (pinned : PinnedBracket start sorted base)
    (revealable : Revealable start sorted) {k : Nat} (inside : k < base.shardCount)
    : Placed (shardPlace base.shardBounds base.shardCount k) 0 0 (winnersSlice sorted k) :=
  placed_of_layout revealable.filled revealable.ascending pinned.layout inside pinned.count

/-- A planned shard can be queued while the bracket gathers. -/
theorem BracketProgress.queueShard {env : Env} {offset k : Nat}
    (progress : BracketProgress start (winnersSlice sorted) base ledger)
    (pinned : PinnedBracket start sorted base) (revealable : Revealable start sorted)
    (allowed : env.config.paused = false ∧ isOperatorOrAuthority env.config env.signer)
    (inside : k < base.shardCount) (free : ledger.computations.lookup offset = none)
    : queueShardReveal env offset k (winnersSlice sorted k) ledger
      = .ok (ledger.queue offset (.shard k) base.generation
          (contenders ledger.entries (winnersSlice sorted k))) := by
  obtain ⟨bracket, found, gathered⟩ := progress.bracket
  have frame := gathered.frame
  have ordinary := ne_finalShardIndex inside pinned.few
  have group := (revealable.group (pinned.count ▸ inside)).kept progress.same
  have indexed : k < bracket.shardCount := by rw [frame]; exact inside
  have declared : bracket.shardSizes[k]? = some (winnersSlice sorted k).length := by
    rw [frame]
    exact pinned.size revealable inside
  have queued := queueShardReveal_eq_ok.mpr ⟨bracket,
    contenders ledger.entries (winnersSlice sorted k),
    { unpaused := allowed.1
      found := found
      operator := allowed.2
      owned := by rw [frame, progress.same.round]; exact pinned.owned
      unrevealed := by rw [progress.same.round]; exact revealable.unrevealed
      size := by
        rw [runSize, if_neg ordinary]
        exact bind_eq_ok.mpr ⟨(), require_eq_ok.mpr indexed, fetch_eq_ok.mpr declared⟩
      bounded := group.fits.trans (by decide)
      read := by
        rw [runPlace, if_neg ordinary, frame]
        exact group.reads (progress.same.scored revealable.scored) (by decide)
          (pinned.placed revealable inside) },
    free, rfl⟩
  -- a planned shard is not the final one, so queueing it leaves the bracket as it is
  have generation : base.generation = bracket.generation := by rw [frame]
  rw [queued, afterQueue, if_neg ordinary, ← found, generation]
  rfl

/-- A planned shard with a current result can be collected once while the bracket gathers. -/
theorem BracketProgress.collectShard {env : Env} {k : Nat} {bracket : BracketState}
    (progress : BracketProgress start (winnersSlice sorted) base ledger)
    (pinned : PinnedBracket start sorted base) (revealable : Revealable start sorted)
    (operator : isOperatorOrAuthority env.config env.signer) (inside : k < base.shardCount)
    (found : ledger.bracket = some bracket)
    (unmarked : bracket.shardsCollected.testBit k = false)
    (holds : Holds ledger (.shard k) base.generation (winnersSlice sorted k))
    : ∃ recorded,
        collectShardWinners env k (winnersSlice sorted k) ledger
          = .ok { ledger with bracket := some (markCollected recorded k) }
        ∧ BracketProgress start (winnersSlice sorted) base
            { ledger with bracket := some (markCollected recorded k) }
        ∧ ∀ j, (markCollected recorded k).shardsCollected.testBit j
          ↔ bracket.shardsCollected.testBit j ∨ j = k := by
  have gathered := progress.gathered_of_found found
  have frame := gathered.frame
  have group := (revealable.group (pinned.count ▸ inside)).kept progress.same
  obtain ⟨result, resulted, ready, clean, stamp, slots⟩ := holds
  obtain ⟨recorded, pushed, advanced⟩ := gathered.record pinned.few inside unmarked
  have picked := group.picks
  rw [← slots, progress.same.entries] at picked
  refine ⟨recorded, ?_, progress.advance pinned.few inside found unmarked advanced,
    fun j => testBit_collected pushed⟩
  exact collectShardWinners_eq_ok.mpr ⟨bracket, result,
    contenders ledger.entries (winnersSlice sorted k), recorded,
    { found := found
      resulted := resulted
      operator := operator
      owned := by rw [frame, progress.same.round]; exact pinned.owned
      indexed := by rw [frame]; exact inside
      ready := ready
      clean := clean
      current := by rw [stamp, frame]
      uncollected := unmarked
      size := by rw [frame]; exact pinned.size revealable inside
      read := by
        rw [frame]
        exact group.reads (progress.same.scored revealable.scored) le_rfl
          (pinned.placed revealable inside) },
    recordFinalists_eq_ok.mpr ⟨_, picked, pushed⟩, rfl⟩

/-- The shards of a planned bracket are queued and collected as the program wants them. -/
theorem singleTier_contract (allowed : Allowed deps.envs)
    (apart : Function.Injective deps.freshOffset) (revealable : Revealable start sorted)
    (planned : Planned sorted plan) (pinned : PinnedBracket start sorted base)
    : TierContract deps (singleTierSpec deps plan) base.generation (winnersSlice sorted)
        (BracketProgress start (winnersSlice sorted) base) := by
  have counted : (singleTierSpec deps plan).count = base.shardCount := by
    rw [pinned.count]
    exact planned.count
  constructor
  · exact BracketProgress.kept
  · exact fun same => funext fun k => by simp only [singleTierSpec, same.bracket]
  · exact fun j k same => ResultAddress.shard.inj (apart same)
  · intro ledger k progress inside free
    have entries := planned.entriesOf_eq inside
    rw [counted] at inside
    change queueShardReveal _ (deps.freshOffset (.shard k)) k (plan.entriesOf k) ledger = _
    rw [entries]
    exact progress.queueShard pinned revealable (allowed _) inside free
  · intro ledger k progress
    obtain ⟨bracket, found, _⟩ := progress.bracket
    exact ⟨_, congrArg (Option.map _) found⟩
  · intro ledger k progress inside uncollected holds
    have entries := planned.entriesOf_eq inside
    rw [counted] at inside
    obtain ⟨bracket, found, _⟩ := progress.bracket
    have unmarked := unmarked_of_read found uncollected
    obtain ⟨recorded, collected, progressed, marks⟩ := progress.collectShard pinned revealable
      (allowed ((singleTierSpec deps plan).collect k)).2 inside found unmarked holds
    refine ⟨_, ?_, progressed, ⟨rfl, rfl, rfl⟩, fun j => ?_⟩
    · change collectShardWinners _ k (plan.entriesOf k) ledger = _
      rw [entries]
      exact collected
    · simp only [singleTierSpec, found, Option.map_some, Option.some.injEq]
      exact marks j

end Shards

--------------------------------------------------------------------------------
-- The first tier
--------------------------------------------------------------------------------

/-- The first tier has recorded the podiums of its collected groups. -/
structure Tier1Gathered (entries : Store Pubkey CompetitionEntry) (groups : Nat → List Pubkey)
    (base tier1 : Tier1State) : Prop where
  frame : tier1 = { base with
    winners := tier1.winners
    winnerCount := tier1.winnerCount
    shardDone := tier1.shardDone }
  sorted : SortedWinners tier1
  gathered : ∃ order,
    Gathered entries groups base.shardCount (fun k => tier1.shardDone[k]? = some true)
      tier1.activeWinners order

/-- Groups of entries that share none. -/
structure ApartGroups (entries : Store Pubkey CompetitionEntry) (groups : Nat → List Pubkey)
    (count : Nat) : Prop where
  present : ∀ k < count, AllEntries entries (groups k)
  unique : ∀ k < count, (groups k).Nodup
  apart : ∀ j < count, ∀ k < count, j ≠ k → (groups j).Disjoint (groups k)

section Tier1

variable {entries : Store Pubkey CompetitionEntry} {groups : Nat → List Pubkey}
  {base tier1 : Tier1State}

/-- A fresh first tier has recorded nothing yet. -/
theorem tier1Gathered_freshTier1 {round : CompetitionRound}
    {shardSizes : Vector Nat maxTier1Shards} {shardBounds : Vector Pubkey maxTier1Shards}
    {shardCount slot : Nat}
    : Tier1Gathered entries groups (freshTier1 round shardSizes shardBounds shardCount slot)
        (freshTier1 round shardSizes shardBounds shardCount slot) := by
  have vacant : (freshTier1 round shardSizes shardBounds shardCount slot).activeWinners = [] :=
    activeWinners_freshTier1
  refine ⟨rfl, ⟨Nat.zero_le _, by rw [vacant]; exact .nil⟩, [], ?_⟩
  rw [vacant]
  refine Gathered.empty fun k done => ?_
  obtain ⟨_, value⟩ := Vector.getElem?_eq_some_iff.mp done
  simp [freshTier1] at value

/-- One more group's podium is inserted: there is room for it, and its keys are new. -/
theorem Tier1Gathered.record (known : Tier1Gathered entries groups base tier1)
    (few : base.shardCount ≤ maxTier1Shards) (disjoint : ApartGroups entries groups base.shardCount)
    {k : Nat} (inside : k < base.shardCount) (uncollected : tier1.shardDone[k]? = some false)
    : ∃ recorded,
        insertWinners tier1 (podium entries (groups k)) = some recorded
        ∧ Tier1Gathered entries groups base (markDone recorded k)
        ∧ ∀ j, (markDone recorded k).shardDone[j]? = some true
          ↔ tier1.shardDone[j]? = some true ∨ j = k := by
  obtain ⟨order, gathered⟩ := known.gathered
  have absent : ¬ tier1.shardDone[k]? = some true := by simp [uncollected]
  have room := gathered.room absent inside
  rw [known.sorted.length_activeWinners] at room
  have three := length_podium_le entries (groups k)
  have all : base.shardCount * shardWinners ≤ maxTier1Winners := Nat.mul_le_mul_right _ few
  have joined : Gathered entries groups base.shardCount
      (fun j => tier1.shardDone[j]? = some true ∨ j = k)
      (tier1.activeWinners ++ podium entries (groups k)) (order ++ [k]) :=
    gathered.collect absent inside (fun _ => Iff.rfl) (.refl _)
  have distinct := joined.nodup disjoint.present disjoint.unique disjoint.apart
  obtain ⟨recorded, inserted⟩ := known.sorted.insertWinners_succeeds (by omega) distinct
  have kept := known.sorted.insertWinners inserted
  have done : recorded.shardDone = tier1.shardDone := by rw [kept.frame]
  have marks : ∀ j, (markDone recorded k).shardDone[j]? = some true
      ↔ tier1.shardDone[j]? = some true ∨ j = k := by
    intro j
    rw [shardDone_markDone (inside.trans_le few), done]
  refine ⟨recorded, inserted, ⟨?_, ⟨kept.sorted.counted, kept.sorted.ascending⟩, order ++ [k],
    gathered.collect absent inside marks kept.members⟩, marks⟩
  rw [markDone, kept.frame, known.frame]

/-- Groups of at least three have three winners each. -/
theorem Tier1Gathered.winnerCount_eq (known : Tier1Gathered entries groups base tier1)
    (present : ∀ k < base.shardCount, AllEntries entries (groups k))
    (three : ∀ k < base.shardCount, shardWinners ≤ (groups k).length)
    (all : ∀ k < base.shardCount, tier1.shardDone[k]? = some true)
    : tier1.winnerCount = base.shardCount * shardWinners := by
  obtain ⟨order, gathered⟩ := known.gathered
  have podiums : (order.map fun k => (podium entries (groups k)).length)
      = order.map fun _ => shardWinners := by
    refine List.map_congr_left fun k member => ?_
    have inside := gathered.inside k member
    exact (length_podium (present k inside)).trans (Nat.min_eq_left (three k inside))
  rw [← known.sorted.length_activeWinners, gathered.members.length_eq, List.length_flatMap,
    podiums, List.map_const', List.sum_replicate_nat, (gathered.order_perm all).length_eq,
    List.length_range]

/-- With every group collected the winners can be promoted. -/
theorem Tier1Gathered.complete (known : Tier1Gathered entries groups base tier1)
    (all : ∀ k < base.shardCount, tier1.shardDone[k]? = some true)
    : tier1.allShardsCollected := by
  have count : tier1.shardCount = base.shardCount := by rw [known.frame]
  rw [Tier1State.allShardsCollected, count, List.all_eq_true]
  intro flag listed
  obtain ⟨j, found⟩ := List.mem_iff_getElem?.mp listed
  have inside : j < base.shardCount := by
    by_contra outside
    rw [List.getElem?_take, if_neg outside] at found
    cases found
  rw [List.getElem?_take_of_lt inside, Vector.getElem?_toList, all j inside] at found
  exact (Option.some.inj found).symm

end Tier1

/-- The first tier gathers, and everything else about the round stays. -/
structure Tier1Advance (start : RevealLedger) (groups : Nat → List Pubkey)
    (base : Tier1State) (ledger : RevealLedger) : Prop where
  same : SameRound start ledger
  bracket : ledger.bracket = start.bracket
  tier1 : ∃ tier1,
    ledger.tier1 = some tier1 ∧ Tier1Gathered start.entries groups base tier1

theorem Tier1Advance.kept {start before after : RevealLedger} {groups : Nat → List Pubkey}
    {base : Tier1State} (same : SameAccounts before after)
    (progress : Tier1Advance start groups base before)
    : Tier1Advance start groups base after := by
  obtain ⟨⟨round, entries⟩, bracket, tier1, found, gathered⟩ := progress
  exact ⟨⟨same.round.trans round, same.entries.trans entries⟩, same.bracket.trans bracket,
    tier1, same.tier1.trans found, gathered⟩

/-- The first tier that is there has gathered so far. -/
theorem Tier1Advance.gathered_of_found {start ledger : RevealLedger}
    {groups : Nat → List Pubkey} {base tier1 : Tier1State}
    (progress : Tier1Advance start groups base ledger) (found : ledger.tier1 = some tier1)
    : Tier1Gathered start.entries groups base tier1 := by
  obtain ⟨_, stored, gathered⟩ := progress.tier1
  cases found.symm.trans stored
  exact gathered

/-- A first tier pinned as planned, not promoted yet. -/
structure PinnedTier1 (start : RevealLedger) (sorted : List Pubkey) (base : Tier1State)
    : Prop where
  owned : base.round = start.round.key
  unpromoted : base.promoted = false
  count : base.shardCount = semifinalCount sorted.length
  few : base.shardCount ≤ maxTier1Shards
  layout : layoutOf base.shardSizes base.shardBounds base.shardCount = plannedLayout sorted

section FirstTier

variable {deps : BracketRevealDeps} {start ledger : RevealLedger} {sorted : List Pubkey}
  {plan : BracketPlan} {base : Tier1State}

/-- The slices of ascending entries share none. -/
theorem apart_slices {entries : Store Pubkey CompetitionEntry} {winners : List Pubkey}
    (filled : 1 ≤ winners.length) (ascending : winners.Pairwise (· < ·))
    (present : AllEntries entries winners)
    : ApartGroups entries (winnersSlice winners) (semifinalCount winners.length) := by
  constructor
  · exact fun k _ key member => present key (winnersSlice_sublist.subset member)
  · exact fun k _ => (ascending.sublist winnersSlice_sublist).imp ne_of_lt
  · intro j first k second apart
    have unique : winners.Nodup := ascending.imp ne_of_lt
    rcases Nat.lt_or_gt_of_ne apart with before | after
    · exact winnersSlice_disjoint filled unique before second
    · exact fun key here there => winnersSlice_disjoint filled unique after first there here

/-- The slices of a round share no entry. -/
theorem Revealable.disjoint (revealable : Revealable start sorted)
    : ApartGroups start.entries (winnersSlice sorted) (semifinalCount sorted.length) :=
  apart_slices revealable.filled revealable.ascending
    (allEntries_of_roundEntries fun _ member => revealable.same.subset member)

/-- A planned tier-1 shard has the declared size. -/
theorem PinnedTier1.size (pinned : PinnedTier1 start sorted base)
    (revealable : Revealable start sorted) {k : Nat} (inside : k < base.shardCount)
    : base.shardSizes[k]? = some (winnersSlice sorted k).length :=
  size_of_layout revealable.filled revealable.ascending pinned.layout inside pinned.count

/-- A planned tier-1 shard passes its placement. -/
theorem PinnedTier1.placed (pinned : PinnedTier1 start sorted base)
    (revealable : Revealable start sorted) {k : Nat} (inside : k < base.shardCount)
    : Placed (shardPlace base.shardBounds base.shardCount k) 0 0 (winnersSlice sorted k) :=
  placed_of_layout revealable.filled revealable.ascending pinned.layout inside pinned.count

/-- A planned tier-1 shard is playable while the first tier gathers. -/
theorem Tier1Advance.playable {k : Nat} {tier1 : Tier1State}
    (progress : Tier1Advance start (winnersSlice sorted) base ledger)
    (pinned : PinnedTier1 start sorted base) (revealable : Revealable start sorted)
    (inside : k < base.shardCount) (found : ledger.tier1 = some tier1)
    : ShardPlayable ledger tier1 k (winnersSlice sorted k) := by
  have frame := (progress.gathered_of_found found).frame
  have group := revealable.group (pinned.count ▸ inside)
  constructor
  · exact found
  · rw [frame, progress.same.round]
    exact pinned.owned
  · rw [frame]
    exact pinned.unpromoted
  · rw [progress.same.round]
    exact revealable.unrevealed
  · exact progress.same.scored revealable.scored
  · rw [frame]
    exact inside
  · rw [frame]
    exact pinned.size revealable inside
  · exact group.kept progress.same
  · rw [frame]
    exact pinned.placed revealable inside

/-- A planned tier-1 shard with a current result can be collected once. -/
theorem Tier1Advance.collectShard {env : Env} {k : Nat} {tier1 : Tier1State}
    (progress : Tier1Advance start (winnersSlice sorted) base ledger)
    (pinned : PinnedTier1 start sorted base) (revealable : Revealable start sorted)
    (operator : isOperatorOrAuthority env.config env.signer) (inside : k < base.shardCount)
    (found : ledger.tier1 = some tier1) (unmarked : tier1.shardDone[k]? = some false)
    (holds : Holds ledger (.shard k) base.generation (winnersSlice sorted k))
    : ∃ recorded,
        collectTier1Winners env k (winnersSlice sorted k) ledger
          = .ok { ledger with tier1 := some (markDone recorded k) }
        ∧ Tier1Advance start (winnersSlice sorted) base
            { ledger with tier1 := some (markDone recorded k) }
        ∧ ∀ j, (markDone recorded k).shardDone[j]? = some true
          ↔ tier1.shardDone[j]? = some true ∨ j = k := by
  have gathered := progress.gathered_of_found found
  have playable := progress.playable pinned revealable inside found
  obtain ⟨result, resulted, ready, clean, stamp, slots⟩ := holds
  have current : result.generation = tier1.generation := by rw [stamp, gathered.frame]
  obtain ⟨recorded, inserted, advanced, marks⟩ := gathered.record pinned.few
    (pinned.count ▸ revealable.disjoint) inside unmarked
  have advance : Tier1Advance start (winnersSlice sorted) base
      { ledger with tier1 := some (markDone recorded k) } :=
    ⟨⟨progress.same.round, progress.same.entries⟩, progress.bracket, _, rfl, advanced⟩
  rw [← progress.same.entries] at inserted
  exact ⟨recorded, playable.collect operator unmarked inserted resulted ready clean current slots,
    advance, marks⟩

/-- The shards of a planned first tier are queued and collected as the program wants them. -/
theorem tier1_contract (allowed : Allowed deps.envs)
    (apart : Function.Injective deps.freshOffset) (revealable : Revealable start sorted)
    (planned : Planned sorted plan) (pinned : PinnedTier1 start sorted base)
    : TierContract deps (tier1Spec deps plan) base.generation (winnersSlice sorted)
        (Tier1Advance start (winnersSlice sorted) base) := by
  have counted : (tier1Spec deps plan).count = base.shardCount := by
    rw [pinned.count]
    exact planned.count
  constructor
  · exact Tier1Advance.kept
  · exact fun same => funext fun k => by simp only [tier1Spec, same.tier1]
  · exact fun j k same => ResultAddress.shard.inj (apart same)
  · intro ledger k progress inside free
    have entries := planned.entriesOf_eq inside
    rw [counted] at inside
    change queueTier1ShardReveal _ (deps.freshOffset (.shard k)) k (plan.entriesOf k) ledger = _
    obtain ⟨tier1, found, gathered⟩ := progress.tier1
    have generation : base.generation = tier1.generation := by rw [gathered.frame]
    rw [entries, generation]
    exact (progress.playable pinned revealable inside found).queue (allowed _) free
  · intro ledger k progress
    obtain ⟨tier1, found, _⟩ := progress.tier1
    exact ⟨_, congrArg (Option.map _) found⟩
  · intro ledger k progress inside uncollected holds
    have entries := planned.entriesOf_eq inside
    rw [counted] at inside
    obtain ⟨tier1, found, _⟩ := progress.tier1
    have unmarked : tier1.shardDone[k]? = some false := by
      have read : ledger.tier1.map (·.shardDone[k]? == some true) = some false := uncollected
      rw [found, Option.map_some, Option.some.injEq,
        Vector.getElem?_eq_getElem (inside.trans_le pinned.few)] at read
      rw [Vector.getElem?_eq_getElem (inside.trans_le pinned.few)]
      simpa using read
    obtain ⟨recorded, collected, progressed, marks⟩ := progress.collectShard pinned revealable
      (allowed ((tier1Spec deps plan).collect k)).2 inside found unmarked holds
    refine ⟨_, ?_, progressed, ⟨rfl, rfl, rfl⟩, fun j => ?_⟩
    · change collectTier1Winners _ k (plan.entriesOf k) ledger = _
      rw [entries]
      exact collected
    · simpa [tier1Spec, found] using marks j

end FirstTier

--------------------------------------------------------------------------------
-- Semifinals
--------------------------------------------------------------------------------

section Semifinals

variable {deps : BracketRevealDeps} {start ledger : RevealLedger} {sorted : List Pubkey}
  {tier1 : Tier1State} {base : BracketState}

/-- A promoted bracket over the winners of its first tier, not applied yet. -/
structure PinnedSemifinals (start : RevealLedger) (tier1 : Tier1State) (base : BracketState)
    : Prop where
  found : start.tier1 = some tier1
  promoted : tier1.promoted
  owned : tier1.round = start.round.key ∧ base.round = start.round.key
  unapplied : base.applied = false
  sorted : SortedWinners tier1
  into : SlicedInto base tier1.activeWinners
  entered : ∀ key ∈ tier1.activeWinners, key ∈ start.roundEntries

theorem PinnedSemifinals.few (pinned : PinnedSemifinals start tier1 base)
    : base.shardCount ≤ maxShards :=
  pinned.into.count.trans_le pinned.into.fits

/-- The script reads the slice of a semifinal off the stored sizes. -/
theorem PinnedSemifinals.sliceFor_eq (pinned : PinnedSemifinals start tier1 base) {k : Nat}
    (inside : k < base.shardCount)
    : sliceFor tier1 base k = winnersSlice tier1.activeWinners k := by
  rw [sliceFor, pinned.into.storedStart_eq inside.le, pinned.into.size_eq inside]
  rfl

/-- The semifinals are playable while the bracket gathers. -/
theorem BracketProgress.playable {bracket : BracketState}
    (progress : BracketProgress start (winnersSlice tier1.activeWinners) base ledger)
    (pinned : PinnedSemifinals start tier1 base) (revealable : Revealable start sorted)
    (found : ledger.bracket = some bracket) : SemifinalsPlayable ledger tier1 bracket := by
  have frame := (progress.gathered_of_found found).frame
  have into := pinned.into
  constructor
  · exact progress.tier1.trans pinned.found
  · exact found
  · rw [frame, progress.same.round]
    exact pinned.owned
  · exact pinned.promoted
  · rw [progress.same.round]
    exact revealable.unrevealed
  · exact progress.same.scored revealable.scored
  · exact pinned.sorted
  · rw [progress.same.roundEntries]
    exact pinned.entered
  · rw [frame]
    exact ⟨into.winning, into.fits, into.count, into.sizes, into.ascending⟩

/-- A semifinal with a current result can be collected once while the bracket gathers. -/
theorem BracketProgress.collectSemifinal {env : Env} {k : Nat} {bracket : BracketState}
    (progress : BracketProgress start (winnersSlice tier1.activeWinners) base ledger)
    (pinned : PinnedSemifinals start tier1 base) (revealable : Revealable start sorted)
    (operator : isOperatorOrAuthority env.config env.signer) (inside : k < base.shardCount)
    (found : ledger.bracket = some bracket)
    (unmarked : bracket.shardsCollected.testBit k = false)
    (holds : Holds ledger (.semifinal k) base.generation (winnersSlice tier1.activeWinners k))
    : ∃ recorded,
        collectSemifinalWinners env k ledger
          = .ok { ledger with bracket := some (markCollected recorded k) }
        ∧ BracketProgress start (winnersSlice tier1.activeWinners) base
            { ledger with bracket := some (markCollected recorded k) }
        ∧ ∀ j, (markCollected recorded k).shardsCollected.testBit j
          ↔ bracket.shardsCollected.testBit j ∨ j = k := by
  have gathered := progress.gathered_of_found found
  have playable := progress.playable pinned revealable found
  obtain ⟨result, resulted, ready, clean, stamp, slots⟩ := holds
  have indexed : k < bracket.shardCount := by rw [gathered.frame]; exact inside
  have current : result.generation = bracket.generation := by rw [stamp, gathered.frame]
  obtain ⟨recorded, pushed, advanced⟩ := gathered.record pinned.few inside unmarked
  refine ⟨recorded, ?_, progress.advance pinned.few inside found unmarked advanced,
    fun j => testBit_collected pushed⟩
  rw [← progress.same.entries] at pushed
  exact playable.collect operator indexed unmarked pushed resulted ready clean current slots

/-- The semifinals are queued and collected as the program wants them. -/
theorem semifinal_contract (allowed : Allowed deps.envs)
    (apart : Function.Injective deps.freshOffset) (revealable : Revealable start sorted)
    (pinned : PinnedSemifinals start tier1 base)
    : TierContract deps (semifinalSpec deps tier1 base) base.generation
        (winnersSlice tier1.activeWinners)
        (BracketProgress start (winnersSlice tier1.activeWinners) base) := by
  constructor
  · exact BracketProgress.kept
  · exact fun same => funext fun k => by simp only [semifinalSpec, same.bracket]
  · exact fun j k same => ResultAddress.semifinal.inj (apart same)
  · intro ledger k progress inside free
    change k < base.shardCount at inside
    change queueSemifinalReveal _ (deps.freshOffset (.semifinal k)) k (sliceFor tier1 base k)
      ledger = _
    obtain ⟨bracket, found, gathered⟩ := progress.bracket
    have indexed : k < bracket.shardCount := by rw [gathered.frame]; exact inside
    have generation : base.generation = bracket.generation := by rw [gathered.frame]
    rw [pinned.sliceFor_eq inside, generation]
    exact (progress.playable pinned revealable found).queue (allowed _) indexed free
  · intro ledger k progress
    obtain ⟨bracket, found, _⟩ := progress.bracket
    exact ⟨_, congrArg (Option.map _) found⟩
  · intro ledger k progress inside uncollected holds
    change k < base.shardCount at inside
    obtain ⟨bracket, found, _⟩ := progress.bracket
    have unmarked := unmarked_of_read found uncollected
    obtain ⟨recorded, collected, progressed, marks⟩ := progress.collectSemifinal pinned revealable
      (allowed ((semifinalSpec deps tier1 base).collect k)).2 inside found unmarked holds
    refine ⟨_, collected, progressed, ⟨rfl, rfl, rfl⟩, fun j => ?_⟩
    simp only [semifinalSpec, found, Option.map_some, Option.some.injEq]
    exact marks j

end Semifinals

end SecretGarden.AutoCycle
