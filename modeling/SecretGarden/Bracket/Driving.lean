import SecretGarden.Bracket.Exactness

/-! Driving a two-tier round to its end.
The documented sequence over a partition of the round's entries: every tier-1 shard, the
promotion, every semifinal, the final where one is needed, the apply. All of it succeeds,
except that one semifinal alone leaves the apply to a result of the first tier.
-/

namespace SecretGarden.Bracket

open Foundation

section Sequence

-- the environment each instruction is submitted in, and the offset of each computation
variable (envs : RevealInstruction → Env) (offset : Partition → ResultAddress → Nat)

def submit (instruction : RevealInstruction) (ledger : RevealLedger) : Outcome RevealLedger :=
  revealStep ledger ⟨envs instruction, instruction⟩

/-- Queue, deliver and collect tier-1 shard `k`. -/
def driveTier1Shard (layout : Layout Pubkey) (k : Nat) (ledger : RevealLedger)
    : Outcome RevealLedger := do
  let accounts := layout.interval ledger.roundEntries k
  let computationOffset := offset .tier1 (.shard k)
  let queued ← submit envs (.queueTier1ShardReveal computationOffset k accounts) ledger
  let delivered ← submit envs (.revealTop3V5Callback computationOffset true) queued
  submit envs (.collectTier1Winners k accounts) delivered

/-- Queue, deliver and collect semifinal `k`. -/
def driveSemifinal (k : Nat) (ledger : RevealLedger) : Outcome RevealLedger := do
  let tier1 ← fetch ledger.tier1 .accountNotInitialized
  let accounts := winnersSlice tier1.activeWinners k
  let computationOffset := offset .bracket (.semifinal k)
  let queued ← submit envs (.queueSemifinalReveal computationOffset k accounts) ledger
  let delivered ← submit envs (.revealTop3V5Callback computationOffset true) queued
  submit envs (.collectSemifinalWinners k) delivered

/-- Queue and deliver the final, where the bracket needs one. -/
def driveFinal (ledger : RevealLedger) : Outcome RevealLedger := do
  let bracket ← fetch ledger.bracket .accountNotInitialized
  if bracket.needsFinalReveal then do
    let accounts := bracket.activeFinalists.insertionSort (· ≤ ·)
    let computationOffset := offset .bracket (.shard finalShardIndex)
    let queued ← submit envs (.queueShardReveal computationOffset finalShardIndex accounts) ledger
    submit envs (.revealTop3V5Callback computationOffset true) queued
  else pure ledger

/-- Apply from the first shard's result when there is one shard, from the final otherwise. -/
def driveApply (ledger : RevealLedger) : Outcome RevealLedger := do
  let bracket ← fetch ledger.bracket .accountNotInitialized
  submit envs (.applyBracketResult (if bracket.shardCount = 1 then 0 else finalShardIndex)) ledger

/-- The documented sequence of a two-tier round. -/
def driveTwoTier (shardSizes : Vector Nat maxTier1Shards)
    (shardBounds : Vector Pubkey maxTier1Shards) (shardCount : Nat) (ledger : RevealLedger)
    : Outcome RevealLedger := do
  let pinned ← submit envs (.initTier1Bracket shardSizes shardBounds shardCount) ledger
  let layout := layoutOf shardSizes shardBounds shardCount
  let collected ← inOrder (driveTier1Shard envs offset layout) shardCount pinned
  let promoted ← submit envs .promoteTier1 collected
  let bracket ← fetch promoted.bracket .accountNotInitialized
  let gathered ← inOrder (driveSemifinal envs offset) bracket.shardCount promoted
  let finished ← driveFinal envs offset gathered
  driveApply envs finished

end Sequence

/-- One run was queued and delivered: its result account holds the circuit's output under
the given stamp, and nothing else changed but finished computations.
-/
structure Revealed (before after : RevealLedger) (target : ResultAddress) (generation : Nat)
    (accounts : List Pubkey) : Prop where
  round : after.round = before.round
  entries : after.entries = before.entries
  tier1 : after.tier1 = before.tier1
  held : ∃ result, after.results.lookup target = some result
    ∧ result.ready
    ∧ result.errorCode = 0
    ∧ result.generation = generation
    ∧ result.slots = revealedSlots before.entries accounts
  others : ∀ other, other ≠ target → after.results.lookup other = before.results.lookup other
  free : ∀ computationOffset, before.computations.lookup computationOffset = none
    → after.computations.lookup computationOffset = none

/-- A queued run is delivered by its callback; `bracket` is what the queue left there. -/
theorem delivers (ledger : RevealLedger) (computationOffset generation : Nat)
    (target : ResultAddress) (accounts : List Pubkey) (bracket : Option BracketState)
    : ∃ after,
        revealTop3V5Callback computationOffset true
          { ledger.queue computationOffset target generation
              (contenders ledger.entries accounts) with bracket := bracket } = .ok after
        ∧ Revealed ledger after target generation accounts
        ∧ after.bracket = bracket := by
  refine ⟨_, revealTop3V5Callback_eq_ok.mpr ⟨_, _, AList.lookup_insert _, AList.lookup_insert _,
    rfl, rfl⟩, ?_, rfl⟩
  constructor
  · rfl
  · rfl
  · rfl
  · exact ⟨_, AList.lookup_insert _, rfl, rfl, rfl, slots_deliveredResult _ _⟩
  · intro other apart
    rw [AList.lookup_insert_ne apart, RevealLedger.queue, AList.lookup_insert_ne apart]
  · intro other unused
    rw [Store.lookup_erase_apply, RevealLedger.queue, Store.lookup_insert_apply]
    by_cases here : other = computationOffset <;> simp [here, unused]

/-- Every entry of the round is scored. -/
def RevealLedger.FullyScored (ledger : RevealLedger) : Prop :=
  ∀ key ∈ ledger.roundEntries, ∀ entry ∈ ledger.entries.lookup key, entry.scored

instance (ledger : RevealLedger) : Decidable ledger.FullyScored :=
  inferInstanceAs (Decidable (∀ key ∈ ledger.roundEntries, ∀ entry ∈ ledger.entries.lookup key,
    entry.scored))

/-- Placed accounts of the round can be read. -/
theorem runRead_contenders {ledger : RevealLedger} {capacity : Nat} {scoredOnly : Bool}
    {place : (i : Nat) → (prev key : Pubkey) → Outcome Unit} {prev : Pubkey}
    {accounts : List Pubkey}
    (scored : ledger.FullyScored) (entered : ∀ key ∈ accounts, key ∈ ledger.roundEntries)
    (fits : accounts.length ≤ capacity) (placed : Placed place 0 prev accounts)
    : RunRead ledger.entries ledger.round.key capacity scoredOnly place 0 prev accounts
        (contenders ledger.entries accounts) := by
  have found : ∀ contender ∈ contenders ledger.entries accounts,
      contender.1 ∈ accounts ∧ ledger.entries.lookup contender.1 = some contender.2 := by
    intro contender listed
    obtain ⟨key, given, made⟩ := List.mem_filterMap.mp listed
    obtain ⟨entry, held, rfl⟩ := Option.map_eq_some_iff.mp made
    exact ⟨given, held⟩
  constructor
  · exact contenders_keys (allEntries_of_roundEntries entered)
  · intro contender listed
    obtain ⟨given, held⟩ := found contender listed
    obtain ⟨entry, stored, own⟩ := Store.mem_keysWhere.mp (entered _ given)
    rw [held] at stored
    cases stored
    exact ⟨held, by simpa using own⟩
  · intro _ contender listed
    obtain ⟨given, held⟩ := found contender listed
    exact scored _ (entered _ given) contender.2 held
  · intro position within
    omega
  · exact placed

/-- The round and its entries are as they were. -/
structure SameRound (start ledger : RevealLedger) : Prop where
  round : ledger.round = start.round
  entries : ledger.entries = start.entries

theorem SameRound.roundEntries {start ledger : RevealLedger} (same : SameRound start ledger)
    : ledger.roundEntries = start.roundEntries := by
  rw [RevealLedger.roundEntries, same.round, same.entries, RevealLedger.roundEntries]

theorem SameRound.scored {start ledger : RevealLedger} (same : SameRound start ledger)
    (scored : start.FullyScored) : ledger.FullyScored := by
  rw [RevealLedger.FullyScored, same.roundEntries, same.entries]
  exact scored

/-- Entries of the round, in order, that one shard can hold. -/
structure ShardGroup (ledger : RevealLedger) (keys : List Pubkey) : Prop where
  drawn : ∀ key ∈ keys, key ∈ ledger.roundEntries
  ascending : keys.Pairwise (· < ·)
  fits : keys.length ≤ maxShardSize

section Groups

variable {start ledger : RevealLedger} {keys : List Pubkey}

theorem ShardGroup.kept (group : ShardGroup start keys) (same : SameRound start ledger)
    : ShardGroup ledger keys :=
  ⟨fun key member => same.roundEntries ▸ group.drawn key member, group.ascending, group.fits⟩

/-- The accounts of a group can be read. -/
theorem ShardGroup.reads {capacity : Nat} {scoredOnly : Bool}
    {place : (i : Nat) → (prev key : Pubkey) → Outcome Unit} {prev : Pubkey}
    (group : ShardGroup ledger keys) (scored : ledger.FullyScored)
    (room : maxShardSize ≤ capacity) (placed : Placed place 0 prev keys)
    : RunRead ledger.entries ledger.round.key capacity scoredOnly place 0 prev keys
        (contenders ledger.entries keys) :=
  runRead_contenders scored group.drawn (group.fits.trans room) placed

/-- The circuit's output on a group names its podium. -/
theorem ShardGroup.picks (group : ShardGroup ledger keys)
    : pickWinners keys keys.length
        ((revealedSlots ledger.entries keys).take (min shardWinners keys.length))
      = .ok (podium ledger.entries keys) :=
  pickWinners_revealedSlots (allEntries_of_roundEntries group.drawn) group.ascending
    (group.fits.trans (by decide))

end Groups

/-- Every submission is made by an operator while the game runs. -/
def Allowed (envs : RevealInstruction → Env) : Prop :=
  ∀ instruction, (envs instruction).config.paused = false
    ∧ isOperatorOrAuthority (envs instruction).config (envs instruction).signer

--------------------------------------------------------------------------------
-- The first tier
--------------------------------------------------------------------------------

section Tier1

variable {start ledger : RevealLedger} {envs : RevealInstruction → Env}
  {offset : Partition → ResultAddress → Nat} {shardSizes : Vector Nat maxTier1Shards}
  {shardBounds : Vector Pubkey maxTier1Shards} {shardCount slot : Nat}

/-- The tier-1 account after `k` shards. -/
structure Tier1Progress (start : RevealLedger) (shardSizes : Vector Nat maxTier1Shards)
    (shardBounds : Vector Pubkey maxTier1Shards) (shardCount slot k : Nat)
    (tier1 : Tier1State) : Prop where
  frame : tier1 = { freshTier1 start.round shardSizes shardBounds shardCount slot with
    winners := tier1.winners
    winnerCount := tier1.winnerCount
    shardDone := tier1.shardDone }
  done : ∀ j < maxTier1Shards, tier1.shardDone[j]? = some (decide (j < k))
  sorted : SortedWinners tier1
  counted : tier1.winnerCount = ((shardSizes.toList.take k).map (min shardWinners)).sum
  drawn : ∀ key ∈ tier1.activeWinners, ∃ j < k,
    key ∈ (layoutOf shardSizes shardBounds shardCount).interval start.roundEntries j

/-- The ledger after `k` tier-1 shards; the first shard's result stays as it was stamped. -/
structure Tier1Driven (start : RevealLedger) (offset : Partition → ResultAddress → Nat)
    (shardSizes : Vector Nat maxTier1Shards) (shardBounds : Vector Pubkey maxTier1Shards)
    (shardCount slot k : Nat) (ledger : RevealLedger) : Prop where
  round : ledger.round = start.round
  entries : ledger.entries = start.entries
  bracket : ledger.bracket = start.bracket
  free : ∀ partition target, ledger.computations.lookup (offset partition target) = none
  first : 0 < k → ∃ result, ledger.results.lookup (.shard 0) = some result
    ∧ result.ready
    ∧ result.errorCode = 0
    ∧ result.generation = slot % generationModulus
  tier1 : ∃ tier1, ledger.tier1 = some tier1
    ∧ Tier1Progress start shardSizes shardBounds shardCount slot k tier1

/-- A shard of a checked partition has its declared size. -/
theorem size_interval {k : Nat}
    (checked : LayoutChecked shardSizes shardBounds shardCount start.round.participantCount)
    (splits : (layoutOf shardSizes shardBounds shardCount).Splits start.roundEntries)
    (inside : k < shardCount)
    : shardSizes[k]? = some
        ((layoutOf shardSizes shardBounds shardCount).interval start.roundEntries k).length := by
  have declared := (splits.admits (checked.length_bounds.symm ▸ inside)).size
  rwa [layoutOf, List.getElem?_take_of_lt inside, Vector.getElem?_toList] at declared

/-- The entries of a shard of a checked partition. -/
theorem group_interval {k : Nat}
    (checked : LayoutChecked shardSizes shardBounds shardCount start.round.participantCount)
    (splits : (layoutOf shardSizes shardBounds shardCount).Splits start.roundEntries)
    (inside : k < shardCount)
    : ShardGroup start
        ((layoutOf shardSizes shardBounds shardCount).interval start.roundEntries k) :=
  ⟨fun _ member => (Layout.mem_interval.mp member).1,
    (splits.admits (checked.length_bounds.symm ▸ inside)).ascending,
    (checked.size_bounds inside (size_interval checked splits inside)).2⟩

/-- A shard of a checked partition is placed in its bounds. -/
theorem placed_interval {k : Nat}
    (checked : LayoutChecked shardSizes shardBounds shardCount start.round.participantCount)
    (splits : (layoutOf shardSizes shardBounds shardCount).Splits start.roundEntries)
    (inside : k < shardCount)
    : Placed (shardPlace shardBounds shardCount k) 0 0
        ((layoutOf shardSizes shardBounds shardCount).interval start.roundEntries k) := by
  have size := size_interval checked splits inside
  have small := (checked.size_bounds inside size).1
  refine (placed_iff_admits inside size fun vacant => ?_).mpr
    (splits.admits (checked.length_bounds.symm ▸ inside))
  rw [vacant] at small
  exact absurd small (by decide)

/-- Recording a shard's podium advances the tier-1 account: the keys are new, since
intervals are disjoint.
-/
theorem Tier1Progress.record {tier1 : Tier1State} {k : Nat}
    (progress : Tier1Progress start shardSizes shardBounds shardCount slot k tier1)
    (checked : LayoutChecked shardSizes shardBounds shardCount start.round.participantCount)
    (roomy : ((shardSizes.toList.take shardCount).map (min shardWinners)).sum ≤ maxTier1Winners)
    (splits : (layoutOf shardSizes shardBounds shardCount).Splits start.roundEntries)
    (inside : k < shardCount)
    : ∃ recorded,
        insertWinners tier1 (podium start.entries
          ((layoutOf shardSizes shardBounds shardCount).interval start.roundEntries k))
          = some recorded
        ∧ Tier1Progress start shardSizes shardBounds shardCount slot (k + 1)
            (markDone recorded k) := by
  let layout := layoutOf shardSizes shardBounds shardCount
  let interval := layout.interval start.roundEntries
  have bounds : layout.bounds.length = shardCount := checked.length_bounds
  have entered : ∀ j, ∀ key ∈ interval j, key ∈ start.roundEntries :=
    fun j key member => (Layout.mem_interval.mp member).1
  have size : shardSizes[k]? = some (interval k).length := size_interval checked splits inside
  have added : (podium start.entries (interval k)).length = min shardWinners (interval k).length :=
    length_podium (allEntries_of_roundEntries (entered k))
  have total : ((shardSizes.toList.take (k + 1)).map (min shardWinners)).sum
      = tier1.winnerCount + (podium start.entries (interval k)).length := by
    rw [List.take_add_one, Vector.getElem?_toList, size, progress.counted, added]
    simp
  have fits : tier1.winnerCount + (podium start.entries (interval k)).length
      ≤ maxTier1Winners := by
    rw [← total]
    refine le_trans ?_ roomy
    apply List.Sublist.sum_le_sum
    · exact (List.take_sublist_take_left (Nat.succ_le_of_lt inside)).map _
    · exact fun _ _ => Nat.zero_le _
  have distinct : (tier1.activeWinners ++ podium start.entries (interval k)).Nodup := by
    rw [List.nodup_append]
    refine ⟨progress.sorted.ascending.imp ne_of_lt, ?_, ?_⟩
    · exact podium_nodup (allEntries_of_roundEntries (entered k))
        ((layout.interval_ascending splits.nodup k).imp ne_of_lt)
    · rintro key earlier _ chosen rfl
      obtain ⟨j, before, member⟩ := progress.drawn key earlier
      exact splits.disjoint (bounds.symm ▸ before.trans inside) (bounds.symm ▸ inside)
        before.ne member (mem_of_mem_podium chosen)
  obtain ⟨recorded, inserted⟩ := progress.sorted.insertWinners_succeeds fits distinct
  have kept := progress.sorted.insertWinners inserted
  refine ⟨recorded, inserted, ?_, ?_, ⟨kept.sorted.counted, kept.sorted.ascending⟩, ?_, ?_⟩
  · have frame : WinnersOnly tier1 recorded := kept.frame
    rw [WinnersOnly, progress.frame] at frame
    rw [frame]
    rfl
  · intro j stored
    have before := progress.done j stored
    rw [markDone, kept.frame, Vector.getElem?_setIfInBounds]
    by_cases here : k = j
    · subst here
      simp [stored]
    · have same : j < k + 1 ↔ j < k := by omega
      rw [if_neg here, before]
      simp [same]
  · change recorded.winnerCount = _
    rw [total, ← kept.sorted.length_activeWinners, kept.members.length_eq, List.length_append,
      progress.sorted.length_activeWinners]
  · intro key member
    change key ∈ recorded.activeWinners at member
    rcases List.mem_append.mp (kept.members.mem_iff.mp member) with earlier | chosen
    · obtain ⟨j, before, drawn⟩ := progress.drawn key earlier
      exact ⟨j, before.trans (Nat.lt_succ_self k), drawn⟩
    · exact ⟨k, Nat.lt_succ_self k, mem_of_mem_podium chosen⟩

/-- A tier-1 shard whose entries are known, in a scored round that is not revealed yet. -/
structure ShardPlayable (ledger : RevealLedger) (tier1 : Tier1State) (k : Nat)
    (accounts : List Pubkey) : Prop where
  found : ledger.tier1 = some tier1
  owned : tier1.round = ledger.round.key
  unpromoted : tier1.promoted = false
  unrevealed : ledger.round.scoringRevealed = false
  scored : ledger.FullyScored
  indexed : k < tier1.shardCount
  size : tier1.shardSizes[k]? = some accounts.length
  group : ShardGroup ledger accounts
  placed : Placed (shardPlace tier1.shardBounds tier1.shardCount k) 0 0 accounts

/-- Its reveal can be queued. -/
theorem ShardPlayable.queue {tier1 : Tier1State} {env : Env} {computationOffset k : Nat}
    {accounts : List Pubkey} (playable : ShardPlayable ledger tier1 k accounts)
    (allowed : env.config.paused = false ∧ isOperatorOrAuthority env.config env.signer)
    (free : ledger.computations.lookup computationOffset = none)
    : queueTier1ShardReveal env computationOffset k accounts ledger
      = .ok (ledger.queue computationOffset (.shard k) tier1.generation
          (contenders ledger.entries accounts)) :=
  queueTier1ShardReveal_eq_ok.mpr ⟨tier1, contenders ledger.entries accounts,
    { unpaused := allowed.1
      found := playable.found
      operator := allowed.2
      owned := playable.owned
      unpromoted := playable.unpromoted
      unrevealed := playable.unrevealed
      indexed := playable.indexed
      size := playable.size
      read := playable.group.reads playable.scored (by decide) playable.placed },
    free, rfl⟩

/-- Its podium can be collected once the result is there. -/
theorem ShardPlayable.collect {tier1 recorded : Tier1State} {env : Env} {k : Nat}
    {accounts : List Pubkey} {result : RevealTop3V3Result}
    (playable : ShardPlayable ledger tier1 k accounts)
    (operator : isOperatorOrAuthority env.config env.signer)
    (uncollected : tier1.shardDone[k]? = some false)
    (inserted : insertWinners tier1 (podium ledger.entries accounts) = some recorded)
    (resulted : ledger.results.lookup (.shard k) = some result) (ready : result.ready)
    (clean : result.errorCode = 0) (stamp : result.generation = tier1.generation)
    (slots : result.slots = revealedSlots ledger.entries accounts)
    : collectTier1Winners env k accounts ledger
      = .ok { ledger with tier1 := some (markDone recorded k) } := by
  have picked := playable.group.picks
  rw [← slots] at picked
  exact collectTier1Winners_eq_ok.mpr ⟨tier1, result, contenders ledger.entries accounts, recorded,
    { found := playable.found
      resulted := resulted
      operator := operator
      ready := ready
      clean := clean
      owned := playable.owned
      unpromoted := playable.unpromoted
      current := stamp
      indexed := playable.indexed
      uncollected := uncollected
      size := playable.size
      read := playable.group.reads playable.scored le_rfl playable.placed },
    recordWinners_eq_ok.mpr ⟨_, picked, inserted⟩, rfl⟩

/-- The next shard of a checked partition is playable. -/
theorem Tier1Progress.playable {tier1 : Tier1State} {k : Nat}
    (progress : Tier1Progress start shardSizes shardBounds shardCount slot k tier1)
    (same : SameRound start ledger) (found : ledger.tier1 = some tier1)
    (scored : start.FullyScored) (unrevealed : start.round.scoringRevealed = false)
    (checked : LayoutChecked shardSizes shardBounds shardCount start.round.participantCount)
    (splits : (layoutOf shardSizes shardBounds shardCount).Splits start.roundEntries)
    (inside : k < shardCount)
    : ShardPlayable ledger tier1 k
        ((layoutOf shardSizes shardBounds shardCount).interval start.roundEntries k) := by
  have frame := progress.frame
  constructor
  · exact found
  · rw [frame, same.round]
    rfl
  · rw [frame]
    rfl
  · rw [same.round]
    exact unrevealed
  · exact same.scored scored
  · rw [frame]
    exact inside
  · rw [frame]
    exact size_interval checked splits inside
  · exact (group_interval checked splits inside).kept same
  · rw [frame]
    exact placed_interval checked splits inside

/-- Each tier-1 shard can be queued, delivered and collected in turn. -/
theorem Tier1Driven.shard (allowed : Allowed envs) (scored : start.FullyScored)
    (unrevealed : start.round.scoringRevealed = false)
    (checked : LayoutChecked shardSizes shardBounds shardCount start.round.participantCount)
    (roomy : ((shardSizes.toList.take shardCount).map (min shardWinners)).sum ≤ maxTier1Winners)
    (splits : (layoutOf shardSizes shardBounds shardCount).Splits start.roundEntries)
    {k : Nat} (inside : k < shardCount)
    (driven : Tier1Driven start offset shardSizes shardBounds shardCount slot k ledger)
    : ∃ after,
        driveTier1Shard envs offset (layoutOf shardSizes shardBounds shardCount) k ledger
          = .ok after
        ∧ Tier1Driven start offset shardSizes shardBounds shardCount slot (k + 1) after := by
  obtain ⟨tier1, found, progress⟩ := driven.tier1
  let accounts := (layoutOf shardSizes shardBounds shardCount).interval start.roundEntries k
  have generation : tier1.generation = slot % generationModulus := by rw [progress.frame]; rfl
  have same : SameRound start ledger := ⟨driven.round, driven.entries⟩
  have playable := progress.playable same found scored unrevealed checked splits inside
  have queued := playable.queue
    (allowed (.queueTier1ShardReveal (offset .tier1 (.shard k)) k accounts))
    (driven.free .tier1 (.shard k))
  obtain ⟨delivered, success, revealed, bracket⟩ := delivers ledger
    (offset .tier1 (.shard k)) tier1.generation (.shard k) accounts ledger.bracket
  obtain ⟨result, resulted, present, clean, stamp, slots⟩ := revealed.held
  have still : SameRound start delivered :=
    ⟨revealed.round.trans driven.round, revealed.entries.trans driven.entries⟩
  have current := progress.playable still (revealed.tier1.trans found) scored unrevealed checked
    splits inside
  obtain ⟨recorded, inserted, advanced⟩ := progress.record checked roomy splits inside
  rw [← still.entries] at inserted
  rw [← revealed.entries] at slots
  have collected := current.collect (allowed (.collectTier1Winners k accounts)).2
    (by simpa using progress.done k (inside.trans_le checked.bounded)) inserted resulted present
    clean stamp slots
  refine ⟨{ delivered with tier1 := some (markDone recorded k) }, ?_, still.round, still.entries,
    bracket.trans driven.bracket, fun partition target => revealed.free _ (driven.free _ _),
    fun _ => ?_, _, rfl, advanced⟩
  · rw [driveTier1Shard, same.roundEntries]
    exact bind_eq_ok.mpr ⟨_, queued, bind_eq_ok.mpr ⟨_, success, collected⟩⟩
  rcases Nat.eq_zero_or_pos k with rfl | positive
  · exact ⟨result, resulted, present, clean, stamp.trans generation⟩
  · obtain ⟨first, held, stale⟩ := driven.first positive
    have apart : ResultAddress.shard 0 ≠ .shard k := by
      rintro ⟨⟩
      exact absurd positive (lt_irrefl 0)
    exact ⟨first, (revealed.others _ apart).trans held, stale⟩

/-- With every tier-1 shard collected the winners can be promoted. -/
theorem Tier1Progress.ready {tier1 : Tier1State}
    (progress : Tier1Progress start shardSizes shardBounds shardCount slot shardCount tier1)
    (checked : LayoutChecked shardSizes shardBounds shardCount start.round.participantCount)
    : tier1.allShardsCollected ∧ 1 ≤ tier1.winnerCount := by
  have count : tier1.shardCount = shardCount := by rw [progress.frame]; rfl
  constructor
  · rw [Tier1State.allShardsCollected, count, List.all_eq_true]
    intro flag listed
    obtain ⟨j, found⟩ := List.mem_iff_getElem?.mp listed
    have inside : j < shardCount := by
      by_contra outside
      rw [List.getElem?_take, if_neg outside] at found
      cases found
    rw [List.getElem?_take_of_lt inside, Vector.getElem?_toList,
      progress.done j (inside.trans_le checked.bounded)] at found
    simpa [inside] using (Option.some.inj found).symm
  · rw [progress.counted]
    have inside : 0 < shardCount := checked.nonempty
    have stored : 0 < shardSizes.toList.length := by
      rw [Vector.length_toList]
      exact inside.trans_le checked.bounded
    have listed : shardSizes.toList[0] ∈ shardSizes.toList.take shardCount := by
      apply List.mem_of_getElem? (i := 0)
      rw [List.getElem?_take_of_lt inside, List.getElem?_eq_getElem stored]
    have filled := (checked.sizes _ listed).1
    have one : 1 ≤ min shardWinners shardSizes.toList[0] := by
      simp only [minShardSize, shardWinners, revealTopK] at filled ⊢
      omega
    exact one.trans (List.single_le_sum (fun _ _ => Nat.zero_le _) _
      (List.mem_map_of_mem listed))

end Tier1

--------------------------------------------------------------------------------
-- The endgame
--------------------------------------------------------------------------------

section Endgame

variable {ledger : RevealLedger} {bracket : BracketState} {env : Env} {accounts : List Pubkey}
  {result : RevealTop3V3Result}

/-- A fully collected bracket of a scored round that is not revealed yet. -/
structure EndgameReached (ledger : RevealLedger) (bracket : BracketState) : Prop where
  found : ledger.bracket = some bracket
  owned : bracket.round = ledger.round.key
  unapplied : bracket.applied = false
  collected : bracket.allShardsCollected
  counted : bracket.finalistCount ≤ maxFinalists
  drawn : ∀ key ∈ bracket.activeFinalists, key ∈ ledger.roundEntries
  unrevealed : ledger.round.scoringRevealed = false
  scored : ledger.FullyScored

theorem EndgameReached.length_activeFinalists (reached : EndgameReached ledger bracket)
    : bracket.activeFinalists.length = bracket.finalistCount := by
  rw [BracketState.activeFinalists, List.length_take, Vector.length_toList,
    Nat.min_eq_left reached.counted]

/-- The finalists in ascending order are the run of the final. -/
theorem EndgameReached.sortedRun (reached : EndgameReached ledger bracket)
    (several : 1 < bracket.shardCount) (unique : bracket.activeFinalists.Nodup)
    : FinalRun bracket (bracket.activeFinalists.insertionSort (· ≤ ·)) := by
  have arranged : (bracket.activeFinalists.insertionSort (· ≤ ·)).Perm bracket.activeFinalists :=
    List.perm_insertionSort _ _
  exact ⟨by simpa [BracketState.needsFinalReveal] using several, reached.collected,
    reached.unapplied, arranged.length_eq.trans reached.length_activeFinalists,
    insertionSort_ascending unique, fun key => arranged.mem_iff.mp⟩

/-- The run of the final is queued. -/
theorem EndgameReached.queue_final (reached : EndgameReached ledger bracket)
    (final : FinalRun bracket accounts) (unpaused : env.config.paused = false)
    (operator : isOperatorOrAuthority env.config env.signer) {computationOffset : Nat}
    (free : ledger.computations.lookup computationOffset = none)
    : queueShardReveal env computationOffset finalShardIndex accounts ledger
      = .ok { ledger.queue computationOffset (.shard finalShardIndex) bracket.generation
            (contenders ledger.entries accounts) with
          bracket := some (afterQueue bracket finalShardIndex accounts) } := by
  have bounded : accounts.length ≤ maxFinalists := final.counted.trans_le reached.counted
  refine queueShardReveal_eq_ok.mpr ⟨bracket, contenders ledger.entries accounts,
    { unpaused := unpaused
      found := reached.found
      operator := operator
      owned := reached.owned
      unrevealed := reached.unrevealed
      size := ?_
      bounded := bounded.trans (by decide)
      read := ?_ }, free, rfl⟩
  · rw [runSize, if_pos rfl, final.counted]
    simp [final.needed, final.collected, final.unapplied, require, bind, Except.bind, pure,
      Except.pure]
  · rw [runPlace, if_pos rfl]
    exact runRead_contenders reached.scored
      (fun key member => reached.drawn key (final.members key member))
      (bounded.trans (by decide)) (placed_final.mpr ⟨final.ascending, final.members⟩)

/-- The queued final leaves its run as the finalists. -/
theorem EndgameReached.afterQueue (reached : EndgameReached ledger bracket)
    (final : FinalRun bracket accounts) {after : RevealLedger}
    (round : after.round = ledger.round) (entries : after.entries = ledger.entries)
    (found : after.bracket = some (afterQueue bracket finalShardIndex accounts))
    : EndgameReached after (Bracket.afterQueue bracket finalShardIndex accounts) := by
  have same : SameRound ledger after := ⟨round, entries⟩
  have frame := afterQueue_frame bracket finalShardIndex accounts
  constructor
  · exact found
  · rw [frame, round]
    exact reached.owned
  · rw [frame]
    exact reached.unapplied
  · rw [frame]
    exact reached.collected
  · rw [frame]
    exact reached.counted
  · rw [final.activeFinalists_afterQueue reached.counted, same.roundEntries]
    exact fun key member => reached.drawn key (final.members key member)
  · rw [round]
    exact reached.unrevealed
  · exact same.scored reached.scored

/-- A ready result from which the winners are resolved is applied. -/
theorem EndgameReached.applied (reached : EndgameReached ledger bracket) {resultIndex : Nat}
    {top : List Pubkey} (operator : isOperatorOrAuthority env.config env.signer)
    (resulted : ledger.results.lookup (.shard resultIndex) = some result)
    (ready : result.ready) (clean : result.errorCode = 0)
    (current : result.generation = bracket.generation)
    (resolved : resolveTop bracket result resultIndex = .ok top)
    : ∃ after, applyBracketResult env resultIndex ledger = .ok after
        ∧ after.round.scoringRevealed :=
  ⟨_, applyBracketResult_eq_ok.mpr ⟨bracket, result, top,
    { found := reached.found
      resulted := resulted
      operator := operator
      owned := reached.owned
      unapplied := reached.unapplied
      collected := reached.collected
      ready := ready
      clean := clean
      current := current
      unrevealed := reached.unrevealed }, resolved, rfl⟩, rfl⟩

/-- The result of a queued final over ascending finalists is applied. -/
theorem EndgameReached.apply_final (reached : EndgameReached ledger bracket)
    (operator : isOperatorOrAuthority env.config env.signer) (many : bracket.shardCount ≠ 1)
    (queued : bracket.finalQueued) (ascending : bracket.activeFinalists.Pairwise (· < ·))
    (resulted : ledger.results.lookup (.shard finalShardIndex) = some result)
    (ready : result.ready) (clean : result.errorCode = 0)
    (current : result.generation = bracket.generation)
    (slots : result.slots = revealedSlots ledger.entries bracket.activeFinalists)
    : ∃ after, applyBracketResult env finalShardIndex ledger = .ok after
        ∧ after.round.scoringRevealed := by
  have fits : bracket.activeFinalists.length ≤ maxParticipants := by
    rw [reached.length_activeFinalists]
    exact reached.counted.trans (by decide)
  have picked := pickWinners_revealedSlots (allEntries_of_roundEntries reached.drawn) ascending
    fits
  rw [reached.length_activeFinalists, ← slots, ← take_slots] at picked
  exact reached.applied operator resulted ready clean current
    ((resolveTop_many many).mpr ⟨rfl, queued, picked⟩)

/-- A bracket of one shard is applied from that shard's result. -/
theorem EndgameReached.apply_single (reached : EndgameReached ledger bracket)
    (operator : isOperatorOrAuthority env.config env.signer) (one : bracket.shardCount = 1)
    (unqueued : bracket.finalQueued = false)
    (resulted : ledger.results.lookup (.shard 0) = some result)
    (ready : result.ready) (clean : result.errorCode = 0)
    (current : result.generation = bracket.generation)
    : ∃ after, applyBracketResult env 0 ledger = .ok after
        ∧ after.round.scoringRevealed :=
  reached.applied operator resulted ready clean current
    ((resolveTop_single one).mpr ⟨rfl, unqueued, rfl⟩)

end Endgame

--------------------------------------------------------------------------------
-- Semifinals
--------------------------------------------------------------------------------

section Semifinals

variable {start ledger : RevealLedger} {envs : RevealInstruction → Env}
  {offset : Partition → ResultAddress → Nat} {tier1 : Tier1State}
  {base bracket : BracketState}

/-- The bracket after `k` semifinals. -/
structure SemifinalProgress (tier1 : Tier1State) (base : BracketState) (k : Nat)
    (bracket : BracketState) : Prop where
  frame : bracket = { base with
    shardsCollected := 2 ^ k - 1
    finalists := bracket.finalists
    finalistCount := bracket.finalistCount }
  counted : bracket.finalistCount ≤ k * shardWinners
  unique : bracket.activeFinalists.Nodup
  drawn : ∀ key ∈ bracket.activeFinalists, ∃ j < k, key ∈ winnersSlice tier1.activeWinners j

/-- The ledger after `k` semifinals of a promoted bracket. -/
structure SemifinalsDriven (start : RevealLedger) (offset : Partition → ResultAddress → Nat)
    (tier1 : Tier1State) (base : BracketState) (slot k : Nat) (ledger : RevealLedger)
    : Prop where
  round : ledger.round = start.round
  entries : ledger.entries = start.entries
  winners : ledger.tier1 = some tier1
  free : ∀ partition target, ledger.computations.lookup (offset partition target) = none
  first : ∃ result, ledger.results.lookup (.shard 0) = some result
    ∧ result.ready
    ∧ result.errorCode = 0
    ∧ result.generation = slot % generationModulus
  bracket : ∃ bracket, ledger.bracket = some bracket ∧ SemifinalProgress tier1 base k bracket

/-- Collecting one more shard in order fills the next bit. -/
theorem collected_succ (k : Nat) : (2 ^ k - 1) ||| 1 <<< k = 2 ^ (k + 1) - 1 := by
  apply Nat.eq_of_testBit_eq
  intro j
  rw [Nat.testBit_or, Nat.shiftLeft_eq, Nat.one_mul, Nat.testBit_two_pow,
    Nat.testBit_two_pow_sub_one, Nat.testBit_two_pow_sub_one]
  rcases Nat.lt_trichotomy j k with before | here | after
  · simp [before, before.trans (Nat.lt_succ_self k)]
  · simp [here]
  · have outside : ¬ j < k := by omega
    have beyond : ¬ j < k + 1 := by omega
    have apart : k ≠ j := by omega
    simp [outside, beyond, apart]

/-- Recording a semifinal's podium advances the bracket: it holds three finalists for every
semifinal, and slices are disjoint.
-/
theorem SemifinalProgress.record {entries : Store Pubkey CompetitionEntry} {k : Nat}
    (progress : SemifinalProgress tier1 base k bracket)
    (into : SlicedInto base tier1.activeWinners)
    (present : AllEntries entries tier1.activeWinners)
    (inside : k < base.shardCount)
    : ∃ recorded,
        pushFinalists (podium entries (winnersSlice tier1.activeWinners k)) bracket
          = .ok recorded
        ∧ SemifinalProgress tier1 base (k + 1) (markCollected recorded k) := by
  let slice := winnersSlice tier1.activeWinners k
  have among : AllEntries entries slice :=
    fun key member => present key (winnersSlice_sublist.subset member)
  have playing : k < semifinalCount tier1.activeWinners.length := into.count ▸ inside
  have few : k < maxShards := playing.trans_le into.fits
  have three : (podium entries slice).length ≤ shardWinners := by
    rw [length_podium among]
    exact Nat.min_le_left _ _
  have fits : bracket.finalistCount + (podium entries slice).length ≤ maxFinalists := by
    have counted := progress.counted
    simp only [shardWinners, revealTopK, maxFinalists, maxShards] at counted three few ⊢
    omega
  have counted : bracket.finalistCount ≤ maxFinalists := by omega
  have pushed := pushFinalists_eq_ok.mpr ⟨fun _ => fits, rfl⟩
  have finalists := activeFinalists_of_push counted pushed
  refine ⟨_, pushed, ?_, ?_, ?_, ?_⟩
  · rw [progress.frame]
    simp only [markCollected, appendFinalists, collected_succ]
  · change bracket.finalistCount + (podium entries slice).length ≤ _
    have earlier := progress.counted
    rw [Nat.succ_mul]
    omega
  · change (appendFinalists bracket (podium entries slice)).activeFinalists.Nodup
    rw [finalists, List.nodup_append]
    refine ⟨progress.unique, podium_nodup among
      ((into.ascending.sublist winnersSlice_sublist).imp ne_of_lt), ?_⟩
    rintro key earlier _ chosen rfl
    obtain ⟨j, before, member⟩ := progress.drawn key earlier
    exact winnersSlice_disjoint into.winning (into.ascending.imp ne_of_lt) before playing
      member (mem_of_mem_podium chosen)
  · intro key member
    change key ∈ (appendFinalists bracket (podium entries slice)).activeFinalists at member
    rw [finalists] at member
    rcases List.mem_append.mp member with earlier | chosen
    · obtain ⟨j, before, drawn⟩ := progress.drawn key earlier
      exact ⟨j, before.trans (Nat.lt_succ_self k), drawn⟩
    · exact ⟨k, Nat.lt_succ_self k, mem_of_mem_podium chosen⟩

/-- A bracket of semifinals over the promoted winners of its first tier, in a scored round
that is not revealed yet.
-/
structure SemifinalsPlayable (ledger : RevealLedger) (tier1 : Tier1State) (bracket : BracketState)
    : Prop where
  foundTier1 : ledger.tier1 = some tier1
  found : ledger.bracket = some bracket
  owned : tier1.round = ledger.round.key ∧ bracket.round = ledger.round.key
  promoted : tier1.promoted
  unrevealed : ledger.round.scoringRevealed = false
  scored : ledger.FullyScored
  sorted : SortedWinners tier1
  entered : ∀ key ∈ tier1.activeWinners, key ∈ ledger.roundEntries
  into : SlicedInto bracket tier1.activeWinners

/-- The slices of the winners are groups of the round's entries. -/
theorem SemifinalsPlayable.group (playable : SemifinalsPlayable ledger tier1 bracket) {k : Nat}
    (inside : k < bracket.shardCount) : ShardGroup ledger (winnersSlice tier1.activeWinners k) :=
  ⟨fun key member => playable.entered key (winnersSlice_sublist.subset member),
    playable.into.ascending.sublist winnersSlice_sublist, playable.into.slice_le inside⟩

/-- The reveal of a semifinal can be queued. -/
theorem SemifinalsPlayable.queue {env : Env} {computationOffset k : Nat}
    (playable : SemifinalsPlayable ledger tier1 bracket)
    (allowed : env.config.paused = false ∧ isOperatorOrAuthority env.config env.signer)
    (inside : k < bracket.shardCount)
    (free : ledger.computations.lookup computationOffset = none)
    : queueSemifinalReveal env computationOffset k (winnersSlice tier1.activeWinners k) ledger
      = .ok (ledger.queue computationOffset (.semifinal k) bracket.generation
          (contenders ledger.entries (winnersSlice tier1.activeWinners k))) :=
  queueSemifinalReveal_eq_ok.mpr ⟨tier1, bracket, contenders ledger.entries _,
    { unpaused := allowed.1
      foundTier1 := playable.foundTier1
      found := playable.found
      operator := allowed.2
      owned := playable.owned
      promoted := playable.promoted
      unrevealed := playable.unrevealed
      indexed := inside
      size := playable.into.size_slice inside
      read := by
        refine (playable.group inside).reads playable.scored (by decide) ?_
        rw [placed_semifinal, Nat.add_zero]
        exact playable.into.take_stored playable.sorted inside },
    free, rfl⟩

/-- The podium of a semifinal can be collected once the result is there. -/
theorem SemifinalsPlayable.collect {env : Env} {k : Nat} {recorded : BracketState}
    {result : RevealTop3V3Result} (playable : SemifinalsPlayable ledger tier1 bracket)
    (operator : isOperatorOrAuthority env.config env.signer) (inside : k < bracket.shardCount)
    (uncollected : bracket.shardsCollected.testBit k = false)
    (pushed
      : pushFinalists (podium ledger.entries (winnersSlice tier1.activeWinners k)) bracket
        = .ok recorded)
    (resulted : ledger.results.lookup (.semifinal k) = some result) (ready : result.ready)
    (clean : result.errorCode = 0) (stamp : result.generation = bracket.generation)
    (slots : result.slots = revealedSlots ledger.entries (winnersSlice tier1.activeWinners k))
    : collectSemifinalWinners env k ledger
      = .ok { ledger with bracket := some (markCollected recorded k) } := by
  -- the program reads the slice off the stored winners, by the stored sizes
  have resolved : pickWinners (tier1.winners.toList.drop (storedStart bracket k))
      (winnersSlice tier1.activeWinners k).length
      (result.slots.take (min shardWinners (winnersSlice tier1.activeWinners k).length))
      = .ok (podium ledger.entries (winnersSlice tier1.activeWinners k)) := by
    rw [← pickWinners_take, playable.into.take_stored playable.sorted inside, slots]
    exact (playable.group inside).picks
  exact collectSemifinalWinners_eq_ok.mpr ⟨tier1, bracket, result, _, _, recorded,
    { foundTier1 := playable.foundTier1
      found := playable.found
      resulted := resulted
      operator := operator
      owned := playable.owned
      promoted := playable.promoted
      indexed := inside
      ready := ready
      clean := clean
      current := stamp
      uncollected := uncollected
      size := playable.into.size_slice inside },
    resolved, pushed, rfl⟩

/-- The next semifinal is playable. -/
theorem SemifinalProgress.playable {k : Nat} (progress : SemifinalProgress tier1 base k bracket)
    (same : SameRound start ledger) (winners : ledger.tier1 = some tier1)
    (found : ledger.bracket = some bracket) (scored : start.FullyScored)
    (unrevealed : start.round.scoringRevealed = false)
    (sorted : SortedWinners tier1) (promoted : tier1.promoted)
    (owned : tier1.round = start.round.key ∧ base.round = start.round.key)
    (entered : ∀ key ∈ tier1.activeWinners, key ∈ start.roundEntries)
    (into : SlicedInto base tier1.activeWinners)
    : SemifinalsPlayable ledger tier1 bracket := by
  have frame := progress.frame
  constructor
  · exact winners
  · exact found
  · rw [frame, same.round]
    exact owned
  · exact promoted
  · rw [same.round]
    exact unrevealed
  · exact same.scored scored
  · exact sorted
  · rw [same.roundEntries]
    exact entered
  · rw [frame]
    exact ⟨into.winning, into.fits, into.count, into.sizes, into.ascending⟩

/-- Each semifinal can be queued, delivered and collected in turn. -/
theorem SemifinalsDriven.semifinal (allowed : Allowed envs) (scored : start.FullyScored)
    (unrevealed : start.round.scoringRevealed = false)
    (sorted : SortedWinners tier1) (promoted : tier1.promoted)
    (owned : tier1.round = start.round.key ∧ base.round = start.round.key)
    (entered : ∀ key ∈ tier1.activeWinners, key ∈ start.roundEntries)
    (into : SlicedInto base tier1.activeWinners)
    {slot k : Nat} (inside : k < base.shardCount)
    (driven : SemifinalsDriven start offset tier1 base slot k ledger)
    : ∃ after,
        driveSemifinal envs offset k ledger = .ok after
        ∧ SemifinalsDriven start offset tier1 base slot (k + 1) after := by
  obtain ⟨bracket, found, progress⟩ := driven.bracket
  have same : SameRound start ledger := ⟨driven.round, driven.entries⟩
  have playable := progress.playable same driven.winners found scored unrevealed sorted promoted
    owned entered into
  have indexed : k < bracket.shardCount := by rw [progress.frame]; exact inside
  let accounts := winnersSlice tier1.activeWinners k
  have queued := playable.queue
    (allowed (.queueSemifinalReveal (offset .bracket (.semifinal k)) k accounts)) indexed
    (driven.free .bracket (.semifinal k))
  obtain ⟨delivered, success, revealed, kept⟩ := delivers ledger
    (offset .bracket (.semifinal k)) bracket.generation (.semifinal k) accounts ledger.bracket
  obtain ⟨result, resulted, present, clean, stamp, slots⟩ := revealed.held
  have still : SameRound start delivered :=
    ⟨revealed.round.trans driven.round, revealed.entries.trans driven.entries⟩
  have current := progress.playable still (revealed.tier1.trans driven.winners)
    (kept.trans found) scored unrevealed sorted promoted owned entered into
  obtain ⟨recorded, pushed, advanced⟩ := progress.record into
    (allEntries_of_roundEntries entered) inside
  rw [← still.entries] at pushed
  rw [← revealed.entries] at slots
  have collected := current.collect (allowed (.collectSemifinalWinners k)).2 indexed
    (by rw [progress.frame]; simp [Nat.testBit_two_pow_sub_one]) pushed resulted present clean
    stamp slots
  refine ⟨{ delivered with bracket := some (markCollected recorded k) }, ?_, still.round,
    still.entries, revealed.tier1.trans driven.winners,
    fun partition target => revealed.free _ (driven.free _ _), ?_, _, rfl, advanced⟩
  · exact bind_eq_ok.mpr ⟨tier1, fetch_eq_ok.mpr driven.winners,
      bind_eq_ok.mpr ⟨_, queued, bind_eq_ok.mpr ⟨_, success, collected⟩⟩⟩
  · obtain ⟨first, held, stale⟩ := driven.first
    exact ⟨first, (revealed.others _ (by rintro ⟨⟩)).trans held, stale⟩

/-- With every semifinal collected the bracket is ready. -/
theorem SemifinalProgress.ready (progress : SemifinalProgress tier1 base base.shardCount bracket)
    (few : base.shardCount ≤ maxShards) : bracket.allShardsCollected := by
  have notMany : ¬ 8 ≤ base.shardCount := by
    simp only [maxShards] at few
    omega
  rw [progress.frame]
  simp [BracketState.allShardsCollected, notMany, Nat.shiftLeft_eq]

/-- A bracket that was just pinned for this round. -/
structure FreshlyPinned (start : RevealLedger) (base : BracketState) : Prop where
  owned : base.round = start.round.key
  unqueued : base.finalQueued = false
  unapplied : base.applied = false

/-- With every semifinal collected the endgame is reached. -/
theorem SemifinalsDriven.reached (scored : start.FullyScored)
    (unrevealed : start.round.scoringRevealed = false) (fresh : FreshlyPinned start base)
    (entered : ∀ key ∈ tier1.activeWinners, key ∈ start.roundEntries)
    (few : base.shardCount ≤ maxShards) {slot : Nat}
    (driven : SemifinalsDriven start offset tier1 base slot base.shardCount ledger)
    : ∃ bracket, EndgameReached ledger bracket
        ∧ SemifinalProgress tier1 base base.shardCount bracket := by
  obtain ⟨bracket, found, progress⟩ := driven.bracket
  have frame := progress.frame
  have same : SameRound start ledger := ⟨driven.round, driven.entries⟩
  refine ⟨bracket, ⟨found, ?_, ?_, progress.ready few,
    progress.counted.trans (Nat.mul_le_mul_right _ few), ?_, ?_, same.scored scored⟩, progress⟩
  · rw [frame, driven.round]
    exact fresh.owned
  · rw [frame]
    exact fresh.unapplied
  · intro key member
    obtain ⟨j, _, inSlice⟩ := progress.drawn key member
    rw [same.roundEntries]
    exact entered key (winnersSlice_sublist.subset inSlice)
  · rw [driven.round]
    exact unrevealed

/-- One semifinal alone is applied from the first tier's result, which succeeds exactly
when that result happens to carry the promoted bracket's stamp.
-/
theorem SemifinalsDriven.single_applies_iff (allowed : Allowed envs)
    (scored : start.FullyScored) (unrevealed : start.round.scoringRevealed = false)
    (fresh : FreshlyPinned start base)
    (entered : ∀ key ∈ tier1.activeWinners, key ∈ start.roundEntries)
    (one : base.shardCount = 1) {slot : Nat}
    (driven : SemifinalsDriven start offset tier1 base slot base.shardCount ledger)
    : (∃ after, driveFinal envs offset ledger >>= driveApply envs = .ok after
        ∧ after.round.scoringRevealed)
      ↔ slot % generationModulus = base.generation := by
  obtain ⟨bracket, reached, progress⟩ := driven.reached scored unrevealed fresh entered
    (by rw [one]; decide)
  obtain ⟨first, held, present, clean, stale⟩ := driven.first
  have found := reached.found
  have frame := progress.frame
  have count : bracket.shardCount = 1 := by rw [frame]; exact one
  have generation : bracket.generation = base.generation := by rw [frame]
  have skipped : driveFinal envs offset ledger = .ok ledger := by
    refine bind_eq_ok.mpr ⟨bracket, fetch_eq_ok.mpr found, ?_⟩
    rw [if_neg (by simp [BracketState.needsFinalReveal, count])]
    rfl
  have applied : driveApply envs ledger
      = applyBracketResult (envs (.applyBracketResult 0)) 0 ledger := by
    rw [driveApply, bind_of_ok (fetch_eq_ok.mpr found), if_pos count]
    rfl
  rw [bind_of_ok skipped, applied]
  constructor
  · rintro ⟨after, success, _⟩
    obtain ⟨current, result, _, checks, _, _⟩ := applyBracketResult_eq_ok.mp success
    cases found.symm.trans checks.found
    cases held.symm.trans checks.resulted
    rw [← generation, ← checks.current, stale]
  · intro same
    have unqueued : bracket.finalQueued = false := by rw [frame]; exact fresh.unqueued
    exact reached.apply_single (allowed (.applyBracketResult 0)).2 count unqueued held present
      clean (by rw [stale, same, generation])

/-- Several semifinals always lead through a final to an applied result. -/
theorem SemifinalsDriven.final_applies (allowed : Allowed envs) (scored : start.FullyScored)
    (unrevealed : start.round.scoringRevealed = false)
    (fresh : FreshlyPinned start base)
    (entered : ∀ key ∈ tier1.activeWinners, key ∈ start.roundEntries)
    (many : 1 < base.shardCount) (few : base.shardCount ≤ maxShards) {slot : Nat}
    (driven : SemifinalsDriven start offset tier1 base slot base.shardCount ledger)
    : ∃ after, driveFinal envs offset ledger >>= driveApply envs = .ok after
        ∧ after.round.scoringRevealed := by
  obtain ⟨bracket, reached, progress⟩ := driven.reached scored unrevealed fresh entered few
  have found := reached.found
  have several : 1 < bracket.shardCount := by rw [progress.frame]; exact many
  let accounts := bracket.activeFinalists.insertionSort (· ≤ ·)
  have final : FinalRun bracket accounts := reached.sortedRun several progress.unique
  let queue : RevealInstruction := .queueShardReveal
    (offset .bracket (.shard finalShardIndex)) finalShardIndex accounts
  have queued := reached.queue_final final (allowed queue).1 (allowed queue).2
    (driven.free .bracket (.shard finalShardIndex))
  obtain ⟨delivered, success, revealed, kept⟩ := delivers ledger
    (offset .bracket (.shard finalShardIndex)) bracket.generation (.shard finalShardIndex)
    accounts (some (afterQueue bracket finalShardIndex accounts))
  obtain ⟨result, resulted, present, clean, stamp, slots⟩ := revealed.held
  have finished : driveFinal envs offset ledger = .ok delivered := by
    refine bind_eq_ok.mpr ⟨bracket, fetch_eq_ok.mpr found, ?_⟩
    rw [if_pos final.needed]
    exact bind_eq_ok.mpr ⟨_, queued, success⟩
  have frame := afterQueue_frame bracket finalShardIndex accounts
  have finalists := final.activeFinalists_afterQueue reached.counted
  have plural : (afterQueue bracket finalShardIndex accounts).shardCount ≠ 1 := by
    rw [frame]
    exact several.ne'
  rw [bind_of_ok finished, driveApply, bind_of_ok (fetch_eq_ok.mpr kept), if_neg plural]
  refine (reached.afterQueue final revealed.round revealed.entries kept).apply_final
    (allowed (.applyBracketResult finalShardIndex)).2 plural ?_ ?_ resulted present clean ?_ ?_
  · rw [afterQueue, if_pos rfl]
  · rw [finalists]
    exact final.ascending
  · rw [stamp, frame]
  · rw [finalists, revealed.entries]
    exact slots

end Semifinals

--------------------------------------------------------------------------------
-- The whole sequence
--------------------------------------------------------------------------------

/-- Driven to its end, a fully scored round over a partition of its entries is revealed,
except where all tier-1 winners fit one semifinal and the promoted bracket's stamp differs
from the clock slot that stamped the first tier.
-/
theorem driveTwoTier_reveals_iff {start : RevealLedger} {envs : RevealInstruction → Env}
    {offset : Partition → ResultAddress → Nat} {shardSizes : Vector Nat maxTier1Shards}
    {shardBounds : Vector Pubkey maxTier1Shards} {shardCount : Nat}
    (allowed : Allowed envs) (scored : start.FullyScored)
    (free : ∀ partition target, start.computations.lookup (offset partition target) = none)
    (accepted : (submit envs (.initTier1Bracket shardSizes shardBounds shardCount) start).isOk)
    (splits : (layoutOf shardSizes shardBounds shardCount).Splits start.roundEntries)
    : (∃ after, driveTwoTier envs offset shardSizes shardBounds shardCount start = .ok after
        ∧ after.round.scoringRevealed)
      ↔ maxShardSize < ((shardSizes.toList.take shardCount).map (min shardWinners)).sum
        ∨ (envs (.initTier1Bracket shardSizes shardBounds shardCount)).slot % generationModulus
          = start.nextStamp := by
  obtain ⟨pinned, initialized⟩ := exists_of_isOk accepted
  obtain ⟨pins, absent, large, checked, roomy, rfl⟩ := initTier1Bracket_eq_ok.mp initialized
  let slot := (envs (.initTier1Bracket shardSizes shardBounds shardCount)).slot
  -- the first tier
  have fresh : Tier1Driven start offset shardSizes shardBounds shardCount slot 0
      { start with
        tier1 := some (freshTier1 start.round shardSizes shardBounds shardCount slot) } := by
    refine ⟨rfl, rfl, rfl, free, fun impossible => absurd impossible (lt_irrefl 0), _, rfl, rfl,
      ?_, ⟨Nat.zero_le _, by rw [activeWinners_freshTier1]; exact .nil⟩, by simp [freshTier1],
      by simp⟩
    intro j stored
    simp [freshTier1, stored]
  obtain ⟨collected, firstTier, driven⟩ := inOrder_succeeds fresh fun k inside before reached =>
    Tier1Driven.shard allowed scored pins.unrevealed checked roomy splits inside reached
  obtain ⟨tier1, found, progress⟩ := driven.tier1
  -- the promotion
  obtain ⟨complete, winning⟩ := progress.ready checked
  have fits : semifinalCount tier1.winnerCount ≤ maxShards := by
    have most := progress.sorted.counted
    simp only [semifinalCount, maxShards, maxShardSize, maxTier1Winners, maxTier1Shards,
      shardWinners, revealTopK] at most ⊢
    omega
  let base := collected.freshBracket (semifinalSizes tier1.winnerCount)
    (semifinalBounds tier1) (semifinalCount tier1.winnerCount)
  let winners : Tier1State := { tier1 with promoted := true }
  have promotion : submit envs .promoteTier1 collected
      = .ok { collected with bracket := some base, tier1 := some winners } :=
    promoteTier1_eq_ok.mpr ⟨tier1,
      { unpaused := (allowed .promoteTier1).1
        found := found
        operator := (allowed .promoteTier1).2
        owned := by rw [progress.frame, driven.round]; rfl
        unpromoted := by rw [progress.frame]; rfl
        collected := complete
        winners := winning
        fits := fits }, rfl⟩
  have into : SlicedInto base winners.activeWinners :=
    slicedInto_freshBracket progress.sorted winning fits
  have entered : ∀ key ∈ winners.activeWinners, key ∈ start.roundEntries := by
    intro key member
    obtain ⟨j, _, drawn⟩ := progress.drawn key member
    exact (Layout.mem_interval.mp drawn).1
  have owned : winners.round = start.round.key ∧ base.round = start.round.key := by
    constructor
    · change tier1.round = _
      rw [progress.frame]
      rfl
    · change collected.round.key = _
      rw [driven.round]
  -- the semifinals
  have promoted : SemifinalsDriven start offset winners base slot 0
      { collected with bracket := some base, tier1 := some winners } := by
    have vacant : base.activeFinalists = [] := activeFinalists_freshBracket
    exact ⟨driven.round, driven.entries, rfl, driven.free,
      driven.first (Nat.lt_of_lt_of_le Nat.zero_lt_one checked.nonempty), base, rfl, rfl,
      Nat.zero_le _, by rw [vacant]; exact .nil, by simp [vacant]⟩
  have sorted : SortedWinners winners := ⟨progress.sorted.counted, progress.sorted.ascending⟩
  obtain ⟨gathered, semifinals, ready⟩ := inOrder_succeeds promoted fun k inside before reached =>
    SemifinalsDriven.semifinal allowed scored pins.unrevealed sorted rfl owned entered into inside
      reached
  have sequence : driveTwoTier envs offset shardSizes shardBounds shardCount start
      = driveFinal envs offset gathered >>= driveApply envs := by
    rw [driveTwoTier, bind_of_ok initialized, bind_of_ok firstTier, bind_of_ok promotion]
    exact bind_of_ok semifinals
  -- the end
  have fresh : FreshlyPinned start base := ⟨owned.2, rfl, rfl⟩
  have stamp : base.generation = start.nextStamp := by
    change ((collected.bracket.getD BracketState.zeroed).generation + 1) % _ = _
    rw [driven.bracket]
    rfl
  have many : maxShardSize < tier1.winnerCount ↔ 1 < base.shardCount := by
    change _ ↔ 1 < semifinalCount tier1.winnerCount
    simp only [semifinalCount, maxShardSize]
    omega
  rw [sequence, ← progress.counted, many]
  by_cases several : 1 < base.shardCount
  · exact iff_of_true
      (ready.final_applies allowed scored pins.unrevealed fresh entered several fits)
      (Or.inl several)
  · have one : base.shardCount = 1 := by
      have filled := one_le_semifinalCount winning
      change semifinalCount tier1.winnerCount = 1
      change ¬ 1 < semifinalCount tier1.winnerCount at several
      omega
    rw [ready.single_applies_iff allowed scored pins.unrevealed fresh entered one, stamp]
    exact (or_iff_right several).symm

/-- Fifty-four entries in shards of 13, 13, 13, 13 and 2 are revealed. -/
theorem fiftyFour_reveals
    : ∃ after,
        driveTwoTier (fun _ => authorityEnv) (fun _ _ => 51)
          (#v[13, 13, 13, 13, 2] ++ Vector.replicate 12 0)
          (#v[1, 14, 27, 40, 53] ++ Vector.replicate 12 0) 5
          (scoredRound (.replicate 54 0)) = .ok after
        ∧ after.round.scoringRevealed :=
  (driveTwoTier_reveals_iff (fun _ => ⟨rfl, rfl⟩) (by decide +kernel) (fun _ _ => rfl)
    (by decide +kernel) (by decide +kernel)).mpr (Or.inl (by decide))

/-- Fifty-three entries in shards of 13, 13, 13, 13 and 1 have thirteen tier-1 winners, so
one semifinal; the apply then reads a result stamped in the first tier and is refused.
-/
theorem fiftyThree_dead_end
    : ¬ ∀ (start : RevealLedger) (envs : RevealInstruction → Env)
        (offset : Partition → ResultAddress → Nat) (shardSizes : Vector Nat maxTier1Shards)
        (shardBounds : Vector Pubkey maxTier1Shards) (shardCount : Nat),
        Allowed envs → start.FullyScored
        → (∀ partition target, start.computations.lookup (offset partition target) = none)
        → (submit envs (.initTier1Bracket shardSizes shardBounds shardCount) start).isOk
        → (layoutOf shardSizes shardBounds shardCount).Splits start.roundEntries
        → ∃ after,
            driveTwoTier envs offset shardSizes shardBounds shardCount start = .ok after
            ∧ after.round.scoringRevealed := by
  intro always
  obtain ⟨after, success, _⟩ := always (scoredRound (.replicate 53 0)) (fun _ => authorityEnv)
    (fun _ _ => 51) (#v[13, 13, 13, 13, 1] ++ Vector.replicate 12 0)
    (#v[1, 14, 27, 40, 53] ++ Vector.replicate 12 0) 5 (fun _ => ⟨rfl, rfl⟩) (by decide +kernel)
    (fun _ _ => rfl) (by decide +kernel) (by decide +kernel)
  have refused : (driveTwoTier (fun _ => authorityEnv) (fun _ _ => 51)
      (#v[13, 13, 13, 13, 1] ++ Vector.replicate 12 0)
      (#v[1, 14, 27, 40, 53] ++ Vector.replicate 12 0) 5
      (scoredRound (.replicate 53 0))).isOk = false := by
    decide +kernel
  rw [success] at refused
  cases refused

end SecretGarden.Bracket
