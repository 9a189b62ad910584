import SecretGarden.AutoCycle.Resumption
import SecretGarden.Bracket.Quotas
import SecretGarden.Foundation.Positional

/-! The planner agrees with the program.
Both compute the partition on their own: the script to declare it, the program to check it, to
read its shards and to slice its winners.
-/

namespace SecretGarden.AutoCycle

open Foundation SecretGarden.Bracket

--------------------------------------------------------------------------------
-- Raw keys
--------------------------------------------------------------------------------

/-- An address as the script holds it. -/
abbrev RawKey : Type := Vector UInt8 32

def RawKey.digits (key : RawKey) : List Nat := key.toList.map UInt8.toNat

/-- The address that the bytes spell. -/
def RawKey.toPubkey (key : RawKey) : Pubkey := spelled 256 key.digits

/-- Compare byte by byte: the first difference decides. -/
def compareEntryKeys (a b : RawKey) : Int := firstDifference a.digits b.digits

/-- A copy of the keys, sorted with the comparison above. -/
def sortRawKeys (keys : List RawKey) : List RawKey :=
  keys.insertionSort fun a b => compareEntryKeys a b ≤ 0

@[simp] theorem length_digits (key : RawKey) : key.digits.length = 32 := by
  simp [RawKey.digits]

theorem digits_lt {key : RawKey} {digit : Nat} (listed : digit ∈ key.digits) : digit < 256 := by
  obtain ⟨byte, _, rfl⟩ := List.mem_map.mp listed
  exact byte.toNat_lt

/-- The script compares keys as the program does. -/
theorem compareEntryKeys_nonpos {a b : RawKey}
    : compareEntryKeys a b ≤ 0 ↔ a.toPubkey ≤ b.toPubkey :=
  firstDifference_nonpos (by decide) (by simp) (fun _ => digits_lt) fun _ => digits_lt

theorem toPubkey_injective : Function.Injective RawKey.toPubkey := by
  intro a b same
  have digits := spelled_injective (by decide) (by simp) (fun _ => digits_lt)
    (fun _ => digits_lt) same
  have apart : Function.Injective UInt8.toNat := fun _ _ => UInt8.toNat_inj.mp
  exact Vector.toList_inj.mp (List.map_injective_iff.mpr apart digits)

/-- Sorting raw keys sorts the addresses. -/
theorem map_sortRawKeys (keys : List RawKey)
    : (sortRawKeys keys).map RawKey.toPubkey
      = sortEntriesByteWise (keys.map RawKey.toPubkey) :=
  List.map_insertionSort _ _ _ _ fun _ _ _ _ => compareEntryKeys_nonpos

--------------------------------------------------------------------------------
-- What agreement means
--------------------------------------------------------------------------------

/-- A partition account holds the plan as the script pins it. -/
structure PinnedAs (plan : BracketPlan) {capacity : Nat} (shardSizes : Vector Nat capacity)
    (shardBounds : Vector Pubkey capacity) (shardCount : Nat) : Prop where
  sizes : shardSizes = padNumbers plan.sizes capacity
  bounds : shardBounds = padKeys (plan.shards.map ShardPlan.bound) capacity
  count : shardCount = plan.shards.length

/-- In any scored round that these accounts are entries of, the entry loop accepts them. -/
def ReadsAs (capacity : Nat) (scoredOnly : Bool)
    (place : (i : Nat) → (prev key : Pubkey) → Outcome Unit) (accounts : List Pubkey) : Prop :=
  ∀ ledger : RevealLedger,
    ledger.FullyScored
    → (∀ key ∈ accounts, key ∈ ledger.roundEntries)
    → readRun ledger.entries ledger.round.key capacity scoredOnly place 0 0 accounts
      = .ok (contenders ledger.entries accounts)

/-- Queueing and collecting shard `k` of the bracket accept these accounts. -/
structure ShardAccepted (bracket : BracketState) (k : Nat) (accounts : List Pubkey) : Prop where
  queueSize : runSize bracket k = .ok accounts.length
  bounded : accounts.length ≤ maxRevealAccountRefs
  queueReads : ReadsAs maxParticipants true (runPlace bracket k) accounts
  collectSize : bracket.shardSizes[k]? = some accounts.length
  collectReads : ReadsAs maxShardSize false
    (shardPlace bracket.shardBounds bracket.shardCount k) accounts

/-- Queueing and collecting tier-1 shard `k` accept these accounts. -/
structure Tier1ShardAccepted (tier1 : Tier1State) (k : Nat) (accounts : List Pubkey)
    : Prop where
  indexed : k < tier1.shardCount
  size : tier1.shardSizes[k]? = some accounts.length
  queueReads : ReadsAs maxParticipants true
    (shardPlace tier1.shardBounds tier1.shardCount k) accounts
  collectReads : ReadsAs maxShardSize false
    (shardPlace tier1.shardBounds tier1.shardCount k) accounts

/-- What the program makes of a plan for one tier. -/
structure SingleTierAgrees (participantCount : Nat) (plan : BracketPlan) : Prop where
  tier : plan.tier = .single
  pinned : ∀ {env ledger}, PinChecks env ledger.round
    → ledger.round.participantCount = participantCount
    → ∃ bracket,
        revealStep ledger ⟨env, initBracketOf plan⟩ = .ok { ledger with bracket := some bracket }
        ∧ PinnedAs plan bracket.shardSizes bracket.shardBounds bracket.shardCount
  accepted : ∀ {bracket : BracketState} {k shard},
    PinnedAs plan bracket.shardSizes bracket.shardBounds bracket.shardCount
    → plan.shards[k]? = some shard
    → ShardAccepted bracket k shard.entries
  final : ∀ {bracket : BracketState},
    PinnedAs plan bracket.shardSizes bracket.shardBounds bracket.shardCount
    → bracket.needsFinalReveal = plan.finalReveal

/-- What the program makes of a plan for two tiers. -/
structure TwoTiersAgree (participantCount : Nat) (plan : BracketPlan) : Prop where
  tier : plan.tier = .two
  pinned : ∀ {env ledger}, PinChecks env ledger.round
    → ledger.tier1 = none
    → ledger.round.participantCount = participantCount
    → ∃ tier1,
        revealStep ledger ⟨env, initTier1BracketOf plan⟩
          = .ok { ledger with tier1 := some tier1 }
        ∧ PinnedAs plan tier1.shardSizes tier1.shardBounds tier1.shardCount
  accepted : ∀ {tier1 : Tier1State} {k shard},
    PinnedAs plan tier1.shardSizes tier1.shardBounds tier1.shardCount
    → plan.shards[k]? = some shard
    → Tier1ShardAccepted tier1 k shard.entries
  /-- However the shards came to be collected, the promotion is accepted and slices the winners
  as planned.
  -/
  promoted : ∀ {start : RevealLedger} {history state env tier1}, start.Unstarted
    → Run revealStep anyAction start history state
    → state.tier1 = some tier1
    → PinnedAs plan tier1.shardSizes tier1.shardBounds tier1.shardCount
    → tier1.allShardsCollected
    → tier1.promoted = false
    → env.config.paused = false
    → isOperatorOrAuthority env.config env.signer
    → ∃ after bracket,
        revealStep state ⟨env, .promoteTier1⟩ = .ok after
        ∧ after.bracket = some bracket
        ∧ bracket.shardSizes = padNumbers plan.semifinalSizes maxShards
        ∧ bracket.shardCount = plan.semifinalSizes.length
        ∧ bracket.needsFinalReveal = plan.finalReveal

/-- The plan of these keys is the program's own partition of them, in whatever order they come. -/
structure PlanAgrees (keys : List RawKey) (plan : BracketPlan) : Prop where
  anyOrder : ∀ {others : List RawKey}, others.Perm keys
    → planBracket (others.map RawKey.toPubkey) = .ok plan
  covers : plan.shards.flatMap ShardPlan.entries = (sortRawKeys keys).map RawKey.toPubkey
  single : keys.length ≤ singleTierCapacity → SingleTierAgrees keys.length plan
  two : singleTierCapacity < keys.length → TwoTiersAgree keys.length plan

--------------------------------------------------------------------------------
-- Pinning and reading
--------------------------------------------------------------------------------

section Pinned

variable {sorted : List Pubkey} {plan : BracketPlan} {capacity : Nat}

/-- What is pinned as planned declares the planned layout. -/
theorem PinnedAs.layout {shardSizes : Vector Nat capacity} {shardBounds : Vector Pubkey capacity}
    {shardCount : Nat} (pinned : PinnedAs plan shardSizes shardBounds shardCount)
    (planned : Planned sorted plan) (filled : 1 ≤ sorted.length)
    (ascending : sorted.Pairwise (· < ·)) (fits : semifinalCount sorted.length ≤ capacity)
    : shardCount = semifinalCount sorted.length
      ∧ layoutOf shardSizes shardBounds shardCount = plannedLayout sorted := by
  obtain ⟨rfl, rfl, rfl⟩ := pinned
  exact ⟨planned.count, (planned.pin filled ascending fits).2⟩

/-- A planned shard is a slice of the sorted entries. -/
theorem Planned.slice_of_shard (planned : Planned sorted plan) {k : Nat} {shard : ShardPlan}
    (listed : plan.shards[k]? = some shard)
    : k < semifinalCount sorted.length ∧ shard.entries = winnersSlice sorted k := by
  have inside : k < semifinalCount sorted.length := by
    rw [← planned.count]
    exact (List.getElem?_eq_some_iff.mp listed).1
  cases listed.symm.trans (planned.shard inside)
  exact ⟨inside, rfl⟩

/-- Placed accounts are read in any scored round that has them as entries. -/
theorem readsAs_of_placed {scoredOnly : Bool}
    {place : (i : Nat) → (prev key : Pubkey) → Outcome Unit} {accounts : List Pubkey}
    (placed : Placed place 0 0 accounts) (fits : accounts.length ≤ capacity)
    : ReadsAs capacity scoredOnly place accounts :=
  fun _ scored entered => readRun_eq_ok.mpr (runRead_contenders scored entered fits placed)

/-- Shards that are pinned as planned are accepted with their planned entries. -/
theorem PinnedAs.shardAccepted {bracket : BracketState}
    (pinned : PinnedAs plan bracket.shardSizes bracket.shardBounds bracket.shardCount)
    (planned : Planned sorted plan) (filled : 1 ≤ sorted.length)
    (ascending : sorted.Pairwise (· < ·)) (few : semifinalCount sorted.length ≤ maxShards)
    {k : Nat} {shard : ShardPlan} (listed : plan.shards[k]? = some shard)
    : ShardAccepted bracket k shard.entries := by
  obtain ⟨count, layout⟩ := pinned.layout planned filled ascending few
  obtain ⟨played, slice⟩ := planned.slice_of_shard listed
  have inside : k < bracket.shardCount := count ▸ played
  have ordinary := ne_finalShardIndex played few
  have size := size_of_layout filled ascending layout inside count
  have placed := placed_of_layout filled ascending layout inside count
  have small := (length_planned filled played).2
  rw [← slice] at size placed small
  constructor
  · rw [runSize, if_neg ordinary]
    exact bind_eq_ok.mpr ⟨(), require_eq_ok.mpr inside, fetch_eq_ok.mpr size⟩
  · exact small.trans (by decide)
  · rw [runPlace, if_neg ordinary]
    exact readsAs_of_placed placed (small.trans (by decide))
  · exact size
  · exact readsAs_of_placed placed small

/-- The same for the first of two tiers. -/
theorem PinnedAs.tier1ShardAccepted {tier1 : Tier1State}
    (pinned : PinnedAs plan tier1.shardSizes tier1.shardBounds tier1.shardCount)
    (planned : Planned sorted plan) (filled : 1 ≤ sorted.length)
    (ascending : sorted.Pairwise (· < ·)) (few : semifinalCount sorted.length ≤ maxTier1Shards)
    {k : Nat} {shard : ShardPlan} (listed : plan.shards[k]? = some shard)
    : Tier1ShardAccepted tier1 k shard.entries := by
  obtain ⟨count, layout⟩ := pinned.layout planned filled ascending few
  obtain ⟨played, slice⟩ := planned.slice_of_shard listed
  have inside : k < tier1.shardCount := count ▸ played
  have size := size_of_layout filled ascending layout inside count
  have placed := placed_of_layout filled ascending layout inside count
  have small := (length_planned filled played).2
  rw [← slice] at size placed small
  exact ⟨inside, size, readsAs_of_placed placed (small.trans (by decide)),
    readsAs_of_placed placed small⟩

end Pinned

--------------------------------------------------------------------------------
-- Promoting
--------------------------------------------------------------------------------

section Promoted

variable {sorted : List Pubkey} {plan : BracketPlan} {ledger : RevealLedger}
  {tier1 : Tier1State}

/-- The planned semifinals are padded to what a promotion stores. -/
theorem padNumbers_planShardSizes {n : Nat} (filled : 1 ≤ n)
    : padNumbers (planShardSizes n maxShardSize) maxShards = semifinalSizes n := by
  rw [planShardSizes_eq filled, padNumbers, semifinalSizes]
  congr 1
  funext k
  by_cases inside : k.val < semifinalCount n
  · rw [if_pos inside, List.getElem?_map, List.getElem?_range inside, Option.map_some,
      Option.getD_some]
  · rw [if_neg inside, List.getElem?_eq_none (by simpa using inside), Option.getD_none]

/-- A fully collected first tier has the winners that the plan expects. -/
theorem PinnedAs.winnerCount_eq
    (pinned : PinnedAs plan tier1.shardSizes tier1.shardBounds tier1.shardCount)
    (known : QuotasMet ledger) (found : ledger.tier1 = some tier1)
    (planned : Planned sorted plan) (few : semifinalCount sorted.length ≤ maxTier1Shards)
    (complete : ∀ k < tier1.shardCount, tier1.shardDone[k]? = some true)
    : tier1.winnerCount = expectedTier1Winners plan.sizes := by
  have listed : plan.sizes.length = tier1.shardCount := by
    rw [planned.sizes, length_sizes_plannedLayout, pinned.count, planned.count]
  have fits : plan.sizes.length ≤ maxTier1Shards := by
    rw [listed, pinned.count, planned.count]
    exact few
  have whole : (plan.sizes.map (min shardWinners)).take tier1.shardCount
      = plan.sizes.map (min shardWinners) :=
    List.take_of_length_le (by simp [listed])
  rw [known.winners found, quota_complete complete, expectedTier1Winners, ← whole,
    sum_take_eq_sum_range]
  refine Finset.sum_congr rfl fun k member => ?_
  have inside : k < plan.sizes.length := listed ▸ Finset.mem_range.mp member
  rw [pinned.sizes, getElem?_padNumbers plan.sizes fits inside, List.getElem?_map,
    List.getElem?_eq_getElem inside]
  rfl

/-- What every run has established about the partition accounts. -/
structure Promotable (state : JournaledReveal) : Prop where
  formed : WellFormed state
  upkept : Upkept state
  quotas : QuotasMet state.system

theorem Promotable.step {before after : JournaledReveal} {submission : Submission}
    (known : Promotable before) (success : journaledReveal before submission = .ok after)
    : Promotable after := by
  obtain ⟨accepted, noted⟩ := journaled_eq_ok.mp success
  have formed := known.formed.step accepted
  have upkept := known.upkept.step known.formed accepted
  rw [← noted] at formed upkept
  exact ⟨formed, upkept, known.quotas.step known.formed accepted⟩

theorem promotable_of_run {start state : RevealLedger} (unstarted : start.Unstarted)
    {history : List Submission} (run : Run revealStep anyAction start history state)
    : ∃ journal, Promotable ⟨state, journal⟩ := by
  obtain ⟨journal, recorded⟩ := run.record Journal.blank
  have initially : Promotable start.journaled :=
    ⟨unstarted.wellFormed, unstarted.upkept, quotasMet_of_none unstarted.bracket unstarted.tier1⟩
  exact ⟨journal, recorded.invariant initially fun known _ success => known.step success⟩

/-- A first tier that was pinned as planned and is collected is promoted as planned. -/
theorem Promotable.promotes {journal : Journal} (known : Promotable ⟨ledger, journal⟩)
    (found : ledger.tier1 = some tier1)
    (pinned : PinnedAs plan tier1.shardSizes tier1.shardBounds tier1.shardCount)
    (planned : Planned sorted plan) (large : singleTierCapacity < sorted.length)
    (fits : sorted.length ≤ twoTierCapacity) (collected : tier1.allShardsCollected)
    (unpromoted : tier1.promoted = false) {env : Env} (unpaused : env.config.paused = false)
    (operator : isOperatorOrAuthority env.config env.signer)
    : ∃ after bracket,
        revealStep ledger ⟨env, .promoteTier1⟩ = .ok after
        ∧ after.bracket = some bracket
        ∧ bracket.shardSizes = padNumbers plan.semifinalSizes maxShards
        ∧ bracket.shardCount = plan.semifinalSizes.length
        ∧ bracket.needsFinalReveal := by
  obtain ⟨_, layout, _⟩ := known.formed.tier1 found
  obtain ⟨several, enough, few⟩ := semifinals_of_large large fits
  have tier : plan.tier = .two := planned.tier.trans (if_pos large)
  have counted := pinned.winnerCount_eq known.quotas found planned few
    fun k inside => layout.done_of_allShardsCollected collected inside
  have expected := counted.trans (planned.winners large)
  have winning : 1 ≤ tier1.winnerCount := by
    rw [expected]
    exact Nat.mul_pos (one_le_semifinalCount (Nat.one_le_of_lt large)) (by decide)
  rw [← expected] at several enough
  refine ⟨_, _, promoteTier1_eq_ok.mpr ⟨tier1,
    { unpaused := unpaused
      found := found
      operator := operator
      owned := known.upkept.tier1Owned found
      unpromoted := unpromoted
      collected := collected
      winners := winning
      fits := enough }, rfl⟩, rfl, ?_, ?_, ?_⟩
  · rw [planned.semifinals, if_pos tier, ← counted, padNumbers_planShardSizes winning]
    rfl
  · rw [planned.length_semifinals large, ← expected]
    rfl
  · exact decide_eq_true several

end Promoted

--------------------------------------------------------------------------------
-- The planner
--------------------------------------------------------------------------------

section Planner

variable {keys : List RawKey} {plan : BracketPlan}

/-- Sorting forgets the order in which the entries came. -/
theorem sortEntriesByteWise_of_perm {entries others : List Pubkey} (same : others.Perm entries)
    : sortEntriesByteWise others = sortEntriesByteWise entries :=
  ((List.perm_insertionSort _ others).trans
      (same.trans (List.perm_insertionSort _ entries).symm)).eq_of_pairwise'
    (List.pairwise_insertionSort _ others) (List.pairwise_insertionSort _ entries)

/-- Whether the final is planned. -/
theorem finalReveal_of_planned {entries : List Pubkey} (success : planBracket entries = .ok plan)
    : plan.finalReveal = (plan.tier == .two || decide (1 < plan.shards.length)) := by
  simp only [planBracket, bind_eq_ok, require_eq_ok, exists_const, pure_eq_ok] at success
  obtain ⟨_, _, _, rfl⟩ := success
  rfl

/-- The planned shards laid end to end are the sorted entries. -/
theorem Planned.entries {sorted : List Pubkey} (planned : Planned sorted plan)
    (filled : 1 ≤ sorted.length) : plan.shards.flatMap ShardPlan.entries = sorted := by
  rw [planned.shards, List.flatMap_map]
  exact flatMap_winnersSlice filled

/-- The planner and the program agree on every list of distinct keys that one reveal can hold:
the plan does not depend on their order, it is pinned and its shards are read as declared, and a
first tier that is collected, in whatever run, is promoted into the planned semifinals.
-/
theorem planner_agrees (distinct : keys.Nodup) (filled : 1 ≤ keys.length)
    (fits : keys.length ≤ twoTierCapacity)
    : ∃ plan, planBracket (keys.map RawKey.toPubkey) = .ok plan ∧ PlanAgrees keys plan := by
  let entries := keys.map RawKey.toPubkey
  let sorted := sortEntriesByteWise entries
  have counted : entries.length = keys.length := List.length_map _
  have length : sorted.length = keys.length :=
    (List.perm_insertionSort _ _).length_eq.trans counted
  have ascending : sorted.Pairwise (· < ·) :=
    insertionSort_ascending (distinct.map toPubkey_injective)
  obtain ⟨plan, success, planned⟩ := planBracket_succeeds (counted ▸ filled) (counted ▸ fits)
  have final := finalReveal_of_planned success
  rw [← length] at filled fits
  refine ⟨plan, success, ?_, ?_, fun small => ?_, fun large => ?_⟩
  · intro others same
    have sorts := sortEntriesByteWise_of_perm (same.map RawKey.toPubkey)
    rw [← success, planBracket, planBracket, sorts]
  · rw [map_sortRawKeys, planned.entries filled]
  · rw [← length] at small ⊢
    have few : semifinalCount sorted.length ≤ maxShards := by
      simp only [semifinalCount, singleTierCapacity, maxShards, maxShardSize] at small ⊢
      omega
    have tier : plan.tier = .single := planned.tier.trans (if_neg (not_lt.mpr small))
    obtain ⟨checked, _⟩ := planned.pin filled ascending few
    constructor
    · exact tier
    · intro env ledger checks participants
      exact ⟨_, initBracket_eq_ok.mpr ⟨checks, participants ▸ checked, rfl⟩, rfl, rfl, rfl⟩
    · intro bracket k shard pinned listed
      exact pinned.shardAccepted planned filled ascending few listed
    · intro bracket pinned
      rw [BracketState.needsFinalReveal, pinned.count, final, tier]
      rfl
  · rw [← length] at large ⊢
    obtain ⟨_, _, few⟩ := semifinals_of_large large fits
    have tier : plan.tier = .two := planned.tier.trans (if_pos large)
    obtain ⟨checked, declared⟩ := planned.pin filled ascending few
    constructor
    · exact tier
    · intro env ledger checks absent participants
      refine ⟨_, initTier1Bracket_eq_ok.mpr ⟨checks, absent, participants ▸ large,
        participants ▸ checked, podiums_fit declared few, rfl⟩, rfl, rfl, rfl⟩
    · intro tier1 k shard pinned listed
      exact pinned.tier1ShardAccepted planned filled ascending few listed
    · intro start history state env tier1 unstarted run found pinned collected unpromoted
        unpaused operator
      obtain ⟨journal, known⟩ := promotable_of_run unstarted run
      obtain ⟨after, bracket, promoted, stored, sizes, count, several⟩ :=
        known.promotes found pinned planned large fits collected unpromoted unpaused operator
      refine ⟨after, bracket, promoted, stored, sizes, count, several.trans ?_⟩
      rw [final, tier]
      rfl

/-- Fifty-three keys that differ in their last byte, from the largest down. -/
def descendingKeys : List RawKey :=
  (List.range 53).reverse.map fun k => (Vector.replicate 32 0).set 31 (UInt8.ofNat k)

/-- They are planned into five shards and two semifinals. -/
theorem descendingKeys_agree
    : ∃ plan,
        planBracket (descendingKeys.map RawKey.toPubkey) = .ok plan
        ∧ plan.sizes = [11, 11, 11, 10, 10]
        ∧ plan.semifinalSizes = [8, 7]
        ∧ PlanAgrees descendingKeys plan := by
  have computed : (planBracket (descendingKeys.map RawKey.toPubkey)).toOption.any fun plan =>
      plan.sizes == [11, 11, 11, 10, 10] && plan.semifinalSizes == [8, 7] := by
    decide +kernel
  have distinct : (descendingKeys.map RawKey.toPubkey).Nodup := by decide +kernel
  obtain ⟨plan, success, agrees⟩ := planner_agrees (.of_map _ distinct) (by decide) (by decide)
  rw [success] at computed
  obtain ⟨sizes, semifinals⟩ := Bool.and_eq_true_iff.mp computed
  exact ⟨plan, success, eq_of_beq sizes, eq_of_beq semifinals, agrees⟩

end Planner

end SecretGarden.AutoCycle
