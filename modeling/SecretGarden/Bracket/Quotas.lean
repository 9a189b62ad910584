import Mathlib.Algebra.BigOperators.Group.Finset.Basic
import SecretGarden.Bracket.Marks
import SecretGarden.Bracket.Selection

/-! How many winners a reveal has collected, whatever its results hold.
Every shard contributes one winner for each of its first three places, so the stages of a reveal
only lose entries beyond the third.
-/

namespace SecretGarden.Bracket

open Foundation

/-- Capping the parts does not change a capped sum, by induction on the parts. -/
theorem min_sum_min {ι : Type} (cap : Nat) (parts : Finset ι) (size : ι → Nat)
    : min cap (∑ part ∈ parts, min cap (size part)) = min cap (∑ part ∈ parts, size part) := by
  classical
  induction parts using Finset.induction_on with
  | empty => rfl
  | insert part parts fresh ih =>
      rw [Finset.sum_insert fresh, Finset.sum_insert fresh]
      omega

/-- The first entries of a list add up one by one, by induction on their number. -/
theorem sum_take_eq_sum_range (sizes : List Nat) (count : Nat)
    : (sizes.take count).sum = ∑ k ∈ Finset.range count, sizes[k]?.getD 0 := by
  induction count with
  | zero => simp
  | succ count ih =>
      rw [Finset.sum_range_succ, ← ih, List.take_add_one, List.sum_append]
      cases sizes[count]? <;> simp

/-- The winners of the collected shards: each has at most three. -/
def quota {capacity : Nat} (sizes : Vector Nat capacity) (count : Nat) (collected : Nat → Prop)
    [DecidablePred collected] : Nat :=
  ∑ k ∈ (Finset.range count).filter collected, min shardWinners (sizes[k]?.getD 0)

section Quota

variable {capacity count : Nat} {sizes : Vector Nat capacity} {collected : Nat → Prop}
  [DecidablePred collected]

theorem quota_none (fresh : ∀ k, ¬ collected k) : quota sizes count collected = 0 := by
  simp [quota, fresh]

/-- One more shard adds its winners. -/
theorem quota_collect {collected' : Nat → Prop} [DecidablePred collected'] {k size : Nat}
    (uncollected : ¬ collected k) (inside : k < count) (declared : sizes[k]? = some size)
    (marks : ∀ j, collected' j ↔ collected j ∨ j = k)
    : quota sizes count collected' = quota sizes count collected + min shardWinners size := by
  have joined : (Finset.range count).filter collected'
      = insert k ((Finset.range count).filter collected) := by
    ext j
    simp only [Finset.mem_filter, Finset.mem_range, Finset.mem_insert, marks]
    constructor
    · rintro ⟨within, before | here⟩
      · exact .inr ⟨within, before⟩
      · exact .inl here
    · rintro (rfl | ⟨within, before⟩)
      · exact ⟨inside, .inr rfl⟩
      · exact ⟨within, .inl before⟩
  have absent : k ∉ (Finset.range count).filter collected := by simp [uncollected]
  rw [quota, joined, Finset.sum_insert absent, declared, Option.getD_some, Nat.add_comm, quota]

/-- With every shard collected, all of them count. -/
theorem quota_complete (complete : ∀ k < count, collected k)
    : quota sizes count collected
      = ∑ k ∈ Finset.range count, min shardWinners (sizes[k]?.getD 0) := by
  have all : (Finset.range count).filter collected = Finset.range count :=
    Finset.filter_true_of_mem fun k listed => complete k (Finset.mem_range.mp listed)
  rw [quota, all]

/-- All shards together have as many of the first three as their entries do. -/
theorem min_quota (complete : ∀ k < count, collected k)
    : min shardWinners (quota sizes count collected)
      = min shardWinners (sizes.toList.take count).sum := by
  rw [quota_complete complete, min_sum_min, sum_take_eq_sum_range]
  simp only [Vector.getElem?_toList]

end Quota

/-- As many keys are resolved as slots are given. -/
theorem length_picked {keys picked : List Pubkey} {size : Nat} {slots : List Nat}
    (resolved : pickWinners keys size slots = .ok picked) : picked.length = slots.length := by
  have named := congrArg List.length (pickWinners_eq_ok.mp resolved).2
  simpa using named.symm

/-- A shard resolves one winner for each of its first three places. -/
theorem length_picked_slots {keys picked : List Pubkey} {size : Nat}
    {result : RevealTop3V3Result}
    (resolved
      : pickWinners keys size (result.slots.take (min shardWinners size)) = .ok picked)
    : picked.length = min shardWinners size := by
  rw [length_picked resolved, List.length_take]
  simp only [RevealTop3V3Result.slots, List.length_cons, List.length_nil, shardWinners,
    revealTopK]
  omega

/-- Every stage holds the winners of its collected shards, and its shards have as many of the
first three as the round.
-/
structure QuotasMet (ledger : RevealLedger) : Prop where
  winners : ∀ {tier1}, ledger.tier1 = some tier1
    → tier1.winnerCount
      = quota tier1.shardSizes tier1.shardCount fun k => tier1.shardDone[k]? = some true
  finalists : ∀ {bracket}, ledger.bracket = some bracket
    → bracket.finalistCount
      = quota bracket.shardSizes bracket.shardCount fun k => bracket.shardsCollected.testBit k
  field : ∀ {bracket}, ledger.bracket = some bracket
    → min shardWinners (bracket.shardSizes.toList.take bracket.shardCount).sum
      = min shardWinners ledger.round.participantCount

/-- There is nothing collected without partition accounts. -/
theorem quotasMet_of_none {ledger : RevealLedger} (bracket : ledger.bracket = none)
    (tier1 : ledger.tier1 = none) : QuotasMet ledger := by
  constructor <;> simp [bracket, tier1]

variable {ledger after : RevealLedger} {journal : Journal}

/-- The same progress under the same partition accounts. -/
theorem QuotasMet.quiet (known : QuotasMet ledger)
    (participants : after.round.participantCount = ledger.round.participantCount)
    (bracket
      : ∀ {recorded}, after.bracket = some recorded
        → ∃ bracket,
            ledger.bracket = some bracket
            ∧ recorded.shardCount = bracket.shardCount
            ∧ recorded.shardSizes = bracket.shardSizes
            ∧ recorded.shardsCollected = bracket.shardsCollected
            ∧ recorded.finalistCount = bracket.finalistCount)
    (tier1 : ∀ {recorded}, after.tier1 = some recorded → ledger.tier1 = some recorded)
    : QuotasMet after := by
  constructor
  · exact fun stored => known.winners (tier1 stored)
  · intro recorded stored
    obtain ⟨_, found, count, sizes, collected, counted⟩ := bracket stored
    rw [count, sizes, collected, counted]
    exact known.finalists found
  · intro recorded stored
    obtain ⟨_, found, count, sizes, _⟩ := bracket stored
    rw [count, sizes, participants]
    exact known.field found

/-- A fresh bracket has collected nothing. -/
theorem QuotasMet.pin (known : QuotasMet ledger) {shardSizes : Vector Nat maxShards}
    {shardBounds : Vector Pubkey maxShards} {shardCount : Nat}
    (bracket : after.bracket = some (ledger.freshBracket shardSizes shardBounds shardCount))
    (winners
      : ∀ {recorded}, after.tier1 = some recorded
        → ∃ tier1,
            ledger.tier1 = some tier1
            ∧ recorded = { tier1 with promoted := recorded.promoted })
    (field
      : min shardWinners (shardSizes.toList.take shardCount).sum
        = min shardWinners after.round.participantCount)
    : QuotasMet after := by
  constructor
  · intro recorded stored
    obtain ⟨tier1, found, same⟩ := winners stored
    have counted := known.winners found
    rw [same]
    exact counted
  · intro recorded stored
    cases bracket.symm.trans stored
    exact (quota_none fun k => by simp [RevealLedger.freshBracket]).symm
  · intro recorded stored
    cases bracket.symm.trans stored
    exact field

/-- Collecting a shard records its winners. -/
theorem QuotasMet.collect (known : QuotasMet ledger) {bracket recorded : BracketState}
    {picked : List Pubkey} {k size : Nat}
    (found : ledger.bracket = some bracket)
    (inside : k < bracket.shardCount)
    (uncollected : bracket.shardsCollected.testBit k = false)
    (declared : bracket.shardSizes[k]? = some size)
    (pushed : pushFinalists picked bracket = .ok recorded)
    (length : picked.length = min shardWinners size)
    (round : after.round = ledger.round)
    (stored : after.bracket = some (markCollected recorded k))
    (tier1 : after.tier1 = ledger.tier1)
    : QuotasMet after := by
  obtain ⟨_, rfl⟩ := pushFinalists_eq_ok.mp pushed
  constructor
  · exact fun held => known.winners (tier1 ▸ held)
  · intro held here
    cases stored.symm.trans here
    have marks (j : Nat)
        : (markCollected (appendFinalists bracket picked) k).shardsCollected.testBit j
          ↔ bracket.shardsCollected.testBit j ∨ j = k :=
      testBit_markCollected
    have added := quota_collect (by simp [uncollected]) inside declared marks
    rw [← known.finalists found, ← length] at added
    exact added.symm
  · intro held here
    cases stored.symm.trans here
    have field := known.field found
    rw [round]
    exact field

/-- Accepted instructions meet the quotas, by cases on the instruction. -/
theorem QuotasMet.step (known : QuotasMet ledger) (formed : WellFormed ⟨ledger, journal⟩)
    {submission : Submission} (success : revealStep ledger submission = .ok after)
    : QuotasMet after := by
  obtain ⟨env, instruction⟩ := submission
  cases instruction with
  | initBracket shardSizes shardBounds shardCount =>
      obtain ⟨_, layout, rfl⟩ := initBracket_eq_ok.mp success
      exact known.pin rfl (fun stored => ⟨_, stored, rfl⟩) (by rw [layout.total])
  | promoteTier1 =>
      obtain ⟨tier1, checks, rfl⟩ := promoteTier1_eq_ok.mp success
      obtain ⟨_, layout, _⟩ := formed.tier1 checks.found
      refine known.pin rfl (fun stored => ?_) ?_
      · cases stored
        exact ⟨tier1, checks.found, rfl⟩
      · have sliced : ((semifinalSizes tier1.winnerCount).toList.take
            (semifinalCount tier1.winnerCount)).sum = tier1.winnerCount := by
          rw [take_semifinalSizes le_rfl checks.fits, ← sliceStart,
            sliceStart_count (one_le_semifinalCount checks.winners)]
        rw [sliced, known.winners checks.found,
          min_quota fun k inside => layout.done_of_allShardsCollected checks.collected inside,
          layout.total]
  | initTier1Bracket shardSizes shardBounds shardCount =>
      obtain ⟨_, _, _, _, _, rfl⟩ := initTier1Bracket_eq_ok.mp success
      refine ⟨?_, known.finalists, known.field⟩
      rintro _ ⟨⟩
      refine (quota_none fun k done => ?_).symm
      obtain ⟨_, value⟩ := Vector.getElem?_eq_some_iff.mp done
      simp [freshTier1] at value
  | closeTier1Bracket =>
      obtain ⟨_, _, _, rfl⟩ := closeTier1Bracket_eq_ok.mp success
      refine ⟨?_, known.finalists, known.field⟩
      rintro _ ⟨⟩
  | queueShardReveal computationOffset shardIndex accounts =>
      obtain ⟨bracket, run, checks, _, rfl⟩ := queueShardReveal_eq_ok.mp success
      refine known.quiet rfl ?_ id
      rintro _ ⟨⟩
      rw [afterQueue_frame]
      exact ⟨bracket, checks.found, rfl, rfl, rfl, rfl⟩
  | queueTier1ShardReveal computationOffset shardIndex accounts =>
      obtain ⟨_, _, _, _, rfl⟩ := queueTier1ShardReveal_eq_ok.mp success
      exact ⟨known.winners, known.finalists, known.field⟩
  | queueSemifinalReveal computationOffset semiIndex accounts =>
      obtain ⟨_, _, _, _, _, rfl⟩ := queueSemifinalReveal_eq_ok.mp success
      exact ⟨known.winners, known.finalists, known.field⟩
  | collectShardWinners shardIndex accounts =>
      obtain ⟨bracket, result, run, recorded, checks, recording, rfl⟩ :=
        collectShardWinners_eq_ok.mp success
      obtain ⟨picked, resolved, pushed⟩ := recordFinalists_eq_ok.mp recording
      exact known.collect checks.found checks.indexed checks.uncollected checks.size pushed
        (length_picked_slots resolved) rfl rfl rfl
  | collectSemifinalWinners semiIndex =>
      obtain ⟨tier1, bracket, result, size, picked, recorded, checks, resolved, pushed, rfl⟩ :=
        collectSemifinalWinners_eq_ok.mp success
      exact known.collect checks.found checks.indexed checks.uncollected checks.size pushed
        (length_picked_slots resolved) rfl rfl rfl
  | collectTier1Winners shardIndex accounts =>
      obtain ⟨tier1, result, run, recorded, checks, recording, rfl⟩ :=
        collectTier1Winners_eq_ok.mp success
      obtain ⟨picked, resolved, inserted⟩ := recordWinners_eq_ok.mp recording
      obtain ⟨_, layout, sorted⟩ := formed.tier1 checks.found
      have kept := sorted.insertWinners inserted
      refine ⟨?_, known.finalists, known.field⟩
      rintro _ ⟨⟩
      have counted : recorded.winnerCount = tier1.winnerCount + picked.length := by
        rw [← kept.sorted.length_activeWinners, kept.members.length_eq, List.length_append,
          sorted.length_activeWinners]
      have marks (j : Nat)
          : (markDone tier1 shardIndex).shardDone[j]? = some true
            ↔ tier1.shardDone[j]? = some true ∨ j = shardIndex :=
        shardDone_markDone (checks.indexed.trans_le layout.bounded)
      have added := quota_collect (by simp [checks.uncollected]) checks.indexed checks.size marks
      change recorded.winnerCount = _
      rw [counted, length_picked_slots resolved, known.winners checks.found, ← added,
        kept.frame]
      rfl
  | applyBracketResult resultIndex =>
      obtain ⟨bracket, result, top, checks, _, rfl⟩ := applyBracketResult_eq_ok.mp success
      refine known.quiet rfl ?_ id
      rintro _ ⟨⟩
      exact ⟨bracket, checks.found, rfl, rfl, rfl, rfl⟩
  | revealTop3V5Callback computationOffset verified =>
      obtain ⟨_, _, _, _, _, rfl⟩ := revealTop3V5Callback_eq_ok.mp success
      exact ⟨known.winners, known.finalists, known.field⟩

/-- An applied bracket names one winner for each of the first three places that have a
participant.
-/
theorem QuotasMet.length_top (known : QuotasMet ledger) (formed : WellFormed ⟨ledger, journal⟩)
    {env : Env} {resultIndex : Nat} {bracket : BracketState} {result : RevealTop3V3Result}
    {top : List Pubkey} (checks : ApplyChecks env ledger resultIndex bracket result)
    (resolved : resolveTop bracket result resultIndex = .ok top)
    : top.length = min shardWinners ledger.round.participantCount := by
  have few := formed.shardCount_le checks.found
  have counted := formed.counted checks.found
  have field
      : min shardWinners (quota bracket.shardSizes bracket.shardCount fun k =>
          bracket.shardsCollected.testBit k)
        = min shardWinners (bracket.shardSizes.toList.take bracket.shardCount).sum :=
    min_quota fun k inside => testBit_of_allShardsCollected checks.collected few inside
  rw [← known.finalists checks.found, known.field checks.found] at field
  rw [← field]
  by_cases one : bracket.shardCount = 1
  · obtain ⟨_, _, rfl⟩ := (resolveTop_single one).mp resolved
    rw [List.length_take, BracketState.activeFinalists, List.length_take, Vector.length_toList,
      Nat.min_eq_left counted]
    rfl
  · obtain ⟨_, _, picked⟩ := (resolveTop_many one).mp resolved
    rw [length_picked picked, List.length_take]
    exact Nat.min_comm _ _

end SecretGarden.Bracket
