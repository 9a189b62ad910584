import SecretGarden.AutoCycle.Resumption
import SecretGarden.AutoCycle.Scripted
import SecretGarden.Bracket.Quotas

/-! Where the script alone has revealed, one more run of it can go on from whatever was left. -/

namespace SecretGarden.AutoCycle

open Foundation SecretGarden.Bracket

variable {plan : BracketPlan} {state : JournaledReveal} {target : ResultAddress}
  {sorted : List Pubkey}

/-- Under a pinned partition every account answers for its run, or has none yet. -/
theorem Paced.answersFor (paced : Paced plan state) (tracked : Tracked state.system)
    {generation : Nat} (pinned : state.system.stampOf (plan.ownerOf target) = some generation)
    : Answers state.system target generation (plan.runOf state.system target) := by
  cases found : state.system.results.lookup target with
  | none => exact answers_of_vacant tracked found _ _
  | some result =>
      obtain ⟨stamp, stamped, answers⟩ := (paced.answered found).answers
      cases pinned.symm.trans stamped
      exact answers

theorem Paced.finalResumable (paced : Paced plan state) (tracked : Tracked state.system)
    {bracket : BracketState} (found : state.system.bracket = some bracket)
    : FinalResumable bracket state.system := by
  have stamp : state.system.stampOf .bracket = some bracket.generation := by
    rw [RevealLedger.stampOf, found]
    rfl
  have finalists : plan.runOf state.system (.shard finalShardIndex) = bracket.activeFinalists :=
    BracketPlan.runOf_final found
  rw [FinalResumable]
  split
  · rw [← finalists]
    exact paced.answersFor tracked (BracketPlan.ownerOf_final ▸ stamp)
  · next unqueued =>
      exact idle_of_vacant tracked (paced.unqueued found (by simpa using unqueued))

theorem Paced.singleTier (paced : Paced plan state) (tracked : Tracked state.system)
    (single : plan.tier = .single) (ordinary : ∀ k < plan.shards.length, k ≠ finalShardIndex)
    : SingleTierResumable plan state.system := by
  intro bracket found
  rw [if_pos (paced.pinned found single)]
  refine ⟨fun k inside _ => ?_, paced.finalResumable tracked found⟩
  have entries : plan.runOf state.system (.shard k) = plan.entriesOf k :=
    BracketPlan.runOf_shard (ordinary k inside)
  rw [← entries]
  refine paced.answersFor tracked ?_
  rw [BracketPlan.ownerOf_single single, RevealLedger.stampOf, Option.mem_def.mp found]
  rfl

/-- A first tier that is over has three winners from each of its shards. -/
theorem winnerCount_of_collected {tier1 : Tier1State} (planned : Planned sorted plan)
    (large : singleTierCapacity < sorted.length) (formed : WellFormed state)
    (quotas : QuotasMet state.system) (found : state.system.tier1 = some tier1)
    (isMatch : partitionMatches tier1.shardCount tier1.shardSizes tier1.shardBounds plan)
    (collected : tier1.allShardsCollected)
    : tier1.winnerCount = semifinalCount sorted.length * shardWinners := by
  obtain ⟨count, declared⟩ := planned.layoutOf_eq isMatch
  obtain ⟨_, layout, _⟩ := formed.tier1 found
  have sizes := congrArg Layout.sizes declared
  have size (k : Nat) (inside : k < tier1.shardCount)
      : min shardWinners (tier1.shardSizes[k]?.getD 0) = shardWinners := by
    have within := count ▸ inside
    have slot := congrArg (·[k]?) sizes
    simp only [layoutOf, plannedLayout, List.getElem?_take_of_lt inside, Vector.getElem?_toList,
      List.getElem?_map, List.getElem?_range within, Option.map_some] at slot
    rw [slot, Option.getD_some, ← length_winnersSlice within]
    exact Nat.min_eq_left (shardWinners_le_slice large within)
  rw [quotas.winners found,
    quota_complete fun k inside => layout.done_of_allShardsCollected collected inside,
    Finset.sum_congr rfl fun k inside => size k (Finset.mem_range.mp inside), ← count]
  simp

theorem Paced.semifinals (paced : Paced plan state) (tracked : Tracked state.system)
    (formed : WellFormed state) (quotas : QuotasMet state.system) (planned : Planned sorted plan)
    (large : singleTierCapacity < sorted.length) (fits : sorted.length ≤ twoTierCapacity)
    {tier1 : Tier1State} {bracket : BracketState} (found : state.system.tier1 = some tier1)
    (held : state.system.bracket = some bracket)
    : SemifinalsResumable tier1 bracket state.system := by
  obtain ⟨two, isMatch⟩ := paced.pinnedTier1 found
  obtain ⟨_, same, promoted, collected⟩ := paced.promoted held two
  cases found.symm.trans same
  refine ⟨fun k _ _ => ?_, fun alone => ?_, paced.finalResumable tracked held⟩
  · have slice : plan.runOf state.system (.semifinal k) = winnersSlice tier1.activeWinners k :=
      BracketPlan.runOf_semifinal found
    rw [← slice]
    refine paced.answersFor tracked ?_
    rw [BracketPlan.ownerOf_semifinal, RevealLedger.stampOf, held]
    rfl
  · -- so many winners never fit one semifinal
    have sliced := formed.sliced held (formed.promoted found promoted)
    have count := winnerCount_of_collected planned large formed quotas found isMatch collected
    have several := (semifinals_of_large large fits).1
    rw [sliced.count, (formed.tier1 found).2.2.length_activeWinners, count] at alone
    exact absurd alone several.ne'

theorem Paced.twoTier (paced : Paced plan state) (tracked : Tracked state.system)
    (formed : WellFormed state) (quotas : QuotasMet state.system) (planned : Planned sorted plan)
    (large : singleTierCapacity < sorted.length) (fits : sorted.length ≤ twoTierCapacity)
    (ordinary : ∀ k < plan.shards.length, k ≠ finalShardIndex)
    : TwoTierResumable plan state.system := by
  have two : plan.tier = .two := planned.tier.trans (if_pos large)
  rw [TwoTierResumable]
  split
  · exact fun tier1 found bracket held =>
      paced.semifinals tracked formed quotas planned large fits found held
  · next waiting =>
      obtain ⟨_, vacant⟩ := paced.unpromoted two fun tier1 found => by
        simpa [found] using waiting
      refine ⟨⟨fun absent k inside => ?_, fun tier1 found => ?_⟩, fun k _ => ?_,
        idle_of_vacant tracked (vacant _ BracketPlan.ownerOf_final)⟩
      · refine Option.isNone_iff_eq_none.mpr (paced.vacant ?_)
        rw [BracketPlan.ownerOf_tier1 two (ordinary k inside), RevealLedger.stampOf,
          Option.isNone_iff_eq_none.mp absent]
        rfl
      · rw [if_pos (paced.pinnedTier1 found).2]
        intro k inside _
        have entries : plan.runOf state.system (.shard k) = plan.entriesOf k :=
          BracketPlan.runOf_shard (ordinary k inside)
        rw [← entries]
        refine paced.answersFor tracked ?_
        rw [BracketPlan.ownerOf_tier1 two (ordinary k inside), RevealLedger.stampOf,
          Option.mem_def.mp found]
        rfl
      · exact Option.isNone_iff_eq_none.mpr (vacant _ BracketPlan.ownerOf_semifinal)

/-- What the script left of a reveal, it can resume: nothing stands that the plan does not
explain.
-/
theorem Paced.resumable {entryKeys : List Pubkey} (paced : Paced plan state)
    (success : planBracket entryKeys = .ok plan) (tracked : Tracked state.system)
    (formed : WellFormed state) (quotas : QuotasMet state.system)
    : Resumable entryKeys state.system := by
  have planned := planned_of_success success
  have ordinary : ∀ k < plan.shards.length, k ≠ finalShardIndex :=
    fun _ inside => ordinary_of_planned success inside
  intro other named
  rw [success] at named
  cases named
  have tier := planned.tier
  split
  · next two =>
      have large : singleTierCapacity < (sortEntriesByteWise entryKeys).length := by
        by_contra small
        rw [if_neg small, two] at tier
        cases tier
      exact paced.twoTier tracked formed quotas planned large (fits_of_planned success).2 ordinary
  · next other =>
      refine paced.singleTier tracked ?_ ordinary
      cases made : plan.tier with
      | single => rfl
      | two => exact absurd made other

end SecretGarden.AutoCycle
