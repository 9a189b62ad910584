import SecretGarden.AutoCycle.Planner
import SecretGarden.Bracket.Distinct

/-! The planned partition splits the round and passes the program's layout checks.
The planner slices the sorted entries just as a promotion slices the sorted winners.
-/

namespace SecretGarden.AutoCycle

open Foundation SecretGarden.Bracket

/-- The slices of sorted entries as a layout. -/
def plannedLayout (sorted : List Pubkey) : Layout Pubkey :=
  let count := semifinalCount sorted.length
  { sizes := (List.range count).map (balancedSize sorted.length count)
    bounds := (List.range count).map fun k => (winnersSlice sorted k)[0]?.getD 0 }

/-- What a successful planning returns. -/
structure Planned (sorted : List Pubkey) (plan : BracketPlan) : Prop where
  tier : plan.tier = if singleTierCapacity < sorted.length then .two else .single
  sizes : plan.sizes = (plannedLayout sorted).sizes
  shards : plan.shards = (List.range (semifinalCount sorted.length)).map fun k =>
    { entries := winnersSlice sorted k, bound := (winnersSlice sorted k)[0]?.getD 0 }
  semifinals : plan.semifinalSizes
    = if plan.tier = .two then planShardSizes (expectedTier1Winners plan.sizes) maxShardSize
      else []

/-- The planned sizes are those of a promotion. -/
theorem planShardSizes_eq {n : Nat} (filled : 1 ≤ n)
    : planShardSizes n maxShardSize
      = (List.range (semifinalCount n)).map (balancedSize n (semifinalCount n)) := by
  have played := one_le_semifinalCount filled
  rw [planShardSizes, if_neg (by omega)]
  change (List.range (Nat.max 1 (semifinalCount n))).map
    (balancedSize n (Nat.max 1 (semifinalCount n))) = _
  rw [show Nat.max 1 (semifinalCount n) = semifinalCount n from Nat.max_eq_right played]

/-- Each shard is cut where the earlier ones end, by induction on the sizes. -/
theorem getElem?_cutShards (sorted : List Pubkey) (sizes : List Nat) (cursor k : Nat)
    : (cutShards sorted cursor sizes)[k]? = sizes[k]?.map fun size =>
        let chunk := (sorted.drop (cursor + (sizes.take k).sum)).take size
        { entries := chunk, bound := chunk[0]?.getD 0 } := by
  induction sizes generalizing cursor k with
  | nil => rfl
  | cons size rest ih =>
      cases k with
      | zero => rfl
      | succ k =>
          rw [cutShards, List.getElem?_cons_succ, List.getElem?_cons_succ, ih,
            List.take_succ_cons, List.sum_cons, Nat.add_assoc]

/-- The planned shards are the slices of the sorted entries. -/
theorem cutShards_eq {sorted : List Pubkey} (filled : 1 ≤ sorted.length)
    : cutShards sorted 0 (planShardSizes sorted.length maxShardSize)
      = (List.range (semifinalCount sorted.length)).map fun k =>
          { entries := winnersSlice sorted k
            bound := (winnersSlice sorted k)[0]?.getD 0 } := by
  apply List.ext_getElem?
  intro k
  rw [getElem?_cutShards, planShardSizes_eq filled, List.getElem?_map, List.getElem?_map]
  by_cases inside : k < semifinalCount sorted.length
  · have start : (((List.range (semifinalCount sorted.length)).map
        (balancedSize sorted.length (semifinalCount sorted.length))).take k).sum
        = sliceStart sorted.length (semifinalCount sorted.length) k := by
      rw [← List.map_take, List.take_range, Nat.min_eq_left inside.le, sliceStart]
    rw [List.getElem?_range inside, Option.map_some, Option.map_some, start, Nat.zero_add]
    rfl
  · rw [List.getElem?_eq_none (by simpa using inside)]
    rfl

/-- A round that one reveal can hold is planned. -/
theorem planBracket_succeeds {entries : List Pubkey} (filled : 1 ≤ entries.length)
    (fits : entries.length ≤ twoTierCapacity)
    : ∃ plan, planBracket entries = .ok plan ∧ Planned (sortEntriesByteWise entries) plan := by
  let sorted := sortEntriesByteWise entries
  have length : sorted.length = entries.length := (List.perm_insertionSort _ _).length_eq
  have some : 1 ≤ sorted.length := length ▸ filled
  have sizes := planShardSizes_eq some
  have few : (planShardSizes sorted.length maxShardSize).length
      ≤ if (if singleTierCapacity < sorted.length then BracketTier.two else .single) = .two
        then maxTier1Shards else maxShards := by
    rw [sizes, List.length_map, List.length_range, semifinalCount]
    simp only [twoTierCapacity, maxTier1Shards, maxShardSize] at fits
    by_cases large : singleTierCapacity < sorted.length
    · rw [if_pos large, if_pos rfl]
      simp only [maxShardSize, maxTier1Shards]
      omega
    · rw [if_neg large, if_neg nofun]
      simp only [singleTierCapacity, maxShards, maxShardSize] at large ⊢
      omega
  refine ⟨_, bind_eq_ok.mpr ⟨(), require_eq_ok.mpr (Nat.pos_iff_ne_zero.mp some),
    bind_eq_ok.mpr ⟨(), require_eq_ok.mpr (length.trans_le fits),
      bind_eq_ok.mpr ⟨(), require_eq_ok.mpr few, rfl⟩⟩⟩, rfl, sizes, cutShards_eq some, rfl⟩

/-- What is planned fits two tiers. -/
theorem fits_of_planned {entries : List Pubkey} {plan : BracketPlan}
    (success : planBracket entries = .ok plan)
    : (sortEntriesByteWise entries).length ≠ 0
      ∧ (sortEntriesByteWise entries).length ≤ twoTierCapacity := by
  simp only [planBracket, bind_eq_ok, require_eq_ok, exists_const] at success
  obtain ⟨some, fits, _⟩ := success
  exact ⟨some, fits⟩

/-- Whatever is planned is the partition of the sorted entries. -/
theorem planned_of_success {entries : List Pubkey} {plan : BracketPlan}
    (success : planBracket entries = .ok plan) : Planned (sortEntriesByteWise entries) plan := by
  obtain ⟨some, fits⟩ := fits_of_planned success
  have length : (sortEntriesByteWise entries).length = entries.length :=
    (List.perm_insertionSort _ _).length_eq
  rw [length] at some fits
  obtain ⟨other, same, planned⟩ := planBracket_succeeds (Nat.one_le_iff_ne_zero.mpr some) fits
  cases success.symm.trans same
  exact planned

/-- The order in which entries are listed makes no difference once they are sorted. -/
theorem sortEntriesByteWise_perm {entries others : List Pubkey} (same : entries.Perm others)
    : sortEntriesByteWise entries = sortEntriesByteWise others := by
  refine List.Perm.eq_of_pairwise' (List.pairwise_insertionSort _ _)
    (List.pairwise_insertionSort _ _) ?_
  exact (List.perm_insertionSort _ _).trans (same.trans (List.perm_insertionSort _ _).symm)

/-- Nor does it to their plan. -/
theorem planBracket_perm {entries others : List Pubkey} (same : entries.Perm others)
    : planBracket entries = planBracket others := by
  simp only [planBracket, sortEntriesByteWise_perm same]

--------------------------------------------------------------------------------
-- The planned layout
--------------------------------------------------------------------------------

section Layout

variable {sorted : List Pubkey} {k : Nat}

@[simp] theorem length_sizes_plannedLayout
    : (plannedLayout sorted).sizes.length = semifinalCount sorted.length := by
  simp [plannedLayout]

@[simp] theorem length_bounds_plannedLayout
    : (plannedLayout sorted).bounds.length = semifinalCount sorted.length := by
  simp [plannedLayout]

/-- A slice starts with the entry at its position. -/
theorem head_winnersSlice (filled : 1 ≤ sorted.length)
    (inside : k < semifinalCount sorted.length)
    : ∃ first,
        sorted[sliceStart sorted.length (semifinalCount sorted.length) k]? = some first
        ∧ (winnersSlice sorted k)[0]? = some first := by
  have within := slice_within inside
  have size := (balancedSize_bounds filled (k := k)).1
  simp only [minShardSize] at size
  have early : sliceStart sorted.length (semifinalCount sorted.length) k < sorted.length := by
    omega
  refine ⟨_, List.getElem?_eq_getElem early, ?_⟩
  rw [winnersSlice, List.getElem?_take_of_lt size, List.getElem?_drop, Nat.add_zero,
    List.getElem?_eq_getElem early]

theorem bound_plannedLayout (filled : 1 ≤ sorted.length)
    (inside : k < semifinalCount sorted.length)
    : (plannedLayout sorted).bounds[k]?
      = sorted[sliceStart sorted.length (semifinalCount sorted.length) k]? := by
  obtain ⟨first, found, head⟩ := head_winnersSlice filled inside
  rw [plannedLayout, List.getElem?_map, List.getElem?_range inside, Option.map_some, head,
    found, Option.getD_some]

/-- The first keys of the planned shards ascend with their positions. -/
theorem bounds_plannedLayout_ascending (filled : 1 ≤ sorted.length)
    (ascending : sorted.Pairwise (· < ·))
    : (plannedLayout sorted).bounds.Pairwise (· < ·) := by
  rw [List.pairwise_iff_getElem]
  intro i j insideI insideJ before
  have first := bound_plannedLayout filled (by simpa using insideI)
  have second := bound_plannedLayout filled (by simpa using insideJ)
  rw [List.getElem?_eq_getElem insideI] at first
  rw [List.getElem?_eq_getElem insideJ] at second
  obtain ⟨placedI, valueI⟩ := List.getElem?_eq_some_iff.mp first.symm
  obtain ⟨placedJ, valueJ⟩ := List.getElem?_eq_some_iff.mp second.symm
  rw [← valueI, ← valueJ]
  apply List.pairwise_iff_getElem.mp ascending
  have next := sliceStart_succ sorted.length (semifinalCount sorted.length) i
  have size := (balancedSize_bounds filled (k := i)).1
  have later := sliceStart_mono sorted.length (semifinalCount sorted.length) before
  simp only [minShardSize, Nat.succ_eq_add_one] at size later
  omega

/-- Each slice of the sorted entries is admitted for its shard. -/
theorem plannedLayout_admits (filled : 1 ≤ sorted.length) (ascending : sorted.Pairwise (· < ·))
    (inside : k < semifinalCount sorted.length)
    : (plannedLayout sorted).Admits k (winnersSlice sorted k) := by
  obtain ⟨first, found, head⟩ := head_winnersSlice filled inside
  constructor
  · rw [plannedLayout, List.getElem?_map, List.getElem?_range inside, Option.map_some,
      length_winnersSlice inside]
  · rw [bound_plannedLayout filled inside, found, List.head?_eq_getElem?, head]
  · exact ascending.sublist winnersSlice_sublist
  · intro key member high declared
    have next : k + 1 < semifinalCount sorted.length := by
      simpa using (List.getElem?_eq_some_iff.mp declared).1
    rw [bound_plannedLayout filled next] at declared
    obtain ⟨i, _, early, placed⟩ := mem_winnersSlice member
    obtain ⟨insideI, rfl⟩ := List.getElem?_eq_some_iff.mp placed
    obtain ⟨insideJ, rfl⟩ := List.getElem?_eq_some_iff.mp declared
    exact List.pairwise_iff_getElem.mp ascending _ _ insideI insideJ early

/-- The planned layout splits any field with these entries. -/
theorem plannedLayout_splits {field : List Pubkey} (filled : 1 ≤ sorted.length)
    (ascending : sorted.Pairwise (· < ·)) (same : sorted.Perm field)
    : (plannedLayout sorted).Splits field := by
  refine ⟨?_, winnersSlice sorted, ⟨bounds_plannedLayout_ascending filled ascending, by simp,
    fun k inside => plannedLayout_admits filled ascending (by simpa using inside)⟩,
    fun k _ key member => same.subset (winnersSlice_sublist.subset member)⟩
  rw [← same.length_eq]
  exact sliceStart_count (one_le_semifinalCount filled)

/-- The field's keys in a planned shard are its slice. -/
theorem interval_plannedLayout {field : List Pubkey} (filled : 1 ≤ sorted.length)
    (ascending : sorted.Pairwise (· < ·)) (same : sorted.Perm field)
    (inside : k < semifinalCount sorted.length)
    : (plannedLayout sorted).interval field k = winnersSlice sorted k :=
  ((plannedLayout_splits filled ascending same).admitted_eq (by simpa using inside)
    (plannedLayout_admits filled ascending inside)
    fun _ member => same.subset (winnersSlice_sublist.subset member)).symm

end Layout

--------------------------------------------------------------------------------
-- Two tiers
--------------------------------------------------------------------------------

section TwoTiers

variable {sorted : List Pubkey} (large : singleTierCapacity < sorted.length)
  (fits : sorted.length ≤ twoTierCapacity)

include large

/-- The shards of a round above one tier's capacity have three winners each. -/
theorem shardWinners_le_slice {k : Nat} (inside : k < semifinalCount sorted.length)
    : shardWinners ≤ (winnersSlice sorted k).length := by
  have three : shardWinners ≤ sorted.length / semifinalCount sorted.length := by
    rw [Nat.le_div_iff_mul_le (Nat.zero_lt_of_lt inside), semifinalCount]
    simp only [singleTierCapacity, maxShards, maxShardSize, shardWinners, revealTopK] at large ⊢
    omega
  rw [length_winnersSlice inside, balancedSize]
  exact three.trans (Nat.le_add_right _ _)

include fits

/-- They play several semifinals, and no more than a bracket has room for. -/
theorem semifinals_of_large
    : 1 < semifinalCount (semifinalCount sorted.length * shardWinners)
      ∧ semifinalCount (semifinalCount sorted.length * shardWinners) ≤ maxShards
      ∧ semifinalCount sorted.length ≤ maxTier1Shards := by
  simp only [semifinalCount, singleTierCapacity, twoTierCapacity, maxShards, maxTier1Shards,
    maxShardSize, shardWinners, revealTopK] at large fits ⊢
  omega

end TwoTiers

--------------------------------------------------------------------------------
-- Pinned as planned
--------------------------------------------------------------------------------

section Pinned

variable {sorted : List Pubkey} {plan : BracketPlan} {capacity : Nat}

theorem Planned.count (planned : Planned sorted plan)
    : plan.shards.length = semifinalCount sorted.length := by
  rw [planned.shards, List.length_map, List.length_range]

theorem Planned.bounds (planned : Planned sorted plan)
    : plan.shards.map ShardPlan.bound = (plannedLayout sorted).bounds := by
  rw [planned.shards, List.map_map]
  rfl

theorem Planned.shard (planned : Planned sorted plan) {k : Nat}
    (inside : k < semifinalCount sorted.length)
    : plan.shards[k]? = some
        { entries := winnersSlice sorted k, bound := (winnersSlice sorted k)[0]?.getD 0 } := by
  rw [planned.shards, List.getElem?_map, List.getElem?_range inside]
  rfl

/-- Above one tier's capacity every planned shard has three winners. -/
theorem Planned.winners (planned : Planned sorted plan)
    (large : singleTierCapacity < sorted.length)
    : expectedTier1Winners plan.sizes = semifinalCount sorted.length * shardWinners := by
  have three : (plannedLayout sorted).sizes.map (min shardWinners)
      = (List.range (semifinalCount sorted.length)).map fun _ => shardWinners := by
    rw [plannedLayout, List.map_map]
    refine List.map_congr_left fun k inside => Nat.min_eq_left ?_
    rw [← length_winnersSlice (List.mem_range.mp inside)]
    exact shardWinners_le_slice large (List.mem_range.mp inside)
  rw [expectedTier1Winners, planned.sizes, three, List.map_const', List.sum_replicate_nat,
    List.length_range]

/-- The planned semifinals of a round above one tier's capacity. -/
theorem Planned.length_semifinals (planned : Planned sorted plan)
    (large : singleTierCapacity < sorted.length)
    : plan.semifinalSizes.length
      = semifinalCount (semifinalCount sorted.length * shardWinners) := by
  have tier : plan.tier = .two := planned.tier.trans (if_pos large)
  have some : 1 ≤ semifinalCount sorted.length * shardWinners :=
    Nat.mul_pos (one_le_semifinalCount (Nat.one_le_of_lt large)) (by decide)
  rw [planned.semifinals, if_pos tier, planned.winners large, planShardSizes_eq some,
    List.length_map, List.length_range]

/-- Padding keeps the values where they are. -/
theorem getElem?_padNumbers (values : List Nat) (fits : values.length ≤ capacity) {k : Nat}
    (inside : k < values.length) : (padNumbers values capacity)[k]? = values[k]? := by
  rw [padNumbers, Vector.getElem?_ofFn, dif_pos (inside.trans_le fits),
    List.getElem?_eq_getElem inside, Option.getD_some]

/-- Padding keeps the values in front. -/
theorem take_padNumbers (values : List Nat) (fits : values.length ≤ capacity)
    : (padNumbers values capacity).toList.take values.length = values := by
  apply List.ext_getElem?
  intro i
  by_cases inside : i < values.length
  · rw [List.getElem?_take_of_lt inside, Vector.getElem?_toList,
      getElem?_padNumbers values fits inside]
  · rw [List.getElem?_take, if_neg inside, List.getElem?_eq_none (not_lt.mp inside)]

/-- What is padded is zero. -/
theorem drop_padNumbers (values : List Nat) {size : Nat}
    (member : size ∈ (padNumbers values capacity).toList.drop values.length) : size = 0 := by
  obtain ⟨i, found⟩ := List.mem_iff_getElem?.mp member
  rw [List.getElem?_drop, Vector.getElem?_toList, padNumbers, Vector.getElem?_ofFn] at found
  split at found
  · rw [List.getElem?_eq_none (Nat.le_add_right _ _)] at found
    exact (Option.some.inj found).symm
  · cases found

/-- The planned partition as it is pinned. -/
theorem layoutOf_padded (fits : semifinalCount sorted.length ≤ capacity)
    : layoutOf (padNumbers (plannedLayout sorted).sizes capacity)
        (padKeys (plannedLayout sorted).bounds capacity) (semifinalCount sorted.length)
      = plannedLayout sorted := by
  have sizes : (padNumbers (plannedLayout sorted).sizes capacity).toList.take _ = _ :=
    take_padNumbers _ (by simpa using fits)
  have bounds : (padNumbers (plannedLayout sorted).bounds capacity).toList.take _ = _ :=
    take_padNumbers _ (by simpa using fits)
  rw [length_sizes_plannedLayout] at sizes
  rw [length_bounds_plannedLayout] at bounds
  rw [layoutOf, sizes]
  exact congrArg (Layout.mk _) bounds

/-- The planned partition passes the layout checks. -/
theorem layoutChecked_padded (filled : 1 ≤ sorted.length) (ascending : sorted.Pairwise (· < ·))
    (fits : semifinalCount sorted.length ≤ capacity)
    : LayoutChecked (padNumbers (plannedLayout sorted).sizes capacity)
        (padKeys (plannedLayout sorted).bounds capacity) (semifinalCount sorted.length)
        sorted.length := by
  have sizes := congrArg Layout.sizes (layoutOf_padded fits)
  have bounds := congrArg Layout.bounds (layoutOf_padded fits)
  simp only [layoutOf] at sizes bounds
  constructor
  · exact one_le_semifinalCount filled
  · exact fits
  · rw [sizes]
    intro size member
    obtain ⟨k, _, rfl⟩ := List.mem_map.mp member
    exact balancedSize_bounds filled
  · rw [sizes]
    exact sliceStart_count (one_le_semifinalCount filled)
  · intro size member
    exact drop_padNumbers (plannedLayout sorted).sizes (by rwa [length_sizes_plannedLayout])
  · rw [bounds]
    exact List.isChain_iff_pairwise.mpr (bounds_plannedLayout_ascending filled ascending)

/-- The arrays of the pins declare the planned partition, which passes the checks. -/
theorem Planned.pin (planned : Planned sorted plan) (filled : 1 ≤ sorted.length)
    (ascending : sorted.Pairwise (· < ·)) (fits : semifinalCount sorted.length ≤ capacity)
    : LayoutChecked (padNumbers plan.sizes capacity)
        (padKeys (plan.shards.map ShardPlan.bound) capacity) plan.shards.length sorted.length
      ∧ layoutOf (padNumbers plan.sizes capacity)
          (padKeys (plan.shards.map ShardPlan.bound) capacity) plan.shards.length
        = plannedLayout sorted := by
  rw [planned.sizes, planned.bounds, planned.count]
  exact ⟨layoutChecked_padded filled ascending fits, layoutOf_padded fits⟩

/-- A partition that matches the plan is the planned one. -/
theorem Planned.layoutOf_eq (planned : Planned sorted plan) {shardCount : Nat}
    {shardSizes : Vector Nat capacity} {shardBounds : Vector Pubkey capacity}
    (isMatch : partitionMatches shardCount shardSizes shardBounds plan)
    : shardCount = semifinalCount sorted.length
      ∧ layoutOf shardSizes shardBounds shardCount = plannedLayout sorted := by
  obtain ⟨count, shards⟩ := (Bool.and_eq_true _ _).mp isMatch
  have same : shardCount = semifinalCount sorted.length := by
    rw [← planned.count]
    exact beq_iff_eq.mp count
  have shard : ∀ k < semifinalCount sorted.length,
      shardSizes[k]? = some (winnersSlice sorted k).length
      ∧ shardBounds[k]? = some ((winnersSlice sorted k)[0]?.getD 0) := by
    intro k inside
    have listed : (⟨winnersSlice sorted k, (winnersSlice sorted k)[0]?.getD 0⟩, k)
        ∈ plan.shards.zipIdx :=
      List.mk_mem_zipIdx_iff_getElem?.mpr (planned.shard inside)
    simpa using List.all_eq_true.mp shards _ listed
  refine ⟨same, ?_⟩
  subst same
  have short : ∀ (values : Vector Nat capacity) {others : List Nat},
      others.length = semifinalCount sorted.length
      → (∀ k < semifinalCount sorted.length, values[k]? = others[k]?)
      → values.toList.take (semifinalCount sorted.length) = others := by
    intro values others length agree
    apply List.ext_getElem?
    intro i
    by_cases inside : i < semifinalCount sorted.length
    · rw [List.getElem?_take_of_lt inside, Vector.getElem?_toList, agree i inside]
    · rw [List.getElem?_take, if_neg inside, List.getElem?_eq_none (length ▸ not_lt.mp inside)]
  have sizes := short shardSizes length_sizes_plannedLayout fun k inside => by
    rw [(shard k inside).1, length_winnersSlice inside, plannedLayout, List.getElem?_map,
      List.getElem?_range inside, Option.map_some]
  have bounds := short shardBounds length_bounds_plannedLayout fun k inside => by
    rw [(shard k inside).2, plannedLayout, List.getElem?_map, List.getElem?_range inside,
      Option.map_some]
  rw [layoutOf, sizes, bounds]

/-- What the pins declare matches the plan. -/
theorem partitionMatches_padded (sizes : plan.sizes = plan.shards.map (·.entries.length))
    (fits : plan.shards.length ≤ capacity)
    : partitionMatches plan.shards.length (padNumbers plan.sizes capacity)
        (padKeys (plan.shards.map ShardPlan.bound) capacity) plan := by
  refine (Bool.and_eq_true _ _).mpr ⟨beq_self_eq_true _, List.all_eq_true.mpr ?_⟩
  rintro ⟨shard, i⟩ listed
  have found : plan.shards[i]? = some shard := List.mk_mem_zipIdx_iff_getElem?.mp listed
  have inside : i < plan.shards.length := (List.getElem?_eq_some_iff.mp found).1
  have size : (padNumbers plan.sizes capacity)[i]? = some shard.entries.length := by
    rw [getElem?_padNumbers _ (by simpa [sizes] using fits) (by simpa [sizes] using inside), sizes,
      List.getElem?_map, found]
    rfl
  have bound : (padKeys (plan.shards.map ShardPlan.bound) capacity)[i]? = some shard.bound := by
    have kept : (padKeys (plan.shards.map ShardPlan.bound) capacity)[i]?
        = (plan.shards.map ShardPlan.bound)[i]? :=
      getElem?_padNumbers _ (by simpa using fits) (by simpa using inside)
    rw [kept, List.getElem?_map, found]
    rfl
  simp [size, bound]

/-- A planned size is the number of the shard's entries. -/
theorem Planned.sizes_eq (planned : Planned sorted plan)
    : plan.sizes = plan.shards.map (·.entries.length) := by
  rw [planned.sizes, planned.shards, plannedLayout, List.map_map]
  refine List.map_congr_left fun k inside => ?_
  exact (length_winnersSlice (List.mem_range.mp inside)).symm

/-- A planned shard is not the final. -/
theorem ordinary_of_planned {entryKeys : List Pubkey} (planned : planBracket entryKeys = .ok plan)
    {k : Nat} (inside : k < plan.shards.length) : k ≠ finalShardIndex := by
  have sizes := congrArg List.length (planned_of_success planned).sizes_eq
  rw [List.length_map] at sizes
  simp only [planBracket, bind_eq_ok, require_eq_ok, exists_const, pure_eq_ok] at planned
  obtain ⟨_, _, few, made⟩ := planned
  have most : plan.sizes.length ≤ maxTier1Shards := by
    rw [← made]
    refine few.trans ?_
    split <;> decide
  have bounded := inside.trans_le (sizes.symm.trans_le most)
  simp only [maxTier1Shards, finalShardIndex] at bounded ⊢
  omega

end Pinned

end SecretGarden.AutoCycle
