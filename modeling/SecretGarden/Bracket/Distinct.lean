import SecretGarden.Bracket.Entrants
import SecretGarden.Bracket.Exactness

/-! No entry wins twice.
The shards of a bracket draw their winners from intervals of addresses that do not overlap, a
promoted bracket as well as a declared one and by whichever instruction they are collected;
within a shard the circuit names distinct places.
-/

namespace SecretGarden.Bracket

open Foundation

/-- Distinct slots resolve to distinct keys. -/
theorem picked_nodup {keys picked : List Pubkey} {size : Nat} {slots : List Nat}
    (resolved : pickWinners keys size slots = .ok picked) (distinct : slots.Nodup)
    (unique : (keys.take size).Nodup) : picked.Nodup := by
  obtain ⟨ranged, named⟩ := pickWinners_eq_ok.mp resolved
  rw [← List.nodup_map_iff (Option.some_injective Pubkey), ← named]
  refine List.Nodup.map_on (fun slot listed other listed' same => ?_) distinct
  have present : keys[slot]? ∈ picked.map some := named ▸ List.mem_map_of_mem listed
  obtain ⟨key, _, found⟩ := List.mem_map.mp present
  rw [← List.getElem?_take_of_lt (ranged slot listed)] at same found
  rw [← List.getElem?_take_of_lt (ranged other listed')] at same
  exact (List.getElem?_inj (List.getElem?_eq_some_iff.mp found.symm).1 unique).mp same

/-- The circuit names distinct places for an ascending run of entries. -/
theorem revealedSlots_nodup {entries : Store Pubkey CompetitionEntry} {accounts : List Pubkey}
    (present : AllEntries entries accounts) (ascending : accounts.Pairwise (· < ·))
    (fits : accounts.length ≤ maxParticipants)
    : ((revealedSlots entries accounts).take (min shardWinners accounts.length)).Nodup := by
  apply List.Nodup.of_map (accounts[·]?)
  rw [revealedSlots_podium present ascending fits,
    List.nodup_map_iff (Option.some_injective Pubkey)]
  exact podium_nodup present (ascending.imp ne_of_lt)

/-- A run that may be queued for a shard: as many entries as the shard has, ascending. -/
structure ShardRun (ledger : RevealLedger) (bracket : BracketState) (k : Nat)
    (accounts : List Pubkey) : Prop where
  size : bracket.shardSizes[k]? = some accounts.length
  ascending : accounts.Pairwise (· < ·)
  entered : ∀ key ∈ accounts, key ∈ ledger.roundEntries

/-- The circuit's output on any run of a shard resolves to distinct winners of the shard. -/
theorem ShardRun.picked_nodup {ledger : RevealLedger} {bracket : BracketState} {k size : Nat}
    {target : ResultAddress} {result : RevealTop3V3Result} {accounts keys picked : List Pubkey}
    (run : ShardRun ledger bracket k accounts)
    (declared : bracket.shardSizes[k]? = some size) (fits : size ≤ maxShardSize)
    (resulted : ledger.results.lookup target = some result)
    (output : ledger.HoldsOutput target accounts) (unique : (keys.take size).Nodup)
    (resolved
      : pickWinners keys size (result.slots.take (min shardWinners size)) = .ok picked)
    : picked.Nodup := by
  have same : accounts.length = size := Option.some.inj (run.size.symm.trans declared)
  have slots : result.slots = revealedSlots ledger.entries accounts := by
    rw [RevealLedger.HoldsOutput, resulted] at output
    exact Option.some.inj output
  refine Bracket.picked_nodup resolved ?_ unique
  rw [slots, ← same]
  apply revealedSlots_nodup (allEntries_of_roundEntries run.entered) run.ascending
  rw [same]
  exact fits.trans (by decide)

variable {winners : List Pubkey} {k : Nat}

/-- A slice's winners stand between its start and the next one. -/
theorem mem_winnersSlice {key : Pubkey} (member : key ∈ winnersSlice winners k)
    : ∃ i,
        sliceStart winners.length (semifinalCount winners.length) k ≤ i
        ∧ i < sliceStart winners.length (semifinalCount winners.length) (k + 1)
        ∧ winners[i]? = some key := by
  obtain ⟨offset, found⟩ := List.mem_iff_getElem?.mp member
  have early := (List.getElem?_eq_some_iff.mp found).1
  rw [winnersSlice, List.length_take] at early
  rw [winnersSlice, List.getElem?_take_of_lt (by omega), List.getElem?_drop] at found
  refine ⟨_, Nat.le_add_right _ offset, ?_, found⟩
  rw [sliceStart_succ]
  omega

/-- Ascending winners are ordered as their positions are. -/
theorem winners_le {i j : Nat} {low high : Pubkey} (ascending : winners.Pairwise (· < ·))
    (le : i ≤ j) (first : winners[i]? = some low) (second : winners[j]? = some high)
    : low ≤ high := by
  obtain ⟨inside, rfl⟩ := List.getElem?_eq_some_iff.mp first
  obtain ⟨inside', rfl⟩ := List.getElem?_eq_some_iff.mp second
  rcases le.lt_or_eq with before | rfl
  · exact (List.pairwise_iff_getElem.mp ascending i j inside inside' before).le
  · exact le_rfl

/-- The shards of a promoted bracket begin at the first winners of their slices. -/
def BoundsSliced (bracket : BracketState) (winners : List Pubkey) : Prop :=
  ∀ k < bracket.shardCount,
    bracket.shardBounds[k]?
      = winners[sliceStart winners.length (semifinalCount winners.length) k]?

/-- The bracket of a promotion begins its shards there. -/
theorem boundsSliced_freshBracket {ledger : RevealLedger} {tier1 : Tier1State}
    (sorted : SortedWinners tier1) (winning : 1 ≤ tier1.winnerCount)
    (fits : semifinalCount tier1.winnerCount ≤ maxShards)
    : BoundsSliced (ledger.freshBracket (semifinalSizes tier1.winnerCount)
        (semifinalBounds tier1) (semifinalCount tier1.winnerCount)) tier1.activeWinners := by
  intro k inside
  change k < semifinalCount tier1.winnerCount at inside
  have filled := (balancedSize_bounds winning (k := k)).1
  have within := slice_within inside
  simp only [minShardSize] at filled
  have early : sliceStart tier1.winnerCount (semifinalCount tier1.winnerCount) k
      < tier1.winnerCount := by omega
  have stored := early.trans_le sorted.counted
  change (semifinalBounds tier1)[k]? = _
  rw [sorted.length_activeWinners, Tier1State.activeWinners, List.getElem?_take_of_lt early,
    semifinalBounds, Vector.getElem?_ofFn, dif_pos (inside.trans_le fits), if_pos inside,
    Vector.getElem?_toList, Vector.getElem?_eq_getElem stored, Option.getD_some]

section Promoted

variable {bracket : BracketState} (into : SlicedInto bracket winners)
  (bounds : BoundsSliced bracket winners)

include into bounds in
/-- The first winners of the slices ascend. -/
theorem SlicedInto.bounds_ascending
    : (bracket.shardBounds.toList.take bracket.shardCount).Pairwise (· < ·) := by
  rw [List.pairwise_iff_getElem]
  intro i j insideI insideJ before
  have countI : i < bracket.shardCount := by
    rw [List.length_take] at insideI
    omega
  have countJ : j < bracket.shardCount := by
    rw [List.length_take] at insideJ
    omega
  have first := bounds i countI
  have second := bounds j countJ
  rw [← Vector.getElem?_toList, ← List.getElem?_take_of_lt countI,
    List.getElem?_eq_getElem insideI] at first
  rw [← Vector.getElem?_toList, ← List.getElem?_take_of_lt countJ,
    List.getElem?_eq_getElem insideJ] at second
  obtain ⟨placedI, valueI⟩ := List.getElem?_eq_some_iff.mp first.symm
  obtain ⟨placedJ, valueJ⟩ := List.getElem?_eq_some_iff.mp second.symm
  rw [← valueI, ← valueJ]
  apply List.pairwise_iff_getElem.mp into.ascending
  have next := sliceStart_succ winners.length (semifinalCount winners.length) i
  have filled := (balancedSize_bounds into.winning (k := i)).1
  have later := sliceStart_mono winners.length (semifinalCount winners.length) before
  simp only [minShardSize, Nat.succ_eq_add_one] at filled later
  omega

include into bounds in
/-- The winners of a slice lie in the shard's interval. -/
theorem SlicedInto.within {key : Pubkey} (inside : k < bracket.shardCount)
    (member : key ∈ winnersSlice winners k)
    : (layoutOf bracket.shardSizes bracket.shardBounds bracket.shardCount).Within k key := by
  obtain ⟨i, after, before, found⟩ := mem_winnersSlice member
  constructor
  · intro low declared
    rw [layoutOf, List.getElem?_take_of_lt inside, Vector.getElem?_toList, bounds k inside]
      at declared
    exact winners_le into.ascending after declared found
  · intro high declared
    rw [layoutOf] at declared
    have next : k + 1 < bracket.shardCount := by
      have := (List.getElem?_eq_some_iff.mp declared).1
      rw [List.length_take] at this
      omega
    rw [List.getElem?_take_of_lt next, Vector.getElem?_toList, bounds (k + 1) next] at declared
    obtain ⟨insideI, rfl⟩ := List.getElem?_eq_some_iff.mp found
    obtain ⟨insideJ, rfl⟩ := List.getElem?_eq_some_iff.mp declared
    exact List.pairwise_iff_getElem.mp into.ascending _ _ insideI insideJ before

end Promoted

--------------------------------------------------------------------------------
-- The invariant
--------------------------------------------------------------------------------

/-- The finalists so far are distinct, each from the interval of a collected shard, and the runs
queued for a shard fit it.
-/
structure FinalistsDistinct (state : JournaledReveal) : Prop where
  bounds : ∀ {bracket winners}, state.system.bracket = some bracket
    → state.journal.sliced = some winners
    → BoundsSliced bracket winners
  queued : ∀ {bracket}, state.system.bracket = some bracket
    → ∀ record ∈ state.journal.queued, record.pin = state.journal.pinOf .bracket
      → ∀ k < bracket.shardCount, record.target = .shard k
        → ShardRun state.system bracket k record.accounts
  drawn : ∀ {bracket}, state.system.bracket = some bracket
    → ∀ key ∈ bracket.activeFinalists,
        ∃ k < bracket.shardCount,
          bracket.shardsCollected.testBit k
          ∧ (layoutOf bracket.shardSizes bracket.shardBounds bracket.shardCount).Within k key
  unique : ∀ {bracket}, state.system.bracket = some bracket → bracket.activeFinalists.Nodup

/-- Nothing is collected without a bracket. -/
theorem finalistsDistinct_of_none {ledger : RevealLedger} (bracket : ledger.bracket = none)
    (journal : Journal) : FinalistsDistinct ⟨ledger, journal⟩ := by
  constructor <;> simp [bracket]

variable {state : JournaledReveal} {after : RevealLedger} {journal : Journal}

/-- The same shards, with the same or fewer finalists in any order. -/
structure SameShards (bracket recorded : BracketState) : Prop where
  count : recorded.shardCount = bracket.shardCount
  sizes : recorded.shardSizes = bracket.shardSizes
  bounds : recorded.shardBounds = bracket.shardBounds
  collected : recorded.shardsCollected = bracket.shardsCollected
  finalists : ∀ key ∈ recorded.activeFinalists, key ∈ bracket.activeFinalists
  unique : bracket.activeFinalists.Nodup → recorded.activeFinalists.Nodup

theorem SameShards.refl (bracket : BracketState) : SameShards bracket bracket :=
  ⟨rfl, rfl, rfl, rfl, fun _ => id, id⟩

/-- A run still fits its shard when entries join. -/
theorem ShardRun.mono {ledger : RevealLedger} {bracket recorded : BracketState} {k : Nat}
    {accounts : List Pubkey} (run : ShardRun ledger bracket k accounts)
    (sizes : recorded.shardSizes = bracket.shardSizes)
    (entries : ∀ key ∈ ledger.roundEntries, key ∈ after.roundEntries)
    : ShardRun after recorded k accounts :=
  ⟨sizes ▸ run.size, run.ascending, fun key member => entries key (run.entered key member)⟩

/-- Finalists stay distinct while nothing is collected, whatever is queued that fits. -/
theorem FinalistsDistinct.keep (known : FinalistsDistinct state)
    (entries : ∀ key ∈ state.system.roundEntries, key ∈ after.roundEntries)
    (bracket
      : ∀ {recorded}, after.bracket = some recorded
        → ∃ bracket, state.system.bracket = some bracket ∧ SameShards bracket recorded)
    (sliced : journal.sliced = state.journal.sliced)
    (pinOf : journal.pinOf .bracket = state.journal.pinOf .bracket)
    (queued
      : ∀ {bracket}, state.system.bracket = some bracket
        → ∀ record ∈ journal.queued, record ∉ state.journal.queued
          → record.pin = state.journal.pinOf .bracket
          → ∀ k < bracket.shardCount, record.target = .shard k
            → ShardRun state.system bracket k record.accounts)
    : FinalistsDistinct ⟨after, journal⟩ := by
  constructor
  · intro recorded winners stored slices k inside
    obtain ⟨_, found, same⟩ := bracket stored
    rw [same.count] at inside
    rw [same.bounds]
    exact known.bounds found (sliced ▸ slices) k inside
  · intro recorded stored record listed pin k inside target
    obtain ⟨_, found, same⟩ := bracket stored
    rw [pinOf] at pin
    rw [same.count] at inside
    refine ShardRun.mono ?_ same.sizes entries
    by_cases old : record ∈ state.journal.queued
    · exact known.queued found record old pin k inside target
    · exact queued found record listed old pin k inside target
  · intro recorded stored key member
    obtain ⟨_, found, same⟩ := bracket stored
    rw [same.count, same.collected, same.sizes, same.bounds]
    exact known.drawn found key (same.finalists key member)
  · intro recorded stored
    obtain ⟨_, found, same⟩ := bracket stored
    exact same.unique (known.unique found)

/-- A new bracket has no finalists, and nothing was queued under its number. -/
theorem FinalistsDistinct.pin (admitted : RunsAdmitted state) {shardSizes : Vector Nat maxShards}
    {shardBounds : Vector Pubkey maxShards} {shardCount : Nat}
    (stored
      : after.bracket
        = some (state.system.freshBracket shardSizes shardBounds shardCount))
    (pinOf : journal.pinOf .bracket = state.journal.pins + 1)
    (queued : journal.queued = state.journal.queued)
    (bounds
      : ∀ {winners}, journal.sliced = some winners
        → BoundsSliced (state.system.freshBracket shardSizes shardBounds shardCount) winners)
    : FinalistsDistinct ⟨after, journal⟩ := by
  constructor
  · intro bracket winners found slices
    cases stored.symm.trans found
    exact bounds slices
  · intro bracket found record listed pin
    rw [queued] at listed
    have early := admitted.bounded record (List.mem_append_left _ listed)
    rw [pinOf] at pin
    omega
  · intro bracket found key member
    cases stored.symm.trans found
    rw [activeFinalists_freshBracket] at member
    cases member
  · intro bracket found
    cases stored.symm.trans found
    rw [activeFinalists_freshBracket]
    exact List.nodup_nil

/-- A run accepted for a shard lies in its interval. -/
theorem within_of_placed {capacity : Nat} {shardSizes : Vector Nat capacity}
    {shardBounds : Vector Pubkey capacity} {shardCount k : Nat} {prev : Pubkey}
    {accounts : List Pubkey} (inside : k < shardCount)
    (size : shardSizes[k]? = some accounts.length)
    (placed : Placed (shardPlace shardBounds shardCount k) 0 prev accounts)
    : ∀ key ∈ accounts, (layoutOf shardSizes shardBounds shardCount).Within k key := by
  intro key member
  have filled := List.ne_nil_of_mem member
  exact ((placed_iff_admits inside size filled).mp placed).within member

/-- A run accepted for a shard ascends. -/
theorem ascending_of_placed {capacity : Nat} {shardSizes : Vector Nat capacity}
    {shardBounds : Vector Pubkey capacity} {shardCount k : Nat} {prev : Pubkey}
    {accounts : List Pubkey} (inside : k < shardCount)
    (size : shardSizes[k]? = some accounts.length)
    (placed : Placed (shardPlace shardBounds shardCount k) 0 prev accounts)
    : accounts.Pairwise (· < ·) := by
  by_cases filled : accounts = []
  · subst filled
    exact List.Pairwise.nil
  · exact ((placed_iff_admits inside size filled).mp placed).ascending

/-- The first keys of a bracket's shards ascend. -/
theorem FinalistsDistinct.bounds_ascending (known : FinalistsDistinct state)
    (formed : WellFormed state) {bracket : BracketState}
    (found : state.system.bracket = some bracket)
    : (layoutOf bracket.shardSizes bracket.shardBounds bracket.shardCount).bounds.Pairwise
        (· < ·) := by
  cases sliced : state.journal.sliced with
  | none => exact List.isChain_iff_pairwise.mp (formed.declared found sliced).ascending
  | some winners =>
      exact (formed.sliced found sliced).bounds_ascending (known.bounds found sliced)

/-- Distinct winners from the interval of a shard without a finalist join the others. -/
theorem FinalistsDistinct.collect (known : FinalistsDistinct state) (formed : WellFormed state)
    {bracket recorded : BracketState} {picked : List Pubkey} {k : Nat}
    (found : state.system.bracket = some bracket)
    (inside : k < bracket.shardCount)
    (uncollected : bracket.shardsCollected.testBit k = false)
    (pushed : pushFinalists picked bracket = .ok recorded)
    (within
      : ∀ key ∈ picked,
          (layoutOf bracket.shardSizes bracket.shardBounds bracket.shardCount).Within k key)
    (distinct : picked.Nodup)
    (entries : after.roundEntries = state.system.roundEntries)
    (stored : after.bracket = some (markCollected recorded k))
    (sliced : journal.sliced = state.journal.sliced)
    (pinOf : journal.pinOf = state.journal.pinOf)
    (queued : journal.queued = state.journal.queued)
    : FinalistsDistinct ⟨after, journal⟩ := by
  have counted := formed.counted found
  have finalists := activeFinalists_of_push counted pushed
  have ascending := known.bounds_ascending formed found
  have length : (layoutOf bracket.shardSizes bracket.shardBounds bracket.shardCount
      ).bounds.length = bracket.shardCount := by
    have few := formed.shardCount_le found
    rw [layoutOf, List.length_take, Vector.length_toList]
    exact Nat.min_eq_left few
  obtain ⟨_, rfl⟩ := pushFinalists_eq_ok.mp pushed
  constructor
  · intro held winners here slices
    cases stored.symm.trans here
    have bounds := known.bounds found (sliced ▸ slices)
    exact bounds
  · intro held here record listed pin j within target
    cases stored.symm.trans here
    rw [queued] at listed
    rw [pinOf] at pin
    exact (known.queued found record listed pin j within target).mono rfl
      fun key member => entries ▸ member
  · intro held here key member
    cases stored.symm.trans here
    change key ∈ (appendFinalists bracket picked).activeFinalists at member
    rw [finalists] at member
    rcases List.mem_append.mp member with old | new
    · obtain ⟨j, insideJ, collected, belongs⟩ := known.drawn found key old
      exact ⟨j, insideJ, testBit_markCollected.mpr (.inl collected), belongs⟩
    · exact ⟨k, inside, testBit_markCollected.mpr (.inr rfl), within key new⟩
  · intro held here
    cases stored.symm.trans here
    change (appendFinalists bracket picked).activeFinalists.Nodup
    rw [finalists]
    refine (known.unique found).append distinct fun key old new => ?_
    obtain ⟨j, insideJ, collected, belongs⟩ := known.drawn found key old
    have same := Layout.within_unique ascending (insideJ.trans_eq length.symm)
      (inside.trans_eq length.symm) belongs (within key new)
    rw [same, uncollected] at collected
    cases collected

/-- What a semifinal collects are distinct winners of its slice: the result holds the circuit's
output for that slice.
-/
theorem SemifinalCollectChecks.picked_distinct {env : Env} {semiIndex size : Nat}
    {tier1 : Tier1State} {bracket : BracketState} {result : RevealTop3V3Result}
    {picked : List Pubkey}
    (checks : SemifinalCollectChecks env state.system semiIndex size tier1 bracket result)
    (formed : WellFormed state) (marked : RunsMarked state)
    (entrants : EntrantsOnly state.system)
    (resolved
      : pickWinners (tier1.winners.toList.drop (storedStart bracket semiIndex)) size
          (result.slots.take (min shardWinners size)) = .ok picked)
    (reads : ReadsOutput state ⟨env, .collectSemifinalWinners semiIndex⟩)
    : picked.Nodup ∧ ∀ key ∈ picked, key ∈ winnersSlice tier1.activeWinners semiIndex := by
  obtain ⟨record, queued, aimed, pin, output⟩ := reads _ rfl
  obtain ⟨_, _, sorted⟩ := formed.tier1 checks.foundTier1
  have promoted := formed.promoted checks.foundTier1 checks.promoted
  have into := formed.sliced checks.found promoted
  have declared := into.size_slice checks.indexed
  have full := Option.some.inj (declared.symm.trans checks.size)
  have slice : (tier1.winners.toList.drop (storedStart bracket semiIndex)).take size
      = winnersSlice tier1.activeWinners semiIndex :=
    full ▸ into.take_stored sorted checks.indexed
  have ascending := into.ascending.sublist (winnersSlice_sublist (k := semiIndex))
  refine ⟨?_, fun key member => slice ▸ mem_of_pickWinners resolved member⟩
  have run : ShardRun state.system bracket semiIndex record.accounts := by
    rw [marked.semifinals promoted record queued pin semiIndex aimed]
    exact ⟨declared, ascending, fun key member =>
      entrants.winners checks.foundTier1 key (winnersSlice_sublist.subset member)⟩
  refine run.picked_nodup checks.size ?_ checks.resulted output ?_ resolved
  · exact full ▸ into.slice_le checks.indexed
  · rw [slice]
    exact ascending.imp ne_of_lt

/-- Accepted instructions that read the circuit's output keep the finalists distinct, by cases on
the instruction.
-/
theorem FinalistsDistinct.step (known : FinalistsDistinct state) (formed : WellFormed state)
    (admitted : RunsAdmitted state) (marked : RunsMarked state)
    (entrants : EntrantsOnly state.system) {submission : Submission}
    (reads : ReadsOutput state submission)
    (success : revealStep state.system submission = .ok after)
    : FinalistsDistinct ⟨after, note state.system submission state.journal⟩ := by
  have entries := (revealStep_framed success).roundEntries
  have joined : ∀ key ∈ state.system.roundEntries, key ∈ after.roundEntries :=
    fun key member => entries ▸ member
  obtain ⟨env, instruction⟩ := submission
  cases instruction with
  | initBracket shardSizes shardBounds shardCount =>
      obtain ⟨_, _, rfl⟩ := initBracket_eq_ok.mp success
      exact .pin admitted rfl rfl rfl nofun
  | promoteTier1 =>
      obtain ⟨tier1, checks, rfl⟩ := promoteTier1_eq_ok.mp success
      obtain ⟨_, _, sorted⟩ := formed.tier1 checks.found
      refine .pin admitted rfl rfl rfl fun {winners} slices => ?_
      simp only [note, checks.found, Option.map_some] at slices
      cases slices
      exact boundsSliced_freshBracket sorted checks.winners checks.fits
  | initTier1Bracket shardSizes shardBounds shardCount =>
      obtain ⟨_, _, _, _, _, rfl⟩ := initTier1Bracket_eq_ok.mp success
      exact known.keep joined (fun stored => ⟨_, stored, .refl _⟩) rfl rfl
        fun _ record listed fresh => absurd listed fresh
  | closeTier1Bracket =>
      obtain ⟨_, _, _, rfl⟩ := closeTier1Bracket_eq_ok.mp success
      exact known.keep joined (fun stored => ⟨_, stored, .refl _⟩) rfl rfl
        fun _ record listed fresh => absurd listed fresh
  | queueShardReveal computationOffset shardIndex accounts =>
      obtain ⟨bracket, run, checks, _, rfl⟩ := queueShardReveal_eq_ok.mp success
      have counted := formed.counted checks.found
      refine known.keep joined ?_ rfl rfl ?_
      · rintro _ ⟨⟩
        refine ⟨bracket, checks.found, ?_⟩
        by_cases final : shardIndex = finalShardIndex
        · subst final
          have ordered := checks.finalRun rfl
          have finalists := ordered.activeFinalists_afterQueue counted
          refine ⟨?_, ?_, ?_, ?_, ?_, fun _ => ?_⟩
          · simp [afterQueue]
          · simp [afterQueue]
          · simp [afterQueue]
          · simp [afterQueue]
          · rw [finalists]
            exact ordered.members
          · rw [finalists]
            exact ordered.ascending.imp ne_of_lt
        · rw [afterQueue, if_neg final]
          exact .refl _
      · intro held found record listed fresh pin k inside target
        cases checks.found.symm.trans found
        rcases List.mem_cons.mp listed with rfl | old
        · obtain rfl : shardIndex = k := ResultAddress.shard.inj target
          have few := formed.shardCount_le found
          obtain ⟨size, placed⟩ := checks.shardRun (ne_finalShardIndex inside few)
          exact ⟨size, ascending_of_placed inside size placed,
            fun key => checks.read.mem_roundEntries⟩
        · exact absurd old fresh
  | queueTier1ShardReveal computationOffset shardIndex accounts =>
      obtain ⟨tier1, run, checks, _, rfl⟩ := queueTier1ShardReveal_eq_ok.mp success
      have foreign := admitted.pins_apart checks.found
      refine known.keep joined (fun stored => ⟨_, stored, .refl _⟩) rfl rfl ?_
      intro held found record listed fresh pin
      rcases List.mem_cons.mp listed with rfl | old
      · exact absurd pin foreign
      · exact absurd old fresh
  | queueSemifinalReveal computationOffset semiIndex accounts =>
      obtain ⟨_, _, _, _, _, rfl⟩ := queueSemifinalReveal_eq_ok.mp success
      refine known.keep joined (fun stored => ⟨_, stored, .refl _⟩) rfl rfl ?_
      intro held found record listed fresh pin k inside target
      rcases List.mem_cons.mp listed with rfl | old
      · cases target
      · exact absurd old fresh
  | collectShardWinners shardIndex accounts =>
      obtain ⟨bracket, result, run, recorded, checks, recording, rfl⟩ :=
        collectShardWinners_eq_ok.mp success
      obtain ⟨picked, resolved, pushed⟩ := recordFinalists_eq_ok.mp recording
      obtain ⟨record, queued, aimed, pin, output⟩ := reads _ rfl
      have fits : accounts.length ≤ maxShardSize := by
        by_contra long
        have := checks.read.fits maxShardSize (by omega)
        omega
      have queuedRun := known.queued checks.found record queued pin shardIndex checks.indexed
        aimed
      have within := within_of_placed checks.indexed checks.size checks.read.placed
      refine known.collect formed checks.found checks.indexed checks.uncollected pushed ?_ ?_
        entries rfl rfl rfl rfl
      · exact fun key member =>
          within key (List.mem_of_mem_take (mem_of_pickWinners resolved member))
      · refine queuedRun.picked_nodup checks.size fits checks.resulted output ?_ resolved
        rw [List.take_length]
        exact (ascending_of_placed checks.indexed checks.size checks.read.placed).imp ne_of_lt
  | collectSemifinalWinners semiIndex =>
      obtain ⟨tier1, bracket, result, size, picked, recorded, checks, resolved, pushed, rfl⟩ :=
        collectSemifinalWinners_eq_ok.mp success
      obtain ⟨distinct, drawn⟩ :=
        checks.picked_distinct formed marked entrants resolved reads
      have promoted := formed.promoted checks.foundTier1 checks.promoted
      have into := formed.sliced checks.found promoted
      have bounds := known.bounds checks.found promoted
      exact known.collect formed checks.found checks.indexed checks.uncollected pushed
        (fun key member => into.within bounds checks.indexed (drawn key member)) distinct
        entries rfl rfl rfl rfl
  | collectTier1Winners shardIndex accounts =>
      obtain ⟨_, _, _, _, _, _, rfl⟩ := collectTier1Winners_eq_ok.mp success
      exact known.keep joined (fun stored => ⟨_, stored, .refl _⟩) rfl rfl
        fun _ record listed fresh => absurd listed fresh
  | applyBracketResult resultIndex =>
      obtain ⟨bracket, result, top, checks, _, rfl⟩ := applyBracketResult_eq_ok.mp success
      refine known.keep joined ?_ rfl rfl fun _ record listed fresh => absurd listed fresh
      rintro _ ⟨⟩
      exact ⟨bracket, checks.found, rfl, rfl, rfl, rfl, fun _ => id, id⟩
  | revealTop3V5Callback computationOffset verified =>
      obtain ⟨_, _, _, _, _, rfl⟩ := revealTop3V5Callback_eq_ok.mp success
      have queued := state.journal.deliver_queued computationOffset
      exact known.keep joined (fun stored => ⟨_, stored, .refl _⟩)
        (state.journal.deliver_sliced _) (congrFun (state.journal.deliver_pinOf _) _)
        fun _ record listed fresh => absurd (queued ▸ listed) fresh

/-- The winners an accepted apply writes are distinct. -/
theorem FinalistsDistinct.top_nodup (known : FinalistsDistinct state) (formed : WellFormed state)
    (marked : RunsMarked state) (entrants : EntrantsOnly state.system) {env : Env}
    {resultIndex : Nat} {bracket : BracketState} {result : RevealTop3V3Result}
    {top : List Pubkey}
    (checks : ApplyChecks env state.system resultIndex bracket result)
    (resolved : resolveTop bracket result resultIndex = .ok top)
    (reads : ReadsOutput state ⟨env, .applyBracketResult resultIndex⟩)
    : top.Nodup := by
  have unique := known.unique checks.found
  have drawn := entrants.finalists checks.found
  by_cases one : bracket.shardCount = 1
  · obtain ⟨_, _, rfl⟩ := (resolveTop_single one).mp resolved
    exact unique.sublist (List.take_sublist _ _)
  · rw [final_podium formed marked drawn checks one resolved reads]
    exact podium_nodup (allEntries_of_roundEntries drawn) unique

end SecretGarden.Bracket
