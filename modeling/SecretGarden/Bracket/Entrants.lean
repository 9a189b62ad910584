import SecretGarden.Bracket.Coverage
import SecretGarden.Bracket.Selection

/-! Only entries of the round are recorded, and an applied bracket crowns at least one. -/

namespace SecretGarden.Bracket

open Foundation

variable {ledger after : RevealLedger} {journal : Journal}

/-- A well-formed bracket has a shard, and every shard of it has an entry. -/
theorem WellFormed.shards (formed : WellFormed ⟨ledger, journal⟩) {bracket : BracketState}
    (found : ledger.bracket = some bracket)
    : 1 ≤ bracket.shardCount
      ∧ ∀ {k size}, k < bracket.shardCount
        → bracket.shardSizes[k]? = some size
        → 1 ≤ size := by
  cases slices : journal.sliced with
  | none =>
      have layout := formed.declared found slices
      exact ⟨layout.nonempty, fun inside declared => (layout.size_bounds inside declared).1⟩
  | some winners =>
      have into := formed.sliced found slices
      refine ⟨?_, fun inside declared => ?_⟩
      · rw [into.count]
        exact one_le_semifinalCount into.winning
      · rw [into.size_eq inside] at declared
        rw [← Option.some.inj declared]
        exact (balancedSize_bounds into.winning).1

/-- Recorded finalists and winners are entries of the round, and a bracket with a collected
shard has a finalist.
-/
structure EntrantsOnly (ledger : RevealLedger) : Prop where
  finalists : ∀ {bracket}, ledger.bracket = some bracket
    → ∀ key ∈ bracket.activeFinalists, key ∈ ledger.roundEntries
  collected : ∀ {bracket}, ledger.bracket = some bracket
    → bracket.shardsCollected ≠ 0
    → 0 < bracket.finalistCount
  winners : ∀ {tier1}, ledger.tier1 = some tier1
    → ∀ key ∈ tier1.activeWinners, key ∈ ledger.roundEntries

/-- There is nothing recorded without partition accounts. -/
theorem entrantsOnly_of_none (bracket : ledger.bracket = none) (tier1 : ledger.tier1 = none)
    : EntrantsOnly ledger := by
  constructor <;> simp [bracket, tier1]

/-- The entries may be joined by others. -/
theorem EntrantsOnly.mono (known : EntrantsOnly ledger) (bracket : after.bracket = ledger.bracket)
    (tier1 : after.tier1 = ledger.tier1)
    (kept : ∀ key ∈ ledger.roundEntries, key ∈ after.roundEntries) : EntrantsOnly after := by
  constructor
  · exact fun found key member => kept key (known.finalists (bracket ▸ found) key member)
  · exact fun found => known.collected (bracket ▸ found)
  · exact fun found key member => kept key (known.winners (tier1 ▸ found) key member)

/-- A new bracket whose finalists are entries, over the same entries and winners. -/
theorem EntrantsOnly.refill (known : EntrantsOnly ledger) {recorded : BracketState}
    (stored : after.bracket = some recorded) (tier1 : after.tier1 = ledger.tier1)
    (entries : after.roundEntries = ledger.roundEntries)
    (finalists : ∀ key ∈ recorded.activeFinalists, key ∈ ledger.roundEntries)
    (collected : recorded.shardsCollected ≠ 0 → 0 < recorded.finalistCount)
    : EntrantsOnly after := by
  constructor
  · intro bracket found
    rw [stored] at found
    cases found
    rw [entries]
    exact finalists
  · intro bracket found
    rw [stored] at found
    cases found
    exact collected
  · intro _ found
    rw [entries]
    exact known.winners (tier1 ▸ found)

/-- Recording the winners of a shard that has one records at least one. -/
theorem finalistCount_pos_of_push {keys : List Pubkey} {bracket recorded : BracketState}
    (nonempty : keys ≠ []) (pushed : pushFinalists keys bracket = .ok recorded)
    : 0 < recorded.finalistCount := by
  obtain ⟨_, rfl⟩ := pushFinalists_eq_ok.mp pushed
  exact Nat.add_pos_right _ (List.length_pos_iff.mpr nonempty)

/-- Resolving some slots resolves some keys. -/
theorem picked_ne_nil {keys picked : List Pubkey} {size : Nat} {slots : List Nat}
    (resolved : pickWinners keys size slots = .ok picked) (nonempty : slots ≠ [])
    : picked ≠ [] := by
  rintro rfl
  have named := (pickWinners_eq_ok.mp resolved).2
  exact nonempty (List.map_eq_nil_iff.mp named)

/-- A result names winners for every shard that has an entry. -/
theorem slots_take_ne_nil (result : RevealTop3V3Result) {count : Nat} (filled : 1 ≤ count)
    : result.slots.take count ≠ [] := by
  cases count with
  | zero => omega
  | succ count => simp [RevealTop3V3Result.slots]

/-- Accepted instructions record entries only, by cases on the instruction. -/
theorem EntrantsOnly.step (known : EntrantsOnly ledger) (formed : WellFormed ⟨ledger, journal⟩)
    {submission : Submission} (success : revealStep ledger submission = .ok after)
    : EntrantsOnly after := by
  have entries := (revealStep_framed success).roundEntries
  obtain ⟨env, instruction⟩ := submission
  cases instruction with
  | initBracket shardSizes shardBounds shardCount =>
      obtain ⟨_, _, rfl⟩ := initBracket_eq_ok.mp success
      refine known.refill rfl rfl entries (fun key member => ?_) (fun present => absurd rfl present)
      cases member
  | promoteTier1 =>
      obtain ⟨tier1, checks, rfl⟩ := promoteTier1_eq_ok.mp success
      have winners := known.winners checks.found
      constructor
      · rintro _ ⟨⟩ key member
        cases member
      · rintro _ ⟨⟩ present
        exact absurd rfl present
      · rintro _ ⟨⟩
        exact winners
  | initTier1Bracket shardSizes shardBounds shardCount =>
      obtain ⟨_, _, _, _, _, rfl⟩ := initTier1Bracket_eq_ok.mp success
      refine ⟨known.finalists, known.collected, ?_⟩
      rintro _ ⟨⟩ key member
      cases member
  | closeTier1Bracket =>
      obtain ⟨_, _, _, rfl⟩ := closeTier1Bracket_eq_ok.mp success
      refine ⟨known.finalists, known.collected, ?_⟩
      rintro _ ⟨⟩
  | queueShardReveal computationOffset shardIndex accounts =>
      obtain ⟨bracket, run, checks, _, rfl⟩ := queueShardReveal_eq_ok.mp success
      refine known.refill rfl rfl entries (fun key member => ?_) (fun present => ?_)
      · exact known.finalists checks.found key
          (checks.mem_afterQueue (formed.counted checks.found) member)
      · have positive := known.collected checks.found
        rw [afterQueue_frame] at present ⊢
        exact positive present
  | queueTier1ShardReveal computationOffset shardIndex accounts =>
      obtain ⟨_, _, _, _, rfl⟩ := queueTier1ShardReveal_eq_ok.mp success
      exact known.mono rfl rfl fun _ => id
  | queueSemifinalReveal computationOffset semiIndex accounts =>
      obtain ⟨_, _, _, _, _, rfl⟩ := queueSemifinalReveal_eq_ok.mp success
      exact known.mono rfl rfl fun _ => id
  | collectShardWinners shardIndex accounts =>
      obtain ⟨bracket, result, run, recorded, checks, recording, rfl⟩ :=
        collectShardWinners_eq_ok.mp success
      obtain ⟨picked, resolved, pushed⟩ := recordFinalists_eq_ok.mp recording
      have size := (formed.shards checks.found).2 checks.indexed checks.size
      refine known.refill rfl rfl entries (fun key member => ?_) (fun _ => ?_)
      · rcases mem_of_push (formed.counted checks.found) pushed member with old | new
        · exact known.finalists checks.found key old
        · exact checks.read.mem_roundEntries
            (List.mem_of_mem_take (mem_of_pickWinners resolved new))
      · apply finalistCount_pos_of_push (picked_ne_nil resolved (slots_take_ne_nil _ _)) pushed
        exact le_min (by decide) size
  | collectSemifinalWinners semiIndex =>
      obtain ⟨tier1, bracket, result, size, picked, recorded, checks, resolved, pushed, rfl⟩ :=
        collectSemifinalWinners_eq_ok.mp success
      have active := formed.promoted checks.foundTier1 checks.promoted
      obtain ⟨_, _, sorted⟩ := formed.tier1 checks.foundTier1
      have filled := (formed.shards checks.found).2 checks.indexed checks.size
      refine known.refill rfl rfl entries (fun key member => ?_) (fun _ => ?_)
      · rcases mem_of_push (formed.counted checks.found) pushed member with old | new
        · exact known.finalists checks.found key old
        · exact known.winners checks.foundTier1 key
            (mem_of_semifinal sorted rfl (formed.sliced checks.found active) checks.indexed
              checks.size resolved new)
      · apply finalistCount_pos_of_push (picked_ne_nil resolved (slots_take_ne_nil _ _)) pushed
        exact le_min (by decide) filled
  | collectTier1Winners shardIndex accounts =>
      obtain ⟨tier1, result, run, recorded, checks, recording, rfl⟩ :=
        collectTier1Winners_eq_ok.mp success
      obtain ⟨picked, resolved, inserted⟩ := recordWinners_eq_ok.mp recording
      obtain ⟨_, _, sorted⟩ := formed.tier1 checks.found
      refine ⟨known.finalists, known.collected, ?_⟩
      rintro _ ⟨⟩ key member
      change key ∈ recorded.activeWinners at member
      rw [(sorted.insertWinners inserted).members.mem_iff, List.mem_append] at member
      rcases member with old | new
      · exact known.winners checks.found key old
      · exact checks.read.mem_roundEntries
          (List.mem_of_mem_take (mem_of_pickWinners resolved new))
  | applyBracketResult resultIndex =>
      obtain ⟨bracket, result, top, checks, _, rfl⟩ := applyBracketResult_eq_ok.mp success
      have finalists := known.finalists checks.found
      have collected := known.collected checks.found
      exact known.refill rfl rfl entries finalists collected
  | revealTop3V5Callback computationOffset verified =>
      obtain ⟨_, _, _, _, _, rfl⟩ := revealTop3V5Callback_eq_ok.mp success
      exact known.mono rfl rfl fun _ => id

/-- A fully collected bracket has a collected shard. -/
theorem shardsCollected_ne_zero {bracket : BracketState} (sharded : 1 ≤ bracket.shardCount)
    (collected : bracket.allShardsCollected) : bracket.shardsCollected ≠ 0 := by
  have power : 2 ≤ 2 ^ bracket.shardCount := Nat.le_self_pow (by omega) 2
  rw [BracketState.allShardsCollected, beq_iff_eq] at collected
  rw [collected]
  split
  · decide
  · rw [Nat.one_shiftLeft]
    omega

/-- The best place an applied bracket writes is an entry of the round. -/
theorem EntrantsOnly.crowns (known : EntrantsOnly ledger) (formed : WellFormed ⟨ledger, journal⟩)
    {env : Env} {resultIndex : Nat}
    (success : applyBracketResult env resultIndex ledger = .ok after)
    : after.round.top1 ∈ ledger.roundEntries := by
  obtain ⟨bracket, result, top, checks, resolved, rfl⟩ := applyBracketResult_eq_ok.mp success
  have sharded := (formed.shards checks.found).1
  have present := known.collected checks.found (shardsCollected_ne_zero sharded checks.collected)
  have active : bracket.activeFinalists ≠ [] := by
    apply List.ne_nil_of_length_pos
    rw [BracketState.activeFinalists, List.length_take, Vector.length_toList]
    exact lt_min present (by decide)
  have crowned : top ≠ [] := by
    by_cases one : bracket.shardCount = 1
    · obtain ⟨_, _, rfl⟩ := (resolveTop_single one).mp resolved
      cases known : bracket.activeFinalists with
      | nil => exact absurd known active
      | cons first rest => simp [revealTopK]
    · obtain ⟨_, _, picked⟩ := (resolveTop_many one).mp resolved
      exact picked_ne_nil picked (slots_take_ne_nil _ present)
  obtain ⟨first, rest, rfl⟩ := List.exists_cons_of_ne_nil crowned
  exact known.finalists checks.found first
    (mem_of_resolveTop resolved List.mem_cons_self)

/-- No reveal starts while the round is open. -/
theorem revealStep_early {submission : Submission} (opened : ledger.round.status = .opened)
    (bracket : ledger.bracket = none) (tier1 : ledger.tier1 = none)
    (success : revealStep ledger submission = .ok after)
    : after.bracket = none ∧ after.tier1 = none := by
  have unpinned {env : Env} (checks : PinChecks env ledger.round) : False := by
    rcases checks.ended with closed | finalized
    · exact absurd (opened.symm.trans closed) (by simp)
    · exact absurd (opened.symm.trans finalized) (by simp)
  have absent {held : BracketState} (found : ledger.bracket = some held) : False := by
    rw [bracket] at found
    cases found
  have absent1 {held : Tier1State} (found : ledger.tier1 = some held) : False := by
    rw [tier1] at found
    cases found
  obtain ⟨env, instruction⟩ := submission
  cases instruction with
  | initBracket shardSizes shardBounds shardCount =>
      exact (unpinned (initBracket_eq_ok.mp success).1).elim
  | initTier1Bracket shardSizes shardBounds shardCount =>
      exact (unpinned (initTier1Bracket_eq_ok.mp success).1).elim
  | closeTier1Bracket =>
      obtain ⟨⟨_, found⟩, _⟩ := closeTier1Bracket_eq_ok.mp success
      exact (absent1 found).elim
  | promoteTier1 =>
      obtain ⟨_, checks, _⟩ := promoteTier1_eq_ok.mp success
      exact (absent1 checks.found).elim
  | queueShardReveal computationOffset shardIndex accounts =>
      obtain ⟨_, _, checks, _⟩ := queueShardReveal_eq_ok.mp success
      exact (absent checks.found).elim
  | queueTier1ShardReveal computationOffset shardIndex accounts =>
      obtain ⟨_, _, checks, _⟩ := queueTier1ShardReveal_eq_ok.mp success
      exact (absent1 checks.found).elim
  | queueSemifinalReveal computationOffset semiIndex accounts =>
      obtain ⟨_, _, _, checks, _⟩ := queueSemifinalReveal_eq_ok.mp success
      exact (absent checks.found).elim
  | collectShardWinners shardIndex accounts =>
      obtain ⟨_, _, _, _, checks, _⟩ := collectShardWinners_eq_ok.mp success
      exact (absent checks.found).elim
  | collectTier1Winners shardIndex accounts =>
      obtain ⟨_, _, _, _, checks, _⟩ := collectTier1Winners_eq_ok.mp success
      exact (absent1 checks.found).elim
  | collectSemifinalWinners semiIndex =>
      obtain ⟨_, _, _, _, _, _, checks, _⟩ := collectSemifinalWinners_eq_ok.mp success
      exact (absent checks.found).elim
  | applyBracketResult resultIndex =>
      obtain ⟨_, _, _, checks, _⟩ := applyBracketResult_eq_ok.mp success
      exact (absent checks.found).elim
  | revealTop3V5Callback computationOffset verified =>
      obtain ⟨_, _, _, _, _, rfl⟩ := revealTop3V5Callback_eq_ok.mp success
      exact ⟨bracket, tier1⟩

end SecretGarden.Bracket
