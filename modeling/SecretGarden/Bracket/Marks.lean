import SecretGarden.Bracket.Coverage

/-! What the accepted runs of a reveal say about its accounts.
A shard marked as collected has a run; a semifinal's runs are its slice of the winners; and
from the queued final on the recorded finalists stay as they were queued.
-/

namespace SecretGarden.Bracket

open Foundation

/-- Every shard in use has its bit set. -/
theorem testBit_of_allShardsCollected {bracket : BracketState} {k : Nat}
    (collected : bracket.allShardsCollected) (few : bracket.shardCount ≤ maxShards)
    (inside : k < bracket.shardCount)
    : bracket.shardsCollected.testBit k := by
  simp only [maxShards] at few
  have mask : bracket.shardsCollected = 2 ^ bracket.shardCount - 1 := by
    have notMany : ¬ 8 ≤ bracket.shardCount := by omega
    simpa [BracketState.allShardsCollected, notMany, Nat.shiftLeft_eq] using collected
  rw [mask, Nat.testBit_two_pow_sub_one]
  simpa using inside

/-- Every shard of a fully collected tier-1 account is marked. -/
theorem LayoutChecked.done_of_allShardsCollected {tier1 : Tier1State} {participantCount : Nat}
    (layout
      : LayoutChecked tier1.shardSizes tier1.shardBounds tier1.shardCount participantCount)
    (collected : tier1.allShardsCollected) {k : Nat} (inside : k < tier1.shardCount)
    : tier1.shardDone[k]? = some true := by
  have stored : k < maxTier1Shards := inside.trans_le layout.bounded
  have listed : tier1.shardDone[k] ∈ tier1.shardDone.toList.take tier1.shardCount := by
    apply List.mem_of_getElem? (i := k)
    rw [List.getElem?_take_of_lt inside, Vector.getElem?_toList, Vector.getElem?_eq_getElem]
  rw [Vector.getElem?_eq_getElem stored]
  exact congrArg some (List.all_eq_true.mp collected _ listed)

/-- Marking a shard sets its bit and no other. -/
theorem testBit_markCollected {bracket : BracketState} {shardIndex k : Nat}
    : (markCollected bracket shardIndex).shardsCollected.testBit k
      ↔ bracket.shardsCollected.testBit k ∨ k = shardIndex := by
  have bit : (1 <<< shardIndex).testBit k = decide (k = shardIndex) := by
    rw [Nat.shiftLeft_eq, Nat.one_mul, Nat.testBit_two_pow]
    simp [eq_comm]
  simp [markCollected, Nat.testBit_or, bit]

/-- Marking a tier-1 shard sets its flag and no other. -/
theorem shardDone_markDone {tier1 : Tier1State} {shardIndex k : Nat}
    (inside : shardIndex < maxTier1Shards)
    : (markDone tier1 shardIndex).shardDone[k]? = some true
      ↔ tier1.shardDone[k]? = some true ∨ k = shardIndex := by
  rw [markDone, Vector.getElem?_setIfInBounds]
  by_cases here : shardIndex = k
  · subst here
    simp [inside]
  · have apart : k ≠ shardIndex := Ne.symm here
    simp [here, apart]

/-- The shard of a partition is marked as collected. -/
def RevealLedger.Marked (ledger : RevealLedger) (k : Nat) : Partition → Prop
  | .bracket => ∃ bracket ∈ ledger.bracket, bracket.shardsCollected.testBit k
  | .tier1 => ∃ tier1 ∈ ledger.tier1, tier1.shardDone[k]? = some true

structure RunsMarked (state : JournaledReveal) : Prop where
  marked : ∀ {partition k}, state.system.Marked k partition
    → ∃ record ∈ state.journal.runs,
        record.pin = state.journal.pinOf partition
        ∧ (partition = .tier1 ∨ state.journal.sliced = none → record.target = .shard k)
  semifinals : ∀ {winners}, state.journal.sliced = some winners
    → ∀ record ∈ state.journal.queued, record.pin = state.journal.pinOf .bracket
      → ∀ k, record.target = .semifinal k → record.accounts = winnersSlice winners k
  finals : ∀ {bracket}, state.system.bracket = some bracket
    → ∀ record ∈ state.journal.queued, record.pin = state.journal.pinOf .bracket
      → record.target = .shard finalShardIndex
      → bracket.allShardsCollected
        ∧ record.accounts = bracket.activeFinalists
        ∧ record.accounts.Pairwise (· < ·)

theorem RevealLedger.Unstarted.runsMarked {ledger : RevealLedger}
    (unstarted : ledger.Unstarted) : RunsMarked ledger.journaled := by
  constructor
  · rintro (_ | _) k ⟨account, held, _⟩
    · simp [RevealLedger.journaled, unstarted.bracket] at held
    · simp [RevealLedger.journaled, unstarted.tier1] at held
  · rintro winners ⟨⟩
  · intro bracket found
    simp [RevealLedger.journaled, unstarted.bracket] at found

variable {state : JournaledReveal} {after : RevealLedger} {journal : Journal}

/-- The same progress with the same finalists. -/
def SameProgress (bracket recorded : BracketState) : Prop :=
  recorded.allShardsCollected = bracket.allShardsCollected
  ∧ recorded.activeFinalists = bracket.activeFinalists

/-- The journal keeps its partitions and may hold more runs. -/
structure JournalKept (before after : Journal) : Prop where
  runs : ∀ record ∈ before.runs, record ∈ after.runs
  pinOf : after.pinOf = before.pinOf
  sliced : after.sliced = before.sliced

/-- Marking no shard keeps the marked shards' runs. -/
theorem RunsMarked.kept (known : RunsMarked state) (kept : JournalKept state.journal journal)
    {partition : Partition} {k : Nat} (marked : state.system.Marked k partition)
    : ∃ record ∈ journal.runs,
        record.pin = journal.pinOf partition
        ∧ (partition = .tier1 ∨ journal.sliced = none → record.target = .shard k) := by
  obtain ⟨record, listed, pin, aimed⟩ := known.marked marked
  exact ⟨record, kept.runs record listed, by rw [kept.pinOf, pin], by rwa [kept.sliced]⟩

/-- Queueing and collecting nothing keeps the invariant. -/
theorem RunsMarked.quiet (known : RunsMarked state) (kept : JournalKept state.journal journal)
    (queued : journal.queued = state.journal.queued)
    (marks : ∀ {partition k}, after.Marked k partition → state.system.Marked k partition)
    (progress : ∀ {recorded}, after.bracket = some recorded
      → ∃ bracket, state.system.bracket = some bracket ∧ SameProgress bracket recorded)
    : RunsMarked ⟨after, journal⟩ := by
  refine ⟨fun marked => known.kept kept (marks marked), ?_, ?_⟩
  · rw [kept.sliced, queued, kept.pinOf]
    exact known.semifinals
  · intro recorded stored record listed pin target
    obtain ⟨bracket, found, collected, finalists⟩ := progress stored
    rw [queued] at listed
    rw [kept.pinOf] at pin
    rw [collected, finalists]
    exact known.finals found record listed pin target

/-- Pinning a partition keeps the invariant: nothing ran under its number yet. -/
theorem RunsMarked.pin (known : RunsMarked state) (admitted : RunsAdmitted state)
    (pinned : Partition)
    (runs : journal.runs = state.journal.runs)
    (queued : journal.queued = state.journal.queued)
    (pinOf : journal.pinOf
      = Function.update state.journal.pinOf pinned (state.journal.pins + 1))
    (fresh : ∀ k, ¬ after.Marked k pinned)
    (marks : ∀ {partition k}, partition ≠ pinned → after.Marked k partition
      → state.system.Marked k partition)
    (unpinned : pinned ≠ .bracket → after.bracket = state.system.bracket
      ∧ journal.sliced = state.journal.sliced)
    : RunsMarked ⟨after, journal⟩ := by
  have early : ∀ record ∈ state.journal.queued, pinned = .bracket
      → record.pin ≠ journal.pinOf .bracket := by
    rintro record listed rfl
    have := admitted.bounded record (List.mem_append_left _ listed)
    rw [pinOf, Function.update_self]
    omega
  constructor
  · intro partition k marked
    by_cases here : partition = pinned
    · exact (fresh k (here ▸ marked)).elim
    · obtain ⟨record, listed, pin, aimed⟩ := known.marked (marks here marked)
      refine ⟨record, runs ▸ listed, ?_, fun allowed => aimed ?_⟩
      · rw [pinOf, Function.update_of_ne here, pin]
      · cases pinned with
        | bracket =>
            cases partition with
            | bracket => exact absurd rfl here
            | tier1 => exact Or.inl rfl
        | tier1 => rwa [(unpinned (by decide)).2] at allowed
  · intro winners sliced record listed pin
    rw [queued] at listed
    cases pinned with
    | bracket => exact (early record listed rfl pin).elim
    | tier1 =>
        rw [pinOf, Function.update_of_ne (by decide)] at pin
        exact known.semifinals ((unpinned (by decide)).2 ▸ sliced) record listed pin
  · intro bracket found record listed pin
    rw [queued] at listed
    cases pinned with
    | bracket => exact (early record listed rfl pin).elim
    | tier1 =>
        rw [pinOf, Function.update_of_ne (by decide)] at pin
        exact known.finals ((unpinned (by decide)).1 ▸ found) record listed pin

/-- Queueing a run keeps the invariant when the run is right for what it was queued for. -/
theorem RunsMarked.queue (known : RunsMarked state) {record : RunRecord}
    (kept : JournalKept state.journal journal)
    (queued : journal.queued = record :: state.journal.queued)
    (marks : ∀ {partition k}, after.Marked k partition → state.system.Marked k partition)
    (semifinal : ∀ {winners}, state.journal.sliced = some winners
      → record.pin = state.journal.pinOf .bracket
      → ∀ k, record.target = .semifinal k → record.accounts = winnersSlice winners k)
    (final : ∀ {bracket}, after.bracket = some bracket
      → record.pin = state.journal.pinOf .bracket
      → record.target = .shard finalShardIndex
      → bracket.allShardsCollected
        ∧ record.accounts = bracket.activeFinalists
        ∧ record.accounts.Pairwise (· < ·))
    (finals : ∀ {recorded}, after.bracket = some recorded
      → ∃ bracket, state.system.bracket = some bracket
        ∧ (∀ earlier ∈ state.journal.queued, earlier.pin = state.journal.pinOf .bracket
          → earlier.target = .shard finalShardIndex → SameProgress bracket recorded))
    : RunsMarked ⟨after, journal⟩ := by
  refine ⟨fun marked => known.kept kept (marks marked), ?_, ?_⟩
  · intro winners sliced earlier listed pin
    rw [kept.sliced] at sliced
    rw [kept.pinOf] at pin
    rw [queued] at listed
    rcases List.mem_cons.mp listed with rfl | listed
    · exact semifinal sliced pin
    · exact known.semifinals sliced earlier listed pin
  · intro recorded stored earlier listed pin target
    rw [kept.pinOf] at pin
    rw [queued] at listed
    rcases List.mem_cons.mp listed with rfl | listed
    · exact final stored pin target
    · obtain ⟨bracket, found, same⟩ := finals stored
      obtain ⟨collected, finalists⟩ := same earlier listed pin target
      rw [collected, finalists]
      exact known.finals found earlier listed pin target

/-- Collecting a shard keeps the invariant: its run marks it, and no final is queued yet. -/
theorem RunsMarked.collect (known : RunsMarked state) (under : Partition) (k : Nat)
    {record : RunRecord}
    (kept : JournalKept state.journal journal)
    (queued : journal.queued = state.journal.queued)
    (listed : record ∈ journal.runs)
    (pin : record.pin = state.journal.pinOf under)
    (aimed : under = .tier1 ∨ state.journal.sliced = none → record.target = .shard k)
    (marks : ∀ {partition shard}, after.Marked shard partition
      → state.system.Marked shard partition ∨ partition = under ∧ shard = k)
    (progress : ∀ {recorded}, after.bracket = some recorded
      → ∃ bracket, state.system.bracket = some bracket
        ∧ (bracket.allShardsCollected → SameProgress bracket recorded))
    : RunsMarked ⟨after, journal⟩ := by
  constructor
  · intro partition shard marked
    rcases marks marked with before | ⟨rfl, rfl⟩
    · exact known.kept kept before
    · exact ⟨record, listed, by rw [kept.pinOf, pin], by rwa [kept.sliced]⟩
  · rw [kept.sliced, queued, kept.pinOf]
    exact known.semifinals
  · intro recorded stored earlier before earlierPin target
    obtain ⟨bracket, found, same⟩ := progress stored
    rw [queued] at before
    rw [kept.pinOf] at earlierPin
    have final := known.finals found earlier before earlierPin target
    obtain ⟨collected, finalists⟩ := same final.1
    rw [collected, finalists]
    exact final

/-- The run accepted for a semifinal is its slice of the winners. -/
theorem SemifinalQueueChecks.eq_slice {env : Env} {semiIndex : Nat} {accounts : List Pubkey}
    {tier1 : Tier1State} {bracket : BracketState} {run : List Contender}
    (checks : SemifinalQueueChecks env state.system semiIndex accounts tier1 bracket run)
    (formed : WellFormed state)
    : state.journal.sliced = some tier1.activeWinners
      ∧ accounts = winnersSlice tier1.activeWinners semiIndex := by
  obtain ⟨_, _, sorted⟩ := formed.tier1 checks.foundTier1
  have sliced := formed.promoted checks.foundTier1 checks.promoted
  have into := formed.sliced checks.found sliced
  have size := (into.size_slice checks.indexed).symm.trans checks.size
  have placed := checks.read.placed
  rw [placed_semifinal, Nat.add_zero, ← Option.some.inj size] at placed
  exact ⟨sliced, placed.symm.trans (into.take_stored sorted checks.indexed)⟩

/-- A shard's bracket cannot be collected again once all its shards are. -/
theorem not_allShardsCollected {bracket : BracketState} {k : Nat}
    (few : bracket.shardCount ≤ maxShards) (inside : k < bracket.shardCount)
    (uncollected : bracket.shardsCollected.testBit k = false)
    : ¬ bracket.allShardsCollected := by
  intro collected
  rw [testBit_of_allShardsCollected collected few inside] at uncollected
  cases uncollected

/-- A reachable bracket has at most as many shards as it has room for. -/
theorem WellFormed.shardCount_le (formed : WellFormed state) {bracket : BracketState}
    (found : state.system.bracket = some bracket) : bracket.shardCount ≤ maxShards := by
  cases sliced : state.journal.sliced with
  | none => exact (formed.declared found sliced).bounded
  | some winners =>
      have into := formed.sliced found sliced
      exact into.count.trans_le into.fits

/-- Collecting a shard into the bracket keeps the invariant. -/
theorem RunsMarked.collectBracket (known : RunsMarked state) (formed : WellFormed state)
    {bracket recorded : BracketState} {k : Nat} {target : ResultAddress}
    {keys accounts : List Pubkey} (found : state.system.bracket = some bracket)
    (inside : k < bracket.shardCount) (uncollected : bracket.shardsCollected.testBit k = false)
    (pushed : pushFinalists keys bracket = .ok recorded)
    (aimed : state.journal.sliced = none → target = .shard k)
    : RunsMarked ⟨{ state.system with bracket := some (markCollected recorded k) },
        state.journal.collect .bracket target accounts⟩ := by
  obtain ⟨_, rfl⟩ := pushFinalists_eq_ok.mp pushed
  refine known.collect .bracket k
    ⟨fun record listed => mem_runs_collect.mpr (Or.inr listed), rfl, rfl⟩ rfl
    (mem_runs_collect.mpr (Or.inl rfl)) rfl ?_ ?_ ?_
  · rintro (impossible | unsliced)
    · cases impossible
    · exact aimed unsliced
  · rintro (_ | _) shard ⟨account, held, marked⟩
    · cases held
      rcases testBit_markCollected.mp marked with before | here
      · exact Or.inl ⟨bracket, found, before⟩
      · exact Or.inr ⟨rfl, here⟩
    · exact Or.inl ⟨account, held, marked⟩
  · rintro _ ⟨⟩
    exact ⟨bracket, found, fun collected => absurd collected
      (not_allShardsCollected (formed.shardCount_le found) inside uncollected)⟩

/-- Every accepted instruction keeps the invariant, by cases on the instruction. -/
theorem RunsMarked.step (known : RunsMarked state) (formed : WellFormed state)
    (admitted : RunsAdmitted state) {submission : Submission}
    (success : revealStep state.system submission = .ok after)
    : RunsMarked ⟨after, note state.system submission state.journal⟩ := by
  obtain ⟨env, instruction⟩ := submission
  cases instruction with
  | initBracket shardSizes shardBounds shardCount =>
      obtain ⟨_, _, rfl⟩ := initBracket_eq_ok.mp success
      refine known.pin admitted .bracket rfl rfl rfl ?_ ?_ fun apart => absurd rfl apart
      · rintro k ⟨_, ⟨⟩, bit⟩
        simp [RevealLedger.freshBracket] at bit
      · rintro (_ | _) k apart marked
        · exact absurd rfl apart
        · exact marked
  | promoteTier1 =>
      obtain ⟨tier1, checks, rfl⟩ := promoteTier1_eq_ok.mp success
      refine known.pin admitted .bracket rfl rfl rfl ?_ ?_ fun apart => absurd rfl apart
      · rintro k ⟨_, ⟨⟩, bit⟩
        simp [RevealLedger.freshBracket] at bit
      · rintro (_ | _) k apart ⟨account, held, marked⟩
        · exact absurd rfl apart
        · cases held
          exact ⟨tier1, checks.found, marked⟩
  | initTier1Bracket shardSizes shardBounds shardCount =>
      obtain ⟨_, _, _, _, _, rfl⟩ := initTier1Bracket_eq_ok.mp success
      refine known.pin admitted .tier1 rfl rfl rfl ?_ ?_ fun _ => ⟨rfl, rfl⟩
      · rintro k ⟨_, ⟨⟩, done⟩
        obtain ⟨_, value⟩ := Vector.getElem?_eq_some_iff.mp done
        simp [freshTier1] at value
      · rintro (_ | _) k apart marked
        · exact marked
        · exact absurd rfl apart
  | closeTier1Bracket =>
      obtain ⟨_, _, _, rfl⟩ := closeTier1Bracket_eq_ok.mp success
      refine known.quiet ⟨fun _ => id, rfl, rfl⟩ rfl ?_ fun stored => ⟨_, stored, rfl, rfl⟩
      rintro (_ | _) k ⟨account, held, marked⟩
      · exact ⟨account, held, marked⟩
      · cases held
  | queueShardReveal computationOffset shardIndex accounts =>
      obtain ⟨bracket, run, checks, _, rfl⟩ := queueShardReveal_eq_ok.mp success
      have counted := formed.counted checks.found
      refine known.queue ⟨fun record => List.mem_cons_of_mem _, rfl, rfl⟩ rfl ?_ ?_ ?_ ?_
      · rintro (_ | _) k ⟨account, held, marked⟩
        · cases held
          rw [afterQueue_frame] at marked
          exact ⟨bracket, checks.found, marked⟩
        · exact ⟨account, held, marked⟩
      · rintro winners _ _ k ⟨⟩
      · rintro _ ⟨⟩ _ ⟨⟩
        have final := checks.finalRun rfl
        refine ⟨?_, (final.activeFinalists_afterQueue counted).symm, final.ascending⟩
        rw [afterQueue_frame]
        exact final.collected
      · rintro _ ⟨⟩
        refine ⟨bracket, checks.found, fun earlier listed pin target => ?_⟩
        by_cases here : shardIndex = finalShardIndex
        · subst here
          have final := checks.finalRun rfl
          obtain ⟨_, finalists, ascending⟩ :=
            known.finals checks.found earlier listed pin target
          rw [finalists] at ascending
          refine ⟨by rw [afterQueue, if_pos rfl]; rfl, ?_⟩
          rw [final.activeFinalists_afterQueue counted]
          exact final.perm.eq_of_pairwise' (final.ascending.imp le_of_lt)
            (ascending.imp le_of_lt)
        · rw [afterQueue, if_neg here]
          exact ⟨rfl, rfl⟩
  | queueTier1ShardReveal computationOffset shardIndex accounts =>
      obtain ⟨tier1, run, checks, _, rfl⟩ := queueTier1ShardReveal_eq_ok.mp success
      have foreign := admitted.pins_apart checks.found
      refine known.queue ⟨fun record => List.mem_cons_of_mem _, rfl, rfl⟩ rfl id ?_ ?_ ?_
      · exact fun _ pin => absurd pin foreign
      · exact fun _ pin => absurd pin foreign
      · exact fun stored => ⟨_, stored, fun _ _ _ _ => ⟨rfl, rfl⟩⟩
  | queueSemifinalReveal computationOffset semiIndex accounts =>
      obtain ⟨tier1, bracket, run, checks, _, rfl⟩ := queueSemifinalReveal_eq_ok.mp success
      obtain ⟨sliced, slice⟩ := checks.eq_slice formed
      refine known.queue ⟨fun record => List.mem_cons_of_mem _, rfl, rfl⟩ rfl id ?_ ?_ ?_
      · rintro winners declared _ k ⟨⟩
        cases sliced.symm.trans declared
        exact slice
      · rintro _ _ _ ⟨⟩
      · exact fun stored => ⟨_, stored, fun _ _ _ _ => ⟨rfl, rfl⟩⟩
  | collectShardWinners shardIndex accounts =>
      obtain ⟨bracket, result, run, recorded, checks, recording, rfl⟩ :=
        collectShardWinners_eq_ok.mp success
      obtain ⟨picked, _, pushed⟩ := recordFinalists_eq_ok.mp recording
      exact known.collectBracket formed checks.found checks.indexed checks.uncollected pushed
        fun _ => rfl
  | collectSemifinalWinners semiIndex =>
      obtain ⟨tier1, bracket, result, size, picked, recorded, checks, _, pushed, rfl⟩ :=
        collectSemifinalWinners_eq_ok.mp success
      have sliced := formed.promoted checks.foundTier1 checks.promoted
      refine known.collectBracket formed checks.found checks.indexed checks.uncollected pushed
        fun unsliced => ?_
      rw [sliced] at unsliced
      cases unsliced
  | collectTier1Winners shardIndex accounts =>
      obtain ⟨tier1, result, run, recorded, checks, recording, rfl⟩ :=
        collectTier1Winners_eq_ok.mp success
      obtain ⟨picked, _, inserted⟩ := recordWinners_eq_ok.mp recording
      have frame := insertWinners_winnersOnly inserted
      have layout := (formed.tier1 checks.found).2.1
      refine known.collect .tier1 shardIndex
        ⟨fun record listed => mem_runs_collect.mpr (Or.inr listed), rfl, rfl⟩ rfl
        (mem_runs_collect.mpr (Or.inl rfl)) rfl (fun _ => rfl) ?_ ?_
      · rintro (_ | _) shard ⟨account, held, marked⟩
        · exact Or.inl ⟨account, held, marked⟩
        · cases held
          rw [frame] at marked
          rcases (shardDone_markDone (checks.indexed.trans_le layout.bounded)).mp marked
            with before | here
          · exact Or.inl ⟨tier1, checks.found, before⟩
          · exact Or.inr ⟨rfl, here⟩
      · exact fun stored => ⟨_, stored, fun _ => ⟨rfl, rfl⟩⟩
  | applyBracketResult resultIndex =>
      obtain ⟨bracket, result, top, checks, _, rfl⟩ := applyBracketResult_eq_ok.mp success
      refine known.quiet ⟨fun _ => id, rfl, rfl⟩ rfl ?_ ?_
      · rintro (_ | _) k ⟨account, held, marked⟩
        · cases held
          exact ⟨bracket, checks.found, marked⟩
        · exact ⟨account, held, marked⟩
      · rintro _ ⟨⟩
        exact ⟨bracket, checks.found, rfl, rfl⟩
  | revealTop3V5Callback computationOffset verified =>
      obtain ⟨_, _, _, _, _, rfl⟩ := revealTop3V5Callback_eq_ok.mp success
      have runs := runs_deliver state.journal computationOffset
      exact known.quiet ⟨fun record listed => runs.symm ▸ listed,
        state.journal.deliver_pinOf _, state.journal.deliver_sliced _⟩
        (state.journal.deliver_queued _) id fun stored => ⟨_, stored, rfl, rfl⟩

/-- The invariant holds throughout every run. -/
theorem marked_of_run {condition : JournaledReveal → Submission → Prop}
    {start : RevealLedger} (unstarted : start.Unstarted)
    {history : List Submission} {state : JournaledReveal}
    (run : Run journaledReveal condition start.journaled history state) : RunsMarked state := by
  apply run.invariant_with (fun run => followed_of_run unstarted run) unstarted.runsMarked
  intro before submission after followed marked _ success
  obtain ⟨accepted, noted⟩ := journaled_eq_ok.mp success
  have kept := marked.step followed.formed followed.admitted accepted
  rwa [← noted] at kept

end SecretGarden.Bracket
