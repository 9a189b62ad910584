import SecretGarden.AutoCycle.Planning
import SecretGarden.AutoCycle.Endgame
import SecretGarden.AutoCycle.Tiers
import SecretGarden.Bracket.Reranking

/-! What the script sends to reveal a round, over however many runs of it, each stopped anywhere.
Where nobody else takes part, partitions are pinned once, so a result account is read for what was
queued to it, however late the callback of an abandoned run lands.
-/

namespace SecretGarden.AutoCycle

open Foundation SecretGarden.Bracket

/-- What the script sends for a plan, and what lands meanwhile. It pins anew only what is not pinned
as planned, queues the planned entries, and queues the final once.
-/
inductive Scripted (plan : BracketPlan) (ledger : RevealLedger) : RevealInstruction → Prop
  | pin (single : plan.tier = .single)
      (unmatched
        : ∀ bracket ∈ ledger.bracket,
            partitionMatches bracket.shardCount bracket.shardSizes bracket.shardBounds plan = false)
      : Scripted plan ledger (initBracketOf plan)
  | queue {computationOffset k : Nat} (single : plan.tier = .single)
      (ordinary : k ≠ finalShardIndex)
      : Scripted plan ledger (.queueShardReveal computationOffset k (plan.entriesOf k))
  | collect {k : Nat} (single : plan.tier = .single)
      : Scripted plan ledger (.collectShardWinners k (plan.entriesOf k))
  | clear (two : plan.tier = .two)
      (unmatched
        : ∀ tier1 ∈ ledger.tier1,
            partitionMatches tier1.shardCount tier1.shardSizes tier1.shardBounds plan = false)
      : Scripted plan ledger .closeTier1Bracket
  | pinTier1 (two : plan.tier = .two) : Scripted plan ledger (initTier1BracketOf plan)
  | queueTier1 {computationOffset k : Nat} (two : plan.tier = .two)
      (ordinary : k ≠ finalShardIndex)
      : Scripted plan ledger (.queueTier1ShardReveal computationOffset k (plan.entriesOf k))
  | collectTier1 {k : Nat} (two : plan.tier = .two) (ordinary : k ≠ finalShardIndex)
      : Scripted plan ledger (.collectTier1Winners k (plan.entriesOf k))
  | promote (two : plan.tier = .two) : Scripted plan ledger .promoteTier1
  | queueSemifinal {computationOffset k : Nat} {accounts : List Pubkey} (two : plan.tier = .two)
      : Scripted plan ledger (.queueSemifinalReveal computationOffset k accounts)
  | collectSemifinal {k : Nat} (two : plan.tier = .two)
      : Scripted plan ledger (.collectSemifinalWinners k)
  | queueFinal {computationOffset : Nat} {accounts : List Pubkey}
      (unqueued : ∀ bracket ∈ ledger.bracket, bracket.finalQueued = false)
      : Scripted plan ledger (.queueShardReveal computationOffset finalShardIndex accounts)
  | apply {resultIndex : Nat} : Scripted plan ledger (.applyBracketResult resultIndex)
  | callback {computationOffset : Nat} {verified : Bool}
      : Scripted plan ledger (.revealTop3V5Callback computationOffset verified)

namespace BracketPlan

variable (plan : BracketPlan)

/-- The partition that a result account is read under. -/
def ownerOf : ResultAddress → Partition
  | .shard k => if plan.tier = .two ∧ k ≠ finalShardIndex then .tier1 else .bracket
  | .semifinal _ => .bracket

/-- The entries that a result account is queued and read for. -/
def runOf (ledger : RevealLedger) : ResultAddress → List Pubkey
  | .shard k =>
      if k = finalShardIndex then (ledger.bracket.map BracketState.activeFinalists).getD []
      else plan.entriesOf k
  | .semifinal k =>
      (ledger.tier1.map fun tier1 => winnersSlice tier1.activeWinners k).getD []

variable {plan} {ledger : RevealLedger} {k : Nat}

theorem ownerOf_single (single : plan.tier = .single) (target : ResultAddress)
    : plan.ownerOf target = .bracket := by
  cases target with
  | shard k => exact if_neg (by simp [single])
  | semifinal k => rfl

theorem ownerOf_tier1 (two : plan.tier = .two) (ordinary : k ≠ finalShardIndex)
    : plan.ownerOf (.shard k) = .tier1 :=
  if_pos ⟨two, ordinary⟩

@[simp] theorem ownerOf_final : plan.ownerOf (.shard finalShardIndex) = .bracket :=
  if_neg fun both => both.2 rfl

@[simp] theorem ownerOf_semifinal : plan.ownerOf (.semifinal k) = .bracket := rfl

theorem runOf_shard (ordinary : k ≠ finalShardIndex)
    : plan.runOf ledger (.shard k) = plan.entriesOf k :=
  if_neg ordinary

theorem runOf_final {bracket : BracketState} (found : ledger.bracket = some bracket)
    : plan.runOf ledger (.shard finalShardIndex) = bracket.activeFinalists := by
  rw [runOf, if_pos rfl, found]
  rfl

theorem runOf_semifinal {tier1 : Tier1State} (found : ledger.tier1 = some tier1)
    : plan.runOf ledger (.semifinal k) = winnersSlice tier1.activeWinners k := by
  rw [runOf, found]
  rfl

/-- The runs depend on what the partition accounts have recorded. -/
theorem runOf_same {after : RevealLedger} {target : ResultAddress}
    (finalists : target = .shard finalShardIndex → after.bracket.map BracketState.activeFinalists
      = ledger.bracket.map BracketState.activeFinalists)
    (winners : ∀ k, target = .semifinal k → after.tier1.map Tier1State.activeWinners
      = ledger.tier1.map Tier1State.activeWinners)
    : plan.runOf after target = plan.runOf ledger target := by
  cases target with
  | shard k =>
      by_cases final : k = finalShardIndex
      · subst final
        rw [runOf, if_pos rfl, finalists rfl, runOf, if_pos rfl]
      · rw [runOf_shard final, runOf_shard final]
  | semifinal k =>
      have same := congrArg (Option.map fun recorded => winnersSlice recorded k) (winners k rfl)
      rw [Option.map_map, Option.map_map] at same
      exact congrArg (Option.getD · []) same

end BracketPlan

--------------------------------------------------------------------------------
-- The invariant
--------------------------------------------------------------------------------

/-- A result account carries the stamp of the partition it is read under, and holds or awaits the
output on its run, which was queued under that partition.
-/
structure Answering (plan : BracketPlan) (state : JournaledReveal) (target : ResultAddress)
    : Prop where
  answers : ∃ generation ∈ state.system.stampOf (plan.ownerOf target),
    Answers state.system target generation (plan.runOf state.system target)
  drawn : ∀ key ∈ plan.runOf state.system target, key ∈ state.system.roundEntries
  queued : ⟨state.journal.pinOf (plan.ownerOf target), target, plan.runOf state.system target⟩
    ∈ state.journal.queued

/-- Whatever stands was put there for the plan, and every result account answers. -/
structure Paced (plan : BracketPlan) (state : JournaledReveal) : Prop where
  pinned : ∀ {bracket}, state.system.bracket = some bracket
    → plan.tier = .single
    → partitionMatches bracket.shardCount bracket.shardSizes bracket.shardBounds plan
  pinnedTier1 : ∀ {tier1}, state.system.tier1 = some tier1
    → plan.tier = .two
      ∧ partitionMatches tier1.shardCount tier1.shardSizes tier1.shardBounds plan
  promoted : ∀ {bracket}, state.system.bracket = some bracket
    → plan.tier = .two
    → ∃ tier1,
        state.system.tier1 = some tier1
        ∧ tier1.promoted
        ∧ tier1.allShardsCollected
  unsliced : plan.tier = .single → state.journal.sliced = none
  unqueued : ∀ {bracket}, state.system.bracket = some bracket
    → bracket.finalQueued = false
    → state.system.results.lookup (.shard finalShardIndex) = none
  answered : ∀ {target result}, state.system.results.lookup target = some result
    → Answering plan state target

variable {plan : BracketPlan} {state : JournaledReveal} {after : RevealLedger} {journal : Journal}
  {target : ResultAddress}

/-- Before a reveal has begun every plan is kept. -/
theorem paced_of_unstarted (unstarted : state.system.Unstarted)
    (unsliced : state.journal.sliced = none) : Paced plan state := by
  refine ⟨?_, ?_, ?_, fun _ => unsliced, ?_, ?_⟩
  · intro bracket found
    simp [unstarted.bracket] at found
  · intro tier1 found
    simp [unstarted.tier1] at found
  · intro bracket found
    simp [unstarted.bracket] at found
  · intro bracket found
    simp [unstarted.bracket] at found
  · intro target result found
    simp [unstarted.results] at found

/-- Accounts of a partition that is not pinned have no result. -/
theorem Paced.vacant (paced : Paced plan state)
    (unpinned : state.system.stampOf (plan.ownerOf target) = none)
    : state.system.results.lookup target = none := by
  cases found : state.system.results.lookup target with
  | none => rfl
  | some result =>
      obtain ⟨generation, stamped, _⟩ := (paced.answered found).answers
      cases unpinned.symm.trans stamped

/-- Whatever is in flight to an account was queued over its run. -/
theorem Paced.awaits (paced : Paced plan state) (tracked : Tracked state.system)
    (target : ResultAddress)
    : Awaits state.system target (plan.runOf state.system target) := by
  rintro computationOffset computation found rfl
  obtain ⟨result, present⟩ := tracked.aimed found
  obtain ⟨_, _, answers⟩ := (paced.answered present).answers
  exact answers.awaits _ _ found rfl

/-- An account answers as long as its run and its partition stay. -/
theorem Answering.kept (answered : Answering plan state target)
    (round : after.roundEntries = state.system.roundEntries)
    (stamp : after.stampOf (plan.ownerOf target) = state.system.stampOf (plan.ownerOf target))
    (run : plan.runOf after target = plan.runOf state.system target)
    (pin : journal.pinOf (plan.ownerOf target) = state.journal.pinOf (plan.ownerOf target))
    (more : ∀ record ∈ state.journal.queued, record ∈ journal.queued)
    (answers
      : ∀ {generation accounts}, Answers state.system target generation accounts
        → Answers after target generation accounts)
    : Answering plan ⟨after, journal⟩ target := by
  obtain ⟨⟨generation, stamped, held⟩, drawn, queued⟩ := answered
  refine ⟨⟨generation, stamp ▸ stamped, ?_⟩, ?_, more _ ?_⟩
  · exact run.symm ▸ answers held
  · intro key member
    exact round.symm ▸ drawn key (run ▸ member)
  · change (⟨journal.pinOf (plan.ownerOf target), target, plan.runOf after target⟩ : RunRecord) ∈ _
    rw [pin, run]
    exact queued

--------------------------------------------------------------------------------
-- Steps
--------------------------------------------------------------------------------

/-- Where both partition accounts are left alone, only the answers matter. -/
theorem Paced.quiet (paced : Paced plan state) (bracket : after.bracket = state.system.bracket)
    (tier1 : after.tier1 = state.system.tier1) (sliced : journal.sliced = state.journal.sliced)
    (unqueued
      : state.system.results.lookup (.shard finalShardIndex) = none
        → after.results.lookup (.shard finalShardIndex) = none)
    (answered
      : ∀ {target result}, after.results.lookup target = some result
        → Answering plan ⟨after, journal⟩ target)
    : Paced plan ⟨after, journal⟩ := by
  refine ⟨fun found => paced.pinned (bracket ▸ found),
    fun found => paced.pinnedTier1 (tier1 ▸ found), fun found two => ?_,
    fun single => sliced.trans (paced.unsliced single), fun found idle => ?_, answered⟩
  · obtain ⟨recorded, held, done⟩ := paced.promoted (bracket ▸ found) two
    exact ⟨recorded, tier1.trans held, done⟩
  · exact unqueued (paced.unqueued (bracket ▸ found) idle)

/-- Where the bracket is refilled, its partition stays. -/
theorem Paced.refill (paced : Paced plan state) {bracket recorded : BracketState}
    (found : state.system.bracket = some bracket) (refilled : Refilled bracket recorded)
    (stored : after.bracket = some recorded) (tier1 : after.tier1 = state.system.tier1)
    (sliced : journal.sliced = state.journal.sliced)
    (unqueued
      : recorded.finalQueued = false → after.results.lookup (.shard finalShardIndex) = none)
    (answered
      : ∀ {target result}, after.results.lookup target = some result
        → Answering plan ⟨after, journal⟩ target)
    : Paced plan ⟨after, journal⟩ := by
  refine ⟨fun held single => ?_, fun found => paced.pinnedTier1 (tier1 ▸ found), fun _ two => ?_,
    fun single => sliced.trans (paced.unsliced single), fun held idle => ?_, answered⟩
  · cases stored.symm.trans held
    rw [refilled.count, refilled.sizes, refilled.bounds]
    exact paced.pinned found single
  · obtain ⟨promoted, held, done⟩ := paced.promoted found two
    exact ⟨promoted, tier1.trans held, done⟩
  · cases stored.symm.trans held
    exact unqueued idle

/-- A queued run is awaited by its account, and by no other. -/
theorem Paced.queue (paced : Paced plan state) {computationOffset generation : Nat}
    {partition : Partition} {accounts : List Pubkey} (owner : plan.ownerOf target = partition)
    (current : state.system.stampOf partition = some generation)
    (awaits : Awaits state.system target accounts)
    (drawn : ∀ key ∈ accounts, key ∈ state.system.roundEntries)
    (results
      : SameResults
          (state.system.queue computationOffset target generation
            (contenders state.system.entries accounts))
          after)
    (round : after.roundEntries = state.system.roundEntries)
    (stamps : ∀ partition, after.stampOf partition = state.system.stampOf partition)
    (run : plan.runOf after target = accounts)
    (others : ∀ place ≠ target, plan.runOf after place = plan.runOf state.system place)
    {place : ResultAddress} {result : RevealTop3V3Result}
    (found : after.results.lookup place = some result)
    : Answering plan ⟨after, state.journal.queue partition computationOffset target accounts⟩
        place := by
  subst owner
  by_cases here : place = target
  · subst here
    refine ⟨⟨generation, (stamps _).trans current, ?_⟩, ?_, ?_⟩
    · exact run.symm ▸ results.answers (awaits.queue computationOffset generation)
    · exact run.symm ▸ round.symm ▸ drawn
    · change (⟨state.journal.pinOf (plan.ownerOf place), place, plan.runOf after place⟩
        : RunRecord) ∈ _
      rw [run]
      exact List.mem_cons_self
  · rw [results.results, lookup_queue_other (Ne.symm here)] at found
    refine (paced.answered found).kept round (stamps _) (others place here) rfl
      (fun _ listed => List.mem_cons_of_mem _ listed) fun answers => ?_
    exact results.answers (answers.queue_other (Ne.symm here))

/-- What happens beside a reveal leaves its answers, once the entries stay as they were scored. -/
theorem Paced.beside (paced : Paced plan state) (bracket : after.bracket = state.system.bracket)
    (tier1 : after.tier1 = state.system.tier1) (results : after.results = state.system.results)
    (computations : after.computations = state.system.computations)
    (field : ∀ key ∈ state.system.roundEntries, key ∈ after.roundEntries)
    (slots
      : ∀ key ∈ state.system.roundEntries, SlotKept state.system.entries after.entries key)
    : Paced plan ⟨after, state.journal⟩ := by
  refine paced.quiet bracket tier1 rfl (fun idle => results ▸ idle) fun {target _} found => ?_
  obtain ⟨⟨generation, stamped, answers⟩, drawn, queued⟩ := paced.answered (results ▸ found)
  have run : plan.runOf after target = plan.runOf state.system target :=
    BracketPlan.runOf_same (fun _ => by rw [bracket]) fun _ _ => by rw [tier1]
  have kept := fun key member => slots key (drawn key member)
  have stamp
      : after.stampOf (plan.ownerOf target) = state.system.stampOf (plan.ownerOf target) := by
    cases plan.ownerOf target
    · rw [RevealLedger.stampOf, RevealLedger.stampOf, bracket]
    · rw [RevealLedger.stampOf, RevealLedger.stampOf, tier1]
  refine ⟨⟨generation, stamp ▸ stamped, ⟨fun result stored => ?_, ?_⟩⟩, ?_, ?_⟩
  · rw [run, revealedSlots_kept kept]
    exact answers.stamped result (results ▸ stored)
  · intro computationOffset computation stored aimed
    rw [run, buildRevealArgs_kept kept]
    exact answers.awaits computationOffset computation (computations ▸ stored) aimed
  · exact fun key member => field key (drawn key (run ▸ member))
  · exact run.symm ▸ queued

/-- A delivery lands where its run is awaited. -/
theorem Paced.deliver (paced : Paced plan state) {computationOffset : Nat} {verified : Bool}
    (success : revealTop3V5Callback computationOffset verified state.system = .ok after)
    : Paced plan ⟨after, state.journal.deliver computationOffset⟩ := by
  obtain ⟨computation, previous, found, present, _, rfl⟩ :=
    revealTop3V5Callback_eq_ok.mp success
  refine paced.quiet rfl rfl (state.journal.deliver_sliced _) (fun idle => ?_)
    fun {target _} stored => ?_
  · exact survives_vacant _ found present idle
  · obtain ⟨held, before⟩ : ∃ held, state.system.results.lookup target = some held := by
      rcases Store.lookup_insert_eq_some.mp stored with ⟨rfl, _⟩ | ⟨_, before⟩
      · exact ⟨previous, present⟩
      · exact ⟨_, before⟩
    refine (paced.answered before).kept rfl rfl rfl ?_ ?_ fun answers => ?_
    · rw [state.journal.deliver_pinOf]
    · exact fun _ listed => (state.journal.deliver_queued _).symm ▸ listed
    · exact survives_answers _ _ _ found present answers

/-- Collected winners become finalists before the final is queued. -/
theorem Paced.collectBracket (paced : Paced plan state) (formed : WellFormed state)
    (stamped : Stamped state) {bracket recorded : BracketState} {keys : List Pubkey} {k : Nat}
    (found : state.system.bracket = some bracket) (inside : k < bracket.shardCount)
    (uncollected : bracket.shardsCollected.testBit k = false)
    (pushed : pushFinalists keys bracket = .ok recorded)
    (sliced : journal.sliced = state.journal.sliced) (pinOf : journal.pinOf = state.journal.pinOf)
    (queued : journal.queued = state.journal.queued)
    : Paced plan
        ⟨{ state.system with bracket := some (markCollected recorded k) }, journal⟩ := by
  have unqueued : bracket.finalQueued = false := by
    rw [← Bool.not_eq_true]
    intro final
    exact not_allShardsCollected (formed.shardCount_le found) inside uncollected
      (stamped.final found final).collected
  have idle := paced.unqueued found unqueued
  have stamps (partition : Partition)
      : { state.system with bracket := some (markCollected recorded k) }.stampOf partition
        = state.system.stampOf partition :=
    stampOf_recorded found (pushFinalists_eq_ok.mp pushed).2 partition
  refine paced.refill found (refilled_of_push (formed.counted found) pushed) rfl rfl sliced
    (fun _ => idle) fun {target _} held => ?_
  refine (paced.answered held).kept rfl (stamps _) ?_ (by rw [pinOf]) (by simp [queued])
    fun answers => ⟨answers.stamped, answers.awaits⟩
  refine BracketPlan.runOf_same ?_ fun _ _ => rfl
  rintro rfl
  cases idle.symm.trans held

/-- A run queued to any account but the final's leaves the partition accounts alone. -/
theorem Paced.queueShard (paced : Paced plan state) (tracked : Tracked state.system)
    {computationOffset generation : Nat} {partition : Partition} {accounts : List Pubkey}
    {run : List Contender} (owner : plan.ownerOf target = partition)
    (current : state.system.stampOf partition = some generation)
    (own : plan.runOf state.system target = accounts)
    (drawn : ∀ key ∈ accounts, key ∈ state.system.roundEntries)
    (contents : run = contenders state.system.entries accounts)
    (apart : target ≠ .shard finalShardIndex)
    : Paced plan
        ⟨state.system.queue computationOffset target generation run,
          state.journal.queue partition computationOffset target accounts⟩ := by
  subst own contents
  refine paced.quiet rfl rfl rfl (fun idle => ?_) fun found => ?_
  · rwa [lookup_queue_other apart]
  · exact paced.queue owner current (paced.awaits tracked target) drawn ⟨rfl, rfl, rfl⟩ rfl
      (fun partition => by cases partition <;> rfl)
      (BracketPlan.runOf_same (fun _ => rfl) fun _ _ => rfl)
      (fun _ _ => BracketPlan.runOf_same (fun _ => rfl) fun _ _ => rfl) found

/-- The final is queued once, over the finalists as they stand from then on. -/
theorem Paced.queueFinal (paced : Paced plan state) (formed : WellFormed state)
    (tracked : Tracked state.system) {env : Env} {computationOffset : Nat}
    {accounts : List Pubkey} {bracket : BracketState} {run : List Contender}
    (checks : QueueChecks env state.system finalShardIndex accounts bracket run)
    (unqueued : bracket.finalQueued = false)
    : Paced plan
        ⟨{ state.system.queue computationOffset (.shard finalShardIndex) bracket.generation run with
            bracket := some (afterQueue bracket finalShardIndex accounts) },
          state.journal.queue .bracket computationOffset (.shard finalShardIndex) accounts⟩ := by
  have contents := checks.read.eq_contenders
  subst contents
  have counted := formed.counted checks.found
  have finalists := (checks.finalRun rfl).activeFinalists_afterQueue counted
  have idle := paced.unqueued checks.found unqueued
  let before := state.system.queue computationOffset (.shard finalShardIndex) bracket.generation
    (contenders state.system.entries accounts)
  have results : SameResults before
      { before with bracket := some (afterQueue bracket finalShardIndex accounts) } :=
    ⟨rfl, rfl, rfl⟩
  refine paced.refill checks.found (refilled_afterQueue counted) rfl rfl rfl ?_ fun found => ?_
  · rintro ⟨⟩
  · refine paced.queue BracketPlan.ownerOf_final ?_
      ((idle_of_vacant tracked idle).awaits accounts) (fun _ => checks.read.mem_roundEntries)
      results rfl ?_ ?_ ?_ found
    · rw [RevealLedger.stampOf, checks.found]
      rfl
    · rintro (_ | _)
      · rw [RevealLedger.stampOf, RevealLedger.stampOf, checks.found]
        rfl
      · rfl
    · rw [BracketPlan.runOf_final rfl, finalists]
    · exact fun place apart => BracketPlan.runOf_same (fun here => absurd here apart) fun _ _ => rfl

/-- Before the promotion of two tiers there is no bracket, and nothing is read under one. -/
theorem Paced.unpromoted (paced : Paced plan state) (two : plan.tier = .two)
    (waiting : ∀ tier1, state.system.tier1 = some tier1 → tier1.promoted = false)
    : state.system.bracket = none
      ∧ ∀ target, plan.ownerOf target = .bracket → state.system.results.lookup target = none := by
  have absent : state.system.bracket = none := by
    cases found : state.system.bracket with
    | none => rfl
    | some bracket =>
        obtain ⟨tier1, held, promoted, _⟩ := paced.promoted found two
        cases (waiting tier1 held).symm.trans promoted
  refine ⟨absent, fun target owned => paced.vacant ?_⟩
  rw [owned, RevealLedger.stampOf, absent]
  rfl

/-- Every accepted instruction of the script keeps its pace, by cases on the instruction. -/
theorem Paced.step (paced : Paced plan state) (formed : WellFormed state) (stamped : Stamped state)
    (tracked : Tracked state.system) (sizes : plan.sizes = plan.shards.map (·.entries.length))
    {env : Env} {instruction : RevealInstruction}
    (scripted : Scripted plan state.system instruction)
    (success : revealStep state.system ⟨env, instruction⟩ = .ok after)
    : Paced plan ⟨after, note state.system ⟨env, instruction⟩ state.journal⟩ := by
  have field := (revealStep_framed success).roundEntries
  cases scripted with
  | pin single unmatched =>
      obtain ⟨_, layout, rfl⟩ := initBracket_eq_ok.mp success
      have absent : state.system.bracket = none := by
        cases found : state.system.bracket with
        | none => rfl
        | some bracket => cases (unmatched bracket found).symm.trans (paced.pinned found single)
      have vacant (target : ResultAddress) : state.system.results.lookup target = none := by
        apply paced.vacant
        rw [BracketPlan.ownerOf_single single, RevealLedger.stampOf, absent]
        rfl
      refine ⟨?_, paced.pinnedTier1, ?_, fun _ => rfl, fun _ _ => vacant _, fun found => ?_⟩
      · rintro _ ⟨⟩ _
        exact partitionMatches_padded sizes layout.bounded
      · rintro _ ⟨⟩ two
        cases single.symm.trans two
      · cases (vacant _).symm.trans found
  | @queue computationOffset k single ordinary =>
      obtain ⟨bracket, run, checks, _, rfl⟩ := queueShardReveal_eq_ok.mp success
      rw [afterQueue, if_neg ordinary, ← checks.found]
      refine paced.queueShard tracked (BracketPlan.ownerOf_single single _) ?_
        (BracketPlan.runOf_shard ordinary) (fun _ => checks.read.mem_roundEntries)
        checks.read.eq_contenders fun final => ordinary (ResultAddress.shard.inj final)
      rw [RevealLedger.stampOf, checks.found]
      rfl
  | @collect k single =>
      obtain ⟨bracket, result, run, recorded, checks, recording, rfl⟩ :=
        collectShardWinners_eq_ok.mp success
      obtain ⟨picked, _, pushed⟩ := recordFinalists_eq_ok.mp recording
      exact paced.collectBracket formed stamped checks.found checks.indexed checks.uncollected
        pushed rfl rfl rfl
  | clear two unmatched =>
      obtain ⟨⟨tier1, found⟩, _⟩ := closeTier1Bracket_eq_ok.mp success
      cases (unmatched tier1 found).symm.trans (paced.pinnedTier1 found).2
  | pinTier1 two =>
      obtain ⟨_, absent, _, layout, _, rfl⟩ := initTier1Bracket_eq_ok.mp success
      have bracket : state.system.bracket = none :=
        (paced.unpromoted two fun tier1 found => by cases absent.symm.trans found).1
      have vacant (target : ResultAddress) : state.system.results.lookup target = none := by
        apply paced.vacant
        cases plan.ownerOf target
        · rw [RevealLedger.stampOf, bracket]
          rfl
        · rw [RevealLedger.stampOf, absent]
          rfl
      refine ⟨paced.pinned, ?_, fun found => ?_, paced.unsliced, fun _ _ => vacant _,
        fun found => ?_⟩
      · rintro _ ⟨⟩
        exact ⟨two, partitionMatches_padded sizes layout.bounded⟩
      · cases bracket.symm.trans found
      · cases (vacant _).symm.trans found
  | @queueTier1 computationOffset k two ordinary =>
      obtain ⟨tier1, run, checks, _, rfl⟩ := queueTier1ShardReveal_eq_ok.mp success
      refine paced.queueShard tracked (BracketPlan.ownerOf_tier1 two ordinary) ?_
        (BracketPlan.runOf_shard ordinary) (fun _ => checks.read.mem_roundEntries)
        checks.read.eq_contenders fun final => ordinary (ResultAddress.shard.inj final)
      rw [RevealLedger.stampOf, checks.found]
      rfl
  | @collectTier1 k two ordinary =>
      obtain ⟨tier1, result, run, recorded, checks, recording, rfl⟩ :=
        collectTier1Winners_eq_ok.mp success
      obtain ⟨picked, _, inserted⟩ := recordWinners_eq_ok.mp recording
      have frame := insertWinners_winnersOnly inserted
      obtain ⟨absent, idle⟩ := paced.unpromoted two fun other found => by
        cases checks.found.symm.trans found
        exact checks.unpromoted
      refine ⟨paced.pinned, ?_, fun found => ?_, paced.unsliced, fun found => ?_,
        fun {target _} found => ?_⟩
      · rintro _ ⟨⟩
        have pinned := paced.pinnedTier1 checks.found
        rw [frame]
        exact pinned
      · cases absent.symm.trans found
      · cases absent.symm.trans found
      · refine (paced.answered found).kept rfl ?_ ?_ rfl (fun _ listed => listed)
          fun answers => ⟨answers.stamped, answers.awaits⟩
        · cases plan.ownerOf target
          · rfl
          · rw [RevealLedger.stampOf, RevealLedger.stampOf, checks.found, frame]
            rfl
        · refine BracketPlan.runOf_same (fun _ => rfl) ?_
          rintro j rfl
          cases (idle (.semifinal j) rfl).symm.trans found
  | promote two =>
      obtain ⟨tier1, checks, rfl⟩ := promoteTier1_eq_ok.mp success
      obtain ⟨absent, idle⟩ := paced.unpromoted two fun other found => by
        cases checks.found.symm.trans found
        exact checks.unpromoted
      refine ⟨?_, ?_, ?_, fun single => ?_, fun _ _ => idle _ BracketPlan.ownerOf_final,
        fun {target _} found => ?_⟩
      · rintro _ ⟨⟩ single
        cases two.symm.trans single
      · have pinned := paced.pinnedTier1 checks.found
        rintro _ ⟨⟩
        exact pinned
      · rintro _ ⟨⟩ _
        exact ⟨_, rfl, rfl, checks.collected⟩
      · cases two.symm.trans single
      · have owned : plan.ownerOf target = .tier1 := by
          cases owner : plan.ownerOf target with
          | bracket => cases (idle target owner).symm.trans found
          | tier1 => rfl
        refine (paced.answered found).kept rfl ?_ ?_ ?_ (fun _ listed => listed)
          fun answers => ⟨answers.stamped, answers.awaits⟩
        · rw [owned, RevealLedger.stampOf, RevealLedger.stampOf, checks.found]
          rfl
        · refine BracketPlan.runOf_same ?_ ?_
          · rintro rfl
            cases BracketPlan.ownerOf_final.symm.trans owned
          · rintro j rfl
            cases owned
        · have apart : Partition.tier1 ≠ .bracket := by decide
          rw [owned]
          exact Function.update_of_ne apart (state.journal.pins + 1) state.journal.pinOf
  | @queueSemifinal computationOffset k accounts two =>
      obtain ⟨tier1, bracket, run, checks, _, rfl⟩ := queueSemifinalReveal_eq_ok.mp success
      refine paced.queueShard tracked BracketPlan.ownerOf_semifinal ?_ ?_
        (fun _ => checks.read.mem_roundEntries) checks.read.eq_contenders (by simp)
      · rw [RevealLedger.stampOf, checks.found]
        rfl
      · rw [BracketPlan.runOf_semifinal checks.foundTier1, (checks.eq_slice formed).2]
  | @collectSemifinal k two =>
      obtain ⟨tier1, bracket, result, size, picked, recorded, checks, _, pushed, rfl⟩ :=
        collectSemifinalWinners_eq_ok.mp success
      exact paced.collectBracket formed stamped checks.found checks.indexed checks.uncollected
        pushed rfl rfl rfl
  | @queueFinal computationOffset accounts unqueued =>
      obtain ⟨bracket, run, checks, _, rfl⟩ := queueShardReveal_eq_ok.mp success
      exact paced.queueFinal formed tracked checks (unqueued bracket checks.found)
  | @apply resultIndex =>
      obtain ⟨bracket, result, top, checks, _, rfl⟩ := applyBracketResult_eq_ok.mp success
      have counted := formed.counted checks.found
      have refilled : Refilled bracket { bracket with applied := true } :=
        ⟨rfl, rfl, rfl, counted⟩
      have idle := paced.unqueued checks.found
      refine paced.refill checks.found refilled rfl rfl rfl idle fun {target _} found => ?_
      refine (paced.answered found).kept field ?_ ?_ rfl (fun _ listed => listed)
        fun answers => ⟨answers.stamped, answers.awaits⟩
      · cases plan.ownerOf target
        · rw [RevealLedger.stampOf, RevealLedger.stampOf, checks.found]
          rfl
        · rfl
      · refine BracketPlan.runOf_same (fun _ => ?_) fun _ _ => rfl
        rw [checks.found]
        rfl
  | callback => exact paced.deliver success

--------------------------------------------------------------------------------
-- What is read
--------------------------------------------------------------------------------

/-- What an account that answers is read for, it was queued for under the same partition. -/
theorem Paced.readsOutput (paced : Paced plan state) {submission : Submission}
    (success : revealStep state.system submission = .ok after)
    (owned
      : ∀ read ∈ submission.instruction.reads state.system, plan.ownerOf read.2 = read.1)
    : ReadsOutput state submission := by
  rintro ⟨partition, target⟩ reads
  obtain ⟨result, found, ready, _⟩ := result_of_read success reads
  obtain ⟨⟨_, _, answers⟩, _, queued⟩ := paced.answered found
  have owner : plan.ownerOf target = partition := owned _ reads
  refine ⟨_, queued, rfl, congrArg _ owner, ?_⟩
  rw [RevealLedger.HoldsOutput, found, Option.map_some, (answers.stamped result found).2 ready]

/-- Every accepted instruction of the script is a documented one that reads the output of the run
it is for.
-/
theorem Paced.documented (paced : Paced plan state) {env : Env} {instruction : RevealInstruction}
    (scripted : Scripted plan state.system instruction)
    (success : revealStep state.system ⟨env, instruction⟩ = .ok after)
    : DocumentedRead state ⟨env, instruction⟩ := by
  cases scripted with
  | collect single =>
      refine ⟨paced.readsOutput success ?_, paced.unsliced single⟩
      rintro _ ⟨⟩
      exact BracketPlan.ownerOf_single single _
  | collectTier1 two ordinary =>
      refine ⟨paced.readsOutput success ?_, trivial⟩
      rintro _ ⟨⟩
      exact BracketPlan.ownerOf_tier1 two ordinary
  | collectSemifinal two =>
      refine ⟨paced.readsOutput success ?_, trivial⟩
      rintro _ ⟨⟩
      rfl
  | apply =>
      refine ⟨paced.readsOutput success fun read reads => ?_, trivial⟩
      obtain ⟨bracket, result, top, checks, resolved, _⟩ := applyBracketResult_eq_ok.mp success
      simp only [RevealInstruction.reads, checks.found, Option.any_some, decide_eq_true_eq]
        at reads
      split at reads
      · next several =>
          cases reads
          obtain ⟨rfl, _⟩ := (resolveTop_many several).mp resolved
          exact BracketPlan.ownerOf_final
      · cases reads
  | _ => exact ⟨fun _ reads => (by cases reads), trivial⟩

end SecretGarden.AutoCycle
