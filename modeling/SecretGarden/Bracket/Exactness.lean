import SecretGarden.Bracket.Marks
import SecretGarden.Bracket.Selection
import SecretGarden.Bracket.Standings

/-! What a bracket computes.
When every result read is the circuit's output on a run queued for it, each collected
shard contributes the podium of its group. The groups cover the field, so the applied
winners are the podium of all entries, whatever the partition.
-/

namespace SecretGarden.Bracket

open Foundation

/-- The result an instruction reads is the circuit's output on a run queued for it under
the partition in force.
-/
def ReadsOutput (state : JournaledReveal) (submission : Submission) : Prop :=
  ∀ read ∈ submission.instruction.reads state.system,
    ∃ record ∈ state.journal.queued,
      record.target = read.2
      ∧ record.pin = state.journal.pinOf read.1
      ∧ state.system.HoldsOutput read.2 record.accounts

instance (state : JournaledReveal) (submission : Submission)
    : Decidable (ReadsOutput state submission) :=
  inferInstanceAs (Decidable (∀ read ∈ submission.instruction.reads state.system, _))

/-- Promoted brackets are collected by the semifinal instruction, as documented. -/
def Documented (state : JournaledReveal) (submission : Submission) : Prop :=
  match submission.instruction with
  | .collectShardWinners _ _ => state.journal.sliced = none
  | _ => True

instance (state : JournaledReveal) (submission : Submission)
    : Decidable (Documented state submission) := by
  unfold Documented
  generalize submission.instruction = instruction
  rcases instruction <;> infer_instance

/-- A documented instruction with the circuit's output. -/
def DocumentedRead (state : JournaledReveal) (submission : Submission) : Prop :=
  ReadsOutput state submission ∧ Documented state submission

instance (state : JournaledReveal) (submission : Submission)
    : Decidable (DocumentedRead state submission) :=
  inferInstanceAs (Decidable (_ ∧ _))

/-- The recorded keys are the podiums of the collected groups, collected in `order`. -/
structure Gathered (entries : Store Pubkey CompetitionEntry) (groups : Nat → List Pubkey)
    (count : Nat) (collected : Nat → Prop) (recorded : List Pubkey) (order : List Nat)
    : Prop where
  unique : order.Nodup
  marked : ∀ k, collected k ↔ k ∈ order
  inside : ∀ k ∈ order, k < count
  members : recorded.Perm (order.flatMap fun k => podium entries (groups k))

section Gathered

variable {entries : Store Pubkey CompetitionEntry} {groups : Nat → List Pubkey} {count : Nat}
  {collected collected' : Nat → Prop} {recorded recorded' : List Pubkey} {order : List Nat}

theorem Gathered.empty (fresh : ∀ k, ¬ collected k)
    : Gathered entries groups count collected [] [] :=
  ⟨List.nodup_nil, fun k => by simp [fresh k], by simp, by simp⟩

/-- Collecting one more group adds its podium. -/
theorem Gathered.collect (gathered : Gathered entries groups count collected recorded order)
    {k : Nat} (uncollected : ¬ collected k) (inside : k < count)
    (marks : ∀ j, collected' j ↔ collected j ∨ j = k)
    (members : recorded'.Perm (recorded ++ podium entries (groups k)))
    : Gathered entries groups count collected' recorded' (order ++ [k]) := by
  constructor
  · have absent : k ∉ order := fun listed => uncollected ((gathered.marked k).mpr listed)
    rw [List.nodup_append]
    refine ⟨gathered.unique, List.nodup_singleton k, ?_⟩
    rintro j listed _ (_ | ⟨_, ⟨⟩⟩) rfl
    exact absent listed
  · intro j
    rw [marks, gathered.marked, List.mem_append, List.mem_singleton]
  · intro j listed
    rcases List.mem_append.mp listed with earlier | here
    · exact gathered.inside j earlier
    · rwa [List.mem_singleton.mp here]
  · rw [List.flatMap_append, List.flatMap_singleton]
    exact members.trans (gathered.members.append_right _)

/-- Only the groups that are counted matter. -/
theorem Gathered.congr {groups' : Nat → List Pubkey}
    (gathered : Gathered entries groups count collected recorded order)
    (agree : ∀ k < count, groups k = groups' k)
    : Gathered entries groups' count collected recorded order := by
  refine ⟨gathered.unique, gathered.marked, gathered.inside, gathered.members.trans (.of_eq ?_)⟩
  exact List.flatMap_congr fun k listed => by rw [agree k (gathered.inside k listed)]

/-- Once all groups are collected, each was collected once. -/
theorem Gathered.order_perm (gathered : Gathered entries groups count collected recorded order)
    (complete : ∀ k < count, collected k)
    : order.Perm (List.range count) := by
  apply (List.perm_ext_iff_of_nodup gathered.unique List.nodup_range).mpr
  intro k
  rw [List.mem_range]
  exact ⟨gathered.inside k, fun inside => (gathered.marked k).mp (complete k inside)⟩

/-- The podium of all recorded keys is the podium of all groups. -/
theorem Gathered.podium_eq (gathered : Gathered entries groups count collected recorded order)
    (complete : ∀ k < count, collected k)
    : podium entries recorded = podium entries ((List.range count).flatMap groups) := by
  rw [podium_perm gathered.members, podium_flatMap_podium]
  exact podium_perm ((gathered.order_perm complete).flatMap_right groups)

/-- A recorded key comes from one of the groups. -/
theorem Gathered.mem (gathered : Gathered entries groups count collected recorded order)
    {key : Pubkey} (member : key ∈ recorded)
    : ∃ k < count, key ∈ groups k := by
  obtain ⟨k, listed, picked⟩ := List.mem_flatMap.mp (gathered.members.mem_iff.mp member)
  exact ⟨k, gathered.inside k listed, mem_of_mem_podium picked⟩

/-- There is room for the podium of one more group. -/
theorem Gathered.room (gathered : Gathered entries groups count collected recorded order)
    {k : Nat} (uncollected : ¬ collected k) (inside : k < count)
    : recorded.length + shardWinners ≤ count * shardWinners := by
  have absent : k ∉ order := fun listed => uncollected ((gathered.marked k).mpr listed)
  have few : (k :: order).length ≤ (List.range count).length := by
    refine (List.subperm_of_subset (List.nodup_cons.mpr ⟨absent, gathered.unique⟩) ?_).length_le
    intro j listed
    rw [List.mem_range]
    rcases List.mem_cons.mp listed with rfl | earlier
    · exact inside
    · exact gathered.inside j earlier
  rw [List.length_cons, List.length_range] at few
  have three : recorded.length ≤ order.length * shardWinners := by
    rw [gathered.members.length_eq, List.length_flatMap]
    have bounded : ∀ length ∈ order.map fun j => (podium entries (groups j)).length,
        length ≤ shardWinners := by
      intro length listed
      obtain ⟨j, _, rfl⟩ := List.mem_map.mp listed
      exact length_podium_le _ _
    simpa using List.sum_le_card_nsmul _ _ bounded
  calc recorded.length + shardWinners
      ≤ order.length * shardWinners + shardWinners := Nat.add_le_add_right three _
    _ = (order.length + 1) * shardWinners := (Nat.succ_mul _ _).symm
    _ ≤ count * shardWinners := Nat.mul_le_mul_right _ few

/-- Podiums of disjoint groups are recorded without repetition. -/
theorem Gathered.nodup (gathered : Gathered entries groups count collected recorded order)
    (present : ∀ k < count, AllEntries entries (groups k))
    (unique : ∀ k < count, (groups k).Nodup)
    (disjoint : ∀ j < count, ∀ k < count, j ≠ k → (groups j).Disjoint (groups k))
    : recorded.Nodup := by
  rw [gathered.members.nodup_iff, List.nodup_flatMap]
  refine ⟨fun k listed => ?_, ?_⟩
  · have inside := gathered.inside k listed
    exact podium_nodup (present k inside) (unique k inside)
  · refine gathered.unique.imp_of_mem fun {j k} first second apart => ?_
    intro key drawn chosen
    exact disjoint j (gathered.inside j first) k (gathered.inside k second) apart
      (mem_of_mem_podium drawn) (mem_of_mem_podium chosen)

end Gathered

--------------------------------------------------------------------------------
-- The invariant
--------------------------------------------------------------------------------

/-- The groups behind a bracket's shards: slices of the sorted winners after a promotion,
the intervals of a declared layout that splits the round's entries otherwise.
-/
def Grouped (state : JournaledReveal) (bracket : BracketState) (groups : Nat → List Pubkey)
    : Prop :=
  match state.journal.sliced with
  | some winners => groups = winnersSlice winners
  | none =>
      (layoutOf bracket.shardSizes bracket.shardBounds bracket.shardCount).Splits
        state.system.roundEntries
      ∧ groups = (layoutOf bracket.shardSizes bracket.shardBounds bracket.shardCount).interval
          state.system.roundEntries

structure TournamentExact (state : JournaledReveal) : Prop where
  tier1 : ∀ {tier1 layout}, state.system.tier1 = some tier1
    → declaredLayout state .tier1 = some layout
    → layout.Splits state.system.roundEntries
    → ∃ order, Gathered state.system.entries (layout.interval state.system.roundEntries)
        tier1.shardCount (fun k => tier1.shardDone[k]? = some true) tier1.activeWinners order
  sliced : ∀ {winners}, state.journal.sliced = some winners
    → (∀ key ∈ winners, key ∈ state.system.roundEntries)
      ∧ podium state.system.entries winners
        = podium state.system.entries state.system.roundEntries
  bracket : ∀ {bracket groups}, state.system.bracket = some bracket
    → Grouped state bracket groups
    → ∃ order, Gathered state.system.entries groups bracket.shardCount
          (fun k => bracket.shardsCollected.testBit k) bracket.activeFinalists order
        ∧ (bracket.finalQueued = false → bracket.activeFinalists
            = order.flatMap fun k => podium state.system.entries (groups k))

theorem RevealLedger.Unstarted.exact {ledger : RevealLedger}
    (unstarted : ledger.Unstarted) : TournamentExact ledger.journaled := by
  constructor
  · intro tier1 layout found
    simp [RevealLedger.journaled, unstarted.tier1] at found
  · rintro winners ⟨⟩
  · intro bracket groups found
    simp [RevealLedger.journaled, unstarted.bracket] at found

variable {state : JournaledReveal} {after : RevealLedger} {journal : Journal}

/-- Accounts of the round are entries. -/
theorem allEntries_of_roundEntries {ledger : RevealLedger} {accounts : List Pubkey}
    (entered : ∀ key ∈ accounts, key ∈ ledger.roundEntries)
    : AllEntries ledger.entries accounts := by
  intro key member
  obtain ⟨entry, found, _⟩ := Store.mem_keysWhere.mp (entered key member)
  rw [found]
  rfl

/-- A result holds no more slots than a shard has winners. -/
theorem take_slots (result : RevealTop3V3Result) (n : Nat)
    : result.slots.take n = result.slots.take (min shardWinners n) := by
  rw [List.take_eq_take_iff]
  simp only [RevealTop3V3Result.slots, List.length_cons, List.length_nil, shardWinners,
    revealTopK]
  omega

/-- What the circuit revealed for a run resolves to the run's podium. -/
theorem picked_eq_podium {ledger : RevealLedger} {target : ResultAddress}
    {result : RevealTop3V3Result} {accounts picked : List Pubkey}
    (resulted : ledger.results.lookup target = some result)
    (output : ledger.HoldsOutput target accounts)
    (entered : ∀ key ∈ accounts, key ∈ ledger.roundEntries)
    (ascending : accounts.Pairwise (· < ·)) (fits : accounts.length ≤ maxParticipants)
    (resolved : pickWinners accounts accounts.length
      (result.slots.take (min shardWinners accounts.length)) = .ok picked)
    : picked = podium ledger.entries accounts := by
  have slots : result.slots = revealedSlots ledger.entries accounts := by
    rw [RevealLedger.HoldsOutput, resulted] at output
    exact Option.some.inj output
  rw [slots, pickWinners_revealedSlots (allEntries_of_roundEntries entered) ascending fits]
    at resolved
  exact (Except.ok.inj resolved).symm

/-- A run admitted for an interval of a split field is that interval, and its podium is
what the circuit's output for any other admitted run resolves to.
-/
theorem picked_interval {ledger : RevealLedger} {layout : Layout Pubkey} {index : Nat}
    {target : ResultAddress} {result : RevealTop3V3Result} {queued collected picked : List Pubkey}
    (splits : layout.Splits ledger.roundEntries) (inside : index < layout.bounds.length)
    (atQueue : EntriesAdmitted ledger layout index queued)
    (atCollect : EntriesAdmitted ledger layout index collected)
    (fits : collected.length ≤ maxParticipants)
    (resulted : ledger.results.lookup target = some result)
    (output : ledger.HoldsOutput target queued)
    (resolved : pickWinners collected collected.length
      (result.slots.take (min shardWinners collected.length)) = .ok picked)
    : picked = podium ledger.entries (layout.interval ledger.roundEntries index) := by
  have sameQueue := splits.admitted_eq inside atQueue.admitted atQueue.entered
  have sameCollect := splits.admitted_eq inside atCollect.admitted atCollect.entered
  rw [← sameCollect]
  rw [sameQueue, ← sameCollect] at output
  exact picked_eq_podium resulted output atCollect.entered atCollect.admitted.ascending fits
    resolved

/-- The winners collected for a declared shard are the podium of its interval. -/
theorem RunsAdmitted.picked_shard {capacity : Nat} (admitted : RunsAdmitted state)
    {partition : Partition} {shardSizes : Vector Nat capacity}
    {shardBounds : Vector Pubkey capacity} {shardCount participantCount k : Nat}
    (checked : LayoutChecked shardSizes shardBounds shardCount participantCount)
    (named : declaredLayout state partition
      = some (layoutOf shardSizes shardBounds shardCount))
    (splits : (layoutOf shardSizes shardBounds shardCount).Splits state.system.roundEntries)
    (indexed : k < shardCount) {accounts picked : List Pubkey} {run : List Contender}
    (size : shardSizes[k]? = some accounts.length)
    (read : RunRead state.system.entries state.system.round.key maxShardSize false
      (shardPlace shardBounds shardCount k) 0 0 accounts run)
    {record : RunRecord} (queued : record ∈ state.journal.queued)
    (aimed : record.target = .shard k) (pin : record.pin = state.journal.pinOf partition)
    {result : RevealTop3V3Result}
    (resulted : state.system.results.lookup (.shard k) = some result)
    (output : state.system.HoldsOutput (.shard k) record.accounts)
    (resolved : pickWinners accounts accounts.length
      (result.slots.take (min shardWinners accounts.length)) = .ok picked)
    : picked = podium state.system.entries
        ((layoutOf shardSizes shardBounds shardCount).interval state.system.roundEntries k) := by
  have inside := checked.length_bounds.symm ▸ indexed
  have atQueue := admitted.admitted named record (List.mem_append_left _ queued) pin k inside
    aimed
  have atCollect : EntriesAdmitted state.system (layoutOf shardSizes shardBounds shardCount) k
      accounts :=
    ⟨checked.admits indexed size read.placed, fun key => read.mem_roundEntries⟩
  have small := (checked.size_bounds indexed size).2
  exact picked_interval splits inside atQueue atCollect (small.trans (by decide)) resulted output
    resolved

/-- A bracket that keeps its partition keeps its groups. -/
theorem grouped_kept {bracket recorded : BracketState} {groups : Nat → List Pubkey}
    (field : after.roundEntries = state.system.roundEntries)
    (sliced : journal.sliced = state.journal.sliced)
    (refilled : Refilled bracket recorded)
    (grouped : Grouped ⟨after, journal⟩ recorded groups)
    : Grouped state bracket groups := by
  unfold Grouped at grouped ⊢
  simpa only [field, sliced, refilled.count, refilled.sizes, refilled.bounds] using grouped

/-- Where the first tier keeps its progress, only the bracket matters. -/
theorem TournamentExact.rebracketed (known : TournamentExact state)
    (entries : after.entries = state.system.entries)
    (field : after.roundEntries = state.system.roundEntries)
    (sliced : journal.sliced = state.journal.sliced)
    (tier1 : ∀ {recorded}, after.tier1 = some recorded → state.system.tier1 = some recorded)
    (bracket : ∀ {recorded groups}, after.bracket = some recorded
      → Grouped ⟨after, journal⟩ recorded groups
      → ∃ order, Gathered state.system.entries groups recorded.shardCount
            (fun k => recorded.shardsCollected.testBit k) recorded.activeFinalists order
          ∧ (recorded.finalQueued = false → recorded.activeFinalists
              = order.flatMap fun k => podium state.system.entries (groups k)))
    : TournamentExact ⟨after, journal⟩ := by
  constructor
  · intro recorded layout stored named splits
    rw [field] at splits
    rw [entries, field]
    refine known.tier1 (tier1 stored) ?_ splits
    rw [declaredLayout, tier1 stored, ← stored]
    exact named
  · rw [entries, field, sliced]
    exact known.sliced
  · rw [entries]
    exact bracket

/-- A tournament is unaffected where its partition accounts keep their progress. -/
theorem TournamentExact.quiet (known : TournamentExact state)
    (entries : after.entries = state.system.entries)
    (field : after.roundEntries = state.system.roundEntries)
    (sliced : journal.sliced = state.journal.sliced)
    (tier1 : ∀ {recorded}, after.tier1 = some recorded → state.system.tier1 = some recorded)
    (bracket : ∀ {recorded}, after.bracket = some recorded
      → ∃ bracket, state.system.bracket = some bracket
        ∧ Refilled bracket recorded
        ∧ recorded.shardsCollected = bracket.shardsCollected
        ∧ recorded.activeFinalists = bracket.activeFinalists
        ∧ recorded.finalQueued = bracket.finalQueued)
    : TournamentExact ⟨after, journal⟩ := by
  refine known.rebracketed entries field sliced tier1 fun stored grouped => ?_
  obtain ⟨bracket, found, refilled, collected, finalists, queued⟩ := bracket stored
  rw [refilled.count, collected, finalists, queued]
  exact known.bracket found (grouped_kept field sliced refilled grouped)

/-- A fresh bracket has gathered nothing. -/
theorem gathered_freshBracket {ledger : RevealLedger} {shardSizes : Vector Nat maxShards}
    {shardBounds : Vector Pubkey maxShards} {shardCount count : Nat}
    {entries : Store Pubkey CompetitionEntry} {groups : Nat → List Pubkey}
    : let bracket := ledger.freshBracket shardSizes shardBounds shardCount
      ∃ order, Gathered entries groups count
          (fun k => bracket.shardsCollected.testBit k) bracket.activeFinalists order
        ∧ (bracket.finalQueued = false → bracket.activeFinalists
            = order.flatMap fun k => podium entries (groups k)) := by
  refine ⟨[], ?_, fun _ => activeFinalists_freshBracket⟩
  rw [activeFinalists_freshBracket]
  exact Gathered.empty fun k => by simp [RevealLedger.freshBracket]

/-- Collecting a group's podium into the bracket keeps the tournament exact. -/
theorem TournamentExact.collect (known : TournamentExact state) (formed : WellFormed state)
    {bracket recorded : BracketState} {picked : List Pubkey} {k : Nat}
    (found : state.system.bracket = some bracket)
    (inside : k < bracket.shardCount)
    (uncollected : bracket.shardsCollected.testBit k = false)
    (pushed : pushFinalists picked bracket = .ok recorded)
    (entries : after.entries = state.system.entries)
    (field : after.roundEntries = state.system.roundEntries)
    (sliced : journal.sliced = state.journal.sliced)
    (tier1 : after.tier1 = state.system.tier1)
    (stored : after.bracket = some (markCollected recorded k))
    (exact : ∀ {groups}, Grouped state bracket groups
      → picked = podium state.system.entries (groups k))
    : TournamentExact ⟨after, journal⟩ := by
  have counted := formed.counted found
  have refilled : Refilled bracket (markCollected recorded k) := refilled_of_push counted pushed
  have finalists := activeFinalists_of_push counted pushed
  obtain ⟨_, rfl⟩ := pushFinalists_eq_ok.mp pushed
  refine known.rebracketed entries field sliced (fun held => tier1 ▸ held) fun here grouped => ?_
  cases stored.symm.trans here
  have before := grouped_kept field sliced refilled grouped
  obtain ⟨order, gathered, ordered⟩ := known.bracket found before
  obtain rfl := exact before
  refine ⟨order ++ [k], gathered.collect ?_ inside (fun j => testBit_markCollected) ?_, ?_⟩
  · simp [uncollected]
  · exact List.Perm.of_eq finalists
  · intro unqueued
    rw [List.flatMap_append, List.flatMap_singleton, ← ordered unqueued]
    exact finalists

/-- Collecting a shard's podium into the first tier keeps the tournament exact. -/
theorem TournamentExact.collectTier1 (known : TournamentExact state) (formed : WellFormed state)
    {tier1 recorded : Tier1State} {picked : List Pubkey} {k : Nat}
    (found : state.system.tier1 = some tier1)
    (inside : k < tier1.shardCount)
    (uncollected : tier1.shardDone[k]? = some false)
    (inserted : insertWinners tier1 picked = some recorded)
    (entries : after.entries = state.system.entries)
    (field : after.roundEntries = state.system.roundEntries)
    (sliced : journal.sliced = state.journal.sliced)
    (bracket : after.bracket = state.system.bracket)
    (stored : after.tier1 = some (markDone recorded k))
    (exact : ∀ {layout}, declaredLayout state .tier1 = some layout
      → layout.Splits state.system.roundEntries
      → picked = podium state.system.entries (layout.interval state.system.roundEntries k))
    : TournamentExact ⟨after, journal⟩ := by
  obtain ⟨_, checked, sorted⟩ := formed.tier1 found
  have kept := sorted.insertWinners inserted
  constructor
  · intro written layout held named splits
    cases stored.symm.trans held
    rw [field] at splits
    have same : declaredLayout state .tier1 = some layout := by
      rw [← named, declaredLayout, declaredLayout, stored, kept.frame, found]
      rfl
    have best := exact same splits
    obtain ⟨order, gathered⟩ := known.tier1 found same splits
    have count : (markDone recorded k).shardCount = tier1.shardCount := by
      rw [kept.frame]
      rfl
    rw [entries, field, count]
    refine ⟨order ++ [k], gathered.collect ?_ inside (fun j => ?_) ?_⟩
    · simp [uncollected]
    · rw [kept.frame]
      exact shardDone_markDone (inside.trans_le checked.bounded)
    · rw [best] at kept
      exact kept.members
  · rw [entries, field, sliced]
    exact known.sliced
  · intro held groups here grouped
    rw [entries]
    refine known.bracket (bracket ▸ here) ?_
    simpa only [Grouped, field, sliced] using grouped

/-- Queueing the final orders the finalists and keeps the tournament exact. -/
theorem TournamentExact.queueFinal (known : TournamentExact state) (formed : WellFormed state)
    {bracket : BracketState} {accounts : List Pubkey}
    (found : state.system.bracket = some bracket) (final : FinalRun bracket accounts)
    (entries : after.entries = state.system.entries)
    (field : after.roundEntries = state.system.roundEntries)
    (sliced : journal.sliced = state.journal.sliced)
    (tier1 : after.tier1 = state.system.tier1)
    (stored : after.bracket = some (afterQueue bracket finalShardIndex accounts))
    : TournamentExact ⟨after, journal⟩ := by
  have counted := formed.counted found
  have refilled : Refilled bracket (afterQueue bracket finalShardIndex accounts) :=
    refilled_afterQueue counted
  refine known.rebracketed entries field sliced (fun held => tier1 ▸ held) fun here grouped => ?_
  cases stored.symm.trans here
  obtain ⟨order, gathered, _⟩ := known.bracket found (grouped_kept field sliced refilled grouped)
  rw [final.activeFinalists_afterQueue counted]
  refine ⟨order, ⟨gathered.unique, ?_, ?_, final.perm.trans gathered.members⟩, ?_⟩
  · rw [afterQueue_frame]
    exact gathered.marked
  · rw [refilled.count]
    exact gathered.inside
  · rw [afterQueue, if_pos rfl]
    rintro ⟨⟩

/-- Once every tier-1 shard is collected, the winners hold the podium of the round. -/
theorem TournamentExact.promotes (known : TournamentExact state) (formed : WellFormed state)
    (marked : RunsMarked state) {start : RevealLedger} (followed : Followed start state)
    (entered : start.roundEntries.length = start.round.participantCount)
    {tier1 : Tier1State} (found : state.system.tier1 = some tier1)
    (collected : tier1.allShardsCollected)
    : (∀ key ∈ tier1.activeWinners, key ∈ state.system.roundEntries)
      ∧ podium state.system.entries tier1.activeWinners
        = podium state.system.entries state.system.roundEntries := by
  have checked := (formed.tier1 found).2.1
  have named : declaredLayout state .tier1
      = some (layoutOf tier1.shardSizes tier1.shardBounds tier1.shardCount) := by
    rw [declaredLayout, found, Option.map_some]
  have complete : ∀ k < tier1.shardCount, tier1.shardDone[k]? = some true :=
    fun k inside => checked.done_of_allShardsCollected collected inside
  have splits := followed.splits entered named fun index inside => by
    rw [checked.length_bounds] at inside
    obtain ⟨record, listed, pin, aimed⟩ :=
      marked.marked (show state.system.Marked index .tier1 from
        ⟨tier1, found, complete index inside⟩)
    exact ⟨record, listed, pin, aimed (Or.inl rfl)⟩
  obtain ⟨order, gathered⟩ := known.tier1 found named splits
  refine ⟨fun key member => ?_, ?_⟩
  · obtain ⟨k, _, inside⟩ := gathered.mem member
    exact (Layout.mem_interval.mp inside).1
  · have covered := splits.concat_perm
    rw [Layout.concat, checked.length_bounds] at covered
    exact (gathered.podium_eq complete).trans (podium_perm covered)

/-- Every documented instruction that reads the circuit's output keeps the tournament exact,
by cases on the instruction.
-/
theorem TournamentExact.step (known : TournamentExact state) (marked : RunsMarked state)
    {start : RevealLedger} (followed : Followed start state)
    (entered : start.roundEntries.length = start.round.participantCount)
    {submission : Submission} (documented : DocumentedRead state submission)
    (success : revealStep state.system submission = .ok after)
    : TournamentExact ⟨after, note state.system submission state.journal⟩ := by
  have field := (revealStep_framed success).roundEntries
  have entries := (revealStep_framed success).entries
  have formed := followed.formed
  obtain ⟨reads, sliced⟩ := documented
  obtain ⟨env, instruction⟩ := submission
  cases instruction with
  | initBracket shardSizes shardBounds shardCount =>
      obtain ⟨_, _, rfl⟩ := initBracket_eq_ok.mp success
      refine ⟨known.tier1, ?_, ?_⟩
      · rintro winners ⟨⟩
      · rintro _ groups ⟨⟩ _
        exact gathered_freshBracket
  | promoteTier1 =>
      obtain ⟨tier1, checks, rfl⟩ := promoteTier1_eq_ok.mp success
      refine ⟨?_, ?_, ?_⟩
      · rintro _ layout ⟨⟩ named
        intro splits
        obtain ⟨order, gathered⟩ := known.tier1 checks.found
          (by rw [declaredLayout, checks.found]; exact named) splits
        exact ⟨order, gathered⟩
      · intro winners promoted
        simp only [note, checks.found, Option.map_some] at promoted
        cases promoted
        exact known.promotes formed marked followed entered checks.found checks.collected
      · rintro _ groups ⟨⟩ _
        exact gathered_freshBracket
  | initTier1Bracket shardSizes shardBounds shardCount =>
      obtain ⟨_, _, _, _, _, rfl⟩ := initTier1Bracket_eq_ok.mp success
      refine ⟨?_, known.sliced, known.bracket⟩
      rintro _ layout ⟨⟩ _ _
      rw [activeWinners_freshTier1]
      refine ⟨[], Gathered.empty fun k done => ?_⟩
      obtain ⟨_, value⟩ := Vector.getElem?_eq_some_iff.mp done
      simp [freshTier1] at value
  | closeTier1Bracket =>
      obtain ⟨_, _, _, rfl⟩ := closeTier1Bracket_eq_ok.mp success
      refine ⟨?_, known.sliced, known.bracket⟩
      rintro _ layout ⟨⟩
  | queueShardReveal computationOffset shardIndex accounts =>
      obtain ⟨bracket, run, checks, _, rfl⟩ := queueShardReveal_eq_ok.mp success
      have counted := formed.counted checks.found
      by_cases here : shardIndex = finalShardIndex
      · subst here
        exact known.queueFinal formed checks.found (checks.finalRun rfl) rfl field rfl rfl rfl
      · refine known.quiet rfl field rfl id ?_
        rintro _ ⟨⟩
        rw [afterQueue, if_neg here]
        exact ⟨bracket, checks.found, ⟨rfl, rfl, rfl, counted⟩, rfl, rfl, rfl⟩
  | queueTier1ShardReveal computationOffset shardIndex accounts =>
      obtain ⟨tier1, run, checks, _, rfl⟩ := queueTier1ShardReveal_eq_ok.mp success
      exact ⟨known.tier1, known.sliced, known.bracket⟩
  | queueSemifinalReveal computationOffset semiIndex accounts =>
      obtain ⟨tier1, bracket, run, checks, _, rfl⟩ := queueSemifinalReveal_eq_ok.mp success
      exact ⟨known.tier1, known.sliced, known.bracket⟩
  | collectShardWinners shardIndex accounts =>
      obtain ⟨bracket, result, run, recorded, checks, recording, rfl⟩ :=
        collectShardWinners_eq_ok.mp success
      obtain ⟨picked, resolved, pushed⟩ := recordFinalists_eq_ok.mp recording
      obtain ⟨record, queued, aimed, pin, output⟩ := reads _ rfl
      change state.journal.sliced = none at sliced
      refine known.collect formed checks.found checks.indexed checks.uncollected pushed rfl field
        rfl rfl rfl fun {groups} grouped => ?_
      simp only [Grouped, sliced] at grouped
      obtain ⟨splits, rfl⟩ := grouped
      have checked := formed.declared checks.found sliced
      have named : declaredLayout state .bracket = some
          (layoutOf bracket.shardSizes bracket.shardBounds bracket.shardCount) := by
        simp [declaredLayout, sliced, checks.found]
      exact followed.admitted.picked_shard checked named splits checks.indexed checks.size
        checks.read queued aimed pin checks.resulted output resolved
  | collectSemifinalWinners semiIndex =>
      obtain ⟨tier1, bracket, result, size, picked, recorded, checks, resolved, pushed, rfl⟩ :=
        collectSemifinalWinners_eq_ok.mp success
      obtain ⟨record, queued, aimed, pin, output⟩ := reads _ rfl
      obtain ⟨_, _, sorted⟩ := formed.tier1 checks.foundTier1
      have promoted := formed.promoted checks.foundTier1 checks.promoted
      have into := formed.sliced checks.found promoted
      refine known.collect formed checks.found checks.indexed checks.uncollected pushed rfl field
        rfl rfl rfl fun {groups} grouped => ?_
      simp only [Grouped, promoted] at grouped
      subst grouped
      obtain rfl := Option.some.inj ((into.size_slice checks.indexed).symm.trans checks.size)
      have cut := pickWinners_take.mpr resolved
      rw [into.take_stored sorted checks.indexed] at cut
      rw [marked.semifinals promoted record queued pin semiIndex aimed] at output
      refine picked_eq_podium checks.resulted output ?_ ?_ ?_ cut
      · exact fun key member =>
          (known.sliced promoted).1 key (winnersSlice_sublist.subset member)
      · exact into.ascending.sublist winnersSlice_sublist
      · exact (into.slice_le checks.indexed).trans (by decide)
  | collectTier1Winners shardIndex accounts =>
      obtain ⟨tier1, result, run, recorded, checks, recording, rfl⟩ :=
        collectTier1Winners_eq_ok.mp success
      obtain ⟨picked, resolved, inserted⟩ := recordWinners_eq_ok.mp recording
      obtain ⟨record, queued, aimed, pin, output⟩ := reads _ rfl
      refine known.collectTier1 formed checks.found checks.indexed checks.uncollected inserted rfl
        field rfl rfl rfl fun {layout} named splits => ?_
      obtain ⟨rfl, checked⟩ := formed.declares_tier1 checks.found named
      exact followed.admitted.picked_shard checked named splits checks.indexed checks.size
        checks.read queued aimed pin checks.resulted output resolved
  | applyBracketResult resultIndex =>
      obtain ⟨bracket, result, top, checks, _, rfl⟩ := applyBracketResult_eq_ok.mp success
      have counted := formed.counted checks.found
      refine known.quiet rfl field rfl id ?_
      rintro _ ⟨⟩
      exact ⟨bracket, checks.found, ⟨rfl, rfl, rfl, counted⟩, rfl, rfl, rfl⟩
  | revealTop3V5Callback computationOffset verified =>
      obtain ⟨_, _, _, _, _, rfl⟩ := revealTop3V5Callback_eq_ok.mp success
      exact known.quiet rfl field (state.journal.deliver_sliced _) id
        fun stored => ⟨_, stored, ⟨rfl, rfl, rfl, formed.counted stored⟩, rfl, rfl, rfl⟩

/-- The facts about a reveal hold throughout every documented run. -/
theorem tournament_of_run {start : RevealLedger} (unstarted : start.Unstarted)
    (entered : start.roundEntries.length = start.round.participantCount)
    {history : List Submission} {state : JournaledReveal}
    (run : Run journaledReveal DocumentedRead start.journaled history state)
    : Followed start state ∧ RunsMarked state ∧ TournamentExact state := by
  apply run.invariant
  · exact ⟨unstarted.followed, unstarted.runsMarked, unstarted.exact⟩
  · rintro before submission after ⟨followed, marked, exact⟩ documented success
    obtain ⟨accepted, noted⟩ := journaled_eq_ok.mp success
    have kept := And.intro (followed.step accepted) (And.intro
      (marked.step followed.formed followed.admitted accepted)
      (exact.step marked followed entered documented accepted))
    rwa [← noted] at kept

--------------------------------------------------------------------------------
-- The applied winners
--------------------------------------------------------------------------------

/-- Once all its shards are collected, a bracket's finalists hold the round's podium; with
one shard they are the podium, in rank order.
-/
theorem finalists_podium {start : RevealLedger} (followed : Followed start state)
    (marked : RunsMarked state) (exact : TournamentExact state)
    (entered : start.roundEntries.length = start.round.participantCount)
    {bracket : BracketState} (found : state.system.bracket = some bracket)
    (collected : bracket.allShardsCollected)
    : (∀ key ∈ bracket.activeFinalists, key ∈ state.system.roundEntries)
      ∧ podium state.system.entries bracket.activeFinalists
        = podium state.system.entries state.system.roundEntries
      ∧ (bracket.shardCount = 1 → bracket.finalQueued = false
          → bracket.activeFinalists
            = podium state.system.entries state.system.roundEntries) := by
  have formed := followed.formed
  have few := formed.shardCount_le found
  have complete : ∀ k < bracket.shardCount, bracket.shardsCollected.testBit k :=
    fun k inside => testBit_of_allShardsCollected collected few inside
  -- the groups cover the field, or the winners whose podium is the field's
  have covering : ∃ groups, Grouped state bracket groups
      ∧ (∀ k < bracket.shardCount, ∀ key ∈ groups k, key ∈ state.system.roundEntries)
      ∧ podium state.system.entries ((List.range bracket.shardCount).flatMap groups)
        = podium state.system.entries state.system.roundEntries := by
    cases sliced : state.journal.sliced with
    | none =>
        have checked := formed.declared found sliced
        have named : declaredLayout state .bracket = some
            (layoutOf bracket.shardSizes bracket.shardBounds bracket.shardCount) := by
          simp [declaredLayout, sliced, found]
        have splits := followed.splits entered named fun index inside => by
          rw [checked.length_bounds] at inside
          obtain ⟨record, listed, pin, aimed⟩ :=
            marked.marked (show state.system.Marked index .bracket from
              ⟨bracket, found, complete index inside⟩)
          exact ⟨record, listed, pin, aimed (Or.inr sliced)⟩
        have covered := splits.concat_perm
        rw [Layout.concat, checked.length_bounds] at covered
        refine ⟨_, ?_, ?_, podium_perm covered⟩
        · rw [Grouped, sliced]
          exact ⟨splits, rfl⟩
        · exact fun k _ key member => (Layout.mem_interval.mp member).1
    | some winners =>
        have into := formed.sliced found sliced
        obtain ⟨drawn, same⟩ := exact.sliced sliced
        refine ⟨winnersSlice winners, by simp only [Grouped, sliced], ?_, ?_⟩
        · exact fun k _ key member => drawn key (winnersSlice_sublist.subset member)
        · rw [into.count, flatMap_winnersSlice into.winning, same]
  obtain ⟨groups, grouped, drawn, covered⟩ := covering
  obtain ⟨order, gathered, ordered⟩ := exact.bracket found grouped
  refine ⟨fun key member => ?_, (gathered.podium_eq complete).trans covered, ?_⟩
  · obtain ⟨k, inside, belongs⟩ := gathered.mem member
    exact drawn k inside key belongs
  · intro single unqueued
    have listed := gathered.order_perm complete
    rw [single] at listed covered
    rw [ordered unqueued, List.perm_singleton.mp listed, ← covered]
    simp

/-- Applying a bracket of several shards writes the podium of its finalists. -/
theorem final_podium (formed : WellFormed state) (marked : RunsMarked state) {env : Env}
    {resultIndex : Nat} {bracket : BracketState} {result : RevealTop3V3Result}
    {top : List Pubkey}
    (drawn : ∀ key ∈ bracket.activeFinalists, key ∈ state.system.roundEntries)
    (checks : ApplyChecks env state.system resultIndex bracket result)
    (many : bracket.shardCount ≠ 1)
    (resolved : resolveTop bracket result resultIndex = .ok top)
    (reads : ReadsOutput state ⟨env, .applyBracketResult resultIndex⟩)
    : top = podium state.system.entries bracket.activeFinalists := by
  obtain ⟨rfl, _, picked⟩ := (resolveTop_many many).mp resolved
  have read : RevealInstruction.reads state.system (.applyBracketResult finalShardIndex)
      = some (.bracket, .shard finalShardIndex) := by
    simp [RevealInstruction.reads, checks.found, many]
  obtain ⟨record, queued, aimed, pin, output⟩ := reads _ read
  obtain ⟨_, finalists, ascending⟩ := marked.finals checks.found record queued pin aimed
  rw [finalists] at output ascending
  have counted := formed.counted checks.found
  have size : bracket.activeFinalists.length = bracket.finalistCount := by
    rw [BracketState.activeFinalists, List.length_take, Vector.length_toList,
      Nat.min_eq_left counted]
  rw [take_slots, ← size] at picked
  refine picked_eq_podium checks.resulted output drawn ascending ?_ picked
  rw [size]
  exact counted.trans (by decide)

/-- The winners written by an accepted apply are the podium of all the round's entries:
score times eight plus rarity descending, then address ascending.
-/
theorem applied_top_exact {start : RevealLedger} (unstarted : start.Unstarted)
    (entered : start.roundEntries.length = start.round.participantCount)
    {history : List Submission} {state : JournaledReveal}
    (run : Run journaledReveal DocumentedRead start.journaled history state)
    {env : Env} {resultIndex : Nat} {after : RevealLedger}
    (reads : ReadsOutput state ⟨env, .applyBracketResult resultIndex⟩)
    (success : applyBracketResult env resultIndex state.system = .ok after)
    : after.round.tops = (List.range 3).map fun place =>
        ((podium start.entries start.roundEntries)[place]?).getD 0 := by
  obtain ⟨followed, marked, exact⟩ := tournament_of_run unstarted entered run
  obtain ⟨bracket, result, top, checks, resolved, rfl⟩ := applyBracketResult_eq_ok.mp success
  obtain ⟨drawn, best, single⟩ :=
    finalists_podium followed marked exact entered checks.found checks.collected
  have field : podium state.system.entries state.system.roundEntries
      = podium start.entries start.roundEntries := by
    rw [RevealLedger.roundEntries, followed.entries, followed.key, RevealLedger.roundEntries]
  rw [← field]
  have written : top = podium state.system.entries state.system.roundEntries := by
    by_cases one : bracket.shardCount = 1
    · obtain ⟨_, unqueued, rfl⟩ := (resolveTop_single one).mp resolved
      rw [single one unqueued]
      apply List.take_of_length_le
      rw [podium, List.length_map, length_top]
      exact Nat.min_le_left _ _
    · rw [← best]
      exact final_podium followed.formed marked drawn checks one resolved reads
  rw [← written]
  rfl

/-- Both semifinals, the final and everything before them over fifty-four entries. -/
def finalScript : List Submission :=
  List.map authoritySubmits <|
    promoteFiftyFour
      ++ [.queueSemifinalReveal 51 0 [1, 12, 13, 14, 15, 16, 27],
        .revealTop3V5Callback 51 true, .collectSemifinalWinners 0,
        .queueSemifinalReveal 51 1 [28, 29, 40, 41, 42, 53, 54],
        .revealTop3V5Callback 51 true, .collectSemifinalWinners 1,
        .queueShardReveal 51 finalShardIndex [1, 12, 13, 28, 29, 40],
        .revealTop3V5Callback 51 true]

/-- Applying the final of fifty-four entries writes the round's podium. -/
theorem finalScript_applies
    : ∃ state after,
        Run journaledReveal DocumentedRead (scoredRound bypassScores).journaled finalScript state
        ∧ applyBracketResult authorityEnv finalShardIndex state.system = .ok after
        ∧ after.round.tops = (List.range 3).map fun place =>
            ((podium (scoredRound bypassScores).entries
              (scoredRound bypassScores).roundEntries)[place]?).getD 0 := by
  have replayed : (replay journaledReveal DocumentedRead
      (scoredRound bypassScores).journaled finalScript).any fun state =>
        (applyBracketResult authorityEnv finalShardIndex state.system).isOk
        && decide (ReadsOutput state (authoritySubmits (.applyBracketResult finalShardIndex))) := by
    decide +kernel
  obtain ⟨state, run, checked⟩ := Run.of_replay_any replayed
  rw [Bool.and_eq_true, decide_eq_true_eq] at checked
  obtain ⟨after, success⟩ := exists_of_isOk checked.1
  exact ⟨state, after, run, success, applied_top_exact (scoredRound_unstarted _)
    (by decide +kernel) run checked.2 success⟩

end SecretGarden.Bracket
