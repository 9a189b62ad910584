import SecretGarden.Bracket.Marks

/-! Whose output a collect or apply reads.
The stored partition assigns a list of entries to every result account. A timely run reads
outputs on exactly these lists, and resolves their slots in the same lists.
-/

namespace SecretGarden.Bracket

open Foundation

/-- The list that the stored partition assigns to a result account: the recorded finalists to
the final, its slice of the promoted winners to a semifinal, and its interval of the round's
entries to an ordinary shard.
-/
def entryList (state : JournaledReveal) (partition : Partition)
    : (target : ResultAddress) → List Pubkey
  | .semifinal k => winnersSlice (state.journal.sliced.getD []) k
  | .shard k =>
      if partition = .bracket ∧ k = finalShardIndex then
        (state.system.bracket.map BracketState.activeFinalists).getD []
      else
        ((declaredLayout state partition).map
          (Layout.interval · state.system.roundEntries k)).getD []

/-- What a semifinal is resolved in: its stretch of the stored winners. -/
def semifinalList (ledger : RevealLedger) (semiIndex : Nat) : List Pubkey :=
  match ledger.tier1, ledger.bracket with
  | some tier1, some bracket =>
      (tier1.winners.toList.drop (storedStart bracket semiIndex)).take
        (bracket.shardSizes[semiIndex]?.getD 0)
  | _, _ => []

/-- The list in which an instruction resolves the slots it reads. -/
def RevealInstruction.resolvesIn (ledger : RevealLedger) : RevealInstruction → List Pubkey
  | .collectShardWinners _ accounts => accounts
  | .collectTier1Winners _ accounts => accounts
  | .collectSemifinalWinners semiIndex => semifinalList ledger semiIndex
  | .applyBracketResult _ => (ledger.bracket.map BracketState.activeFinalists).getD []
  | _ => []

/-- An ordinary shard is collected under a partition that was declared with a layout, not
promoted, and this layout splits the round's entries.
-/
def CollectsDeclared (state : JournaledReveal) (submission : Submission) : Prop :=
  match submission.instruction with
  | .collectShardWinners _ _ =>
      ∃ layout ∈ declaredLayout state .bracket, layout.Splits state.system.roundEntries
  | .collectTier1Winners _ _ =>
      ∃ layout ∈ declaredLayout state .tier1, layout.Splits state.system.roundEntries
  | _ => True

instance (state : JournaledReveal) (submission : Submission)
    : Decidable (CollectsDeclared state submission) := by
  unfold CollectsDeclared
  generalize submission.instruction = instruction
  rcases instruction <;> infer_instance

/-- The read result account holds the output of a computation that was queued under the
partition in force on the list this partition assigns, and the slots are resolved in that list.
-/
structure ReadsAssigned (state : JournaledReveal) (instruction : RevealInstruction)
    (partition : Partition) (target : ResultAddress) (record : RunRecord) : Prop where
  queued : record ∈ state.journal.queued
  written : state.journal.written target = some record
  aimed : record.target = target
  pin : record.pin = state.journal.pinOf partition
  output : state.system.HoldsOutput target record.accounts
  assigned : record.accounts = entryList state partition target
  resolved : instruction.resolvesIn state.system = record.accounts

variable {state : JournaledReveal} {after : RevealLedger} {start : RevealLedger}

/-- An instruction resolves the slots of a current run in the list the run was queued on, which
is the one its partition assigns, by cases on the instruction.
-/
theorem list_of_read (followed : Followed start state) (marked : RunsMarked state)
    {submission : Submission} (success : revealStep state.system submission = .ok after)
    (declared : CollectsDeclared state submission)
    {partition : Partition} {target : ResultAddress}
    (reads : submission.instruction.reads state.system = some (partition, target))
    {record : RunRecord} (queued : record ∈ state.journal.queued)
    (aimed : record.target = target) (pin : record.pin = state.journal.pinOf partition)
    : record.accounts = entryList state partition target
      ∧ submission.instruction.resolvesIn state.system = record.accounts := by
  have formed := followed.formed
  have listed : record ∈ state.journal.runs := List.mem_append_left _ queued
  obtain ⟨env, instruction⟩ := submission
  cases instruction with
  | collectShardWinners shardIndex accounts =>
      cases reads
      obtain ⟨bracket, _, _, _, checks, _, _⟩ := collectShardWinners_eq_ok.mp success
      obtain ⟨layout, named, splits⟩ := declared
      obtain ⟨rfl, checked⟩ := formed.declares_bracket checks.found named
      have inside := checks.indexed.trans_eq checked.length_bounds.symm
      have ordinary := ne_finalShardIndex checks.indexed checked.bounded
      have same := followed.eq_interval named splits listed pin inside aimed
      refine ⟨?_, ?_⟩
      · rw [same, entryList, if_neg fun final => ordinary final.2, named]
        rfl
      · rw [same]
        exact splits.admitted_eq inside
          (checked.admits checks.indexed checks.size checks.read.placed)
          fun key => checks.read.mem_roundEntries
  | collectTier1Winners shardIndex accounts =>
      cases reads
      obtain ⟨tier1, _, _, _, checks, _, _⟩ := collectTier1Winners_eq_ok.mp success
      obtain ⟨layout, named, splits⟩ := declared
      obtain ⟨rfl, checked⟩ := formed.declares_tier1 checks.found named
      have inside := checks.indexed.trans_eq checked.length_bounds.symm
      have same := followed.eq_interval named splits listed pin inside aimed
      refine ⟨?_, ?_⟩
      · rw [same, entryList, if_neg nofun, named]
        rfl
      · rw [same]
        exact splits.admitted_eq inside
          (checked.admits checks.indexed checks.size checks.read.placed)
          fun key => checks.read.mem_roundEntries
  | collectSemifinalWinners semiIndex =>
      cases reads
      obtain ⟨tier1, bracket, _, size, _, _, checks, _, _, _⟩ :=
        collectSemifinalWinners_eq_ok.mp success
      obtain ⟨_, _, sorted⟩ := formed.tier1 checks.foundTier1
      have sliced := formed.promoted checks.foundTier1 checks.promoted
      have into := formed.sliced checks.found sliced
      have same := marked.semifinals sliced record queued pin semiIndex aimed
      refine ⟨?_, ?_⟩
      · rw [same, entryList, sliced, Option.getD_some]
      · rw [same, RevealInstruction.resolvesIn, semifinalList, checks.foundTier1, checks.found]
        simp only [into.size_slice checks.indexed, Option.getD_some]
        exact into.take_stored sorted checks.indexed
  | applyBracketResult resultIndex =>
      obtain ⟨bracket, _, _, checks, resolved, _⟩ := applyBracketResult_eq_ok.mp success
      simp only [RevealInstruction.reads, checks.found, Option.any_some, decide_eq_true_eq]
        at reads
      split at reads
      · next many =>
          cases reads
          obtain ⟨rfl, _, _⟩ := (resolveTop_many many).mp resolved
          obtain ⟨_, same, _⟩ := marked.finals checks.found record queued pin aimed
          refine ⟨?_, ?_⟩
          · rw [same, entryList, if_pos ⟨rfl, rfl⟩, checks.found]
            rfl
          · rw [same, RevealInstruction.resolvesIn, checks.found]
            rfl
      · cases reads
  | _ => cases reads

/-- In a timely run every collect of a declared shard or a semifinal, and every apply that
resolves slots, reads the output of a computation that was queued on the list of the stored
partition, and picks from that list.
-/
theorem timely_reads_current (unstarted : start.Unstarted)
    {history : List Submission}
    (run : Run journaledReveal Timely start.journaled history state)
    {submission : Submission} (success : revealStep state.system submission = .ok after)
    (declared : CollectsDeclared state submission)
    {partition : Partition} {target : ResultAddress}
    (reads : submission.instruction.reads state.system = some (partition, target))
    : ∃ record, ReadsAssigned state submission.instruction partition target record := by
  have known := provenance_of_run unstarted run
  obtain ⟨result, found, ready, compared⟩ := result_of_read success reads
  obtain ⟨record, wrote, listed, same, pinned, held⟩ := known.written found ready
  have pin := pinned.trans (known.stamped found compared)
  obtain ⟨assigned, resolved⟩ := list_of_read (followed_of_run unstarted run)
    (marked_of_run unstarted run) success declared reads listed same pin
  exact ⟨record, listed, wrote, same, pin, held, assigned, resolved⟩

/-- One partition of three entries, its only shard queued and delivered in time. -/
def timelyScript : List Submission :=
  [pinOneShard 3,
    .queueShardReveal 51 0 [1, 2, 3],
    .revealTop3V5Callback 51 true].map authoritySubmits

/-- Collecting after a timely script reads the output on the stored partition's list. -/
theorem timelyScript_reads_current
    : ∃ state record,
        Run journaledReveal Timely (scoredRound [5, 9, 7]).journaled timelyScript state
        ∧ ReadsAssigned state (.collectShardWinners 0 [1, 2, 3]) .bracket (.shard 0) record := by
  have replayed : (replay journaledReveal Timely (scoredRound [5, 9, 7]).journaled
      timelyScript).any fun state =>
        decide (CollectsDeclared state (authoritySubmits (.collectShardWinners 0 [1, 2, 3])))
        && (revealStep state.system
          (authoritySubmits (.collectShardWinners 0 [1, 2, 3]))).isOk := by
    decide +kernel
  obtain ⟨state, run, checked⟩ := Run.of_replay_any replayed
  obtain ⟨declared, accepted⟩ := Bool.and_eq_true_iff.mp checked
  obtain ⟨after, success⟩ := exists_of_isOk accepted
  obtain ⟨record, reads⟩ := timely_reads_current (scoredRound_unstarted _) run success
    (of_decide_eq_true declared) rfl
  exact ⟨state, record, run, reads⟩

/-- Two partitions of three entries: the shard-0 computation of the first, over entry 1
alone, is delivered after shard 0 of the second, over all three, was queued.
-/
def lateCallbackScript : List Submission :=
  [pinTwoShards 1 2,
    .queueShardReveal 51 0 [1],
    pinOneShard 3,
    .queueShardReveal 52 0 [1, 2, 3],
    .revealTop3V5Callback 51 true].map authoritySubmits

/-- A late callback of an earlier partition is collected as a result of the current one. -/
theorem late_callback_collected
    : ¬ ∀ (start : RevealLedger), start.Unstarted
        → ∀ (history : List Submission) (state : JournaledReveal),
          Run journaledReveal anyAction start.journaled history state
          → ∀ (submission : Submission) (after : RevealLedger),
            revealStep state.system submission = .ok after
            → ∀ (partition : Partition) (target : ResultAddress),
              submission.instruction.reads state.system = some (partition, target)
              → ReadsCurrent state partition target := by
  intro always
  have replayed : (replay journaledReveal anyAction (scoredRound [5, 9, 7]).journaled
      lateCallbackScript).any fun state =>
        (revealStep state.system
          (authoritySubmits (.collectShardWinners 0 [1, 2, 3]))).isOk
        && !decide (ReadsCurrent state .bracket (.shard 0)) := by
    decide +kernel
  obtain ⟨state, run, checked⟩ := Run.of_replay_any replayed
  rw [Bool.and_eq_true, Bool.not_eq_true', decide_eq_false_iff_not] at checked
  obtain ⟨after, success⟩ := exists_of_isOk checked.1
  exact checked.2 (always _ (scoredRound_unstarted _) _ _ run _ _ success _ _ rfl)

end SecretGarden.Bracket
