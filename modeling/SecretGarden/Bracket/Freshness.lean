import SecretGarden.Bracket.Recording

/-! Which computation's output a collect or apply reads.
The generation check compares the stamp of the last queue; the callback looks at no
generation. Runs in which callbacks are timely and stamps are never repeated read only
outputs queued under the partition in force.
-/

namespace SecretGarden.Bracket

open Foundation

/-- The generation stamp a partition account carries. -/
def RevealLedger.stampOf (ledger : RevealLedger) : Partition → Option Nat
  | .bracket => ledger.bracket.map BracketState.generation
  | .tier1 => ledger.tier1.map Tier1State.generation

/-- No account of the round carries this stamp. -/
def RevealLedger.StampUnused (ledger : RevealLedger) (stamp : Nat) : Prop :=
  (∀ cell ∈ ledger.results.entries, cell.2.generation ≠ stamp)
  ∧ ledger.stampOf .bracket ≠ some stamp
  ∧ ledger.stampOf .tier1 ≠ some stamp

instance (ledger : RevealLedger) (stamp : Nat) : Decidable (ledger.StampUnused stamp) :=
  inferInstanceAs (Decidable (_ ∧ _))

/-- The stamp the next bracket pin will use. -/
def RevealLedger.nextStamp (ledger : RevealLedger) : Nat :=
  ((ledger.bracket.getD BracketState.zeroed).generation + 1) % generationModulus

/-- A callback is timely when its computation was queued under the partition its result
account was last stamped under; a pin is timely when its stamp is new to the round.
-/
def Timely (state : JournaledReveal) (submission : Submission) : Prop :=
  match submission.instruction with
  | .revealTop3V5Callback computationOffset _ =>
      ∀ run ∈ state.journal.pending computationOffset,
        run.pin = state.journal.stamped run.target
  | .initBracket _ _ _ => state.system.StampUnused state.system.nextStamp
  | .promoteTier1 => state.system.StampUnused state.system.nextStamp
  | .initTier1Bracket _ _ _ =>
      state.system.StampUnused (submission.env.slot % generationModulus)
  | _ => True

instance (state : JournaledReveal) (submission : Submission)
    : Decidable (Timely state submission) := by
  unfold Timely
  generalize submission.instruction = instruction
  rcases instruction <;> infer_instance

/-- The read result account was last written by a computation queued under the partition
in force, and holds that computation's output.
-/
def ReadsCurrent (state : JournaledReveal) (partition : Partition) (target : ResultAddress)
    : Prop :=
  ∃ run ∈ state.journal.queued,
    state.journal.written target = some run
    ∧ run.target = target
    ∧ run.pin = state.journal.pinOf partition
    ∧ state.system.HoldsOutput target run.accounts

instance (state : JournaledReveal) (partition : Partition) (target : ResultAddress)
    : Decidable (ReadsCurrent state partition target) :=
  inferInstanceAs (Decidable (∃ run ∈ state.journal.queued, _))

/-- A read run holds exactly the contenders behind its accounts. -/
theorem RunRead.eq_contenders {entries : Store Pubkey CompetitionEntry} {roundKey : RoundKey}
    {capacity : Nat} {scoredOnly : Bool}
    {place : (i : Nat) → (prev key : Pubkey) → Outcome Unit}
    {i : Nat} {prev : Pubkey} {accounts : List Pubkey} {run : List Contender}
    (read : RunRead entries roundKey capacity scoredOnly place i prev accounts run)
    : run = contenders entries accounts := by
  rw [contenders, ← read.keys, List.filterMap_map]
  have present : ∀ contender ∈ run,
      ((fun key => (entries.lookup key).map (key, ·)) ∘ Prod.fst) contender
        = some contender := by
    intro contender member
    simp [(read.entered contender member).1]
  rw [List.filterMap_congr present, List.filterMap_some]

/-- What the journal knows about the round's result accounts in a timely run. -/
structure Provenance (state : JournaledReveal) : Prop where
  pending : ∀ {computationOffset computation},
    state.system.computations.lookup computationOffset = some computation
    → ∃ run ∈ state.journal.pending computationOffset,
        run ∈ state.journal.queued
        ∧ run.target = computation.target
        ∧ computation.args = buildRevealArgs (contenders state.system.entries run.accounts)
  written : ∀ {target result},
    state.system.results.lookup target = some result
    → result.ready
    → ∃ run ∈ state.journal.written target,
        run ∈ state.journal.queued
        ∧ run.target = target
        ∧ run.pin = state.journal.stamped target
        ∧ state.system.HoldsOutput target run.accounts
  stamped : ∀ {target result partition},
    state.system.results.lookup target = some result
    → state.system.stampOf partition = some result.generation
    → state.journal.stamped target = state.journal.pinOf partition
  apart : ∀ {stamp},
    state.system.stampOf .bracket = some stamp → state.system.stampOf .tier1 ≠ some stamp

/-- Nothing is known, and nothing needs to be, before the first instruction. -/
theorem RevealLedger.Unstarted.provenance {ledger : RevealLedger}
    (unstarted : ledger.Unstarted) : Provenance ledger.journaled := by
  constructor
  · intro computationOffset computation found
    simp [RevealLedger.journaled, unstarted.computations] at found
  · intro target result found
    simp [RevealLedger.journaled, unstarted.results] at found
  · intro target result partition found
    simp [RevealLedger.journaled, unstarted.results] at found
  · intro stamp found
    simp [RevealLedger.journaled, RevealLedger.stampOf, unstarted.bracket] at found

variable {state : JournaledReveal} {after : RevealLedger} {journal : Journal}

/-- Results and computations are left alone. -/
structure ResultsKept (before after : RevealLedger) : Prop where
  entries : after.entries = before.entries
  results : after.results = before.results
  computations : after.computations = before.computations

/-- No run is queued or delivered. -/
structure RunsKept (before after : Journal) : Prop where
  queued : after.queued = before.queued
  pending : after.pending = before.pending
  written : after.written = before.written
  stamped : after.stamped = before.stamped

/-- Where no run is queued or delivered, only the stamps of the partitions matter. -/
theorem Provenance.restamped (known : Provenance state)
    (kept : ResultsKept state.system after) (runs : RunsKept state.journal journal)
    (stamped : ∀ {target result partition},
      state.system.results.lookup target = some result
      → after.stampOf partition = some result.generation
      → state.journal.stamped target = journal.pinOf partition)
    (apart : ∀ {stamp},
      after.stampOf .bracket = some stamp → after.stampOf .tier1 ≠ some stamp)
    : Provenance ⟨after, journal⟩ := by
  refine ⟨?_, ?_, ?_, apart⟩
  · intro computationOffset computation found
    rw [kept.computations] at found
    simpa only [runs.queued, runs.pending, kept.entries] using known.pending found
  · intro target result found ready
    rw [kept.results] at found
    simpa only [runs.queued, runs.written, runs.stamped, RevealLedger.HoldsOutput, kept.results,
      kept.entries] using known.written found ready
  · intro target result partition found same
    rw [kept.results] at found
    rw [runs.stamped]
    exact stamped found same

/-- Instructions that touch neither results nor computations, and change no stamp other
than by removing its account, keep the invariant.
-/
theorem Provenance.quiet (known : Provenance state)
    (kept : ResultsKept state.system after) (runs : RunsKept state.journal journal)
    (pinOf : journal.pinOf = state.journal.pinOf)
    (stamps : ∀ {partition stamp},
      after.stampOf partition = some stamp → state.system.stampOf partition = some stamp)
    : Provenance ⟨after, journal⟩ := by
  refine known.restamped kept runs (fun found same => ?_)
    fun bracket tier1 => known.apart (stamps bracket) (stamps tier1)
  rw [pinOf]
  exact known.stamped found (stamps same)

/-- Pinning a partition with an unused stamp keeps the invariant: no result carries it. -/
theorem Provenance.pin (known : Provenance state) (partition : Partition) {stamp pin : Nat}
    (unused : state.system.StampUnused stamp)
    (kept : ResultsKept state.system after) (runs : RunsKept state.journal journal)
    (pinOf : journal.pinOf = Function.update state.journal.pinOf partition pin)
    (pinned : after.stampOf partition = some stamp)
    (others : ∀ other, other ≠ partition → after.stampOf other = state.system.stampOf other)
    : Provenance ⟨after, journal⟩ := by
  refine known.restamped kept runs ?_ ?_
  · intro target result other found same
    by_cases here : other = partition
    · subst here
      rw [pinned] at same
      have carried := unused.1 ⟨target, result⟩ (AList.mem_lookup_iff.mp found)
      exact absurd (Option.some.inj same).symm carried
    · rw [others other here] at same
      rw [pinOf, Function.update_of_ne here]
      exact known.stamped found same
  · intro shared bracket tier1
    cases partition with
    | bracket =>
        rw [others .tier1 (by decide)] at tier1
        rw [pinned] at bracket
        exact unused.2.2 (bracket ▸ tier1)
    | tier1 =>
        rw [others .bracket (by decide)] at bracket
        rw [pinned] at tier1
        exact unused.2.1 (tier1 ▸ bracket)

/-- Queueing a run under a partition keeps the invariant: its result account is cleared
and now carries that partition's stamp.
-/
theorem Provenance.queue (known : Provenance state) (partition : Partition)
    {computationOffset generation : Nat} {target : ResultAddress} {accounts : List Pubkey}
    {run : List Contender}
    (current : state.system.stampOf partition = some generation)
    (drawn : run = contenders state.system.entries accounts)
    (entries : after.entries = state.system.entries)
    (results : after.results
      = (state.system.queue computationOffset target generation run).results)
    (computations : after.computations
      = (state.system.queue computationOffset target generation run).computations)
    (stamps : ∀ partition, after.stampOf partition = state.system.stampOf partition)
    : Provenance ⟨after, state.journal.queue partition computationOffset target accounts⟩ := by
  constructor
  · intro offset computation found
    simp only [computations, RevealLedger.queue] at found
    simp only [Journal.queue, Function.update_apply, entries, Option.mem_def]
    rcases Store.lookup_insert_eq_some.mp found with ⟨here, rfl⟩ | ⟨here, found⟩
    · exact ⟨⟨state.journal.pinOf partition, target, accounts⟩, by simp [here],
        List.mem_cons_self, rfl, by rw [drawn]⟩
    · obtain ⟨earlier, origin, listed, same, args⟩ := known.pending found
      exact ⟨earlier, by simpa [here] using origin, List.mem_cons_of_mem _ listed, same, args⟩
  · intro place result found ready
    simp only [results, RevealLedger.queue] at found
    rcases Store.lookup_insert_eq_some.mp found with ⟨here, rfl⟩ | ⟨here, found⟩
    · simp [stampedResult] at ready
    · obtain ⟨earlier, origin, listed, same, pinned, held⟩ := known.written found ready
      refine ⟨earlier, origin, List.mem_cons_of_mem _ listed, same, ?_, ?_⟩
      · simpa only [Journal.queue, Function.update_of_ne here] using pinned
      · simpa only [RevealLedger.HoldsOutput, results, RevealLedger.queue, entries,
          AList.lookup_insert_ne here] using held
  · intro place result other found same
    simp only [results, RevealLedger.queue] at found
    rw [stamps] at same
    rcases Store.lookup_insert_eq_some.mp found with ⟨here, rfl⟩ | ⟨here, found⟩
    · have agrees : other = partition := by
        rw [show (stampedResult state.system target generation).generation = generation from rfl]
          at same
        cases other <;> cases partition
        · rfl
        · exact (known.apart same current).elim
        · exact (known.apart current same).elim
        · rfl
      subst agrees
      simp [Journal.queue, here]
    · simpa only [Journal.queue, Function.update_of_ne here] using known.stamped found same
  · intro stamp bracket tier1
    rw [stamps] at bracket tier1
    exact known.apart bracket tier1

/-- A delivered result holds the revealed slots. -/
theorem slots_deliveredResult (result : RevealTop3V3Result) (top : Circuit.RevealOutput)
    : (deliveredResult result top).slots = top.slots := rfl

/-- A timely delivery keeps the invariant: the result account was last stamped under the
partition its new content was queued under.
-/
theorem Provenance.deliver (known : Provenance state) {computationOffset : Nat}
    {verified : Bool}
    (success : revealTop3V5Callback computationOffset verified state.system = .ok after)
    (timely : ∀ run ∈ state.journal.pending computationOffset,
      run.pin = state.journal.stamped run.target)
    : Provenance ⟨after, state.journal.deliver computationOffset⟩ := by
  obtain ⟨computation, previous, found, present, _, rfl⟩ :=
    revealTop3V5Callback_eq_ok.mp success
  obtain ⟨delivered, origin, listed, aimed, args⟩ := known.pending found
  have noted : state.journal.deliver computationOffset
      = { state.journal with
          written := Function.update state.journal.written delivered.target
            (some delivered) } := by
    rw [Journal.deliver, origin]
  rw [noted]
  constructor
  · intro offset other queued
    exact known.pending (Store.lookup_erase_eq_some.mp queued).2
  · intro target result resulted ready
    rcases Store.lookup_insert_eq_some.mp resulted with ⟨here, rfl⟩ | ⟨here, resulted⟩
    · refine ⟨delivered, by simp [here, aimed], listed, aimed.trans here.symm, ?_, ?_⟩
      · rw [here, ← aimed]
        exact timely delivered origin
      · rw [RevealLedger.HoldsOutput, here, AList.lookup_insert, args, Option.map_some,
          slots_deliveredResult, revealedSlots]
    · obtain ⟨run, wrote, listed, same, pinned, held⟩ := known.written resulted ready
      refine ⟨run, ?_, listed, same, pinned, ?_⟩
      · have apart : target ≠ delivered.target := aimed ▸ here
        simpa only [Function.update_of_ne apart] using wrote
      · rwa [RevealLedger.HoldsOutput, AList.lookup_insert_ne here]
  · intro target result partition resulted same
    rcases Store.lookup_insert_eq_some.mp resulted with ⟨here, rfl⟩ | ⟨_, resulted⟩
    · rw [here]
      exact known.stamped present same
    · exact known.stamped resulted same
  · exact known.apart

/-- Recording finalists changes no stamp. -/
theorem stampOf_recorded {ledger : RevealLedger} {bracket recorded : BracketState}
    {keys : List Pubkey} {shardIndex : Nat}
    (found : ledger.bracket = some bracket)
    (appended : appendFinalists bracket keys = recorded) (partition : Partition)
    : { ledger with bracket := some (markCollected recorded shardIndex) }.stampOf partition
      = ledger.stampOf partition := by
  subst appended
  cases partition <;> simp [RevealLedger.stampOf, found, markCollected, appendFinalists]

/-- Every accepted timely instruction keeps the invariant, by cases on the instruction. -/
theorem Provenance.step (known : Provenance state) {submission : Submission}
    (timely : Timely state submission)
    (success : revealStep state.system submission = .ok after)
    : Provenance ⟨after, note state.system submission state.journal⟩ := by
  obtain ⟨env, instruction⟩ := submission
  cases instruction with
  | initBracket shardSizes shardBounds shardCount =>
      obtain ⟨_, _, rfl⟩ := initBracket_eq_ok.mp success
      refine known.pin .bracket timely ⟨rfl, rfl, rfl⟩ ⟨rfl, rfl, rfl, rfl⟩ rfl rfl ?_
      rintro (_ | _) apart
      · exact absurd rfl apart
      · rfl
  | promoteTier1 =>
      obtain ⟨tier1, checks, rfl⟩ := promoteTier1_eq_ok.mp success
      refine known.pin .bracket timely ⟨rfl, rfl, rfl⟩ ⟨rfl, rfl, rfl, rfl⟩ rfl rfl ?_
      rintro (_ | _) apart
      · exact absurd rfl apart
      · simp [RevealLedger.stampOf, checks.found]
  | initTier1Bracket shardSizes shardBounds shardCount =>
      obtain ⟨_, absent, _, _, _, rfl⟩ := initTier1Bracket_eq_ok.mp success
      refine known.pin .tier1 timely ⟨rfl, rfl, rfl⟩ ⟨rfl, rfl, rfl, rfl⟩ rfl rfl ?_
      rintro (_ | _) apart
      · rfl
      · exact absurd rfl apart
  | queueShardReveal computationOffset shardIndex accounts =>
      obtain ⟨bracket, run, checks, _, rfl⟩ := queueShardReveal_eq_ok.mp success
      refine known.queue .bracket ?_ checks.read.eq_contenders rfl
        rfl rfl ?_
      · simp [RevealLedger.stampOf, checks.found]
      · rintro (_ | _)
        · simp only [RevealLedger.stampOf, checks.found]
          rw [afterQueue_frame]
          rfl
        · rfl
  | queueTier1ShardReveal computationOffset shardIndex accounts =>
      obtain ⟨tier1, run, checks, _, rfl⟩ := queueTier1ShardReveal_eq_ok.mp success
      refine known.queue .tier1 ?_ checks.read.eq_contenders rfl
        rfl rfl fun _ => rfl
      simp [RevealLedger.stampOf, checks.found]
  | queueSemifinalReveal computationOffset semiIndex accounts =>
      obtain ⟨tier1, bracket, run, checks, _, rfl⟩ := queueSemifinalReveal_eq_ok.mp success
      refine known.queue .bracket ?_ checks.read.eq_contenders rfl
        rfl rfl fun _ => rfl
      simp [RevealLedger.stampOf, checks.found]
  | collectShardWinners shardIndex accounts =>
      obtain ⟨bracket, result, run, recorded, checks, recording, rfl⟩ :=
        collectShardWinners_eq_ok.mp success
      obtain ⟨picked, _, pushed⟩ := recordFinalists_eq_ok.mp recording
      have appended := (pushFinalists_eq_ok.mp pushed).2
      exact known.quiet ⟨rfl, rfl, rfl⟩ ⟨rfl, rfl, rfl, rfl⟩ rfl
        fun same => by rwa [stampOf_recorded checks.found appended] at same
  | collectTier1Winners shardIndex accounts =>
      obtain ⟨tier1, result, run, recorded, checks, recording, rfl⟩ :=
        collectTier1Winners_eq_ok.mp success
      obtain ⟨picked, _, inserted⟩ := recordWinners_eq_ok.mp recording
      have frame := insertWinners_winnersOnly inserted
      refine known.quiet ⟨rfl, rfl, rfl⟩ ⟨rfl, rfl, rfl, rfl⟩ rfl fun {partition stamp} same => ?_
      cases partition with
      | bracket => exact same
      | tier1 =>
          rw [RevealLedger.stampOf, frame] at same
          simpa [RevealLedger.stampOf, checks.found, markDone] using same
  | collectSemifinalWinners semiIndex =>
      obtain ⟨tier1, bracket, result, size, picked, recorded, checks, _, pushed, rfl⟩ :=
        collectSemifinalWinners_eq_ok.mp success
      have appended := (pushFinalists_eq_ok.mp pushed).2
      exact known.quiet ⟨rfl, rfl, rfl⟩ ⟨rfl, rfl, rfl, rfl⟩ rfl
        fun same => by rwa [stampOf_recorded checks.found appended] at same
  | applyBracketResult resultIndex =>
      obtain ⟨bracket, result, top, checks, _, rfl⟩ := applyBracketResult_eq_ok.mp success
      refine known.quiet ⟨rfl, rfl, rfl⟩ ⟨rfl, rfl, rfl, rfl⟩ rfl fun {partition stamp} same => ?_
      cases partition with
      | bracket => simpa [RevealLedger.stampOf, checks.found] using same
      | tier1 => exact same
  | closeTier1Bracket =>
      obtain ⟨_, _, _, rfl⟩ := closeTier1Bracket_eq_ok.mp success
      refine known.quiet ⟨rfl, rfl, rfl⟩ ⟨rfl, rfl, rfl, rfl⟩ rfl fun {partition stamp} same => ?_
      cases partition with
      | bracket => exact same
      | tier1 => simp [RevealLedger.stampOf] at same
  | revealTop3V5Callback computationOffset verified =>
      exact known.deliver success timely

/-- The invariant holds throughout every timely run. -/
theorem provenance_of_run {start : RevealLedger} (unstarted : start.Unstarted)
    {history : List Submission} {state : JournaledReveal}
    (run : Run journaledReveal Timely start.journaled history state)
    : Provenance state := by
  apply run.invariant unstarted.provenance
  intro before submission after known timely success
  obtain ⟨accepted, noted⟩ := journaled_eq_ok.mp success
  have kept := known.step timely accepted
  rwa [← noted] at kept

/-- An accepted read finds a ready result that carries the stamp of the partition it is
compared with.
-/
theorem result_of_read {ledger after : RevealLedger} {submission : Submission}
    {partition : Partition} {target : ResultAddress}
    (success : revealStep ledger submission = .ok after)
    (reads : submission.instruction.reads ledger = some (partition, target))
    : ∃ result,
        ledger.results.lookup target = some result
        ∧ result.ready
        ∧ ledger.stampOf partition = some result.generation := by
  obtain ⟨env, instruction⟩ := submission
  cases instruction with
  | collectShardWinners shardIndex accounts =>
      cases reads
      obtain ⟨bracket, result, _, _, checks, _, _⟩ := collectShardWinners_eq_ok.mp success
      exact ⟨result, checks.resulted, checks.ready,
        by simp [RevealLedger.stampOf, checks.found, checks.current]⟩
  | collectTier1Winners shardIndex accounts =>
      cases reads
      obtain ⟨tier1, result, _, _, checks, _, _⟩ := collectTier1Winners_eq_ok.mp success
      exact ⟨result, checks.resulted, checks.ready,
        by simp [RevealLedger.stampOf, checks.found, checks.current]⟩
  | collectSemifinalWinners semiIndex =>
      cases reads
      obtain ⟨_, bracket, result, _, _, _, checks, _, _, _⟩ :=
        collectSemifinalWinners_eq_ok.mp success
      exact ⟨result, checks.resulted, checks.ready,
        by simp [RevealLedger.stampOf, checks.found, checks.current]⟩
  | applyBracketResult resultIndex =>
      obtain ⟨bracket, result, _, checks, _, _⟩ := applyBracketResult_eq_ok.mp success
      simp only [RevealInstruction.reads] at reads
      split at reads
      · cases reads
        exact ⟨result, checks.resulted, checks.ready,
          by simp [RevealLedger.stampOf, checks.found, checks.current]⟩
      · cases reads
  | _ => cases reads

--------------------------------------------------------------------------------
-- Sample rounds
--------------------------------------------------------------------------------

/-- An environment whose signer is the authority. -/
def authorityEnv : Env :=
  { signer := 7
    config := { authority := 7, paused := false, currentRound := 1,
                operators := .replicate _ 0, operatorCount := 0,
                mutantWeight := mutantWeightUniform, restoreTs := 0, sgdMint := 9 }
    slot := 1000
    now := 0 }

def authoritySubmits (instruction : RevealInstruction) : Submission :=
  ⟨authorityEnv, instruction⟩

/-- The traits the sample rounds ask for. -/
def sampleTargets : Vector Nat 4 := #v[0, 1, 0, 0]

/-- The pin of all entries as one shard. -/
def pinOneShard (size : Nat) : RevealInstruction :=
  .initBracket #v[size, 0, 0, 0] #v[1, 0, 0, 0] 1

/-- The pin of two shards of these sizes. -/
def pinTwoShards (first second : Nat) : RevealInstruction :=
  .initBracket #v[first, second, 0, 0] #v[1, first + 1, 0, 0] 2

/-- A closed, fully scored round whose entries have the addresses `1, 2, ...` in order and
the given scores.
-/
def scoredRound (scores : List Nat) : RevealLedger :=
  { round :=
      { roundId := 1, status := .closed, startTime := 0, endTime := 0,
        maxParticipants := roundCapacity, participantCount := scores.length,
        targetTraits := sampleTargets, targetTraitCount := 2, top1 := 0, top2 := 0, top3 := 0,
        scoringRevealed := false, scoredCount := scores.length }
    entries := scores.zipIdx.foldr
      (fun (score, i) entries => entries.insert (i + 1)
        { round := 1, player := 100 + i, flowerRecord := ⟨100 + i, 6⟩, submittedAt := 0,
          status := .submitted, encryptedScore := score, scoreNonce := i, scored := true,
          scoreErrorCode := 0, scoreQueued := false, queuedAt := 0, raritySnapshot := 1 })
      ∅
    bracket := none
    tier1 := none
    results := ∅
    computations := ∅ }

theorem scoredRound_unstarted (scores : List Nat) : (scoredRound scores).Unstarted :=
  ⟨rfl, rfl, rfl, rfl⟩

end SecretGarden.Bracket
