import SecretGarden.Garden.Accounting
import SecretGarden.Garden.Locks

/-! Experiments leave the queue once. The journal counts how often each one left; with it the lock
discipline of flowers and experiments is stated over whole runs.
-/

namespace SecretGarden.Garden

open Foundation SecretGarden.Bracket SecretGarden.Settlement SecretGarden.Season

variable {env : Env} {state after : ProgramState}

/-- An experiment stays, and keeps its status unless it leaves the queue. -/
theorem Change.experiment {submission : GardenSubmission}
    (change : Change submission state after) {experimentKey : ExperimentKey}
    {experiment : Experiment} (found : state.experiments.lookup experimentKey = some experiment)
    : ∃ later, after.experiments.lookup experimentKey = some later
      ∧ (later.status = experiment.status
        ∨ experiment.status = .queued ∧ later.status ≠ .queued) := by
  have same (experiments : after.experiments = state.experiments)
      : ∃ later, after.experiments.lookup experimentKey = some later
        ∧ (later.status = experiment.status
          ∨ experiment.status = .queued ∧ later.status ≠ .queued) :=
    ⟨experiment, experiments ▸ found, .inl rfl⟩
  have settled {endedKey : ExperimentKey} {accounts : ExperimentAccounts} (ended : Experiment)
      (loaded : Loaded state endedKey accounts) (queued : accounts.experiment.status = .queued)
      (left : ended.status ≠ .queued)
      (experiments : after.experiments = state.experiments.insert endedKey ended)
      : ∃ later, after.experiments.lookup experimentKey = some later
        ∧ (later.status = experiment.status
          ∨ experiment.status = .queued ∧ later.status ≠ .queued) := by
    rw [experiments, Store.lookup_insert_apply]
    split
    · next here =>
        subst here
        cases loaded.experiment.symm.trans found
        exact ⟨ended, rfl, .inr ⟨queued, left⟩⟩
    · exact ⟨experiment, found, .inl rfl⟩
  cases change with
  | kept profiles flowers experiments => exact same experiments
  | created unused profiles flowers experiments => exact same experiments
  | claimed player unclaimed unused profiles flowers experiments => exact same experiments
  | bred _ bred =>
      cases bred with
      | queued player apart foundA activeA foundB activeB unstarted =>
          refine ⟨experiment, (AList.lookup_insert_ne ?_).trans found, .inl rfl⟩
          rintro rfl
          rw [unstarted] at found
          cases found
  | completed loaded queued _ _ _ done =>
      subst done
      exact settled (endedExperiment (state.env submission) _ .completed _) loaded queued
        (by rintro ⟨⟩) rfl
  | @abandoned _ _ status _ loaded queued dead done =>
      subst done
      refine settled (endedExperiment (state.env submission) _ status _) loaded queued ?_ rfl
      rcases dead with rfl | rfl <;> rintro ⟨⟩
  | reclaimed _ _ _ _ _ done => exact same (by rw [done]; rfl)
  | closed _ _ _ _ done => exact same (by rw [done]; rfl)
  | used _ _ _ experiments => exact same experiments

/-- An experiment that was not there before is queued. -/
theorem Change.queued_of_new {submission : GardenSubmission}
    (change : Change submission state after) {experimentKey : ExperimentKey}
    {experiment : Experiment} (unstarted : state.experiments.lookup experimentKey = none)
    (found : after.experiments.lookup experimentKey = some experiment)
    : experiment.status = .queued := by
  have old (experiments : after.experiments = state.experiments)
      : experiment.status = .queued := by
    rw [experiments, unstarted] at found
    cases found
  have settled {endedKey : ExperimentKey} {accounts : ExperimentAccounts} {ended : Experiment}
      (loaded : Loaded state endedKey accounts)
      (experiments : after.experiments = state.experiments.insert endedKey ended)
      : experiment.status = .queued := by
    rw [experiments] at found
    rcases Store.lookup_insert_eq_some.mp found with ⟨here, _⟩ | ⟨_, found⟩
    · subst here
      cases unstarted.symm.trans loaded.experiment
    · cases unstarted.symm.trans found
  cases change with
  | kept profiles flowers experiments => exact old experiments
  | created unused profiles flowers experiments => exact old experiments
  | claimed player unclaimed unused profiles flowers experiments => exact old experiments
  | bred _ bred =>
      cases bred with
      | queued =>
          rcases Store.lookup_insert_eq_some.mp found with ⟨_, rfl⟩ | ⟨_, found⟩
          · rfl
          · cases unstarted.symm.trans found
  | completed loaded _ _ _ _ done =>
      subst done
      exact settled loaded rfl
  | abandoned loaded _ _ done =>
      subst done
      exact settled loaded rfl
  | reclaimed _ _ _ _ _ done => exact old (by rw [done]; rfl)
  | closed _ _ _ _ done => exact old (by rw [done]; rfl)
  | used _ _ _ experiments => exact old experiments

def waits (state : ProgramState) (experimentKey : ExperimentKey) : Bool :=
  (state.experiments.lookup experimentKey).any fun experiment => experiment.status == .queued

/-- The experiment exists and is queued no more. -/
def isResolved (state : ProgramState) (experimentKey : ExperimentKey) : Bool :=
  (state.experiments.lookup experimentKey).any fun experiment => experiment.status != .queued

/-- Count the experiments that leave the queue. -/
def noteDepartures (state : ProgramState) (submission : GardenSubmission)
    (departures : ExperimentKey → Nat) : ExperimentKey → Nat :=
  match gardenStep state submission with
  | .ok after => fun experimentKey =>
      departures experimentKey
        + (waits state experimentKey && !waits after experimentKey).toNat
  | .error _ => departures

def departing : Journaled ProgramState (ExperimentKey → Nat) → GardenSubmission
    → Outcome (Journaled ProgramState (ExperimentKey → Nat)) :=
  journaled gardenStep noteDepartures

/-- A departure turns a queued experiment into a resolved one, and nothing else does. -/
theorem Change.departures {submission : GardenSubmission}
    (change : Change submission state after) (experimentKey : ExperimentKey)
    : (isResolved state experimentKey).toNat
        + (waits state experimentKey && !waits after experimentKey).toNat
      = (isResolved after experimentKey).toNat := by
  cases found : state.experiments.lookup experimentKey with
  | none =>
      cases later : after.experiments.lookup experimentKey with
      | none => simp [isResolved, waits, found, later]
      | some experiment =>
          have queued := change.queued_of_new found later
          simp [isResolved, waits, found, later, queued]
  | some experiment =>
      obtain ⟨later, present, same | ⟨queued, left⟩⟩ := change.experiment found
      · by_cases queued : experiment.status = .queued
          <;> simp [isResolved, waits, found, present, same, queued]
      · simp [isResolved, waits, found, present, queued, bne]

--------------------------------------------------------------------------------
-- The lock discipline
--------------------------------------------------------------------------------

/-- How experiments hold their flowers, end and are counted. -/
structure LockDiscipline (state : ProgramState) (departures : ExperimentKey → Nat) : Prop where
  /-- Both parents of a queued experiment are locked. -/
  parents : ∀ {experimentKey experiment},
    Queued state.experiments experimentKey experiment
    → ∀ parent ∈ Experiment.parents experiment,
        ∃ flower, state.flowers.lookup parent = some flower ∧ flower.status = .locked
  exclusive : ∀ {flowerKey first second},
    ParentOf state.experiments flowerKey first
    → ParentOf state.experiments flowerKey second
    → first = second
  /-- A locked flower is held by exactly one experiment, as a parent or as its offspring. -/
  held : ∀ {flowerKey flower},
    state.flowers.lookup flowerKey = some flower
    → flower.status = .locked
    → Xor (∃! experimentKey, ParentOf state.experiments flowerKey experimentKey)
        (Unripe state.experiments flowerKey flower)
  once : ∀ experimentKey, departures experimentKey = (isResolved state experimentKey).toNat
  /-- Any queued experiment can be expired once it has timed out. -/
  recoverable : ∀ {experimentKey experiment},
    Queued state.experiments experimentKey experiment
    → ∀ env : Env, experimentTimeoutSeconds ≤ env.now - experiment.createdAt
    → (cancelExpiredExperiment env experimentKey state).isOk
  counted : ∀ {wallet profile},
    state.profiles.lookup wallet = some profile
    → profile.activeExperimentCount = (queuedOf state.experiments wallet).length
  /-- There is something to subtract when a queued experiment ends. -/
  unsaturated : ∀ {experimentKey experiment},
    Queued state.experiments experimentKey experiment
    → ∃ profile, state.profiles.lookup experiment.owner = some profile
        ∧ 1 ≤ profile.activeExperimentCount

/-- No flower is a parent of two queued experiments. -/
theorem Nursery.exclusive (nursery : Nursery state.flowers state.experiments state.mints)
    {flowerKey : FlowerKey} {first second : ExperimentKey}
    (one : ParentOf state.experiments flowerKey first)
    (other : ParentOf state.experiments flowerKey second)
    : first = second := by
  obtain ⟨experiment, queued, inside⟩ := one
  obtain ⟨again, waiting, parent⟩ := other
  by_contra distinct
  exact nursery.apart queued waiting distinct flowerKey inside parent

/-- A parent is grown, and a flower that is unripe is not. -/
theorem Nursery.not_unripe (nursery : Nursery state.flowers state.experiments state.mints)
    {flowerKey : FlowerKey} {flower : FlowerRecord} {experimentKey : ExperimentKey}
    (found : state.flowers.lookup flowerKey = some flower)
    (parent : ParentOf state.experiments flowerKey experimentKey)
    : ¬ Unripe state.experiments flowerKey flower := by
  rintro ⟨sourceKey, source, named, present, incomplete, _⟩
  obtain ⟨experiment, queued, inside⟩ := parent
  obtain ⟨record, same, _, grown⟩ := nursery.held queued flowerKey inside
  cases found.symm.trans same
  exact not_grown named present incomplete grown

/-- The owner of a queued experiment counts at least that one. -/
theorem Locks.unsaturated (locks : Locks state.flowers state.experiments state.profiles)
    {experimentKey : ExperimentKey} {experiment : Experiment}
    (queued : Queued state.experiments experimentKey experiment)
    : ∃ profile, state.profiles.lookup experiment.owner = some profile
        ∧ 1 ≤ profile.activeExperimentCount := by
  obtain ⟨profile, found⟩ := Option.isSome_iff_exists.mp (locks.owners queued.1)
  have listed : experimentKey ∈ queuedOf state.experiments experiment.owner :=
    Store.mem_keysWhere.mpr ⟨experiment, queued.1, by simp [Experiment.runsFor, queued.2]⟩
  refine ⟨profile, found, ?_⟩
  rw [locks.counted found]
  exact List.length_pos_of_mem listed

/-- A queued experiment that has timed out can be expired. -/
theorem cancelExpiredExperiment_isOk
    (nursery : Nursery state.flowers state.experiments state.mints)
    (locks : Locks state.flowers state.experiments state.profiles)
    {experimentKey : ExperimentKey} {experiment : Experiment}
    (queued : Queued state.experiments experimentKey experiment)
    (timedOut : experimentTimeoutSeconds ≤ env.now - experiment.createdAt)
    : (cancelExpiredExperiment env experimentKey state).isOk := by
  obtain ⟨profile, player, _⟩ := locks.unsaturated queued
  obtain ⟨flowerA, foundA, _⟩ :=
    nursery.held queued experiment.parentA (by simp [Experiment.parents])
  obtain ⟨flowerB, foundB, _⟩ :=
    nursery.held queued experiment.parentB (by simp [Experiment.parents])
  have distinct := locks.apart queued.1
  have loaded
      : loadExperiment experimentKey state = .ok ⟨experiment, profile, flowerA, flowerB⟩ := by
    simp only [loadExperiment, bind_eq_ok, fetch_eq_ok, require_eq_ok, exists_const, pure_eq_ok]
    exact ⟨experiment, queued.1, profile, player, flowerA, foundA, flowerB, foundB, distinct, rfl⟩
  simp only [cancelExpiredExperiment, bind_of_ok loaded, queued.2, timedOut, require, true_or,
    if_true]
  rfl

/-- Every accepted instruction keeps the journal in step with the experiments. -/
theorem departures_step {before later : Journaled ProgramState (ExperimentKey → Nat)}
    {submission : GardenSubmission}
    (nursery : Nursery before.system.flowers before.system.experiments before.system.mints)
    (noted : ∀ experimentKey,
      before.journal experimentKey = (isResolved before.system experimentKey).toNat)
    (_ : anyAction before submission)
    (success : departing before submission = .ok later)
    : ∀ experimentKey,
        later.journal experimentKey = (isResolved later.system experimentKey).toNat := by
  obtain ⟨moved, journal⟩ := journaled_eq_ok.mp success
  intro experimentKey
  rw [journal, noteDepartures, moved]
  dsimp only
  rw [noted, (gardenStep_change nursery moved).departures]

/-- Over every run, whatever answers arrive late or twice, experiments hold their flowers alone,
end once and are counted exactly.
-/
theorem experiments_locked {start : ProgramState} (fresh : start.Fresh)
    {history : List GardenSubmission} {departures : ExperimentKey → Nat}
    (run : Run departing anyAction ⟨start, fun _ => 0⟩ history ⟨state, departures⟩)
    : LockDiscipline state departures := by
  have nursery := nursery_of_run fresh run.forget
  have locks := locks_of_run fresh run.forget
  refine ⟨?_, nursery.exclusive, ?_, ?_, ?_, locks.counted, locks.unsaturated⟩
  · intro experimentKey experiment queued parent inside
    obtain ⟨flower, found, locked, _⟩ := nursery.held queued parent inside
    exact ⟨flower, found, locked⟩
  · intro flowerKey flower found locked
    rcases locks.locked found locked with ⟨experimentKey, parent⟩ | unripe
    · exact .inl ⟨⟨experimentKey, parent, fun _ other => nursery.exclusive other parent⟩,
        nursery.not_unripe found parent⟩
    · refine .inr ⟨unripe, ?_⟩
      rintro ⟨experimentKey, parent, _⟩
      exact nursery.not_unripe found parent unripe
  · exact run.invariant_with (fun earlier => nursery_of_run fresh earlier.forget)
      (by simp [isResolved, fresh.experiments]) departures_step
  · exact fun queued env timedOut => cancelExpiredExperiment_isOk nursery locks queued timedOut

/-- An experiment expires and its answer arrives late, once before and once after its parents are
bred again.
-/
def lateAnswerScript : List GardenSubmission :=
  let unsynced : SyncAccounts := ⟨0, 0, 0⟩
  let breeds : GardenInstruction := .startBreeding ⟨101, 0⟩ ⟨101, 1⟩ unsynced unsynced 51
  let answers : GardenInstruction := .breedV5Callback ⟨101, 0⟩ (some ⟨1, 1, 1⟩)
  [⟨101, 1000, 1, .createProfile⟩,
    ⟨101, 1000, 1, .claimStarters⟩,
    ⟨101, 1000, 1, breeds⟩,
    ⟨66, 1000, 601, .cancelExpiredExperiment ⟨101, 0⟩⟩,
    ⟨66, 1000, 602, answers⟩,
    ⟨101, 1000, 603, breeds⟩,
    ⟨66, 1000, 604, answers⟩]

/-- A late answer neither ends an experiment again nor unlocks the parents of a newer one. -/
theorem lateAnswerScript_locked
    : ∃ state departures,
        Run departing anyAction ⟨sampleProgram, fun _ => 0⟩ lateAnswerScript ⟨state, departures⟩
        ∧ isResolved state ⟨101, 0⟩
        ∧ waits state ⟨101, 1⟩
        ∧ LockDiscipline state departures := by
  have replayed : (replay departing anyAction ⟨sampleProgram, fun _ => 0⟩
      lateAnswerScript).any fun reached =>
        isResolved reached.system ⟨101, 0⟩ && waits reached.system ⟨101, 1⟩ := by
    decide +kernel
  obtain ⟨⟨state, departures⟩, run, checked⟩ := Run.of_replay_any replayed
  obtain ⟨resolved, waiting⟩ := Bool.and_eq_true_iff.mp checked
  exact ⟨state, departures, run, resolved, waiting,
    experiments_locked sampleProgram_fresh run⟩

end SecretGarden.Garden
