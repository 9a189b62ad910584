import SecretGarden.Garden.Rounds
import SecretGarden.Garden.Submissions

/-! Where genomes come from. A bred flower that is usable carries the ciphertext that its own
breeding computation returned; a starter carries zeros, and neither an entry nor a hint refuses it.
-/

namespace SecretGarden.Garden

open Foundation SecretGarden.Bracket SecretGarden.Settlement SecretGarden.Season

variable {flowers : Store FlowerKey FlowerRecord}
  {experiments : Store ExperimentKey Experiment} {outputs : ExperimentKey → Option BreedOutput}
  {env : Env} {state after : ProgramState} {submission : GardenSubmission}

/-- Note the answer that an experiment accepts. -/
def noteOutputs (state : ProgramState) (submission : GardenSubmission)
    (outputs : ExperimentKey → Option BreedOutput) : ExperimentKey → Option BreedOutput :=
  match submission.instruction with
  | .breedV5Callback experimentKey (some output) =>
      if (state.experiments.lookup experimentKey).all Experiment.callbackProcessed then outputs
      else Function.update outputs experimentKey (some output)
  | _ => outputs

abbrev JournaledGenomes : Type := Journaled ProgramState (ExperimentKey → Option BreedOutput)

def breeding : JournaledGenomes → GardenSubmission → Outcome JournaledGenomes :=
  journaled gardenStep noteOutputs

/-- The answers of completed experiments are noted for good. -/
theorem noteOutputs_of_completed (submission : GardenSubmission)
    (nursery : Nursery state.flowers state.experiments state.mints)
    {experimentKey : ExperimentKey} {experiment : Experiment}
    (found : state.experiments.lookup experimentKey = some experiment)
    (completed : experiment.status = .completed)
    : noteOutputs state submission outputs experimentKey = outputs experimentKey := by
  have processed : experiment.callbackProcessed := by
    by_contra waiting
    have queued := (nursery.processed found).2.mp (Bool.not_eq_true _ |>.mp waiting)
    rw [completed] at queued
    cases queued
  obtain ⟨signer, slot, now, instruction⟩ := submission
  cases instruction with
  | breedV5Callback answered output =>
      cases output with
      | none => rfl
      | some output =>
          simp only [noteOutputs]
          split
          · rfl
          · next accepted =>
              refine Function.update_of_ne ?_ _ _
              rintro rfl
              rw [found, Option.all_some, processed] at accepted
              exact accepted rfl
  | _ => rfl

/-- Records with the same origin and the same genome. -/
structure SameGenome (record flower : FlowerRecord) : Prop where
  genomeStatus : flower.genomeStatus = record.genomeStatus
  sourceExperiment : flower.sourceExperiment = record.sourceExperiment
  encryptedGenome : flower.encryptedGenome = record.encryptedGenome
  encryptionMetadata : flower.encryptionMetadata = record.encryptionMetadata
  genomeCommitment : flower.genomeCommitment = record.genomeCommitment

/-- A synchronization keeps the genome. -/
theorem Synced.sameGenome {now : Int} {flowerKey : FlowerKey} {accounts : SyncAccounts}
    {record flower : FlowerRecord} {profiles raised : Store Pubkey PlayerProfile}
    (synced : Synced state now flowerKey accounts record profiles flower raised)
    : SameGenome record flower := by
  cases synced with
  | kept => exact ⟨rfl, rfl, rfl, rfl, rfl⟩
  | corrected => exact ⟨rfl, rfl, rfl, rfl, rfl⟩

theorem Used.sameGenome {flowerKey : FlowerKey} {accounts : SyncAccounts}
    {record flower : FlowerRecord} {profiles : Store Pubkey PlayerProfile}
    (used : Used env state flowerKey accounts record flower profiles)
    : SameGenome record flower := by
  obtain ⟨written, synced, same⟩ := used.synced
  rw [same]
  exact ⟨synced.sameGenome.1, synced.sameGenome.2, synced.sameGenome.3, synced.sameGenome.4,
    synced.sameGenome.5⟩

/-- The flower carries what a breeding computation returned, under a commitment to it. -/
structure Carries (flower : FlowerRecord) (output : BreedOutput) : Prop where
  encryptedGenome : flower.encryptedGenome = output.ciphertexts
  encryptionMetadata : flower.encryptionMetadata = output.nonce
  genomeCommitment
    : flower.genomeCommitment = sha256 (genomeBytes output.ciphertexts output.nonce)

/-- The flower came from an experiment, and carries its answer once that has completed. -/
def Descends (experiments : Store ExperimentKey Experiment)
    (outputs : ExperimentKey → Option BreedOutput) (flowerKey : FlowerKey)
    (flower : FlowerRecord) : Prop :=
  ∃ experimentKey experiment,
    flower.sourceExperiment = some experimentKey
    ∧ experiments.lookup experimentKey = some experiment
    ∧ experiment.resultFlower = flowerKey
    ∧ (experiment.status = .completed
      → ∃ output, outputs experimentKey = some output ∧ Carries flower output)

theorem Descends.of_same {flowerKey : FlowerKey} {record flower : FlowerRecord}
    (descends : Descends experiments outputs flowerKey record)
    (same : SameGenome record flower) : Descends experiments outputs flowerKey flower := by
  obtain ⟨experimentKey, experiment, source, found, result, answered⟩ := descends
  refine ⟨experimentKey, experiment, same.sourceExperiment.trans source, found, result,
    fun completed => ?_⟩
  obtain ⟨output, noted, carries⟩ := answered completed
  exact ⟨output, noted, same.encryptedGenome.trans carries.encryptedGenome,
    same.encryptionMetadata.trans carries.encryptionMetadata,
    same.genomeCommitment.trans carries.genomeCommitment⟩

/-- Every bred flower came from an experiment of its own. -/
def Genomes (flowers : Store FlowerKey FlowerRecord)
    (experiments : Store ExperimentKey Experiment)
    (outputs : ExperimentKey → Option BreedOutput) : Prop :=
  ∀ flowerKey flower,
    flowers.lookup flowerKey = some flower
    → flower.genomeStatus = .encrypted
    → Descends experiments outputs flowerKey flower

/-- Only the answers of completed experiments matter. -/
theorem Genomes.noted (genomes : Genomes flowers experiments outputs)
    {noted : ExperimentKey → Option BreedOutput}
    (same
      : ∀ experimentKey experiment,
          experiments.lookup experimentKey = some experiment
          → experiment.status = .completed
          → noted experimentKey = outputs experimentKey)
    : Genomes flowers experiments noted := by
  intro flowerKey flower present bred
  obtain ⟨experimentKey, experiment, source, found, result, answered⟩ :=
    genomes flowerKey flower present bred
  refine ⟨experimentKey, experiment, source, found, result, fun completed => ?_⟩
  rw [same experimentKey experiment found completed]
  exact answered completed

/-- A flower is written with the genome it had. -/
theorem Genomes.rewrite (genomes : Genomes flowers experiments outputs) {flowerKey : FlowerKey}
    {record : FlowerRecord} (flower : FlowerRecord)
    (found : flowers.lookup flowerKey = some record) (same : SameGenome record flower)
    : Genomes (flowers.insert flowerKey flower) experiments outputs := by
  intro otherKey other present bred
  rcases Store.lookup_insert_eq_some.mp present with ⟨here, rfl⟩ | ⟨_, present⟩
  · subst here
    exact (genomes otherKey record found (same.genomeStatus ▸ bred)).of_same same
  · exact genomes otherKey other present bred

theorem Genomes.remove (genomes : Genomes flowers experiments outputs) (flowerKey : FlowerKey)
    : Genomes (flowers.erase flowerKey) experiments outputs := by
  intro otherKey other present bred
  obtain ⟨_, present⟩ := Store.lookup_erase_eq_some.mp present
  exact genomes otherKey other present bred

/-- Flowers are added that are not bred. -/
theorem Genomes.extend (genomes : Genomes flowers experiments outputs)
    {extended : Store FlowerKey FlowerRecord}
    (added
      : ∀ flowerKey flower,
          extended.lookup flowerKey = some flower
          → flowers.lookup flowerKey = some flower ∨ flower.genomeStatus = .starter)
    : Genomes extended experiments outputs := by
  intro flowerKey flower present bred
  rcases added flowerKey flower present with old | starter
  · exact genomes flowerKey flower old bred
  · cases starter.symm.trans bred

/-- An experiment is written, with its offspring: the genomes of other flowers stay, as long as a
completed experiment is only written with the offspring it had.
-/
theorem Genomes.settle (genomes : Genomes flowers experiments outputs)
    (experimentKey : ExperimentKey) (written : Experiment)
    (kept
      : ∀ {flowerKey flower experiment},
          flowers.lookup flowerKey = some flower
          → experiments.lookup experimentKey = some experiment
          → experiment.resultFlower = flowerKey
          → flower.sourceExperiment = some experimentKey
          → Descends (experiments.insert experimentKey written) outputs flowerKey flower)
    : Genomes flowers (experiments.insert experimentKey written) outputs := by
  intro flowerKey flower present bred
  obtain ⟨otherKey, experiment, source, found, result, answered⟩ :=
    genomes flowerKey flower present bred
  by_cases here : otherKey = experimentKey
  · subst here
    exact kept present found result source
  · exact ⟨otherKey, experiment, source, (AList.lookup_insert_ne here).trans found, result,
      answered⟩

--------------------------------------------------------------------------------
-- Steps
--------------------------------------------------------------------------------

/-- Both parents of an experiment become active, with the genomes they had. -/
theorem Genomes.unlock (genomes : Genomes state.flowers state.experiments outputs)
    {experimentKey : ExperimentKey} {accounts : ExperimentAccounts} (env : Env)
    (status : ExperimentStatus) (errorCode : Nat) (loaded : Loaded state experimentKey accounts)
    : Genomes (resolveExperiment env experimentKey accounts status errorCode state).flowers
        state.experiments outputs := by
  have first := genomes.rewrite { accounts.flowerA with status := .active } loaded.flowerA
    ⟨rfl, rfl, rfl, rfl, rfl⟩
  exact first.rewrite _ ((AList.lookup_insert_ne loaded.apart.symm).trans loaded.flowerB)
    ⟨rfl, rfl, rfl, rfl, rfl⟩

/-- A completed experiment gives its offspring the answer. -/
theorem Genomes.complete (genomes : Genomes state.flowers state.experiments outputs)
    (nursery : Nursery state.flowers state.experiments state.mints)
    {experimentKey : ExperimentKey} {accounts : ExperimentAccounts} {offspring : FlowerRecord}
    {output : BreedOutput} (loaded : Loaded state experimentKey accounts)
    (queued : accounts.experiment.status = .queued)
    (found : state.flowers.lookup accounts.experiment.resultFlower = some offspring)
    (noted : outputs experimentKey = some output)
    : Genomes (completeExperiment env experimentKey accounts offspring output state).flowers
        (completeExperiment env experimentKey accounts offspring output state).experiments
        outputs := by
  obtain ⟨waiting, same, source⟩ := nursery.offspring ⟨loaded.experiment, queued⟩
  cases found.symm.trans same
  have unlocked := genomes.unlock env .completed accounts.experiment.errorCode loaded
  intro flowerKey flower present bred
  simp only [completeExperiment] at present
  rcases Store.lookup_insert_eq_some.mp present with ⟨here, rfl⟩ | ⟨elsewhere, present⟩
  · exact ⟨experimentKey, _, source, AList.lookup_insert _, here.symm,
      fun _ => ⟨output, noted, rfl, rfl, rfl⟩⟩
  · obtain ⟨otherKey, experiment, origin, stored, result, answered⟩ :=
      unlocked flowerKey flower present bred
    refine ⟨otherKey, experiment, origin, (AList.lookup_insert_ne ?_).trans stored, result,
      answered⟩
    rintro rfl
    cases stored.symm.trans loaded.experiment
    exact elsewhere result.symm

/-- An experiment that fails or expires leaves its offspring without an answer. -/
theorem Genomes.abandon (genomes : Genomes state.flowers state.experiments outputs)
    {experimentKey : ExperimentKey} {accounts : ExperimentAccounts} {status : ExperimentStatus}
    {errorCode : Nat} (loaded : Loaded state experimentKey accounts)
    (dead : status = .failed ∨ status = .expired)
    : Genomes (resolveExperiment env experimentKey accounts status errorCode state).flowers
        (resolveExperiment env experimentKey accounts status errorCode state).experiments
        outputs := by
  refine (genomes.unlock env status errorCode loaded).settle experimentKey _
    fun _ stored result source => ?_
  cases stored.symm.trans loaded.experiment
  refine ⟨experimentKey, _, source, AList.lookup_insert _, result, fun completed => ?_⟩
  rcases dead with rfl | rfl <;> cases completed

/-- A breeding adds an offspring that waits for the answer to its own experiment. -/
theorem Genomes.breed (genomes : Genomes state.flowers state.experiments outputs)
    {flowerA flowerB : FlowerKey} {syncA syncB : SyncAccounts} {computationOffset : Nat}
    (bred : Bred env state flowerA flowerB syncA syncB computationOffset after)
    : Genomes after.flowers after.experiments outputs := by
  cases bred with
  | @queued profile recordA recordB parentA parentB _ _ generation _ _ player apart foundA activeA
      foundB activeB unstarted unused syncedA syncedB =>
      have genomeA : SameGenome recordA (lockedParent parentA) :=
        ⟨syncedA.sameGenome.1, syncedA.sameGenome.2, syncedA.sameGenome.3,
          syncedA.sameGenome.4, syncedA.sameGenome.5⟩
      have genomeB : SameGenome recordB (lockedParent parentB) :=
        ⟨syncedB.sameGenome.1, syncedB.sameGenome.2, syncedB.sameGenome.3,
          syncedB.sameGenome.4, syncedB.sameGenome.5⟩
      have locked := (genomes.rewrite _ foundA genomeA).rewrite _
        ((AList.lookup_insert_ne apart.symm).trans foundB) genomeB
      have settled := locked.settle ⟨env.signer, profile.totalExperiments⟩
        (queuedExperiment env flowerA flowerB computationOffset
          ⟨env.signer, profile.nextFlowerIndex⟩)
        fun _ stored => absurd (unstarted.symm.trans stored) (by simp)
      intro flowerKey flower present bred
      rcases Store.lookup_insert_eq_some.mp present with ⟨here, rfl⟩ | ⟨_, present⟩
      · exact ⟨_, _, rfl, AList.lookup_insert _, here.symm, fun completed => by cases completed⟩
      · exact settled flowerKey flower present bred

/-- Every accepted instruction keeps genomes where they came from. -/
theorem Genomes.step (genomes : Genomes state.flowers state.experiments outputs)
    (nursery : Nursery state.flowers state.experiments state.mints)
    (success : gardenStep state submission = .ok after)
    : Genomes after.flowers after.experiments (noteOutputs state submission outputs) := by
  have noted := genomes.noted fun experimentKey experiment found completed =>
    noteOutputs_of_completed submission nursery found completed
  cases gardenStep_change nursery success with
  | kept _ flowers experiments =>
      rw [flowers, experiments]
      exact noted
  | created _ _ flowers experiments =>
      rw [flowers, experiments]
      exact noted
  | claimed _ _ unused _ flowers experiments =>
      rw [flowers, experiments]
      refine noted.extend fun flowerKey flower found => ?_
      rcases plantStarters_origin found with old | ⟨index, _, rfl⟩
      · exact .inl old
      · exact .inr rfl
  | bred _ bred => exact noted.breed bred
  | @completed experimentKey accounts offspring output loaded queued found _ _ done asked =>
      subst done
      refine noted.complete nursery loaded queued found ?_
      have waiting := (nursery.processed loaded.experiment).2.mpr queued
      simp only [noteOutputs, asked, loaded.experiment, Option.all_some, waiting,
        Bool.false_eq_true, if_false]
      exact Function.update_self _ _ _
  | abandoned loaded _ dead done =>
      subst done
      exact noted.abandon loaded dead
  | reclaimed _ _ _ _ _ done =>
      subst done
      exact noted.remove _
  | closed _ _ _ _ done =>
      subst done
      exact noted.remove _
  | used used _ flowers experiments =>
      rw [flowers, experiments]
      exact noted.rewrite _ used.found used.sameGenome

theorem Genomes.journaled {condition : JournaledGenomes → GardenSubmission → Prop}
    {before later : JournaledGenomes}
    (nursery : Nursery before.system.flowers before.system.experiments before.system.mints)
    (genomes : Genomes before.system.flowers before.system.experiments before.journal)
    (_ : condition before submission) (success : breeding before submission = .ok later)
    : Genomes later.system.flowers later.system.experiments later.journal := by
  obtain ⟨moved, noted⟩ := journaled_eq_ok.mp success
  rw [noted]
  exact genomes.step nursery moved

/-- The answers an experiment accepted are noted along every run. -/
theorem genomes_of_run {condition : JournaledGenomes → GardenSubmission → Prop}
    {start : ProgramState} (fresh : start.Fresh) {history : List GardenSubmission}
    {reached : JournaledGenomes}
    (run : Run breeding condition ⟨start, fun _ => none⟩ history reached)
    : Genomes reached.system.flowers reached.system.experiments reached.journal := by
  refine run.invariant_with (fun earlier => nursery_of_run fresh earlier.forget) ?_
    Genomes.journaled
  intro flowerKey flower found
  rw [fresh.flowers] at found
  cases found

--------------------------------------------------------------------------------
-- Bred flowers in competition
--------------------------------------------------------------------------------

/-- A flower that is there before and after is of the same kind. -/
def KindsKept (flowers later : Store FlowerKey FlowerRecord) : Prop :=
  ∀ flowerKey record flower,
    flowers.lookup flowerKey = some record
    → later.lookup flowerKey = some flower
    → flower.genomeStatus = record.genomeStatus

/-- Every accepted instruction keeps flowers of their kinds. -/
theorem Change.kindsKept (change : Change submission state after)
    : KindsKept state.flowers after.flowers :=
  fun _ _ _ found present => (change.evolved.of_found found present).kind

/-- A bred flower lives at the address. -/
def BredAt (flowers : Store FlowerKey FlowerRecord) (flowerKey : FlowerKey) : Bool :=
  (flowers.lookup flowerKey).any FlowerRecord.isHybrid

theorem bredAt_iff {flowerKey : FlowerKey}
    : BredAt flowers flowerKey
      ↔ ∃ flower, flowers.lookup flowerKey = some flower ∧ flower.genomeStatus = .encrypted := by
  simp [BredAt, FlowerRecord.isHybrid, Option.any_eq_true]

/-- Entries and hints are asked for bred flowers only. -/
def NamesBred (state : ProgramState) (submission : GardenSubmission) : Prop :=
  match submission.instruction with
  | .submitEntry _ _ flowerKey _ _ => BredAt state.flowers flowerKey
  | .queuePrivateHint _ flowerKey _ _ _ _ => BredAt state.flowers flowerKey
  | _ => True

instance (state : ProgramState) (submission : GardenSubmission)
    : Decidable (NamesBred state submission) := by
  unfold NamesBred
  generalize submission.instruction = instruction
  rcases instruction <;> infer_instance

/-- Unreleased entries name bred flowers. -/
def EntersBred (state : ProgramState) : Prop :=
  ∀ roundKey entryKey flowerKey,
    Unreleased state roundKey entryKey flowerKey → BredAt state.flowers flowerKey

theorem EntersBred.step (known : EntersBred state) (later : Pledged after)
    (nursery : Nursery state.flowers state.experiments state.mints)
    (names : NamesBred state submission) (success : gardenStep state submission = .ok after)
    : EntersBred after := by
  have kinds := (gardenStep_change nursery success).kindsKept
  intro roundKey entryKey flowerKey entered
  have before : BredAt state.flowers flowerKey := by
    rw [← pledge_eq_submitted] at entered
    cases gardenStep_pledging success with
    | kept _ same =>
        rw [same, pledge_eq_submitted] at entered
        exact known _ _ _ entered
    | entered asked _ moved =>
        rw [moved] at entered
        split at entered
        · cases entered
          simpa only [NamesBred, asked] using names
        · exact known _ _ _ (pledge_eq_submitted.mp entered)
    | released _ _ _ _ moved =>
        rw [moved] at entered
        split at entered
        · cases entered
        · exact known _ _ _ (pledge_eq_submitted.mp entered)
  obtain ⟨record, found, bred⟩ := bredAt_iff.mp before
  obtain ⟨flower, present, _⟩ := later.held entered
  exact bredAt_iff.mpr ⟨flower, present, (kinds _ _ _ found present).trans bred⟩

/-- Unreleased entries name bred flowers as long as no entry is made with a starter. -/
theorem entersBred_of_run {condition : JournaledGenomes → GardenSubmission → Prop}
    (names : ∀ before submission, condition before submission
      → NamesBred before.system submission)
    {start : ProgramState} (fresh : start.Fresh) {history : List GardenSubmission}
    {reached : JournaledGenomes}
    (run : Run breeding condition ⟨start, fun _ => none⟩ history reached)
    : EntersBred reached.system := by
  induction run with
  | start =>
      rintro roundKey entryKey flowerKey ⟨ledger, entry, round, _⟩
      rw [fresh.deployment.rounds] at round
      cases round
  | accepted earlier met success ih =>
      obtain ⟨moved, _⟩ := journaled_eq_ok.mp success
      have later := pledged_of_run fresh (earlier.accepted met success).forget
      exact ih.step later (nursery_of_run fresh earlier.forget) (names _ _ met) moved
  | rejected _ _ ih => exact ih

/-- The flower was completed with `output`, by its own experiment, and carries it: the bytes at the
fixed offset of its account are the ciphertext that was returned.
-/
structure Genuine (state : ProgramState) (outputs : ExperimentKey → Option BreedOutput)
    (flowerKey : FlowerKey) (flower : FlowerRecord) (output : BreedOutput) : Prop where
  encrypted : flower.genomeStatus = .encrypted
  completed : ∃ experimentKey experiment,
    flower.sourceExperiment = some experimentKey
    ∧ state.experiments.lookup experimentKey = some experiment
    ∧ experiment.status = .completed
    ∧ experiment.resultFlower = flowerKey
    ∧ outputs experimentKey = some output
  carries : Carries flower output
  handed : ∀ encoding : FlowerEncoding,
    bytesAt flowerEncryptedGenomeOffset encryptedGenomeLen (flower.accountData encoding)
      = bigEndian output.ciphertexts encryptedGenomeLen

/-- A genuine flower lives at the address. -/
def GenuineAt (state : ProgramState) (outputs : ExperimentKey → Option BreedOutput)
    (flowerKey : FlowerKey) : Prop :=
  ∃ flower output,
    state.flowers.lookup flowerKey = some flower
    ∧ Genuine state outputs flowerKey flower output

/-- A bred flower that is not locked is genuine. -/
theorem genuineAt_of_unlocked
    (nursery : Nursery state.flowers state.experiments state.mints)
    (genomes : Genomes state.flowers state.experiments outputs) {flowerKey : FlowerKey}
    {flower : FlowerRecord} (found : state.flowers.lookup flowerKey = some flower)
    (bred : flower.genomeStatus = .encrypted) (unlocked : flower.status ≠ .locked)
    : GenuineAt state outputs flowerKey := by
  obtain ⟨experimentKey, experiment, source, stored, result, answered⟩ :=
    genomes flowerKey flower found bred
  obtain ⟨other, same, completed⟩ := (nursery.idle found unlocked).1 experimentKey source
  cases stored.symm.trans same
  obtain ⟨output, noted, carries⟩ := answered completed
  refine ⟨flower, output, found, bred,
    ⟨experimentKey, experiment, source, stored, completed, result, noted⟩, carries, ?_⟩
  intro encoding
  rw [flower.bytesAt_accountData, carries.encryptedGenome]

/-- What computations are handed: entries and the scorings queued for them name genuine flowers,
and so do hints, among those that meet the condition.
-/
structure GenuineOnly (condition : ProgramState → GardenSubmission → Prop)
    (state : ProgramState) (outputs : ExperimentKey → Option BreedOutput) : Prop where
  entered : ∀ {roundKey entryKey flowerKey},
    Unreleased state roundKey entryKey flowerKey → GenuineAt state outputs flowerKey
  scored : ∀ {submission after roundKey computationOffset entryKey flowerKey},
    submission.instruction = .queueScoreEntry roundKey computationOffset entryKey flowerKey
    → gardenStep state submission = .ok after
    → GenuineAt state outputs flowerKey
  hinted : ∀ {submission after roundKey flowerKey accounts computationOffset hintPubkey hintNonce},
    submission.instruction
        = .queuePrivateHint roundKey flowerKey accounts computationOffset hintPubkey hintNonce
    → condition state submission
    → gardenStep state submission = .ok after
    → GenuineAt state outputs flowerKey

/-- A scoring is queued for an entry that is not released: its round is closed, and releases
require it to be finalized.
-/
theorem unreleased_of_queueScoreEntry {condition : ProgramState → GardenSubmission → Prop}
    {start : ProgramState} (fresh : start.Fresh) {history : List GardenSubmission}
    (run : Run gardenStep condition start history state) {roundKey : RoundKey}
    {computationOffset : Nat} {entryKey : Pubkey} {flowerKey : FlowerKey}
    (success
      : queueScoreEntry env roundKey computationOffset entryKey flowerKey state = .ok after)
    : Unreleased state roundKey entryKey flowerKey := by
  obtain ⟨ledger, _, round, accepted, _⟩ := queueScoreEntry_success success
  obtain ⟨entry, checks, _⟩ := queueScoreEntry_checked accepted
  obtain ⟨_, season⟩ := season_of_run run
  have releases : ReleasedAfter ledger :=
    rounds_of_run (fun _ opened => opened.releasedAfter) ReleasedAfter.step fresh.deployment
      season round
  refine ⟨ledger, entry, round, checks.found, checks.own, checks.flower, ?_⟩
  cases status : entry.status with
  | submitted => rfl
  | released =>
      have ended := releases entryKey flowerKey
        (pledge_eq_some.mpr ⟨entry, checks.found, checks.own, checks.flower, status⟩)
      rw [checks.closed] at ended
      cases ended

/-- As long as no starter is entered or asked about, every computation is handed the ciphertext
that the network returned for the very flower.
-/
theorem genomes_genuine {start : ProgramState} (fresh : start.Fresh)
    {history : List GardenSubmission} {reached : JournaledGenomes}
    (run : Run breeding (fun before => NamesBred before.system) ⟨start, fun _ => none⟩ history
      reached)
    : GenuineOnly NamesBred reached.system reached.journal := by
  have nursery := nursery_of_run fresh run.forget
  have genomes := genomes_of_run fresh run
  have entered {roundKey : RoundKey} {entryKey : Pubkey} {flowerKey : FlowerKey}
      (pledge : Unreleased reached.system roundKey entryKey flowerKey)
      : GenuineAt reached.system reached.journal flowerKey := by
    obtain ⟨flower, found, submitted⟩ := (pledged_of_run fresh run.forget).held pledge
    have bred := entersBred_of_run (fun _ _ names => names) fresh run _ _ _ pledge
    obtain ⟨other, same, encrypted⟩ := bredAt_iff.mp bred
    cases found.symm.trans same
    exact genuineAt_of_unlocked nursery genomes found encrypted (by simp [submitted])
  refine ⟨entered, fun asked success => ?_, fun asked names success => ?_⟩
  · simp only [gardenStep, asked] at success
    exact entered (unreleased_of_queueScoreEntry fresh run.forget success)
  · simp only [gardenStep, asked] at success
    obtain ⟨_, record, _, _, _, used, _, unlocked, _⟩ := queuePrivateHint_success success
    simp only [NamesBred, asked] at names
    obtain ⟨other, same, encrypted⟩ := bredAt_iff.mp names
    cases used.found.symm.trans same
    exact genuineAt_of_unlocked nursery genomes used.found encrypted unlocked

--------------------------------------------------------------------------------
-- A starter enters
--------------------------------------------------------------------------------

/-- Player 101 enters a flower, and its scoring is queued once the round is closed. -/
def scoredScript (flowerIndex : Nat) : List GardenSubmission :=
  readyScript ++ [playerFunded 1, playerSubmits 1 1 flowerIndex,
    ⟨7, 1000, 1, .season (.round 1 .closeRound)⟩,
    ⟨7, 1000, 1, .queueScoreEntry 1 61 1 ⟨101, flowerIndex⟩⟩]

theorem bredScript_genuine
    : ∃ reached : JournaledGenomes,
        Run breeding (fun before => NamesBred before.system) ⟨sampleProgram, fun _ => none⟩
          (scoredScript starterCount) reached
        ∧ reached.system.pledge 1 1 = some (⟨101, starterCount⟩, .submitted)
        ∧ GenuineOnly NamesBred reached.system reached.journal := by
  have replayed : (replay breeding (fun before => NamesBred before.system)
      ⟨sampleProgram, fun _ => none⟩ (scoredScript starterCount)).any fun reached =>
        decide (reached.system.pledge 1 1 = some (⟨101, starterCount⟩, .submitted)) := by
    decide +kernel
  obtain ⟨reached, run, entered⟩ := Run.of_replay_any replayed
  exact ⟨reached, run, of_decide_eq_true entered, genomes_genuine sampleProgram_fresh run⟩

/-- A starter is entered and its scoring queued, though no computation ever gave it a genome. -/
theorem starterScript_blank
    : ¬ ∀ start : ProgramState, start.Fresh
        → ∀ (history : List GardenSubmission) (reached : JournaledGenomes),
          Run breeding anyAction ⟨start, fun _ => none⟩ history reached
          → GenuineOnly anyAction reached.system reached.journal := by
  intro always
  have replayed : (replay breeding anyAction ⟨sampleProgram, fun _ => none⟩
      (scoredScript 2)).any fun reached =>
        decide (reached.system.pledge 1 1 = some (⟨101, 2⟩, .submitted))
          && !BredAt reached.system.flowers ⟨101, 2⟩ := by
    decide +kernel
  obtain ⟨reached, run, checked⟩ := Run.of_replay_any replayed
  obtain ⟨entered, blank⟩ := Bool.and_eq_true_iff.mp checked
  have only := always _ sampleProgram_fresh _ _ run
  obtain ⟨flower, output, found, genuine⟩ :=
    only.entered (pledge_eq_submitted.mp (of_decide_eq_true entered))
  rw [bredAt_iff.mpr ⟨flower, found, genuine.encrypted⟩] at blank
  cases blank

end SecretGarden.Garden
