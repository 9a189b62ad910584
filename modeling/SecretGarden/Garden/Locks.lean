import SecretGarden.Garden.Changes

/-! Why a flower is locked, and how many experiments a profile has in flight: every locked flower
is held by exactly one experiment, and every experiment is answered or abandoned once.
-/

namespace SecretGarden.Garden

open Foundation SecretGarden.Bracket SecretGarden.Settlement SecretGarden.Season

variable {flowers : Store FlowerKey FlowerRecord} {profiles : Store Pubkey PlayerProfile}
  {experiments : Store ExperimentKey Experiment} {env : Env} {state after : ProgramState}

/-- The experiment is queued with the flower as a parent. -/
def ParentOf (experiments : Store ExperimentKey Experiment) (flowerKey : FlowerKey)
    (experimentKey : ExperimentKey) : Prop :=
  ∃ experiment, Queued experiments experimentKey experiment
    ∧ flowerKey ∈ Experiment.parents experiment

/-- The flower is the offspring of an experiment that has not completed. -/
def Unripe (experiments : Store ExperimentKey Experiment) (flowerKey : FlowerKey)
    (flower : FlowerRecord) : Prop :=
  ∃ experimentKey experiment,
    flower.sourceExperiment = some experimentKey
    ∧ experiments.lookup experimentKey = some experiment
    ∧ experiment.status ≠ .completed
    ∧ experiment.resultFlower = flowerKey

def Experiment.runsFor (wallet : Pubkey) (experiment : Experiment) : Bool :=
  experiment.owner == wallet && experiment.status == .queued

/-- The queued experiments of a wallet. -/
def queuedOf (experiments : Store ExperimentKey Experiment) (wallet : Pubkey)
    : List ExperimentKey :=
  experiments.keysWhere (Experiment.runsFor wallet)

/-- Every locked flower is held by an experiment, and profiles count the queued ones. -/
structure Locks (flowers : Store FlowerKey FlowerRecord)
    (experiments : Store ExperimentKey Experiment) (profiles : Store Pubkey PlayerProfile)
    : Prop where
  locked : ∀ {flowerKey flower},
    flowers.lookup flowerKey = some flower
    → flower.status = .locked
    → (∃ experimentKey, ParentOf experiments flowerKey experimentKey)
      ∨ Unripe experiments flowerKey flower
  owners : ∀ {experimentKey experiment},
    experiments.lookup experimentKey = some experiment
    → (profiles.lookup experiment.owner).isSome
  apart : ∀ {experimentKey experiment},
    experiments.lookup experimentKey = some experiment
    → experiment.parentA ≠ experiment.parentB
  counted : ∀ {wallet profile},
    profiles.lookup wallet = some profile
    → profile.activeExperimentCount = (queuedOf experiments wallet).length

theorem Locks.empty : Locks ∅ ∅ ∅ where
  locked found := by cases found
  owners found := by cases found
  apart found := by cases found
  counted found := by cases found

/-- Counters of ownership and entries may change. -/
theorem Locks.of_progress (locks : Locks flowers experiments profiles)
    {written : Store Pubkey PlayerProfile} (same : SameProgress profiles written)
    : Locks flowers experiments written where
  locked := locks.locked
  owners found := (same.isSome _).trans (locks.owners found)
  apart := locks.apart
  counted found := by
    obtain ⟨old, present, kept⟩ := same.before found
    exact kept.active.trans (locks.counted present)

/-- Flowers that are locked were locked before, with the same source. -/
theorem Locks.of_flowers (locks : Locks flowers experiments profiles)
    {written : Store FlowerKey FlowerRecord}
    (origin
      : ∀ flowerKey flower,
          written.lookup flowerKey = some flower
          → flower.status = .locked
          → ∃ record, flowers.lookup flowerKey = some record
              ∧ record.status = .locked
              ∧ flower.sourceExperiment = record.sourceExperiment)
    : Locks written experiments profiles where
  locked found held := by
    obtain ⟨record, present, before, source⟩ := origin _ _ found held
    refine (locks.locked present before).imp_right ?_
    rintro ⟨experimentKey, experiment, named, rest⟩
    exact ⟨experimentKey, experiment, source.trans named, rest⟩
  owners := locks.owners
  apart := locks.apart
  counted := locks.counted

/-- A wallet without a profile has no experiment. -/
theorem Locks.queuedOf_eq_nil (locks : Locks flowers experiments profiles) {wallet : Pubkey}
    (unused : profiles.lookup wallet = none)
    : queuedOf experiments wallet = [] := by
  rw [List.eq_nil_iff_forall_not_mem]
  intro experimentKey listed
  obtain ⟨experiment, found, runs⟩ := Store.mem_keysWhere.mp listed
  have owner := eq_of_beq (Bool.and_eq_true_iff.mp runs).1
  have known := locks.owners found
  rw [owner, unused] at known
  cases known

/-- A profile is written that counts the queued experiments of its wallet. -/
theorem Locks.write (locks : Locks flowers experiments profiles) {wallet : Pubkey}
    {written : PlayerProfile}
    (exact : written.activeExperimentCount = (queuedOf experiments wallet).length)
    : Locks flowers experiments (profiles.insert wallet written) where
  locked := locks.locked
  owners found := Store.isSome_lookup_insert (locks.owners found)
  apart := locks.apart
  counted found := by
    rcases Store.lookup_insert_eq_some.mp found with ⟨here, rfl⟩ | ⟨_, found⟩
    · rw [here, exact]
    · exact locks.counted found

/-- Ownership may change hands, but only a flower that was locked is locked. -/
theorem Locks.used (locks : Locks state.flowers state.experiments state.profiles)
    {flowerKey : FlowerKey} {accounts : SyncAccounts} {record flower : FlowerRecord}
    {raised : Store Pubkey PlayerProfile}
    (used : Used env state flowerKey accounts record flower raised)
    : Locks (state.flowers.insert flowerKey flower) state.experiments state.profiles := by
  refine locks.of_flowers fun otherKey other found held => ?_
  rcases Store.lookup_insert_eq_some.mp found with ⟨here, rfl⟩ | ⟨_, found⟩
  · obtain ⟨written, synced, same⟩ := used.synced
    refine ⟨record, here ▸ used.found, used.locked.mp held, ?_⟩
    rw [same]
    exact synced.same.1.sourceExperiment
  · exact ⟨other, found, held, rfl⟩

/-- A removed flower leaves the others. -/
theorem Locks.remove (locks : Locks flowers experiments profiles) (flowerKey : FlowerKey)
    : Locks (flowers.erase flowerKey) experiments profiles := by
  refine locks.of_flowers fun otherKey other found held => ?_
  obtain ⟨_, found⟩ := Store.lookup_erase_eq_some.mp found
  exact ⟨other, found, held, rfl⟩

/-- Starters are not locked. -/
theorem Locks.plant (locks : Locks flowers experiments profiles) (owner : Pubkey)
    (createdAt : Int)
    : Locks (plantStarters owner createdAt flowers) experiments profiles := by
  refine locks.of_flowers fun flowerKey flower found held => ?_
  rcases plantStarters_origin found with old | ⟨index, _, rfl⟩
  · exact ⟨flower, old, held, rfl⟩
  · cases held

--------------------------------------------------------------------------------
-- Experiments change
--------------------------------------------------------------------------------

/-- A new experiment leaves every other one as it was. -/
theorem ParentOf.insert_new {experimentKey written : ExperimentKey} {experiment : Experiment}
    {flowerKey : FlowerKey} (unstarted : experiments.lookup written = none)
    (parent : ParentOf experiments flowerKey experimentKey)
    : ParentOf (experiments.insert written experiment) flowerKey experimentKey := by
  obtain ⟨queued, ⟨found, status⟩, inside⟩ := parent
  refine ⟨queued, ⟨?_, status⟩, inside⟩
  rw [Store.lookup_insert_apply, if_neg]
  · exact found
  · rintro rfl
    rw [unstarted] at found
    cases found

/-- The flower of an experiment that has not completed stays unripe while that experiment is
rewritten without completing.
-/
theorem Unripe.insert {written : ExperimentKey} {experiment : Experiment}
    {flowerKey : FlowerKey} {flower : FlowerRecord} (unripe : Unripe experiments flowerKey flower)
    (same
      : ∀ old, experiments.lookup written = some old
        → old.resultFlower = flowerKey
        → experiment.status ≠ .completed ∧ experiment.resultFlower = old.resultFlower)
    : Unripe (experiments.insert written experiment) flowerKey flower := by
  obtain ⟨experimentKey, old, source, found, incomplete, result⟩ := unripe
  by_cases here : experimentKey = written
  · subst here
    obtain ⟨kept, offspring⟩ := same old found result
    exact ⟨experimentKey, experiment, source, AList.lookup_insert _, kept,
      offspring.trans result⟩
  · exact ⟨experimentKey, old, source, (AList.lookup_insert_ne here).trans found, incomplete,
      result⟩

/-- A new experiment of a wallet is one more in flight. -/
theorem length_queuedOf_new {experimentKey : ExperimentKey}
    (unstarted : experiments.lookup experimentKey = none) (wallet : Pubkey)
    (experiment : Experiment)
    : (queuedOf (experiments.insert experimentKey experiment) wallet).length
      = (queuedOf experiments wallet).length
        + (Experiment.runsFor wallet experiment).toNat := by
  have added :=
    experiments.length_keysWhere_insert (Experiment.runsFor wallet) experimentKey experiment
  rwa [unstarted] at added

/-- An experiment that ends is one less in flight for its owner. -/
theorem length_queuedOf_end {experimentKey : ExperimentKey} {experiment ended : Experiment}
    (found : experiments.lookup experimentKey = some experiment)
    (left : ended.status ≠ .queued) (wallet : Pubkey)
    : (queuedOf (experiments.insert experimentKey ended) wallet).length
        + (Experiment.runsFor wallet experiment).toNat
      = (queuedOf experiments wallet).length := by
  have replaced :=
    experiments.length_keysWhere_insert (Experiment.runsFor wallet) experimentKey ended
  have finished : Experiment.runsFor wallet ended = false := by
    simp [Experiment.runsFor, left]
  rwa [found, finished, Bool.toNat_false, Nat.add_zero] at replaced

/-- A breeding locks both parents for its experiment, and its offspring is unripe. -/
theorem Locks.breed (locks : Locks state.flowers state.experiments state.profiles)
    {flowerA flowerB : FlowerKey} {syncA syncB : SyncAccounts} {computationOffset : Nat}
    (bred : Bred env state flowerA flowerB syncA syncB computationOffset after)
    : Locks after.flowers after.experiments after.profiles := by
  cases bred with
  | @queued profile recordA recordB parentA parentB profilesA profilesB generation tokensA tokens
      player apart foundA activeA foundB activeB unstarted unused syncedA syncedB =>
      have progress := SameProgress.of_sync syncedA syncedB
      have ownParent {parent : FlowerKey} (either : parent = flowerA ∨ parent = flowerB)
          : ParentOf (state.experiments.insert ⟨env.signer, profile.totalExperiments⟩
              (queuedExperiment env flowerA flowerB computationOffset
                ⟨env.signer, profile.nextFlowerIndex⟩)) parent
              ⟨env.signer, profile.totalExperiments⟩ :=
        ⟨_, ⟨AList.lookup_insert _, rfl⟩,
          by simpa [Experiment.parents, queuedExperiment] using either⟩
      constructor
      · intro flowerKey flower found held
        simp only [Store.lookup_insert_apply] at found
        split at found
        · next offspring =>
            cases found
            exact .inr ⟨_, _, rfl, AList.lookup_insert _, by rintro ⟨⟩, offspring.symm⟩
        · split at found
          · next isB => exact .inl ⟨_, ownParent (.inr isB)⟩
          · split at found
            · next isA => exact .inl ⟨_, ownParent (.inl isA)⟩
            · refine (locks.locked found held).imp ?_ ?_
              · exact Exists.imp fun _ parent => parent.insert_new unstarted
              · refine fun unripe => unripe.insert fun old present => ?_
                rw [unstarted] at present
                cases present
      · intro experimentKey experiment found
        rcases Store.lookup_insert_eq_some.mp found with ⟨_, rfl⟩ | ⟨_, found⟩
        · exact Option.isSome_of_eq_some (AList.lookup_insert _)
        · exact Store.isSome_lookup_insert ((progress.isSome _).trans (locks.owners found))
      · intro experimentKey experiment found
        rcases Store.lookup_insert_eq_some.mp found with ⟨_, rfl⟩ | ⟨_, found⟩
        · exact apart
        · exact locks.apart found
      · intro wallet counter found
        rw [length_queuedOf_new unstarted]
        rcases Store.lookup_insert_eq_some.mp found with ⟨here, rfl⟩ | ⟨other, found⟩
        · subst here
          have before := locks.counted player
          simp [bredProfile, attemptedProfile, Experiment.runsFor, queuedExperiment, before]
        · have before := (locks.of_progress progress).counted found
          simp [Experiment.runsFor, queuedExperiment, before, Ne.symm other]

/-- A queued experiment ends: its parents are free, and so is its offspring if it completed. -/
theorem Locks.settle (locks : Locks state.flowers state.experiments state.profiles)
    {experimentKey : ExperimentKey} {accounts : ExperimentAccounts}
    (loaded : Loaded state experimentKey accounts)
    (queued : accounts.experiment.status = .queued) (ended : Experiment)
    (owner : ended.owner = accounts.experiment.owner)
    (result : ended.resultFlower = accounts.experiment.resultFlower)
    (parents : Experiment.parents ended = Experiment.parents accounts.experiment)
    (left : ended.status ≠ .queued) {written : Store FlowerKey FlowerRecord}
    (origin
      : ∀ flowerKey flower,
          written.lookup flowerKey = some flower
          → flower.status = .locked
          → flowerKey ∉ Experiment.parents accounts.experiment
            ∧ (ended.status = .completed → accounts.experiment.resultFlower ≠ flowerKey)
            ∧ state.flowers.lookup flowerKey = some flower)
    : Locks written (state.experiments.insert experimentKey ended)
        (state.profiles.insert accounts.experiment.owner
          { accounts.profile with
            activeExperimentCount := accounts.profile.activeExperimentCount - 1 }) := by
  constructor
  · intro flowerKey flower found held
    obtain ⟨notParent, notResult, before⟩ := origin _ _ found held
    refine (locks.locked before held).imp ?_ ?_
    · rintro ⟨otherKey, experiment, ⟨present, status⟩, inside⟩
      have other : otherKey ≠ experimentKey := by
        rintro rfl
        cases loaded.experiment.symm.trans present
        exact notParent inside
      exact ⟨otherKey, experiment, ⟨(AList.lookup_insert_ne other).trans present, status⟩, inside⟩
    · refine fun unripe => unripe.insert fun old present same => ?_
      cases loaded.experiment.symm.trans present
      exact ⟨fun completed => notResult completed same, result⟩
  · intro otherKey experiment found
    apply Store.isSome_lookup_insert
    rcases Store.lookup_insert_eq_some.mp found with ⟨_, rfl⟩ | ⟨_, found⟩
    · rw [owner]
      exact Option.isSome_of_eq_some loaded.profile
    · exact locks.owners found
  · intro otherKey experiment found
    rcases Store.lookup_insert_eq_some.mp found with ⟨_, rfl⟩ | ⟨_, found⟩
    · have distinct := locks.apart loaded.experiment
      simp only [Experiment.parents, List.cons.injEq, and_true] at parents
      rwa [parents.1, parents.2]
    · exact locks.apart found
  · intro wallet counter found
    have fewer := length_queuedOf_end loaded.experiment left wallet
    rcases Store.lookup_insert_eq_some.mp found with ⟨here, rfl⟩ | ⟨other, found⟩
    · have before := locks.counted loaded.profile
      have ran : Experiment.runsFor wallet accounts.experiment = true := by
        simp [Experiment.runsFor, here, queued]
      rw [ran, Bool.toNat_true, here] at fewer
      simp only [before, ← fewer, here, Nat.add_sub_cancel]
    · have elsewhere : Experiment.runsFor wallet accounts.experiment = false := by
        simp [Experiment.runsFor, Ne.symm other]
      rw [elsewhere, Bool.toNat_false, Nat.add_zero] at fewer
      rw [locks.counted found, fewer]

/-- A flower that is locked after an experiment ended was not one of its parents. -/
theorem locked_of_resolve {experimentKey : ExperimentKey} {accounts : ExperimentAccounts}
    {status : ExperimentStatus} {errorCode : Nat} {flowerKey : FlowerKey} {flower : FlowerRecord}
    (found
      : (resolveExperiment env experimentKey accounts status errorCode state).flowers.lookup
          flowerKey = some flower)
    (held : flower.status = .locked)
    : flowerKey ∉ Experiment.parents accounts.experiment
      ∧ state.flowers.lookup flowerKey = some flower := by
  simp only [resolveExperiment, Store.lookup_insert_apply] at found
  split at found
  · cases found
    cases held
  · next notB =>
      split at found
      · cases found
        cases held
      · next notA => exact ⟨by simp [Experiment.parents, notA, notB], found⟩

--------------------------------------------------------------------------------
-- Runs
--------------------------------------------------------------------------------

/-- Every accepted instruction keeps the invariant, by cases on what it changes. -/
theorem Locks.step (locks : Locks state.flowers state.experiments state.profiles)
    {submission : GardenSubmission}
    (change : Change submission state after)
    : Locks after.flowers after.experiments after.profiles := by
  cases change with
  | kept profiles flowers experiments =>
      rw [profiles, flowers, experiments]
      exact locks
  | created unused profiles flowers experiments =>
      rw [profiles, flowers, experiments]
      refine locks.write ?_
      rw [locks.queuedOf_eq_nil unused]
      rfl
  | claimed player unclaimed unused profiles flowers experiments =>
      rw [profiles, flowers, experiments]
      have counted := locks.counted player
      exact (locks.plant _ _).write counted
  | bred _ bred => exact locks.breed bred
  | completed loaded queued found notA notB done =>
      subst done
      refine locks.settle loaded queued (endedExperiment (state.env submission) _ .completed _)
        rfl rfl rfl (by rintro ⟨⟩) fun flowerKey flower lookup held => ?_
      simp only [completeExperiment] at lookup
      rcases Store.lookup_insert_eq_some.mp lookup with ⟨_, rfl⟩ | ⟨notResult, lookup⟩
      · cases held
      · obtain ⟨notParent, before⟩ := locked_of_resolve lookup held
        exact ⟨notParent, fun _ => Ne.symm notResult, before⟩
  | @abandoned _ _ status _ loaded queued dead done =>
      subst done
      refine locks.settle loaded queued (endedExperiment (state.env submission) _ status _)
        rfl rfl rfl ?_ fun flowerKey flower lookup held => ?_
      · rcases dead with rfl | rfl <;> rintro ⟨⟩
      · obtain ⟨notParent, before⟩ := locked_of_resolve lookup held
        refine ⟨notParent, ?_, before⟩
        rcases dead with rfl | rfl <;> rintro ⟨⟩
  | reclaimed present dead found source player done =>
      subst done
      exact (locks.remove _).of_progress (SameProgress.insert (.refl _) player rfl)
  | closed found active unminted player done =>
      subst done
      exact (locks.remove _).of_progress (SameProgress.insert (.refl _) player rfl)
  | used used progress flowers experiments =>
      rw [flowers, experiments]
      exact (locks.used used).of_progress progress

/-- In every reachable state locked flowers are held and experiments in flight are counted. -/
theorem locks_of_run {condition : ProgramState → GardenSubmission → Prop}
    {start : ProgramState} {history : List GardenSubmission} (fresh : start.Fresh)
    (run : Run gardenStep condition start history state)
    : Locks state.flowers state.experiments state.profiles := by
  refine run.invariant_with (nursery_of_run fresh) ?_
    fun nursery locks _ success => Locks.step locks (gardenStep_change nursery success)
  rw [fresh.flowers, fresh.experiments, fresh.profiles]
  exact .empty

end SecretGarden.Garden
