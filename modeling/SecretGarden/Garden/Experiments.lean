import SecretGarden.Garden.Nursery

/-! Experiments start and end within the invariant of flowers, experiments and mints, so every
run of the program keeps it.
-/

namespace SecretGarden.Garden

open Foundation SecretGarden.Bracket SecretGarden.Settlement SecretGarden.Season

variable {flowers : Store FlowerKey FlowerRecord} {mints : Store FlowerKey Nat}
  {experiments : Store ExperimentKey Experiment} {env : Env} {state after : ProgramState}

/-- An experiment is queued with its offspring: its parents are locked for it alone. -/
theorem Nursery.queue (nursery : Nursery flowers experiments mints)
    {experimentKey : ExperimentKey} (experiment : Experiment) {offspring : FlowerRecord}
    (unstarted : experiments.lookup experimentKey = none)
    (unused : flowers.lookup experiment.resultFlower = none)
    (queued : experiment.status = .queued) (unprocessed : experiment.callbackProcessed = false)
    (held : ∀ parent ∈ Experiment.parents experiment, Held flowers experiments parent)
    (idle : ∀ parent ∈ Experiment.parents experiment, Idle experiments parent)
    (locked : offspring.status = .locked)
    (source : offspring.sourceExperiment = some experimentKey)
    (encrypted : offspring.genomeStatus = .encrypted)
    : Nursery (flowers.insert experiment.resultFlower offspring)
        (experiments.insert experimentKey experiment) mints := by
  have kept {flowerKey : FlowerKey} {flower : FlowerRecord}
      (lookup : flowers.lookup flowerKey = some flower)
      : (flowers.insert experiment.resultFlower offspring).lookup flowerKey = some flower := by
    rw [Store.lookup_insert_apply, if_neg]
    · exact lookup
    · rintro rfl
      rw [unused] at lookup
      cases lookup
  have grows {flower : FlowerRecord} (grown : Grown experiments flower)
      : Grown (experiments.insert experimentKey experiment) flower :=
    grown.insert fun old present => by
      rw [unstarted] at present
      cases present
  have holds {flowerKey : FlowerKey} (before : Held flowers experiments flowerKey)
      : Held (flowers.insert experiment.resultFlower offspring)
          (experiments.insert experimentKey experiment) flowerKey := by
    obtain ⟨flower, lookup, closed, grown⟩ := before
    exact ⟨flower, kept lookup, closed, grows grown⟩
  exact {
    processed := fun lookup => by
      rcases Store.lookup_insert_eq_some.mp lookup with ⟨_, rfl⟩ | ⟨_, lookup⟩
      · rw [queued, unprocessed]
        exact ⟨by rintro ⟨⟩, by simp⟩
      · exact nursery.processed lookup
    held := fun waiting parent inside => by
      rcases waiting.of_insert with ⟨_, rfl⟩ | ⟨_, before⟩
      · exact holds (held parent inside)
      · exact holds (nursery.held before parent inside)
    apart := fun waiting other distinct parent inside => by
      rcases waiting.of_insert with ⟨rfl, rfl⟩ | ⟨_, before⟩ <;>
        rcases other.of_insert with ⟨rfl, rfl⟩ | ⟨_, earlier⟩
      · exact absurd rfl distinct
      · exact idle parent inside _ _ earlier
      · exact fun again => idle parent again _ _ before inside
      · exact nursery.apart before earlier distinct parent inside
    offspring := fun waiting => by
      rcases waiting.of_insert with ⟨rfl, rfl⟩ | ⟨_, before⟩
      · exact ⟨offspring, AList.lookup_insert _, source⟩
      · obtain ⟨flower, lookup, same⟩ := nursery.offspring before
        exact ⟨flower, kept lookup, same⟩
    grown := fun lookup => by
      rcases Store.lookup_insert_eq_some.mp lookup with ⟨_, rfl⟩ | ⟨_, lookup⟩
      · exact .inl locked
      · exact (nursery.grown lookup).imp_right grows
    bred := fun lookup fromExperiment => by
      rcases Store.lookup_insert_eq_some.mp lookup with ⟨_, rfl⟩ | ⟨_, lookup⟩
      · exact encrypted
      · exact nursery.bred lookup fromExperiment
    minted := fun present => by
      obtain ⟨flower, lookup, hybrid, grown⟩ := nursery.minted present
      exact ⟨flower, kept lookup, hybrid, grows grown⟩ }

/-- A queued experiment is written off or completed; its flowers are touched later. -/
theorem Nursery.settle (nursery : Nursery flowers experiments mints)
    {experimentKey : ExperimentKey} {experiment : Experiment} (ended : Experiment)
    (queued : Queued experiments experimentKey experiment) (left : ended.status ≠ .queued)
    (resolved : ended.status ≠ .processing) (processed : ended.callbackProcessed = true)
    : Nursery flowers (experiments.insert experimentKey ended) mints := by
  have grows {flower : FlowerRecord} (grown : Grown experiments flower)
      : Grown (experiments.insert experimentKey ended) flower :=
    grown.insert fun old present => by
      rw [queued.1] at present
      cases present
      rw [queued.2]
      rintro ⟨⟩
  have before {waitingKey : ExperimentKey} {waiting : Experiment}
      (later : Queued (experiments.insert experimentKey ended) waitingKey waiting)
      : Queued experiments waitingKey waiting := by
    rcases later.of_insert with ⟨_, rfl⟩ | ⟨_, earlier⟩
    · exact absurd later.2 left
    · exact earlier
  exact {
    processed := fun lookup => by
      rcases Store.lookup_insert_eq_some.mp lookup with ⟨_, rfl⟩ | ⟨_, lookup⟩
      · exact ⟨resolved, by simp [processed, left]⟩
      · exact nursery.processed lookup
    held := fun waiting parent inside => by
      obtain ⟨flower, lookup, locked, grown⟩ := nursery.held (before waiting) parent inside
      exact ⟨flower, lookup, locked, grows grown⟩
    apart := fun waiting other => nursery.apart (before waiting) (before other)
    offspring := fun waiting => nursery.offspring (before waiting)
    grown := fun lookup => (nursery.grown lookup).imp_right grows
    bred := nursery.bred
    minted := fun present => by
      obtain ⟨flower, lookup, hybrid, grown⟩ := nursery.minted present
      exact ⟨flower, lookup, hybrid, grows grown⟩ }

/-- The parents of an experiment that ended are idle. -/
theorem Nursery.idle_of_settled (nursery : Nursery flowers experiments mints)
    {experimentKey : ExperimentKey} {experiment ended : Experiment}
    (queued : Queued experiments experimentKey experiment) (left : ended.status ≠ .queued)
    {parent : FlowerKey} (inside : parent ∈ Experiment.parents experiment)
    : Idle (experiments.insert experimentKey ended) parent := by
  intro waitingKey waiting later again
  rcases later.of_insert with ⟨_, rfl⟩ | ⟨other, earlier⟩
  · exact left later.2
  · exact nursery.apart earlier queued other parent again inside

/-- Once its queued experiment ends, both parents of it become active. -/
theorem Nursery.resolve (nursery : Nursery state.flowers state.experiments state.mints)
    {experimentKey : ExperimentKey} {accounts : ExperimentAccounts} (env : Env)
    (status : ExperimentStatus) (errorCode : Nat) (loaded : Loaded state experimentKey accounts)
    (queued : accounts.experiment.status = .queued) (left : status ≠ .queued)
    (resolved : status ≠ .processing)
    : Nursery (resolveExperiment env experimentKey accounts status errorCode state).flowers
        (resolveExperiment env experimentKey accounts status errorCode state).experiments
        state.mints := by
  have waiting : Queued state.experiments experimentKey accounts.experiment :=
    ⟨loaded.experiment, queued⟩
  let ended : Experiment :=
    { accounts.experiment with
      status := status
      callbackProcessed := true
      errorCode := errorCode
      updatedAt := env.now }
  have settled := nursery.settle ended waiting left resolved rfl
  have heldA := nursery.held waiting accounts.experiment.parentA (by simp [Experiment.parents])
  have heldB := nursery.held waiting accounts.experiment.parentB (by simp [Experiment.parents])
  have grows {parent : FlowerKey} {flower : FlowerRecord}
      (held : Held state.flowers state.experiments parent)
      (found : state.flowers.lookup parent = some flower)
      : Grown (state.experiments.insert experimentKey ended) flower := by
    obtain ⟨same, lookup, _, grown⟩ := held
    rw [found] at lookup
    cases lookup
    refine grown.insert fun old present => ?_
    rw [loaded.experiment] at present
    cases present
    rw [queued]
    rintro ⟨⟩
  have first := settled.rewrite { accounts.flowerA with status := .active } loaded.flowerA
    ⟨rfl, rfl⟩ (.inr ⟨(grows heldA loaded.flowerA).of_same ⟨rfl, rfl⟩,
      nursery.idle_of_settled waiting left (by simp [Experiment.parents])⟩)
  exact first.rewrite { accounts.flowerB with status := .active }
    ((AList.lookup_insert_ne loaded.apart.symm).trans loaded.flowerB) ⟨rfl, rfl⟩
    (.inr ⟨(grows heldB loaded.flowerB).of_same ⟨rfl, rfl⟩,
      nursery.idle_of_settled waiting left (by simp [Experiment.parents])⟩)

/-- A completed experiment's offspring becomes active with its parents. -/
theorem Nursery.complete (nursery : Nursery state.flowers state.experiments state.mints)
    {experimentKey : ExperimentKey} {accounts : ExperimentAccounts} {offspring : FlowerRecord}
    {output : BreedOutput} (loaded : Loaded state experimentKey accounts)
    (queued : accounts.experiment.status = .queued)
    (found : state.flowers.lookup accounts.experiment.resultFlower = some offspring)
    (notA : accounts.experiment.resultFlower ≠ accounts.experiment.parentA)
    (notB : accounts.experiment.resultFlower ≠ accounts.experiment.parentB)
    : Nursery (completeExperiment env experimentKey accounts offspring output state).flowers
        (completeExperiment env experimentKey accounts offspring output state).experiments
        state.mints := by
  have waiting : Queued state.experiments experimentKey accounts.experiment :=
    ⟨loaded.experiment, queued⟩
  have source : offspring.sourceExperiment = some experimentKey := by
    obtain ⟨flower, lookup, source⟩ := nursery.offspring waiting
    rw [found] at lookup
    cases lookup
    exact source
  have young : ¬ Grown state.experiments offspring :=
    not_grown source loaded.experiment (by rw [queued]; rintro ⟨⟩)
  have resolved := nursery.resolve env .completed accounts.experiment.errorCode loaded queued
    (by rintro ⟨⟩) (by rintro ⟨⟩)
  refine resolved.rewrite (grownOffspring offspring output)
    (lookup_resolveExperiment notA notB found) ⟨rfl, rfl⟩ (.inr ⟨?_, ?_⟩)
  · intro otherKey same
    cases (source.symm.trans same : some experimentKey = some otherKey)
    exact ⟨_, AList.lookup_insert _, rfl⟩
  · intro waitingKey other later
    rcases later.of_insert with ⟨_, rfl⟩ | ⟨_, earlier⟩
    · cases later.2
    · exact nursery.idle_of_not_grown found young _ _ earlier

--------------------------------------------------------------------------------
-- Instructions
--------------------------------------------------------------------------------

theorem Nursery.used (nursery : Nursery state.flowers state.experiments state.mints)
    {flowerKey : FlowerKey} {accounts : SyncAccounts} {record flower : FlowerRecord}
    {profiles : Store Pubkey PlayerProfile}
    (used : Used env state flowerKey accounts record flower profiles)
    : Nursery (state.flowers.insert flowerKey flower) state.experiments state.mints := by
  obtain ⟨written, synced, same⟩ := used.synced
  have same : SameFlower record flower := by
    rw [same]
    exact ⟨synced.same.1.genomeStatus, synced.same.1.sourceExperiment⟩
  refine nursery.rewrite flower used.found same ?_
  by_cases locked : record.status = .locked
  · exact .inl (used.locked.mpr locked)
  · exact .inr ((nursery.idle used.found locked).imp_left (Grown.of_same same))

/-- A breeding locks two active flowers, which no queued experiment has as parents, and queues
an experiment with them.
-/
theorem Nursery.breed (nursery : Nursery state.flowers state.experiments state.mints)
    {flowerA flowerB : FlowerKey} {syncA syncB : SyncAccounts} {computationOffset : Nat}
    (bred : Bred env state flowerA flowerB syncA syncB computationOffset after)
    : Nursery after.flowers after.experiments after.mints := by
  cases bred with
  | @queued profile recordA recordB parentA parentB profilesA profilesB generation tokensA tokens
      player apart foundA activeA foundB activeB unstarted unused syncedA syncedB =>
      have sameA : SameFlower recordA (lockedParent parentA) :=
        ⟨syncedA.same.1.genomeStatus, syncedA.same.1.sourceExperiment⟩
      have sameB : SameFlower recordB (lockedParent parentB) :=
        ⟨syncedB.same.1.genomeStatus, syncedB.same.1.sourceExperiment⟩
      obtain ⟨grownA, idleA⟩ := nursery.idle foundA (by rw [activeA]; rintro ⟨⟩)
      obtain ⟨grownB, idleB⟩ := nursery.idle foundB (by rw [activeB]; rintro ⟨⟩)
      have first := nursery.rewrite _ foundA sameA (.inl rfl)
      have second :=
        first.rewrite _ ((AList.lookup_insert_ne apart.symm).trans foundB) sameB (.inl rfl)
      refine second.queue
        (queuedExperiment env flowerA flowerB computationOffset
          ⟨env.signer, profile.nextFlowerIndex⟩)
        unstarted (unused_after_parents foundA foundB unused) rfl rfl ?_ ?_ rfl rfl rfl
      · simp only [Experiment.parents, queuedExperiment, List.forall_mem_cons]
        refine ⟨⟨lockedParent parentA, ?_, rfl, grownA.of_same sameA⟩,
          ⟨lockedParent parentB, AList.lookup_insert _, rfl, grownB.of_same sameB⟩, ?_⟩
        · exact (AList.lookup_insert_ne apart).trans (AList.lookup_insert _)
        · rintro parent ⟨⟩
      · simp only [Experiment.parents, queuedExperiment, List.forall_mem_cons]
        refine ⟨idleA, idleB, ?_⟩
        rintro parent ⟨⟩

/-- A delivered computation keeps the invariant: an experiment that is not processed yet is
queued.
-/
theorem Nursery.deliver (nursery : Nursery state.flowers state.experiments state.mints)
    {experimentKey : ExperimentKey} {accounts : ExperimentAccounts}
    (loaded : Loaded state experimentKey accounts)
    {answer : Option BreedOutput}
    (delivered : Delivered env experimentKey accounts state answer after)
    : Nursery after.flowers after.experiments after.mints := by
  have queued := (nursery.processed loaded.experiment).2
  cases delivered with
  | ignored => exact nursery
  | completed pending found notA notB =>
      exact nursery.complete loaded (queued.mp pending) found notA notB
  | failed pending =>
      exact nursery.resolve env _ _ loaded (queued.mp pending) (by rintro ⟨⟩) (by rintro ⟨⟩)

/-- The offspring of a dead experiment is awaited by no other and was never minted. -/
theorem Nursery.reclaim (nursery : Nursery flowers experiments mints)
    {experimentKey : ExperimentKey} {experiment : Experiment} {offspringKey : FlowerKey}
    {offspring : FlowerRecord} (present : experiments.lookup experimentKey = some experiment)
    (dead : experiment.status = .failed ∨ experiment.status = .expired)
    (found : flowers.lookup offspringKey = some offspring)
    (source : offspring.sourceExperiment = some experimentKey)
    : Nursery (flowers.erase offspringKey) experiments mints := by
  have young : ¬ Grown experiments offspring :=
    not_grown source present (by rcases dead with status | status <;> rw [status] <;> rintro ⟨⟩)
  refine nursery.remove found ?_ (nursery.idle_of_not_grown found young) ?_
  · by_contra minted
    obtain ⟨flower, same, _, grown⟩ := nursery.minted (Option.isSome_iff_ne_none.mpr minted)
    rw [found] at same
    cases same
    exact young grown
  · rintro waitingKey waiting ⟨lookup, queued⟩ same
    cases source.symm.trans same
    rw [present] at lookup
    cases lookup
    rw [queued] at dead
    rcases dead with failed | expired
    · cases failed
    · cases expired

theorem Nursery.tokens (nursery : Nursery state.flowers state.experiments state.mints)
    (tokens : TokensOnly state after)
    : Nursery after.flowers after.experiments after.mints := by
  have kept := nursery.of_mints tokens.mints
  rw [tokens.frame]
  exact kept

/-- Planting adds flowers that came from no experiment. -/
theorem Nursery.plant (nursery : Nursery flowers experiments mints) {owner : Pubkey}
    {createdAt : Int}
    (unused : ∀ index < starterCount, flowers.lookup ⟨owner, index⟩ = none)
    : Nursery (plantStarters owner createdAt flowers) experiments mints := by
  refine nursery.extend (fun _ _ => lookup_plantStarters unused) fun flowerKey flower lookup => ?_
  rcases plantStarters_origin lookup with old | ⟨index, _, rfl⟩
  · exact .inl old
  · exact .inr rfl

/-- Every instruction keeps flowers, experiments and mints together, by cases on what it does
to them.
-/
theorem Nursery.step (nursery : Nursery state.flowers state.experiments state.mints)
    {submission : GardenSubmission} (success : gardenStep state submission = .ok after)
    : Nursery after.flowers after.experiments after.mints := by
  obtain ⟨signer, slot, now, instruction⟩ := submission
  cases instruction with
  | createProfile =>
      obtain ⟨_, rfl⟩ := createProfile_success success
      exact nursery
  | claimStarters =>
      obtain ⟨_, _, _, unused, rfl⟩ := claimStarters_success success
      exact nursery.plant unused
  | startBreeding flowerA flowerB syncA syncB computationOffset =>
      exact nursery.breed (startBreeding_success success)
  | breedV5Callback experimentKey output =>
      obtain ⟨accounts, loaded, delivered⟩ := breedV5Callback_success success
      exact nursery.deliver loaded delivered
  | cancelExpiredExperiment experimentKey =>
      obtain ⟨accounts, loaded, unresolved, rfl⟩ := cancelExpiredExperiment_success success
      have queued := unresolved.resolve_right (nursery.processed loaded.experiment).1
      exact nursery.resolve _ _ _ loaded queued (by rintro ⟨⟩) (by rintro ⟨⟩)
  | reclaimDeadOffspring experimentKey offspringKey ownerRecipient =>
      obtain ⟨_, _, _, present, dead, found, source, _, rfl⟩ :=
        reclaimDeadOffspring_success success
      exact nursery.reclaim present dead found source
  | closeFlower flowerKey =>
      obtain ⟨_, flower, found, _, active, _, unminted, _, rfl⟩ := closeFlower_success success
      obtain ⟨grown, idle⟩ := nursery.idle found (by rw [active]; rintro ⟨⟩)
      refine nursery.remove found unminted idle ?_
      rintro waitingKey waiting ⟨lookup, queued⟩ source
      exact not_grown source lookup (by rw [queued]; rintro ⟨⟩) grown
  | submitEntry roundKey entryKey flowerKey playerSgdAta accounts =>
      obtain ⟨_, _, _, _, _, used, _, _, _, same⟩ := submitEntry_success success
      rw [same]
      exact nursery.used used
  | releaseFlower roundKey entryKey flowerKey accounts =>
      obtain ⟨_, _, _, used, _, _, same⟩ := releaseFlower_success success
      rw [same]
      exact nursery.used used
  | queueScoreEntry roundKey computationOffset entryKey flowerKey =>
      obtain ⟨_, _, _, _, _, rfl⟩ := queueScoreEntry_success success
      exact nursery
  | queuePrivateHint roundKey flowerKey accounts computationOffset hintPubkey hintNonce =>
      obtain ⟨_, _, _, _, _, used, _, _, _, _, same⟩ := queuePrivateHint_success success
      rw [same]
      exact nursery.used used
  | privateHintCallback computationOffset output =>
      rw [privateHintCallback_success success]
      exact nursery
  | setMintingEnabled enabled =>
      obtain ⟨_, _, written⟩ := bind_eq_ok.mp success
      obtain rfl := pure_eq_ok.mp written
      exact nursery
  | mintFlowerNft flowerKey tokenAccount uri =>
      obtain ⟨flower, found, _, active, encrypted, _, same⟩ := mintFlowerNft_success success
      rw [same]
      exact nursery.mint found (by rw [active]; rintro ⟨⟩) encrypted
  | burnFlowerNft flowerKey tokenAccount =>
      exact nursery.tokens (burnFlowerNft_success success)
  | thawFlowerNft flowerKey accounts =>
      obtain ⟨_, _, _, used, _, _, same⟩ := thawFlowerNft_success success
      rw [same]
      exact nursery.used used
  | token event => exact nursery.tokens (tokensOnly_of_event success)
  | season instruction =>
      simp only [gardenStep, bind_eq_ok, require_eq_ok, exists_const, pure_eq_ok] at success
      obtain ⟨_, deployment, _, rfl⟩ := success
      exact nursery

/-- In every reachable state flowers, experiments and mints belong together. -/
theorem nursery_of_run {condition : ProgramState → GardenSubmission → Prop}
    {start : ProgramState} {history : List GardenSubmission} (fresh : start.Fresh)
    (run : Run gardenStep condition start history state)
    : Nursery state.flowers state.experiments state.mints := by
  refine run.invariant ?_ fun nursery _ success => Nursery.step nursery success
  rw [fresh.flowers, fresh.experiments, fresh.mints]
  exact .empty

end SecretGarden.Garden
