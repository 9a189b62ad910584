import SecretGarden.Garden.Circulation
import SecretGarden.Garden.Experiments

/-! What one accepted instruction does to profiles, flowers and experiments, whichever it is.
Invariants over these three are kept by cases on this relation.
-/

namespace SecretGarden.Garden

open Foundation SecretGarden.Bracket SecretGarden.Settlement SecretGarden.Season

variable {env : Env} {state after : ProgramState}

/-- A profile without the counters that follow ownership and entries. -/
def PlayerProfile.progress (profile : PlayerProfile) : PlayerProfile :=
  { profile with totalFlowers := 0, finalSubmissions := 0 }

/-- What profiles of the same progress agree on. -/
structure SameStanding (profile other : PlayerProfile) : Prop where
  claimed : profile.starterClaimed = other.starterClaimed
  active : profile.activeExperimentCount = other.activeExperimentCount
  next : profile.nextFlowerIndex = other.nextFlowerIndex

theorem sameStanding_of_progress {profile other : PlayerProfile}
    (same : PlayerProfile.progress profile = PlayerProfile.progress other)
    : SameStanding profile other := by
  simp only [PlayerProfile.progress, PlayerProfile.mk.injEq] at same
  obtain ⟨_, claimed, _, _, _, active, _, next, _⟩ := same
  exact ⟨claimed, active, next⟩

/-- The same profiles, whatever became of those counters. -/
def SameProgress (before after : Store Pubkey PlayerProfile) : Prop :=
  ∀ wallet,
    (after.lookup wallet).map PlayerProfile.progress
      = (before.lookup wallet).map PlayerProfile.progress

theorem SameProgress.refl (profiles : Store Pubkey PlayerProfile)
    : SameProgress profiles profiles :=
  fun _ => rfl

theorem SameProgress.trans {first second third : Store Pubkey PlayerProfile}
    (earlier : SameProgress first second) (later : SameProgress second third)
    : SameProgress first third :=
  fun wallet => (later wallet).trans (earlier wallet)

theorem SameProgress.symm {before after : Store Pubkey PlayerProfile}
    (same : SameProgress before after)
    : SameProgress after before :=
  fun wallet => (same wallet).symm

/-- A profile is written whose progress is that of the old one. -/
theorem SameProgress.insert {before profiles : Store Pubkey PlayerProfile} {wallet : Pubkey}
    {profile written : PlayerProfile} (same : SameProgress before profiles)
    (player : before.lookup wallet = some profile)
    (kept : PlayerProfile.progress written = PlayerProfile.progress profile)
    : SameProgress before (profiles.insert wallet written) := by
  intro other
  rw [Store.lookup_insert_apply]
  split
  · next here =>
      rw [here, player, Option.map_some, Option.map_some, kept]
  · exact same other

/-- A profile was there before, with the same standing. -/
theorem SameProgress.before {before after : Store Pubkey PlayerProfile} {wallet : Pubkey}
    {profile : PlayerProfile} (same : SameProgress before after)
    (found : after.lookup wallet = some profile)
    : ∃ old, before.lookup wallet = some old ∧ SameStanding profile old := by
  have known := same wallet
  rw [found, Option.map_some] at known
  obtain ⟨old, present, kept⟩ := Option.map_eq_some_iff.mp known.symm
  exact ⟨old, present, sameStanding_of_progress kept.symm⟩

theorem SameProgress.isSome {before after : Store Pubkey PlayerProfile}
    (same : SameProgress before after) (wallet : Pubkey)
    : (after.lookup wallet).isSome = (before.lookup wallet).isSome := by
  have known := congrArg Option.isSome (same wallet)
  rwa [Option.isSome_map, Option.isSome_map] at known

/-- A synchronization moves flowers between two counters only. -/
theorem Synced.progress {now : Int} {flowerKey : FlowerKey} {accounts : SyncAccounts}
    {record flower : FlowerRecord} {profiles raised : Store Pubkey PlayerProfile}
    (synced : Synced state now flowerKey accounts record profiles flower raised)
    : SameProgress profiles raised := by
  cases synced with
  | kept => exact .refl _
  | corrected _ _ moved sold bought =>
      refine SameProgress.insert (SameProgress.insert (.refl profiles) sold ?_) bought ?_ <;> rfl

theorem Used.progress {flowerKey : FlowerKey} {accounts : SyncAccounts}
    {record flower : FlowerRecord} {profiles : Store Pubkey PlayerProfile}
    (used : Used env state flowerKey accounts record flower profiles)
    : SameProgress state.profiles profiles := by
  obtain ⟨_, synced, _⟩ := used.synced
  exact synced.progress

/-- The instructions that pledge a flower to an entry or give it back. -/
def GardenInstruction.MovesEntry : GardenInstruction → Prop
  | .submitEntry _ _ _ _ _ => True
  | .releaseFlower _ _ _ _ => True
  | _ => False

/-- What became of profiles, flowers and experiments. -/
inductive Change (submission : GardenSubmission) (state after : ProgramState) : Prop
  | kept
    (profiles : after.profiles = state.profiles)
    (flowers : after.flowers = state.flowers)
    (experiments : after.experiments = state.experiments)
  | created
    (unused : state.profiles.lookup submission.signer = none)
    (profiles
      : after.profiles
        = state.profiles.insert submission.signer (newProfile (state.env submission)))
    (flowers : after.flowers = state.flowers)
    (experiments : after.experiments = state.experiments)
  | claimed {profile : PlayerProfile}
    (player : state.profiles.lookup submission.signer = some profile)
    (unclaimed : profile.starterClaimed = false)
    (unused : ∀ index < starterCount, state.flowers.lookup ⟨submission.signer, index⟩ = none)
    (profiles : after.profiles = state.profiles.insert submission.signer (claimedProfile profile))
    (flowers : after.flowers = plantStarters submission.signer submission.now state.flowers)
    (experiments : after.experiments = state.experiments)
  | bred {flowerA flowerB : FlowerKey} {syncA syncB : SyncAccounts} {computationOffset : Nat}
    (asked : submission.instruction
      = .startBreeding flowerA flowerB syncA syncB computationOffset)
    (bred : Bred (state.env submission) state flowerA flowerB syncA syncB computationOffset after)
  | completed {experimentKey : ExperimentKey} {accounts : ExperimentAccounts}
    {offspring : FlowerRecord} {output : BreedOutput}
    (loaded : Loaded state experimentKey accounts)
    (queued : accounts.experiment.status = .queued)
    (found : state.flowers.lookup accounts.experiment.resultFlower = some offspring)
    (notA : accounts.experiment.resultFlower ≠ accounts.experiment.parentA)
    (notB : accounts.experiment.resultFlower ≠ accounts.experiment.parentB)
    (done : after
      = completeExperiment (state.env submission) experimentKey accounts offspring output state)
    (asked : submission.instruction = .breedV5Callback experimentKey (some output))
  | abandoned {experimentKey : ExperimentKey} {accounts : ExperimentAccounts}
    {status : ExperimentStatus} {errorCode : Nat}
    (loaded : Loaded state experimentKey accounts)
    (queued : accounts.experiment.status = .queued)
    (dead : status = .failed ∨ status = .expired)
    (done : after
      = resolveExperiment (state.env submission) experimentKey accounts status errorCode state)
  | reclaimed {experimentKey : ExperimentKey} {experiment : Experiment} {flowerKey : FlowerKey}
    {offspring : FlowerRecord} {profile : PlayerProfile}
    (present : state.experiments.lookup experimentKey = some experiment)
    (dead : experiment.status = .failed ∨ experiment.status = .expired)
    (found : state.flowers.lookup flowerKey = some offspring)
    (source : offspring.sourceExperiment = some experimentKey)
    (player : state.profiles.lookup offspring.owner = some profile)
    (done : after = removeFlower flowerKey offspring.owner profile state)
  | closed {flowerKey : FlowerKey} {flower : FlowerRecord} {profile : PlayerProfile}
    (found : state.flowers.lookup flowerKey = some flower)
    (active : flower.status = .active)
    (unminted : state.mints.lookup flowerKey = none)
    (player : state.profiles.lookup flower.owner = some profile)
    (done : after = removeFlower flowerKey flower.owner profile state)
  | used {flowerKey : FlowerKey} {accounts : SyncAccounts} {record flower : FlowerRecord}
    {profiles : Store Pubkey PlayerProfile}
    (used : Used (state.env submission) state flowerKey accounts record flower profiles)
    (progress : SameProgress state.profiles after.profiles)
    (flowers : after.flowers = state.flowers.insert flowerKey flower)
    (experiments : after.experiments = state.experiments)
    (status : submission.instruction.MovesEntry ∨ flower.status = record.status)

/-- Every accepted instruction is one of these changes. -/
theorem gardenStep_change
    (nursery : Nursery state.flowers state.experiments state.mints)
    {submission : GardenSubmission} (success : gardenStep state submission = .ok after)
    : Change submission state after := by
  obtain ⟨signer, slot, now, instruction⟩ := submission
  cases instruction with
  | createProfile =>
      obtain ⟨unused, rfl⟩ := createProfile_success success
      exact .created unused rfl rfl rfl
  | claimStarters =>
      obtain ⟨profile, player, unclaimed, unused, rfl⟩ := claimStarters_success success
      exact .claimed player unclaimed unused rfl rfl rfl
  | startBreeding flowerA flowerB syncA syncB computationOffset =>
      exact .bred rfl (startBreeding_success success)
  | breedV5Callback experimentKey output =>
      obtain ⟨accounts, loaded, delivered⟩ := breedV5Callback_success success
      have queued := (nursery.processed loaded.experiment).2
      cases delivered with
      | ignored => exact .kept rfl rfl rfl
      | completed pending found notA notB =>
          exact .completed loaded (queued.mp pending) found notA notB rfl rfl
      | failed pending => exact .abandoned loaded (queued.mp pending) (.inl rfl) rfl
  | cancelExpiredExperiment experimentKey =>
      obtain ⟨accounts, loaded, unresolved, rfl⟩ := cancelExpiredExperiment_success success
      have queued := unresolved.resolve_right (nursery.processed loaded.experiment).1
      exact .abandoned loaded queued (.inr rfl) rfl
  | reclaimDeadOffspring experimentKey offspringKey ownerRecipient =>
      obtain ⟨experiment, offspring, profile, present, dead, found, source, player, done⟩ :=
        reclaimDeadOffspring_success success
      exact .reclaimed present dead found source player done
  | closeFlower flowerKey =>
      obtain ⟨profile, flower, found, _, active, _, unminted, player, done⟩ :=
        closeFlower_success success
      exact .closed found active unminted player done
  | submitEntry roundKey entryKey flowerKey playerSgdAta accounts =>
      obtain ⟨profile, record, flower, profiles, player, used, _, _, _, same⟩ :=
        submitEntry_success success
      refine .used used ?_ (by rw [same]) (by rw [same]) (.inl trivial)
      rw [same]
      exact used.progress.insert player rfl
  | releaseFlower roundKey entryKey flowerKey accounts =>
      obtain ⟨record, flower, profiles, used, _, _, same⟩ := releaseFlower_success success
      refine .used used ?_ (by rw [same]) (by rw [same]) (.inl trivial)
      rw [same]
      exact used.progress
  | queueScoreEntry roundKey computationOffset entryKey flowerKey =>
      obtain ⟨_, _, _, _, _, rfl⟩ := queueScoreEntry_success success
      exact .kept rfl rfl rfl
  | queuePrivateHint roundKey flowerKey accounts computationOffset hintPubkey hintNonce =>
      obtain ⟨_, record, flower, profiles, _, used, kept, _, _, _, rfl⟩ :=
        queuePrivateHint_success success
      exact .used used used.progress rfl rfl (.inr kept)
  | privateHintCallback computationOffset output =>
      have same := privateHintCallback_success success
      exact .kept (by rw [same]) (by rw [same]) (by rw [same])
  | setMintingEnabled enabled =>
      obtain ⟨_, _, written⟩ := bind_eq_ok.mp success
      obtain rfl := pure_eq_ok.mp written
      exact .kept rfl rfl rfl
  | mintFlowerNft flowerKey tokenAccount uri =>
      obtain ⟨_, _, _, _, _, _, same⟩ := mintFlowerNft_success success
      exact .kept (by rw [same]) (by rw [same]) (by rw [same])
  | burnFlowerNft flowerKey tokenAccount =>
      have same := (burnFlowerNft_success success).frame
      exact .kept (by rw [same]) (by rw [same]) (by rw [same])
  | thawFlowerNft flowerKey accounts =>
      obtain ⟨record, flower, profiles, used, _, kept, same⟩ := thawFlowerNft_success success
      refine .used used ?_ (by rw [same]) (by rw [same]) (.inr kept)
      rw [same]
      exact used.progress
  | token event =>
      have same := (tokensOnly_of_event success).frame
      exact .kept (by rw [same]) (by rw [same]) (by rw [same])
  | season instruction =>
      simp only [gardenStep, bind_eq_ok, require_eq_ok, exists_const, pure_eq_ok] at success
      obtain ⟨_, deployment, _, rfl⟩ := success
      exact .kept rfl rfl rfl

/-- A breeding gives no profile but the player's own another progress. -/
theorem SameProgress.of_sync {flowerA flowerB : FlowerKey} {syncA syncB : SyncAccounts}
    {recordA recordB parentA parentB : FlowerRecord}
    {profilesA profilesB : Store Pubkey PlayerProfile} {now : Int}
    (syncedA : Synced state now flowerA syncA recordA state.profiles parentA profilesA)
    (syncedB : Synced state now flowerB syncB recordB profilesA parentB profilesB)
    : SameProgress state.profiles profilesB :=
  syncedA.progress.trans syncedB.progress

--------------------------------------------------------------------------------
-- One flower
--------------------------------------------------------------------------------

/-- The owner on record stays, or it is corrected to the holder of the token. -/
inductive OwnerMoved (state : ProgramState) (now : Int) (flowerKey : FlowerKey)
    (record flower : FlowerRecord) : Prop
  | kept
    (owner : flower.owner = record.owner)
    (stamp : flower.lastTransferAt = record.lastTransferAt)
  | corrected {address : Pubkey} {token : FlowerToken}
    (live : Live state flowerKey)
    (held : Holding state.tokens flowerKey address token)
    (moved : token.owner ≠ record.owner)
    (owner : flower.owner = token.owner)
    (stamp : flower.lastTransferAt = now)

/-- A flower before and after an instruction: it stays of its kind. -/
structure Evolved (state : ProgramState) (now : Int) (flowerKey : FlowerKey)
    (record flower : FlowerRecord) : Prop where
  kind : flower.genomeStatus = record.genomeStatus
  moved : OwnerMoved state now flowerKey record flower

/-- A synchronization either keeps the owner or takes it from the token. -/
theorem Synced.moved {now : Int} {flowerKey : FlowerKey} {accounts : SyncAccounts}
    {record written : FlowerRecord} {profiles raised : Store Pubkey PlayerProfile}
    (synced : Synced state now flowerKey accounts record profiles written raised)
    (holder : OwnsToken state flowerKey accounts written)
    : OwnerMoved state now flowerKey record written := by
  cases synced with
  | kept => exact .kept rfl rfl
  | corrected needed minted moved =>
      have live : Live state flowerKey := by
        unfold needsCorrection at needed
        split at needed
        · next supply _ _ present _ => exact ⟨supply, present⟩
        · cases needed
      obtain ⟨supply, present⟩ := live
      obtain ⟨token, found, mint, amount, owner⟩ := holder supply present
      have held : Holding state.tokens flowerKey accounts.token token := ⟨found, mint, amount⟩
      exact .corrected ⟨supply, present⟩ held (owner ▸ moved) owner.symm rfl

theorem Evolved.of_synced {now : Int} {flowerKey : FlowerKey} {accounts : SyncAccounts}
    {record written flower : FlowerRecord} {profiles raised : Store Pubkey PlayerProfile}
    (synced : Synced state now flowerKey accounts record profiles written raised)
    (holder : OwnsToken state flowerKey accounts written)
    (kind : flower.genomeStatus = written.genomeStatus)
    (owner : flower.owner = written.owner)
    (stamp : flower.lastTransferAt = written.lastTransferAt)
    : Evolved state now flowerKey record flower := by
  refine ⟨kind.trans synced.same.1.genomeStatus, ?_⟩
  cases synced.moved holder with
  | kept sameOwner sameStamp => exact .kept (owner.trans sameOwner) (stamp.trans sameStamp)
  | corrected live held moved newOwner newStamp =>
      exact .corrected live held moved (owner.trans newOwner) (stamp.trans newStamp)

theorem Used.evolved {flowerKey : FlowerKey} {accounts : SyncAccounts}
    {record flower : FlowerRecord} {profiles : Store Pubkey PlayerProfile}
    (used : Used env state flowerKey accounts record flower profiles)
    : Evolved state env.now flowerKey record flower := by
  obtain ⟨written, synced, same⟩ := used.synced
  have owner : flower.owner = written.owner := by rw [same]
  have holder := used.holder
  rw [OwnsToken, owner] at holder
  refine .of_synced synced holder ?_ owner ?_ <;> rw [same]

/-- Nothing that matters for ownership was written. -/
theorem Evolved.of_same {now : Int} {flowerKey : FlowerKey} {record flower : FlowerRecord}
    (kind : flower.genomeStatus = record.genomeStatus) (owner : flower.owner = record.owner)
    (stamp : flower.lastTransferAt = record.lastTransferAt)
    : Evolved state now flowerKey record flower :=
  ⟨kind, .kept owner stamp⟩

/-- Every flower has evolved from the one at its address, or it is new. -/
def AllEvolved (state : ProgramState) (now : Int) (later : Store FlowerKey FlowerRecord) : Prop :=
  ∀ flowerKey flower,
    later.lookup flowerKey = some flower
    → (∃ record, state.flowers.lookup flowerKey = some record
        ∧ Evolved state now flowerKey record flower)
      ∨ state.flowers.lookup flowerKey = none ∧ flower.lastTransferAt = 0

variable {now : Int} {later : Store FlowerKey FlowerRecord}

/-- A flower that was there before has evolved. -/
theorem AllEvolved.of_found (evolved : AllEvolved state now later) {flowerKey : FlowerKey}
    {record flower : FlowerRecord} (found : state.flowers.lookup flowerKey = some record)
    (present : later.lookup flowerKey = some flower)
    : Evolved state now flowerKey record flower := by
  rcases evolved flowerKey flower present with ⟨old, before, step⟩ | ⟨unused, _⟩
  · cases found.symm.trans before
    exact step
  · cases unused.symm.trans found

theorem AllEvolved.refl : AllEvolved state now state.flowers :=
  fun _ flower found => .inl ⟨flower, found, .of_same rfl rfl rfl⟩

theorem AllEvolved.insert (evolved : AllEvolved state now later) {written : FlowerKey}
    {record flower : FlowerRecord} (found : state.flowers.lookup written = some record)
    (step : Evolved state now written record flower)
    : AllEvolved state now (later.insert written flower) := by
  intro flowerKey other present
  rcases Store.lookup_insert_eq_some.mp present with ⟨here, rfl⟩ | ⟨_, present⟩
  · exact .inl ⟨record, here ▸ found, here ▸ step⟩
  · exact evolved _ _ present

theorem AllEvolved.add (evolved : AllEvolved state now later) {written : FlowerKey}
    (unused : state.flowers.lookup written = none) {flower : FlowerRecord}
    (unmoved : flower.lastTransferAt = 0)
    : AllEvolved state now (later.insert written flower) := by
  intro flowerKey other present
  rcases Store.lookup_insert_eq_some.mp present with ⟨here, rfl⟩ | ⟨_, present⟩
  · exact .inr ⟨here ▸ unused, unmoved⟩
  · exact evolved _ _ present

theorem AllEvolved.erase (evolved : AllEvolved state now later) (removed : FlowerKey)
    : AllEvolved state now (later.erase removed) := by
  intro flowerKey other present
  obtain ⟨_, present⟩ := Store.lookup_erase_eq_some.mp present
  exact evolved _ _ present

/-- Both parents of an experiment stay what they are. -/
theorem AllEvolved.resolve {experimentKey : ExperimentKey} {accounts : ExperimentAccounts}
    (status : ExperimentStatus) (errorCode : Nat)
    (loaded : Loaded state experimentKey accounts)
    : AllEvolved state now
        (resolveExperiment env experimentKey accounts status errorCode state).flowers := by
  refine AllEvolved.insert (.insert .refl loaded.flowerA ?_) loaded.flowerB ?_
  · exact .of_same rfl rfl rfl
  · exact .of_same rfl rfl rfl

/-- Every accepted instruction lets flowers evolve only so, by cases on the change. -/
theorem Change.evolved {submission : GardenSubmission} (change : Change submission state after)
    : AllEvolved state submission.now after.flowers := by
  cases change with
  | kept _ flowers _ =>
      rw [flowers]
      exact .refl
  | created _ _ flowers _ =>
      rw [flowers]
      exact .refl
  | claimed _ _ unused _ flowers _ =>
      rw [flowers]
      intro flowerKey flower present
      rcases plantStarters_origin present with old | ⟨index, rfl, rfl⟩
      · exact AllEvolved.refl _ _ old
      · exact .inr ⟨unused index index.isLt, rfl⟩
  | bred _ bred =>
      cases bred with
      | queued _ _ foundA _ foundB _ _ unused syncedA syncedB _ _ _ _ _ _ _ _ _ holderA holderB =>
          refine AllEvolved.add (.insert (.insert .refl foundA ?_) foundB ?_) unused rfl
          · exact .of_synced syncedA holderA rfl rfl rfl
          · exact .of_synced syncedB holderB rfl rfl rfl
  | completed loaded _ found _ _ done =>
      subst done
      exact (AllEvolved.resolve _ _ loaded).insert found (.of_same rfl rfl rfl)
  | abandoned loaded _ _ done =>
      subst done
      exact .resolve _ _ loaded
  | reclaimed _ _ _ _ _ done =>
      subst done
      exact .erase .refl _
  | closed _ _ _ _ done =>
      subst done
      exact .erase .refl _
  | used used _ flowers _ =>
      rw [flowers]
      exact .insert .refl used.found used.evolved

end SecretGarden.Garden
