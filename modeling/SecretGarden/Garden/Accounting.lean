import SecretGarden.Garden.Collection

/-! Which instructions keep the collection counters exact, over whole runs of the program. -/

namespace SecretGarden.Garden

open Foundation SecretGarden.Bracket SecretGarden.Settlement SecretGarden.Season

variable {flowers : Store FlowerKey FlowerRecord} {profiles : Store Pubkey PlayerProfile}
  {env : Env} {state after : ProgramState}

/-- A synchronization that corrects the owner finds room in the new owner's counter. -/
def creditFits (state : ProgramState) (flowerKey : FlowerKey) (accounts : SyncAccounts) : Bool :=
  !needsCorrection state flowerKey accounts
    || (state.profiles.lookup accounts.newProfile).all fun profile =>
      decide (profile.totalFlowers < u16Max)

/-- Starters are claimed by a wallet without bred flowers, what writes the player's own profile
back corrects no owner, and no full counter is credited.
-/
def KeepsCount (state : ProgramState) (submission : GardenSubmission) : Prop :=
  match submission.instruction with
  | .claimStarters => hybridsOf state.flowers submission.signer = []
  | .startBreeding flowerA flowerB syncA syncB _ =>
      submission.now ≠ 0
        ∨ needsCorrection state flowerA syncA = false
          ∧ needsCorrection state flowerB syncB = false
  | .submitEntry _ _ flowerKey _ accounts => needsCorrection state flowerKey accounts = false
  | .releaseFlower _ _ flowerKey accounts => creditFits state flowerKey accounts
  | .queuePrivateHint _ flowerKey accounts _ _ _ => creditFits state flowerKey accounts
  | .thawFlowerNft flowerKey accounts => creditFits state flowerKey accounts
  | _ => True

instance (state : ProgramState) (submission : GardenSubmission)
    : Decidable (KeepsCount state submission) := by
  unfold KeepsCount
  generalize submission.instruction = instruction
  rcases instruction <;> infer_instance

theorem creditFits_of_unneeded {flowerKey : FlowerKey} {accounts : SyncAccounts}
    (unneeded : needsCorrection state flowerKey accounts = false)
    : creditFits state flowerKey accounts := by
  rw [creditFits, unneeded]
  rfl

/-- A new profile's wallet is on record for no flower. -/
theorem Counted.create (counted : Counted flowers profiles)
    (unused : profiles.lookup env.signer = none)
    : Counted flowers (profiles.insert env.signer (newProfile env)) where
  exact {wallet profile} lookup := by
    rcases Store.lookup_insert_eq_some.mp lookup with ⟨here, rfl⟩ | ⟨_, lookup⟩
    · subst here
      have none_owned : hybridsOf flowers env.signer = [] := by
        rw [List.eq_nil_iff_forall_not_mem]
        intro flowerKey listed
        obtain ⟨flower, found, counts⟩ := Store.mem_keysWhere.mp listed
        have owner := eq_of_beq (Bool.and_eq_true_iff.mp counts).1
        have known := counted.owners found
        rw [owner, unused] at known
        cases known
      rw [none_owned]
      rfl
    · exact counted.exact lookup
  owners lookup := Store.isSome_lookup_insert (counted.owners lookup)

/-- Starters count for nobody as bred flowers. -/
theorem hybridsOf_plantStarters {owner : Pubkey} {createdAt : Int}
    (unused : ∀ index < starterCount, flowers.lookup ⟨owner, index⟩ = none) (wallet : Pubkey)
    : (hybridsOf (plantStarters owner createdAt flowers) wallet).Perm
        (hybridsOf flowers wallet) := by
  refine Store.keysWhere_perm fun flowerKey => ?_
  simp only [Store.mem_keysWhere]
  constructor
  · rintro ⟨flower, found, counts⟩
    rcases plantStarters_origin found with old | ⟨index, _, rfl⟩
    · exact ⟨flower, old, counts⟩
    · simp [FlowerRecord.countsFor, FlowerRecord.isHybrid, populateFlower] at counts
  · rintro ⟨flower, found, counts⟩
    exact ⟨flower, lookup_plantStarters unused found, counts⟩

/-- A wallet without bred flowers claims its starters. -/
theorem Counted.claim (counted : Counted flowers profiles) {owner : Pubkey} {createdAt : Int}
    {profile : PlayerProfile}
    (unused : ∀ index < starterCount, flowers.lookup ⟨owner, index⟩ = none)
    (empty : hybridsOf flowers owner = [])
    : Counted (plantStarters owner createdAt flowers)
        (profiles.insert owner (claimedProfile profile)) where
  exact {wallet counter} lookup := by
    rw [(hybridsOf_plantStarters unused wallet).length_eq]
    rcases Store.lookup_insert_eq_some.mp lookup with ⟨here, rfl⟩ | ⟨_, lookup⟩
    · rw [here, empty]
      rfl
    · exact counted.exact lookup
  owners lookup := by
    rw [Store.lookup_insert_apply]
    split
    · rfl
    · next other =>
        rcases plantStarters_origin lookup with old | ⟨index, _, rfl⟩
        · exact counted.owners old
        · exact absurd rfl other

--------------------------------------------------------------------------------
-- Flowers in use
--------------------------------------------------------------------------------

/-- A flower that is used counts for its token's holder from then on. Only bred flowers have a
token.
-/
theorem Counted.used (counted : Counted state.flowers state.profiles)
    (nursery : Nursery state.flowers state.experiments state.mints) {flowerKey : FlowerKey}
    {accounts : SyncAccounts} {record flower : FlowerRecord}
    {profiles : Store Pubkey PlayerProfile}
    (used : Used env state flowerKey accounts record flower profiles)
    (fits : creditFits state flowerKey accounts)
    : Counted (state.flowers.insert flowerKey flower) profiles := by
  obtain ⟨written, synced, same⟩ := used.synced
  cases synced with
  | kept =>
      rw [same]
      exact counted.rewrite _ used.found ⟨rfl, rfl⟩ rfl
  | corrected needed minted moved seller buyer =>
      rw [same]
      obtain ⟨hybrid, found, encrypted, _⟩ := nursery.minted minted
      cases used.found.symm.trans found
      refine counted.transfer _ used.found ⟨rfl, rfl⟩ ?_ moved seller buyer ?_
      · rw [FlowerRecord.isHybrid, encrypted]
        rfl
      · simpa [creditFits, needed, buyer] using fits

/-- Without a correction an entry only counts itself. -/
theorem Counted.submit (counted : Counted state.flowers state.profiles)
    (nursery : Nursery state.flowers state.experiments state.mints) {flowerKey : FlowerKey}
    {accounts : SyncAccounts} {record flower : FlowerRecord} {profile : PlayerProfile}
    {profiles : Store Pubkey PlayerProfile} {submissions : Nat}
    (player : state.profiles.lookup env.signer = some profile)
    (used : Used env state flowerKey accounts record flower profiles)
    (unneeded : needsCorrection state flowerKey accounts = false)
    : Counted (state.flowers.insert flowerKey flower)
        (profiles.insert env.signer { profile with finalSubmissions := submissions }) := by
  have synced := counted.used nursery used (creditFits_of_unneeded unneeded)
  obtain ⟨_, corrected, _⟩ := used.synced
  obtain ⟨_, rfl⟩ := corrected.eq_of_unneeded unneeded
  exact synced.profile player rfl rfl

/-- Without a correction a breeding adds its offspring to the player's count. -/
theorem Counted.breed (counted : Counted state.flowers state.profiles)
    {flowerA flowerB : FlowerKey} {syncA syncB : SyncAccounts} {computationOffset : Nat}
    (bred : Bred env state flowerA flowerB syncA syncB computationOffset after)
    (elapsed : env.now ≠ 0
      ∨ needsCorrection state flowerA syncA = false ∧ needsCorrection state flowerB syncB = false)
    : Counted after.flowers after.profiles := by
  cases bred with
  | @queued profile recordA recordB parentA parentB profilesA profilesB generation tokensA tokens
      player apart foundA activeA foundB activeB unstarted unused syncedA syncedB ownedA ownedB
      _ _ _ _ restedA restedB =>
      have keptA : parentA = recordA ∧ profilesA = state.profiles :=
        elapsed.elim (syncedA.eq_of_rested restedA) fun unneeded =>
          syncedA.eq_of_unneeded unneeded.1
      have keptB : parentB = recordB ∧ profilesB = profilesA :=
        elapsed.elim (syncedB.eq_of_rested restedB) fun unneeded =>
          syncedB.eq_of_unneeded unneeded.2
      obtain ⟨rfl, rfl⟩ := keptA
      obtain ⟨rfl, rfl⟩ := keptB
      have first := counted.rewrite (lockedParent parentA) foundA ⟨rfl, rfl⟩ rfl
      have second := first.rewrite (lockedParent parentB)
        ((AList.lookup_insert_ne apart.symm).trans foundB) ⟨rfl, rfl⟩ rfl
      refine second.add (newOffspring env.now env.signer flowerA flowerB parentA parentB
        profile.nextFlowerIndex generation ⟨env.signer, profile.totalExperiments⟩)
        ?_ rfl player rfl rfl
      exact unused_after_parents foundA foundB unused

/-- Ending an experiment touches no counter. -/
theorem Counted.resolve (counted : Counted state.flowers state.profiles)
    {experimentKey : ExperimentKey} {accounts : ExperimentAccounts} (env : Env)
    (status : ExperimentStatus) (errorCode : Nat) (loaded : Loaded state experimentKey accounts)
    : Counted (resolveExperiment env experimentKey accounts status errorCode state).flowers
        (resolveExperiment env experimentKey accounts status errorCode state).profiles := by
  have first := counted.rewrite { accounts.flowerA with status := .active } loaded.flowerA
    ⟨rfl, rfl⟩ rfl
  have second := first.rewrite { accounts.flowerB with status := .active }
    ((AList.lookup_insert_ne loaded.apart.symm).trans loaded.flowerB) ⟨rfl, rfl⟩ rfl
  exact second.profile loaded.profile rfl rfl

theorem Counted.deliver (counted : Counted state.flowers state.profiles)
    {experimentKey : ExperimentKey} {accounts : ExperimentAccounts}
    (loaded : Loaded state experimentKey accounts)
    {answer : Option BreedOutput}
    (delivered : Delivered env experimentKey accounts state answer after)
    : Counted after.flowers after.profiles := by
  cases delivered with
  | ignored => exact counted
  | @completed offspring output pending found notA notB =>
      have resolved := counted.resolve env .completed accounts.experiment.errorCode loaded
      exact resolved.rewrite (grownOffspring offspring output)
        (lookup_resolveExperiment notA notB found) ⟨rfl, rfl⟩ rfl
  | failed => exact counted.resolve env _ _ loaded

/-- Every instruction under the condition keeps the counters exact, by cases on what it does. -/
theorem Counted.step (counted : Counted state.flowers state.profiles)
    (nursery : Nursery state.flowers state.experiments state.mints)
    {submission : GardenSubmission} (keeps : KeepsCount state submission)
    (success : gardenStep state submission = .ok after)
    : Counted after.flowers after.profiles := by
  obtain ⟨signer, slot, now, instruction⟩ := submission
  cases instruction with
  | createProfile =>
      obtain ⟨unused, rfl⟩ := createProfile_success success
      exact counted.create unused
  | claimStarters =>
      obtain ⟨_, _, _, unused, rfl⟩ := claimStarters_success success
      exact counted.claim unused keeps
  | startBreeding flowerA flowerB syncA syncB computationOffset =>
      exact counted.breed (startBreeding_success success) keeps
  | breedV5Callback experimentKey output =>
      obtain ⟨accounts, loaded, delivered⟩ := breedV5Callback_success success
      exact counted.deliver loaded delivered
  | cancelExpiredExperiment experimentKey =>
      obtain ⟨accounts, loaded, _, rfl⟩ := cancelExpiredExperiment_success success
      exact counted.resolve _ _ _ loaded
  | reclaimDeadOffspring experimentKey offspringKey ownerRecipient =>
      obtain ⟨_, offspring, _, _, _, found, source, player, rfl⟩ :=
        reclaimDeadOffspring_success success
      refine counted.remove found ?_ player
      rw [FlowerRecord.isHybrid, nursery.bred found (by rw [source]; rfl)]
      rfl
  | closeFlower flowerKey =>
      obtain ⟨_, flower, found, _, _, encrypted, _, player, rfl⟩ := closeFlower_success success
      refine counted.remove found ?_ player
      rw [FlowerRecord.isHybrid, encrypted]
      rfl
  | submitEntry roundKey entryKey flowerKey playerSgdAta accounts =>
      obtain ⟨_, _, _, _, player, used, _, _, _, same⟩ := submitEntry_success success
      rw [same]
      exact counted.submit nursery player used keeps
  | releaseFlower roundKey entryKey flowerKey accounts =>
      obtain ⟨_, _, _, used, _, _, same⟩ := releaseFlower_success success
      rw [same]
      exact counted.used nursery used keeps
  | queueScoreEntry roundKey computationOffset entryKey flowerKey =>
      obtain ⟨_, _, _, _, _, rfl⟩ := queueScoreEntry_success success
      exact counted
  | queuePrivateHint roundKey flowerKey accounts computationOffset hintPubkey hintNonce =>
      obtain ⟨_, _, _, _, _, used, _, _, _, _, same⟩ := queuePrivateHint_success success
      rw [same]
      exact counted.used nursery used keeps
  | privateHintCallback computationOffset output =>
      rw [privateHintCallback_success success]
      exact counted
  | setMintingEnabled enabled =>
      obtain ⟨_, _, written⟩ := bind_eq_ok.mp success
      obtain rfl := pure_eq_ok.mp written
      exact counted
  | mintFlowerNft flowerKey tokenAccount uri =>
      obtain ⟨_, _, _, _, _, _, same⟩ := mintFlowerNft_success success
      rw [same]
      exact counted
  | burnFlowerNft flowerKey tokenAccount =>
      rw [(burnFlowerNft_success success).frame]
      exact counted
  | thawFlowerNft flowerKey accounts =>
      obtain ⟨_, _, _, used, _, _, same⟩ := thawFlowerNft_success success
      rw [same]
      exact counted.used nursery used keeps
  | token event =>
      rw [(tokensOnly_of_event success).frame]
      exact counted
  | season instruction =>
      simp only [gardenStep, bind_eq_ok, require_eq_ok, exists_const, pure_eq_ok] at success
      obtain ⟨_, deployment, _, rfl⟩ := success
      exact counted

/-- Over every run under the condition, the counter of a wallet that claimed its starters reads
six more than the bred flowers it is on record for.
-/
theorem collection_counted {start : ProgramState} (fresh : start.Fresh)
    {history : List GardenSubmission} (run : Run gardenStep KeepsCount start history state)
    {wallet : Pubkey} {profile : PlayerProfile}
    (found : state.profiles.lookup wallet = some profile) (claimed : profile.starterClaimed)
    : profile.totalFlowers = starterCount + (hybridsOf state.flowers wallet).length := by
  have counted : Counted state.flowers state.profiles := by
    refine run.invariant_with (nursery_of_run fresh) ?_
      fun nursery counted keeps success => Counted.step counted nursery keeps success
    rw [fresh.flowers, fresh.profiles]
    exact .empty
  rw [counted.exact found, if_pos claimed]

--------------------------------------------------------------------------------
-- A flower is sold
--------------------------------------------------------------------------------

/-- A program just deployed under authority 7. -/
def sampleProgram : ProgramState :=
  { sampleDeployment with
    profiles := ∅
    flowers := ∅
    experiments := ∅
    hints := ∅
    hintComputations := ∅
    mints := ∅
    tokens := ∅
    mintingEnabled := false }

theorem sampleProgram_fresh : sampleProgram.Fresh :=
  ⟨sampleDeployment_fresh, rfl, rfl, rfl, rfl, rfl, rfl, rfl⟩

/-- Player 101 breeds a flower, mints it and sells it to wallet 102, while a round is open. -/
def soldScript : List GardenSubmission :=
  let seedling : FlowerKey := ⟨101, starterCount⟩
  let unsynced : SyncAccounts := ⟨0, 0, 0⟩
  [⟨7, 1000, 1, .season (.setSgdMint ⟨9, 6⟩)⟩,
    ⟨7, 1000, 1, .season (.openRound none ∅)⟩,
    ⟨101, 1000, 1, .createProfile⟩,
    ⟨101, 1000, 1, .claimStarters⟩,
    ⟨101, 1000, 1, .startBreeding ⟨101, 0⟩ ⟨101, 1⟩ unsynced unsynced 51⟩,
    ⟨66, 1000, 1, .breedV5Callback ⟨101, 0⟩ (some ⟨1, 1, 1⟩)⟩,
    ⟨7, 1000, 1, .setMintingEnabled true⟩,
    ⟨101, 1000, 1, .mintFlowerNft seedling 501 ""⟩,
    ⟨102, 1000, 1, .token (.createAccount 502 102 seedling)⟩,
    ⟨101, 1000, 1, .token (.transfer 501 502)⟩,
    ⟨102, 1000, 1, .createProfile⟩]

/-- The buyer's use of the flower puts it on record. -/
def buyerAsks : GardenSubmission :=
  ⟨102, 1000, 1, .queuePrivateHint 1 ⟨101, starterCount⟩ ⟨502, 101, 102⟩ 71 11 12⟩

def buyerClaims : GardenSubmission := ⟨102, 1000, 1, .claimStarters⟩

/-- A buyer who claimed first counts the bought flower. -/
theorem claimedFirst_counted
    : ∃ state profile,
        Run gardenStep KeepsCount sampleProgram (soldScript ++ [buyerClaims, buyerAsks]) state
        ∧ state.profiles.lookup 102 = some profile
        ∧ profile.starterClaimed
        ∧ (hybridsOf state.flowers 102).length = 1
        ∧ profile.totalFlowers = starterCount + (hybridsOf state.flowers 102).length := by
  have replayed : (replay gardenStep KeepsCount sampleProgram
      (soldScript ++ [buyerClaims, buyerAsks])).any fun state =>
        (state.profiles.lookup 102).any PlayerProfile.starterClaimed
          && (hybridsOf state.flowers 102).length == 1 := by
    decide +kernel
  obtain ⟨state, run, checked⟩ := Run.of_replay_any replayed
  obtain ⟨stored, owned⟩ := Bool.and_eq_true_iff.mp checked
  obtain ⟨profile, found, claimed⟩ := (Option.any_eq_true _ _).mp stored
  exact ⟨state, profile, run, found, claimed, eq_of_beq owned,
    collection_counted sampleProgram_fresh run found claimed⟩

/-- A buyer who claims last loses the bought flower from the count. -/
theorem claimedLast_uncounted
    : ¬ ∀ start : ProgramState, start.Fresh
        → ∀ (history : List GardenSubmission) (state : ProgramState),
          Run gardenStep anyAction start history state
          → ∀ wallet profile, state.profiles.lookup wallet = some profile
          → profile.starterClaimed
          → profile.totalFlowers = starterCount + (hybridsOf state.flowers wallet).length := by
  intro always
  have replayed : (replay gardenStep anyAction sampleProgram
      (soldScript ++ [buyerAsks, buyerClaims])).any fun state =>
        (state.profiles.lookup 102).any fun profile =>
          profile.starterClaimed
            && profile.totalFlowers != starterCount + (hybridsOf state.flowers 102).length := by
    decide +kernel
  obtain ⟨state, run, checked⟩ := Run.of_replay_any replayed
  obtain ⟨profile, found, facts⟩ := (Option.any_eq_true _ _).mp checked
  obtain ⟨claimed, differs⟩ := Bool.and_eq_true_iff.mp facts
  exact bne_iff_ne.mp differs
    (always _ sampleProgram_fresh _ _ run 102 profile found claimed)

end SecretGarden.Garden
