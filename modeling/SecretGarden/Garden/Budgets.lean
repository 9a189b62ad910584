import SecretGarden.Garden.Accounting
import SecretGarden.Garden.Changes
import SecretGarden.Garden.Upgrading
import SecretGarden.Season.Changes

/-! Breeding is limited twice: by what a wallet may start in one round, and by how often one
flower may be a parent. Both budgets are spent when a breeding starts and never given back.
-/

namespace SecretGarden.Garden

open Foundation SecretGarden.Bracket SecretGarden.Settlement SecretGarden.Season

variable {env : Env} {state after : ProgramState} {submission : GardenSubmission}

--------------------------------------------------------------------------------
-- The counters
--------------------------------------------------------------------------------

/-- A wallet's attempts and the round they are counted for; a new profile starts with zeros. -/
def breedsOf (profiles : Store Pubkey PlayerProfile) (wallet : Pubkey) : Nat × Nat :=
  ((profiles.lookup wallet).map fun profile =>
    (profile.breedsThisRound, profile.lastBreedRound)).getD (0, 0)

/-- How often a flower was a parent. -/
def usesOf (flowers : Store FlowerKey FlowerRecord) (flowerKey : FlowerKey) : Option Nat :=
  (flowers.lookup flowerKey).map FlowerRecord.timesBredAsParent

theorem breedsOf_of_found {profiles : Store Pubkey PlayerProfile} {wallet : Pubkey}
    {profile : PlayerProfile} (found : profiles.lookup wallet = some profile)
    : breedsOf profiles wallet = (profile.breedsThisRound, profile.lastBreedRound) := by
  rw [breedsOf, found, Option.map_some, Option.getD_some]

theorem breedsOf_insert (profiles : Store Pubkey PlayerProfile) (written wallet : Pubkey)
    (profile : PlayerProfile)
    : breedsOf (profiles.insert written profile) wallet
      = if wallet = written then (profile.breedsThisRound, profile.lastBreedRound)
        else breedsOf profiles wallet := by
  rw [breedsOf, Store.lookup_insert_apply]
  split <;> rfl

theorem usesOf_insert (flowers : Store FlowerKey FlowerRecord) (written flowerKey : FlowerKey)
    (flower : FlowerRecord)
    : usesOf (flowers.insert written flower) flowerKey
      = if flowerKey = written then some flower.timesBredAsParent
        else usesOf flowers flowerKey := by
  rw [usesOf, Store.lookup_insert_apply]
  split <;> rfl

/-- No wallet's attempts differ. -/
def SameBreeds (before after : Store Pubkey PlayerProfile) : Prop :=
  ∀ wallet, breedsOf after wallet = breedsOf before wallet

/-- No flower's uses differ, although flowers may be gone. -/
def SameUses (before after : Store FlowerKey FlowerRecord) : Prop :=
  ∀ flowerKey, usesOf after flowerKey = none ∨ usesOf after flowerKey = usesOf before flowerKey

theorem SameBreeds.refl (profiles : Store Pubkey PlayerProfile) : SameBreeds profiles profiles :=
  fun _ => rfl

theorem SameUses.refl (flowers : Store FlowerKey FlowerRecord) : SameUses flowers flowers :=
  fun _ => .inr rfl

/-- A profile is written with the attempts it had. -/
theorem SameBreeds.insert {before profiles : Store Pubkey PlayerProfile} {wallet : Pubkey}
    {profile written : PlayerProfile} (same : SameBreeds before profiles)
    (found : before.lookup wallet = some profile)
    (attempts : written.breedsThisRound = profile.breedsThisRound)
    (round : written.lastBreedRound = profile.lastBreedRound)
    : SameBreeds before (profiles.insert wallet written) := by
  intro other
  rw [breedsOf_insert]
  split
  · next here => rw [here, breedsOf_of_found found, attempts, round]
  · exact same other

/-- Profiles of the same progress have the same attempts. -/
theorem SameProgress.breeds {before profiles : Store Pubkey PlayerProfile}
    (same : SameProgress before profiles) : SameBreeds before profiles := by
  intro wallet
  have attempts (store : Store Pubkey PlayerProfile)
      : breedsOf store wallet
        = (((store.lookup wallet).map PlayerProfile.progress).map fun profile =>
            (profile.breedsThisRound, profile.lastBreedRound)).getD (0, 0) := by
    rw [breedsOf, Option.map_map]
    rfl
  rw [attempts, attempts, same wallet]

/-- A flower is written with the uses it had. -/
theorem SameUses.insert {before flowers : Store FlowerKey FlowerRecord} {flowerKey : FlowerKey}
    {record flower : FlowerRecord} (same : SameUses before flowers)
    (found : before.lookup flowerKey = some record)
    (kept : flower.timesBredAsParent = record.timesBredAsParent)
    : SameUses before (flowers.insert flowerKey flower) := by
  intro other
  rw [usesOf_insert]
  split
  · next here =>
      right
      rw [here, usesOf, found, Option.map_some, kept]
  · exact same other

theorem SameUses.erase {before flowers : Store FlowerKey FlowerRecord}
    (same : SameUses before flowers) (flowerKey : FlowerKey)
    : SameUses before (flowers.erase flowerKey) := by
  intro other
  rw [usesOf, Store.lookup_erase_apply]
  split
  · exact .inl rfl
  · exact same other

/-- A synchronization does not count as a use. -/
theorem Synced.uses {now : Int} {flowerKey : FlowerKey} {accounts : SyncAccounts}
    {record flower : FlowerRecord} {profiles raised : Store Pubkey PlayerProfile}
    (synced : Synced state now flowerKey accounts record profiles flower raised)
    : flower.timesBredAsParent = record.timesBredAsParent := by
  cases synced <;> rfl

theorem Used.uses {flowerKey : FlowerKey} {accounts : SyncAccounts}
    {record flower : FlowerRecord} {profiles : Store Pubkey PlayerProfile}
    (used : Used env state flowerKey accounts record flower profiles)
    : flower.timesBredAsParent = record.timesBredAsParent := by
  obtain ⟨written, synced, same⟩ := used.synced
  rw [same]
  exact synced.uses

/-- Ending an experiment gives neither budget back. -/
theorem Loaded.resolve {experimentKey : ExperimentKey} {accounts : ExperimentAccounts}
    (loaded : Loaded state experimentKey accounts) (status : ExperimentStatus) (errorCode : Nat)
    : SameBreeds state.profiles
        (resolveExperiment env experimentKey accounts status errorCode state).profiles
      ∧ SameUses state.flowers
        (resolveExperiment env experimentKey accounts status errorCode state).flowers := by
  constructor
  · refine SameBreeds.insert (.refl _) loaded.profile ?_ ?_ <;> rfl
  · refine SameUses.insert (SameUses.insert (.refl _) loaded.flowerA ?_) loaded.flowerB ?_ <;> rfl

/-- Removing a flower gives its owner no attempt back. -/
theorem sameBudgets_remove {flowerKey : FlowerKey} {wallet : Pubkey} {profile : PlayerProfile}
    (player : state.profiles.lookup wallet = some profile)
    : SameBreeds state.profiles (removeFlower flowerKey wallet profile state).profiles
      ∧ SameUses state.flowers (removeFlower flowerKey wallet profile state).flowers := by
  constructor
  · refine SameBreeds.insert (.refl _) player ?_ ?_ <;> rfl
  · exact (SameUses.refl _).erase flowerKey

--------------------------------------------------------------------------------
-- What an instruction does to them
--------------------------------------------------------------------------------

/-- The instructions that count an attempt or create flowers. -/
def GardenInstruction.spends : GardenInstruction → Bool
  | .claimStarters => true
  | .startBreeding _ _ _ _ _ => true
  | _ => false

/-- What became of the counters. -/
inductive BudgetChange (submission : GardenSubmission) (state after : ProgramState) : Prop
  | kept (breeds : SameBreeds state.profiles after.profiles)
    (uses : SameUses state.flowers after.flowers)
    (idle : submission.instruction.spends = false)
  | claimed (asked : submission.instruction = .claimStarters)
    (breeds : SameBreeds state.profiles after.profiles)
    (unused : ∀ index < starterCount, state.flowers.lookup ⟨submission.signer, index⟩ = none)
    (flowers : after.flowers = plantStarters submission.signer submission.now state.flowers)
  | bred {flowerA flowerB : FlowerKey} {syncA syncB : SyncAccounts} {computationOffset : Nat}
    (asked : submission.instruction
      = .startBreeding flowerA flowerB syncA syncB computationOffset)
    (bred : Bred (state.env submission) state flowerA flowerB syncA syncB computationOffset after)

/-- Every accepted instruction is one of these changes, by cases on the instruction. -/
theorem gardenStep_budgetChange (success : gardenStep state submission = .ok after)
    : BudgetChange submission state after := by
  obtain ⟨signer, slot, now, instruction⟩ := submission
  cases instruction with
  | createProfile =>
      obtain ⟨unused, rfl⟩ := createProfile_success success
      refine .kept (fun wallet => ?_) (.refl _) rfl
      rw [breedsOf_insert]
      split
      · next here =>
          rw [here, breedsOf, unused]
          rfl
      · rfl
  | claimStarters =>
      obtain ⟨profile, player, _, unused, rfl⟩ := claimStarters_success success
      refine .claimed rfl (SameBreeds.insert (.refl _) player ?_ ?_) unused rfl <;> rfl
  | startBreeding flowerA flowerB syncA syncB computationOffset =>
      exact .bred rfl (startBreeding_success success)
  | breedV5Callback experimentKey output =>
      obtain ⟨accounts, loaded, delivered⟩ := breedV5Callback_success success
      cases delivered with
      | ignored => exact .kept (.refl _) (.refl _) rfl
      | completed pending found =>
          obtain ⟨breeds, uses⟩ := loaded.resolve .completed accounts.experiment.errorCode
          refine .kept breeds (SameUses.insert uses found ?_) rfl
          rfl
      | failed pending =>
          obtain ⟨breeds, uses⟩ := loaded.resolve .failed breedErrorAborted
          exact .kept breeds uses rfl
  | cancelExpiredExperiment experimentKey =>
      obtain ⟨accounts, loaded, _, rfl⟩ := cancelExpiredExperiment_success success
      obtain ⟨breeds, uses⟩ := loaded.resolve .expired accounts.experiment.errorCode
      exact .kept breeds uses rfl
  | reclaimDeadOffspring experimentKey offspringKey ownerRecipient =>
      obtain ⟨_, _, _, _, _, _, _, player, rfl⟩ := reclaimDeadOffspring_success success
      obtain ⟨breeds, uses⟩ := sameBudgets_remove player
      exact .kept breeds uses rfl
  | closeFlower flowerKey =>
      obtain ⟨_, _, _, _, _, _, _, player, rfl⟩ := closeFlower_success success
      obtain ⟨breeds, uses⟩ := sameBudgets_remove player
      exact .kept breeds uses rfl
  | submitEntry roundKey entryKey flowerKey playerSgdAta accounts =>
      obtain ⟨profile, record, flower, profiles, player, used, _, _, _, same⟩ :=
        submitEntry_success success
      rw [same]
      refine .kept (SameProgress.insert used.progress player ?_).breeds
        ((SameUses.refl _).insert used.found used.uses) rfl
      rfl
  | releaseFlower roundKey entryKey flowerKey accounts =>
      obtain ⟨record, flower, profiles, used, _, _, same⟩ := releaseFlower_success success
      rw [same]
      exact .kept used.progress.breeds ((SameUses.refl _).insert used.found used.uses) rfl
  | queueScoreEntry roundKey computationOffset entryKey flowerKey =>
      obtain ⟨_, _, _, _, _, rfl⟩ := queueScoreEntry_success success
      exact .kept (.refl _) (.refl _) rfl
  | queuePrivateHint roundKey flowerKey accounts computationOffset hintPubkey hintNonce =>
      obtain ⟨_, record, flower, profiles, _, used, _, _, _, _, rfl⟩ :=
        queuePrivateHint_success success
      exact .kept used.progress.breeds ((SameUses.refl _).insert used.found used.uses) rfl
  | privateHintCallback computationOffset output =>
      rw [privateHintCallback_success success]
      exact .kept (.refl _) (.refl _) rfl
  | setMintingEnabled enabled =>
      obtain ⟨_, _, written⟩ := bind_eq_ok.mp success
      obtain rfl := pure_eq_ok.mp written
      exact .kept (.refl _) (.refl _) rfl
  | mintFlowerNft flowerKey tokenAccount uri =>
      obtain ⟨_, _, _, _, _, _, same⟩ := mintFlowerNft_success success
      rw [same]
      exact .kept (.refl _) (.refl _) rfl
  | burnFlowerNft flowerKey tokenAccount =>
      rw [(burnFlowerNft_success success).frame]
      exact .kept (.refl _) (.refl _) rfl
  | thawFlowerNft flowerKey accounts =>
      obtain ⟨record, flower, profiles, used, _, _, same⟩ := thawFlowerNft_success success
      rw [same]
      exact .kept used.progress.breeds ((SameUses.refl _).insert used.found used.uses) rfl
  | token event =>
      rw [(tokensOnly_of_event success).frame]
      exact .kept (.refl _) (.refl _) rfl
  | season instruction =>
      simp only [gardenStep, bind_eq_ok, require_eq_ok, exists_const, pure_eq_ok] at success
      obtain ⟨_, deployment, _, rfl⟩ := success
      exact .kept (.refl _) (.refl _) rfl

/-- The round that is current stays, or the next one is opened. -/
theorem currentRound_step (success : gardenStep state submission = .ok after)
    : after.config.currentRound = state.config.currentRound
      ∨ after.config.currentRound = state.config.currentRound + 1 := by
  rcases gardenStep_season success with same | ⟨played, moved⟩
  · exact .inl (by rw [same])
  · cases seasonStep_change moved with
    | configured _ current => exact .inl current
    | opened _ _ _ current => exact .inr current
    | played _ _ _ _ current => exact .inl current

/-- An accepted breeding counts one attempt of the player, and of nobody else. -/
theorem Bred.attempts {flowerA flowerB : FlowerKey} {syncA syncB : SyncAccounts}
    {computationOffset : Nat}
    (bred : Bred env state flowerA flowerB syncA syncB computationOffset after)
    : ∃ profile,
        state.profiles.lookup env.signer = some profile
        ∧ (attemptedProfile (env.config.currentRound % u32Modulus) profile).breedsThisRound
          ≤ maxBreedsPerRound
        ∧ ∀ wallet, breedsOf after.profiles wallet
          = if wallet = env.signer then
              ((attemptedProfile (env.config.currentRound % u32Modulus) profile).breedsThisRound,
                env.config.currentRound % u32Modulus)
            else breedsOf state.profiles wallet := by
  cases bred with
  | @queued profile _ _ _ _ _ _ _ _ _ player _ _ _ _ _ _ _ syncedA syncedB _ _ budget =>
      refine ⟨profile, player, budget, fun wallet => ?_⟩
      rw [breedsOf_insert, (SameProgress.of_sync syncedA syncedB).breeds wallet]
      rfl

/-- An accepted breeding uses both parents once more, which had uses left, and creates the
offspring without any.
-/
theorem Bred.uses {flowerA flowerB : FlowerKey} {syncA syncB : SyncAccounts}
    {computationOffset : Nat}
    (bred : Bred env state flowerA flowerB syncA syncB computationOffset after)
    : ∃ profile,
        state.profiles.lookup env.signer = some profile
        ∧ usesOf state.flowers ⟨env.signer, profile.nextFlowerIndex⟩ = none
        ∧ (∀ key, key = flowerA ∨ key = flowerB
            → ∃ uses, usesOf state.flowers key = some uses ∧ uses < maxBreedsAsParent)
        ∧ ∀ key, usesOf after.flowers key
          = if key = ⟨env.signer, profile.nextFlowerIndex⟩ then some 0
            else if key = flowerA ∨ key = flowerB then (usesOf state.flowers key).map (· + 1)
            else usesOf state.flowers key := by
  cases bred with
  | @queued profile recordA recordB parentA parentB _ _ _ _ _ player _ foundA _ foundB _ _ unused
      syncedA syncedB _ _ _ _ usesA usesB =>
      have presentA : usesOf state.flowers flowerA = some parentA.timesBredAsParent := by
        rw [usesOf, foundA, Option.map_some, syncedA.uses]
      have presentB : usesOf state.flowers flowerB = some parentB.timesBredAsParent := by
        rw [usesOf, foundB, Option.map_some, syncedB.uses]
      have counted {parent : FlowerRecord} (left : parent.timesBredAsParent < maxBreedsAsParent)
          : (lockedParent parent).timesBredAsParent = parent.timesBredAsParent + 1 := by
        simp only [lockedParent, u8Max, maxBreedsAsParent] at left ⊢
        omega
      refine ⟨profile, player, by rw [usesOf, unused, Option.map_none], ?_, fun key => ?_⟩
      · rintro key (rfl | rfl)
        · exact ⟨_, presentA, usesA⟩
        · exact ⟨_, presentB, usesB⟩
      · rw [usesOf_insert, usesOf_insert, usesOf_insert, counted usesA, counted usesB]
        split
        · rfl
        · by_cases second : key = flowerB
          · rw [if_pos second, if_pos (.inr second), second, presentB, Option.map_some]
          · rw [if_neg second]
            by_cases first : key = flowerA
            · rw [if_pos first, if_pos (.inl first), first, presentA, Option.map_some]
            · rw [if_neg first, if_neg (not_or.mpr ⟨first, second⟩)]

--------------------------------------------------------------------------------
-- The history of breedings
--------------------------------------------------------------------------------

structure BreedingJournal where
  /-- Accepted breedings by wallet and by the round that was current. -/
  started : Pubkey → RoundKey → Nat
  /-- Accepted breedings that used a flower as a parent since it was created; nothing for a
  flower that was there before the history starts.
  -/
  parented : FlowerKey → Option Nat

def BreedingJournal.blank : BreedingJournal := ⟨fun _ _ => 0, fun _ => none⟩

/-- One more breeding of a wallet in a round. -/
def noteStarted (wallet : Pubkey) (roundId : RoundKey) (started : Pubkey → RoundKey → Nat)
    : Pubkey → RoundKey → Nat :=
  fun other otherId =>
    if other = wallet ∧ otherId = roundId then started other otherId + 1
    else started other otherId

/-- The starters of a wallet are new. -/
def noteStarters (owner : Pubkey) (parented : FlowerKey → Option Nat) : FlowerKey → Option Nat :=
  fun key =>
    if ∃ index < starterCount, key = ⟨owner, index⟩ then some 0 else parented key

/-- The offspring is new, and both parents were used once more. -/
def noteParents (flowerA flowerB : FlowerKey) (offspring : Option FlowerKey)
    (parented : FlowerKey → Option Nat) : FlowerKey → Option Nat :=
  fun key =>
    if offspring = some key then some 0
    else if key = flowerA ∨ key = flowerB then (parented key).map (· + 1)
    else parented key

def noteBreeding (state : UpgradingProgram) (action : UpgradingAction)
    (journal : BreedingJournal) : BreedingJournal :=
  match action with
  | .transaction submission =>
      match submission.instruction with
      | .claimStarters =>
          { journal with parented := noteStarters submission.signer journal.parented }
      | .startBreeding flowerA flowerB _ _ _ =>
          { started :=
              noteStarted submission.signer state.program.config.currentRound journal.started
            parented :=
              noteParents flowerA flowerB
                ((state.program.profiles.lookup submission.signer).map fun profile =>
                  ⟨submission.signer, profile.nextFlowerIndex⟩)
                journal.parented }
      | _ => journal
  | _ => journal

/-- The program while accounts are migrated, with the history of breedings. -/
def budgeted
    : Journaled UpgradingProgram BreedingJournal → UpgradingAction
      → Outcome (Journaled UpgradingProgram BreedingJournal) :=
  journaled upgradingStep noteBreeding

--------------------------------------------------------------------------------
-- The budget of a wallet
--------------------------------------------------------------------------------

/-- No wallet has started more breedings in a round than it may. In the round that is current
the profile counts them; later rounds have none yet.
-/
structure AttemptsSpent (profiles : Store Pubkey PlayerProfile) (currentRound : RoundKey)
    (started : Pubkey → RoundKey → Nat) : Prop where
  within : ∀ wallet roundId, started wallet roundId ≤ maxBreedsPerRound
  upcoming : ∀ wallet roundId, currentRound < roundId → started wallet roundId = 0
  counted
    : ∀ wallet,
        started wallet currentRound ≠ 0
        → (breedsOf profiles wallet).2 = currentRound
          ∧ started wallet currentRound ≤ (breedsOf profiles wallet).1

variable {profiles later : Store Pubkey PlayerProfile} {currentRound : RoundKey}
  {started : Pubkey → RoundKey → Nat}

theorem AttemptsSpent.blank : AttemptsSpent profiles currentRound fun _ _ => 0 :=
  ⟨fun _ _ => Nat.zero_le _, fun _ _ _ => rfl, fun _ some => absurd rfl some⟩

theorem AttemptsSpent.of_same (spent : AttemptsSpent profiles currentRound started)
    (same : SameBreeds profiles later) : AttemptsSpent later currentRound started := by
  refine ⟨spent.within, spent.upcoming, fun wallet some => ?_⟩
  rw [same wallet]
  exact spent.counted wallet some

/-- The next round starts without breedings. -/
theorem AttemptsSpent.next (spent : AttemptsSpent profiles currentRound started)
    : AttemptsSpent profiles (currentRound + 1) started := by
  refine ⟨spent.within, fun wallet roundId reached => ?_, fun wallet some => ?_⟩
  · exact spent.upcoming wallet roundId (Nat.lt_of_succ_lt reached)
  · exact absurd (spent.upcoming wallet _ (Nat.lt_succ_self _)) some

/-- An accepted breeding spends one attempt of the player, counted for the running round. -/
theorem AttemptsSpent.breed
    (spent : AttemptsSpent state.profiles env.config.currentRound started)
    (fits : env.config.currentRound < u32Modulus) {flowerA flowerB : FlowerKey}
    {syncA syncB : SyncAccounts} {computationOffset : Nat}
    (bred : Bred env state flowerA flowerB syncA syncB computationOffset after)
    : AttemptsSpent after.profiles env.config.currentRound
        (noteStarted env.signer env.config.currentRound started) := by
  obtain ⟨profile, player, budget, breeds⟩ := bred.attempts
  rw [Nat.mod_eq_of_lt fits] at budget breeds
  have covered
      : started env.signer env.config.currentRound + 1
        ≤ (attemptedProfile env.config.currentRound profile).breedsThisRound := by
    rcases Nat.eq_zero_or_pos (started env.signer env.config.currentRound) with none | some
    · simp only [attemptedProfile]
      split <;> omega
    · obtain ⟨round, attempts⟩ := spent.counted env.signer (Nat.pos_iff_ne_zero.mp some)
      rw [breedsOf_of_found player] at round attempts
      have running : ¬ profile.lastBreedRound ≠ env.config.currentRound := not_not.mpr round
      simp only [attemptedProfile, if_neg running]
      exact Nat.succ_le_succ attempts
  refine ⟨fun wallet roundId => ?_, fun wallet roundId reached => ?_, fun wallet some => ?_⟩
  · unfold noteStarted
    split
    · next here =>
        obtain ⟨rfl, rfl⟩ := here
        exact covered.trans budget
    · exact spent.within wallet roundId
  · rw [noteStarted, if_neg fun here => absurd here.2 reached.ne']
    exact spent.upcoming wallet roundId reached
  · rw [breeds wallet]
    by_cases here : wallet = env.signer
    · subst here
      rw [if_pos rfl, noteStarted, if_pos ⟨rfl, rfl⟩]
      exact ⟨rfl, covered⟩
    · rw [noteStarted, if_neg fun both => here both.1] at some
      rw [if_neg here, noteStarted, if_neg fun both => here both.1]
      exact spent.counted wallet some

--------------------------------------------------------------------------------
-- The budget of a flower
--------------------------------------------------------------------------------

/-- Every flower that was created in the history counts the breedings it was a parent of; the
others were there at its start.
-/
structure UsesSpent (start flowers : Store FlowerKey FlowerRecord)
    (parented : FlowerKey → Option Nat) : Prop where
  counted
    : ∀ {key uses count},
        usesOf flowers key = some uses
        → parented key = some count
        → uses = count ∧ count ≤ maxBreedsAsParent
  known
    : ∀ {key},
        (usesOf flowers key).isSome
        → parented key = none
        → (start.lookup key).isSome

variable {start flowers laterFlowers : Store FlowerKey FlowerRecord}
  {parented : FlowerKey → Option Nat}

theorem UsesSpent.blank : UsesSpent start start fun _ => none := by
  refine ⟨nofun, fun present _ => ?_⟩
  rwa [usesOf, Option.isSome_map] at present

theorem UsesSpent.of_same (spent : UsesSpent start flowers parented)
    (same : SameUses flowers laterFlowers) : UsesSpent start laterFlowers parented := by
  constructor
  · intro key uses count present noted
    rcases same key with gone | kept
    · rw [gone] at present
      cases present
    · exact spent.counted (kept ▸ present) noted
  · intro key present unnoted
    rcases same key with gone | kept
    · rw [gone] at present
      cases present
    · exact spent.known (kept ▸ present) unnoted

/-- Starters have not been parents. -/
theorem UsesSpent.plant (spent : UsesSpent start flowers parented) {owner : Pubkey}
    {createdAt : Int} (unused : ∀ index < starterCount, flowers.lookup ⟨owner, index⟩ = none)
    : UsesSpent start (plantStarters owner createdAt flowers) (noteStarters owner parented) := by
  have elsewhere {key : FlowerKey} (other : ¬ ∃ index < starterCount, key = ⟨owner, index⟩)
      : usesOf (plantStarters owner createdAt flowers) key = usesOf flowers key := by
    rw [usesOf, lookup_plantStarters_of_ne, usesOf]
    exact fun index inside same => other ⟨index, inside, same⟩
  constructor
  · intro key uses count present noted
    unfold noteStarters at noted
    split at noted
    · next planted =>
        cases noted
        obtain ⟨flower, found, rfl⟩ := Option.map_eq_some_iff.mp present
        rcases plantStarters_origin found with before | ⟨_, _, rfl⟩
        · obtain ⟨index, inside, rfl⟩ := planted
          cases (unused index inside).symm.trans before
        · exact ⟨rfl, Nat.zero_le _⟩
    · next other => exact spent.counted (elsewhere other ▸ present) noted
  · intro key present unnoted
    unfold noteStarters at unnoted
    split at unnoted
    · cases unnoted
    · next other => exact spent.known (elsewhere other ▸ present) unnoted

/-- An accepted breeding uses both parents once more and creates the offspring. -/
theorem UsesSpent.breed (spent : UsesSpent start state.flowers parented)
    {flowerA flowerB : FlowerKey} {syncA syncB : SyncAccounts} {computationOffset : Nat}
    (bred : Bred env state flowerA flowerB syncA syncB computationOffset after)
    : UsesSpent start after.flowers
        (noteParents flowerA flowerB
          ((state.profiles.lookup env.signer).map fun profile =>
            ⟨env.signer, profile.nextFlowerIndex⟩)
          parented) := by
  obtain ⟨profile, player, _, left, uses⟩ := bred.uses
  rw [player, Option.map_some]
  constructor
  · intro key now count present noted
    rw [uses key] at present
    unfold noteParents at noted
    by_cases offspring : key = ⟨env.signer, profile.nextFlowerIndex⟩
    · rw [if_pos offspring] at present
      rw [if_pos (congrArg some offspring.symm)] at noted
      cases present
      cases noted
      exact ⟨rfl, Nat.zero_le _⟩
    · rw [if_neg offspring] at present
      rw [if_neg fun same => offspring (Option.some.inj same).symm] at noted
      by_cases parent : key = flowerA ∨ key = flowerB
      · rw [if_pos parent] at present noted
        obtain ⟨before, found, below⟩ := left key parent
        obtain ⟨earlier, counted, rfl⟩ := Option.map_eq_some_iff.mp noted
        rw [found] at present
        cases present
        obtain ⟨rfl, _⟩ := spent.counted found counted
        exact ⟨rfl, below⟩
      · rw [if_neg parent] at present noted
        exact spent.counted present noted
  · intro key present unnoted
    rw [uses key] at present
    unfold noteParents at unnoted
    by_cases offspring : key = ⟨env.signer, profile.nextFlowerIndex⟩
    · rw [if_pos (congrArg some offspring.symm)] at unnoted
      cases unnoted
    · rw [if_neg offspring] at present
      rw [if_neg fun same => offspring (Option.some.inj same).symm] at unnoted
      by_cases parent : key = flowerA ∨ key = flowerB
      · rw [if_pos parent, Option.isSome_map] at present
        rw [if_pos parent] at unnoted
        exact spent.known present (Option.map_eq_none_iff.mp unnoted)
      · rw [if_neg parent] at present unnoted
        exact spent.known present unnoted

--------------------------------------------------------------------------------
-- Both budgets over a run
--------------------------------------------------------------------------------

/-- The number of the current round fits the counter's type. -/
def RoundFits (before : Journaled UpgradingProgram BreedingJournal) (_ : UpgradingAction) : Prop :=
  before.system.program.config.currentRound < u32Modulus

instance (before : Journaled UpgradingProgram BreedingJournal) (action : UpgradingAction)
    : Decidable (RoundFits before action) :=
  inferInstanceAs (Decidable (_ < _))

/-- Both budgets are spent as the history says. -/
structure BudgetsSpent (start : UpgradingProgram)
    (state : Journaled UpgradingProgram BreedingJournal) : Prop where
  attempts
    : AttemptsSpent state.system.program.profiles state.system.program.config.currentRound
        state.journal.started
  uses : UsesSpent start.program.flowers state.system.program.flowers state.journal.parented

/-- Whatever is neither a claim nor a breeding is not noted. -/
theorem noteBreeding_of_other {before : UpgradingProgram} {journal : BreedingJournal}
    (idle : submission.instruction.spends = false)
    : noteBreeding before (.transaction submission) journal = journal := by
  obtain ⟨signer, slot, now, instruction⟩ := submission
  cases instruction with
  | claimStarters => cases idle
  | startBreeding => cases idle
  | _ => rfl

/-- Every accepted action keeps the account of both budgets, by cases on what it changed. -/
theorem BudgetsSpent.step {origin : UpgradingProgram}
    {before next : Journaled UpgradingProgram BreedingJournal} {action : UpgradingAction}
    (spent : BudgetsSpent origin before) (fits : RoundFits before action)
    (success : budgeted before action = .ok next) : BudgetsSpent origin next := by
  obtain ⟨accepted, noted⟩ := journaled_eq_ok.mp success
  cases upgradingStep_effect accepted with
  | migrated other same =>
      have unnoted : next.journal = before.journal := by
        rw [noted]
        cases action with
        | transaction submission => exact absurd rfl (other submission)
        | _ => rfl
      exact ⟨by rw [same, unnoted]; exact spent.attempts, by rw [same, unnoted]; exact spent.uses⟩
  | @transacted submission asked moved =>
      subst asked
      have rounds {started : Pubkey → RoundKey → Nat} {profiles : Store Pubkey PlayerProfile}
          (running
            : AttemptsSpent profiles before.system.program.config.currentRound started)
          : AttemptsSpent profiles next.system.program.config.currentRound started := by
        rcases currentRound_step moved with same | opened
        · rwa [same]
        · rw [opened]
          exact running.next
      cases gardenStep_budgetChange moved with
      | kept breeds uses idle =>
          rw [noteBreeding_of_other idle] at noted
          exact ⟨rounds (noted ▸ spent.attempts.of_same breeds), noted ▸ spent.uses.of_same uses⟩
      | claimed asked breeds unused flowers =>
          simp only [noteBreeding, asked] at noted
          refine ⟨rounds ?_, ?_⟩
          · rw [noted]
            exact spent.attempts.of_same breeds
          · rw [noted, flowers]
            exact spent.uses.plant unused
      | bred asked bred =>
          simp only [noteBreeding, asked] at noted
          have fitting : (before.system.program.env submission).config.currentRound < u32Modulus :=
            fits
          refine ⟨rounds ?_, ?_⟩
          · rw [noted]
            exact AttemptsSpent.breed spent.attempts fitting bred
          · rw [noted]
            exact spent.uses.breed bred

/-- Over every run both budgets are spent as the history says, by the steps of the run. -/
theorem budgetsSpent_of_run {start : UpgradingProgram} {history : List UpgradingAction}
    {reached : Journaled UpgradingProgram BreedingJournal}
    (run : Run budgeted RoundFits ⟨start, .blank⟩ history reached)
    : BudgetsSpent start reached :=
  run.invariant ⟨.blank, .blank⟩ fun spent fits success => spent.step fits success

/-- No attempt is given back within a round, and no use of a flower. -/
structure NothingRefunded (before after : ProgramState) : Prop where
  attempts
    : ∀ wallet,
        (breedsOf after.profiles wallet).2 = (breedsOf before.profiles wallet).2
        → (breedsOf before.profiles wallet).1 ≤ (breedsOf after.profiles wallet).1
  uses
    : ∀ {key earlier later},
        usesOf before.flowers key = some earlier
        → usesOf after.flowers key = some later
        → earlier ≤ later

theorem NothingRefunded.refl (state : ProgramState) : NothingRefunded state state := by
  refine ⟨fun _ _ => le_rfl, fun before after => ?_⟩
  cases before.symm.trans after
  exact le_rfl

/-- Every accepted instruction only spends, by cases on what it changed. -/
theorem gardenStep_refunds_nothing (success : gardenStep state submission = .ok after)
    : NothingRefunded state after := by
  cases gardenStep_budgetChange success with
  | kept breeds uses =>
      refine ⟨fun wallet _ => (congrArg Prod.fst (breeds wallet)).ge, ?_⟩
      intro key earlier later before now
      rcases uses key with gone | kept
      · cases gone.symm.trans now
      · cases (kept.trans before).symm.trans now
        exact le_rfl
  | claimed _ breeds unused flowers =>
      refine ⟨fun wallet _ => (congrArg Prod.fst (breeds wallet)).ge, ?_⟩
      intro key earlier later before now
      obtain ⟨record, found, rfl⟩ := Option.map_eq_some_iff.mp before
      rw [flowers, usesOf, lookup_plantStarters unused found] at now
      cases now
      exact le_rfl
  | bred _ bred =>
      constructor
      · obtain ⟨profile, player, _, breeds⟩ := bred.attempts
        intro wallet sameRound
        rw [breeds wallet] at sameRound ⊢
        split at sameRound
        · next here =>
            rw [here, breedsOf_of_found player] at sameRound ⊢
            have running
                : ¬ profile.lastBreedRound
                  ≠ (state.env submission).config.currentRound % u32Modulus :=
              not_not.mpr sameRound.symm
            simp only [if_pos, attemptedProfile, if_neg running]
            exact Nat.le_succ _
        · next other => rw [if_neg other]
      · obtain ⟨profile, _, unused, _, uses⟩ := bred.uses
        intro key earlier later before now
        rw [uses key] at now
        by_cases offspring : key = ⟨(state.env submission).signer, profile.nextFlowerIndex⟩
        · rw [offspring, unused] at before
          cases before
        · rw [if_neg offspring, before] at now
          split at now
          · cases now
            exact Nat.le_succ _
          · cases now
            exact le_rfl

/-- Whatever is submitted, nothing is refunded. -/
theorem upgradingStep_refunds_nothing (state : UpgradingProgram) (action : UpgradingAction)
    : NothingRefunded state.program (processed upgradingStep state action).program := by
  rcases processed_cases upgradingStep state action with success | unchanged
  · cases upgradingStep_effect success with
    | transacted _ moved => exact gardenStep_refunds_nothing moved
    | migrated _ same =>
        rw [same]
        exact .refl _
  · rw [unchanged]
    exact .refl _

/-- Over every run no wallet starts more breedings while a round is current than it may, and
every flower created in it counts the breedings that used it as a parent, at most as many as it
may. What is submitted next refunds neither, and changes nothing if it is rejected.
-/
theorem breeding_budgets {start : UpgradingProgram} {history : List UpgradingAction}
    {reached : Journaled UpgradingProgram BreedingJournal}
    (run : Run budgeted RoundFits ⟨start, .blank⟩ history reached)
    : (∀ wallet roundId, reached.journal.started wallet roundId ≤ maxBreedsPerRound)
      ∧ (∀ key flower,
          reached.system.program.flowers.lookup key = some flower
          → (∃ count,
              reached.journal.parented key = some count
              ∧ flower.timesBredAsParent = count
              ∧ count ≤ maxBreedsAsParent)
            ∨ reached.journal.parented key = none
              ∧ (start.program.flowers.lookup key).isSome)
      ∧ (∀ action,
          NothingRefunded reached.system.program
            (processed upgradingStep reached.system action).program)
      ∧ ∀ action failure,
          upgradingStep reached.system action = .error failure
          → processed upgradingStep reached.system action = reached.system := by
  have spent := budgetsSpent_of_run run
  refine ⟨spent.attempts.within, fun key flower found => ?_,
    upgradingStep_refunds_nothing reached.system, fun _ _ => processed_of_error⟩
  have present : usesOf reached.system.program.flowers key = some flower.timesBredAsParent := by
    rw [usesOf, found, Option.map_some]
  cases noted : reached.journal.parented key with
  | none => exact .inr ⟨rfl, spent.uses.known (Option.isSome_of_eq_some present) noted⟩
  | some count =>
      obtain ⟨same, within⟩ := spent.uses.counted present noted
      exact .inl ⟨count, rfl, same, within⟩

/-- The program as deployed, but wallet 103 has a profile and a flower of earlier layouts. -/
def earlierProgram : UpgradingProgram :=
  { program :=
      { sampleProgram with
        profiles := (∅ : Store Pubkey PlayerProfile).insert 103
          (newProfile { authorityEnv with signer := 103 })
        flowers := (∅ : Store FlowerKey FlowerRecord).insert ⟨103, 0⟩
          (populateFlower 103 ⟨0, by decide⟩ 1) }
    earlierProfiles := [103]
    earlierFlowers := [⟨103, 0⟩] }

/-- Wallet 101 breeds and sells; the accounts of wallet 103 are migrated meanwhile. -/
def upgradeScript : List UpgradingAction :=
  soldScript.map .transaction
    ++ [.migrateProfile 103, .operatorMigrateFlower 7 103 0, .transaction buyerClaims]

/-- The breeding is counted for its wallet and for its parents; the migrated flower has no
history.
-/
theorem upgradeScript_budgets
    : ∃ reached,
        Run budgeted RoundFits ⟨earlierProgram, .blank⟩ upgradeScript reached
        ∧ reached.journal.started 101 1 = 1
        ∧ reached.journal.parented ⟨101, 0⟩ = some 1
        ∧ reached.journal.parented ⟨103, 0⟩ = none
        ∧ ∀ wallet roundId, reached.journal.started wallet roundId ≤ maxBreedsPerRound := by
  have replayed : (replay budgeted RoundFits ⟨earlierProgram, .blank⟩ upgradeScript).any
      fun reached =>
        reached.journal.started 101 1 == 1
          && reached.journal.parented ⟨101, 0⟩ == some 1
          && reached.journal.parented ⟨103, 0⟩ == none := by
    decide +kernel
  obtain ⟨reached, run, checked⟩ := Run.of_replay_any replayed
  simp only [Bool.and_eq_true, beq_iff_eq] at checked
  obtain ⟨⟨started, parented⟩, unknown⟩ := checked
  exact ⟨reached, run, started, parented, unknown, (breeding_budgets run).1⟩

end SecretGarden.Garden
