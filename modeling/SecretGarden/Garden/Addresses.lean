import SecretGarden.Garden.Departures

/-! The addresses of flowers. Starters take the first six of their wallet's, offspring the one the
wallet's running counter names; the two never meet as long as every wallet claims its starters
before it breeds.
-/

namespace SecretGarden.Garden

open Foundation SecretGarden.Bracket SecretGarden.Settlement SecretGarden.Season

variable {flowers : Store FlowerKey FlowerRecord} {profiles : Store Pubkey PlayerProfile}
  {env : Env} {state after : ProgramState}

/-- A wallet breeds only once it has claimed its starters. -/
def ClaimsFirst (state : ProgramState) (submission : GardenSubmission) : Prop :=
  match submission.instruction with
  | .startBreeding _ _ _ _ _ =>
      (state.profiles.lookup submission.signer).any PlayerProfile.starterClaimed
  | _ => True

instance (state : ProgramState) (submission : GardenSubmission)
    : Decidable (ClaimsFirst state submission) := by
  unfold ClaimsFirst
  generalize submission.instruction = instruction
  rcases instruction <;> infer_instance

/-- No flower lives where a wallet's next one will be created. -/
structure FreshAddresses (flowers : Store FlowerKey FlowerRecord)
    (profiles : Store Pubkey PlayerProfile) : Prop where
  upcoming : ∀ {wallet profile},
    profiles.lookup wallet = some profile
    → ∀ index, profile.nextFlowerIndex ≤ index → flowers.lookup ⟨wallet, index⟩ = none
  unclaimed : ∀ {wallet profile},
    profiles.lookup wallet = some profile
    → profile.starterClaimed = false
    → profile.nextFlowerIndex = 0
  unknown : ∀ {wallet},
    profiles.lookup wallet = none → ∀ index, flowers.lookup ⟨wallet, index⟩ = none

theorem FreshAddresses.empty : FreshAddresses ∅ ∅ where
  upcoming found := by cases found
  unclaimed found := by cases found
  unknown _ _ := rfl

/-- Counters of ownership and entries may change. -/
theorem FreshAddresses.of_progress (addresses : FreshAddresses flowers profiles)
    {written : Store Pubkey PlayerProfile} (same : SameProgress profiles written)
    : FreshAddresses flowers written where
  upcoming found index beyond := by
    obtain ⟨old, present, kept⟩ := same.before found
    exact addresses.upcoming present index (kept.next ▸ beyond)
  unclaimed found open_ := by
    obtain ⟨old, present, kept⟩ := same.before found
    exact kept.next.trans (addresses.unclaimed present (kept.claimed.symm.trans open_))
  unknown {wallet} absent := by
    have before := same.isSome wallet
    rw [absent, Option.isSome_none, eq_comm, Option.isSome_eq_false_iff,
      Option.isNone_iff_eq_none] at before
    exact addresses.unknown before

/-- A profile is written that names the same next address. -/
theorem FreshAddresses.profile (addresses : FreshAddresses flowers profiles) {wallet : Pubkey}
    {profile written : PlayerProfile} (player : profiles.lookup wallet = some profile)
    (claimed : written.starterClaimed = profile.starterClaimed)
    (next : written.nextFlowerIndex = profile.nextFlowerIndex)
    : FreshAddresses flowers (profiles.insert wallet written) where
  upcoming found index beyond := by
    rcases Store.lookup_insert_eq_some.mp found with ⟨here, rfl⟩ | ⟨_, found⟩
    · subst here
      exact addresses.upcoming player index (next ▸ beyond)
    · exact addresses.upcoming found index beyond
  unclaimed found open_ := by
    rcases Store.lookup_insert_eq_some.mp found with ⟨_, rfl⟩ | ⟨_, found⟩
    · exact next.trans (addresses.unclaimed player (claimed.symm.trans open_))
    · exact addresses.unclaimed found open_
  unknown absent := by
    obtain ⟨_, absent⟩ := Store.lookup_insert_eq_none.mp absent
    exact addresses.unknown absent

/-- No flower is created. -/
theorem FreshAddresses.of_flowers (addresses : FreshAddresses flowers profiles)
    {written : Store FlowerKey FlowerRecord}
    (absent : ∀ flowerKey, flowers.lookup flowerKey = none → written.lookup flowerKey = none)
    : FreshAddresses written profiles where
  upcoming found index beyond := absent _ (addresses.upcoming found index beyond)
  unclaimed := addresses.unclaimed
  unknown unused index := absent _ (addresses.unknown unused index)

/-- Writing a flower that exists creates none. -/
theorem lookup_insert_of_absent {flowerKey other : FlowerKey} {record flower : FlowerRecord}
    (found : flowers.lookup flowerKey = some record) (absent : flowers.lookup other = none)
    : (flowers.insert flowerKey flower).lookup other = none := by
  rw [Store.lookup_insert_apply, if_neg]
  · exact absent
  · rintro rfl
    rw [absent] at found
    cases found

/-- The wallet's counter moves over the addresses in use. -/
theorem FreshAddresses.advance (addresses : FreshAddresses flowers profiles) {wallet : Pubkey}
    {profile written : PlayerProfile} {created : Store FlowerKey FlowerRecord}
    (player : profiles.lookup wallet = some profile) (claimed : written.starterClaimed)
    (further : profile.nextFlowerIndex ≤ written.nextFlowerIndex)
    (origin
      : ∀ flowerKey,
          flowers.lookup flowerKey = none
          → (flowerKey.wallet = wallet → written.nextFlowerIndex ≤ flowerKey.index)
          → created.lookup flowerKey = none)
    : FreshAddresses created (profiles.insert wallet written) where
  upcoming {other counter} found index beyond := by
    rcases Store.lookup_insert_eq_some.mp found with ⟨here, rfl⟩ | ⟨elsewhere, found⟩
    · subst here
      exact origin _ (addresses.upcoming player index (further.trans beyond)) fun _ => beyond
    · exact origin _ (addresses.upcoming found index beyond) fun here => absurd here elsewhere
  unclaimed found open_ := by
    rcases Store.lookup_insert_eq_some.mp found with ⟨_, rfl⟩ | ⟨_, found⟩
    · rw [claimed] at open_
      cases open_
    · exact addresses.unclaimed found open_
  unknown {other} absent index := by
    obtain ⟨elsewhere, absent⟩ := Store.lookup_insert_eq_none.mp absent
    exact origin _ (addresses.unknown absent index) fun here => absurd here elsewhere

--------------------------------------------------------------------------------
-- Instructions
--------------------------------------------------------------------------------

/-- A new profile starts at the first address. -/
theorem FreshAddresses.create (addresses : FreshAddresses flowers profiles)
    {wallet : Pubkey} {written : PlayerProfile} (unused : profiles.lookup wallet = none)
    (first : written.nextFlowerIndex = 0)
    : FreshAddresses flowers (profiles.insert wallet written) where
  upcoming found index _ := by
    rcases Store.lookup_insert_eq_some.mp found with ⟨here, _⟩ | ⟨_, found⟩
    · subst here
      exact addresses.unknown unused index
    · exact addresses.upcoming found index ‹_›
  unclaimed found open_ := by
    rcases Store.lookup_insert_eq_some.mp found with ⟨_, rfl⟩ | ⟨_, found⟩
    · exact first
    · exact addresses.unclaimed found open_
  unknown absent := by
    obtain ⟨_, absent⟩ := Store.lookup_insert_eq_none.mp absent
    exact addresses.unknown absent

/-- Starters take the addresses below the counter they set. -/
theorem FreshAddresses.claim (addresses : FreshAddresses flowers profiles) {owner : Pubkey}
    {createdAt : Int} {profile : PlayerProfile} (player : profiles.lookup owner = some profile)
    (unclaimed : profile.starterClaimed = false)
    : FreshAddresses (plantStarters owner createdAt flowers)
        (profiles.insert owner (claimedProfile profile)) := by
  refine addresses.advance player rfl ?_ fun flowerKey absent beyond => ?_
  · rw [addresses.unclaimed player unclaimed]
    exact Nat.zero_le _
  · rw [lookup_plantStarters_of_ne]
    · exact absent
    · rintro index inside rfl
      exact absurd (beyond rfl) (Nat.not_le_of_lt inside)

/-- An offspring takes the address its breeder's counter names. -/
theorem FreshAddresses.breed (addresses : FreshAddresses state.flowers state.profiles)
    {flowerA flowerB : FlowerKey} {syncA syncB : SyncAccounts} {computationOffset : Nat}
    (claimed : (state.profiles.lookup env.signer).any PlayerProfile.starterClaimed)
    (bred : Bred env state flowerA flowerB syncA syncB computationOffset after)
    : FreshAddresses after.flowers after.profiles := by
  cases bred with
  | @queued profile recordA recordB parentA parentB profilesA profilesB generation tokensA tokens
      player apart foundA activeA foundB activeB unstarted unused syncedA syncedB =>
      have progress := SameProgress.of_sync syncedA syncedB
      obtain ⟨raised, present, kept⟩ := progress.symm.before player
      rw [player, Option.any_some] at claimed
      refine (addresses.of_progress progress).advance present claimed
        (kept.next.symm.trans_le (Nat.le_succ _)) fun flowerKey absent beyond => ?_
      rw [Store.lookup_insert_apply, if_neg]
      · exact lookup_insert_of_absent ((AList.lookup_insert_ne apart.symm).trans foundB)
          (lookup_insert_of_absent foundA absent)
      · rintro rfl
        exact absurd (beyond rfl) (Nat.not_succ_le_self _)

/-- Ending an experiment creates no flower. -/
theorem FreshAddresses.resolve (addresses : FreshAddresses state.flowers state.profiles)
    {experimentKey : ExperimentKey} {accounts : ExperimentAccounts} (env : Env)
    (status : ExperimentStatus) (errorCode : Nat) (loaded : Loaded state experimentKey accounts)
    : FreshAddresses
        (resolveExperiment env experimentKey accounts status errorCode state).flowers
        (resolveExperiment env experimentKey accounts status errorCode state).profiles := by
  refine (addresses.of_flowers fun flowerKey absent => ?_).profile loaded.profile rfl rfl
  exact lookup_insert_of_absent ((AList.lookup_insert_ne loaded.apart.symm).trans loaded.flowerB)
    (lookup_insert_of_absent loaded.flowerA absent)

/-- A removed flower creates none. -/
theorem FreshAddresses.remove (addresses : FreshAddresses state.flowers state.profiles)
    {flowerKey : FlowerKey} {wallet : Pubkey} {profile : PlayerProfile}
    (player : state.profiles.lookup wallet = some profile)
    : FreshAddresses (removeFlower flowerKey wallet profile state).flowers
        (removeFlower flowerKey wallet profile state).profiles := by
  refine (addresses.of_flowers fun other absent => ?_).profile player rfl rfl
  refine (Store.lookup_erase_apply _ _ _).trans ?_
  split
  · rfl
  · exact absent

/-- Every accepted instruction under the condition keeps the addresses fresh, by cases on what it
changes.
-/
theorem FreshAddresses.step (addresses : FreshAddresses state.flowers state.profiles)
    {submission : GardenSubmission} (claimsFirst : ClaimsFirst state submission)
    (change : Change submission state after)
    : FreshAddresses after.flowers after.profiles := by
  cases change with
  | kept profiles flowers _ =>
      rw [profiles, flowers]
      exact addresses
  | created unused profiles flowers _ =>
      rw [profiles, flowers]
      exact addresses.create unused rfl
  | claimed player unclaimed unused profiles flowers _ =>
      rw [profiles, flowers]
      exact addresses.claim player unclaimed
  | bred asked bred =>
      rw [ClaimsFirst, asked] at claimsFirst
      exact addresses.breed claimsFirst bred
  | completed loaded queued found notA notB done =>
      subst done
      have resolved := addresses.resolve (state.env submission) .completed 0 loaded
      exact resolved.of_flowers fun flowerKey absent =>
        lookup_insert_of_absent (lookup_resolveExperiment notA notB found) absent
  | abandoned loaded queued dead done =>
      subst done
      exact addresses.resolve _ _ _ loaded
  | reclaimed present dead found source player done =>
      subst done
      exact addresses.remove player
  | closed found active unminted player done =>
      subst done
      exact addresses.remove player
  | used used progress flowers _ =>
      rw [flowers]
      exact (addresses.of_flowers fun other absent =>
        lookup_insert_of_absent used.found absent).of_progress progress

--------------------------------------------------------------------------------
-- Runs
--------------------------------------------------------------------------------

/-- Where no account may live: from a wallet's next address on, and at all starter addresses
until its starters are claimed.
-/
def AddressesFree (state : ProgramState) : Prop :=
  ∀ wallet profile, state.profiles.lookup wallet = some profile
    → (∀ index, profile.nextFlowerIndex ≤ index → state.flowers.lookup ⟨wallet, index⟩ = none)
      ∧ (profile.starterClaimed = false
        → ∀ index < starterCount, state.flowers.lookup ⟨wallet, index⟩ = none)

/-- Over every run in which wallets claim before they breed, new flowers find their addresses
unused.
-/
theorem addresses_free {start : ProgramState} (fresh : start.Fresh)
    {history : List GardenSubmission} (run : Run gardenStep ClaimsFirst start history state)
    : AddressesFree state := by
  have addresses : FreshAddresses state.flowers state.profiles := by
    refine run.invariant_with (nursery_of_run fresh) ?_ fun nursery addresses claimsFirst success =>
      FreshAddresses.step addresses claimsFirst (gardenStep_change nursery success)
    rw [fresh.flowers, fresh.profiles]
    exact .empty
  intro wallet profile found
  refine ⟨addresses.upcoming found, fun unclaimed index _ => ?_⟩
  refine addresses.upcoming found index ?_
  rw [addresses.unclaimed found unclaimed]
  exact Nat.zero_le _

/-- A wallet that claimed its starters has bred twice. -/
theorem lateAnswerScript_addresses
    : ∃ state, Run gardenStep ClaimsFirst sampleProgram lateAnswerScript state
        ∧ (state.profiles.lookup 101).any (fun profile => profile.nextFlowerIndex == 8)
        ∧ AddressesFree state := by
  have replayed : (replay gardenStep ClaimsFirst sampleProgram lateAnswerScript).any fun state =>
      (state.profiles.lookup 101).any fun profile => profile.nextFlowerIndex == 8 := by
    decide +kernel
  obtain ⟨state, run, advanced⟩ := Run.of_replay_any replayed
  exact ⟨state, run, advanced, addresses_free sampleProgram_fresh run⟩

/-- Wallet 102 buys two bred flowers and, once they have rested, breeds them before it claims its
starters.
-/
def breedsFirstScript : List GardenSubmission :=
  let unsynced : SyncAccounts := ⟨0, 0, 0⟩
  let second : FlowerKey := ⟨101, starterCount + 1⟩
  soldScript
    ++ [⟨101, 1000, 1, .startBreeding ⟨101, 2⟩ ⟨101, 3⟩ unsynced unsynced 52⟩,
      ⟨66, 1000, 1, .breedV5Callback ⟨101, 1⟩ (some ⟨2, 2, 2⟩)⟩,
      ⟨101, 1000, 1, .mintFlowerNft second 503 ""⟩,
      ⟨102, 1000, 1, .token (.createAccount 504 102 second)⟩,
      ⟨101, 1000, 1, .token (.transfer 503 504)⟩,
      buyerAsks,
      ⟨102, 1000, 1, .queuePrivateHint 1 second ⟨504, 101, 102⟩ 72 11 12⟩,
      ⟨102, 1000, roundEndTime 1, .startBreeding ⟨101, starterCount⟩ second ⟨502, 101, 102⟩
        ⟨504, 101, 102⟩ 53⟩]

/-- The offspring of a wallet that bred before it claimed takes a starter's address. -/
theorem breedsFirst_collides
    : ¬ ∀ start : ProgramState, start.Fresh
        → ∀ (history : List GardenSubmission) (state : ProgramState),
          Run gardenStep anyAction start history state
          → AddressesFree state := by
  intro always
  have replayed : (replay gardenStep anyAction sampleProgram breedsFirstScript).any fun state =>
      (state.profiles.lookup 102).any (fun profile => !profile.starterClaimed)
        && (state.flowers.lookup ⟨102, 0⟩).isSome := by
    decide +kernel
  obtain ⟨state, run, checked⟩ := Run.of_replay_any replayed
  obtain ⟨stored, bred⟩ := Bool.and_eq_true_iff.mp checked
  obtain ⟨profile, found, unclaimed⟩ := (Option.any_eq_true _ _).mp stored
  have free := (always _ sampleProgram_fresh _ _ run 102 profile found).2
    (by simpa using unclaimed) 0 (by decide)
  rw [free] at bred
  cases bred

end SecretGarden.Garden
