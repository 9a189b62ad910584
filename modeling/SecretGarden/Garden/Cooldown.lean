import SecretGarden.Garden.Accounting
import SecretGarden.Garden.Changes

/-! A flower that changed hands rests until the round has ended, counted from when the change was
recorded. A rejected breeding records nothing, so the wait is bounded exactly for flowers whose
record named the new holder already.
-/

namespace SecretGarden.Garden

open Foundation SecretGarden.Bracket SecretGarden.Settlement SecretGarden.Season

variable {env : Env} {state after : ProgramState} {submission : GardenSubmission}

theorem bumpTotalFlowers_ne_recent {wallet : Pubkey} {up : Bool}
    {profiles : Store Pubkey PlayerProfile}
    : bumpTotalFlowers wallet up profiles ≠ .error .flowerRecentlyTransferred :=
  bind_ne_error (fetch_ne_error (by rintro ⟨⟩)) fun _ => pure_ne_error

theorem syncFlowerOwner_ne_recent {now : Int} {flowerKey : FlowerKey} {accounts : SyncAccounts}
    {flower : FlowerRecord} {profiles : Store Pubkey PlayerProfile}
    : syncFlowerOwner state now flowerKey accounts flower profiles
      ≠ .error .flowerRecentlyTransferred := by
  unfold syncFlowerOwner
  split
  · exact pure_ne_error
  · exact pure_ne_error
  · refine bind_ne_error (fetch_ne_error (by rintro ⟨⟩)) fun token => ?_
    refine bind_ne_error (require_ne_error (by rintro ⟨⟩)) fun _ => ?_
    refine bind_ne_error (require_ne_error (by rintro ⟨⟩)) fun _ => ?_
    split
    · exact pure_ne_error
    · refine bind_ne_error (require_ne_error (by rintro ⟨⟩)) fun _ => ?_
      refine bind_ne_error (require_ne_error (by rintro ⟨⟩)) fun _ => ?_
      refine bind_ne_error (require_ne_error (by rintro ⟨⟩)) fun _ => ?_
      refine bind_ne_error bumpTotalFlowers_ne_recent fun lowered => ?_
      exact bind_ne_error bumpTotalFlowers_ne_recent fun raised => pure_ne_error

theorem freezeFlowerIfMinted_ne_recent {owner : Pubkey} {flowerKey : FlowerKey}
    {address : Pubkey} {tokens : Store Pubkey FlowerToken}
    : freezeFlowerIfMinted state owner flowerKey address tokens
      ≠ .error .flowerRecentlyTransferred := by
  unfold freezeFlowerIfMinted
  split
  · exact pure_ne_error
  · exact pure_ne_error
  · refine bind_ne_error (fetch_ne_error (by rintro ⟨⟩)) fun token => ?_
    refine bind_ne_error (require_ne_error (by rintro ⟨⟩)) fun _ => ?_
    refine bind_ne_error (require_ne_error (by rintro ⟨⟩)) fun _ => ?_
    split
    · exact pure_ne_error
    · split
      · exact pure_ne_error
      · exact bind_ne_error (require_ne_error (by rintro ⟨⟩)) fun _ => pure_ne_error

theorem registerBreedAttempt_ne_recent {currentRound : Nat} {profile : PlayerProfile}
    : registerBreedAttempt currentRound profile ≠ .error .flowerRecentlyTransferred :=
  bind_ne_error (require_ne_error (by rintro ⟨⟩)) fun _ => pure_ne_error

theorem registerBreedAsParent_ne_recent {flower : FlowerRecord}
    : registerBreedAsParent flower ≠ .error .flowerRecentlyTransferred :=
  bind_ne_error (require_ne_error (by rintro ⟨⟩)) fun _ => pure_ne_error

theorem increment_ne_recent {modulus counter : Nat}
    : increment modulus counter ≠ .error .flowerRecentlyTransferred :=
  bind_ne_error (require_ne_error (by rintro ⟨⟩)) fun _ => pure_ne_error

theorem registerBreedAsParent_eq_ok {flower registered : FlowerRecord}
    : registerBreedAsParent flower = .ok registered
      ↔ flower.timesBredAsParent < maxBreedsAsParent
        ∧ { flower with timesBredAsParent := min u8Max (flower.timesBredAsParent + 1) }
          = registered := by
  simp only [registerBreedAsParent, bind_eq_ok, require_eq_ok, exists_const, pure_eq_ok]

/-- An attempt that gets as far as the cooldown, with both parents as the cooldown sees them. -/
inductive ReachesCooldown (env : Env) (state : ProgramState) (flowerA flowerB : FlowerKey)
    (syncA syncB : SyncAccounts) : (parentA parentB : FlowerRecord) → Prop
  | reached {profile registered : PlayerProfile} {recordA recordB parentA parentB : FlowerRecord}
    {profilesA profilesB : Store Pubkey PlayerProfile}
    (unpaused : env.config.paused = false)
    (player : state.profiles.lookup env.signer = some profile)
    (apart : flowerA ≠ flowerB)
    (foundA : state.flowers.lookup flowerA = some recordA)
    (activeA : recordA.status = .active)
    (foundB : state.flowers.lookup flowerB = some recordB)
    (activeB : recordB.status = .active)
    (unstarted : state.experiments.lookup ⟨env.signer, profile.totalExperiments⟩ = none)
    (unused : state.flowers.lookup ⟨env.signer, profile.nextFlowerIndex⟩ = none)
    (syncedA : syncFlowerOwner state env.now flowerA syncA recordA state.profiles
      = .ok (parentA, profilesA))
    (syncedB : syncFlowerOwner state env.now flowerB syncB recordB profilesA
      = .ok (parentB, profilesB))
    (ownedA : parentA.owner = env.signer)
    (ownedB : parentB.owner = env.signer)
    (attempt : registerBreedAttempt (env.config.currentRound % u32Modulus) profile
      = .ok registered)
    (capped : registered.totalFlowers - starterCount < flowerCollectionCap)
    (usesA : parentA.timesBredAsParent < maxBreedsAsParent)
    (usesB : parentB.timesBredAsParent < maxBreedsAsParent)
    (younger : max parentA.generation parentB.generation + 1 < u16Modulus)
    : ReachesCooldown env state flowerA flowerB syncA syncB parentA parentB

/-- A breeding fails for the cooldown exactly when it gets there and a parent is resting. -/
theorem startBreeding_recent {flowerA flowerB : FlowerKey} {syncA syncB : SyncAccounts}
    {computationOffset : Nat}
    : startBreeding env flowerA flowerB syncA syncB computationOffset state
        = .error .flowerRecentlyTransferred
      ↔ ∃ parentA parentB,
          ReachesCooldown env state flowerA flowerB syncA syncB parentA parentB
          ∧ (transferCooldownActive parentA env.now ∨ transferCooldownActive parentB env.now) := by
  simp only [startBreeding, requireUnpaused, checkCollectionCap, checkBreedAsParent,
    bind_eq_error, fetch_eq_error, require_eq_error, pure_ne_error, syncFlowerOwner_ne_recent,
    freezeFlowerIfMinted_ne_recent, registerBreedAttempt_ne_recent,
    registerBreedAsParent_ne_recent, increment_ne_recent, reduceCtorEq, and_false, false_or,
    or_false, exists_false, and_true, fetch_eq_ok, require_eq_ok, registerBreedAsParent_eq_ok,
    increment_eq_ok, exists_const, Prod.exists, Option.isNone_iff_eq_none, Bool.not_eq_false]
  constructor
  · rintro ⟨unpaused, profile, player, apart, recordA, foundA, activeA, recordB, foundB, activeB,
      unstarted, unused, parentA, profilesA, syncedA, parentB, profilesB, syncedB, ownedA, ownedB,
      registered, attempt, capped, usesA, usesB, _, ⟨_, rfl⟩, _, ⟨_, rfl⟩, _, ⟨younger, rfl⟩,
      resting⟩
    exact ⟨parentA, parentB, .reached unpaused player apart foundA activeA foundB activeB unstarted
      unused syncedA syncedB ownedA ownedB attempt capped usesA usesB younger,
      resting.imp_right And.right⟩
  · rintro ⟨parentA, parentB, reached, resting⟩
    cases reached with
    | @reached profile registered recordA recordB _ _ profilesA profilesB unpaused player apart
        foundA activeA foundB activeB unstarted unused syncedA syncedB ownedA ownedB attempt capped
        usesA usesB younger =>
        refine ⟨unpaused, profile, player, apart, recordA, foundA, activeA, recordB, foundB,
          activeB, unstarted, unused, parentA, profilesA, syncedA, parentB, profilesB, syncedB,
          ownedA, ownedB, registered, attempt, capped, usesA, usesB, _, ⟨usesA, rfl⟩, _,
          ⟨usesB, rfl⟩, _, ⟨younger, rfl⟩, ?_⟩
        cases first : transferCooldownActive parentA env.now with
        | true => exact .inl first
        | false => exact .inr ⟨first, resting.resolve_left (by simp [first])⟩

--------------------------------------------------------------------------------
-- An attempt at another time
--------------------------------------------------------------------------------

/-- What the cooldown compares with the clock: the flower after its synchronization. -/
def SeenAs (state : ProgramState) (now : Int) (flowerKey : FlowerKey) (accounts : SyncAccounts)
    (record seen : FlowerRecord) : Prop :=
  state.flowers.lookup flowerKey = some record
  ∧ ∃ profiles raised,
      syncFlowerOwner state now flowerKey accounts record profiles = .ok (seen, raised)

/-- A synchronization at another time only writes another stamp. -/
theorem syncFlowerOwner_at {now : Int} (later : Int) {flowerKey : FlowerKey}
    {accounts : SyncAccounts} {record seen : FlowerRecord}
    {profiles raised : Store Pubkey PlayerProfile}
    (success
      : syncFlowerOwner state now flowerKey accounts record profiles = .ok (seen, raised))
    : ∃ stamp,
        syncFlowerOwner state later flowerKey accounts record profiles
          = .ok ({ seen with lastTransferAt := stamp }, raised) := by
  unfold syncFlowerOwner at success ⊢
  split at success
  · cases pure_eq_ok.mp success
    exact ⟨record.lastTransferAt, rfl⟩
  · cases pure_eq_ok.mp success
    exact ⟨record.lastTransferAt, rfl⟩
  · simp only [bind_eq_ok, fetch_eq_ok, require_eq_ok, exists_const] at success ⊢
    obtain ⟨token, found, mint, amount, rest⟩ := success
    split at rest
    · next same =>
        cases pure_eq_ok.mp rest
        exact ⟨record.lastTransferAt, token, found, mint, amount, by rw [if_pos same]; rfl⟩
    · next moved =>
        simp only [bind_eq_ok, require_eq_ok, exists_const, pure_eq_ok] at rest
        obtain ⟨known, buyer, seller, lowered, sold, lifted, bought, same⟩ := rest
        cases same
        refine ⟨later, token, found, mint, amount, ?_⟩
        rw [if_neg moved]
        simp only [bind_eq_ok, require_eq_ok, exists_const, pure_eq_ok]
        exact ⟨known, buyer, seller, lowered, sold, _, bought, rfl⟩

theorem SeenAs.at {now : Int} {flowerKey : FlowerKey} {accounts : SyncAccounts}
    {record seen : FlowerRecord} (sees : SeenAs state now flowerKey accounts record seen)
    (later : Int)
    : ∃ again, SeenAs state later flowerKey accounts record again := by
  obtain ⟨found, profiles, raised, synced⟩ := sees
  obtain ⟨stamp, success⟩ := syncFlowerOwner_at later synced
  exact ⟨_, found, profiles, raised, success⟩

/-- Whatever an attempt passes before the cooldown it passes at any other time. -/
theorem ReachesCooldown.at {flowerA flowerB : FlowerKey} {syncA syncB : SyncAccounts}
    {parentA parentB : FlowerRecord}
    (reached : ReachesCooldown env state flowerA flowerB syncA syncB parentA parentB)
    (later : Int)
    : ∃ laterA laterB,
        ReachesCooldown { env with now := later } state flowerA flowerB syncA syncB laterA
          laterB := by
  cases reached with
  | reached unpaused player apart foundA activeA foundB activeB unstarted unused syncedA syncedB
      ownedA ownedB attempt capped usesA usesB younger =>
      obtain ⟨stampA, laterA⟩ := syncFlowerOwner_at later syncedA
      obtain ⟨stampB, laterB⟩ := syncFlowerOwner_at later syncedB
      exact ⟨_, _, .reached unpaused player apart foundA activeA foundB activeB unstarted unused
        laterA laterB ownedA ownedB attempt capped usesA usesB younger⟩

theorem ReachesCooldown.seen {flowerA flowerB : FlowerKey} {syncA syncB : SyncAccounts}
    {parentA parentB : FlowerRecord}
    (reached : ReachesCooldown env state flowerA flowerB syncA syncB parentA parentB)
    : (∃ record, SeenAs state env.now flowerA syncA record parentA)
      ∧ ∃ record, SeenAs state env.now flowerB syncB record parentB := by
  cases reached with
  | @reached _ _ recordA recordB _ _ _ _ _ _ _ foundA _ foundB _ _ _ syncedA syncedB =>
      exact ⟨⟨recordA, foundA, _, _, syncedA⟩, recordB, foundB, _, _, syncedB⟩

/-- The flower is one parent of the breeding, `other` the second one. -/
inductive Breeds (flowerKey other : FlowerKey) (accounts otherAccounts : SyncAccounts)
    : GardenInstruction → Prop
  | first {computationOffset : Nat}
    : Breeds flowerKey other accounts otherAccounts
        (.startBreeding flowerKey other accounts otherAccounts computationOffset)
  | second {computationOffset : Nat}
    : Breeds flowerKey other accounts otherAccounts
        (.startBreeding other flowerKey otherAccounts accounts computationOffset)

/-- The attempt fails for the cooldown. -/
def failsRecent (state : ProgramState) (attempt : GardenSubmission) : Bool :=
  match gardenStep state attempt with
  | .error .flowerRecentlyTransferred => true
  | _ => false

theorem failsRecent_iff {attempt : GardenSubmission}
    : failsRecent state attempt
      ↔ gardenStep state attempt = .error .flowerRecentlyTransferred := by
  unfold failsRecent
  split
  · next failed => simp [failed]
  · next other =>
      simp only [Bool.false_eq_true, false_iff]
      exact other

variable {flowerKey other : FlowerKey} {accounts otherAccounts : SyncAccounts}
  {attempt : GardenSubmission}

/-- An attempt that fails for the cooldown fails again whenever its flower is seen resting. -/
theorem Breeds.fails_at (breeds : Breeds flowerKey other accounts otherAccounts attempt.instruction)
    (failed : failsRecent state attempt) {later : Int}
    (resting
      : ∀ record seen,
          SeenAs state later flowerKey accounts record seen → transferCooldownActive seen later)
    : failsRecent state { attempt with now := later } := by
  obtain ⟨signer, slot, now, instruction⟩ := attempt
  rw [failsRecent_iff] at failed ⊢
  cases breeds with
  | first =>
      obtain ⟨_, _, reached, _⟩ := startBreeding_recent.mp failed
      obtain ⟨laterA, laterB, again⟩ := reached.at later
      obtain ⟨⟨record, seen⟩, _⟩ := again.seen
      exact startBreeding_recent.mpr ⟨laterA, laterB, again, .inl (resting record laterA seen)⟩
  | second =>
      obtain ⟨_, _, reached, _⟩ := startBreeding_recent.mp failed
      obtain ⟨laterA, laterB, again⟩ := reached.at later
      obtain ⟨_, record, seen⟩ := again.seen
      exact startBreeding_recent.mpr ⟨laterA, laterB, again, .inr (resting record laterB seen)⟩

--------------------------------------------------------------------------------
-- Stamps and the clock
--------------------------------------------------------------------------------

/-- The journal is the time of the last accepted instruction. -/
def timed : Journaled ProgramState Int → GardenSubmission → Outcome (Journaled ProgramState Int) :=
  journaled gardenStep fun _ submission _ => submission.now

/-- The clock does not go back. -/
def InOrder (before : Journaled ProgramState Int) (submission : GardenSubmission) : Prop :=
  before.journal ≤ submission.now

instance (before : Journaled ProgramState Int) (submission : GardenSubmission)
    : Decidable (InOrder before submission) :=
  inferInstanceAs (Decidable (before.journal ≤ submission.now))

/-- No flower changed hands in the future. -/
def StampsPast (state : ProgramState) (clock : Int) : Prop :=
  ∀ flowerKey flower,
    state.flowers.lookup flowerKey = some flower
    → flower.lastTransferAt ≠ 0
    → flower.lastTransferAt ≤ clock

theorem StampsPast.step {clock : Int} (past : StampsPast state clock)
    (evolved : AllEvolved state submission.now after.flowers) (ordered : clock ≤ submission.now)
    : StampsPast after submission.now := by
  intro flowerKey flower found stamped
  rcases evolved flowerKey flower found with ⟨record, before, step⟩ | ⟨_, unmoved⟩
  · cases step.moved with
    | kept _ stamp =>
        rw [stamp] at stamped ⊢
        exact (past flowerKey record before stamped).trans ordered
    | corrected _ _ _ _ stamp => exact le_of_eq stamp
  · exact absurd unmoved stamped

theorem stampsPast_of_run {start : ProgramState} (fresh : start.Fresh) {clock : Int}
    {history : List GardenSubmission} {reached : Journaled ProgramState Int}
    (run : Run timed InOrder ⟨start, clock⟩ history reached)
    : StampsPast reached.system reached.journal := by
  apply run.invariant_with (fun earlier => nursery_of_run fresh earlier.forget)
  · intro flowerKey flower found
    rw [fresh.flowers] at found
    cases found
  · intro before submission later nursery past ordered success
    obtain ⟨accepted, noted⟩ := journaled_eq_ok.mp success
    rw [noted]
    exact StampsPast.step past (gardenStep_change nursery accepted).evolved ordered

/-- The owner on record holds the token, if anyone does. -/
def Recorded (state : ProgramState) (flowerKey : FlowerKey) : Prop :=
  ∀ flower address token,
    state.flowers.lookup flowerKey = some flower
    → Holding state.tokens flowerKey address token
    → token.owner = flower.owner

/-- A flower as it is seen has moved as by its synchronization. -/
theorem SeenAs.moved {now : Int} {record seen : FlowerRecord}
    (sees : SeenAs state now flowerKey accounts record seen)
    : OwnerMoved state now flowerKey record seen ∧ OwnsToken state flowerKey accounts seen := by
  obtain ⟨found, profiles, raised, synced⟩ := sees
  have holder := syncFlowerOwner_ownsToken synced
  exact ⟨(syncFlowerOwner_success found synced).moved holder, holder⟩

/-- A recorded flower is seen with the stamp it has. -/
theorem SeenAs.stamp_of_recorded {now : Int} {record seen : FlowerRecord}
    (sees : SeenAs state now flowerKey accounts record seen)
    (recorded : Recorded state flowerKey)
    : seen.lastTransferAt = record.lastTransferAt := by
  cases sees.moved.1 with
  | kept _ stamp => exact stamp
  | corrected _ held moved => exact absurd (recorded record _ _ sees.1 held) moved

/-- A flower that changed hands unrecorded is seen with a new stamp. -/
theorem SeenAs.stamp_of_unrecorded (circulation : Circulation state.mints state.tokens)
    {now : Int} {record seen : FlowerRecord}
    (sees : SeenAs state now flowerKey accounts record seen)
    (unrecorded : ¬ Recorded state flowerKey)
    : seen.lastTransferAt = now := by
  obtain ⟨moved, holder⟩ := sees.moved
  cases moved with
  | corrected _ _ _ _ stamp => exact stamp
  | kept owner =>
      refine absurd ?_ unrecorded
      intro flower address token found held
      cases sees.1.symm.trans found
      obtain ⟨presented, lookup, mint, amount, same⟩ := holder 0 (circulation.minted held)
      obtain rfl := circulation.unique held ⟨lookup, mint, amount⟩
      cases held.found.symm.trans lookup
      exact same.trans owner

/-- A breeding of the flower fails for the cooldown, and the flower is seen resting. -/
def RejectedOver (state : ProgramState) (flowerKey : FlowerKey) (attempt : GardenSubmission)
    : Prop :=
  failsRecent state attempt
  ∧ ∃ other accounts otherAccounts record seen,
      Breeds flowerKey other accounts otherAccounts attempt.instruction
      ∧ SeenAs state attempt.now flowerKey accounts record seen
      ∧ transferCooldownActive seen attempt.now

/-- While its change of hands is not on record, an attempt fails however late it is made. -/
theorem RejectedOver.again (rejected : RejectedOver state flowerKey attempt)
    (circulation : Circulation state.mints state.tokens)
    (unrecorded : ¬ Recorded state flowerKey) {later : Int} (started : later ≠ 0)
    : RejectedOver state flowerKey { attempt with now := later } := by
  obtain ⟨failed, other, accounts, otherAccounts, record, seen, breeds, sees, _⟩ := rejected
  have resting {record seen : FlowerRecord}
      (sees : SeenAs state later flowerKey accounts record seen)
      : transferCooldownActive seen later := by
    have stamp := sees.stamp_of_unrecorded circulation unrecorded
    have ends := lt_roundEndTime later
    simp [transferCooldownActive, stamp, started, ends]
  obtain ⟨again, seesAgain⟩ := sees.at later
  exact ⟨breeds.fails_at failed fun _ _ => resting, other, accounts, otherAccounts, record, again,
    breeds, seesAgain, resting seesAgain⟩

--------------------------------------------------------------------------------
-- The wait
--------------------------------------------------------------------------------

/-- The token stays with its holder, and only breeding writes the flower's record. -/
def OnlyBred (flowerKey : FlowerKey) (before : ProgramState) (submission : GardenSubmission)
    : Prop :=
  ∀ after, gardenStep before submission = .ok after →
    (∀ address token, Holding after.tokens flowerKey address token
      → ∃ place earlier, Holding before.tokens flowerKey place earlier
          ∧ earlier.owner = token.owner)
    ∧ (after.flowers.lookup flowerKey = before.flowers.lookup flowerKey
      ∨ ∃ other accounts otherAccounts,
          Breeds flowerKey other accounts otherAccounts submission.instruction)

/-- The holder is on record, under an old stamp or none. -/
structure Stamped (state : ProgramState) (flowerKey : FlowerKey) (stamp : Int) : Prop where
  recorded : Recorded state flowerKey
  stamped : ∀ {flower},
    state.flowers.lookup flowerKey = some flower
    → flower.lastTransferAt = stamp ∨ flower.lastTransferAt = 0

/-- Without a further transfer the record keeps its owner and its stamp. -/
theorem Stamped.step {stamp : Int} (known : Stamped state flowerKey stamp)
    (nursery : Nursery state.flowers state.experiments state.mints)
    (circulation : Circulation state.mints state.tokens)
    (onlyBred : OnlyBred flowerKey state submission)
    (success : gardenStep state submission = .ok after)
    : Stamped after flowerKey stamp := by
  have evolved := (gardenStep_change nursery success).evolved
  have holders := (onlyBred after success).1
  constructor
  · intro flower address token found held
    obtain ⟨place, earlier, before, owner⟩ := holders address token held
    rcases evolved flowerKey flower found with ⟨record, present, step⟩ | ⟨unused, _⟩
    · have onRecord := known.recorded record place earlier present before
      cases step.moved with
      | kept same => rw [← owner, onRecord, same]
      | corrected _ holding moved => exact absurd (known.recorded record _ _ present holding) moved
    · obtain ⟨record, present, _⟩ :=
        nursery.minted (Option.isSome_of_eq_some (circulation.minted before))
      cases unused.symm.trans present
  · intro flower found
    rcases evolved flowerKey flower found with ⟨record, present, step⟩ | ⟨_, unmoved⟩
    · cases step.moved with
      | kept _ same =>
          rw [same]
          exact known.stamped present
      | corrected _ holding moved => exact absurd (known.recorded record _ _ present holding) moved
    · exact .inr unmoved

/-- Without a further transfer the record stays, by the steps of the run. -/
theorem Stamped.of_run {stamp : Int} (known : Stamped state flowerKey stamp)
    (nursery : Nursery state.flowers state.experiments state.mints)
    (circulation : Circulation state.mints state.tokens) {more : List GardenSubmission}
    {later : ProgramState} (run : Run gardenStep (OnlyBred flowerKey) state more later)
    : Stamped later flowerKey stamp := by
  have together
      : (Nursery later.flowers later.experiments later.mints
          ∧ Circulation later.mints later.tokens)
        ∧ Stamped later flowerKey stamp := by
    apply run.invariant
    · exact ⟨⟨nursery, circulation⟩, known⟩
    · rintro before submission after ⟨⟨nursery, circulation⟩, known⟩ onlyBred success
      exact ⟨⟨nursery.step success, circulation.step (gardenStep_tokenChange success)⟩,
        known.step nursery circulation onlyBred success⟩
  exact together.2

/-- A flower on record does not rest beyond the round that was running when it was seen resting.
-/
theorem Stamped.not_rejected {stamp now : Int} (known : Stamped state flowerKey stamp)
    (ordered : stamp ≠ 0 → stamp ≤ now) (ended : roundEndTime now ≤ attempt.now)
    : ¬ RejectedOver state flowerKey attempt := by
  rintro ⟨_, _, _, _, record, seen, _, sees, active⟩
  have same := sees.stamp_of_recorded known.recorded
  simp only [transferCooldownActive, decide_eq_true_eq, same] at active
  rcases known.stamped sees.1 with stamped | unmoved
  · rw [stamped] at active
    have bounded := roundEndTime_mono (ordered active.1)
    omega
  · exact active.1 unmoved

/-- When an attempt is rejected for the cooldown of a flower, no later one is after the end of the
round, without a further transfer, exactly if the change of hands was on record already.
-/
theorem cooldown_bounded_iff {start : ProgramState} (fresh : start.Fresh) {clock : Int}
    {history : List GardenSubmission} {reached : Journaled ProgramState Int}
    (run : Run timed InOrder ⟨start, clock⟩ history reached) (ordered : InOrder reached attempt)
    (rejected : RejectedOver reached.system flowerKey attempt)
    : (∀ more later,
        Run gardenStep (OnlyBred flowerKey) reached.system more later
        → ∀ retry : GardenSubmission, roundEndTime attempt.now ≤ retry.now
        → ¬ RejectedOver later flowerKey retry)
      ↔ Recorded reached.system flowerKey := by
  have nursery := nursery_of_run fresh run.forget
  have circulation := circulation_of_run fresh run.forget
  constructor
  · intro bounded
    by_contra unrecorded
    refine bounded [] reached.system .start _ (le_max_right 1 _)
      (rejected.again circulation unrecorded ?_)
    omega
  · intro recorded more later onward retry ended
    obtain ⟨_, _, _, _, record, _, _, sees, _⟩ := rejected
    have known : Stamped reached.system flowerKey record.lastTransferAt := by
      refine ⟨recorded, fun {flower} found => ?_⟩
      cases sees.1.symm.trans found
      exact .inl rfl
    have past := stampsPast_of_run fresh run flowerKey record sees.1
    have still := known.of_run nursery circulation onward
    exact still.not_rejected (fun stamped => (past stamped).trans ordered) ended

--------------------------------------------------------------------------------
-- The buyer breeds
--------------------------------------------------------------------------------

/-- The buyer breeds the sold flower with one of its starters. -/
def buyerBreeds (now : Int) : GardenSubmission :=
  ⟨102, 1000, now, .startBreeding ⟨101, starterCount⟩ ⟨102, 0⟩ ⟨502, 101, 102⟩ ⟨0, 0, 0⟩ 52⟩

/-- That attempt fails for the cooldown of the sold flower. -/
def buyerRejected (state : ProgramState) (now : Int) : Bool :=
  failsRecent state (buyerBreeds now)
    && (state.flowers.lookup ⟨101, starterCount⟩).any fun record =>
      match syncFlowerOwner state now ⟨101, starterCount⟩ ⟨502, 101, 102⟩ record state.profiles with
      | .ok (seen, _) => transferCooldownActive seen now
      | .error _ => false

theorem rejectedOver_of_buyerRejected {now : Int} (rejected : buyerRejected state now)
    : RejectedOver state ⟨101, starterCount⟩ (buyerBreeds now) := by
  obtain ⟨failed, rests⟩ := Bool.and_eq_true_iff.mp rejected
  obtain ⟨record, found, checked⟩ := (Option.any_eq_true _ _).mp rests
  split at checked
  · next seen raised synced =>
      exact ⟨failed, _, _, _, record, seen, .first, ⟨found, _, raised, synced⟩, checked⟩
  · cases checked

/-- The buyer used the flower before, so its attempts fail until the round has ended at most. -/
theorem buyerRecorded_waits
    : ∃ reached,
        Run timed InOrder ⟨sampleProgram, 0⟩ (soldScript ++ [buyerClaims, buyerAsks]) reached
        ∧ RejectedOver reached.system ⟨101, starterCount⟩ (buyerBreeds 2)
        ∧ ∀ more later,
            Run gardenStep (OnlyBred ⟨101, starterCount⟩) reached.system more later
            → ∀ retry : GardenSubmission, roundEndTime 2 ≤ retry.now
            → ¬ RejectedOver later ⟨101, starterCount⟩ retry := by
  have replayed : (replay timed InOrder ⟨sampleProgram, 0⟩
      (soldScript ++ [buyerClaims, buyerAsks])).any fun reached =>
        buyerRejected reached.system 2
          && decide (InOrder reached (buyerBreeds 2))
          && (reached.system.flowers.lookup ⟨101, starterCount⟩).any (fun flower =>
            flower.owner == 102)
          && (reached.system.tokens.lookup 502).any fun token =>
            token.mint == ⟨101, starterCount⟩ && token.amount == 1 && token.owner == 102 := by
    decide +kernel
  obtain ⟨reached, run, checked⟩ := Run.of_replay_any replayed
  simp only [Bool.and_eq_true, decide_eq_true_eq, Option.any_eq_true, beq_iff_eq] at checked
  obtain ⟨⟨⟨rejected, ordered⟩, record, found, owner⟩, bought, lookup, ⟨mint, amount⟩, buyer⟩ :=
    checked
  have rejectedOver := rejectedOver_of_buyerRejected rejected
  have recorded : Recorded reached.system ⟨101, starterCount⟩ := by
    intro flower address token present held
    obtain rfl := (circulation_of_run sampleProgram_fresh run.forget).unique held
      ⟨lookup, mint, amount⟩
    cases found.symm.trans present
    cases lookup.symm.trans held.found
    rw [owner, buyer]
  exact ⟨reached, run, rejectedOver,
    (cooldown_bounded_iff sampleProgram_fresh run ordered rejectedOver).mpr recorded⟩

/-- The buyer never used the flower, so its attempts fail after the round as they did before. -/
theorem buyerUnrecorded_waits_on
    : ¬ ∀ start : ProgramState, start.Fresh
        → ∀ (clock : Int) (history : List GardenSubmission)
          (reached : Journaled ProgramState Int),
          Run timed InOrder ⟨start, clock⟩ history reached
          → ∀ flowerKey attempt, InOrder reached attempt
          → RejectedOver reached.system flowerKey attempt
          → ∀ more later, Run gardenStep (OnlyBred flowerKey) reached.system more later
          → ∀ retry : GardenSubmission, roundEndTime attempt.now ≤ retry.now
          → ¬ RejectedOver later flowerKey retry := by
  intro always
  have replayed : (replay timed InOrder ⟨sampleProgram, 0⟩ (soldScript ++ [buyerClaims])).any
      fun reached =>
        buyerRejected reached.system 2
          && decide (InOrder reached (buyerBreeds 2))
          && buyerRejected reached.system (roundEndTime 2) := by
    decide +kernel
  obtain ⟨reached, run, checked⟩ := Run.of_replay_any replayed
  simp only [Bool.and_eq_true, decide_eq_true_eq] at checked
  obtain ⟨⟨rejected, ordered⟩, again⟩ := checked
  exact always _ sampleProgram_fresh _ _ _ run _ _ ordered (rejectedOver_of_buyerRejected rejected)
    [] _ .start _ le_rfl (rejectedOver_of_buyerRejected again)

end SecretGarden.Garden
