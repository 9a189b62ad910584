import SecretGarden.Garden.Circulation
import SecretGarden.Garden.Locks
import SecretGarden.Garden.Submissions

/-! A flower that the program takes out of circulation is locked at its token too, provided that
nobody else had frozen the token before.
-/

namespace SecretGarden.Garden

open Foundation SecretGarden.Bracket SecretGarden.Settlement SecretGarden.Season

variable {env : Env} {state after : ProgramState} {submission : GardenSubmission}

def StatusAt (flowers : Store FlowerKey FlowerRecord) (flowerKey : FlowerKey)
    (status : FlowerStatus) : Prop :=
  ∃ flower, flowers.lookup flowerKey = some flower ∧ flower.status = status

/-- The flower is in a competition, or it is a parent of an experiment that runs. -/
def Taken (state : ProgramState) (flowerKey : FlowerKey) : Prop :=
  StatusAt state.flowers flowerKey .submitted
  ∨ StatusAt state.flowers flowerKey .locked
    ∧ ∃ experimentKey, ParentOf state.experiments flowerKey experimentKey

/-- The flowers that an instruction takes, each with the accounts given for it. -/
def GardenInstruction.takes : GardenInstruction → List (FlowerKey × SyncAccounts)
  | .startBreeding flowerA flowerB syncA syncB _ => [(flowerA, syncA), (flowerB, syncB)]
  | .submitEntry _ _ flowerKey _ accounts => [(flowerKey, accounts)]
  | _ => []

theorem StatusAt.eq {flowers : Store FlowerKey FlowerRecord} {flowerKey : FlowerKey}
    {flower : FlowerRecord} {status : FlowerStatus} (held : StatusAt flowers flowerKey status)
    (found : flowers.lookup flowerKey = some flower)
    : flower.status = status := by
  obtain ⟨other, same, kept⟩ := held
  cases found.symm.trans same
  exact kept

/-- A taken flower is not active. -/
theorem Taken.not_active {flowerKey : FlowerKey} (taken : Taken state flowerKey)
    : ¬ StatusAt state.flowers flowerKey .active := by
  rintro ⟨flower, found, active⟩
  rcases taken with submitted | ⟨locked, _⟩
  · cases active.symm.trans (submitted.eq found)
  · cases active.symm.trans (locked.eq found)

/-- An experiment that has the flower as a parent ran before, or it was just queued with it. -/
theorem Change.parentOf_of_step (change : Change submission state after) {flowerKey : FlowerKey}
    {experimentKey : ExperimentKey} (parent : ParentOf after.experiments flowerKey experimentKey)
    : ParentOf state.experiments flowerKey experimentKey
      ∨ ∃ accounts, (flowerKey, accounts) ∈ submission.instruction.takes := by
  obtain ⟨experiment, queued, inside⟩ := parent
  have same (experiments : after.experiments = state.experiments)
      : ParentOf state.experiments flowerKey experimentKey :=
    ⟨experiment, experiments ▸ queued, inside⟩
  have settled {endedKey : ExperimentKey} (ended : Experiment) (left : ended.status ≠ .queued)
      (experiments : after.experiments = state.experiments.insert endedKey ended)
      : ParentOf state.experiments flowerKey experimentKey := by
    rw [experiments] at queued
    rcases queued.of_insert with ⟨_, rfl⟩ | ⟨_, before⟩
    · exact absurd queued.2 left
    · exact ⟨experiment, before, inside⟩
  cases change with
  | kept _ _ experiments => exact .inl (same experiments)
  | created _ _ _ experiments => exact .inl (same experiments)
  | claimed _ _ _ _ _ experiments => exact .inl (same experiments)
  | bred asked bred =>
      cases bred with
      | queued =>
          rcases queued.of_insert with ⟨_, rfl⟩ | ⟨_, before⟩
          · right
            rw [asked]
            simp only [Experiment.parents, queuedExperiment, List.mem_cons, List.not_mem_nil,
              or_false] at inside
            rcases inside with rfl | rfl
            · exact ⟨_, List.mem_cons_self⟩
            · exact ⟨_, List.mem_cons_of_mem _ List.mem_cons_self⟩
          · exact .inl ⟨experiment, before, inside⟩
  | completed _ _ _ _ _ done =>
      subst done
      exact .inl (settled (endedExperiment (state.env submission) _ .completed _) (by rintro ⟨⟩)
        rfl)
  | @abandoned _ _ status _ _ _ dead done =>
      subst done
      refine .inl (settled (endedExperiment (state.env submission) _ status _) ?_ rfl)
      rcases dead with rfl | rfl <;> rintro ⟨⟩
  | reclaimed _ _ _ _ _ done => exact .inl (same (by rw [done]; rfl))
  | closed _ _ _ _ done => exact .inl (same (by rw [done]; rfl))
  | used _ _ _ experiments => exact .inl (same experiments)

/-- A submitted flower was submitted before, or it was just entered. -/
theorem submitted_of_step (nursery : Nursery state.flowers state.experiments state.mints)
    (success : gardenStep state submission = .ok after) {flowerKey : FlowerKey}
    (submitted : SubmittedAt after.flowers flowerKey)
    : SubmittedAt state.flowers flowerKey
      ∨ ∃ accounts, (flowerKey, accounts) ∈ submission.instruction.takes := by
  by_cases moves : submission.instruction.MovesEntry
  · obtain ⟨signer, slot, now, instruction⟩ := submission
    cases instruction with
    | submitEntry roundKey entryKey entered playerSgdAta accounts =>
        obtain ⟨_, _, _, _, _, _, _, _, _, same⟩ := submitEntry_success success
        rw [same, submittedAt_insert] at submitted
        split at submitted
        · next here => exact .inr ⟨accounts, here ▸ List.mem_cons_self⟩
        · exact .inl submitted
    | releaseFlower roundKey entryKey released accounts =>
        obtain ⟨_, flower, _, _, _, active, same⟩ := releaseFlower_success success
        rw [same, submittedAt_insert] at submitted
        split at submitted
        · rw [active] at submitted
          cases submitted
        · exact .inl submitted
    | _ => exact moves.elim
  · exact .inl (((gardenStep_change nursery success).submittedAt nursery moves _).mp submitted)

/-- A taken flower was taken before, or this instruction takes it. -/
theorem taken_of_step (nursery : Nursery state.flowers state.experiments state.mints)
    (success : gardenStep state submission = .ok after) {flowerKey : FlowerKey}
    (taken : Taken after flowerKey)
    : Taken state flowerKey
      ∨ ∃ accounts, (flowerKey, accounts) ∈ submission.instruction.takes := by
  rcases taken with submitted | ⟨_, experimentKey, parent⟩
  · exact (submitted_of_step nursery success submitted).imp_left Or.inl
  · rcases (gardenStep_change nursery success).parentOf_of_step parent with before | takes
    · obtain ⟨experiment, queued, inside⟩ := before
      obtain ⟨flower, found, locked, _⟩ := nursery.held queued flowerKey inside
      exact .inl (.inr ⟨⟨flower, found, locked⟩, experimentKey, experiment, queued, inside⟩)
    · exact .inr takes

--------------------------------------------------------------------------------
-- The lock
--------------------------------------------------------------------------------

/-- Where an instruction takes a flower whose token is frozen already, the program froze it. -/
def FrozenByProgram (state : ProgramState) (submission : GardenSubmission) : Prop :=
  ∀ taken ∈ submission.instruction.takes, ∀ token ∈ state.tokens.lookup taken.2.token,
    token.mint = taken.1 → token.amount = 1 → token.frozen → token.delegate = some .mintAuthority

instance (state : ProgramState) (submission : GardenSubmission)
    : Decidable (FrozenByProgram state submission) := by
  unfold FrozenByProgram
  infer_instance

/-- A freeze leaves a live token locked, unless someone else had frozen it. -/
theorem Froze.programLocked {flowerKey : FlowerKey} {address : Pubkey}
    {tokens frozen : Store Pubkey FlowerToken}
    (froze : Froze state flowerKey address tokens frozen) (live : Live state flowerKey)
    (own
      : ∀ token, Holding tokens flowerKey address token
        → token.frozen
        → token.delegate = some .mintAuthority)
    : ∃ token, Holding frozen flowerKey address token ∧ ProgramLocked token := by
  cases froze with
  | unminted dead =>
      obtain ⟨supply, minted⟩ := live
      exact absurd minted (dead supply)
  | @already token held locked => exact ⟨token, held, locked, own token held locked⟩
  | @locked token written held _ mint amount _ lock =>
      exact ⟨written, ⟨AList.lookup_insert _, mint.trans held.mint, amount.trans held.amount⟩,
        lock⟩

/-- An accepted instruction locks the tokens of the flowers it takes. -/
theorem locked_of_takes (success : gardenStep state submission = .ok after)
    (foreign : FrozenByProgram state submission) {flowerKey : FlowerKey}
    {accounts : SyncAccounts} (takes : (flowerKey, accounts) ∈ submission.instruction.takes)
    (live : Live after flowerKey)
    : ∃ address token, Holding after.tokens flowerKey address token ∧ ProgramLocked token := by
  have own {token : FlowerToken}
      (held : Holding state.tokens flowerKey accounts.token token) (frozen : token.frozen)
      : token.delegate = some .mintAuthority :=
    foreign _ takes token held.found held.mint held.amount frozen
  obtain ⟨signer, slot, now, instruction⟩ := submission
  cases instruction with
  | startBreeding flowerA flowerB syncA syncB computationOffset =>
      cases startBreeding_success success with
      | queued _ apart _ _ _ _ _ _ _ _ _ _ _ _ _ _ _ _ _ _ _ freezeA freezeB =>
          have frozeA := freezeFlowerIfMinted_success freezeA
          have frozeB := freezeFlowerIfMinted_success freezeB
          simp only [GardenInstruction.takes, List.mem_cons, Prod.mk.injEq, List.not_mem_nil,
            or_false] at takes
          rcases takes with ⟨rfl, rfl⟩ | ⟨rfl, rfl⟩
          · obtain ⟨token, held, locked⟩ := frozeA.programLocked live fun _ => own
            exact ⟨_, token, (frozeB.holding_of_ne apart).mpr held, locked⟩
          · obtain ⟨token, held, locked⟩ := frozeB.programLocked live fun _ held =>
              own ((frozeA.holding_of_ne apart.symm).mp held)
            exact ⟨_, token, held, locked⟩
  | submitEntry roundKey entryKey entered playerSgdAta given =>
      obtain ⟨frozen, mints⟩ := submitEntry_tokens success
      simp only [GardenInstruction.takes, List.mem_cons, Prod.mk.injEq, List.not_mem_nil,
        or_false] at takes
      obtain ⟨rfl, rfl⟩ := takes
      rw [Live, mints] at live
      obtain ⟨token, held, locked⟩ := frozen.programLocked live fun _ => own
      exact ⟨_, token, held, locked⟩
  | _ => cases takes

/-- While its flower is not active, a locked token is left alone by every accepted instruction,
by cases on what that does to tokens.
-/
theorem TokenChange.locked_kept (change : TokenChange submission state after)
    {flowerKey : FlowerKey} {address : Pubkey} {token : FlowerToken}
    (held : Holding state.tokens flowerKey address token) (locked : ProgramLocked token)
    (inactive : ¬ StatusAt state.flowers flowerKey .active)
    : Holding after.tokens flowerKey address token := by
  refine ⟨?_, held.mint, held.amount⟩
  have unfrozen {other : FlowerToken} {place : Pubkey}
      (found : state.tokens.lookup place = some other) (loose : ¬ ProgramLocked other)
      : address ≠ place := by
    rintro rfl
    cases found.symm.trans held.found
    exact loose locked
  have unused {place : Pubkey} (unused : state.tokens.lookup place = none) : address ≠ place := by
    rintro rfl
    cases unused.symm.trans held.found
  cases change with
  | kept _ tokens => exact tokens ▸ held.found
  | bred _ _ frozenA frozenB =>
      exact frozenB.lookup_of_frozen (frozenA.lookup_of_frozen held.found locked.frozen)
        locked.frozen
  | entered _ frozen => exact frozen.lookup_of_frozen held.found locked.frozen
  | minted _ _ _ _ vacant _ _ _ tokens =>
      rw [tokens]
      exact (AList.lookup_insert_ne (unused vacant)).trans held.found
  | burned _ burnt free _ tokens =>
      rw [tokens]
      exact (AList.lookup_erase_ne (unfrozen burnt.found (not_programLocked free))).trans
        held.found
  | @thawed _ flower _ _ _ present active thawed _ tokens =>
      rw [tokens]
      refine (AList.lookup_insert_ne ?_).trans held.found
      rintro rfl
      cases thawed.found.symm.trans held.found
      rw [thawed.mint.symm.trans held.mint] at present
      exact inactive ⟨flower, present, active⟩
  | opened _ vacant _ _ tokens =>
      rw [tokens]
      exact (AList.lookup_insert_ne (unused vacant)).trans held.found
  | transferred _ sends receives _ _ _ free _ tokens =>
      rw [tokens]
      have notSource := unfrozen sends (not_programLocked free.1)
      have notDestination := unfrozen receives (not_programLocked free.2)
      exact (AList.lookup_insert_ne notDestination).trans
        ((AList.lookup_insert_ne notSource).trans held.found)
  | rewritten _ found loose _ _ _ tokens =>
      rw [tokens]
      exact (AList.lookup_insert_ne (unfrozen found loose)).trans held.found
  | closed _ found empty _ tokens =>
      rw [tokens]
      refine (AList.lookup_erase_ne ?_).trans held.found
      rintro rfl
      cases found.symm.trans held.found
      cases empty.symm.trans held.amount

--------------------------------------------------------------------------------
-- Runs
--------------------------------------------------------------------------------

/-- Every taken flower in circulation has its token locked. -/
def TakenLocked (state : ProgramState) : Prop :=
  ∀ flowerKey,
    Taken state flowerKey
    → Live state flowerKey
    → ∃ address token, Holding state.tokens flowerKey address token ∧ ProgramLocked token

theorem TakenLocked.step (locks : TakenLocked state)
    (nursery : Nursery state.flowers state.experiments state.mints)
    (circulation : Circulation state.mints state.tokens)
    (foreign : FrozenByProgram state submission)
    (success : gardenStep state submission = .ok after)
    : TakenLocked after := by
  intro flowerKey taken live
  rcases taken_of_step nursery success taken with before | ⟨accounts, takes⟩
  · have change := gardenStep_tokenChange success
    obtain ⟨supply, minted⟩ := live
    have one := (circulation.step change).live minted
    rcases change.live_of_step one with old | active
    · obtain ⟨address, token, held, locked⟩ := locks flowerKey before ⟨0, old⟩
      exact ⟨address, token, change.locked_kept held locked before.not_active, locked⟩
    · exact absurd active before.not_active
  · exact locked_of_takes success foreign takes live

/-- A locked token stays where it is until its flower is active, by the steps of the run. -/
theorem locked_until_active {flowerKey : FlowerKey} {address : Pubkey} {token : FlowerToken}
    (held : Holding state.tokens flowerKey address token) (locked : ProgramLocked token)
    {more : List GardenSubmission} {later : ProgramState}
    (run : Run gardenStep (fun before _ => ¬ StatusAt before.flowers flowerKey .active) state
      more later)
    : Holding later.tokens flowerKey address token := by
  refine run.invariant ?_ fun kept inactive success =>
    (gardenStep_tokenChange success).locked_kept kept locked inactive
  exact held

/-- Over every run under the condition, the token of a taken flower is locked by the program.
From then on and until the flower is active, whatever anyone does, the account that holds the
token and all that is recorded there stay the same.
-/
theorem taken_tokens_locked {start : ProgramState} (fresh : start.Fresh)
    {history : List GardenSubmission} (run : Run gardenStep FrozenByProgram start history state)
    {flowerKey : FlowerKey} (taken : Taken state flowerKey) (live : Live state flowerKey)
    : ∃ address token,
        ProgramLocked token
        ∧ ∀ more later,
            Run gardenStep (fun before _ => ¬ StatusAt before.flowers flowerKey .active) state
              more later
            → ∀ holder held,
                Holding later.tokens flowerKey holder held ↔ holder = address ∧ held = token := by
  have known {history : List GardenSubmission} {state : ProgramState}
      (run : Run gardenStep FrozenByProgram start history state)
      : Nursery state.flowers state.experiments state.mints
        ∧ Circulation state.mints state.tokens :=
    ⟨nursery_of_run fresh run, circulation_of_run fresh run⟩
  have locks : TakenLocked state := by
    refine run.invariant_with known ?_ fun known locks foreign success =>
      TakenLocked.step locks known.1 known.2 foreign success
    rintro untaken _ ⟨supply, minted⟩
    rw [fresh.mints] at minted
    cases minted
  obtain ⟨address, token, held, locked⟩ := locks flowerKey taken live
  refine ⟨address, token, locked, fun more later onward holder other => ?_⟩
  have kept := locked_until_active held locked onward
  have circulation := (known run).2.of_run onward
  constructor
  · intro also
    have here := circulation.unique also kept
    subst here
    exact ⟨rfl, Option.some.inj (also.found.symm.trans kept.found)⟩
  · rintro ⟨rfl, rfl⟩
    exact kept

/-- Player 101 mints the flower it bred. -/
def mintedScript : List GardenSubmission :=
  readyScript ++
    [⟨7, 1000, 1, .setMintingEnabled true⟩,
      ⟨101, 1000, 1, .mintFlowerNft ⟨101, starterCount⟩ 501 ""⟩]

/-- Wallet 66, as the delegate, freezes or thaws the token. -/
def delegateFreezes (frozen : Bool) : GardenSubmission :=
  ⟨66, 1000, 1, .token (.setFrozen 501 frozen)⟩

/-- Player 101 enters the minted flower. -/
def mintedEntry : List GardenSubmission :=
  [playerFunded 1, ⟨101, 1000, 1, .submitEntry 1 1 ⟨101, starterCount⟩ 301 ⟨501, 101, 101⟩⟩]

/-- A delegate of player 101 freezes the token before the entry and thaws it after, and then
wallet 102 buys it.
-/
def soldEntryScript : List GardenSubmission :=
  mintedScript ++ [⟨101, 1000, 1, .token (.approve 501 (some (.wallet 66)))⟩, delegateFreezes true]
    ++ mintedEntry
    ++ [delegateFreezes false,
      ⟨102, 1000, 1, .token (.createAccount 502 102 ⟨101, starterCount⟩)⟩,
      ⟨101, 1000, 1, .token (.transfer 501 502)⟩]

/-- The flower is submitted and minted. -/
def entersMinted (state : ProgramState) : Bool :=
  (state.flowers.lookup ⟨101, starterCount⟩).any (fun flower => flower.status == .submitted)
    && state.mints.lookup ⟨101, starterCount⟩ == some 1

theorem taken_of_entersMinted (entered : entersMinted state)
    : Taken state ⟨101, starterCount⟩ ∧ Live state ⟨101, starterCount⟩ := by
  obtain ⟨submitted, minted⟩ := Bool.and_eq_true_iff.mp entered
  obtain ⟨flower, found, status⟩ := (Option.any_eq_true _ _).mp submitted
  exact ⟨.inl ⟨flower, found, eq_of_beq status⟩, 0, eq_of_beq minted⟩

/-- Entered without a foreign freeze, the minted flower is locked. -/
theorem mintedEntry_locked
    : ∃ state,
        Run gardenStep FrozenByProgram sampleProgram (mintedScript ++ mintedEntry) state
        ∧ entersMinted state
        ∧ ∃ address token,
            ProgramLocked token
            ∧ ∀ more later,
                Run gardenStep
                    (fun before _ => ¬ StatusAt before.flowers ⟨101, starterCount⟩ .active) state
                    more later
                → ∀ holder held,
                    Holding later.tokens ⟨101, starterCount⟩ holder held
                    ↔ holder = address ∧ held = token := by
  have replayed : (replay gardenStep FrozenByProgram sampleProgram
      (mintedScript ++ mintedEntry)).any entersMinted := by
    decide +kernel
  obtain ⟨state, run, entered⟩ := Run.of_replay_any replayed
  obtain ⟨taken, live⟩ := taken_of_entersMinted entered
  exact ⟨state, run, entered, taken_tokens_locked sampleProgram_fresh run taken live⟩

/-- Entered while a delegate had it frozen, the flower is sold during its round. -/
theorem soldEntryScript_unlocked
    : ¬ ∀ start : ProgramState, start.Fresh
        → ∀ (history : List GardenSubmission) (state : ProgramState),
          Run gardenStep anyAction start history state
          → ∀ flowerKey, Taken state flowerKey
          → Live state flowerKey
          → ∃ address token,
              Holding state.tokens flowerKey address token ∧ ProgramLocked token := by
  intro always
  have replayed : (replay gardenStep anyAction sampleProgram soldEntryScript).any fun state =>
      entersMinted state && (state.tokens.lookup 502).any fun token =>
        token.mint == ⟨101, starterCount⟩ && token.amount == 1 && token.frozen == false := by
    decide +kernel
  obtain ⟨state, run, checked⟩ := Run.of_replay_any replayed
  obtain ⟨entered, sold⟩ := Bool.and_eq_true_iff.mp checked
  obtain ⟨taken, live⟩ := taken_of_entersMinted entered
  obtain ⟨bought, found, facts⟩ := (Option.any_eq_true _ _).mp sold
  obtain ⟨holds, free⟩ := Bool.and_eq_true_iff.mp facts
  obtain ⟨mint, amount⟩ := Bool.and_eq_true_iff.mp holds
  have buyer : Holding state.tokens ⟨101, starterCount⟩ 502 bought :=
    ⟨found, eq_of_beq mint, eq_of_beq amount⟩
  obtain ⟨address, token, held, locked⟩ := always _ sampleProgram_fresh _ _ run _ taken live
  have here := (circulation_of_run sampleProgram_fresh run).unique held buyer
  subst here
  cases held.found.symm.trans buyer.found
  exact not_programLocked (eq_of_beq free) locked

end SecretGarden.Garden
