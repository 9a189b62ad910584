import SecretGarden.Garden.Accounting
import SecretGarden.Garden.Changes
import SecretGarden.Season.Changes
import SecretGarden.Settlement.Pledges

/-! Flowers in competition. An entry pledges its flower until it is released: the flower stays
where it is, submitted, and every submitted flower is pledged to exactly one entry.
-/

namespace SecretGarden.Garden

open Foundation SecretGarden.Bracket SecretGarden.Settlement SecretGarden.Season

variable {env : Env} {state after : ProgramState} {submission : GardenSubmission}

/-- The pledge of an entry of any round. -/
def ProgramState.pledge (state : ProgramState) (roundKey : RoundKey) (entryKey : Pubkey)
    : Option (FlowerKey × EntryStatus) :=
  (state.rounds.lookup roundKey).bind fun ledger => ledger.pledge entryKey

/-- One round changed, in one pledge. -/
theorem pledge_of_round {roundKey : RoundKey} {ledger next : RoundLedger} {entryKey : Pubkey}
    {value : Option (FlowerKey × EntryStatus)}
    (found : state.rounds.lookup roundKey = some ledger)
    (rounds : after.rounds = state.rounds.insert roundKey next)
    (moved
      : ∀ other, next.pledge other
          = if other = entryKey then value else ledger.pledge other)
    (otherRound : RoundKey) (other : Pubkey)
    : after.pledge otherRound other
      = if otherRound = roundKey ∧ other = entryKey then value
        else state.pledge otherRound other := by
  rw [ProgramState.pledge, ProgramState.pledge, rounds, Store.lookup_insert_apply]
  by_cases here : otherRound = roundKey
  · subst here
    simp [found, moved]
  · simp [here]

/-- One round changed, in no pledge. -/
theorem pledge_of_quiet_round {roundKey : RoundKey} {ledger next : RoundLedger}
    (found : state.rounds.lookup roundKey = some ledger)
    (rounds : after.rounds = state.rounds.insert roundKey next)
    (kept : ∀ other, next.pledge other = ledger.pledge other)
    (otherRound : RoundKey) (other : Pubkey)
    : after.pledge otherRound other
      = state.pledge otherRound other := by
  rw [ProgramState.pledge, ProgramState.pledge, rounds, Store.lookup_insert_apply]
  split
  · next here => rw [here, found, Option.bind_some, Option.bind_some, kept]
  · rfl

/-- What became of all pledges. -/
inductive Pledging (submission : GardenSubmission) (state after : ProgramState) : Prop
  | kept
    (other : ¬ submission.instruction.MovesEntry)
    (same
      : ∀ roundKey entryKey,
          after.pledge roundKey entryKey
            = state.pledge roundKey entryKey)
  | entered {roundKey : RoundKey} {entryKey playerSgdAta : Pubkey} {flowerKey : FlowerKey}
      {accounts : SyncAccounts} {record flower : FlowerRecord}
    (asked
      : submission.instruction
        = .submitEntry roundKey entryKey flowerKey playerSgdAta accounts)
    (unused : state.pledge roundKey entryKey = none)
    (moved
      : ∀ otherRound other,
          after.pledge otherRound other
            = if otherRound = roundKey ∧ other = entryKey then some (flowerKey, .submitted)
              else state.pledge otherRound other)
    (found : state.flowers.lookup flowerKey = some record)
    (active : record.status = .active)
    (submitted : flower.status = .submitted)
    (flowers : after.flowers = state.flowers.insert flowerKey flower)
  | released {roundKey : RoundKey} {entryKey : Pubkey} {flowerKey : FlowerKey}
      {accounts : SyncAccounts} {ledger : RoundLedger} {record flower : FlowerRecord}
    (asked : submission.instruction = .releaseFlower roundKey entryKey flowerKey accounts)
    (round : state.rounds.lookup roundKey = some ledger)
    (finalized : ledger.round.status = .finalized)
    (pledged
      : state.pledge roundKey entryKey = some (flowerKey, .submitted))
    (moved
      : ∀ otherRound other,
          after.pledge otherRound other
            = if otherRound = roundKey ∧ other = entryKey then some (flowerKey, .released)
              else state.pledge otherRound other)
    (found : state.flowers.lookup flowerKey = some record)
    (submitted : record.status = .submitted)
    (active : flower.status = .active)
    (flowers : after.flowers = state.flowers.insert flowerKey flower)

/-- A submission pledges an active flower to a new entry. -/
theorem submitEntry_pledging {roundKey : RoundKey} {entryKey playerSgdAta : Pubkey}
    {flowerKey : FlowerKey} {accounts : SyncAccounts}
    (asked
      : submission.instruction
        = .submitEntry roundKey entryKey flowerKey playerSgdAta accounts)
    (success
      : submitEntry (state.env submission) roundKey entryKey flowerKey playerSgdAta accounts state
          = .ok after)
    : Pledging submission state after := by
  obtain ⟨profile, record, flower, profiles, _, used, active, _, submitted, same⟩ :=
    submitEntry_success success
  obtain ⟨ledger, next, synced, round, accepted, rounds⟩ := submitEntry_round success
  obtain ⟨unused, moved⟩ := submitEntry_pledge accepted
  refine .entered asked ?_ (pledge_of_round round rounds moved) used.found active submitted
    (by rw [same])
  rw [ProgramState.pledge, round, Option.bind_some, unused]

/-- A release ends the pledge of a submitted flower. -/
theorem releaseFlower_pledging {roundKey : RoundKey} {entryKey : Pubkey}
    {flowerKey : FlowerKey} {accounts : SyncAccounts}
    (asked : submission.instruction = .releaseFlower roundKey entryKey flowerKey accounts)
    (success
      : releaseFlower (state.env submission) roundKey entryKey flowerKey accounts state
          = .ok after)
    : Pledging submission state after := by
  obtain ⟨record, flower, profiles, used, submitted, active, same⟩ :=
    releaseFlower_success success
  obtain ⟨ledger, next, round, accepted, rounds⟩ := releaseFlower_round success
  obtain ⟨finalized, pledged, moved⟩ := releaseEntry_pledge accepted
  refine .released asked round finalized ?_ (pledge_of_round round rounds moved) used.found
    submitted active (by rw [same])
  rw [ProgramState.pledge, round, Option.bind_some, pledged]

/-- What the season does by itself keeps all pledges. -/
theorem seasonStep_pledge {played : SeasonSubmission} {deployment : Deployment}
    (quiet : SeasonInstruction.TouchesFlower played.instruction = false)
    (success : seasonStep state.toDeployment played = .ok deployment)
    (roundKey : RoundKey) (entryKey : Pubkey)
    : ProgramState.pledge { state with toDeployment := deployment } roundKey entryKey
      = state.pledge roundKey entryKey := by
  cases seasonStep_change success with
  | configured rounds => rw [ProgramState.pledge, ProgramState.pledge, rounds]
  | opened previous unused rounds =>
      rw [ProgramState.pledge, ProgramState.pledge, rounds, Store.lookup_insert_apply]
      split
      · next here =>
          rw [here, unused]
          rfl
      · rfl
  | @played key instruction ledger next asked found moved rounds =>
      refine pledge_of_quiet_round found rounds (roundStep_pledge moved ?_) roundKey entryKey
      rw [asked] at quiet
      cases instruction with
      | submitEntry => cases quiet
      | releaseEntry => cases quiet
      | _ => exact id

/-- Every accepted instruction moves pledges in one of these ways. -/
theorem gardenStep_pledging (success : gardenStep state submission = .ok after)
    : Pledging submission state after := by
  have framed := gardenStep_framed success
  obtain ⟨signer, slot, now, instruction⟩ := submission
  cases instruction with
  | submitEntry roundKey entryKey flowerKey playerSgdAta accounts =>
      exact submitEntry_pledging rfl success
  | releaseFlower roundKey entryKey flowerKey accounts =>
      exact releaseFlower_pledging rfl success
  | queueScoreEntry roundKey computationOffset entryKey flowerKey =>
      obtain ⟨ledger, next, found, accepted, _, rfl⟩ := queueScoreEntry_success success
      have moved : roundStep ledger
          ⟨_, .queueScoreEntry computationOffset entryKey flowerKey⟩ = .ok next := accepted
      exact .kept id (pledge_of_quiet_round found rfl (roundStep_pledge moved (by rintro ⟨⟩)))
  | season instruction =>
      simp only [gardenStep, bind_eq_ok, require_eq_ok, exists_const, pure_eq_ok] at success
      obtain ⟨quietly, deployment, moved, rfl⟩ := success
      exact .kept id (seasonStep_pledge quietly moved)
  | _ =>
      refine .kept id fun roundKey entryKey => ?_
      rw [ProgramState.pledge, ProgramState.pledge, framed.deployment id]

--------------------------------------------------------------------------------
-- Submitted flowers
--------------------------------------------------------------------------------

/-- A flower that is submitted exists at the address. -/
def SubmittedAt (flowers : Store FlowerKey FlowerRecord) (flowerKey : FlowerKey) : Prop :=
  ∃ flower, flowers.lookup flowerKey = some flower ∧ flower.status = .submitted

/-- Writing one flower moves that flower only. -/
theorem submittedAt_insert {flowers : Store FlowerKey FlowerRecord} {written : FlowerKey}
    {flower : FlowerRecord} {flowerKey : FlowerKey}
    : SubmittedAt (flowers.insert written flower) flowerKey
      ↔ if flowerKey = written then flower.status = .submitted
        else SubmittedAt flowers flowerKey := by
  simp only [SubmittedAt, Store.lookup_insert_apply]
  split <;> simp

/-- A flower that neither was nor becomes submitted is written. -/
theorem submittedAt_insert_other {flowers : Store FlowerKey FlowerRecord} {written : FlowerKey}
    {flower : FlowerRecord} {flowerKey : FlowerKey} (before : ¬ SubmittedAt flowers written)
    (unsubmitted : flower.status ≠ .submitted)
    : SubmittedAt (flowers.insert written flower) flowerKey ↔ SubmittedAt flowers flowerKey := by
  rw [submittedAt_insert]
  split
  · next here =>
      subst here
      exact iff_of_false unsubmitted before
  · exact Iff.rfl

/-- A flower that was not submitted is removed. -/
theorem submittedAt_erase {flowers : Store FlowerKey FlowerRecord} {removed flowerKey : FlowerKey}
    (before : ¬ SubmittedAt flowers removed)
    : SubmittedAt (flowers.erase removed) flowerKey ↔ SubmittedAt flowers flowerKey := by
  by_cases here : flowerKey = removed
  · subst here
    simp [SubmittedAt] at before ⊢
    exact before
  · simp [SubmittedAt, AList.lookup_erase_ne here]

/-- A flower of another status is not submitted. -/
theorem not_submittedAt {flowers : Store FlowerKey FlowerRecord} {flowerKey : FlowerKey}
    {flower : FlowerRecord} (found : flowers.lookup flowerKey = some flower)
    (unsubmitted : flower.status ≠ .submitted) : ¬ SubmittedAt flowers flowerKey := by
  rintro ⟨other, same, submitted⟩
  cases found.symm.trans same
  exact unsubmitted submitted

theorem not_submittedAt_of_none {flowers : Store FlowerKey FlowerRecord} {flowerKey : FlowerKey}
    (unused : flowers.lookup flowerKey = none) : ¬ SubmittedAt flowers flowerKey := by
  rintro ⟨other, same, _⟩
  cases unused.symm.trans same

/-- Ending an experiment moves no submitted flower: its parents are locked. -/
theorem submittedAt_resolve
    (nursery : Nursery state.flowers state.experiments state.mints)
    {experimentKey : ExperimentKey} {accounts : ExperimentAccounts}
    (status : ExperimentStatus) (errorCode : Nat)
    (loaded : Loaded state experimentKey accounts)
    (queued : accounts.experiment.status = .queued) {flowerKey : FlowerKey}
    : SubmittedAt (resolveExperiment env experimentKey accounts status errorCode state).flowers
          flowerKey
        ↔ SubmittedAt state.flowers flowerKey := by
  have held (parent : FlowerKey) (inside : parent ∈ Experiment.parents accounts.experiment)
      : ¬ SubmittedAt state.flowers parent := by
    obtain ⟨flower, found, locked, _⟩ := nursery.held ⟨loaded.experiment, queued⟩ parent inside
    exact not_submittedAt found (by simp [locked])
  have first := held _ (by simp [Experiment.parents] : accounts.experiment.parentA ∈ _)
  have second := held _ (by simp [Experiment.parents] : accounts.experiment.parentB ∈ _)
  refine (submittedAt_insert_other ?_ (by simp)).trans
    (submittedAt_insert_other first (by simp))
  rwa [submittedAt_insert_other first (by simp)]

/-- The offspring of an experiment that has not completed is not submitted, but locked. -/
theorem not_submittedAt_of_young
    (nursery : Nursery state.flowers state.experiments state.mints) {flowerKey : FlowerKey}
    {flower : FlowerRecord} {experimentKey : ExperimentKey} {experiment : Experiment}
    (found : state.flowers.lookup flowerKey = some flower)
    (source : flower.sourceExperiment = some experimentKey)
    (present : state.experiments.lookup experimentKey = some experiment)
    (incomplete : experiment.status ≠ .completed) : ¬ SubmittedAt state.flowers flowerKey := by
  have locked := (nursery.grown found).resolve_right (not_grown source present incomplete)
  exact not_submittedAt found (by simp [locked])

/-- Queueing an experiment moves no submitted flower: its parents were active. -/
theorem Bred.submittedAt {flowerA flowerB : FlowerKey} {syncA syncB : SyncAccounts}
    {computationOffset : Nat}
    (bred : Bred env state flowerA flowerB syncA syncB computationOffset after)
    (flowerKey : FlowerKey)
    : SubmittedAt after.flowers flowerKey ↔ SubmittedAt state.flowers flowerKey := by
  cases bred with
  | queued player apart foundA activeA foundB activeB unstarted unused =>
      have first := not_submittedAt foundA (by simp [activeA])
      have second := not_submittedAt foundB (by simp [activeB])
      refine (submittedAt_insert_other ?_ (by simp [newOffspring])).trans
        ((submittedAt_insert_other ?_ (by simp [lockedParent])).trans
          (submittedAt_insert_other first (by simp [lockedParent])))
      · exact not_submittedAt_of_none (unused_after_parents foundA foundB unused)
      · rwa [submittedAt_insert_other first (by simp [lockedParent])]

/-- Instructions that move no pledge leave the same flowers submitted, by cases on the change. -/
theorem Change.submittedAt (change : Change submission state after)
    (nursery : Nursery state.flowers state.experiments state.mints)
    (other : ¬ submission.instruction.MovesEntry) (flowerKey : FlowerKey)
    : SubmittedAt after.flowers flowerKey ↔ SubmittedAt state.flowers flowerKey := by
  cases change with
  | kept _ flowers _ => rw [flowers]
  | created _ _ flowers _ => rw [flowers]
  | claimed _ _ unused _ flowers _ =>
      rw [flowers]
      constructor
      · rintro ⟨flower, found, submitted⟩
        rcases plantStarters_origin found with old | ⟨index, _, rfl⟩
        · exact ⟨flower, old, submitted⟩
        · cases submitted
      · rintro ⟨flower, found, submitted⟩
        exact ⟨flower, lookup_plantStarters unused found, submitted⟩
  | bred _ bred => exact bred.submittedAt flowerKey
  | completed loaded queued found notA notB done =>
      subst done
      obtain ⟨offspring, same, source⟩ := nursery.offspring ⟨loaded.experiment, queued⟩
      cases found.symm.trans same
      have young := not_submittedAt_of_young nursery found source loaded.experiment
        (by simp [queued])
      refine (submittedAt_insert_other ?_ (by simp [grownOffspring])).trans
        (submittedAt_resolve nursery _ _ loaded queued)
      rwa [submittedAt_resolve nursery _ _ loaded queued]
  | abandoned loaded queued dead done =>
      subst done
      exact submittedAt_resolve nursery _ _ loaded queued
  | reclaimed present dead found source player done =>
      subst done
      exact submittedAt_erase (not_submittedAt_of_young nursery found source present
        (by rcases dead with dead | dead <;> simp [dead]))
  | closed found active unminted player done =>
      subst done
      exact submittedAt_erase (not_submittedAt found (by simp [active]))
  | used used progress flowers experiments status =>
      rw [flowers, submittedAt_insert]
      split
      · next here =>
          subst here
          rw [status.resolve_left other, SubmittedAt]
          simp [used.found]
      · exact Iff.rfl

--------------------------------------------------------------------------------
-- The invariant
--------------------------------------------------------------------------------

/-- An entry that has not given its flower back. -/
def Unreleased (state : ProgramState) (roundKey : RoundKey) (entryKey : Pubkey)
    (flowerKey : FlowerKey) : Prop :=
  ∃ ledger entry,
    state.rounds.lookup roundKey = some ledger
    ∧ ledger.entries.lookup entryKey = some entry
    ∧ entry.round = ledger.round.key
    ∧ entry.flowerRecord = flowerKey
    ∧ entry.status = .submitted

theorem pledge_eq_submitted {roundKey : RoundKey} {entryKey : Pubkey} {flowerKey : FlowerKey}
    : state.pledge roundKey entryKey = some (flowerKey, .submitted)
      ↔ Unreleased state roundKey entryKey flowerKey := by
  rw [ProgramState.pledge, Option.bind_eq_some_iff]
  constructor
  · rintro ⟨ledger, round, pledged⟩
    obtain ⟨entry, facts⟩ := pledge_eq_some.mp pledged
    exact ⟨ledger, entry, round, facts⟩
  · rintro ⟨ledger, entry, round, facts⟩
    exact ⟨ledger, round, pledge_eq_some.mpr ⟨entry, facts⟩⟩

/-- Unreleased entries and submitted flowers belong together. -/
structure Pledged (state : ProgramState) : Prop where
  held : ∀ {roundKey entryKey flowerKey},
    Unreleased state roundKey entryKey flowerKey → SubmittedAt state.flowers flowerKey
  named : ∀ {flowerKey},
    SubmittedAt state.flowers flowerKey
    → ∃ roundKey entryKey, Unreleased state roundKey entryKey flowerKey
  unique : ∀ {roundKey otherRound entryKey otherEntry flowerKey},
    Unreleased state roundKey entryKey flowerKey
    → Unreleased state otherRound otherEntry flowerKey
    → otherRound = roundKey ∧ otherEntry = entryKey

/-- The same pledges of the same flowers. -/
theorem Pledged.of_same (pledged : Pledged state)
    (pledges
      : ∀ roundKey entryKey, after.pledge roundKey entryKey = state.pledge roundKey entryKey)
    (flowers
      : ∀ flowerKey, SubmittedAt after.flowers flowerKey ↔ SubmittedAt state.flowers flowerKey)
    : Pledged after := by
  have same (roundKey : RoundKey) (entryKey : Pubkey) (flowerKey : FlowerKey)
      : Unreleased after roundKey entryKey flowerKey
        ↔ Unreleased state roundKey entryKey flowerKey := by
    rw [← pledge_eq_submitted, ← pledge_eq_submitted, pledges]
  constructor
  · intro roundKey entryKey flowerKey entered
    exact (flowers _).mpr (pledged.held ((same _ _ _).mp entered))
  · intro flowerKey submitted
    obtain ⟨roundKey, entryKey, entered⟩ := pledged.named ((flowers _).mp submitted)
    exact ⟨roundKey, entryKey, (same _ _ _).mpr entered⟩
  · intro _ _ _ _ _ first second
    exact pledged.unique ((same _ _ _).mp first) ((same _ _ _).mp second)

/-- A new entry pledges a flower that no entry had pledged, since it was active. -/
theorem Pledged.enter (pledged : Pledged state) {roundKey : RoundKey} {entryKey : Pubkey}
    {flowerKey : FlowerKey} {record flower : FlowerRecord}
    (unused : state.pledge roundKey entryKey = none)
    (moved
      : ∀ otherRound other,
          after.pledge otherRound other
            = if otherRound = roundKey ∧ other = entryKey then some (flowerKey, .submitted)
              else state.pledge otherRound other)
    (found : state.flowers.lookup flowerKey = some record) (active : record.status = .active)
    (submitted : flower.status = .submitted)
    (flowers : after.flowers = state.flowers.insert flowerKey flower) : Pledged after := by
  have before : ¬ SubmittedAt state.flowers flowerKey := not_submittedAt found (by simp [active])
  have entered {otherRound : RoundKey} {other : Pubkey} {otherFlower : FlowerKey}
      : Unreleased after otherRound other otherFlower
        ↔ (otherRound = roundKey ∧ other = entryKey) ∧ otherFlower = flowerKey
          ∨ Unreleased state otherRound other otherFlower := by
    rw [← pledge_eq_submitted, ← pledge_eq_submitted, moved]
    split
    · next here =>
        obtain ⟨rfl, rfl⟩ := here
        simp [unused, eq_comm]
    · next elsewhere => simp [elsewhere]
  constructor
  · intro otherRound other otherFlower pledge
    rw [flowers, submittedAt_insert]
    split
    · exact submitted
    · next distinct =>
        rcases entered.mp pledge with ⟨_, same⟩ | old
        · exact absurd same distinct
        · exact pledged.held old
  · intro otherFlower present
    rw [flowers, submittedAt_insert] at present
    split at present
    · next here => exact ⟨roundKey, entryKey, entered.mpr (.inl ⟨⟨rfl, rfl⟩, here⟩)⟩
    · obtain ⟨otherRound, other, old⟩ := pledged.named present
      exact ⟨otherRound, other, entered.mpr (.inr old)⟩
  · intro first second _ _ _ one another
    rcases entered.mp one with ⟨⟨rfl, rfl⟩, rfl⟩ | one
    · rcases entered.mp another with ⟨same, _⟩ | another
      · exact same
      · exact absurd (pledged.held another) before
    · rcases entered.mp another with ⟨_, rfl⟩ | another
      · exact absurd (pledged.held one) before
      · exact pledged.unique one another

/-- A release ends the only pledge of its flower. -/
theorem Pledged.release (pledged : Pledged state) {roundKey : RoundKey} {entryKey : Pubkey}
    {flowerKey : FlowerKey} {flower : FlowerRecord}
    (pending : state.pledge roundKey entryKey = some (flowerKey, .submitted))
    (moved
      : ∀ otherRound other,
          after.pledge otherRound other
            = if otherRound = roundKey ∧ other = entryKey then some (flowerKey, .released)
              else state.pledge otherRound other)
    (active : flower.status = .active)
    (flowers : after.flowers = state.flowers.insert flowerKey flower) : Pledged after := by
  have pledge := pledge_eq_submitted.mp pending
  have remaining {otherRound : RoundKey} {other : Pubkey} {otherFlower : FlowerKey}
      : Unreleased after otherRound other otherFlower
        ↔ otherFlower ≠ flowerKey ∧ Unreleased state otherRound other otherFlower := by
    rw [← pledge_eq_submitted, moved]
    split
    · next here =>
        obtain ⟨rfl, rfl⟩ := here
        rw [← pledge_eq_submitted, pending]
        simp [eq_comm]
    · next elsewhere =>
        rw [pledge_eq_submitted]
        refine ⟨fun old => ⟨?_, old⟩, And.right⟩
        rintro rfl
        exact elsewhere (pledged.unique pledge old)
  constructor
  · intro otherRound other otherFlower old
    obtain ⟨distinct, old⟩ := remaining.mp old
    rw [flowers, submittedAt_insert, if_neg distinct]
    exact pledged.held old
  · intro otherFlower present
    rw [flowers, submittedAt_insert] at present
    split at present
    · rw [active] at present
      cases present
    · next distinct =>
        obtain ⟨otherRound, other, old⟩ := pledged.named present
        exact ⟨otherRound, other, remaining.mpr ⟨distinct, old⟩⟩
  · intro _ _ _ _ _ one another
    exact pledged.unique (remaining.mp one).2 (remaining.mp another).2

/-- Every accepted instruction keeps pledges and flowers together. -/
theorem Pledged.step (pledged : Pledged state)
    (nursery : Nursery state.flowers state.experiments state.mints)
    (success : gardenStep state submission = .ok after) : Pledged after := by
  cases gardenStep_pledging success with
  | kept other same =>
      exact pledged.of_same same ((gardenStep_change nursery success).submittedAt nursery other)
  | entered asked unused moved found active submitted flowers =>
      exact pledged.enter unused moved found active submitted flowers
  | released asked round finalized pending moved found submitted active flowers =>
      exact pledged.release pending moved active flowers

/-- Pledges and flowers stay together throughout every run. -/
theorem pledged_of_run {condition : ProgramState → GardenSubmission → Prop}
    {start : ProgramState} (fresh : start.Fresh) {history : List GardenSubmission}
    (run : Run gardenStep condition start history state) : Pledged state := by
  refine run.invariant_with (nursery_of_run fresh) ?_ fun nursery pledged _ success =>
    pledged.step nursery success
  constructor
  · rintro roundKey entryKey flowerKey ⟨ledger, entry, round, _⟩
    rw [fresh.deployment.rounds] at round
    cases round
  · rintro flowerKey ⟨flower, found, _⟩
    rw [fresh.flowers] at found
    cases found
  · rintro roundKey _ _ _ _ ⟨ledger, entry, round, _⟩
    rw [fresh.deployment.rounds] at round
    cases round

--------------------------------------------------------------------------------
-- What an unreleased entry promises
--------------------------------------------------------------------------------

/-- The instructions that would take the flower elsewhere: as a parent, by deleting it, or into
another entry.
-/
def GardenInstruction.Consumes (flowerKey : FlowerKey) : GardenInstruction → Prop
  | .startBreeding flowerA flowerB _ _ _ => flowerKey = flowerA ∨ flowerKey = flowerB
  | .reclaimDeadOffspring _ offspringKey _ => flowerKey = offspringKey
  | .closeFlower closed => flowerKey = closed
  | .submitEntry _ _ entered _ _ => flowerKey = entered
  | _ => False

/-- The release of an entry. -/
def GardenInstruction.Releases (roundKey : RoundKey) (entryKey : Pubkey)
    : GardenInstruction → Prop
  | .releaseFlower round entry _ _ => round = roundKey ∧ entry = entryKey
  | _ => False

instance (roundKey : RoundKey) (entryKey : Pubkey) (instruction : GardenInstruction)
    : Decidable (instruction.Releases roundKey entryKey) := by
  unfold GardenInstruction.Releases
  rcases instruction <;> infer_instance

theorem movesEntry_of_releases {roundKey : RoundKey} {entryKey : Pubkey}
    {instruction : GardenInstruction} (releases : instruction.Releases roundKey entryKey)
    : instruction.MovesEntry := by
  cases instruction with
  | releaseFlower => trivial
  | _ => exact releases.elim

/-- A submitted flower is consumed by nothing. -/
theorem not_consumed (nursery : Nursery state.flowers state.experiments state.mints)
    {flowerKey : FlowerKey} (pledged : SubmittedAt state.flowers flowerKey)
    (success : gardenStep state submission = .ok after)
    : ¬ submission.instruction.Consumes flowerKey := by
  have active {record : FlowerRecord} (found : state.flowers.lookup flowerKey = some record)
      (unsubmitted : record.status ≠ .submitted) : False :=
    not_submittedAt found unsubmitted pledged
  obtain ⟨signer, slot, now, instruction⟩ := submission
  intro consumes
  cases instruction with
  | startBreeding flowerA flowerB syncA syncB computationOffset =>
      cases startBreeding_success success with
      | queued player apart foundA activeA foundB activeB =>
          rcases consumes with rfl | rfl
          · exact active foundA (by simp [activeA])
          · exact active foundB (by simp [activeB])
  | reclaimDeadOffspring experimentKey offspringKey ownerRecipient =>
      obtain ⟨experiment, offspring, _, present, dead, found, source, _, _⟩ :=
        reclaimDeadOffspring_success success
      obtain rfl : flowerKey = offspringKey := consumes
      exact not_submittedAt_of_young nursery found source present
        (by rcases dead with dead | dead <;> simp [dead]) pledged
  | closeFlower closed =>
      obtain ⟨_, flower, found, _, unlocked, _⟩ := closeFlower_success success
      obtain rfl : flowerKey = closed := consumes
      exact active found (by simp [unlocked])
  | submitEntry roundKey entryKey entered playerSgdAta accounts =>
      obtain ⟨_, record, _, _, _, used, unlocked, _⟩ := submitEntry_success success
      obtain rfl : flowerKey = entered := consumes
      exact active used.found (by simp [unlocked])
  | _ => exact consumes

/-- An entry keeps its pledge until it is released, and is released only once its round is over. -/
theorem unreleased_step {roundKey : RoundKey} {entryKey : Pubkey} {flowerKey : FlowerKey}
    (entered : Unreleased state roundKey entryKey flowerKey)
    (success : gardenStep state submission = .ok after)
    : Unreleased after roundKey entryKey flowerKey
      ∨ submission.instruction.Releases roundKey entryKey
        ∧ ∃ ledger,
            state.rounds.lookup roundKey = some ledger ∧ ledger.round.status = .finalized := by
  rw [← pledge_eq_submitted] at entered ⊢
  cases gardenStep_pledging success with
  | kept other same => exact .inl ((same _ _).trans entered)
  | entered asked unused moved =>
      left
      rw [moved, if_neg]
      · exact entered
      · rintro ⟨rfl, rfl⟩
        rw [unused] at entered
        cases entered
  | @released released entry _ _ ledger _ _ asked round finalized pending moved =>
      by_cases here : roundKey = released ∧ entryKey = entry
      · obtain ⟨rfl, rfl⟩ := here
        rw [asked]
        exact .inr ⟨⟨rfl, rfl⟩, ledger, round, finalized⟩
      · left
        rw [moved, if_neg here]
        exact entered

/-- Over a run an entry keeps its pledge unless the run releases it, by the steps of the run. -/
theorem unreleased_of_run {roundKey : RoundKey} {entryKey : Pubkey} {flowerKey : FlowerKey}
    (entered : Unreleased state roundKey entryKey flowerKey) {more : List GardenSubmission}
    {later : ProgramState} (run : Run gardenStep anyAction state more later)
    : Unreleased later roundKey entryKey flowerKey
      ∨ ∃ submission ∈ more, submission.instruction.Releases roundKey entryKey := by
  induction run with
  | start => exact .inl entered
  | accepted earlier _ success ih =>
      rcases ih with still | ⟨release, member, releases⟩
      · rcases unreleased_step still success with kept | ⟨releases, _⟩
        · exact .inl kept
        · exact .inr ⟨_, by simp, releases⟩
      · exact .inr ⟨release, List.mem_append_left _ member, releases⟩
  | rejected _ _ ih => exact ih

/-- Count the releases of each entry. -/
def noteReleases (_ : ProgramState) (submission : GardenSubmission)
    (releases : RoundKey → Pubkey → Nat) : RoundKey → Pubkey → Nat :=
  fun roundKey entryKey =>
    releases roundKey entryKey
      + (decide (submission.instruction.Releases roundKey entryKey)).toNat

abbrev JournaledReleases : Type := Journaled ProgramState (RoundKey → Pubkey → Nat)

def releasing : JournaledReleases → GardenSubmission → Outcome JournaledReleases :=
  journaled gardenStep noteReleases

/-- Every entry has been released as often as its status says: once or not at all. -/
def ReleasedOnce (state : ProgramState) (releases : RoundKey → Pubkey → Nat) : Prop :=
  ∀ roundKey entryKey,
    releases roundKey entryKey
      = ((state.pledge roundKey entryKey).any fun pledge => pledge.2 == .released).toNat

theorem ReleasedOnce.step {releases : RoundKey → Pubkey → Nat}
    (counted : ReleasedOnce state releases) (success : gardenStep state submission = .ok after)
    : ReleasedOnce after (noteReleases state submission releases) := by
  intro roundKey entryKey
  rw [noteReleases, counted]
  cases gardenStep_pledging success with
  | kept other same =>
      rw [same, decide_eq_false (mt movesEntry_of_releases other), Bool.toNat_false,
        Nat.add_zero]
  | entered asked unused moved =>
      rw [moved, asked]
      split
      · next here =>
          obtain ⟨rfl, rfl⟩ := here
          rw [unused]
          rfl
      · rfl
  | @released released entry _ _ _ _ _ asked round finalized pending moved =>
      rw [moved, asked]
      split
      · next here =>
          obtain ⟨rfl, rfl⟩ := here
          rw [pending]
          simp [GardenInstruction.Releases]
      · next elsewhere =>
          rw [decide_eq_false, Bool.toNat_false, Nat.add_zero]
          rintro ⟨rfl, rfl⟩
          exact elsewhere ⟨rfl, rfl⟩

theorem ReleasedOnce.journaled {before later : JournaledReleases}
    (counted : ReleasedOnce before.system before.journal) (_ : anyAction before submission)
    (success : releasing before submission = .ok later)
    : ReleasedOnce later.system later.journal := by
  obtain ⟨moved, noted⟩ := journaled_eq_ok.mp success
  rw [noted]
  exact counted.step moved

/-- How entries hold their flowers. -/
structure SubmissionDiscipline (state : ProgramState) (releases : RoundKey → Pubkey → Nat)
    : Prop where
  /-- An unreleased entry names a flower that is there and submitted. -/
  held : ∀ {roundKey entryKey flowerKey},
    Unreleased state roundKey entryKey flowerKey
    → ∃ flower, state.flowers.lookup flowerKey = some flower ∧ flower.status = .submitted
  /-- A submitted flower is named by exactly one unreleased entry, of whichever round. -/
  named : ∀ {flowerKey flower},
    state.flowers.lookup flowerKey = some flower
    → flower.status = .submitted
    → ∃! entry : RoundKey × Pubkey, Unreleased state entry.1 entry.2 flowerKey
  unconsumed : ∀ {roundKey entryKey flowerKey submission after},
    Unreleased state roundKey entryKey flowerKey
    → gardenStep state submission = .ok after
    → ¬ submission.instruction.Consumes flowerKey
  lasting : ∀ {roundKey entryKey flowerKey more later},
    Unreleased state roundKey entryKey flowerKey
    → Run gardenStep anyAction state more later
    → Unreleased later roundKey entryKey flowerKey
      ∨ ∃ submission ∈ more, submission.instruction.Releases roundKey entryKey
  /-- A release finds the entry unreleased and its round finalized. -/
  finalized : ∀ {roundKey entryKey submission after},
    submission.instruction.Releases roundKey entryKey
    → gardenStep state submission = .ok after
    → ∃ flowerKey ledger,
        Unreleased state roundKey entryKey flowerKey
        ∧ state.rounds.lookup roundKey = some ledger
        ∧ ledger.round.status = .finalized
  once : ∀ roundKey entryKey, releases roundKey entryKey ≤ 1

/-- In every reachable state unreleased entries and submitted flowers correspond one to one, and
over every run a flower stays with its entry until that entry's only release.
-/
theorem submissions_disciplined {start : ProgramState} (fresh : start.Fresh)
    {history : List GardenSubmission} {reached : JournaledReleases}
    (run : Run releasing anyAction ⟨start, fun _ _ => 0⟩ history reached)
    : SubmissionDiscipline reached.system reached.journal := by
  have nursery := nursery_of_run fresh run.forget
  have pledged := pledged_of_run fresh run.forget
  have counted : ReleasedOnce reached.system reached.journal := by
    refine run.invariant ?_ ReleasedOnce.journaled
    intro roundKey entryKey
    rw [ProgramState.pledge, fresh.deployment.rounds]
    rfl
  refine ⟨pledged.held, fun found submitted => ?_, fun entered success => ?_,
    fun entered => unreleased_of_run entered, fun releases success => ?_,
    fun roundKey entryKey => ?_⟩
  · obtain ⟨roundKey, entryKey, entered⟩ := pledged.named ⟨_, found, submitted⟩
    exact ⟨⟨roundKey, entryKey⟩, entered, fun other another =>
      Prod.ext_iff.mpr (pledged.unique entered another)⟩
  · exact not_consumed nursery (pledged.held entered) success
  · cases gardenStep_pledging success with
    | kept other => exact absurd (movesEntry_of_releases releases) other
    | entered asked =>
        rw [asked] at releases
        exact releases.elim
    | released asked round finalized pending =>
        rw [asked] at releases
        obtain ⟨rfl, rfl⟩ := releases
        exact ⟨_, _, pledge_eq_submitted.mp pending, round, finalized⟩
  · rw [counted]
    exact Bool.toNat_le _

--------------------------------------------------------------------------------
-- A flower enters twice
--------------------------------------------------------------------------------

/-- Player 101 breeds a flower while round 1 is open. -/
def readyScript : List GardenSubmission :=
  let unsynced : SyncAccounts := ⟨0, 0, 0⟩
  [⟨7, 1000, 1, .season (.setSgdMint ⟨9, 6⟩)⟩,
    ⟨7, 1000, 1, .season (.openRound none ∅)⟩,
    ⟨101, 1000, 1, .createProfile⟩,
    ⟨101, 1000, 1, .claimStarters⟩,
    ⟨101, 1000, 1, .startBreeding ⟨101, 0⟩ ⟨101, 1⟩ unsynced unsynced 51⟩,
    ⟨66, 1000, 1, .breedV5Callback ⟨101, 0⟩ (some ⟨1, 1, 1⟩)⟩]

/-- A token account of player 101 appears with one entry fee. -/
def playerFunded (roundKey : RoundKey) : GardenSubmission :=
  ⟨66, 1000, 1, .season (.round roundKey
    (.outside (.changeWallet 301 { owner := 101, mint := 9, amount := entryFeeSgd })))⟩

/-- Player 101 enters one of its flowers. -/
def playerSubmits (roundKey : RoundKey) (entryKey : Pubkey) (flowerIndex : Nat)
    : GardenSubmission :=
  ⟨101, 1000, 1, .submitEntry roundKey entryKey ⟨101, flowerIndex⟩ 301 ⟨0, 0, 0⟩⟩

/-- The authority closes and finalizes a round. -/
def roundEnds (roundKey : RoundKey) : List GardenSubmission :=
  [⟨7, 1000, 1, .season (.round roundKey .closeRound)⟩,
    ⟨7, 1000, 1, .season (.round roundKey .finalizeRound)⟩]

/-- The bred flower enters round 1, is released after it, and enters round 2. -/
def enteredTwiceScript : List GardenSubmission :=
  readyScript ++ [playerFunded 1, playerSubmits 1 1 starterCount] ++ roundEnds 1
    ++ [⟨101, 1000, 1, .releaseFlower 1 1 ⟨101, starterCount⟩ ⟨0, 0, 0⟩⟩,
      ⟨7, 1000, 1, .season (.openRound (some 1) ∅)⟩,
      playerFunded 2, playerSubmits 2 2 starterCount]

theorem enteredTwiceScript_disciplined
    : ∃ reached : JournaledReleases,
        Run releasing anyAction ⟨sampleProgram, fun _ _ => 0⟩ enteredTwiceScript reached
        ∧ reached.system.pledge 1 1 = some (⟨101, starterCount⟩, .released)
        ∧ reached.system.pledge 2 2 = some (⟨101, starterCount⟩, .submitted)
        ∧ SubmissionDiscipline reached.system reached.journal := by
  have replayed : (replay releasing anyAction ⟨sampleProgram, fun _ _ => 0⟩
      enteredTwiceScript).any fun reached =>
        decide (reached.system.pledge 1 1 = some (⟨101, starterCount⟩, .released))
          && decide (reached.system.pledge 2 2 = some (⟨101, starterCount⟩, .submitted)) := by
    decide +kernel
  obtain ⟨reached, run, checked⟩ := Run.of_replay_any replayed
  obtain ⟨released, entered⟩ := Bool.and_eq_true_iff.mp checked
  exact ⟨reached, run, of_decide_eq_true released, of_decide_eq_true entered,
    submissions_disciplined sampleProgram_fresh run⟩

end SecretGarden.Garden
