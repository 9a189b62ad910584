import SecretGarden.Garden.Accounting
import SecretGarden.Garden.Changes
import SecretGarden.Garden.Rounds
import SecretGarden.Season.Lifecycle
import SecretGarden.Settlement.Schedule

/-! How long a flower rests against the deadline of the round in which its change of hands is
recorded. The cooldown computes an end from the time of the change, and that end leaves a
minimum length again, so a change in the last half day rests a day beyond the round.
-/

namespace SecretGarden.Garden

open Foundation SecretGarden.Bracket SecretGarden.Settlement SecretGarden.Season

--------------------------------------------------------------------------------
-- The deadline of an opened round
--------------------------------------------------------------------------------

/-- The deadline is the same. -/
def SameDeadline (ledger next : RoundLedger) : Prop :=
  next.round.endTime = ledger.round.endTime

/-- No run of the season moves the deadline of a round, by the steps of the run. -/
theorem deadlines_of_run {condition : Deployment → SeasonSubmission → Prop}
    {deployment after : Deployment} {history : List SeasonSubmission}
    (run : Run seasonStep condition deployment history after)
    : EachKept SameDeadline deployment after := by
  refine run.invariant (fun key ledger found => ⟨ledger, found, rfl⟩) ?_
  intro before submission next known _ success key ledger found
  obtain ⟨middle, present, earlier⟩ := known key ledger found
  have kept : EachKept SameDeadline before next :=
    eachKept_of_step (fun _ => rfl) (fun moved => (roundStep_advanced moved).endTime) success
  obtain ⟨last, held, later⟩ := kept key middle present
  exact ⟨last, held, Eq.trans later earlier⟩

variable {state after : ProgramState} {submission : GardenSubmission}

/-- An accepted opening creates the account of the round that is current afterwards. -/
theorem gardenStep_opened {opened : ProgramState} {opening : GardenSubmission}
    {previousRound : Option RoundKey} {funded : Store Pubkey Nat}
    (asked : opening.instruction = .season (.openRound previousRound funded))
    (success : gardenStep state opening = .ok opened)
    : ∃ ledger,
        opened.rounds.lookup opened.config.currentRound = some ledger
        ∧ ledger.round.endTime = roundEndTime opening.now := by
  obtain ⟨signer, slot, now, instruction⟩ := opening
  cases asked
  simp only [gardenStep, bind_eq_ok, require_eq_ok, exists_const, pure_eq_ok] at success
  obtain ⟨_, deployment, moved, rfl⟩ := success
  obtain ⟨_, _, rfl⟩ := openRound_success moved
  exact ⟨_, by rw [Store.lookup_insert_apply, if_pos rfl], rfl⟩

--------------------------------------------------------------------------------
-- The end of the rest
--------------------------------------------------------------------------------

/-- Within a round the end is computed as the round's own as long as it leaves the minimum
length.
-/
theorem roundEndTime_within {opened stamp : Int} (ordered : opened ≤ stamp)
    : roundEndTime stamp = roundEndTime opened
      ↔ stamp + minRoundDurationSeconds ≤ roundEndTime opened := by
  constructor
  · intro same
    have long := (roundEndTime_bounds stamp).2.1
    omega
  · intro left
    have admissible : roundEndTime opened ∈ EndTimes stamp :=
      ⟨(roundEndTime_bounds opened).1, by omega⟩
    exact Int.le_antisymm ((isLeast_roundEndTime stamp).2 admissible) (roundEndTime_mono ordered)

/-- A stamped flower rests exactly until the deadline of a round opened before, if and only if
the stamp is not the blank one and leaves the minimum length.
-/
theorem rests_until_iff {flower : FlowerRecord} {opened : Int}
    (ordered : opened ≤ flower.lastTransferAt)
    (inside : flower.lastTransferAt < roundEndTime opened)
    : (∀ now, flower.lastTransferAt ≤ now
        → (transferCooldownActive flower now ↔ now < roundEndTime opened))
      ↔ flower.lastTransferAt ≠ 0
        ∧ flower.lastTransferAt + minRoundDurationSeconds ≤ roundEndTime opened := by
  simp only [transferCooldownActive, decide_eq_true_eq]
  constructor
  · intro rests
    have stamped := ((rests _ le_rfl).mpr inside).1
    refine ⟨stamped, (roundEndTime_within ordered).mp ?_⟩
    apply Int.le_antisymm _ (roundEndTime_mono ordered)
    -- at the deadline itself the rest must be over
    by_contra longer
    exact absurd ((rests _ inside.le).mp ⟨stamped, Int.not_le.mp longer⟩) (lt_irrefl _)
  · rintro ⟨stamped, left⟩ now _
    rw [(roundEndTime_within ordered).mpr left]
    exact and_iff_right stamped

/-- A program opens a round at `openedAt`; before that round's deadline `endTime` another owner
of a flower goes on record at `stamp`.
-/
inductive MovedDuringRound (openedAt stamp endTime : Int) (flower : FlowerRecord) : Prop
  | moved {start earlier opened state after : ProgramState}
    {before between : List GardenSubmission} {opening submission : GardenSubmission}
    {previousRound : Option RoundKey} {funded : Store Pubkey Nat} {ledger : RoundLedger}
    {flowerKey : FlowerKey} {record : FlowerRecord}
    (fresh : start.Fresh)
    (run : Run gardenStep anyAction start before earlier)
    (asked : opening.instruction = .season (.openRound previousRound funded))
    (opens : gardenStep earlier opening = .ok opened)
    (openedAt : opening.now = openedAt)
    (onward : Run gardenStep anyAction opened between state)
    (running : state.rounds.lookup opened.config.currentRound = some ledger)
    (deadline : ledger.round.endTime = endTime)
    (success : gardenStep state submission = .ok after)
    (stamp : submission.now = stamp)
    (found : state.flowers.lookup flowerKey = some record)
    (present : after.flowers.lookup flowerKey = some flower)
    (changed : flower.owner ≠ record.owner)

/-- The round ends as it was opened to, and the flower bears the time of the change. -/
theorem MovedDuringRound.times {openedAt stamp endTime : Int} {flower : FlowerRecord}
    (moved : MovedDuringRound openedAt stamp endTime flower)
    : endTime = roundEndTime openedAt ∧ flower.lastTransferAt = stamp := by
  cases moved with
  | @moved start earlier opened state after before _ opening submission _ _ ledger flowerKey
      record fresh run asked opens openedAt onward running deadline success stamp found present
      changed =>
      constructor
      · obtain ⟨created, known, planned⟩ := gardenStep_opened asked opens
        obtain ⟨_, season⟩ := season_of_run onward
        obtain ⟨later, held, same⟩ := deadlines_of_run season _ created known
        cases running.symm.trans held
        rw [← deadline, same, planned, openedAt]
      · have nursery := nursery_of_run fresh ((run.accepted trivial opens).append onward)
        have step := (gardenStep_change nursery success).evolved.of_found found present
        rw [← stamp]
        cases step.moved with
        | kept owner => exact absurd owner changed
        | corrected _ _ _ _ stamped => exact stamped

/-- A flower that changed hands on record during a round rests exactly until that round's
deadline, if and only if the change is not stamped with the blank time and the deadline is at
least the minimum length of a round away.
-/
theorem rests_until_deadline_iff {openedAt stamp endTime : Int} {flower : FlowerRecord}
    (moved : MovedDuringRound openedAt stamp endTime flower)
    (ordered : openedAt ≤ stamp) (inside : stamp < endTime)
    : (∀ now, stamp ≤ now → (transferCooldownActive flower now ↔ now < endTime))
      ↔ stamp ≠ 0 ∧ stamp + minRoundDurationSeconds ≤ endTime := by
  obtain ⟨rfl, rfl⟩ := moved.times
  exact rests_until_iff ordered inside

--------------------------------------------------------------------------------
-- The sold flower
--------------------------------------------------------------------------------

/-- The buyer's use of the flower at a later time. -/
def buyerAsksAt (now : Int) : GardenSubmission := { buyerAsks with now := now }

/-- The round is opened as for the sale, and the buyer's use puts the new owner on record. -/
def recordsBuyer (now : Int) : Bool :=
  (replay gardenStep anyAction sampleProgram (soldScript.take 1)).any fun earlier =>
    (gardenStep earlier ⟨7, 1000, 1, .season (.openRound none ∅)⟩).toOption.any fun opened =>
      (replay gardenStep anyAction opened (soldScript.drop 2 ++ [buyerClaims])).any fun state =>
        (state.rounds.lookup opened.config.currentRound).any (fun ledger =>
          ledger.round.endTime == 122400)
        && (state.flowers.lookup ⟨101, starterCount⟩).any (fun record => record.owner == 101)
        && (gardenStep state (buyerAsksAt now)).toOption.any fun after =>
          (after.flowers.lookup ⟨101, starterCount⟩).any fun flower => flower.owner == 102

theorem exists_of_toOption_any {outcome : Outcome ProgramState} {check : ProgramState → Bool}
    (passed : outcome.toOption.any check) : ∃ result, outcome = .ok result ∧ check result := by
  cases outcome with
  | error => cases passed
  | ok result => exact ⟨result, rfl, passed⟩

theorem movedDuringRound_of_recordsBuyer (now : Int) (recorded : recordsBuyer now)
    : ∃ flower, MovedDuringRound 1 now 122400 flower := by
  obtain ⟨earlier, run, opens⟩ := Run.of_replay_any recorded
  obtain ⟨opened, opening, continued⟩ := exists_of_toOption_any opens
  obtain ⟨state, onward, checked⟩ := Run.of_replay_any continued
  obtain ⟨facts, asks⟩ := Bool.and_eq_true_iff.mp checked
  obtain ⟨ends, sold⟩ := Bool.and_eq_true_iff.mp facts
  obtain ⟨ledger, running, deadline⟩ := (Option.any_eq_true _ _).mp ends
  obtain ⟨record, found, seller⟩ := (Option.any_eq_true _ _).mp sold
  obtain ⟨after, success, bought⟩ := exists_of_toOption_any asks
  obtain ⟨flower, present, buyer⟩ := (Option.any_eq_true _ _).mp bought
  have changed : flower.owner ≠ record.owner := by
    rw [eq_of_beq seller, eq_of_beq buyer]
    decide
  exact ⟨flower, .moved sampleProgram_fresh run rfl opening rfl onward running (eq_of_beq deadline)
    success rfl found present changed⟩

/-- A change recorded in the second of the opening rests until the deadline. -/
theorem recordedEarly_rests_until_deadline
    : ∃ flower,
        MovedDuringRound 1 1 122400 flower
        ∧ ∀ now, (1 : Int) ≤ now → (transferCooldownActive flower now ↔ now < 122400) := by
  obtain ⟨flower, moved⟩ := movedDuringRound_of_recordsBuyer 1 (by decide +kernel)
  exact ⟨flower, moved,
    (rests_until_deadline_iff moved (by decide) (by decide)).mpr (by decide)⟩

/-- A change recorded six hours before the deadline still rests when the round has ended. -/
theorem recordedLate_rests_longer
    : ¬ ∀ (openedAt stamp endTime : Int) (flower : FlowerRecord),
        MovedDuringRound openedAt stamp endTime flower
        → openedAt ≤ stamp
        → stamp < endTime
        → ∀ now, stamp ≤ now → (transferCooldownActive flower now ↔ now < endTime) := by
  intro always
  obtain ⟨flower, moved⟩ := movedDuringRound_of_recordsBuyer 100800 (by decide +kernel)
  have rests := always _ _ _ _ moved (by decide) (by decide) 122400 (by decide)
  have active : transferCooldownActive flower 122400 := by
    rw [transferCooldownActive, moved.times.2]
    decide
  exact absurd (rests.mp active) (by decide)

end SecretGarden.Garden
