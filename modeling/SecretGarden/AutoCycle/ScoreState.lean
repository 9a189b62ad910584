import SecretGarden.Settlement.Scoring

/-! How the cycle reads the outcome of a scoring from the entry's flags, against what happened
to the computations that were queued for it. The error code is never reset, and a failure is
written whichever of the computations it belongs to.
-/

namespace SecretGarden.AutoCycle

open Foundation SecretGarden.Bracket SecretGarden.Settlement

/-- What became of a scoring, as the cycle tells it. -/
inductive ScoreState where
  | scored
  | aborted
  | cleared
  | inFlight
deriving DecidableEq, Repr

/-- Read the outcome from the entry alone. -/
def classifyScoreState (entry : CompetitionEntry) : ScoreState :=
  if entry.scored then .scored
  else if entry.scoreQueued then .inFlight
  else if entry.scoreErrorCode ≠ 0 then .aborted
  else .cleared

--------------------------------------------------------------------------------
-- What happened
--------------------------------------------------------------------------------

/-- The most recent queueing of an entry, and how it ended. -/
inductive LatestQueueing where
  | never
  | outstanding (computationOffset : Nat)
  | failed
  | cancelled
deriving DecidableEq

structure ScoreHistory where
  /-- A success callback was accepted. -/
  succeeded : Bool
  latest : LatestQueueing
deriving DecidableEq

def ScoreHistory.blank : ScoreHistory := ⟨false, .never⟩

/-- What an accepted instruction adds to an entry's history. A failed callback ends the most
recent queueing only if it is that queueing's own and nothing ended it before.
-/
def noteScore (entryKey : Pubkey) (ledger : RoundLedger) (submission : RoundSubmission)
    (history : ScoreHistory) : ScoreHistory :=
  match submission.instruction with
  | .queueScoreEntry computationOffset queuedKey _ =>
      if queuedKey = entryKey then { history with latest := .outstanding computationOffset }
      else history
  | .scoreEntryV2Callback computationOffset output =>
      if ledger.scoreComputations.lookup computationOffset = some entryKey then
        match output with
        | some _ => { history with succeeded := true }
        | none =>
            if history.latest = .outstanding computationOffset then
              { history with latest := .failed }
            else history
      else history
  | .cancelStuckScore cancelledKey =>
      if cancelledKey = entryKey then { history with latest := .cancelled } else history
  | _ => history

/-- What the history amounts to. -/
def ScoreHistory.outcome (history : ScoreHistory) : ScoreState :=
  if history.succeeded then .scored
  else
    match history.latest with
    | .never => .cleared
    | .outstanding _ => .inFlight
    | .failed => .aborted
    | .cancelled => .cleared

/-- A round with the scoring history of one entry. -/
abbrev ScoredRound : Type := Journaled RoundLedger ScoreHistory

def scoredRound (entryKey : Pubkey) : ScoredRound → RoundSubmission → Outcome ScoredRound :=
  journaled roundStep (noteScore entryKey)

/-- The entry as it is read, if it is an entry of the round. -/
def reading (entryKey : Pubkey) (ledger : RoundLedger) : Option ScoreState :=
  ((ledger.entries.lookup entryKey).filter fun entry => entry.round = ledger.round.key).map
    classifyScoreState

/-- The cycle reads what happened. -/
def RightlyRead (entryKey : Pubkey) (state : ScoredRound) : Prop :=
  ∀ read ∈ reading entryKey state.system, read = state.journal.outcome

/-- A cancellation finds an entry no scoring of which has failed yet; a failure that reaches the
unscored entry is the most recent queueing's own, or comes after that one.
-/
def EndsInTurn (entryKey : Pubkey) (before : ScoredRound) (submission : RoundSubmission) : Prop :=
  match submission.instruction with
  | .cancelStuckScore cancelledKey =>
      cancelledKey = entryKey
      → ∀ entry ∈ before.system.entries.lookup entryKey,
          entry.round = before.system.round.key → entry.scoreErrorCode = 0
  | .scoreEntryV2Callback computationOffset none =>
      before.system.scoreComputations.lookup computationOffset = some entryKey
      → ∀ entry ∈ before.system.entries.lookup entryKey,
          entry.scored = false
          → before.journal.latest = .outstanding computationOffset
            ∨ before.journal.latest = .failed
  | _ => True

instance (entryKey : Pubkey) (before : ScoredRound) (submission : RoundSubmission)
    : Decidable (EndsInTurn entryKey before submission) := by
  unfold EndsInTurn
  generalize submission.instruction = instruction
  rcases instruction
  case scoreEntryV2Callback output => rcases output <;> infer_instance
  all_goals infer_instance

--------------------------------------------------------------------------------
-- What an instruction does to the reading
--------------------------------------------------------------------------------

variable {entryKey : Pubkey} {ledger after : RoundLedger} {submission : RoundSubmission}

theorem reading_of_found {entry : CompetitionEntry}
    (found : ledger.entries.lookup entryKey = some entry) (own : entry.round = ledger.round.key)
    : reading entryKey ledger = some (classifyScoreState entry) := by
  rw [reading, found, Option.filter_some, if_pos (by simpa using own), Option.map_some]

/-- The reading depends on the entry and the round's identity only. -/
theorem reading_of_same (entries : after.entries.lookup entryKey = ledger.entries.lookup entryKey)
    (round : after.round.key = ledger.round.key)
    : reading entryKey after = reading entryKey ledger := by
  rw [reading, reading, entries, round]

/-- Writing another entry leaves the reading. -/
theorem reading_of_other {written : Pubkey} {entry : CompetitionEntry}
    (entries : after.entries = ledger.entries.insert written entry) (other : entryKey ≠ written)
    (round : after.round.key = ledger.round.key)
    : reading entryKey after = reading entryKey ledger := by
  refine reading_of_same ?_ round
  rw [entries, Store.lookup_insert_apply, if_neg other]

/-- The reading after the entry is written. -/
theorem reading_of_written {entry : CompetitionEntry}
    (entries : after.entries = ledger.entries.insert entryKey entry)
    (round : after.round.key = ledger.round.key)
    : reading entryKey after
      = if entry.round = ledger.round.key then some (classifyScoreState entry) else none := by
  rw [reading, entries, Store.lookup_insert_apply, if_pos rfl, round, Option.filter_some]
  by_cases own : entry.round = ledger.round.key <;> simp [own]

/-- What an accepted instruction does to the reading and the history of one entry. -/
inductive ReadingChange (entryKey : Pubkey) (before : ScoredRound) (submission : RoundSubmission)
    (after : ScoredRound) : Prop
  | kept
    (reads : reading entryKey after.system = reading entryKey before.system)
    (journal : after.journal = before.journal)
    (inTurn : EndsInTurn entryKey before submission)
  | elsewhere
    (present : after.system.entries.lookup entryKey ≠ none)
    (reads : reading entryKey after.system = none)
    (inTurn : EndsInTurn entryKey before submission)
  | entered
    (unused : before.system.entries.lookup entryKey = none)
    (reads : reading entryKey after.system = some .cleared)
    (journal : after.journal = before.journal)
    (inTurn : EndsInTurn entryKey before submission)
  | queued {entry : CompetitionEntry} {computationOffset : Nat}
    (found : before.system.entries.lookup entryKey = some entry)
    (own : entry.round = before.system.round.key)
    (unscored : entry.scored = false)
    (reads : reading entryKey after.system = some .inFlight)
    (journal
      : after.journal = { before.journal with latest := .outstanding computationOffset })
    (inTurn : EndsInTurn entryKey before submission)
  | cancelled {entry : CompetitionEntry}
    (found : before.system.entries.lookup entryKey = some entry)
    (own : entry.round = before.system.round.key)
    (unscored : entry.scored = false)
    (reads
      : reading entryKey after.system
        = some (if entry.scoreErrorCode ≠ 0 then .aborted else .cleared))
    (journal : after.journal = { before.journal with latest := .cancelled })
    (inTurn : EndsInTurn entryKey before submission ↔ entry.scoreErrorCode = 0)
  | failed {entry : CompetitionEntry} {computationOffset : Nat}
    (found : before.system.entries.lookup entryKey = some entry)
    (own : entry.round = before.system.round.key)
    (unscored : entry.scored = false)
    (reads : reading entryKey after.system = some .aborted)
    (journal
      : after.journal
        = if before.journal.latest = .outstanding computationOffset then
            { before.journal with latest := .failed }
          else before.journal)
    (inTurn
      : EndsInTurn entryKey before submission
        ↔ before.journal.latest = .outstanding computationOffset
          ∨ before.journal.latest = .failed)
  | succeeded
    (reads : reading entryKey after.system = some .scored)
    (journal : after.journal = { before.journal with succeeded := true })
    (inTurn : EndsInTurn entryKey before submission)
  | tooLate
    (reading_before : reading entryKey before.system = some .scored)
    (reads : reading entryKey after.system = some .scored)
    (journal : before.journal.succeeded → after.journal.succeeded)
    (inTurn : EndsInTurn entryKey before submission)

/-- A queued scoring of the entry puts it in flight; other entries are left alone. -/
theorem readingChange_of_queue {before after : ScoredRound} {env : Env} {computationOffset : Nat}
    {queuedKey : Pubkey} {flowerKey : FlowerKey}
    (success
      : roundStep before.system ⟨env, .queueScoreEntry computationOffset queuedKey flowerKey⟩
        = .ok after.system)
    (noted
      : after.journal
        = noteScore entryKey before.system
            ⟨env, .queueScoreEntry computationOffset queuedKey flowerKey⟩ before.journal)
    : ReadingChange entryKey before ⟨env, .queueScoreEntry computationOffset queuedKey flowerKey⟩
        after := by
  obtain ⟨entry, checks, frame⟩ := queueScoreEntry_checked success
  have entries := congrArg (fun ledger : RoundLedger => ledger.entries) frame
  have key := (roundStep_advanced success).key
  simp only [noteScore] at noted
  by_cases own : queuedKey = entryKey
  · subst own
    rw [if_pos rfl] at noted
    refine .queued checks.found checks.own checks.unscored ?_ noted trivial
    rw [reading_of_written entries key, if_pos checks.own]
    simp [classifyScoreState, checks.unscored]
  · rw [if_neg own] at noted
    exact .kept (reading_of_other entries (Ne.symm own) key) noted trivial

/-- A cancellation leaves the error code of the entry to be read. -/
theorem readingChange_of_cancel {before after : ScoredRound} {env : Env} {cancelledKey : Pubkey}
    (success : roundStep before.system ⟨env, .cancelStuckScore cancelledKey⟩ = .ok after.system)
    (noted
      : after.journal
        = noteScore entryKey before.system ⟨env, .cancelStuckScore cancelledKey⟩ before.journal)
    : ReadingChange entryKey before ⟨env, .cancelStuckScore cancelledKey⟩ after := by
  have key := (roundStep_advanced success).key
  simp only [roundStep, cancelStuckScore, bind_eq_ok, fetch_eq_ok, require_eq_ok, exists_const,
    pure_eq_ok] at success
  obtain ⟨entry, found, unscored, _, _, frame⟩ := success
  have entries := congrArg (fun ledger : RoundLedger => ledger.entries) frame.symm
  simp only [noteScore] at noted
  by_cases same : cancelledKey = entryKey
  · subst same
    rw [if_pos rfl] at noted
    have reads := reading_of_written entries key
    by_cases own : entry.round = before.system.round.key
    · refine .cancelled found own unscored ?_ noted ?_
      · rw [reads, if_pos own]
        simp [classifyScoreState, unscored]
      · simp [EndsInTurn, found, own]
    · rw [if_neg own] at reads
      refine .elsewhere ?_ reads ?_
      · simp [entries]
      · simp [EndsInTurn, found, own]
  · rw [if_neg same] at noted
    exact .kept (reading_of_other entries (Ne.symm same) key) noted fun here => absurd here same

/-- A delivered scoring of the entry marks it scored or failed, whichever computation it
belongs to; a scored entry stays as it is.
-/
theorem readingChange_of_callback {before after : ScoredRound} {env : Env}
    {computationOffset : Nat} {output : Option (Nat × Nat)}
    (success
      : roundStep before.system ⟨env, .scoreEntryV2Callback computationOffset output⟩
        = .ok after.system)
    (noted
      : after.journal
        = noteScore entryKey before.system ⟨env, .scoreEntryV2Callback computationOffset output⟩
            before.journal)
    : ReadingChange entryKey before ⟨env, .scoreEntryV2Callback computationOffset output⟩
        after := by
  have key := (roundStep_advanced success).key
  obtain ⟨scoredKey, entry, queued, found, own, delivered⟩ :=
    scoreEntryV2Callback_delivered success
  obtain ⟨system, journal⟩ := after
  simp only [noteScore] at noted
  by_cases same : scoredKey = entryKey
  · subst same
    rw [if_pos queued] at noted
    cases delivered with
    | ignored scored =>
        have reads : reading scoredKey before.system = some .scored := by
          rw [reading_of_found found own]
          simp [classifyScoreState, scored]
        refine .tooLate reads reads ?_ ?_
        · intro earlier
          subst noted
          cases output with
          | some answer => rfl
          | none =>
              simp only
              split <;> exact earlier
        · cases output with
          | some answer => trivial
          | none => simp [EndsInTurn, found, scored]
    | failed unscored =>
        refine .failed found own unscored ?_ noted ?_
        · rw [reading_of_written rfl key, if_pos own]
          simp [classifyScoreState, unscored, scoreErrorAborted]
        · simp [EndsInTurn, queued, found, unscored]
    | @succeeded score nonce unscored =>
        refine .succeeded ?_ noted trivial
        have stays : (scoredEntry entry score nonce).round = before.system.round.key := own
        rw [reading_of_written rfl key, if_pos stays]
        simp [classifyScoreState, scoredEntry]
  · have other : before.system.scoreComputations.lookup computationOffset ≠ some entryKey := by
      simp [queued, same]
    rw [if_neg other] at noted
    have inTurn
        : EndsInTurn entryKey before ⟨env, .scoreEntryV2Callback computationOffset output⟩ := by
      cases output with
      | some answer => trivial
      | none => exact fun here => absurd here other
    refine .kept ?_ noted inTurn
    cases delivered with
    | ignored => rfl
    | failed => exact reading_of_other rfl (Ne.symm same) key
    | succeeded => exact reading_of_other rfl (Ne.symm same) key

/-- Every accepted instruction is one of these changes. -/
theorem scoredRound_change {before after : ScoredRound}
    (success : scoredRound entryKey before submission = .ok after)
    : ReadingChange entryKey before submission after := by
  obtain ⟨accepted, noted⟩ := journaled_eq_ok.mp success
  have key := (roundStep_advanced accepted).key
  obtain ⟨env, instruction⟩ := submission
  -- whatever leaves the entries alone leaves the reading alone
  have untouched (entries : after.system.entries = before.system.entries)
      : reading entryKey after.system = reading entryKey before.system :=
    reading_of_same (by rw [entries]) key
  cases instruction with
  | queueScoreEntry => exact readingChange_of_queue accepted noted
  | cancelStuckScore => exact readingChange_of_cancel accepted noted
  | scoreEntryV2Callback => exact readingChange_of_callback accepted noted
  | submitEntry enteredKey flowerKey flower playerSgdAta =>
      obtain ⟨checks, frame⟩ := submitEntry_success accepted
      have entries := congrArg (fun ledger : RoundLedger => ledger.entries) frame
      by_cases same : enteredKey = entryKey
      · subst same
        refine .entered checks.unused ?_ noted trivial
        rw [reading_of_written entries key]
        exact if_pos rfl
      · exact .kept (reading_of_other entries (Ne.symm same) key) noted trivial
  | releaseEntry releasedKey flowerKey =>
      obtain ⟨entry, checks, frame⟩ := releaseEntry_checked accepted
      have entries := congrArg (fun ledger : RoundLedger => ledger.entries) frame
      by_cases same : releasedKey = entryKey
      · subst same
        refine .kept ?_ noted trivial
        rw [reading_of_written entries key, if_pos checks.own,
          reading_of_found checks.found checks.own]
        rfl
      · exact .kept (reading_of_other entries (Ne.symm same) key) noted trivial
  | closeRound =>
      obtain ⟨_, frame⟩ := closeRound_success accepted
      exact .kept (untouched (by rw [frame])) noted trivial
  | finalizeRound =>
      obtain ⟨_, frame⟩ := finalizeRound_success accepted
      exact .kept (untouched (by rw [frame])) noted trivial
  | reveal instruction =>
      obtain ⟨revealed, moved, done⟩ := bind_eq_ok.mp accepted
      have entries := congrArg (fun ledger : RoundLedger => ledger.entries) (pure_eq_ok.mp done)
      exact .kept (untouched (entries.symm.trans (revealStep_framed moved).entries)) noted trivial
  | distributePot accounts =>
      obtain ⟨settling, _, settled⟩ := distributePot_success accepted
      exact .kept (untouched (by rw [settled.frame])) noted trivial
  | refundUnrevealedPot accounts =>
      obtain ⟨settling, _, settled⟩ := refundUnrevealedPot_success accepted
      exact .kept (untouched (by rw [settled.frame])) noted trivial
  | closePotVault surplusDestination =>
      have swept := closePotVault_success accepted
      exact .kept (untouched (by rw [swept.frame])) noted trivial
  | outside event =>
      cases event with
      | enterElsewhere address entry =>
          simp only [roundStep, Outside.happen, bind_eq_ok, require_eq_ok, exists_const,
            pure_eq_ok] at accepted
          obtain ⟨_, foreign, frame⟩ := accepted
          have entries := congrArg (fun ledger : RoundLedger => ledger.entries) frame.symm
          by_cases same : address = entryKey
          · subst same
            refine .elsewhere ?_ ?_ trivial
            · simp [entries]
            · rw [reading_of_written entries key, if_neg foreign]
          · exact .kept (reading_of_other entries (Ne.symm same) key) noted trivial
      | createVault mint =>
          obtain ⟨_, _, done⟩ := bind_eq_ok.mp accepted
          exact .kept (untouched (by rw [← pure_eq_ok.mp done])) noted trivial
      | donate mint amount =>
          obtain ⟨_, _, done⟩ := bind_eq_ok.mp accepted
          exact .kept (untouched (by rw [← pure_eq_ok.mp done])) noted trivial
      | changeWallet address wallet =>
          exact .kept (untouched (by rw [← pure_eq_ok.mp accepted])) noted trivial
      | closeWallet address =>
          exact .kept (untouched (by rw [← pure_eq_ok.mp accepted])) noted trivial

--------------------------------------------------------------------------------
-- Right readings
--------------------------------------------------------------------------------

theorem classifyScoreState_eq_scored {entry : CompetitionEntry}
    : classifyScoreState entry = .scored ↔ entry.scored := by
  unfold classifyScoreState
  split
  · next scored => simp [scored]
  · next unscored =>
      split
      · simp [unscored]
      · split <;> simp [unscored]

theorem ScoreHistory.outcome_eq_scored {history : ScoreHistory}
    : history.outcome = .scored ↔ history.succeeded := by
  unfold ScoreHistory.outcome
  split
  · next succeeded => simp [succeeded]
  · next unanswered => cases history.latest <;> simp [unanswered]

variable {before after : ScoredRound}

theorem rightlyRead_of_none (reads : reading entryKey after.system = none)
    : RightlyRead entryKey after := by
  intro read known
  rw [reads] at known
  exact absurd known (Option.not_mem_none read)

theorem rightlyRead_some {read : ScoreState} (reads : reading entryKey after.system = some read)
    : RightlyRead entryKey after ↔ read = after.journal.outcome := by
  simp [RightlyRead, reads]

/-- A rightly read entry without a score has had no success. -/
theorem RightlyRead.unanswered {entry : CompetitionEntry}
    (rightly : RightlyRead entryKey before)
    (found : before.system.entries.lookup entryKey = some entry)
    (own : entry.round = before.system.round.key) (unscored : entry.scored = false)
    : before.journal.succeeded = false := by
  have reads := rightly _ (reading_of_found found own)
  rw [Bool.eq_false_iff]
  intro succeeded
  have scored := reads.trans (ScoreHistory.outcome_eq_scored.mpr succeeded)
  simp [classifyScoreState_eq_scored.mp scored] at unscored

/-- What the cycle can rely on: the reading is right, and an address that holds no entry has no
history.
-/
structure ReadingKnown (entryKey : Pubkey) (state : ScoredRound) : Prop where
  rightly : RightlyRead entryKey state
  unwritten : state.system.entries.lookup entryKey = none → state.journal = .blank

/-- An accepted instruction keeps the reading right if and only if it ends a scoring in turn, by
cases on the change.
-/
theorem ReadingKnown.rightlyRead_iff (known : ReadingKnown entryKey before)
    (success : scoredRound entryKey before submission = .ok after)
    : RightlyRead entryKey after ↔ EndsInTurn entryKey before submission := by
  have rightly := known.rightly
  cases scoredRound_change success with
  | kept reads journal inTurn =>
      have still : RightlyRead entryKey after := by
        rw [RightlyRead, reads, journal]
        exact rightly
      exact iff_of_true still inTurn
  | elsewhere present reads inTurn => exact iff_of_true (rightlyRead_of_none reads) inTurn
  | entered unused reads journal inTurn =>
      refine iff_of_true ((rightlyRead_some reads).mpr ?_) inTurn
      rw [journal, known.unwritten unused]
      rfl
  | queued found own unscored reads journal inTurn =>
      have unanswered := rightly.unanswered found own unscored
      refine iff_of_true ((rightlyRead_some reads).mpr ?_) inTurn
      simp [journal, ScoreHistory.outcome, unanswered]
  | cancelled found own unscored reads journal inTurn =>
      have unanswered := rightly.unanswered found own unscored
      rw [rightlyRead_some reads, inTurn, journal]
      simp [ScoreHistory.outcome, unanswered]
  | @failed entry computationOffset found own unscored reads journal inTurn =>
      have unanswered := rightly.unanswered found own unscored
      rw [rightlyRead_some reads, inTurn, journal]
      by_cases latest : before.journal.latest = .outstanding computationOffset
      · simp [latest, ScoreHistory.outcome, unanswered]
      · rw [if_neg latest]
        simp only [latest, false_or]
        cases ended : before.journal.latest <;> simp [ScoreHistory.outcome, ended, unanswered]
  | succeeded reads journal inTurn =>
      refine iff_of_true ((rightlyRead_some reads).mpr ?_) inTurn
      rw [journal]
      rfl
  | tooLate reading_before reads journal inTurn =>
      have scored := rightly _ reading_before
      have succeeded := ScoreHistory.outcome_eq_scored.mp scored.symm
      refine iff_of_true ((rightlyRead_some reads).mpr ?_) inTurn
      exact (ScoreHistory.outcome_eq_scored.mpr (journal succeeded)).symm

/-- An address is unwritten as long as nothing has happened to an entry there. -/
theorem ReadingKnown.step (known : ReadingKnown entryKey before)
    (success : scoredRound entryKey before submission = .ok after)
    (rightly : RightlyRead entryKey after) : ReadingKnown entryKey after := by
  refine ⟨rightly, fun unwritten => ?_⟩
  have advanced := roundStep_advanced (journaled_eq_ok.mp success).1
  have before_unwritten : before.system.entries.lookup entryKey = none := by
    rw [Option.eq_none_iff_forall_not_mem]
    intro entry found
    obtain ⟨later, held, _⟩ := advanced.entries found
    exact absurd (unwritten.symm.trans held) (by simp)
  have absent : reading entryKey after.system = none := by
    rw [reading, unwritten]
    rfl
  have written {read : ScoreState} (reads : reading entryKey after.system = some read)
      : after.journal = .blank :=
    absurd (absent.symm.trans reads) (by simp)
  cases scoredRound_change success with
  | kept reads journal inTurn => rw [journal, known.unwritten before_unwritten]
  | elsewhere present reads inTurn => exact absurd unwritten present
  | entered unused reads journal inTurn => exact written reads
  | queued found own unscored reads journal inTurn => exact written reads
  | cancelled found own unscored reads journal inTurn => exact written reads
  | failed found own unscored reads journal inTurn => exact written reads
  | succeeded reads journal inTurn => exact written reads
  | tooLate reading_before reads journal inTurn => exact written reads

/-- The reading is right whatever the instruction makes of the round. -/
def ReadsOn (entryKey : Pubkey) (before : ScoredRound) (submission : RoundSubmission) : Prop :=
  ∀ after, scoredRound entryKey before submission = .ok after → RightlyRead entryKey after

/-- A round that was just opened has no entries to read. -/
theorem ReadingKnown.initially {start : RoundLedger} (opened : start.Opened)
    : ReadingKnown entryKey ⟨start, .blank⟩ := by
  refine ⟨rightlyRead_of_none ?_, fun _ => rfl⟩
  cases found : start.entries.lookup entryKey with
  | none =>
      rw [reading, found]
      rfl
  | some entry =>
      rw [reading, found, Option.filter_some, if_neg (by simpa using opened.unentered found)]
      rfl

/-- Along a run whose scorings end in turn the reading stays right. -/
theorem ReadingKnown.ends_in_turn (known : ReadingKnown entryKey before)
    (inTurn : EndsInTurn entryKey before submission)
    (success : scoredRound entryKey before submission = .ok after)
    : ReadingKnown entryKey after :=
  known.step success ((known.rightlyRead_iff success).mpr inTurn)

/-- Over every run of a round, the reading of an entry is right after every instruction if and
only if every scoring of it ends in turn: the error code and the failures are then the most
recent queueing's own.
-/
theorem scoring_read_iff {start : RoundLedger} (opened : start.Opened) (entryKey : Pubkey)
    (history : List RoundSubmission) (reached : ScoredRound)
    : (Run (scoredRound entryKey) (EndsInTurn entryKey) ⟨start, .blank⟩ history reached
        → RightlyRead entryKey reached)
      ∧ (Run (scoredRound entryKey) (ReadsOn entryKey) ⟨start, .blank⟩ history reached
        ↔ Run (scoredRound entryKey) (EndsInTurn entryKey) ⟨start, .blank⟩ history reached) := by
  have initially : ReadingKnown entryKey ⟨start, .blank⟩ := .initially opened
  refine ⟨fun run => ?_, fun run => ?_, fun run => ?_⟩
  · have known := run.invariant initially fun known inTurn success =>
      known.ends_in_turn inTurn success
    exact known.rightly
  · refine run.transfer initially ?_ ?_
    · intro before submission after known reads success
      exact known.step success (reads after success)
    · intro before submission after known reads success
      exact (known.rightlyRead_iff success).mp (reads after success)
  · refine run.transfer initially ?_ ?_
    · intro before submission after known inTurn success
      exact known.ends_in_turn inTurn success
    · intro before submission after known inTurn success other same
      cases success.symm.trans same
      exact (known.rightlyRead_iff success).mpr inTurn

/-- Entry 1 is queued, its computation fails, and it is queued again. -/
def requeuedScript : List RoundSubmission :=
  [playerEnters 1, playerEnters 2, authorityAt 0 .closeRound,
    authorityAt 0 (.queueScoreEntry 61 1 (sampleFlowerKey 1)),
    authorityAt 0 (.scoreEntryV2Callback 61 none),
    authorityAt 0 (.queueScoreEntry 71 1 (sampleFlowerKey 1))]

/-- The failed and requeued entry is read as in flight. -/
theorem requeuedScript_read
    : ∃ reached,
        Run (scoredRound 1) (EndsInTurn 1) ⟨sampleRound [1, 2], .blank⟩ requeuedScript reached
        ∧ reading 1 reached.system = some .inFlight
        ∧ RightlyRead 1 reached := by
  have replayed : (replay (scoredRound 1) (EndsInTurn 1) ⟨sampleRound [1, 2], .blank⟩
      requeuedScript).any fun reached => reading 1 reached.system == some .inFlight := by
    decide +kernel
  obtain ⟨reached, run, reads⟩ := Run.of_replay_any replayed
  have always := scoring_read_iff (sampleRound_opened [1, 2]) 1 requeuedScript reached
  exact ⟨reached, run, eq_of_beq reads, always.1 run⟩

/-- When the second queueing is cancelled instead, the entry still reads as aborted. -/
theorem requeuedScript_cancelled
    : ∃ reached,
        Run (scoredRound 1) anyAction ⟨sampleRound [1, 2], .blank⟩
          (requeuedScript ++ [authorityAt scoreTimeoutSeconds (.cancelStuckScore 1)]) reached
        ∧ reading 1 reached.system = some .aborted
        ∧ reached.journal.outcome = .cleared
        ∧ ¬ RightlyRead 1 reached := by
  have replayed : (replay (scoredRound 1) anyAction ⟨sampleRound [1, 2], .blank⟩
      (requeuedScript ++ [authorityAt scoreTimeoutSeconds (.cancelStuckScore 1)])).any
      fun reached =>
        reading 1 reached.system == some .aborted && reached.journal.outcome == .cleared := by
    decide +kernel
  obtain ⟨reached, run, checked⟩ := Run.of_replay_any replayed
  obtain ⟨reads, happened⟩ := Bool.and_eq_true_iff.mp checked
  have aborted := eq_of_beq reads
  have cleared := eq_of_beq happened
  refine ⟨reached, run, aborted, cleared, fun rightly => ?_⟩
  have same := (rightlyRead_some aborted).mp rightly
  rw [cleared] at same
  cases same

end SecretGarden.AutoCycle
