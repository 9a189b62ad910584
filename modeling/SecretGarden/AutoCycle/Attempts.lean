import SecretGarden.AutoCycle.Recovery

/-! The attempts to score one entry, each from clearing what hangs to reading the outcome. -/

namespace SecretGarden.AutoCycle

open Foundation SecretGarden.Bracket SecretGarden.Settlement SecretGarden.Season

variable {deps : CycleDeps} {key : RoundKey} {world : CycleWorld} {ledger : RoundLedger}
  {entryKey : Pubkey} {entry : CompetitionEntry}

--------------------------------------------------------------------------------
-- Clearing what hangs
--------------------------------------------------------------------------------

/-- What each action of the recovery says about the entry. -/
inductive StuckRead (entry : CompetitionEntry) (nowSecs : Int) : StuckScoreAction → Prop
  | scored (scored : entry.scored) : StuckRead entry nowSecs .scored
  | notQueued (idle : entry.scoreQueued = false) : StuckRead entry nowSecs .notQueued
  | cancel (unscored : entry.scored = false) (queued : entry.scoreQueued)
    (due : scoreTimeoutSeconds ≤ nowSecs - entry.queuedAt) : StuckRead entry nowSecs .cancel
  | wait (early : nowSecs - entry.queuedAt < scoreTimeoutSeconds)
    : StuckRead entry nowSecs (.wait (scoreTimeoutSeconds - (nowSecs - entry.queuedAt) + 3))

theorem stuckScoreAction_read (entry : CompetitionEntry) (nowSecs : Int)
    : StuckRead entry nowSecs (stuckScoreAction entry nowSecs) := by
  unfold stuckScoreAction
  by_cases scored : entry.scored
  · rw [if_pos scored]
    exact .scored scored
  · rw [if_neg scored]
    by_cases idle : entry.scoreQueued = false
    · rw [if_pos idle]
      exact .notQueued idle
    · rw [if_neg idle]
      by_cases due : scoreTimeoutSeconds ≤ nowSecs - entry.queuedAt
      · rw [if_pos due]
        exact .cancel (Bool.not_eq_true _ ▸ scored) (Bool.not_eq_false _ ▸ idle) due
      · rw [if_neg due]
        exact .wait (not_le.mp due)

/-- After a wait the cancel window of the same queueing is open. -/
theorem no_second_wait {later : CompetitionEntry} {nowSecs seconds : Int}
    (waits : stuckScoreAction entry nowSecs = .wait seconds)
    (same : later.queuedAt = entry.queuedAt) (more : Int)
    : stuckScoreAction later (nowSecs + seconds) ≠ .wait more := by
  intro again
  have first := stuckScoreAction_read entry nowSecs
  have second := stuckScoreAction_read later (nowSecs + seconds)
  rw [waits] at first
  rw [again] at second
  cases first
  cases second with
  | wait early =>
      rw [same] at early
      omega

/-- How a recovery ends: the entry is scored, or nothing is in flight for it. -/
structure Cleared (deps : CycleDeps) (key : RoundKey) (entryKey : Pubkey)
    (world after : CycleWorld) : Prop where
  moved : Moved BesideReveals key (Tended (fun _ => False) NotRequeued) world after
  cleared : ∃ next later,
    after.deployment.rounds.lookup key = some next
    ∧ next.entries.lookup entryKey = some later
    ∧ (later.scored ∨ later.scoreQueued = false)

/-- A recovery that need not wait ends at once. -/
theorem recoverStuckScore_ends (clock : ∀ t, t ≤ deps.chainTime t)
    (found : world.deployment.rounds.lookup key = some ledger)
    (present : ledger.entries.lookup entryKey = some entry)
    (ready : ∀ seconds, stuckScoreAction entry world.now ≠ .wait seconds) (turns : Nat)
    : ∃ cleared after,
        recoverStuckScore deps key entryKey (turns + 1) world = .ok (cleared, after)
        ∧ Cleared deps key entryKey world after := by
  have read : entryAt key entryKey world = .ok entry := entryAt_eq_ok.mpr ⟨ledger, found, present⟩
  have still : Moved BesideReveals key (Tended (fun _ => False) NotRequeued) world world :=
    .refl (.refl .refl) world
  have reads := stuckScoreAction_read entry world.now
  rw [recoverStuckScore, bind_of_ok read]
  generalize stuckScoreAction entry world.now = action at reads ready ⊢
  cases reads with
  | scored scored => exact ⟨false, world, rfl, still, ledger, entry, found, present, .inl scored⟩
  | notQueued idle => exact ⟨false, world, rfl, still, ledger, entry, found, present, .inr idle⟩
  | cancel unscored queued due =>
      obtain ⟨next, accepted, tended, stored⟩ :=
        cancel_accepted (deps.envAt world) present unscored queued
          (due.trans (Int.sub_le_sub_right (clock world.now) _))
      refine ⟨true, world.put key next, ?_, moved_of_step found accepted nofun tended, next, _,
        lookup_put next, stored, .inr rfl⟩
      exact bind_eq_ok.mpr ⟨_, send_of_step found accepted, rfl⟩
  | wait => exact absurd rfl (ready _)

/-- A recovery ends within its turns: what follows a wait need not wait again. -/
theorem recoverStuckScore_succeeds (clock : ∀ t, t ≤ deps.chainTime t)
    (found : world.deployment.rounds.lookup key = some ledger)
    (present : ledger.entries.lookup entryKey = some entry)
    : ∃ cleared after,
        recoverStuckScore deps key entryKey recoveryTurns world = .ok (cleared, after)
        ∧ Cleared deps key entryKey world after := by
  by_cases ready : ∀ seconds, stuckScoreAction entry world.now ≠ .wait seconds
  · exact recoverStuckScore_ends clock found present ready 1
  · obtain ⟨seconds, waits⟩ := not_forall_not.mp ready
    have slept := sleep_moved deps found seconds
    obtain ⟨next, held, tended⟩ := slept.ledger ledger found
    obtain ⟨later, still, same⟩ := tended.forth entryKey entry present
    obtain ⟨cleared, after, success, ends⟩ := recoverStuckScore_ends clock held still
      (by rw [sleep_now]; exact no_second_wait waits same.queuedAt) 0
    refine ⟨cleared, after, ?_, slept.trans (Tended.trans NotRequeued.trans) ends.moved,
      ends.cleared⟩
    have read : entryAt key entryKey world = .ok entry :=
      entryAt_eq_ok.mpr ⟨ledger, found, present⟩
    rw [recoveryTurns, recoverStuckScore, bind_of_ok read, waits]
    exact success

/-- More turns make no difference, whatever the world is. -/
theorem recoverStuckScore_turns (deps : CycleDeps) (key : RoundKey) (entryKey : Pubkey)
    (extra : Nat) (world : CycleWorld)
    : recoverStuckScore deps key entryKey (extra + recoveryTurns) world
      = recoverStuckScore deps key entryKey recoveryTurns world := by
  cases read : entryAt key entryKey world with
  | error failure => simp [recoveryTurns, recoverStuckScore, read, bind, Except.bind]
  | ok entry =>
      obtain ⟨ledger, found, present⟩ := entryAt_eq_ok.mp read
      rw [recoveryTurns, recoverStuckScore, recoverStuckScore, bind_of_ok read, bind_of_ok read]
      cases action : stuckScoreAction entry world.now with
      | scored => rfl
      | notQueued => rfl
      | cancel => rfl
      | wait seconds =>
          obtain ⟨next, held, tended⟩ := (sleep_moved deps found seconds).ledger ledger
            found
          obtain ⟨later, still, same⟩ := tended.forth entryKey entry present
          have again : entryAt key entryKey (sleep deps key seconds world) = .ok later :=
            entryAt_eq_ok.mpr ⟨next, held, still⟩
          have ready := no_second_wait action same.queuedAt
          simp only [recoverStuckScore, bind_of_ok again, sleep_now]
          cases past : stuckScoreAction later (world.now + seconds) with
          | scored => rfl
          | notQueued => rfl
          | cancel => rfl
          | wait more => exact absurd past (ready more)

--------------------------------------------------------------------------------
-- Reading the outcome
--------------------------------------------------------------------------------

/-- What an outcome says of the entry it is reported for. -/
inductive Reported (entry : CompetitionEntry) : ScoreOutcome → Prop
  | scored (scored : entry.scored) : Reported entry .scored
  | aborted {errorCode attempt : Nat} (unscored : entry.scored = false)
    (idle : entry.scoreQueued = false) (read : entry.scoreErrorCode = errorCode)
    (failed : errorCode ≠ 0) (counted : 1 ≤ attempt ∧ attempt ≤ scoreAttempts)
    : Reported entry (.aborted errorCode attempt)
  | noCallback : Reported entry (.noCallback scoreAttempts)

/-- Polling only waits, and what it reports the entry says, by induction on the polls. -/
theorem pollScore_reports (deps : CycleDeps) {attempt : Nat}
    (counted : 1 ≤ attempt ∧ attempt ≤ scoreAttempts)
    (polls : Nat) (found : world.deployment.rounds.lookup key = some ledger)
    (present : ledger.entries.lookup entryKey = some entry)
    : ∃ outcome after next later,
        pollScore deps key entryKey attempt polls world = .ok (outcome, after)
        ∧ Moved BesideReveals key (Tended (fun _ => False) NotRequeued) world after
        ∧ after.deployment.rounds.lookup key = some next
        ∧ next.entries.lookup entryKey = some later
        ∧ ∀ reported ∈ outcome, Reported later reported := by
  induction polls generalizing world ledger entry with
  | zero =>
      exact ⟨none, world, ledger, entry, rfl, .refl (.refl .refl) world, found, present, nofun⟩
  | succ polls ih =>
      have read : entryAt key entryKey world = .ok entry :=
        entryAt_eq_ok.mpr ⟨ledger, found, present⟩
      rw [pollScore, bind_of_ok read]
      by_cases scored : entry.scored
      · refine ⟨some .scored, world, ledger, entry, ?_, .refl (.refl .refl) world, found, present,
          ?_⟩
        · simp [classifyScoreState, scored, pure, Except.pure]
        · rintro _ ⟨⟩
          exact .scored scored
      · have unscored := Bool.not_eq_true _ ▸ scored
        by_cases failed : entry.scoreQueued = false ∧ entry.scoreErrorCode ≠ 0
        · refine ⟨some (.aborted entry.scoreErrorCode attempt), world, ledger, entry, ?_,
            .refl (.refl .refl) world, found, present, ?_⟩
          · simp [classifyScoreState, unscored, failed, pure, Except.pure]
          · rintro _ ⟨⟩
            exact .aborted unscored failed.1 rfl failed.2 counted
        · have slept := sleep_moved deps found 1
          obtain ⟨next, held, tended⟩ := slept.ledger ledger found
          obtain ⟨later, still, _⟩ := tended.forth entryKey entry present
          obtain ⟨outcome, after, last, final, success, moved, rest⟩ := ih held still
          refine ⟨outcome, after, last, final, ?_,
            slept.trans (Tended.trans NotRequeued.trans) moved,
            rest⟩
          rw [← success]
          rcases queued : entry.scoreQueued with _ | _
          · have clean : entry.scoreErrorCode = 0 := by
              by_contra code
              exact failed ⟨queued, code⟩
            simp [classifyScoreState, unscored, queued, clean]
          · simp [classifyScoreState, unscored, queued]

/-- A scored entry is read at the first poll. -/
theorem pollScore_scored {attempt : Nat} (polls : Nat)
    (found : world.deployment.rounds.lookup key = some ledger)
    (present : ledger.entries.lookup entryKey = some entry) (scored : entry.scored)
    : pollScore deps key entryKey attempt (polls + 1) world = .ok (some .scored, world) := by
  have read : entryAt key entryKey world = .ok entry := entryAt_eq_ok.mpr ⟨ledger, found, present⟩
  rw [pollScore, bind_of_ok read]
  simp [classifyScoreState, scored, pure, Except.pure]

--------------------------------------------------------------------------------
-- Attempts
--------------------------------------------------------------------------------

/-- The script may score the entries of a round: its key is registered, the game runs, and no
validator's clock is behind the script's.
-/
structure MayScore (deps : CycleDeps) (world : CycleWorld) : Prop where
  clock : ∀ t, t ≤ deps.chainTime t
  unpaused : world.deployment.config.paused = false
  operator : isOperatorOrAuthority world.deployment.config deps.signer

theorem MayScore.kept {after : CycleWorld} (may : MayScore deps world)
    (config : after.deployment.config = world.deployment.config) : MayScore deps after :=
  ⟨may.clock, config ▸ may.unpaused, config ▸ may.operator⟩

/-- Parts of a scoring make up one part. -/
theorem Moved.join {own : Nat → Prop} {first second third : CycleWorld}
    (earlier : Moved BesideReveals key (Tended own SameSubmission) first second)
    (later : Moved BesideReveals key (Tended own SameSubmission) second third)
    : Moved BesideReveals key (Tended own SameSubmission) first third :=
  earlier.trans (Tended.trans SameSubmission.trans) later

/-- An entry of a closed round, with an unused offset for every attempt that is left. -/
structure Scorable (deps : CycleDeps) (ledger : RoundLedger) (entryKey : Pubkey)
    (flowerRecord : FlowerKey) (left : Nat) : Prop where
  closed : ledger.round.status = .closed
  entered : ∃ entry, ledger.entries.lookup entryKey = some entry
    ∧ entry.round = ledger.round.key
    ∧ entry.flowerRecord = flowerRecord
  free : ∀ k < left,
    ledger.scoreComputations.lookup (deps.scoreOffset entryKey (scoreAttempts - k)) = none

/-- The offsets of an entry's attempts. -/
def OwnOffset (deps : CycleDeps) (entryKey : Pubkey) (computationOffset : Nat) : Prop :=
  ∃ attempt, computationOffset = deps.scoreOffset entryKey attempt

variable {flowerRecord : FlowerKey} {left : Nat}

/-- Tending a round leaves the attempts that are still to come. -/
theorem Scorable.kept {own : Nat → Prop} {next : RoundLedger}
    (scorable : Scorable deps ledger entryKey flowerRecord left)
    (tended : Tended own SameSubmission ledger next) {fewer : Nat} (fewer_le : fewer ≤ left)
    (spared : ∀ k < fewer, ¬ own (deps.scoreOffset entryKey (scoreAttempts - k)))
    : Scorable deps next entryKey flowerRecord fewer := by
  obtain ⟨entry, present, own, flower⟩ := scorable.entered
  obtain ⟨later, still, same⟩ := tended.forth entryKey entry present
  refine ⟨tended.status.trans scorable.closed, ⟨later, still, ?_, same.flowerRecord.trans flower⟩,
    fun k inside => ?_⟩
  · exact same.round.trans (own.trans tended.key.symm)
  · rw [tended.offsets _ (spared k inside)]
    exact scorable.free k (inside.trans_le fewer_le)

/-- How an attempt begins: the entry is scored, or its next computation is queued. -/
structure AttemptBegun (deps : CycleDeps) (key : RoundKey) (entryKey : Pubkey)
    (flowerRecord : FlowerKey) (left : Nat) (recovered queued : CycleWorld)
    (next : RoundLedger) : Prop where
  sent : send deps
      (.round key (.queueScoreEntry (deps.scoreOffset entryKey (scoreAttempts - left)) entryKey
        flowerRecord)) recovered
    = .ok queued
  moved : Moved BesideReveals key
    (Tended (· = deps.scoreOffset entryKey (scoreAttempts - left)) SameSubmission) recovered queued
  found : queued.deployment.rounds.lookup key = some next
  outstanding
    : next.scoreComputations.lookup (deps.scoreOffset entryKey (scoreAttempts - left))
      = some entryKey

/-- Whatever is in flight, an attempt clears it and queues the entry unless it is scored. -/
theorem attempt_begins (may : MayScore deps world)
    (found : world.deployment.rounds.lookup key = some ledger)
    (scorable : Scorable deps ledger entryKey flowerRecord (left + 1))
    : ∃ cleared recovered middle entry,
        recoverStuckScore deps key entryKey recoveryTurns world = .ok (cleared, recovered)
        ∧ Moved BesideReveals key (Tended (fun _ => False) SameSubmission) world recovered
        ∧ recovered.deployment.rounds.lookup key = some middle
        ∧ middle.entries.lookup entryKey = some entry
        ∧ (entry.scored
          ∨ entry.scored = false
            ∧ ∃ queued next,
              AttemptBegun deps key entryKey flowerRecord left recovered queued next) := by
  obtain ⟨entry, present, own, flower⟩ := scorable.entered
  obtain ⟨cleared, recovered, success, moved, middle, later, held, stored, past⟩ :=
    recoverStuckScore_succeeds may.clock found present
  have moved := moved.mono fun tended =>
    tended.mono (fun _ => id) fun kept : NotRequeued _ _ => kept.toSameSubmission
  refine ⟨cleared, recovered, middle, later, success, moved, held, stored, ?_⟩
  obtain ⟨other, same, tended⟩ := moved.ledger ledger found
  cases held.symm.trans same
  have remains := scorable.kept tended le_rfl fun _ _ => id
  by_cases scored : later.scored
  · exact .inl scored
  · have unscored := Bool.not_eq_true _ ▸ scored
    obtain ⟨again, held', own', flower'⟩ := remains.entered
    cases stored.symm.trans held'
    obtain ⟨next, accepted, queues, outstanding⟩ := queue_accepted (deps.envAt recovered)
      (may.kept moved.config).unpaused (may.kept moved.config).operator stored own' unscored
      (past.resolve_left scored) remains.closed (remains.free left (Nat.lt_succ_self left))
    rw [flower'] at accepted
    exact .inr ⟨unscored, _, next, send_of_step held accepted,
      moved_of_step held accepted nofun queues, lookup_put next, outstanding⟩

/-- Whenever callbacks land, scoring an entry ends with an outcome that its record confirms, by
induction on the attempts that are left.
-/
theorem scoreWithin_reports (may : MayScore deps world)
    (apart : Function.Injective (deps.scoreOffset entryKey)) (few : left ≤ scoreAttempts)
    (found : world.deployment.rounds.lookup key = some ledger)
    (scorable : Scorable deps ledger entryKey flowerRecord left)
    : ∃ outcome after next later,
        scoreWithin deps key entryKey flowerRecord left world = .ok (outcome, after)
        ∧ Moved BesideReveals key (Tended (OwnOffset deps entryKey) SameSubmission) world after
        ∧ after.deployment.rounds.lookup key = some next
        ∧ next.entries.lookup entryKey = some later
        ∧ Reported later outcome := by
  have widen {own : Nat → Prop} {before after : CycleWorld}
      (owned : ∀ offset, own offset → OwnOffset deps entryKey offset)
      (moved : Moved BesideReveals key (Tended own SameSubmission) before after)
      : Moved BesideReveals key (Tended (OwnOffset deps entryKey) SameSubmission) before after :=
    moved.mono fun tended => tended.mono owned id
  have waits {before after : CycleWorld}
      (moved : Moved BesideReveals key (Tended (fun _ => False) NotRequeued) before after)
      : Moved BesideReveals key (Tended (fun _ => False) SameSubmission) before after :=
    moved.mono fun tended => tended.mono (fun _ => id) fun kept => kept.toSameSubmission
  induction left generalizing world ledger with
  | zero =>
      obtain ⟨entry, present, _⟩ := scorable.entered
      exact ⟨.noCallback scoreAttempts, world, ledger, entry, rfl, .refl (.refl .refl) world, found,
        present, .noCallback⟩
  | succ left ih =>
      obtain ⟨cleared, recovered, middle, entry, success, moved, held, stored, scored | begun⟩ :=
        attempt_begins may found scorable
      · refine ⟨.scored, recovered, middle, entry, ?_, widen nofun moved, held, stored,
          .scored scored⟩
        rw [scoreWithin, bind_of_ok success]
        simp only [bind_of_ok (entryAt_eq_ok.mpr ⟨middle, held, stored⟩), scored, if_true]
        rfl
      · obtain ⟨unscored, queued, next, begun⟩ := begun
        obtain ⟨_, same, tended⟩ := moved.ledger ledger found
        cases held.symm.trans same
        have remains := scorable.kept tended le_rfl fun _ _ => id
        have spared : ∀ k < left, ¬ deps.scoreOffset entryKey (scoreAttempts - k)
            = deps.scoreOffset entryKey (scoreAttempts - left) := by
          intro k inside same
          have := apart same
          omega
        obtain ⟨_, same, queues⟩ := begun.moved.ledger middle held
        cases begun.found.symm.trans same
        have flight := remains.kept queues (Nat.le_succ left) spared
        let seconds := (min (deps.finalizeSeconds queued) scoreFinalizeTimeoutSeconds : Nat)
        have slept := sleep_moved deps begun.found (seconds : Int)
        obtain ⟨waited, reached, rests⟩ := slept.ledger next begun.found
        have flight := flight.kept (rests.mono (fun _ => id) fun kept => kept.toSameSubmission)
          le_rfl fun _ _ => id
        obtain ⟨again, present, _⟩ := flight.entered
        have counted : 1 ≤ scoreAttempts - left ∧ scoreAttempts - left ≤ scoreAttempts := by omega
        obtain ⟨outcome, polled, last, final, reads, polls, ends, kept, reported⟩ :=
          pollScore_reports deps counted scorePolls reached present
        have onward := ((widen nofun moved).join (widen (fun _ same => ⟨_, same⟩) begun.moved)).join
          ((widen nofun (waits slept)).join (widen nofun (waits polls)))
        have runs : scoreWithin deps key entryKey flowerRecord (left + 1) world
            = match outcome with
              | some outcome => pure (outcome, polled)
              | none => scoreWithin deps key entryKey flowerRecord left polled := by
          rw [scoreWithin, bind_of_ok success]
          simp only [bind_of_ok (entryAt_eq_ok.mpr ⟨middle, held, stored⟩), unscored,
            Bool.false_eq_true, if_false, bind_of_ok begun.sent]
          rw [bind_of_ok reads]
          cases outcome <;> rfl
        cases outcome with
        | some outcome =>
            exact ⟨outcome, polled, last, final, runs, onward, ends, kept, reported _ rfl⟩
        | none =>
            obtain ⟨_, same, rests'⟩ := (waits polls).ledger waited reached
            cases ends.symm.trans same
            have more := flight.kept rests' le_rfl fun _ _ => id
            obtain ⟨outcome, after, last, final, success, moved, rest⟩ :=
              ih (may.kept onward.config) (Nat.le_of_succ_le few) ends more
            exact ⟨outcome, after, last, final, runs.trans success, onward.join moved, rest⟩

/-- The network answers a computation of this run with a score, in the wait that follows. -/
def Answered (deps : CycleDeps) (key : RoundKey) : Prop :=
  ∀ world ledger entryKey attempt,
    world.deployment.rounds.lookup key = some ledger
    → ledger.scoreComputations.lookup (deps.scoreOffset entryKey attempt) = some entryKey
    → ∃ score nonce,
        (deps.scoreOffset entryKey attempt, some (score, nonce)) ∈ deps.scoreArrivals world

/-- Where the network answers, the first attempt scores the entry. -/
theorem scoreWithin_scores (answered : Answered deps key) (may : MayScore deps world)
    (found : world.deployment.rounds.lookup key = some ledger)
    (scorable : Scorable deps ledger entryKey flowerRecord (left + 1))
    : ∃ after,
        scoreWithin deps key entryKey flowerRecord (left + 1) world = .ok (.scored, after) := by
  obtain ⟨cleared, recovered, middle, entry, success, moved, held, stored, scored | begun⟩ :=
    attempt_begins may found scorable
  · refine ⟨recovered, ?_⟩
    rw [scoreWithin, bind_of_ok success]
    simp only [bind_of_ok (entryAt_eq_ok.mpr ⟨middle, held, stored⟩), scored, if_true]
    rfl
  · obtain ⟨unscored, queued, next, begun⟩ := begun
    obtain ⟨_, same, tended⟩ := moved.ledger ledger found
    cases held.symm.trans same
    obtain ⟨_, same, queues⟩ := begun.moved.ledger middle held
    cases begun.found.symm.trans same
    have flight := (scorable.kept tended le_rfl fun _ _ => id).kept queues (Nat.zero_le _) nofun
    obtain ⟨waiting, present, own, _⟩ := flight.entered
    obtain ⟨score, nonce, arrives⟩ :=
      answered queued next entryKey _ begun.found begun.outstanding
    let finalized := sleep deps key
      (min (deps.finalizeSeconds queued) scoreFinalizeTimeoutSeconds : Nat) queued
    obtain ⟨last, final, reached, kept, done⟩ :
        ∃ last final, finalized.deployment.rounds.lookup key = some last
          ∧ last.entries.lookup entryKey = some final
          ∧ final.scored :=
      sleep_scores deps _ begun.found begun.outstanding present own arrives
    have polled : pollScore deps key entryKey (scoreAttempts - left) scorePolls finalized
        = .ok (some .scored, finalized) := pollScore_scored 119 reached kept done
    refine ⟨finalized, ?_⟩
    rw [scoreWithin, bind_of_ok success]
    simp only [bind_of_ok (entryAt_eq_ok.mpr ⟨middle, held, stored⟩), unscored,
      Bool.false_eq_true, if_false, bind_of_ok begun.sent]
    rw [bind_of_ok polled]
    rfl

/-- Scoring an entry of a closed round never fails, whatever earlier runs left and whenever
callbacks land. It touches nothing but scores, reports what the entry's record says, and scores
the entry where the network answers.
-/
theorem scoring_recovers (may : MayScore deps world)
    (apart : Function.Injective (deps.scoreOffset entryKey))
    (found : world.deployment.rounds.lookup key = some ledger)
    (scorable : Scorable deps ledger entryKey flowerRecord scoreAttempts)
    : ∃ outcome after next later,
        scoreEntryWithRecovery deps key entryKey flowerRecord world = .ok (outcome, after)
        ∧ Moved BesideReveals key (Tended (OwnOffset deps entryKey) SameSubmission) world after
        ∧ after.deployment.rounds.lookup key = some next
        ∧ next.entries.lookup entryKey = some later
        ∧ Reported later outcome
        ∧ (Answered deps key → outcome = .scored) := by
  obtain ⟨outcome, after, next, later, success, moved, reached, stored, reported⟩ :=
    scoreWithin_reports may apart le_rfl found scorable
  refine ⟨outcome, after, next, later, success, moved, reached, stored, reported,
    fun answered => ?_⟩
  obtain ⟨other, scored⟩ := scoreWithin_scores answered may found scorable
  exact (Prod.mk.inj (Except.ok.inj (success.symm.trans scored))).1

end SecretGarden.AutoCycle
