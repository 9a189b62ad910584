import SecretGarden.AutoCycle.Completion

/-! Runs of the cycle, from wherever the season stands to the next open round. A run that the
network fails leaves the round as a later one can take it up.
-/

namespace SecretGarden.AutoCycle

open Foundation SecretGarden.Bracket SecretGarden.Settlement SecretGarden.Season

variable {deps : CycleDeps} {key : RoundKey} {world : CycleWorld} {ledger next : RoundLedger}
  {condition : TracedSeason → SeasonSubmission → Prop}

--------------------------------------------------------------------------------
-- From the close on
--------------------------------------------------------------------------------

/-- What a run has to find for the round it takes up: the script may act, its offsets are new, and
a reveal that was begun can be taken over.
-/
structure CycleReady (deps : CycleDeps) (key : RoundKey) (world : CycleWorld)
    (ledger : RoundLedger) : Prop where
  may : MayScore deps world
  minted : world.deployment.config.sgdMint ≠ 0
  offsets : FreshOffsets deps ledger
  alone : RevealsAlone deps ledger
  resumable : ledger.round.status = .closed
    → AllScored ledger
    → Resumable (deps.listing ledger) ledger.toRevealLedger

/-- The round's time is up. -/
def Due (world : CycleWorld) (ledger : RoundLedger) : Prop :=
  ledger.round.status = .opened → ledger.round.endTime ≤ world.now

/-- Scoring leaves the accounts of the reveal. -/
theorem Tended.unstarted {own : Nat → Prop}
    {related : CompetitionEntry → CompetitionEntry → Prop} (tended : Tended own related ledger next)
    (unstarted : ledger.Unstarted) : next.Unstarted := by
  have bracket := congrArg (fun ledger : RoundLedger => ledger.bracket) tended.frame
  have tier1 := congrArg (fun ledger : RoundLedger => ledger.tier1) tended.frame
  have results := congrArg (fun ledger : RoundLedger => ledger.results) tended.frame
  exact ⟨Eq.trans bracket unstarted.bracket, Eq.trans tier1 unstarted.tier1,
    Eq.trans results unstarted.results, tended.computations.trans unstarted.computations⟩

/-- Once the scoring is complete, a reveal that had not begun or can be taken over is due. -/
theorem Scoring.revealReady {run after : CycleRun}
    (scoring : Scoring deps key ledger run [] after next)
    (found : run.world.deployment.rounds.lookup key = some ledger)
    (closed : ledger.round.status = .closed) (alone : RevealsAlone deps ledger)
    (resumable : AllScored ledger → Resumable (deps.listing ledger) ledger.toRevealLedger)
    (waiting : ¬ AllScored ledger → ledger.Unstarted)
    : RevealReady deps next := by
  obtain ⟨_, same, tended⟩ := scoring.moved.ledger ledger found
  cases scoring.found.symm.trans same
  have status : next.round.status = .closed := tended.status.trans closed
  refine fun unfinished unrevealed entered => ⟨⟨by simp [status], scoring.complete rfl⟩, unfinished,
    unrevealed, entered, ⟨alone.apart, fun target => tended.computations ▸ alone.free target,
      alone.prompt⟩, ?_⟩
  by_cases all : AllScored ledger
  · have idle := scoring.found
    rw [(scoring.idle all).2] at idle
    cases found.symm.trans idle
    exact resumable all
  · exact resumable_of_unstarted (tended.unstarted (waiting all)) _

theorem RoundEnded.of_same {mint : Pubkey} {last : RoundLedger}
    (ended : RoundEnded deps mint next last)
    (status : next.round.status = .finalized → ledger.round.status = .finalized)
    (participants : next.round.participantCount = ledger.round.participantCount)
    (vaults : next.vaults = ledger.vaults) (wallets : next.wallets = ledger.wallets)
    : RoundEnded deps mint ledger last := by
  have unfinished (open' : ledger.round.status ≠ .finalized) := mt status open'
  refine ⟨ended.finalized, fun live entered => ended.revealed (unfinished live) ?_,
    fun live entered funded => ended.paid (unfinished live) ?_ (funded.kept vaults wallets),
    fun live entered funded => ?_, fun live settled => ended.closed (unfinished live) ?_⟩
  · rwa [participants]
  · rwa [participants]
  · have filled : next.round.participantCount ≠ 0 := by rwa [participants]
    exact (ended.won (unfinished live) filled (funded.kept vaults wallets)).of_same vaults wallets
  · rw [participants]
    refine settled.imp (fun ⟨nobody, atas⟩ => ⟨nobody, atas.apart, fun found => ?_⟩)
      fun funded => funded.kept vaults wallets
    exact atas.owned (wallets ▸ found)

/-- The round that a run takes up, advanced to the next one. -/
structure RoundAdvanced (deps : CycleDeps) (key : RoundKey) (world : CycleWorld)
    (ledger : RoundLedger) (before : CycleSummary) (after : CycleRun) : Prop where
  onward : Onward anyAction world.deployment after.world.deployment
  config : after.world.deployment.config
    = { world.deployment.config with currentRound := key + 1 }
  ended : ∃ next,
    after.world.deployment.rounds.lookup key = some next
    ∧ RoundEnded deps world.deployment.config.sgdMint ledger next
  opened : ∃ next,
    after.world.deployment.rounds.lookup (key + 1) = some next ∧ RoundLedger.Opened next
  closedRound : after.summary.closedRound
    = if ledger.round.status = .opened then some key else before.closedRound
  finalizedRound : after.summary.finalizedRound
    = if ledger.round.status = .finalized then before.finalizedRound else some key
  openedRound : after.summary.openedRound = some (key + 1)

/-- A round that a run left under way: what its reveal and its pot start from is untouched. -/
structure Kept (ledger next : RoundLedger) : Prop where
  live : ledger.round.status ≠ .finalized
  unfinished : next.round.status ≠ .finalized
  waiting : next.round.status = .closed → next.Unstarted
  endTime : next.round.endTime = ledger.round.endTime
  participants : next.round.participantCount = ledger.round.participantCount
  vaults : next.vaults = ledger.vaults
  wallets : next.wallets = ledger.wallets
  scores : ScoresKept ledger next

theorem Kept.trans {first second third : RoundLedger} (earlier : Kept first second)
    (later : Kept second third) : Kept first third :=
  ⟨earlier.live, later.unfinished, later.waiting, later.endTime.trans earlier.endTime,
    later.participants.trans earlier.participants, later.vaults.trans earlier.vaults,
    later.wallets.trans earlier.wallets, earlier.scores.trans later.scores⟩

/-- The round that a run takes up, left for a later run. -/
structure RoundKept (key : RoundKey) (world : CycleWorld) (ledger : RoundLedger)
    (before : CycleSummary) (after : CycleRun) : Prop where
  onward : Onward BesideReveals world.deployment after.world.deployment
  config : after.world.deployment.config = world.deployment.config
  kept : ∃ next, after.world.deployment.rounds.lookup key = some next ∧ Kept ledger next
  finalizedRound : after.summary.finalizedRound = before.finalizedRound
  openedRound : after.summary.openedRound = before.openedRound

theorem conducted_of_reached (reached : Reached condition world.deployment)
    (found : world.deployment.rounds.lookup key = some ledger)
    : ∃ journal, Conducted ⟨ledger, journal⟩ := by
  obtain ⟨start, history, journal, fresh, run⟩ := reached
  exact ⟨_, (conducted_of_run fresh run).known key ledger found⟩

/-- What a run that has closed the round does for it, it did for the open one. -/
theorem RoundAdvanced.of_closed {run closedRun after : CycleRun}
    (advanced : RoundAdvanced deps key closedRun.world (RoundLedger.withStatus ledger .closed)
      closedRun.summary after)
    (moved : Moved BesideReveals key
      (fun ledger next => next = RoundLedger.withStatus ledger .closed) run.world closedRun.world)
    (opened : ledger.round.status = .opened) (noted : closedRun.summary.closedRound = some key)
    : RoundAdvanced deps key run.world ledger run.summary after := by
  obtain ⟨next, last, ended⟩ := advanced.ended
  have config := advanced.config
  rw [moved.config] at config ended
  refine ⟨moved.any.onward.trans advanced.onward, config,
    ⟨next, last, ended.of_same nofun rfl rfl rfl⟩, advanced.opened, ?_, ?_, advanced.openedRound⟩
  · rw [advanced.closedRound, noted, if_pos opened]
    rfl
  · rw [advanced.finalizedRound, opened]
    rfl

theorem RoundKept.of_closed {run closedRun after : CycleRun}
    (kept : RoundKept key closedRun.world (RoundLedger.withStatus ledger .closed)
      closedRun.summary after)
    (moved : Moved BesideReveals key
      (fun ledger next => next = RoundLedger.withStatus ledger .closed) run.world closedRun.world)
    (finalized : closedRun.summary.finalizedRound = run.summary.finalizedRound)
    (opened : closedRun.summary.openedRound = run.summary.openedRound)
    (live : ledger.round.status ≠ .finalized)
    : RoundKept key run.world ledger run.summary after := by
  obtain ⟨next, last, same⟩ := kept.kept
  refine ⟨moved.onward.trans kept.onward, kept.config.trans moved.config,
    ⟨next, last, live, same.unfinished, same.waiting, same.endTime, same.participants, same.vaults,
      same.wallets, same.scores⟩,
    kept.finalizedRound.trans finalized, kept.openedRound.trans opened⟩

/-- A scored round is ended, and followed by the next one. -/
theorem Scoring.advances {run scored : CycleRun} {middle : RoundLedger}
    (scoring : Scoring deps key ledger run [] scored middle)
    (reached : Reached SeasonDocumented run.world.deployment)
    (named : run.world.deployment.config.currentRound = key)
    (found : run.world.deployment.rounds.lookup key = some ledger)
    (ready : CycleReady deps key run.world ledger) (closed : ledger.round.status = .closed)
    (waiting : ¬ AllScored ledger → ledger.Unstarted)
    : ∃ after,
        finishStages deps key scored = .ok after
        ∧ RoundAdvanced deps key run.world ledger run.summary after := by
  have config : scored.world.deployment.config = run.world.deployment.config := scoring.moved.config
  obtain ⟨_, same, tended⟩ := scoring.moved.ledger ledger found
  cases scoring.found.symm.trans same
  have status : middle.round.status = .closed := tended.status.trans closed
  obtain ⟨after, next, opened, finishes, onward, _, configured, kept, ended, held, fresh,
    summary⟩ := finishStages_finishes (reached.beside scoring.moved.onward) (ready.may.kept config)
      (config ▸ ready.minted) (config ▸ named) scoring.found (by simp [status])
      (scoring.revealReady found closed ready.alone (ready.resumable closed) waiting)
  rw [config] at configured ended
  refine ⟨after, finishes, scoring.moved.any.onward.trans onward, configured, ⟨next, kept, ?_⟩,
    ⟨opened, held, fresh⟩, ?_, ?_, summary.openedRound⟩
  · exact ended.of_same (by simp [status]) tended.participants tended.vaults tended.wallets
  · rw [summary.closedRound, scoring.closedRound, closed]
    rfl
  · rw [summary.finalizedRound, scoring.finalizedRound, status, closed]

/-- A sweep leaves a round that is under way. -/
theorem Swept.live {config : GameConfig} (swept : Swept deps config ledger next)
    (sound : Settlement.Sound ledger) (unfinished : ledger.round.status ≠ .finalized)
    : next = ledger := by
  rcases swept with ⟨⟨_, closable⟩, _⟩ | ⟨_, same⟩
  · cases settled : ledger.settlement with
    | some settlement => exact absurd (sound.settling settled).2 unfinished
    | none =>
        simp only [requireClosable, settled, bind_eq_ok, require_eq_ok, exists_const] at closable
        exact absurd closable.1 unfinished
  · exact same

/-- A round whose scoring failed is left closed. -/
theorem Scoring.keeps {run scored : CycleRun} {middle : RoundLedger} {failures : List ScoreOutcome}
    (scoring : Scoring deps key ledger run failures scored middle) (failed : failures ≠ [])
    (reached : Reached SeasonDocumented run.world.deployment)
    (named : run.world.deployment.config.currentRound = key)
    (found : run.world.deployment.rounds.lookup key = some ledger)
    (operator : isOperatorOrAuthority run.world.deployment.config deps.signer)
    (closed : ledger.round.status = .closed)
    (waiting : ¬ AllScored ledger → ledger.Unstarted)
    : RoundKept key run.world ledger run.summary (reclaimStage deps key scored) := by
  obtain ⟨_, same, tended⟩ := scoring.moved.ledger ledger found
  cases scoring.found.symm.trans same
  have config : scored.world.deployment.config = run.world.deployment.config := scoring.moved.config
  have status : middle.round.status = .closed := tended.status.trans closed
  have reached' := reached.beside scoring.moved.onward
  obtain ⟨_, sweeps⟩ := reclaimStage_sweeps deps reached' (config ▸ named) (config ▸ operator)
  obtain ⟨next, last, swept⟩ := sweeps.round scoring.found
  obtain rfl := swept.live (reached'.sound scoring.found) (by simp [status])
  have unscored : ¬ AllScored ledger := fun all => failed (scoring.idle all).1
  have endTime := congrArg (fun ledger : RoundLedger => ledger.round.endTime) tended.frame
  exact ⟨scoring.moved.onward.trans sweeps.onward, sweeps.config.trans config,
    ⟨next, last, by simp [closed], by simp [status], fun _ => tended.unstarted (waiting unscored),
      endTime, tended.participants, tended.vaults, tended.wallets, tended.scores⟩,
    scoring.finalizedRound, scoring.openedRound⟩

--------------------------------------------------------------------------------
-- One run
--------------------------------------------------------------------------------

theorem Distributed.potMoved {mint : Pubkey} {result : PotResult}
    (distributed : Distributed deps mint ledger next result) : PotMoved ledger next := by
  cases distributed with
  | empty _ same => exact same ▸ .refl _
  | failed _ furnished => exact furnished.potMoved
  | paid furnished _ _ _ settled =>
      refine furnished.potMoved.trans ?_
      unfold PotMoved
      rw [settled.frame]

/-- The backlog leaves a round that is still under way, and moves no more than pots. -/
theorem Backlogged.keeps {config : GameConfig} {keys : List RoundKey}
    {reported : List (RoundKey × PotResult)}
    (backlogged : Backlogged deps config keys reported key ledger next)
    : PotMoved ledger next ∧ (ledger.round.status ≠ .finalized → next = ledger) := by
  unfold Backlogged Owed at backlogged
  split at backlogged
  · split at backlogged
    · next won =>
        obtain ⟨result, _, outcome⟩ := backlogged
        exact ⟨outcome.reported.potMoved, fun unfinished => absurd won.1 unfinished⟩
    · exact ⟨backlogged ▸ .refl _, fun _ => backlogged⟩
  · exact ⟨backlogged ▸ .refl _, fun _ => backlogged⟩

/-- How a run ends for the round it takes up. Where the round's time is up and the network
answers, it is advanced.
-/
structure CycleOutcome (deps : CycleDeps) (key : RoundKey) (world : CycleWorld)
    (ledger : RoundLedger) (before : CycleSummary) (ended : CycleEnd) : Prop where
  either : ended.flagged = false
      ∧ RoundAdvanced deps key world ledger before ended.toCycleRun
    ∨ RoundKept key world ledger before ended.toCycleRun
  answered : Due world ledger
    → Answered deps key
    → ended.flagged = false ∧ RoundAdvanced deps key world ledger before ended.toCycleRun

theorem closeStage_passes (run : CycleRun) : closeStage deps key .notOpen run = .ok run := by
  rw [closeStage, if_neg (by simp)]
  rfl

/-- From its close on, a round is advanced or left closed. -/
theorem closed_ends {run : CycleRun}
    (reached : Reached SeasonDocumented run.world.deployment)
    (named : run.world.deployment.config.currentRound = key)
    (found : run.world.deployment.rounds.lookup key = some ledger)
    (ready : CycleReady deps key run.world ledger) (closed : ledger.round.status = .closed)
    (waiting : ¬ AllScored ledger → ledger.Unstarted)
    : ∃ failures scored,
        scoreStage deps key run = .ok (failures, scored)
        ∧ (failures = [] → ∃ after,
          finishStages deps key scored = .ok after
          ∧ RoundAdvanced deps key run.world ledger run.summary after)
        ∧ (failures ≠ []
          → RoundKept key run.world ledger run.summary (reclaimStage deps key scored))
        ∧ (Answered deps key → failures = []) := by
  obtain ⟨failures, scored, middle, scoring⟩ :=
    scoreStage_closed ready.may ready.offsets found (reached.sound found) closed
  refine ⟨failures, scored, scoring.success, fun none => ?_, fun failed => ?_, scoring.answered⟩
  · subst none
    exact scoring.advances reached named found ready closed waiting
  · exact scoring.keeps failed reached named found ready.may.operator closed waiting

/-- Whatever the current round's status is, the stages end as they should. -/
theorem advanceStages_ends {run : CycleRun}
    (reached : Reached SeasonDocumented run.world.deployment)
    (named : run.world.deployment.config.currentRound = key)
    (found : run.world.deployment.rounds.lookup key = some ledger)
    (ready : CycleReady deps key run.world ledger) (due : Due run.world ledger)
    : ∃ ended,
        advanceStages deps key
          (if ledger.round.status = .opened then .close else .notOpen) run = .ok ended
        ∧ CycleOutcome deps key run.world ledger run.summary ended := by
  obtain ⟨journal, conducted⟩ := conducted_of_reached reached found
  cases status : ledger.round.status with
  | opened =>
      let closed := RoundLedger.withStatus ledger .closed
      have unstarted : ledger.Unstarted := conducted.waiting fun rankable => rankable.1 status
      have fresh : closed.Unstarted :=
        ⟨unstarted.bracket, unstarted.tier1, unstarted.results, unstarted.computations⟩
      obtain ⟨closedRun, closes, moved, now, noted, finalized, opened⟩ :=
        closeStage_closes ready.may found (timed_of_reached reached found) status (due status)
      obtain ⟨_, held, rfl⟩ := moved.ledger ledger found
      have closedReady : CycleReady deps key closedRun.world closed :=
        ⟨ready.may.kept moved.config, moved.config ▸ ready.minted,
          ⟨ready.offsets.apart, ready.offsets.unused⟩,
          ⟨ready.alone.apart, ready.alone.free, ready.alone.prompt⟩,
          fun _ _ => resumable_of_unstarted fresh _⟩
      obtain ⟨failures, scored, scores, advances, keeps, answered⟩ :=
        closed_ends (reached.beside moved.onward) (moved.config ▸ named) held closedReady rfl
          fun _ => fresh
      rw [if_pos rfl, advanceStages, bind_of_ok closes, bind_of_ok scores]
      dsimp only
      by_cases failed : failures = []
      · obtain ⟨after, finishes, advanced⟩ := advances failed
        have done := advanced.of_closed moved status noted
        refine ⟨{ after with flagged := false }, ?_, .inl ⟨rfl, done⟩, fun _ _ => ⟨rfl, done⟩⟩
        rw [if_pos failed, bind_of_ok finishes]
        rfl
      · rw [if_neg failed]
        exact ⟨_, rfl, .inr ((keeps failed).of_closed moved finalized opened (by simp [status])),
          fun _ network => absurd (answered network) failed⟩
  | closed =>
      obtain ⟨failures, scored, scores, advances, keeps, answered⟩ :=
        closed_ends reached named found ready status
          fun unscored => conducted.waiting fun rankable => unscored rankable.2
      rw [if_neg (by simp), advanceStages, bind_of_ok (closeStage_passes run), bind_of_ok scores]
      dsimp only
      by_cases failed : failures = []
      · obtain ⟨after, finishes, advanced⟩ := advances failed
        refine ⟨{ after with flagged := false }, ?_, .inl ⟨rfl, advanced⟩,
          fun _ _ => ⟨rfl, advanced⟩⟩
        rw [if_pos failed, bind_of_ok finishes]
        rfl
      · rw [if_neg failed]
        exact ⟨_, rfl, .inr (keeps failed), fun _ network => absurd (answered network) failed⟩
  | finalized =>
      let scored : CycleRun :=
        { run with summary := { run.summary with scoredCount := ledger.round.scoredCount } }
      have scores : scoreStage deps key run = .ok ([], scored) := by
        rw [scoreStage, bind_of_ok (roundAt_of_found found), if_pos (.inl status)]
        rfl
      have season : Reached SeasonDocumented scored.world.deployment := reached
      obtain ⟨after, next, opened, finishes, onward, _, config, last, ended, present, blank,
        summary⟩ := finishStages_finishes season ready.may ready.minted named found
          (by simp [status]) fun unfinished => absurd status unfinished
      have advanced : RoundAdvanced deps key run.world ledger run.summary after := by
        refine ⟨onward, config, ⟨next, last, ended⟩, ⟨opened, present, blank⟩, ?_, ?_,
          summary.openedRound⟩
        · rw [summary.closedRound, if_neg (by simp [status])]
        · rw [summary.finalizedRound]
      rw [if_neg (by simp), advanceStages, bind_of_ok (closeStage_passes run), bind_of_ok scores]
      dsimp only
      rw [if_pos rfl, bind_of_ok finishes]
      exact ⟨_, rfl, .inl ⟨rfl, advanced⟩, fun _ _ => ⟨rfl, advanced⟩⟩

/-- How a run begins: with the backlog, after which the round it takes up is as it was, unless it
is over already.
-/
structure Begun (deps : CycleDeps) (key : RoundKey) (world : CycleWorld) (ledger : RoundLedger)
    (run : CycleRun) (held : RoundLedger) : Prop where
  starts : runCycle deps world
    = match closeRoundAction held.round run.world.now with
      | .tooEarly _ => .ok { run with flagged := false }
      | action => advanceStages deps key action run
  onward : Onward BesideReveals world.deployment run.world.deployment
  config : run.world.deployment.config = world.deployment.config
  now : run.world.now = world.now
  found : run.world.deployment.rounds.lookup key = some held
  pots : PotMoved ledger held
  live : ledger.round.status ≠ .finalized → held = ledger
  blank : run.summary.closedRound = none
    ∧ run.summary.finalizedRound = none
    ∧ run.summary.openedRound = none

theorem runCycle_begins (reached : Reached condition world.deployment)
    (named : world.deployment.config.currentRound = key)
    (found : world.deployment.rounds.lookup key = some ledger)
    (operator : isOperatorOrAuthority world.deployment.config deps.signer)
    : ∃ run held, Begun deps key world ledger run held := by
  obtain ⟨paid, settled, settles, now, _, moved⟩ := settleBacklog_reports deps reached
  obtain ⟨held, present, backlogged⟩ := moved.round found
  obtain ⟨pots, live⟩ := backlogged.keeps
  let run : CycleRun :=
    { summary := { CycleSummary.blank with
        backlogPaid := paid
        processedRound := some key
        entryCount := some held.round.participantCount
        externallyFinalized := decide (held.round.status = .finalized)
          && warnFinalizedOutsideCycle held.round.participantCount
              (settlementStateOf held.settlement) }
      world := settled }
  refine ⟨run, held, ?_, moved.onward, moved.config, now, present, pots, live, rfl, rfl, rfl⟩
  have numbered : key ≠ 0 :=
    Nat.one_le_iff_ne_zero.mp ((reached.order.numbered key).mp (by rw [found]; rfl)).1
  have authorized : require (isOperatorOrAuthority world.deployment.config deps.signer)
      CycleFailure.unauthorized = .ok () := require_eq_ok.mpr operator
  rw [runCycle, bind_of_ok authorized]
  simp only [named] at settles ⊢
  rw [if_neg numbered, settles]
  exact bind_of_ok (roundAt_of_found present)

theorem Begun.ready {run : CycleRun} {held : RoundLedger}
    (begun : Begun deps key world ledger run held) (ready : CycleReady deps key world ledger)
    : CycleReady deps key run.world held := by
  have pots := begun.pots
  have offsets : held.scoreComputations = ledger.scoreComputations := by rw [pots]
  have computations : held.computations = ledger.computations := by rw [pots]
  refine ⟨ready.may.kept begun.config, begun.config ▸ ready.minted,
    ⟨ready.offsets.apart, fun _ _ => offsets ▸ ready.offsets.unused _ _⟩,
    ⟨ready.alone.apart, fun _ => computations ▸ ready.alone.free _, ready.alone.prompt⟩,
    fun closed all => ?_⟩
  have round : held.round = ledger.round := by rw [pots]
  obtain rfl := begun.live (by simp [← round, closed])
  exact ready.resumable closed all

/-- What the stages do to the round after the backlog, the whole run does. -/
theorem Begun.advanced {run after : CycleRun} {held : RoundLedger}
    (begun : Begun deps key world ledger run held)
    (advanced : RoundAdvanced deps key run.world held run.summary after)
    : RoundAdvanced deps key world ledger CycleSummary.blank after := by
  have round : held.round = ledger.round := by rw [begun.pots]
  obtain ⟨closed, finalized, _⟩ := begun.blank
  obtain ⟨next, last, ended⟩ := advanced.ended
  have config := advanced.config
  rw [begun.config] at config ended
  refine ⟨(begun.onward.mono fun _ _ _ => trivial).trans advanced.onward, config,
    ⟨next, last, ?_⟩, advanced.opened, ?_, ?_, advanced.openedRound⟩
  · by_cases past : ledger.round.status = .finalized
    · exact ⟨ended.finalized, fun live => absurd past live, fun live => absurd past live,
        fun live => absurd past live, fun live => absurd past live⟩
    · obtain rfl := begun.live past
      exact ended
  · rw [advanced.closedRound, round, closed]
    rfl
  · rw [advanced.finalizedRound, round, finalized]
    rfl

theorem Begun.kept {run after : CycleRun} {held : RoundLedger}
    (begun : Begun deps key world ledger run held)
    (kept : RoundKept key run.world held run.summary after)
    : RoundKept key world ledger CycleSummary.blank after := by
  have round : held.round = ledger.round := by rw [begun.pots]
  obtain ⟨_, finalized, opened⟩ := begun.blank
  obtain ⟨next, last, same⟩ := kept.kept
  obtain rfl := begun.live (round ▸ same.live)
  exact ⟨begun.onward.trans kept.onward, kept.config.trans begun.config, ⟨next, last, same⟩,
    kept.finalizedRound.trans finalized, kept.openedRound.trans opened⟩

/-- A run that has begun ends as it should. -/
theorem Begun.ends {run : CycleRun} {held : RoundLedger}
    (begun : Begun deps key world ledger run held)
    (reached : Reached SeasonDocumented world.deployment)
    (named : world.deployment.config.currentRound = key)
    (ready : CycleReady deps key world ledger)
    : ∃ ended,
        runCycle deps world = .ok ended
        ∧ CycleOutcome deps key world ledger CycleSummary.blank ended := by
  have round : held.round = ledger.round := by rw [begun.pots]
  rw [begun.starts, round]
  by_cases live : ledger.round.status = .opened ∧ world.now < ledger.round.endTime
  · obtain ⟨opened, early⟩ := live
    have action : closeRoundAction ledger.round run.world.now
        = .tooEarly (ledger.round.endTime - run.world.now) := by
      rw [closeRoundAction, if_neg (not_not.mpr opened), begun.now]
      exact if_pos (sub_pos.mpr early)
    obtain rfl := begun.live (by simp [opened])
    rw [action]
    refine ⟨_, rfl, .inr ?_, fun due => absurd (due opened) (not_le.mpr early)⟩
    obtain ⟨_, finalized, unopened⟩ := begun.blank
    exact ⟨begun.onward, begun.config, ⟨held, begun.found, by simp [opened], by simp [opened],
      fun closed => by simp [opened] at closed, rfl, rfl, rfl, rfl, .refl _⟩, finalized, unopened⟩
  · have due : Due run.world held := fun opened => by
      rw [round] at opened
      rw [round, begun.now]
      exact not_lt.mp fun early => live ⟨opened, early⟩
    have action : closeRoundAction ledger.round run.world.now
        = if ledger.round.status = .opened then .close else .notOpen := by
      unfold closeRoundAction
      by_cases opened : ledger.round.status = .opened
      · rw [if_neg (not_not.mpr opened), if_pos opened, begun.now]
        exact if_neg fun early => live ⟨opened, sub_pos.mp early⟩
      · rw [if_pos opened, if_neg opened]
    obtain ⟨ended, success, outcome⟩ :=
      advanceStages_ends (reached.beside begun.onward) (begun.config ▸ named) begun.found
        (begun.ready ready) due
    rw [round] at success
    refine ⟨ended, ?_, ?_, fun _ network => ?_⟩
    · rw [action]
      by_cases opened : ledger.round.status = .opened
      · rw [if_pos opened] at success ⊢
        exact success
      · rw [if_neg opened] at success ⊢
        exact success
    · exact outcome.either.imp (fun advanced => ⟨advanced.1, begun.advanced advanced.2⟩) begun.kept
    · obtain ⟨unflagged, advanced⟩ := outcome.answered due network
      exact ⟨unflagged, begun.advanced advanced⟩

theorem patientCycle_alone
    (earlier : ∀ computationOffset ∈ ledger.computations.keys, computationOffset < 100)
    : RevealsAlone patientCycle ledger :=
  have idle : RunsAlone patientDeps ledger.toRevealLedger := patientDeps_alone earlier
  ⟨idle.apart, idle.free, idle.prompt⟩

/-- What the sample season starts its first cycle from. -/
structure EnteredRound (state : TracedSeason) (ledger : RoundLedger) : Prop where
  reached : Reached SeasonDocumented state.system
  settings : state.system.config.paused = false ∧ state.system.config.authority = 7
  current : state.system.config.currentRound = 1
  minted : state.system.config.sgdMint = 9
  found : state.system.rounds.lookup 1 = some ledger
  opened : ledger.round.status = .opened
  entered : ledger.round.participantCount = 2
  endTime : ledger.round.endTime = roundEndTime 0
  balance : ledger.balance 9 = 2 * entryFeeSgd
  scorings : ledger.scoreComputations.keys = []
  computations : ledger.computations.keys = []
  wallets : ∀ wallet ∈ ledger.wallets.entries,
    wallet.1 = 200 + wallet.2.owner ∧ wallet.2.mint = 9

theorem enteredRound_of_replay {state : TracedSeason}
    (replayed : replay tracedSeason SeasonDocumented sampleDeployment.traced enteredSeasonScript
      = some state)
    : ∃ ledger, EnteredRound state ledger := by
  have checked : (replay tracedSeason SeasonDocumented sampleDeployment.traced
      enteredSeasonScript).any fun state =>
        decide (state.system.config.paused = false ∧ state.system.config.authority = 7)
        && decide (state.system.config.currentRound = 1 ∧ state.system.config.sgdMint = 9)
        && (state.system.rounds.lookup 1).any fun ledger =>
          decide (ledger.round.status = .opened ∧ ledger.round.participantCount = 2)
          && decide (ledger.round.endTime = roundEndTime 0 ∧ ledger.balance 9 = 2 * entryFeeSgd)
          && decide (ledger.scoreComputations.keys = [] ∧ ledger.computations.keys = [])
          && decide (∀ wallet ∈ ledger.wallets.entries,
            wallet.1 = 200 + wallet.2.owner ∧ wallet.2.mint = 9) := by
    decide +kernel
  rw [replayed, Option.any_some] at checked
  obtain ⟨settings, stored⟩ := Bool.and_eq_true_iff.mp checked
  obtain ⟨ledger, found, shown⟩ := (Option.any_eq_true _ _).mp stored
  simp only [Bool.and_eq_true, decide_eq_true_eq] at settings shown
  obtain ⟨may, current, mint⟩ := settings
  obtain ⟨⟨⟨⟨opened, entered⟩, due, balance⟩, scorings, computations⟩, owned⟩ := shown
  exact ⟨ledger, ⟨_, _, _, sampleDeployment_fresh, .of_replay replayed⟩, may, current, mint, found,
    opened, entered, due, balance, scorings, computations, owned⟩

theorem EnteredRound.ready {state : TracedSeason} (entered : EnteredRound state ledger)
    : CycleReady patientCycle 1 ⟨state.system, roundEndTime 0⟩ ledger :=
  ⟨patientCycle_may entered.settings _, by simp [entered.minted],
    patientCycle_offsets (by simp [entered.scorings]),
    patientCycle_alone (by simp [entered.computations]),
    fun closed => by simp [entered.opened] at closed⟩

/-- A run of any such script that did not open the next round, and the world some time later. -/
structure LeftBehind (key : RoundKey) (world late : CycleWorld) : Prop where
  script : ∃ deps ledger ended,
    world.deployment.rounds.lookup key = some ledger
    ∧ CycleReady deps key world ledger
    ∧ runCycle deps world = .ok ended
    ∧ ended.summary.openedRound = none
    ∧ late.deployment = ended.world.deployment

/-- A run that did not open the next round leaves the current one for a later run. -/
theorem LeftBehind.keeps {late : CycleWorld} (behind : LeftBehind key world late)
    (reached : Reached SeasonDocumented world.deployment)
    (named : world.deployment.config.currentRound = key)
    (found : world.deployment.rounds.lookup key = some ledger)
    : Reached SeasonDocumented late.deployment
      ∧ late.deployment.config = world.deployment.config
      ∧ ∃ next, late.deployment.rounds.lookup key = some next ∧ Kept ledger next := by
  obtain ⟨deps, held, ended, present, ready, success, unopened, same⟩ := behind.script
  cases found.symm.trans present
  obtain ⟨run, held, begun⟩ := runCycle_begins reached named found ready.may.operator
  obtain ⟨other, ends, outcome⟩ := begun.ends reached named ready
  cases success.symm.trans ends
  rcases outcome.either with ⟨_, advanced⟩ | kept
  · cases advanced.openedRound.symm.trans unopened
  · rw [same]
    exact ⟨reached.beside kept.onward, kept.config, kept.kept⟩

/-- The same script on a silent network. -/
def silentCycle : CycleDeps :=
  { patientCycle with
    scoreOffset := Nat.pair
    scoreArrivals := fun _ => [] }

theorem EnteredRound.silentReady {state : TracedSeason} (entered : EnteredRound state ledger)
    : CycleReady silentCycle 1 ⟨state.system, roundEndTime 0⟩ ledger := by
  have ready := entered.ready
  refine ⟨⟨ready.may.clock, ready.may.unpaused, ready.may.operator⟩, ready.minted, ⟨?_, ?_⟩,
    ⟨ready.alone.apart, ready.alone.free, ready.alone.prompt⟩, ready.resumable⟩
  · exact fun _ _ _ _ same => Nat.pair_eq_pair.mp same
  · refine fun entryKey attempt => AList.lookup_eq_none.mpr fun member => ?_
    rw [AList.mem_keys, entered.scorings] at member
    cases member

end SecretGarden.AutoCycle
