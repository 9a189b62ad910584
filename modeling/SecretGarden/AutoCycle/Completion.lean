import SecretGarden.AutoCycle.Turnover

/-! The last stages of the cycle, from a scored round to the next open one. -/

namespace SecretGarden.AutoCycle

open Foundation SecretGarden.Bracket SecretGarden.Settlement SecretGarden.Season

variable {deps : CycleDeps} {key : RoundKey} {world : CycleWorld} {ledger next : RoundLedger}
  {condition : TracedSeason → SeasonSubmission → Prop}

--------------------------------------------------------------------------------
-- The pot of the round
--------------------------------------------------------------------------------

/-- What the pot stage does to a round: a revealed one without a settlement is paid, as the
summary says.
-/
structure PotStaged (deps : CycleDeps) (config : GameConfig) (ledger next : RoundLedger)
    (before after : CycleSummary) : Prop where
  paid : ledger.round.scoringRevealed
    → ledger.settlement = none
    → ∃ result, PotOutcome deps config ledger next result
      ∧ after = { before with potPaidSgd := result.paidSgd, potError := result.error }
  idle : ledger.round.scoringRevealed = false ∨ ledger.settlement ≠ none → next = ledger
  closedRound : after.closedRound = before.closedRound
  finalizedRound : after.finalizedRound = before.finalizedRound

theorem settlementStateOf_eq_none (sound : Settlement.Sound ledger)
    : settlementStateOf ledger.settlement = .none ↔ ledger.settlement = none := by
  cases known : ledger.settlement with
  | none => simp [settlementStateOf]
  | some settlement =>
      have begun := (sound.settling known).1
      simp [settlementStateOf, begun]

/-- The pot stage never fails. -/
theorem potStage_settles (deps : CycleDeps) {run : CycleRun}
    (reached : Reached condition run.world.deployment)
    (found : run.world.deployment.rounds.lookup key = some ledger)
    : ∃ after next,
        potStage deps key run = .ok after
        ∧ Moved BesideReveals key PotMoved run.world after.world
        ∧ after.world.now = run.world.now
        ∧ after.world.deployment.rounds.lookup key = some next
        ∧ PotStaged deps run.world.deployment.config ledger next run.summary after.summary := by
  obtain ⟨journal, attested⟩ := reached.attested found
  have read := roundAt_of_found found
  by_cases revealed : ledger.round.scoringRevealed
  · have won := resolved_ne_nil deps attested revealed
    by_cases unsettled : ledger.settlement = none
    · obtain ⟨result, world, next, success, moved, now, held, outcome⟩ :=
        distributeSgdPot_settles deps found attested revealed
      let summary := { run.summary with potPaidSgd := result.paidSgd, potError := result.error }
      refine ⟨⟨summary, world⟩, next, ?_, moved, now, held,
        fun _ _ => ⟨result, outcome, rfl⟩, fun idle => ?_, rfl, rfl⟩
      · have blank := (settlementStateOf_eq_none attested.sound).mpr unsettled
        rw [potStage, bind_of_ok read]
        simp only [revealed, Bool.true_eq_false, if_false, won, blank, ne_eq, not_true_eq_false,
          success]
        rfl
      · rcases idle with hidden | settled
        · cases revealed.symm.trans hidden
        · exact absurd unsettled settled
    · have begun := mt (settlementStateOf_eq_none attested.sound).mp unsettled
      refine ⟨⟨{ run.summary with potAlreadySettled := true }, run.world⟩, ledger, ?_,
        .refl .refl run.world, rfl, found, fun _ blank => absurd blank unsettled, fun _ => rfl,
        rfl, rfl⟩
      rw [potStage, bind_of_ok read]
      simp only [revealed, Bool.true_eq_false, if_false, won, ne_eq, begun, not_false_eq_true,
        if_true]
      rfl
  · refine ⟨⟨{ run.summary with prizeSkipReason := some .neverRevealed }, run.world⟩, ledger, ?_,
      .refl .refl run.world, rfl, found, fun shown => absurd shown revealed, fun _ => rfl,
      rfl, rfl⟩
    rw [potStage, bind_of_ok read]
    simp only [Bool.not_eq_true _ ▸ revealed, if_true]
    rfl

--------------------------------------------------------------------------------
-- Revealed and finalized
--------------------------------------------------------------------------------

/-- The round is over, revealed if anyone entered it, and its pot is as it was. -/
structure Concluded (ledger next : RoundLedger) : Prop where
  finalized : next.round.status = .finalized
  revealed : ledger.round.status ≠ .finalized
    → ledger.round.participantCount ≠ 0
    → next.round.scoringRevealed
  participants : next.round.participantCount = ledger.round.participantCount
  settlement : next.settlement = ledger.settlement
  vaults : next.vaults = ledger.vaults
  wallets : next.wallets = ledger.wallets

/-- A round that is still to be revealed can be. -/
def RevealReady (deps : CycleDeps) (ledger : RoundLedger) : Prop :=
  ledger.round.status ≠ .finalized
  → ledger.round.scoringRevealed = false
  → ledger.round.participantCount ≠ 0
  → RevealDue deps ledger

/-- The reveal stage leaves a round that nobody entered, that is over, or that is revealed. -/
theorem revealStage_passes {run : CycleRun}
    (reached : Reached SeasonDocumented run.world.deployment) (may : MayScore deps run.world)
    (found : run.world.deployment.rounds.lookup key = some ledger)
    (ready : RevealReady deps ledger)
    : ∃ after next,
        revealStage deps key run = .ok after
        ∧ Moved anyAction key (fun ledger next => next = ledger ∨ Revealed ledger next)
            run.world after.world
        ∧ after.world.now = run.world.now
        ∧ after.world.deployment.rounds.lookup key = some next
        ∧ (next = ledger ∨ Revealed ledger next)
        ∧ (ledger.round.status ≠ .finalized → ledger.round.participantCount ≠ 0
          → next.round.scoringRevealed)
        ∧ ∃ top3 revealedPreviously, after.summary
            = { run.summary with top3 := top3, revealedPreviously := revealedPreviously } := by
  have read := roundAt_of_found found
  have still : Moved anyAction key (fun ledger next => next = ledger ∨ Revealed ledger next)
      run.world run.world := .refl (fun _ => .inl rfl) run.world
  by_cases past : ledger.round.status = .finalized
  · refine ⟨⟨{ run.summary with top3 := topWallets deps ledger }, run.world⟩, ledger, ?_, still,
      rfl, found, .inl rfl, fun unfinished => absurd past unfinished, _, _, rfl⟩
    rw [revealStage, bind_of_ok read, if_pos past]
    rfl
  · cases revealed : ledger.round.scoringRevealed with
    | true =>
        let summary := { run.summary with
          revealedPreviously := true
          top3 := topWallets deps ledger }
        refine ⟨⟨summary, run.world⟩, ledger, ?_, still, rfl, found, .inl rfl,
          fun _ _ => revealed, _, _, rfl⟩
        rw [revealStage, bind_of_ok read, if_neg past, if_pos revealed]
        rfl
    | false =>
        by_cases vacant : ledger.round.participantCount = 0
        · refine ⟨run, ledger, ?_, still, rfl, found, .inl rfl,
            fun _ filled => absurd vacant filled, _, _, rfl⟩
          rw [revealStage, bind_of_ok read, if_neg past, if_neg (by simp [revealed]), if_pos vacant]
          rfl
        · obtain ⟨after, next, success, moved, now, held, shown, top3⟩ :=
            revealStage_reveals reached may found (ready past revealed vacant)
          exact ⟨after, next, success, moved.mono .inr, now, held, .inr shown,
            fun _ _ => shown.revealed, _, _, top3⟩

/-- The round is concluded between its scores and its pot. -/
theorem stages_conclude {run : CycleRun}
    (reached : Reached SeasonDocumented run.world.deployment) (may : MayScore deps run.world)
    (found : run.world.deployment.rounds.lookup key = some ledger)
    (ended : ledger.round.status ≠ .opened) (ready : RevealReady deps ledger)
    : ∃ revealed after next,
        revealStage deps key run = .ok revealed
        ∧ finalizeStage deps key revealed = .ok after
        ∧ Moved anyAction key (fun _ _ => True) run.world after.world
        ∧ after.world.now = run.world.now
        ∧ after.world.deployment.rounds.lookup key = some next
        ∧ Concluded ledger next
        ∧ ∃ top3 revealedPreviously, after.summary
            = { run.summary with
                top3 := top3
                revealedPreviously := revealedPreviously
                finalizedRound :=
                  if ledger.round.status = .finalized then run.summary.finalizedRound
                  else some key } := by
  obtain ⟨middle, shown, reveals, moved, now, held, step, done, top3, previously, summary⟩ :=
    revealStage_passes reached may found ready
  have frame : SameRound ledger.toRevealLedger shown.toRevealLedger
      ∧ shown.settlement = ledger.settlement
      ∧ shown.vaults = ledger.vaults
      ∧ shown.wallets = ledger.wallets := by
    rcases step with rfl | revealed
    · exact ⟨.refl _, rfl, rfl, rfl⟩
    · refine ⟨revealed.same, ?_, ?_, ?_⟩ <;> rw [revealed.frame]
  obtain ⟨same, settlement, vaults, wallets⟩ := frame
  by_cases past : ledger.round.status = .finalized
  · have final : shown.round.status = .finalized := same.status.trans past
    refine ⟨middle, middle, shown, reveals, ?_, moved.mono fun _ => trivial, now, held,
      ⟨final, done, same.participants, settlement, vaults, wallets⟩, top3, previously, ?_⟩
    · rw [finalizeStage, bind_of_ok (roundAt_of_found held), if_pos final]
      rfl
    · rw [summary, if_pos past]
  · have closed : shown.round.status = .closed := by
      rw [same.status]
      cases status : ledger.round.status with
      | opened => exact absurd status ended
      | closed => rfl
      | finalized => exact absurd status past
    obtain ⟨after, success, finalized, later, final⟩ :=
      finalizeStage_finalizes (moved.config ▸ may.operator) held closed
    obtain ⟨next, reached', rfl⟩ := finalized.ledger shown held
    refine ⟨middle, after, _, reveals, success, moved.trans (fun _ _ => trivial) finalized.any,
      later.trans now, reached',
      ⟨rfl, done, same.participants, settlement, vaults, wallets⟩, top3, previously, ?_⟩
    rw [final, summary, if_neg past]

--------------------------------------------------------------------------------
-- From a scored round to the next one
--------------------------------------------------------------------------------

theorem MayScore.mayPay (may : MayScore deps world)
    (minted : world.deployment.config.sgdMint ≠ 0) : MayPay deps world.deployment.config :=
  ⟨may.operator, minted⟩

/-- A pot with a unit for everyone who can win, and winners whose token accounts are theirs. -/
structure PotFunded (deps : CycleDeps) (mint : Pubkey) (ledger : RoundLedger) : Prop where
  enough : revealTopK ≤ ledger.balance mint
  fits : ledger.balance mint < u64Modulus
  atas : AtasOwned deps mint ledger

theorem length_potWinners_le (round : CompetitionRound) : (potWinners round).length ≤ revealTopK :=
  List.length_filter_le _ _

theorem PotFunded.kept {mint : Pubkey} (funded : PotFunded deps mint ledger)
    (vaults : next.vaults = ledger.vaults) (wallets : next.wallets = ledger.wallets)
    : PotFunded deps mint next := by
  have balance : next.balance mint = ledger.balance mint := by
    rw [RoundLedger.balance, vaults]
    rfl
  refine ⟨balance ▸ funded.enough, balance ▸ funded.fits, funded.atas.apart, fun found => ?_⟩
  rw [wallets] at found
  exact funded.atas.owned found

/-- A funded pot of a revealed round is paid and handed out, and its token accounts stay their
owners'.
-/
theorem PotStaged.pays {config : GameConfig} {before after : CycleSummary}
    (staged : PotStaged deps config ledger next before after) (may : MayPay deps config)
    (funded : PotFunded deps config.sgdMint ledger) (finalized : ledger.round.status = .finalized)
    (revealed : ledger.round.scoringRevealed) (unsettled : ledger.settlement = none)
    : (∃ settlement, next.settlement = some settlement ∧ settlement.state = .potPaid)
      ∧ PotHandedOut deps config.sgdMint ledger next
      ∧ AtasOwned deps config.sgdMint next
      ∧ after = { before with
          potPaidSgd := ledger.balance config.sgdMint
          potError := none } := by
  obtain ⟨result, outcome, summary⟩ := staged.paid revealed unsettled
  have due : PotDue deps config.sgdMint ledger :=
    ⟨finalized, revealed, unsettled, (length_potWinners_le _).trans funded.enough, funded.fits,
      funded.atas⟩
  have handed := outcome.handed may due
  obtain rfl := outcome.due may due
  have filled := funded.enough
  have reported := outcome.reported
  generalize shown : (⟨ledger.balance config.sgdMint, none⟩ : PotResult) = result at reported
  cases reported with
  | empty nothing =>
      rw [nothing] at filled
      exact absurd filled (by decide)
  | failed failure => cases congrArg PotResult.error shown
  | paid furnished held shared past settled owners =>
      exact ⟨⟨_, by rw [settled.frame], past⟩, handed, (furnished.owned funded.atas).kept owners,
        summary⟩

/-- What a sweep leaves of a vault that was ready. -/
theorem Swept.closes {config : GameConfig} (swept : Swept deps config ledger next)
    (atas : AtasOwned deps config.sgdMint ledger)
    (closable : requireClosable ledger = .ok ())
    : next.vaults.lookup config.sgdMint = none := by
  rcases swept with ⟨ready, closed, reclaimed⟩ | ⟨unready, rfl⟩
  · cases reclaimed with
    | closed done =>
        rw [done.frame]
        simp
    | spared _ unowned => exact absurd atas (unowned ready)
  · exact Option.not_isSome_iff_eq_none.mp fun present => unready ⟨present, closable⟩

/-- A sweep touches vaults and token accounts only. -/
theorem Swept.frame {config : GameConfig} (swept : Swept deps config ledger next)
    : next = { ledger with vaults := next.vaults, wallets := next.wallets } := by
  rcases swept with ⟨_, closed, reclaimed⟩ | ⟨_, rfl⟩
  · cases reclaimed with
    | closed done => rw [done.frame]
    | spared furnished => rw [furnished.frame]
  · rfl

/-- A sweep takes nothing out of a round whose vault is empty. -/
theorem Swept.paidOut {config : GameConfig} (swept : Swept deps config ledger next)
    (emptied : ledger.balance config.sgdMint = 0) : PaidOut [] ledger next := by
  rcases swept with ⟨_, closed, reclaimed⟩ | ⟨_, rfl⟩
  · cases reclaimed with
    | closed done =>
        refine ⟨fun mint => ?_, fun address => ?_⟩
        · rw [done.frame, amountIn_nil]
          by_cases same : mint = config.sgdMint
          · rw [same, emptied]
            simp [RoundLedger.balance]
          · simp [RoundLedger.balance, same]
        · rw [done.swept, emptied, ite_self, amountTo_nil]
    | spared furnished => exact furnished.paidOut (.refl next)
  · exact .refl next

/-- All that the round's vault held is with its winners: the token accounts of their players hold
what they held before, and their shares.
-/
structure PotWon (mint : Pubkey) (ledger next : RoundLedger) : Prop where
  received : ∃ finalized payments,
    finalized.round = next.round
    ∧ finalized.entries = next.entries
    ∧ PotShared finalized mint (ledger.balance mint) payments
    ∧ PaidOut payments ledger next

/-- A pot is the same while vaults and token accounts are. -/
theorem PotWon.of_same {mint : Pubkey} {last : RoundLedger} (won : PotWon mint next last)
    (vaults : next.vaults = ledger.vaults) (wallets : next.wallets = ledger.wallets)
    : PotWon mint ledger last := by
  obtain ⟨finalized, payments, round, entries, shared, paid⟩ := won.received
  have balance (mint : Pubkey) : next.balance mint = ledger.balance mint := by
    rw [RoundLedger.balance, vaults]
    rfl
  have nothing : PaidOut [] ledger next :=
    ⟨balance, fun address => by rw [RoundLedger.walletAmount, wallets]; rfl⟩
  exact ⟨finalized, payments, round, entries, balance mint ▸ shared, nothing.append paid⟩

/-- How a run leaves the round it took up: over, revealed if anyone entered it, and with its pot
paid and its vault closed, unless the pot cannot be shared.
-/
structure RoundEnded (deps : CycleDeps) (mint : Pubkey) (ledger next : RoundLedger) : Prop where
  finalized : next.round.status = .finalized
  revealed : ledger.round.status ≠ .finalized
    → ledger.round.participantCount ≠ 0
    → next.round.scoringRevealed
  paid : ledger.round.status ≠ .finalized
    → ledger.round.participantCount ≠ 0
    → PotFunded deps mint ledger
    → ∃ settlement, next.settlement = some settlement ∧ settlement.state = .potPaid
  won : ledger.round.status ≠ .finalized
    → ledger.round.participantCount ≠ 0
    → PotFunded deps mint ledger
    → PotWon mint ledger next
  closed : ledger.round.status ≠ .finalized
    → (ledger.round.participantCount = 0 ∧ AtasOwned deps mint ledger ∨ PotFunded deps mint ledger)
    → next.vaults.lookup mint = none

/-- The stages after the round is concluded end it. -/
theorem roundEnded_of_stages {config : GameConfig} {middle paid : RoundLedger}
    {before after : CycleSummary} (sound : Settlement.Sound ledger)
    (soundPaid : Settlement.Sound paid)
    (crowned : middle.round.scoringRevealed → middle.round.participantCount ≠ 0)
    (may : MayPay deps config) (concluded : Concluded ledger middle)
    (staged : PotStaged deps config middle paid before after) (moved : PotMoved middle paid)
    (swept : Swept deps config paid next)
    : RoundEnded deps config.sgdMint ledger next := by
  have round : next.round = middle.round := by rw [swept.frame, moved]
  have unsettled (unfinished : ledger.round.status ≠ .finalized) : middle.settlement = none := by
    rw [concluded.settlement]
    cases settled : ledger.settlement with
    | none => rfl
    | some settlement => exact absurd (sound.settling settled).2 unfinished
  have pays (unfinished : ledger.round.status ≠ .finalized)
      (entered : ledger.round.participantCount ≠ 0)
      (funded : PotFunded deps config.sgdMint ledger) :=
    staged.pays may (funded.kept concluded.vaults concluded.wallets) concluded.finalized
      (concluded.revealed unfinished entered) (unsettled unfinished)
  refine ⟨round ▸ concluded.finalized, fun unfinished entered => round ▸
    concluded.revealed unfinished entered, fun unfinished entered funded => ?_,
    fun unfinished entered funded => ?_, fun unfinished vacant => ?_⟩
  · obtain ⟨settlement, _⟩ := pays unfinished entered funded
    have kept : next.settlement = paid.settlement := by rw [swept.frame]
    rwa [kept]
  · obtain ⟨_, handed, _⟩ := pays unfinished entered funded
    obtain ⟨furnished, payments, created, shared, received⟩ := handed.shared
    have entries : next.entries = middle.entries := by rw [swept.frame, moved]
    have won : PotWon config.sgdMint middle next := by
      refine ⟨furnished, payments, ?_, ?_, shared, ?_⟩
      · rw [round, created.frame]
      · rw [entries, created.frame]
      · rw [← payments.append_nil]
        exact received.append (swept.paidOut handed.emptied)
    exact won.of_same concluded.vaults concluded.wallets
  · by_cases entered : ledger.round.participantCount = 0
    · have atas := vacant.elim And.right PotFunded.atas
      have nobody : middle.round.participantCount = 0 := concluded.participants.trans entered
      have hidden : middle.round.scoringRevealed = false :=
        Bool.not_eq_true _ ▸ fun shown => crowned shown nobody
      obtain rfl := staged.idle (.inl hidden)
      refine swept.closes ⟨atas.apart, fun found => atas.owned (concluded.wallets ▸ found)⟩ ?_
      simp only [requireClosable, unsettled unfinished, bind_eq_ok, require_eq_ok, exists_const]
      exact ⟨concluded.finalized, nobody⟩
    · have funded := vacant.resolve_left fun nobody => entered nobody.1
      obtain ⟨⟨settlement, settled, past⟩, _, atas, _⟩ := pays unfinished entered funded
      refine swept.closes atas ?_
      simp only [requireClosable, settled, bind_eq_ok, require_eq_ok, exists_const,
        soundPaid.carried settled, RoundSettlement.isTerminal, past, true_and]
      rfl

/-- What a run did for the round it took up, as its summary says. -/
structure RoundSummary (key : RoundKey) (ledger : RoundLedger)
    (before after : CycleSummary) : Prop where
  closedRound : after.closedRound = before.closedRound
  finalizedRound : after.finalizedRound
    = if ledger.round.status = .finalized then before.finalizedRound else some key
  openedRound : after.openedRound = some (key + 1)

/-- From its scores on, a round is ended and the next one opened. -/
theorem finishStages_finishes {run : CycleRun}
    (reached : Reached SeasonDocumented run.world.deployment) (may : MayScore deps run.world)
    (minted : run.world.deployment.config.sgdMint ≠ 0)
    (named : run.world.deployment.config.currentRound = key)
    (found : run.world.deployment.rounds.lookup key = some ledger)
    (ended : ledger.round.status ≠ .opened) (ready : RevealReady deps ledger)
    : ∃ after next opened,
        finishStages deps key run = .ok after
        ∧ Onward anyAction run.world.deployment after.world.deployment
        ∧ after.world.now = run.world.now
        ∧ after.world.deployment.config
          = { run.world.deployment.config with currentRound := key + 1 }
        ∧ after.world.deployment.rounds.lookup key = some next
        ∧ RoundEnded deps run.world.deployment.config.sgdMint ledger next
        ∧ after.world.deployment.rounds.lookup (key + 1) = some opened
        ∧ RoundLedger.Opened opened
        ∧ RoundSummary key ledger run.summary after.summary := by
  let config := run.world.deployment.config
  obtain ⟨shown, concludedRun, middle, reveals, finalizes, moved, now, held, concluded, top3,
    previously, summary⟩ := stages_conclude reached may found ended ready
  have reached1 : Reached anyAction concludedRun.world.deployment :=
    (reached.mono fun _ _ _ => trivial).onward moved.onward
  obtain ⟨paidRun, paid, pays, pots, later, stored, staged⟩ := potStage_settles deps reached1 held
  have reached2 : Reached anyAction paidRun.world.deployment := reached1.onward pots.any.onward
  have config2 : paidRun.world.deployment.config = config := pots.config.trans moved.config
  have named2 : paidRun.world.deployment.config.currentRound = key := by rw [config2, named]
  let sweptRun := reclaimStage deps key paidRun
  obtain ⟨last, sweeps⟩ := reclaimStage_sweeps deps reached2 named2 (config2 ▸ may.operator)
  rw [config2] at sweeps
  obtain ⟨next, kept, swept⟩ := sweeps.round stored
  have reached3 : Reached anyAction sweptRun.world.deployment :=
    reached2.onward (sweeps.onward.mono fun _ _ _ => trivial)
  have config3 : sweptRun.world.deployment.config = config := sweeps.config.trans config2
  have named3 : sweptRun.world.deployment.config.currentRound = key := config3 ▸ named
  have roundEnded : RoundEnded deps config.sgdMint ledger next := by
    obtain ⟨_, same, moves⟩ := pots.ledger middle held
    cases stored.symm.trans same
    obtain ⟨journal, attested⟩ := reached1.attested held
    have same : concludedRun.world.deployment.config = config := moved.config
    refine roundEnded_of_stages (reached.sound found) (reached2.sound stored) (fun revealed => ?_)
      (may.mayPay minted) concluded (same ▸ staged) moves swept
    rw [attested.sound.counted]
    exact (List.length_pos_of_mem (attested.crowned.crowned revealed)).ne'
  obtain ⟨openedWorld, opened, opens, onward, config4, rounds, final, fresh⟩ :=
    openNextRound_opens (may.kept config3) (config3 ▸ minted) reached3.order named3
      fun other present => by
        cases kept.symm.trans present
        exact roundEnded.finalized
  refine ⟨⟨{ sweptRun.summary with openedRound := some (key + 1) }, openedWorld⟩, next, opened, ?_,
    ?_, ?_, ?_, ?_, roundEnded, ?_, fresh, ?_⟩
  · rw [finishStages, bind_of_ok reveals, bind_of_ok finalizes, bind_of_ok pays]
    exact bind_of_ok opens
  · exact moved.onward.trans (pots.any.onward.trans
      ((sweeps.onward.trans onward).mono fun _ _ _ => trivial))
  · exact final.trans (last.trans (later.trans now))
  · rw [config4, config3]
  · rw [rounds, Store.lookup_insert_apply, if_neg (Nat.succ_ne_self key).symm]
    exact kept
  · rw [rounds]
    simp
  · refine ⟨?_, ?_, rfl⟩
    · exact staged.closedRound.trans (by rw [summary])
    · exact staged.finalizedRound.trans (by rw [summary])

end SecretGarden.AutoCycle
