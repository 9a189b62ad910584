import SecretGarden.AutoCycle.Backlog
import SecretGarden.AutoCycle.RevealStage
import SecretGarden.Settlement.Schedule

/-! From one round to the next: closing a round whose time is up, finalizing it, and opening the
one after it.
-/

namespace SecretGarden.AutoCycle

open Foundation SecretGarden.Bracket SecretGarden.Settlement SecretGarden.Season

variable {deps : CycleDeps} {key : RoundKey} {world : CycleWorld} {ledger next : RoundLedger}
  {condition : TracedSeason → SeasonSubmission → Prop}

/-- An operator may close the round once it has ended. -/
def Timed (ledger : RoundLedger) : Prop :=
  ledger.round.startTime + minOperatorCloseDelaySeconds ≤ ledger.round.endTime

/-- Every round of a season runs for long enough. -/
theorem timed_of_reached (reached : Reached condition world.deployment)
    (found : world.deployment.rounds.lookup key = some ledger) : Timed ledger := by
  obtain ⟨start, history, journal, fresh, run⟩ := reached
  refine rounds_of_run (fun ledger opened => ?_) (fun {before after submission} timed moved => ?_)
    fresh run.forget found
  · obtain ⟨roundId, now, targets, _, round⟩ := opened.round
    obtain ⟨_, long, _⟩ := roundEndTime_bounds now
    rw [Timed, round]
    change now + _ ≤ roundEndTime now
    unfold minOperatorCloseDelaySeconds
    unfold minRoundDurationSeconds at long
    omega
  · unfold Timed at timed ⊢
    cases roundStep_change moved <;> simp_all [revealedRound]

theorem roundAt_of_found (found : world.deployment.rounds.lookup key = some ledger)
    : roundAt key world = .ok ledger := by
  rw [roundAt, found]
  rfl

/-- The round with its next status. -/
def RoundLedger.withStatus (ledger : RoundLedger) (status : RoundStatus) : RoundLedger :=
  { ledger with round := { ledger.round with status := status } }

/-- An open round whose time is up is closed. -/
theorem closeStage_closes {run : CycleRun} (may : MayScore deps run.world)
    (found : run.world.deployment.rounds.lookup key = some ledger) (timed : Timed ledger)
    (opened : ledger.round.status = .opened) (due : ledger.round.endTime ≤ run.world.now)
    : ∃ after,
        closeStage deps key .close run = .ok after
        ∧ Moved BesideReveals key
            (fun ledger next => next = RoundLedger.withStatus ledger .closed) run.world after.world
        ∧ after.world.now = run.world.now
        ∧ after.summary.closedRound = some key
        ∧ after.summary.finalizedRound = run.summary.finalizedRound
        ∧ after.summary.openedRound = run.summary.openedRound := by
  let next := RoundLedger.withStatus ledger .closed
  have clock := may.clock run.world.now
  have accepted : roundStep ledger ⟨deps.envAt run.world, .closeRound⟩ = .ok next := by
    change closeRound (deps.envAt run.world) ledger = .ok next
    simp only [closeRound, requireOperator, bind_eq_ok, require_eq_ok, exists_const]
    refine ⟨may.operator, opened, fun _ => ?_, rfl⟩
    change _ ≤ deps.chainTime run.world.now - _
    unfold Timed at timed
    omega
  let summary := { run.summary with
    closedRound := some key
    entryCount := some next.round.participantCount }
  refine ⟨⟨summary, run.world.put key next⟩, ?_, ?_, rfl, rfl, rfl, rfl⟩
  · rw [closeStage, if_pos rfl]
    refine bind_eq_ok.mpr ⟨_, send_of_step found accepted, ?_⟩
    exact bind_eq_ok.mpr ⟨next, roundAt_of_found (lookup_put next), rfl⟩
  · have moved : Moved BesideReveals key (fun _ _ => True) run.world (run.world.put key next) :=
      moved_of_step found accepted (by simp) trivial
    refine ⟨moved.onward, moved.config, moved.others, fun _ present => ?_⟩
    cases found.symm.trans present
    exact ⟨next, lookup_put next, rfl⟩

/-- A closed round is finalized. -/
theorem finalizeStage_finalizes {run : CycleRun}
    (operator : isOperatorOrAuthority run.world.deployment.config deps.signer)
    (found : run.world.deployment.rounds.lookup key = some ledger)
    (closed : ledger.round.status = .closed)
    : ∃ after,
        finalizeStage deps key run = .ok after
        ∧ Moved BesideReveals key
            (fun ledger next => next = RoundLedger.withStatus ledger .finalized)
            run.world after.world
        ∧ after.world.now = run.world.now
        ∧ after.summary = { run.summary with finalizedRound := some key } := by
  let next := RoundLedger.withStatus ledger .finalized
  have accepted : roundStep ledger ⟨deps.envAt run.world, .finalizeRound⟩ = .ok next := by
    change finalizeRound (deps.envAt run.world) ledger = .ok next
    simp only [finalizeRound, requireOperator, bind_eq_ok, require_eq_ok, exists_const]
    exact ⟨operator, closed, rfl⟩
  refine ⟨⟨{ run.summary with finalizedRound := some key }, run.world.put key next⟩, ?_, ?_, rfl,
    rfl⟩
  · rw [finalizeStage, bind_of_ok (roundAt_of_found found), if_neg (by simp [closed])]
    exact bind_eq_ok.mpr ⟨_, send_of_step found accepted, rfl⟩
  · have moved : Moved BesideReveals key (fun _ _ => True) run.world (run.world.put key next) :=
      moved_of_step found accepted (by simp) trivial
    refine ⟨moved.onward, moved.config, moved.others, fun _ present => ?_⟩
    cases found.symm.trans present
    exact ⟨next, lookup_put next, rfl⟩

/-- The next round opens once the current one is finalized. -/
theorem openNextRound_opens {current : RoundKey} (may : MayScore deps world)
    (minted : world.deployment.config.sgdMint ≠ 0) (order : RoundsInOrder world.deployment)
    (named : world.deployment.config.currentRound = current)
    (past : ∀ ledger, world.deployment.rounds.lookup current = some ledger
      → ledger.round.status = .finalized)
    : ∃ after ledger,
        openNextRound deps current world = .ok after
        ∧ Onward BesideReveals world.deployment after.deployment
        ∧ after.deployment.config = { world.deployment.config with currentRound := current + 1 }
        ∧ after.deployment.rounds = world.deployment.rounds.insert (current + 1) ledger
        ∧ after.now = world.now
        ∧ RoundLedger.Opened ledger := by
  subst named
  let current := world.deployment.config.currentRound
  have unused : world.deployment.rounds.lookup (current + 1) = none := by
    by_contra used
    have placed := (order.numbered (current + 1)).mp (Option.isSome_iff_ne_none.mpr used)
    exact Nat.not_succ_le_self _ placed.2
  have previous : requirePreviousFinalized (if 0 < current then some current else none)
      world.deployment = .ok () := by
    unfold requirePreviousFinalized
    by_cases first : 0 < current
    · obtain ⟨ledger, found⟩ := Option.isSome_iff_exists.mp
        ((order.numbered current).mpr ⟨first, Nat.le_refl _⟩)
      rw [if_pos first, if_pos first]
      simp only [bind_eq_ok, fetch_eq_ok, require_eq_ok, exists_const]
      exact ⟨current, rfl, ledger, found, order.named _ _ found, past _ found⟩
    · exact if_neg first
  let instruction := SeasonInstruction.openRound (if 0 < current then some current else none)
    (deps.funded (current + 1))
  obtain ⟨after, accepted⟩ :
      ∃ after, seasonStep world.deployment (deps.submission world.now instruction) = .ok after := by
    change ∃ after, openRound _ _ _ _ = .ok after
    simp only [openRound, requireUnpaused, requireOperator, bind_eq_ok, require_eq_ok, exists_const]
    exact ⟨_, may.unpaused, by rw [unused]; rfl, may.operator, minted, (), previous, rfl⟩
  obtain ⟨_, _, rfl⟩ := openRound_success accepted
  refine ⟨⟨_, world.now⟩, _, ?_, .of_step (fun journal => ?_) accepted, rfl, rfl, rfl,
    openedLedger_opened _ _ _ _ _ (Nat.succ_pos _)⟩
  · rw [openNextRound]
    refine bind_eq_ok.mpr ⟨(), require_eq_ok.mpr minted, ?_⟩
    rw [send, accepted]
  · rintro key instruction ⟨⟩

end SecretGarden.AutoCycle
