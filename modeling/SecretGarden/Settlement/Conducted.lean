import SecretGarden.Bracket.Upkeep
import SecretGarden.Settlement.Ranked

/-! What a round's reveal leaves behind for the next run to find, over the round's whole life:
results with their computations, partition accounts of this round, and stamps. Before all
entries are scored there is nothing of it.
-/

namespace SecretGarden.Settlement

open Foundation SecretGarden.Bracket

variable {ledger after : RoundLedger} {submission : RoundSubmission} {state : TracedRound}

/-- Instructions beside the reveal leave its results and computations. -/
structure ResultsKept (ledger after : RoundLedger) : Prop where
  results : after.results = ledger.results
  computations : after.computations = ledger.computations

theorem roundStep_resultsKept (success : roundStep ledger submission = .ok after)
    (other : ∀ instruction, submission.instruction ≠ .reveal instruction)
    : ResultsKept ledger after := by
  obtain ⟨env, instruction⟩ := submission
  cases instruction with
  | submitEntry entryKey flowerKey flower playerSgdAta =>
      obtain ⟨_, frame⟩ := submitEntry_success success
      rw [frame]
      exact ⟨rfl, rfl⟩
  | closeRound =>
      obtain ⟨_, rfl⟩ := closeRound_success success
      exact ⟨rfl, rfl⟩
  | finalizeRound =>
      obtain ⟨_, rfl⟩ := finalizeRound_success success
      exact ⟨rfl, rfl⟩
  | queueScoreEntry computationOffset entryKey flowerKey =>
      obtain ⟨_, _, rfl⟩ := queueScoreEntry_checked success
      exact ⟨rfl, rfl⟩
  | scoreEntryV2Callback computationOffset output =>
      obtain ⟨_, _, _, _, _, delivered⟩ := scoreEntryV2Callback_delivered success
      cases delivered <;> exact ⟨rfl, rfl⟩
  | cancelStuckScore entryKey =>
      obtain ⟨_, _, _, rfl⟩ := cancelStuckScore_attempted success
      exact ⟨rfl, rfl⟩
  | releaseEntry entryKey flowerKey =>
      obtain ⟨_, _, rfl⟩ := releaseEntry_checked success
      exact ⟨rfl, rfl⟩
  | reveal instruction => exact absurd rfl (other instruction)
  | distributePot accounts =>
      obtain ⟨_, _, settled⟩ := distributePot_success success
      rw [settled.frame]
      exact ⟨rfl, rfl⟩
  | refundUnrevealedPot accounts =>
      obtain ⟨_, _, settled⟩ := refundUnrevealedPot_success success
      rw [settled.frame]
      exact ⟨rfl, rfl⟩
  | closePotVault surplusDestination =>
      rw [(closePotVault_success success).frame]
      exact ⟨rfl, rfl⟩
  | outside event =>
      rw [outside_frame success]
      exact ⟨rfl, rfl⟩

/-- Nobody leaves a round. -/
theorem roundStep_seats (success : roundStep ledger submission = .ok after)
    : ledger.round.participantCount ≤ after.round.participantCount := by
  rcases roundStep_entries success with ⟨_, _, entered⟩ | ⟨_, same⟩
  · rw [entered.participants]
    exact Nat.le_succ _
  · exact same.ge

/-- A reveal's first instruction is a pin, over complete scores. -/
theorem revealStep_pins {ledger after : RevealLedger} {submission : Submission}
    (unstarted : ledger.Unstarted) (success : revealStep ledger submission = .ok after)
    : PinChecks submission.env ledger.round := by
  obtain ⟨env, instruction⟩ := submission
  have unpinned {bracket : BracketState} (found : ledger.bracket = some bracket) : False := by
    cases unstarted.bracket.symm.trans found
  have untiered {tier1 : Tier1State} (found : ledger.tier1 = some tier1) : False := by
    cases unstarted.tier1.symm.trans found
  cases instruction with
  | initBracket shardSizes shardBounds shardCount => exact (initBracket_eq_ok.mp success).1
  | initTier1Bracket shardSizes shardBounds shardCount =>
      exact (initTier1Bracket_eq_ok.mp success).1
  | queueShardReveal computationOffset shardIndex accounts =>
      obtain ⟨_, _, checks, _⟩ := queueShardReveal_eq_ok.mp success
      exact (unpinned checks.found).elim
  | collectShardWinners shardIndex accounts =>
      obtain ⟨_, _, _, _, checks, _⟩ := collectShardWinners_eq_ok.mp success
      exact (unpinned checks.found).elim
  | applyBracketResult resultIndex =>
      obtain ⟨_, _, _, checks, _⟩ := applyBracketResult_eq_ok.mp success
      exact (unpinned checks.found).elim
  | closeTier1Bracket =>
      obtain ⟨⟨_, found⟩, _⟩ := closeTier1Bracket_eq_ok.mp success
      exact (untiered found).elim
  | queueTier1ShardReveal computationOffset shardIndex accounts =>
      obtain ⟨_, _, checks, _⟩ := queueTier1ShardReveal_eq_ok.mp success
      exact (untiered checks.found).elim
  | collectTier1Winners shardIndex accounts =>
      obtain ⟨_, _, _, _, checks, _⟩ := collectTier1Winners_eq_ok.mp success
      exact (untiered checks.found).elim
  | promoteTier1 =>
      obtain ⟨_, checks, _⟩ := promoteTier1_eq_ok.mp success
      exact (untiered checks.found).elim
  | queueSemifinalReveal computationOffset semiIndex accounts =>
      obtain ⟨_, _, _, checks, _⟩ := queueSemifinalReveal_eq_ok.mp success
      exact (unpinned checks.found).elim
  | collectSemifinalWinners semiIndex =>
      obtain ⟨_, _, _, _, _, _, checks, _⟩ := collectSemifinalWinners_eq_ok.mp success
      exact (unpinned checks.found).elim
  | revealTop3V5Callback computationOffset verified =>
      obtain ⟨_, _, queued, _⟩ := revealTop3V5Callback_eq_ok.mp success
      rw [unstarted.computations] at queued
      cases queued

--------------------------------------------------------------------------------
-- The invariant
--------------------------------------------------------------------------------

/-- The round is over and everything is scored, which is when a reveal may begin. -/
def Rankable (ledger : RoundLedger) : Prop := ledger.round.status ≠ .opened ∧ AllScored ledger

/-- What a reveal has left, whichever way it went so far. -/
structure Conducted (state : TracedRound) : Prop where
  tracked : Tracked state.system.toRevealLedger
  upkept : Upkept (revealOf state)
  stamped : Stamped (revealOf state)
  waiting : ¬ Rankable state.system → state.system.Unstarted

theorem RoundLedger.Opened.conducted (opened : ledger.Opened) : Conducted ⟨ledger, .blank⟩ :=
  ⟨opened.unstarted.tracked, opened.unstarted.upkept, opened.unstarted.stamped,
    fun _ => opened.unstarted⟩

/-- A round stays ready to be ranked. -/
theorem Rankable.step (rankable : Rankable ledger) (sound : Sound ledger)
    (success : roundStep ledger submission = .ok after) : Rankable after :=
  ⟨(roundStep_advanced success).closed rankable.1, rankable.2.step sound rankable.1 success⟩

/-- Instructions beside the reveal keep what it left. -/
theorem Conducted.other (known : Conducted state) (attested : Attested state)
    (success : roundStep state.system submission = .ok after)
    (other : ∀ instruction, submission.instruction ≠ .reveal instruction)
    (kept : PartitionsKept state.system after)
    : Conducted ⟨after, state.journal⟩ := by
  have results := roundStep_resultsKept success other
  have key := (roundStep_advanced success).key
  have revealed := (roundStep_revealKept success fun _ => other _).revealed
  refine ⟨known.tracked.quiet results.results results.computations, ?_, ?_, ?_⟩
  · have upkept := known.upkept
    refine ⟨fun found => ?_, fun found => ?_, fun found applied => ?_, fun sliced => ?_,
      fun found promoted => ?_⟩
    · exact (upkept.bracketOwned (kept.bracket ▸ found)).trans key.symm
    · exact (upkept.tier1Owned (kept.tier1 ▸ found)).trans key.symm
    · exact revealed.trans (upkept.unapplied (kept.bracket ▸ found) applied)
    · exact (upkept.large sliced).trans_le (roundStep_seats success)
    · obtain ⟨bracket, held⟩ := upkept.promoted (kept.tier1 ▸ found) promoted
      exact ⟨bracket, kept.bracket.trans held⟩
  · refine known.stamped.quiet kept.bracket rfl (fun absent small target => ?_) ?_
    · refine (congrArg _ results.results).trans (known.stamped.unpinned (kept.bracket ▸ absent) ?_
        target)
      exact (roundStep_seats success).trans small
    · rintro target generation ⟨result, held, stamp⟩
      exact ⟨result, results.results ▸ held, stamp⟩
  · intro unready
    have unstarted := known.waiting fun ready => unready (ready.step attested.sound success)
    exact ⟨kept.bracket.trans unstarted.bracket, kept.tier1.trans unstarted.tier1,
      results.results.trans unstarted.results, results.computations.trans unstarted.computations⟩

/-- Every accepted instruction keeps a round conducted. -/
theorem Conducted.step (known : Conducted state) (attested : Attested state)
    (success : roundStep state.system submission = .ok after)
    : Conducted ⟨after, noteReveal state.system submission state.journal⟩ := by
  rcases roundStep_reveal_or_beside success with
    ⟨env, instruction, revealed, rfl, accepted, rfl⟩ | ⟨other, kept⟩
  · have formed := attested.traced.formed
    refine ⟨known.tracked.step accepted, known.upkept.step formed accepted,
      known.stamped.step formed accepted, fun unready => ?_⟩
    refine absurd ?_ unready
    by_cases ready : Rankable state.system
    · exact ready.step attested.sound success
    · have pinned := revealStep_pins (known.waiting ready) accepted
      refine absurd ⟨?_, attested.tallied.allScored attested.sound pinned.scored⟩ ready
      rcases pinned.ended with closed | finalized <;> simp [*]
  · rw [noteReveal_other other]
    exact known.other attested success other kept

end SecretGarden.Settlement
