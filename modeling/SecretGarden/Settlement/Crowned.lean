import SecretGarden.Bracket.Entrants
import SecretGarden.Settlement.Phases

/-! A revealed round has a winner: what the reveal's invariants say about the round as a whole,
while entries and scores come in.
-/

namespace SecretGarden.Settlement

open Foundation SecretGarden.Bracket

variable {ledger after : RoundLedger} {submission : RoundSubmission}

/-- The reveal records entries of the round only, starts once it is no longer open, and crowns
one of them.
-/
structure Crowned (ledger : RoundLedger) : Prop where
  formed : ∃ journal, WellFormed ⟨ledger.toRevealLedger, journal⟩
  entrants : EntrantsOnly ledger.toRevealLedger
  early : ledger.round.status = .opened
    → ledger.bracket = none ∧ ledger.tier1 = none ∧ ledger.round.scoringRevealed = false
  crowned : ledger.round.scoringRevealed → ledger.round.top1 ∈ ledger.roundEntries

/-- A round that was just opened has no reveal yet. -/
theorem RoundLedger.Opened.crowned (opened : ledger.Opened) : Crowned ledger := by
  obtain ⟨_, _, _, _, round⟩ := opened.round
  have unrevealed : ledger.round.scoringRevealed = false := by
    rw [round]
    rfl
  refine ⟨⟨_, opened.unstarted.wellFormed⟩,
    entrantsOnly_of_none opened.unstarted.bracket opened.unstarted.tier1,
    fun _ => ⟨opened.unstarted.bracket, opened.unstarted.tier1, unrevealed⟩, ?_⟩
  intro revealed
  rw [unrevealed] at revealed
  cases revealed

/-- An accepted instruction is one of the reveal, or leaves the partition accounts alone. -/
theorem roundStep_reveal_or_beside (success : roundStep ledger submission = .ok after)
    : (∃ env instruction revealed,
        submission = ⟨env, .reveal instruction⟩
        ∧ revealStep ledger.toRevealLedger ⟨env, instruction⟩ = .ok revealed
        ∧ after = { ledger with toRevealLedger := revealed })
      ∨ (∀ instruction, submission.instruction ≠ .reveal instruction)
        ∧ PartitionsKept ledger after := by
  by_cases reveals : ∃ instruction, submission.instruction = .reveal instruction
  · obtain ⟨env, _⟩ := submission
    obtain ⟨instruction, rfl⟩ := reveals
    obtain ⟨revealed, accepted, done⟩ := bind_eq_ok.mp success
    exact .inl ⟨env, instruction, revealed, rfl, accepted, (pure_eq_ok.mp done).symm⟩
  · have other : ∀ instruction, submission.instruction ≠ .reveal instruction :=
      fun instruction same => reveals ⟨instruction, same⟩
    exact .inr ⟨other, (roundStep_framed success).partitions other⟩

/-- Without partition accounts there is nothing to check. -/
theorem wellFormed_of_none {ledger : RevealLedger} (bracket : ledger.bracket = none)
    (tier1 : ledger.tier1 = none) (journal : Journal) : WellFormed ⟨ledger, journal⟩ := by
  constructor
  all_goals simp [bracket, tier1]

/-- New participants come only to a round without partition accounts. -/
theorem Crowned.participants_of_step (known : Crowned ledger)
    (success : roundStep ledger submission = .ok after)
    : after.round.participantCount = ledger.round.participantCount
      ∨ ledger.bracket = none ∧ ledger.tier1 = none := by
  rcases roundStep_entries success with ⟨_, entryKey, entered⟩ | ⟨_, participants⟩
  · obtain ⟨bracket, tier1, _⟩ := known.early entered.opened
    exact .inr ⟨bracket, tier1⟩
  · exact .inl participants

/-- Instructions beside the reveal keep its shape. -/
theorem Crowned.formed_of_step {journal : Journal} (known : Crowned ledger)
    (formed : WellFormed ⟨ledger.toRevealLedger, journal⟩)
    (success : roundStep ledger submission = .ok after) (kept : PartitionsKept ledger after)
    : WellFormed ⟨after.toRevealLedger, journal⟩ := by
  rcases known.participants_of_step success with participants | ⟨bracket, tier1⟩
  · exact formed.quiet participants kept.bracket kept.tier1 rfl
  · exact wellFormed_of_none (kept.bracket.trans bracket) (kept.tier1.trans tier1) _

/-- Every accepted instruction keeps the reveal's facts. -/
theorem Crowned.step (known : Crowned ledger) (success : roundStep ledger submission = .ok after)
    : Crowned after := by
  have advanced := roundStep_advanced success
  have still (opened : after.round.status = .opened) : ledger.round.status = .opened := by
    by_contra ended
    exact advanced.closed ended opened
  obtain ⟨journal, formed⟩ := known.formed
  rcases roundStep_reveal_or_beside success with
    ⟨env, instruction, revealed, rfl, accepted, rfl⟩ | ⟨other, kept⟩
  · refine ⟨⟨_, formed.step accepted⟩, known.entrants.step formed accepted, fun opened => ?_,
      fun crowned => ?_⟩
    · obtain ⟨bracket, tier1, unrevealed⟩ := known.early (still opened)
      obtain ⟨bracket', tier1'⟩ := revealStep_early (still opened) bracket tier1 accepted
      refine ⟨bracket', tier1', ?_⟩
      rcases (revealStep_framed accepted).round with same | ⟨resultIndex, top, rfl, _⟩
      · exact (congrArg _ same).trans unrevealed
      · obtain ⟨held, _, _, checks, _⟩ := applyBracketResult_eq_ok.mp accepted
        exact absurd (bracket.symm.trans checks.found) (by simp)
    · apply advanced.mem_roundEntries
      rcases (revealStep_framed accepted).round with same | ⟨resultIndex, top, rfl, _⟩
      · change revealed.round.top1 ∈ ledger.roundEntries
        change revealed.round.scoringRevealed at crowned
        rw [same] at crowned ⊢
        exact known.crowned crowned
      · exact known.entrants.crowns formed accepted
  · have reveal := roundStep_revealKept success fun resultIndex => other _
    refine ⟨⟨journal, known.formed_of_step formed success kept⟩,
      known.entrants.mono kept.bracket kept.tier1 fun _ => advanced.mem_roundEntries,
      fun opened => ?_, fun revealed => ?_⟩
    · obtain ⟨bracket, tier1, unrevealed⟩ := known.early (still opened)
      exact ⟨kept.bracket.trans bracket, kept.tier1.trans tier1,
        reveal.revealed.trans unrevealed⟩
    · have top : after.round.top1 = ledger.round.top1 := (List.cons.inj reveal.tops).1
      rw [top]
      rw [reveal.revealed] at revealed
      exact advanced.mem_roundEntries (known.crowned revealed)

/-- A revealed round has participants, and a winner to pay. -/
theorem Crowned.won (known : Crowned ledger) (sound : Sound ledger)
    (revealed : ledger.round.scoringRevealed)
    : 0 < ledger.round.participantCount ∧ potWinners ledger.round ≠ [] := by
  have crowned := known.crowned revealed
  refine ⟨?_, ?_⟩
  · rw [sound.counted]
    exact List.length_pos_of_mem crowned
  · apply List.ne_nil_of_mem (a := ledger.round.top1)
    exact List.mem_filter.mpr
      ⟨List.mem_cons_self, by simpa using sound.addressed _ crowned⟩

end SecretGarden.Settlement
