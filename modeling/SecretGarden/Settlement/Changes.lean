import SecretGarden.Settlement.Plans

/-! What one accepted instruction does to a round and its entries, whichever it is. Invariants
over entries and the round's fields are kept by cases on this relation.
-/

namespace SecretGarden.Settlement

open Foundation SecretGarden.Bracket

variable {ledger after : RoundLedger} {submission : RoundSubmission}

/-- The round's entries and fields after an accepted instruction. -/
inductive RoundChange (submission : RoundSubmission) (ledger after : RoundLedger) : Prop
  | kept
    (entries : after.entries = ledger.entries)
    (round : after.round = ledger.round)
  | entered {entryKey playerSgdAta : Pubkey} {flowerKey : FlowerKey} {flower : FlowerRecord}
    (asked : submission.instruction = .submitEntry entryKey flowerKey flower playerSgdAta)
    (checks : SubmitChecks submission.env ledger entryKey flower)
    (entries
      : after.entries
        = ledger.entries.insert entryKey (newEntry submission.env ledger flowerKey flower))
    (round
      : after.round
        = { ledger.round with participantCount := ledger.round.participantCount + 1 })
  | closed
    (opened : ledger.round.status = .opened)
    (entries : after.entries = ledger.entries)
    (round : after.round = { ledger.round with status := .closed })
  | finalized
    (closed : ledger.round.status = .closed)
    (entries : after.entries = ledger.entries)
    (round : after.round = { ledger.round with status := .finalized })
  | attempted {entryKey : Pubkey} {entry later : CompetitionEntry}
    (attempt : Attempted ledger entryKey entry later)
    (entries : after.entries = ledger.entries.insert entryKey later)
    (round : after.round = ledger.round)
  | scored {entryKey : Pubkey} {entry : CompetitionEntry} {score nonce : Nat}
    (found : ledger.entries.lookup entryKey = some entry)
    (own : entry.round = ledger.round.key)
    (unscored : entry.scored = false)
    (entries
      : after.entries = ledger.entries.insert entryKey (scoredEntry entry score nonce))
    (round
      : after.round
        = { ledger.round with scoredCount := min u16Max (ledger.round.scoredCount + 1) })
  | released {entryKey : Pubkey} {flowerKey : FlowerKey} {entry : CompetitionEntry}
    (asked : submission.instruction = .releaseEntry entryKey flowerKey)
    (checks : ReleaseChecks ledger entryKey flowerKey entry)
    (entries
      : after.entries = ledger.entries.insert entryKey { entry with status := .released })
    (round : after.round = ledger.round)
  | revealed {resultIndex : Nat} {top : List Pubkey}
    (asked : submission.instruction = .reveal (.applyBracketResult resultIndex))
    (entries : after.entries = ledger.entries)
    (round : after.round = revealedRound ledger.round top)
  | elsewhere {address : Pubkey} {entry : CompetitionEntry}
    (unused : ledger.entries.lookup address = none)
    (foreign : entry.round ≠ ledger.round.key)
    (entries : after.entries = ledger.entries.insert address entry)
    (round : after.round = ledger.round)

/-- Every accepted instruction is one of these changes. -/
theorem roundStep_change (success : roundStep ledger submission = .ok after)
    : RoundChange submission ledger after := by
  obtain ⟨env, instruction⟩ := submission
  cases instruction with
  | submitEntry entryKey flowerKey flower playerSgdAta =>
      obtain ⟨checks, frame⟩ := submitEntry_success success
      exact .entered rfl checks (by rw [frame]) (by rw [frame])
  | closeRound =>
      obtain ⟨opened, rfl⟩ := closeRound_success success
      exact .closed opened rfl rfl
  | finalizeRound =>
      obtain ⟨closed, rfl⟩ := finalizeRound_success success
      exact .finalized closed rfl rfl
  | queueScoreEntry computationOffset entryKey flowerKey =>
      obtain ⟨entry, checks, rfl⟩ := queueScoreEntry_checked success
      exact .attempted ⟨checks.found, checks.unscored, _, _, _, rfl⟩ rfl rfl
  | scoreEntryV2Callback computationOffset output =>
      obtain ⟨entryKey, entry, _, found, own, delivered⟩ :=
        scoreEntryV2Callback_delivered success
      cases delivered with
      | ignored => exact .kept rfl rfl
      | failed unscored => exact .attempted ⟨found, unscored, _, _, _, rfl⟩ rfl rfl
      | succeeded unscored => exact .scored found own unscored rfl rfl
  | cancelStuckScore entryKey =>
      obtain ⟨entry, later, attempt, rfl⟩ := cancelStuckScore_attempted success
      exact .attempted attempt rfl rfl
  | releaseEntry entryKey flowerKey =>
      obtain ⟨entry, checks, rfl⟩ := releaseEntry_checked success
      exact .released rfl checks rfl rfl
  | reveal instruction =>
      obtain ⟨revealed, accepted, done⟩ := bind_eq_ok.mp success
      obtain rfl := pure_eq_ok.mp done
      have framed := revealStep_framed accepted
      rcases framed.round with same | ⟨resultIndex, top, rfl, written⟩
      · exact .kept framed.entries same
      · exact .revealed rfl framed.entries written
  | distributePot accounts =>
      obtain ⟨settling, _, settled⟩ := distributePot_success success
      exact .kept (by rw [settled.frame]) (by rw [settled.frame])
  | refundUnrevealedPot accounts =>
      obtain ⟨settling, _, settled⟩ := refundUnrevealedPot_success success
      exact .kept (by rw [settled.frame]) (by rw [settled.frame])
  | closePotVault surplusDestination =>
      have swept := closePotVault_success success
      exact .kept (by rw [swept.frame]) (by rw [swept.frame])
  | outside event =>
      cases event with
      | enterElsewhere address entry =>
          simp only [roundStep, Outside.happen, bind_eq_ok, require_eq_ok, exists_const,
            pure_eq_ok, Option.isNone_iff_eq_none] at success
          obtain ⟨⟨_, unused⟩, foreign, rfl⟩ := success
          exact .elsewhere unused foreign rfl rfl
      | createVault mint =>
          obtain ⟨_, _, done⟩ := bind_eq_ok.mp success
          obtain rfl := pure_eq_ok.mp done
          exact .kept rfl rfl
      | donate mint amount =>
          obtain ⟨_, _, done⟩ := bind_eq_ok.mp success
          obtain rfl := pure_eq_ok.mp done
          exact .kept rfl rfl
      | changeWallet address wallet =>
          obtain rfl := pure_eq_ok.mp success
          exact .kept rfl rfl
      | closeWallet address =>
          obtain rfl := pure_eq_ok.mp success
          exact .kept rfl rfl

end SecretGarden.Settlement
