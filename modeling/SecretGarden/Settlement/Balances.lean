import SecretGarden.Settlement.History

/-! Where the tokens of a round are: whatever came into a vault is still in it, was paid out of
it, or was swept when it was closed.
-/

namespace SecretGarden.Settlement

open Foundation SecretGarden.Bracket

variable {state later : JournaledRound} {submission : RoundSubmission}

@[simp] theorem PotJournal.paid_distribute (journal : PotJournal) (payments : List Payment)
    (mint : Pubkey)
    : (journal.distribute payments).paid mint = journal.paid mint + amountIn mint payments := by
  simp only [paid, PotJournal.payments, distribute, List.flatten_append, List.flatten_singleton,
    amountIn_append]
  omega

@[simp] theorem PotJournal.paid_refund (journal : PotJournal) (terms : RefundTerms)
    (payments : List Payment) (mint : Pubkey)
    : (journal.refund terms payments).paid mint
      = journal.paid mint + amountIn mint payments := by
  simp only [paid, PotJournal.payments, refund, amountIn_append, Nat.add_assoc]

/-- Everything that came into a vault is accounted for. -/
def Conserved (state : JournaledRound) : Prop :=
  ∀ mint, state.system.balance mint + state.journal.paid mint + state.journal.swept mint
    = state.journal.fees mint + state.journal.donated mint

/-- An instruction that does not move the pot notes what it brings, as a fee or as a gift. -/
theorem notePot_brought (ledger : RoundLedger) (journal : PotJournal)
    (unmoved : ¬ submission.instruction.MovesPot) (mint : Pubkey)
    : (notePot ledger submission journal).fees mint
        + (notePot ledger submission journal).donated mint
      = journal.fees mint + journal.donated mint + submission.brings mint := by
  obtain ⟨env, instruction⟩ := submission
  cases instruction with
  | submitEntry entryKey flowerKey flower playerSgdAta =>
      simp only [notePot, RoundSubmission.brings, Function.update_apply, eq_comm]
      split
      · next here =>
          subst here
          omega
      · rfl
  | outside event =>
      cases event with
      | donate fed amount =>
          simp only [notePot, RoundSubmission.brings, Outside.brings, Function.update_apply,
            eq_comm]
          split
          · next here =>
              subst here
              omega
          · rfl
      | _ => rfl
  | distributePot accounts => exact absurd trivial unmoved
  | refundUnrevealedPot accounts => exact absurd trivial unmoved
  | closePotVault surplusDestination => exact absurd trivial unmoved
  | _ => rfl

/-- Only a close notes a sweep. -/
theorem notePot_swept (ledger : RoundLedger) (journal : PotJournal)
    (unmoved : ¬ submission.instruction.MovesPot)
    : (notePot ledger submission journal).swept = journal.swept := by
  obtain ⟨env, instruction⟩ := submission
  cases instruction with
  | closePotVault surplusDestination => exact absurd trivial unmoved
  | outside event => cases event <;> rfl
  | _ => rfl

/-- Payments that took what they were noted to take conserve every vault. -/
theorem Conserved.pay (known : Conserved state) {payments : List Payment}
    (paid : PaidOut payments state.system later.system)
    (noted : ∀ mint, later.journal.paid mint = state.journal.paid mint + amountIn mint payments)
    (fees : later.journal.fees = state.journal.fees)
    (donated : later.journal.donated = state.journal.donated)
    (swept : later.journal.swept = state.journal.swept) : Conserved later := by
  intro mint
  have before := known mint
  have moved := paid.moved mint
  rw [noted, fees, donated, swept]
  omega

/-- Every accepted instruction conserves every vault, by cases on what moves the pot. -/
theorem Conserved.step (known : Conserved state)
    (success : journaledRound state submission = .ok later) : Conserved later := by
  obtain ⟨accepted, noted⟩ := journaled_eq_ok.mp success
  by_cases moves : submission.instruction.MovesPot
  · obtain ⟨env, instruction⟩ := submission
    cases instruction with
    | distributePot accounts =>
        obtain ⟨payments, journal, paid⟩ := paidOut_of_distributePot success
        exact known.pay paid (by simp [journal]) (by rw [journal]; rfl) (by rw [journal]; rfl)
          (by rw [journal]; rfl)
    | refundUnrevealedPot accounts =>
        obtain ⟨terms, payments, journal, paid⟩ := paidOut_of_refund success
        exact known.pay paid (by simp [journal]) (by rw [journal]; rfl) (by rw [journal]; rfl)
          (by rw [journal]; rfl)
    | closePotVault surplusDestination =>
        have swept := closePotVault_success accepted
        intro mint
        have before := known mint
        rw [swept.balance mint, noted]
        change _ + state.journal.paid mint
          + Function.update state.journal.swept env.config.sgdMint _ mint
          = state.journal.fees mint + state.journal.donated mint
        rw [Function.update_apply]
        split
        · next here =>
            subst here
            omega
        · exact before
    | _ => exact moves.elim
  · intro mint
    have kept := notePot_kept state.system state.journal moves
    have paid : later.journal.paid mint = state.journal.paid mint := by
      rw [noted, PotJournal.paid, PotJournal.payments, kept.distributions, kept.refunds]
      rfl
    have came := notePot_brought state.system state.journal moves mint
    have before := known mint
    rw [(roundStep_framed accepted).brought moves, paid, noted, came, notePot_swept _ _ moves]
    omega

theorem RoundLedger.conserved (ledger : RoundLedger) : Conserved ledger.journaled := by
  intro mint
  change ledger.balance mint + 0 + 0 = 0 + ledger.balance mint
  omega

/-- Every vault is accounted for throughout every run of a round. -/
theorem conserved_of_run {condition : JournaledRound → RoundSubmission → Prop}
    {start : RoundLedger} {history : List RoundSubmission}
    (run : Run journaledRound condition start.journaled history state) : Conserved state :=
  run.invariant start.conserved fun known _ success => known.step success

end SecretGarden.Settlement
