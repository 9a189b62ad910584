import SecretGarden.Settlement.Phases

/-! What a settlement's state says about the payments made so far, and what no run undoes: a
pot goes to the winners or to the entrants, never to both, and only once.
-/

namespace SecretGarden.Settlement

open Foundation SecretGarden.Bracket

variable {ledger after : RoundLedger} {submission : RoundSubmission}

/-- Instructions that move no pot note no payment. -/
structure PaymentsKept (journal later : PotJournal) : Prop where
  distributions : later.distributions = journal.distributions
  refunds : later.refunds = journal.refunds
  terms : later.terms = journal.terms

theorem notePot_kept (ledger : RoundLedger) (journal : PotJournal)
    (other : ¬ submission.instruction.MovesPot)
    : PaymentsKept journal (notePot ledger submission journal) := by
  obtain ⟨env, instruction⟩ := submission
  cases instruction with
  | distributePot accounts => exact absurd trivial other
  | refundUnrevealedPot accounts => exact absurd trivial other
  | outside event => cases event <;> exact ⟨rfl, rfl, rfl⟩
  | _ => exact ⟨rfl, rfl, rfl⟩

theorem notePot_distribute {journal : PotJournal} {env : Env} {accounts : List Pubkey}
    {settling : Settling} (planned : planDistribution env accounts ledger = .ok settling)
    : notePot ledger ⟨env, .distributePot accounts⟩ journal
      = journal.distribute settling.payments := by
  simp only [notePot, planned, plannedPayments]

theorem notePot_refund {journal : PotJournal} {env : Env} {accounts : List Pubkey}
    {settling : Settling} (planned : planRefund env accounts ledger = .ok settling)
    : notePot ledger ⟨env, .refundUnrevealedPot accounts⟩ journal
      = journal.refund ⟨env.config.sgdMint, ledger.balance env.config.sgdMint⟩
          settling.payments := by
  simp only [notePot, planned, plannedPayments]
  rfl

variable {state later : JournaledRound}

/-- The payments noted for a distribution are what the ledger paid out. -/
theorem paidOut_of_distributePot {env : Env} {accounts : List Pubkey}
    (success : journaledRound state ⟨env, .distributePot accounts⟩ = .ok later)
    : ∃ payments,
        later.journal = state.journal.distribute payments
        ∧ PaidOut payments state.system later.system := by
  obtain ⟨accepted, noted⟩ := journaled_eq_ok.mp success
  obtain ⟨settling, planned, settled⟩ := distributePot_success accepted
  exact ⟨settling.payments, noted.trans (notePot_distribute planned), settled.paid⟩

/-- The payments noted for a batch of a refund are what the ledger paid out. -/
theorem paidOut_of_refund {env : Env} {accounts : List Pubkey}
    (success : journaledRound state ⟨env, .refundUnrevealedPot accounts⟩ = .ok later)
    : ∃ terms payments,
        later.journal = state.journal.refund terms payments
        ∧ PaidOut payments state.system later.system := by
  obtain ⟨accepted, noted⟩ := journaled_eq_ok.mp success
  obtain ⟨settling, planned, settled⟩ := refundUnrevealedPot_success accepted
  exact ⟨_, settling.payments, noted.trans (notePot_refund planned), settled.paid⟩

/-- An accepted distribution found no settlement. -/
theorem Sound.undistributed (sound : Sound ledger) {env : Env} {pot : Nat}
    (checks : DistributeChecks env ledger pot) : ledger.settlement = none :=
  sound.settlement_eq_none checks.unsettled

/-- A refund found no settlement, or one that is pending. -/
theorem RefundPlanned.before {env : Env} {vault : Nat} {settling : Settling}
    (planned : RefundPlanned env ledger vault settling) (sound : Sound ledger)
    : ledger.settlement = none
      ∨ ∃ settlement, ledger.settlement = some settlement
        ∧ settlement.state = .potRefundPending := by
  cases planned with
  | nothing unsettled => exact .inl (sound.settlement_eq_none unsettled)
  | first unsettled => exact .inl (sound.settlement_eq_none unsettled)
  | later pending => exact .inr ⟨_, RoundLedger.settlement_of_pending pending, pending⟩

/-- No accepted instruction changes a terminal settlement. -/
theorem Sound.terminal_kept (sound : Sound ledger)
    (success : roundStep ledger submission = .ok after) {settlement : RoundSettlement}
    (stored : ledger.settlement = some settlement) (terminal : settlement.isTerminal)
    : after.settlement = some settlement := by
  cases sound.potMove success with
  | distributed _ checks =>
      rw [sound.undistributed checks] at stored
      cases stored
  | refunded _ _ plan =>
      rcases plan.before sound with absent | ⟨pending, found, state⟩
      · rw [absent] at stored
        cases stored
      · cases found.symm.trans stored
        simp [RoundSettlement.isTerminal, state] at terminal
  | closed swept =>
      rw [swept.frame]
      exact stored
  | still _ same =>
      rw [same]
      exact stored

/-- What the settlement says about the payments in the journal. -/
structure PotHistory (state : JournaledRound) : Prop where
  untouched : state.system.settlement = none
    → state.journal.distributions = [] ∧ state.journal.refunds = [] ∧ state.journal.terms = none
  paid : ∀ settlement, state.system.settlement = some settlement
    → settlement.state = .potPaid
    → state.journal.distributions.length = 1 ∧ state.journal.refunds = []
  unpaid : ∀ settlement, state.system.settlement = some settlement
    → settlement.state ≠ .potPaid
    → state.journal.distributions = []

/-- A round that was just opened has paid nothing. -/
theorem RoundLedger.Opened.potHistory (opened : ledger.Opened) : PotHistory ledger.journaled := by
  constructor
  · exact fun _ => ⟨rfl, rfl, rfl⟩
  all_goals simp [RoundLedger.journaled, opened.settlement]

/-- Keeping settlement and payments keeps the history. -/
theorem PotHistory.keep (known : PotHistory state) {journal : PotJournal}
    (settlement : after.settlement = state.system.settlement)
    (kept : PaymentsKept state.journal journal) : PotHistory ⟨after, journal⟩ := by
  constructor
  · intro absent
    rw [kept.distributions, kept.refunds, kept.terms]
    exact known.untouched (settlement ▸ absent)
  · intro stored found
    rw [kept.distributions, kept.refunds]
    exact known.paid stored (settlement ▸ found)
  · intro stored found
    rw [kept.distributions]
    exact known.unpaid stored (settlement ▸ found)

/-- Every accepted instruction keeps the history. -/
theorem PotHistory.step (known : PotHistory state) (sound : Sound state.system)
    (success : roundStep state.system submission = .ok after)
    : PotHistory ⟨after, notePot state.system submission state.journal⟩ := by
  cases sound.potMove success with
  | distributed planned checks _ settled result =>
      obtain ⟨undistributed, unrefunded, _⟩ := known.untouched (sound.undistributed checks)
      rw [notePot_distribute planned]
      constructor
      · intro absent
        rw [settled.settlement] at absent
        cases absent
      · intro _ _ _
        simp [PotJournal.distribute, undistributed, unrefunded]
      · intro settlement stored unpaid
        obtain rfl := Option.some.inj (settled.settlement.symm.trans stored)
        rw [result] at unpaid
        exact absurd rfl unpaid
  | refunded planned _ plan settled =>
      rw [notePot_refund planned]
      constructor
      · intro absent
        rw [settled.settlement] at absent
        cases absent
      · intro settlement stored paid
        obtain rfl := Option.some.inj (settled.settlement.symm.trans stored)
        rcases plan.state.2 with state | state <;> rw [state] at paid <;> cases paid
      · intro _ _ _
        rcases plan.before sound with absent | ⟨settlement, stored, pending⟩
        · exact (known.untouched absent).1
        · exact known.unpaid settlement stored (by simp [pending])
  | closed swept => exact known.keep (by rw [swept.frame]) ⟨rfl, rfl, rfl⟩
  | still unmoved same => exact known.keep same (notePot_kept _ _ unmoved)

/-- A journaled round stays sound throughout every run. -/
theorem sound_of_journaled {condition : JournaledRound → RoundSubmission → Prop}
    {start : RoundLedger} (opened : start.Opened) {history : List RoundSubmission}
    (run : Run journaledRound condition start.journaled history state) : Sound state.system :=
  sound_of_run opened run.forget

/-- The history holds throughout every run. -/
theorem potHistory_of_run {condition : JournaledRound → RoundSubmission → Prop}
    {start : RoundLedger} (opened : start.Opened) {history : List RoundSubmission}
    (run : Run journaledRound condition start.journaled history state) : PotHistory state := by
  apply run.invariant_with (fun run => sound_of_journaled opened run) opened.potHistory
  intro before submission after sound known _ success
  obtain ⟨accepted, noted⟩ := journaled_eq_ok.mp success
  have kept := known.step sound accepted
  rwa [← noted] at kept

end SecretGarden.Settlement
