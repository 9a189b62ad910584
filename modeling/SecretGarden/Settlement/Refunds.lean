import SecretGarden.Settlement.History

/-! Every entrant of a refunded round gets the same amount back exactly once, whatever the
batches, while the refund's mint stays configured.
-/

namespace SecretGarden.Settlement

open Foundation SecretGarden.Bracket

variable {ledger after : RoundLedger} {submission : RoundSubmission}

/-- A refund went to the player of an entry, in the mint and at the amount of the terms. -/
structure PaidBack (ledger : RoundLedger) (mint perEntrant : Nat) (payment : Payment) : Prop where
  entered : ∃ entry, ledger.entries.lookup payment.entry = some entry
    ∧ payment.owner = entry.player
  mint : payment.mint = mint
  amount : payment.amount = perEntrant

/-- The refunds made so far under a settlement: equal amounts to distinct entries of the round,
none above the cursor, with the terms fixed by what the first batch found and the vault
covering everyone who is still owed.
-/
structure RefundedSoFar (ledger : RoundLedger) (refunds : List Payment) (terms : RefundTerms)
    (settlement : RoundSettlement) : Prop where
  entrants : settlement.entrantCount = ledger.roundEntries.length
  totalPot : settlement.totalPot = terms.balance
  perEntrant : settlement.perEntrant = min entryFeeSgd (terms.balance / settlement.entrantCount)
  surplus : settlement.perEntrant * settlement.entrantCount + settlement.surplus
    = settlement.totalPot
  visited : Visited ledger.roundEntries (refunds.map Payment.entry) settlement.cursor
  recipients : settlement.recipientCount = refunds.length
  settled : settlement.totalSettled = settlement.perEntrant * refunds.length
  players : ∀ payment ∈ refunds, PaidBack ledger terms.mint settlement.perEntrant payment
  solvent : settlement.state = .potRefundPending
    → settlement.perEntrant * (settlement.entrantCount - refunds.length)
      ≤ ledger.balance terms.mint
  finished : settlement.state = .potRefunded
    → 0 < settlement.perEntrant
    → refunds.length = settlement.entrantCount

/-- What an entrant is owed at most fits the vault for everyone. -/
theorem perEntrant_mul_le (fee vault count : Nat) : min fee (vault / count) * count ≤ vault :=
  (Nat.mul_le_mul_right _ (min_le_right _ _)).trans (Nat.div_mul_le_self _ _)

/-- The frozen terms before any payment. -/
theorem Sound.frozen (sound : Sound ledger) {mint vault : Nat} (now : Int)
    (held : ledger.vaults.lookup mint = some vault)
    : RefundedSoFar ledger [] ⟨mint, vault⟩ (frozenTerms ledger vault now) := by
  have fits := perEntrant_mul_le entryFeeSgd vault ledger.round.participantCount
  constructor
  · exact sound.counted
  · rfl
  · rfl
  · exact Nat.add_sub_cancel' fits
  · exact .nil
  · rfl
  · rfl
  · simp
  · intro _
    rw [RoundLedger.balance, held]
    exact fits
  · rintro ⟨⟩

/-- The terms stay while the round does and the vault of a pending refund is not drained. -/
theorem RefundedSoFar.keep {refunds : List Payment} {terms : RefundTerms}
    {settlement : RoundSettlement} (known : RefundedSoFar ledger refunds terms settlement)
    (advanced : Advanced ledger after)
    (entries : after.roundEntries.Perm ledger.roundEntries)
    (covered : settlement.state = .potRefundPending
      → ledger.balance terms.mint ≤ after.balance terms.mint)
    : RefundedSoFar after refunds terms settlement :=
  { known with
    entrants := known.entrants.trans entries.length_eq.symm
    visited := known.visited.mono fun _ => advanced.mem_roundEntries
    players := by
      intro payment member
      obtain ⟨⟨entry, found, owned⟩, mint, amount⟩ := known.players payment member
      obtain ⟨later, held, same⟩ := advanced.entries found
      exact ⟨⟨later, held, owned.trans same.2.symm⟩, mint, amount⟩
    solvent := fun pending => (known.solvent pending).trans (covered pending) }

/-- Refunds of the same amount in one mint add up. -/
theorem RefundedSoFar.amountIn_refunds {refunds : List Payment}
    {terms : RefundTerms} {settlement : RoundSettlement}
    (known : RefundedSoFar ledger refunds terms settlement)
    : amountIn terms.mint refunds = settlement.perEntrant * refunds.length := by
  rw [amountIn_of_mint fun payment member => (known.players payment member).mint,
    List.map_congr_left fun payment member => (known.players payment member).amount,
    List.map_const', List.sum_replicate_nat, Nat.mul_comm]

/-- The amounts of a batch add up to the same amount for each entry. -/
theorem RefundBatch.total {mint perEntrant cursor vault : Nat} {payments : List Payment}
    (batch : RefundBatch ledger mint perEntrant cursor vault payments)
    : (payments.map Payment.amount).sum = perEntrant * payments.length := by
  rw [List.map_congr_left batch.amounts, List.map_const', List.sum_replicate_nat, Nat.mul_comm]

/-- One more batch of a pending refund, paid in its mint. -/
theorem RefundedSoFar.pay {refunds payments : List Payment} {terms : RefundTerms}
    {settlement : RoundSettlement} {vault : Nat}
    (known : RefundedSoFar ledger refunds terms settlement)
    (pending : settlement.state = .potRefundPending)
    (batch : RefundBatch ledger terms.mint settlement.perEntrant settlement.cursor vault payments)
    (advanced : Advanced ledger after)
    (entries : after.roundEntries = ledger.roundEntries)
    (moved : after.balance terms.mint + amountIn terms.mint payments = ledger.balance terms.mint)
    : RefundedSoFar after (refunds ++ payments) terms (paidSettlement settlement payments) := by
  have length : (refunds ++ payments).length = refunds.length + payments.length :=
    List.length_append
  have total := batch.total
  rw [amountIn_of_mint fun payment member => (batch.players payment member).mint, total] at moved
  have earlier := known.solvent pending
  constructor
  · rw [entries]
    exact known.entrants
  · exact known.totalPot
  · exact known.perEntrant
  · exact known.surplus
  · rw [entries, List.map_append]
    apply known.visited.extend batch.ascending.pairwise
    simpa using batch.entered
  · rw [length, ← known.recipients]
    rfl
  · rw [length, paidSettlement, total, known.settled, Nat.mul_add]
  · intro payment member
    rcases List.mem_append.mp member with old | new
    · obtain ⟨⟨entry, found, owned⟩, mint, amount⟩ := known.players payment old
      obtain ⟨later, held, same⟩ := advanced.entries found
      exact ⟨⟨later, held, owned.trans same.2.symm⟩, mint, amount⟩
    · obtain ⟨⟨entry, found, owned⟩, _, minted⟩ := batch.players payment new
      obtain ⟨later, held, same⟩ := advanced.entries found
      exact ⟨⟨later, held, owned.trans same.2.symm⟩, minted, batch.amounts payment new⟩
  · intro _
    rw [length, Nat.sub_add_eq, Nat.mul_sub]
    exact Nat.sub_le_of_le_add (earlier.trans_eq moved.symm)
  · intro ended
    rw [paidSettlement, pending] at ended
    cases ended

/-- A pending refund that reached everyone is over. -/
theorem RefundedSoFar.finish {refunds : List Payment} {terms : RefundTerms}
    {settlement : RoundSettlement} (known : RefundedSoFar ledger refunds terms settlement)
    (now : Int) : RefundedSoFar ledger refunds terms (finishedSettlement settlement now) := by
  unfold finishedSettlement
  split
  · next reached =>
      exact { known with
        solvent := fun pending => by cases pending
        finished := fun _ _ => known.recipients.symm.trans reached }
  · exact known

--------------------------------------------------------------------------------
-- Every run
--------------------------------------------------------------------------------

/-- Later batches of a refund run while the mint of the first one is configured. -/
def RefundMintKept (state : JournaledRound) (submission : RoundSubmission) : Prop :=
  match submission.instruction with
  | .refundUnrevealedPot _ =>
      state.journal.terms.all (·.mint == submission.env.config.sgdMint)
  | _ => True

instance (state : JournaledRound) (submission : RoundSubmission)
    : Decidable (RefundMintKept state submission) := by
  unfold RefundMintKept
  generalize submission.instruction = instruction
  rcases instruction <;> infer_instance

/-- A pending or finished refund made the refunds in the journal under the terms there. -/
def RefundsKnown (state : JournaledRound) : Prop :=
  ∀ settlement, state.system.settlement = some settlement
    → settlement.state ≠ .potPaid
    → ∃ terms, state.journal.terms = some terms
      ∧ RefundedSoFar state.system state.journal.refunds terms settlement

variable {state : JournaledRound}

/-- A refund, first or later, makes the refunds its settlement says. -/
theorem RefundPlanned.refunded {env : Env} {vault : Nat} {settling : Settling}
    (planned : RefundPlanned env state.system vault settling) (sound : Sound state.system)
    (past : PotHistory state) (known : RefundsKnown state)
    (kept : state.journal.terms.all (·.mint == env.config.sgdMint))
    (held : state.system.vaults.lookup env.config.sgdMint = some vault)
    (settled : Settled settling state.system after)
    : ∃ terms,
        (state.journal.refund ⟨env.config.sgdMint, vault⟩ settling.payments).terms = some terms
        ∧ RefundedSoFar after (state.journal.refunds ++ settling.payments) terms
          settling.settlement := by
  have advanced := settled.advanced
  have entries : after.roundEntries = state.system.roundEntries := by
    rw [settled.frame]
  cases planned with
  | nothing unsettled empty =>
      obtain ⟨_, unrefunded, unfixed⟩ := past.untouched (sound.settlement_eq_none unsettled)
      have frozen := (sound.frozen env.now held).keep advanced (.of_eq entries) fun _ =>
        (settled.paid.moved _).symm.le
      refine ⟨⟨env.config.sgdMint, vault⟩, ?_, ?_⟩
      · simp [PotJournal.refund, unfixed]
      · rw [unrefunded]
        exact { frozen with
          solvent := fun pending => by cases pending
          finished := fun _ owed => by
            rcases empty with none | nothing
            · exact none.symm
            · exact absurd nothing owed.ne' }
  | first unsettled entered owed paid =>
      obtain ⟨_, unrefunded, unfixed⟩ := past.untouched (sound.settlement_eq_none unsettled)
      have frozen := sound.frozen env.now held
      refine ⟨⟨env.config.sgdMint, vault⟩, ?_, ?_⟩
      · simp [PotJournal.refund, unfixed]
      · rw [unrefunded, paid.settlement]
        exact (frozen.pay rfl paid.batch advanced entries (settled.paid.moved _)).finish env.now
  | later pending paid =>
      have stored := RoundLedger.settlement_of_pending pending
      obtain ⟨terms, fixed, refunded⟩ := known _ stored (by simp [pending])
      rw [fixed] at kept
      have mint : terms.mint = env.config.sgdMint := by simpa using kept
      refine ⟨terms, ?_, ?_⟩
      · simp [PotJournal.refund, fixed]
      · rw [paid.settlement]
        have batch := paid.batch
        rw [← mint] at batch
        exact (refunded.pay pending batch advanced entries (settled.paid.moved _)).finish env.now

/-- Accepted instructions that meet the condition keep the refunds known. -/
theorem RefundsKnown.step (known : RefundsKnown state) (sound : Sound state.system)
    (past : PotHistory state) (kept : RefundMintKept state submission)
    (success : roundStep state.system submission = .ok after)
    : RefundsKnown ⟨after, notePot state.system submission state.journal⟩ := by
  intro settlement stored unpaid
  have advanced := roundStep_advanced success
  have entries {settlement : RoundSettlement}
      (found : state.system.settlement = some settlement)
      : after.roundEntries.Perm state.system.roundEntries := by
    rcases roundStep_entries success with ⟨_, entryKey, entered⟩ | ⟨entries, _⟩
    · exact absurd (entered.opened.symm.trans (sound.settling found).2) (by simp)
    · exact entries
  cases sound.potMove success with
  | distributed _ _ _ settled result =>
      obtain rfl := Option.some.inj (settled.settlement.symm.trans stored)
      rw [result] at unpaid
      exact absurd rfl unpaid
  | refunded planned checks plan settled =>
      obtain rfl := Option.some.inj (settled.settlement.symm.trans stored)
      rw [notePot_refund planned, RoundLedger.balance, checks.held]
      exact plan.refunded sound past known kept checks.held settled
  | closed swept =>
      have same : after.settlement = state.system.settlement := by rw [swept.frame]
      rw [same] at stored
      obtain ⟨terms, fixed, refunded⟩ := known settlement stored unpaid
      refine ⟨terms, fixed, refunded.keep advanced (entries stored) fun pending => ?_⟩
      rcases requireClosable_success swept.closable with ⟨terminal, found, ended⟩ | ⟨absent, _⟩
      · cases found.symm.trans stored
        simp [RoundSettlement.isTerminal, pending] at ended
      · cases absent.symm.trans stored
  | still unmoved same =>
      have noted := notePot_kept state.system state.journal unmoved
      rw [same] at stored
      obtain ⟨terms, fixed, refunded⟩ := known settlement stored unpaid
      refine ⟨terms, noted.terms.trans fixed, ?_⟩
      rw [noted.refunds]
      exact refunded.keep advanced (entries stored) fun _ =>
        (roundStep_framed success).balance unmoved _

/-- The refunds are known throughout every run that keeps the refund's mint. -/
theorem refundsKnown_of_run {start : RoundLedger} (opened : start.Opened)
    {history : List RoundSubmission}
    (run : Run journaledRound RefundMintKept start.journaled history state)
    : RefundsKnown state := by
  apply run.invariant_with
    (fun run => And.intro (sound_of_journaled opened run) (potHistory_of_run opened run))
  · intro settlement stored
    simp [RoundLedger.journaled, opened.settlement] at stored
  · intro before submission after past known kept success
    obtain ⟨accepted, noted⟩ := journaled_eq_ok.mp success
    have later := RefundsKnown.step known past.1 past.2 kept accepted
    rwa [← noted] at later

/-- The exact state of a refund: the first batch found the terms, the refunds made are the
ones they ask for, and a finished refund that owes something has paid every entry of the round
exactly once and accounts for the whole pot it found.
-/
structure RefundExact (state : JournaledRound) (terms : RefundTerms)
    (settlement : RoundSettlement) : Prop where
  refunded : RefundedSoFar state.system state.journal.refunds terms settlement
  everyone : settlement.state = .potRefunded
    → 0 < settlement.perEntrant
    → (state.journal.refunds.map Payment.entry).Perm state.system.roundEntries
  total : settlement.state = .potRefunded
    → 0 < settlement.perEntrant
    → settlement.totalSettled = settlement.perEntrant * settlement.entrantCount
  pot : settlement.state = .potRefunded
    → 0 < settlement.perEntrant
    → settlement.totalSettled + settlement.surplus = terms.balance

/-- What one accepted batch of a refund did on the ledger: each payment went to a token account
of the mint that the player of an entry of the round owned, at the amount of the terms, and the
balances of vaults and token accounts moved by exactly these payments.
-/
structure BatchRefunded (env : Env) (state later : JournaledRound) (payments : List Payment)
    : Prop where
  noted : later.journal.refunds = state.journal.refunds ++ payments
  entered : ∀ payment ∈ payments, payment.entry ∈ state.system.roundEntries
  players : ∀ payment ∈ payments, PaysPlayer state.system env.config.sgdMint payment
  amounts : ∀ settlement, later.system.settlement = some settlement
    → ∀ payment ∈ payments, payment.amount = settlement.perEntrant
  paid : PaidOut payments state.system later.system

/-- A batch under fixed terms keeps what each entrant gets. -/
theorem BatchPaid.amounts {env : Env} {vault : Nat} {terms : RoundSettlement}
    {settling : Settling} (paid : BatchPaid env ledger vault terms settling)
    : ∀ payment ∈ settling.payments, payment.amount = settling.settlement.perEntrant := by
  rw [paid.settlement, finishedSettlement_perEntrant]
  exact paid.batch.amounts

/-- Accepted batches pay entries of the round, by cases on how the refund proceeds. -/
theorem Sound.batchRefunded (sound : Sound state.system) {env : Env} {accounts : List Pubkey}
    {later : JournaledRound}
    (success : journaledRound state ⟨env, .refundUnrevealedPot accounts⟩ = .ok later)
    : ∃ payments, BatchRefunded env state later payments := by
  obtain ⟨accepted, noted⟩ := journaled_eq_ok.mp success
  obtain ⟨settling, planned, settled⟩ := refundUnrevealedPot_success accepted
  obtain ⟨vault, _, plan⟩ := planRefund_success sound.numbered sound.carried planned
  have refunds : later.journal.refunds = state.journal.refunds ++ settling.payments := by
    rw [noted, notePot_refund planned]
    rfl
  have batch (terms : RoundSettlement) (paid : BatchPaid env state.system vault terms settling)
      : BatchRefunded env state later settling.payments := by
    refine ⟨refunds, paid.batch.entered, paid.batch.players, fun settlement stored => ?_,
      settled.paid⟩
    obtain rfl := Option.some.inj (settled.settlement.symm.trans stored)
    exact paid.amounts
  refine ⟨settling.payments, ?_⟩
  cases plan with
  | nothing => exact ⟨refunds, nofun, nofun, fun _ _ => nofun, settled.paid⟩
  | first _ _ _ paid => exact batch _ paid
  | later _ paid => exact batch _ paid

/-- The refund of a round is exact under every settlement, and so is every batch of it. -/
structure RefundsExact (state : JournaledRound) : Prop where
  terms : ∀ settlement, state.system.settlement = some settlement
    → settlement.state ≠ .potPaid
    → ∃ terms, state.journal.terms = some terms ∧ RefundExact state terms settlement
  batches : ∀ env accounts later,
    journaledRound state ⟨env, .refundUnrevealedPot accounts⟩ = .ok later
    → ∃ payments, BatchRefunded env state later payments

/-- Whatever the batches, donations and failed attempts, a refund whose mint stays configured
is exact in every state it reaches.
-/
theorem refund_exact {start : RoundLedger} (opened : start.Opened)
    {history : List RoundSubmission}
    (run : Run journaledRound RefundMintKept start.journaled history state)
    : RefundsExact state := by
  constructor
  · intro settlement stored refunding
    obtain ⟨terms, fixed, refunded⟩ := refundsKnown_of_run opened run settlement stored refunding
    refine ⟨terms, fixed, refunded, fun ended owed => ?_, fun ended owed => ?_,
      fun ended owed => ?_⟩
    · apply refunded.visited.complete
      rw [List.length_map, refunded.finished ended owed, refunded.entrants]
    · rw [refunded.settled, refunded.finished ended owed]
    · rw [refunded.settled, refunded.finished ended owed, refunded.surplus, refunded.totalPot]
  · exact fun _ _ _ success => (sound_of_journaled opened run).batchRefunded success

/-- Two entrants are refunded in two batches, with a donation in between. -/
def twoBatchScript : List RoundSubmission :=
  startedRefundScript
    ++ [authorityAt refundTime (.outside (.donate 9 5)),
      authorityAt refundTime (.refundUnrevealedPot [2, 302])]

/-- Both entrants of the sample refund have their fee back. -/
theorem twoBatchScript_refunds
    : ∃ state settlement,
        Run journaledRound RefundMintKept (sampleRound [1, 2]).journaled twoBatchScript state
        ∧ state.system.settlement = some settlement
        ∧ settlement.state = .potRefunded
        ∧ settlement.perEntrant = entryFeeSgd
        ∧ state.system.walletAmount 301 = entryFeeSgd
        ∧ state.system.walletAmount 302 = entryFeeSgd
        ∧ RefundsExact state := by
  have replayed : (replay journaledRound RefundMintKept (sampleRound [1, 2]).journaled
      twoBatchScript).any fun state => decide (state.system.walletAmount 301 = entryFeeSgd
        ∧ state.system.walletAmount 302 = entryFeeSgd)
        && state.system.settlement.any fun settlement =>
          decide (settlement.state = .potRefunded ∧ settlement.perEntrant = entryFeeSgd) := by
    decide +kernel
  obtain ⟨state, run, checked⟩ := Run.of_replay_any replayed
  obtain ⟨wallets, found⟩ := Bool.and_eq_true_iff.mp checked
  obtain ⟨settlement, stored, values⟩ := (Option.any_eq_true _ _).mp found
  obtain ⟨first, second⟩ := of_decide_eq_true wallets
  obtain ⟨ended, amount⟩ := of_decide_eq_true values
  exact ⟨state, settlement, run, stored, ended, amount, first, second,
    refund_exact (sampleRound_opened _) run⟩

end SecretGarden.Settlement
