import SecretGarden.Foundation.Payout
import SecretGarden.Bracket.Coverage
import SecretGarden.Settlement.Inversion

/-! What the instructions that move a pot checked and planned. -/

namespace SecretGarden.Settlement

open Foundation SecretGarden.Bracket

variable {env : Env} {ledger after : RoundLedger}

/-- A payment goes to a token account of the mint, owned by the player of its entry. -/
structure PaysPlayer (ledger : RoundLedger) (mint : Pubkey) (payment : Payment) : Prop where
  entered : ∃ entry, ledger.entries.lookup payment.entry = some entry
    ∧ payment.owner = entry.player
  received : ∃ wallet, ledger.wallets.lookup payment.destination = some wallet
    ∧ wallet.owner = payment.owner ∧ wallet.mint = payment.mint
  mint : payment.mint = mint

/-- The amounts of `count` winners: the equal share for all but the last. -/
def winnerAmounts (share last count : Nat) : List Nat :=
  List.replicate (count - 1) share ++ [last]

/-- Each winner's entry in rank order, paid its amount. -/
structure WinnersPaid (ledger : RoundLedger) (mint share last : Nat) (winners : List Pubkey)
    (payments : List Payment) : Prop where
  ranked : payments.map Payment.entry = winners
  players : ∀ payment ∈ payments, PaysPlayer ledger mint payment
  amounts : winners ≠ [] → payments.map Payment.amount = winnerAmounts share last winners.length

/-- An accepted loop pays every winner, by induction on the winners. -/
theorem winnersPaid_of_loop {mint share last : Nat} {winners accounts : List Pubkey}
    {payments : List Payment}
    (success : winnerPayments ledger mint share last winners accounts = .ok payments)
    : WinnersPaid ledger mint share last winners payments := by
  induction winners generalizing accounts payments with
  | nil =>
      obtain rfl := pure_eq_ok.mp success
      exact ⟨rfl, by simp, fun nonempty => absurd rfl nonempty⟩
  | cons winner rest ih =>
      match accounts, success with
      | [], failed => cases failed
      | [_], failed => cases failed
      | entryKey :: destination :: accounts, success =>
          simp only [winnerPayments, bind_eq_ok, fetch_eq_ok, require_eq_ok, exists_const,
            pure_eq_ok] at success
          obtain ⟨rfl, entry, found, ata, held, owned, minted, later, loop, rfl⟩ := success
          have paid := ih loop
          constructor
          · rw [List.map_cons, paid.ranked]
          · refine List.forall_mem_cons.mpr ⟨?_, paid.players⟩
            exact ⟨⟨entry, found, owned⟩, ⟨ata, held, rfl, minted⟩, rfl⟩
          · intro _
            rw [List.map_cons]
            cases rest with
            | nil =>
                have unranked : later = [] := List.map_eq_nil_iff.mp paid.ranked
                simp [unranked, winnerAmounts]
            | cons next others =>
                rw [paid.amounts (by simp)]
                simp [winnerAmounts, List.replicate_succ]

/-- What a distribution required of the round. -/
structure DistributeChecks (env : Env) (ledger : RoundLedger) (pot : Nat) : Prop where
  vault : ledger.vaults.lookup env.config.sgdMint = some pot
  operator : isOperatorOrAuthority env.config env.signer
  mint : env.config.sgdMint ≠ 0
  unsettled : ledger.currentSettlement.state = .none
  finalized : ledger.round.status = .finalized
  revealed : ledger.round.scoringRevealed

/-- The settlement after a distribution. -/
def distributedSettlement (settlement : RoundSettlement) (now : Int)
    (payments : List Payment) : RoundSettlement :=
  { settlement with
    state := .potPaid
    totalSettled := (payments.map Payment.amount).sum
    recipientCount := payments.length
    settledAt := now }

/-- The payments of a distribution: none without winners or without a pot, the pot in even
shares otherwise.
-/
inductive PotShared (ledger : RoundLedger) (mint : Pubkey) (pot : Nat)
    : (payments : List Payment) → Prop
  | nothing (empty : potWinners ledger.round = [] ∨ pot = 0) : PotShared ledger mint pot []
  | shared {payments}
    (won : potWinners ledger.round ≠ [])
    (enough : (potWinners ledger.round).length ≤ pot)
    (ranked : payments.map Payment.entry = potWinners ledger.round)
    (players : ∀ payment ∈ payments, PaysPlayer ledger mint payment)
    (amounts : payments.map Payment.amount
      = evenShares pot (potWinners ledger.round).length)
    : PotShared ledger mint pot payments

theorem requireUnsettled_eq_ok {settlement : RoundSettlement} {done : Unit}
    : requireUnsettled settlement = .ok done ↔ settlement.state = .none := by
  unfold requireUnsettled
  cases known : settlement.state <;> simp [pure_eq_ok]

theorem planDistribution_success {accounts : List Pubkey} {settling : Settling}
    (numbered : 1 ≤ ledger.round.roundId)
    (carried : ∀ {stored}, ledger.settlement = some stored
      → stored.roundId = ledger.round.roundId)
    (success : planDistribution env accounts ledger = .ok settling)
    : ∃ pot,
        DistributeChecks env ledger pot
        ∧ PotShared ledger env.config.sgdMint pot settling.payments
        ∧ settling.settlement
          = distributedSettlement ledger.currentSettlement env.now settling.payments := by
  simp only [planDistribution, requireOperator, bind_eq_ok, fetch_eq_ok, require_eq_ok,
    exists_const, openSettlement_eq_ok numbered carried, requireUnsettled_eq_ok] at success
  obtain ⟨pot, vault, operator, mint, _, rfl, unsettled, finalized, revealed, plan⟩ := success
  refine ⟨pot, ⟨vault, operator, mint, unsettled, finalized, revealed⟩, ?_⟩
  split at plan
  · next empty =>
      obtain rfl := pure_eq_ok.mp plan
      exact ⟨.nothing (empty.imp_left List.length_eq_zero_iff.mp), rfl⟩
  · next nonempty =>
      obtain ⟨won, owed⟩ := not_or.mp nonempty
      simp only [bind_eq_ok, require_eq_ok, exists_const, checkedDiv_eq_ok, checkedMul_eq_ok,
        checkedSub_eq_ok, pure_eq_ok] at plan
      obtain ⟨enough, _, ⟨_, rfl⟩, _, ⟨_, rfl⟩, _, ⟨_, rfl⟩, _, payments, loop, total, summed,
        rfl, rfl⟩ := plan
      have paid := winnersPaid_of_loop loop
      have won' : potWinners ledger.round ≠ [] := fun empty => won (by rw [empty]; rfl)
      have sum := eq_of_checkedTotal summed
      rw [Nat.zero_add] at sum
      refine ⟨.shared won' enough paid.ranked paid.players (paid.amounts won'), ?_⟩
      simp only [distributedSettlement, ← sum, ← paid.ranked, List.length_map]

/-- An accepted distribution followed its plan. -/
theorem distributePot_success {accounts : List Pubkey}
    (success : distributePot env accounts ledger = .ok after)
    : ∃ settling,
        planDistribution env accounts ledger = .ok settling
        ∧ Settled settling ledger after := by
  obtain ⟨settling, planned, moved⟩ := bind_eq_ok.mp success
  exact ⟨settling, planned, settled_of_settle moved⟩

--------------------------------------------------------------------------------
-- Refund
--------------------------------------------------------------------------------

/-- One batch of a refund: entries of the round above the cursor, each paid the same to its
player, with the vault covering all of them.
-/
structure RefundBatch (ledger : RoundLedger) (mint perEntrant cursor vault : Nat)
    (payments : List Payment) : Prop where
  ascending : (cursor :: payments.map Payment.entry).IsChain (· < ·)
  entered : ∀ payment ∈ payments, payment.entry ∈ ledger.roundEntries
  players : ∀ payment ∈ payments, PaysPlayer ledger mint payment
  amounts : ∀ payment ∈ payments, payment.amount = perEntrant
  covered : perEntrant * payments.length ≤ vault

/-- An accepted loop pays a batch of as many entries as it was given pairs of accounts, by
induction on the accounts, two at a time.
-/
theorem refundBatch_of_loop {mint perEntrant cursor vault : Nat} {accounts : List Pubkey}
    {payments : List Payment}
    (success : refundPayments ledger mint perEntrant cursor vault accounts = .ok payments)
    : RefundBatch ledger mint perEntrant cursor vault payments
      ∧ payments.length * 2 = accounts.length := by
  fun_induction refundPayments ledger mint perEntrant cursor vault accounts
    generalizing payments with
  | case1 =>
      obtain rfl := pure_eq_ok.mp success
      exact ⟨⟨.singleton _, by simp, by simp, by simp, by simp⟩, rfl⟩
  | case2 cursor vault entryKey destination accounts ih =>
      simp only [bind_eq_ok, fetch_eq_ok, require_eq_ok, exists_const, pure_eq_ok] at success
      obtain ⟨above, entry, found, own, ata, held, owned, minted, enough, later, loop, rfl⟩ :=
        success
      obtain ⟨batch, length⟩ := ih loop
      refine ⟨⟨?_, ?_, ?_, ?_, ?_⟩, ?_⟩
      · exact List.isChain_cons_cons.mpr ⟨above, batch.ascending⟩
      · refine List.forall_mem_cons.mpr ⟨?_, batch.entered⟩
        exact Store.mem_keysWhere.mpr ⟨entry, found, by simpa using own⟩
      · refine List.forall_mem_cons.mpr ⟨?_, batch.players⟩
        exact ⟨⟨entry, found, owned⟩, ⟨ata, held, rfl, minted⟩, rfl⟩
      · exact List.forall_mem_cons.mpr ⟨rfl, batch.amounts⟩
      · have rest := batch.covered
        rw [List.length_cons, Nat.mul_add_one]
        omega
      · simp only [List.length_cons]
        omega
  | case3 => cases success

/-- The terms with one more batch paid. -/
def paidSettlement (terms : RoundSettlement) (payments : List Payment)
    : RoundSettlement :=
  { terms with
    totalSettled := terms.totalSettled + (payments.map Payment.amount).sum
    recipientCount := terms.recipientCount + payments.length
    cursor := (payments.map Payment.entry).getLast?.getD terms.cursor }

/-- A refund that reached every entrant is over. -/
def finishedSettlement (settlement : RoundSettlement) (now : Int) : RoundSettlement :=
  if settlement.recipientCount = settlement.entrantCount then
    { settlement with state := .potRefunded, settledAt := now }
  else settlement

/-- One accepted batch under fixed terms. -/
structure BatchPaid (env : Env) (ledger : RoundLedger) (vault : Nat) (terms : RoundSettlement)
    (settling : Settling) : Prop where
  batch : RefundBatch ledger env.config.sgdMint terms.perEntrant terms.cursor vault
    settling.payments
  nonempty : settling.payments ≠ []
  fits : terms.recipientCount + settling.payments.length ≤ terms.entrantCount
  settlement : settling.settlement
    = finishedSettlement (paidSettlement terms settling.payments) env.now

theorem payBatch_success {accounts : List Pubkey} {vault : Nat} {terms : RoundSettlement}
    {settling : Settling}
    (success : payBatch env accounts vault ledger terms = .ok settling)
    : BatchPaid env ledger vault terms settling := by
  simp only [payBatch, bind_eq_ok, require_eq_ok, exists_const, checkedSub_eq_ok] at success
  obtain ⟨_, nonempty, _, ⟨counted, rfl⟩, fits, payments, loop, total, summed, finish⟩ := success
  obtain ⟨batch, length⟩ := refundBatch_of_loop loop
  have half : accounts.length / 2 = payments.length := by omega
  have sum := eq_of_checkedTotal summed
  rw [half] at nonempty fits finish
  have planned : settling
      = ⟨finishedSettlement (paidSettlement terms payments) env.now, payments⟩ := by
    subst sum
    unfold finishedSettlement paidSettlement
    split at finish
    · next ended =>
        simp only [bind_eq_ok, checkedMul_eq_ok, require_eq_ok, exists_const, pure_eq_ok]
          at finish
        obtain ⟨_, _, _, rfl⟩ := finish
        rw [if_pos ended]
    · next pending =>
        obtain rfl := pure_eq_ok.mp finish
        rw [if_neg pending]
  have within : terms.recipientCount + payments.length ≤ terms.entrantCount := by omega
  subst planned
  exact ⟨batch, List.ne_nil_of_length_pos nonempty, within, rfl⟩

/-- What a refund required of the round. -/
structure RefundChecks (env : Env) (ledger : RoundLedger) (vault : Nat) : Prop where
  authority : env.signer = env.config.authority
  held : ledger.vaults.lookup env.config.sgdMint = some vault
  finalized : ledger.round.status = .finalized
  unrevealed : ledger.round.scoringRevealed = false
  bounded : ledger.round.endTime + potRefundMinAgeSeconds < i64Bound
  due : ledger.round.endTime + potRefundMinAgeSeconds ≤ env.now
  mint : env.config.sgdMint ≠ 0

theorem refundEligibility_eq_ok {done : Unit}
    : refundEligibility env ledger = .ok done
      ↔ ledger.round.status = .finalized
        ∧ ledger.round.scoringRevealed = false
        ∧ ledger.round.endTime + potRefundMinAgeSeconds < i64Bound
        ∧ ledger.round.endTime + potRefundMinAgeSeconds ≤ env.now
        ∧ env.config.sgdMint ≠ 0 := by
  simp only [refundEligibility, bind_eq_ok, require_eq_ok, exists_const]

theorem requireRefundable_eq_ok {settlement : RoundSettlement} {done : Unit}
    : requireRefundable settlement = .ok done
      ↔ settlement.state = .none ∨ settlement.state = .potRefundPending := by
  unfold requireRefundable
  cases known : settlement.state <;> simp [pure_eq_ok]

/-- The terms the first batch fixes for a round and a vault. -/
def frozenTerms (ledger : RoundLedger) (vault : Nat) (now : Int) : RoundSettlement :=
  let perEntrant := min entryFeeSgd (vault / ledger.round.participantCount)
  { ledger.currentSettlement with
    state := .potRefundPending
    entrantCount := ledger.round.participantCount
    recipientCount := 0
    totalPot := vault
    totalSettled := 0
    cursor := 0
    startedAt := now
    settledAt := 0
    perEntrant := perEntrant
    surplus := vault - perEntrant * ledger.round.participantCount }

theorem freezeTerms_success {vault : Nat} {terms : RoundSettlement}
    (success : freezeTerms env ledger.round.participantCount vault ledger.currentSettlement
      = .ok terms)
    : terms = frozenTerms ledger vault env.now := by
  unfold freezeTerms at success
  split at success
  · next absent =>
      simp only [bind_eq_ok, pure_eq_ok, checkedMul_eq_ok, checkedSub_eq_ok] at success
      obtain ⟨_, rfl, _, ⟨_, rfl⟩, _, ⟨_, rfl⟩, rfl⟩ := success
      rw [frozenTerms, absent, Nat.div_zero]
  · simp only [bind_eq_ok, pure_eq_ok, checkedDiv_eq_ok, checkedMul_eq_ok, checkedSub_eq_ok]
      at success
    obtain ⟨_, ⟨_, rfl⟩, _, ⟨_, rfl⟩, _, ⟨_, rfl⟩, rfl⟩ := success
    rfl

/-- A pending refund is the stored settlement. -/
theorem RoundLedger.settlement_of_pending
    (pending : ledger.currentSettlement.state = .potRefundPending)
    : ledger.settlement = some ledger.currentSettlement := by
  unfold RoundLedger.currentSettlement at pending ⊢
  cases stored : ledger.settlement with
  | none =>
      rw [stored] at pending
      cases pending
  | some settlement => rfl

/-- How an accepted refund proceeds: it ends at once when nobody is owed anything, else it
pays a first batch under the terms it fixes, or a later batch under the stored ones.
-/
inductive RefundPlanned (env : Env) (ledger : RoundLedger) (vault : Nat)
    : (settling : Settling) → Prop
  | nothing
    (unsettled : ledger.currentSettlement.state = .none)
    (empty : ledger.round.participantCount = 0
      ∨ (frozenTerms ledger vault env.now).perEntrant = 0)
    : RefundPlanned env ledger vault
        ⟨{ frozenTerms ledger vault env.now with
            state := .potRefunded, settledAt := env.now }, []⟩
  | first {settling}
    (unsettled : ledger.currentSettlement.state = .none)
    (entered : ledger.round.participantCount ≠ 0)
    (owed : (frozenTerms ledger vault env.now).perEntrant ≠ 0)
    (paid : BatchPaid env ledger vault (frozenTerms ledger vault env.now) settling)
    : RefundPlanned env ledger vault settling
  | later {settling}
    (pending : ledger.currentSettlement.state = .potRefundPending)
    (paid : BatchPaid env ledger vault ledger.currentSettlement settling)
    : RefundPlanned env ledger vault settling

theorem planRefund_success {accounts : List Pubkey} {settling : Settling}
    (numbered : 1 ≤ ledger.round.roundId)
    (carried : ∀ {stored}, ledger.settlement = some stored
      → stored.roundId = ledger.round.roundId)
    (success : planRefund env accounts ledger = .ok settling)
    : ∃ vault, RefundChecks env ledger vault ∧ RefundPlanned env ledger vault settling := by
  simp only [planRefund, bind_eq_ok, fetch_eq_ok, require_eq_ok, exists_const,
    refundEligibility_eq_ok, openSettlement_eq_ok numbered carried, requireRefundable_eq_ok]
    at success
  obtain ⟨authority, vault, held, ⟨finalized, unrevealed, bounded, due, mint⟩, _, rfl,
    refundable, plan⟩ := success
  refine ⟨vault, ⟨authority, held, finalized, unrevealed, bounded, due, mint⟩, ?_⟩
  split at plan
  · next unsettled =>
      obtain ⟨terms, frozen, rest⟩ := bind_eq_ok.mp plan
      obtain rfl := freezeTerms_success frozen
      split at rest
      · next empty =>
          obtain rfl := pure_eq_ok.mp rest
          exact .nothing unsettled empty
      · next owed =>
          obtain ⟨entered, pending⟩ := not_or.mp owed
          exact .first unsettled entered pending (payBatch_success rest)
  · next settled =>
      exact .later (refundable.resolve_left settled) (payBatch_success plan)

/-- An accepted refund followed its plan. -/
theorem refundUnrevealedPot_success {accounts : List Pubkey}
    (success : refundUnrevealedPot env accounts ledger = .ok after)
    : ∃ settling,
        planRefund env accounts ledger = .ok settling
        ∧ Settled settling ledger after := by
  obtain ⟨settling, planned, moved⟩ := bind_eq_ok.mp success
  exact ⟨settling, planned, settled_of_settle moved⟩

/-- A closable round is settled, or finalized without a participant. -/
theorem requireClosable_success {done : Unit} (success : requireClosable ledger = .ok done)
    : (∃ settlement, ledger.settlement = some settlement ∧ settlement.isTerminal)
      ∨ ledger.settlement = none ∧ ledger.round.participantCount = 0 := by
  unfold requireClosable at success
  cases known : ledger.settlement with
  | none =>
      simp only [known, bind_eq_ok, require_eq_ok, exists_const] at success
      exact .inr ⟨rfl, success.2⟩
  | some settlement =>
      simp only [known, bind_eq_ok, require_eq_ok, exists_const] at success
      exact .inl ⟨settlement, rfl, success.2⟩

/-- What an accepted close did: the vault is gone, and all it held is in the destination. -/
structure VaultSwept (env : Env) (surplusDestination : Pubkey) (ledger after : RoundLedger)
    : Prop where
  closable : requireClosable ledger = .ok ()
  vault : (ledger.vaults.lookup env.config.sgdMint).isSome
  frame : after = { ledger with
    vaults := ledger.vaults.erase env.config.sgdMint
    wallets := after.wallets }
  received : ∃ wallet, after.wallets.lookup surplusDestination = some wallet
    ∧ wallet.owner = env.config.authority ∧ wallet.mint = env.config.sgdMint
  credited : ∀ address, after.walletAmount address = ledger.walletAmount address
    + if address = surplusDestination then ledger.balance env.config.sgdMint else 0

theorem closePotVault_success {surplusDestination : Pubkey}
    (success : closePotVault env surplusDestination ledger = .ok after)
    : VaultSwept env surplusDestination ledger after := by
  simp only [closePotVault, requireOperator, bind_eq_ok, fetch_eq_ok, require_eq_ok,
    exists_const, pure_eq_ok] at success
  obtain ⟨leftover, held, wallet, found, owned, minted, _, _, closable, rfl⟩ := success
  refine ⟨closable, by rw [held]; rfl, rfl, ⟨_, AList.lookup_insert _, owned, minted⟩,
    fun address => ?_⟩
  simp only [RoundLedger.walletAmount, RoundLedger.balance, Store.lookup_insert_apply, held]
  split
  · next here =>
      subst here
      simp [found]
  · rfl

/-- A swept vault holds nothing, and the others hold what they held. -/
theorem VaultSwept.balance {surplusDestination : Pubkey}
    (swept : VaultSwept env surplusDestination ledger after) (mint : Pubkey)
    : after.balance mint = if mint = env.config.sgdMint then 0 else ledger.balance mint := by
  rw [swept.frame]
  unfold RoundLedger.balance
  split
  · next here =>
      subst here
      simp
  · next apart => simp [apart]

end SecretGarden.Settlement
