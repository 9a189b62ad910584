import SecretGarden.Settlement.Refunds

/-! What suffices for the instructions that move a pot: the checks that guard them, and nothing
that happens to the accounts on the way.
-/

namespace SecretGarden.Settlement

open Foundation SecretGarden.Bracket

variable {env : Env} {ledger : RoundLedger}

--------------------------------------------------------------------------------
-- Sums and transfers
--------------------------------------------------------------------------------

/-- A total that fits is reached, by induction on the amounts. -/
theorem checkedTotal_of_fits {total : Nat} {amounts : List Nat}
    (fits : total + amounts.sum < u64Modulus)
    : checkedTotal total amounts = .ok (total + amounts.sum) := by
  induction amounts generalizing total with
  | nil => rfl
  | cons amount rest ih =>
      rw [List.sum_cons, ← Nat.add_assoc] at fits ⊢
      refine bind_eq_ok.mpr ⟨total + amount, checkedAdd_eq_ok.mpr ⟨?_, rfl⟩, ih fits⟩
      exact (Nat.le_add_right _ _).trans_lt fits

/-- A payment out of one vault into a token account that exists. -/
structure Payable (ledger : RoundLedger) (mint : Pubkey) (payment : Payment) : Prop where
  mint : payment.mint = mint
  received : (ledger.wallets.lookup payment.destination).isSome

/-- A vault that holds enough pays everything, by induction on the payments. -/
theorem transferAll_of_covered {mint balance : Nat} {payments : List Payment}
    (vault : ledger.vaults.lookup mint = some balance)
    (payable : ∀ payment ∈ payments, Payable ledger mint payment)
    (covered : (payments.map Payment.amount).sum ≤ balance)
    : ∃ after, transferAll payments ledger = .ok after := by
  induction payments generalizing ledger balance with
  | nil => exact ⟨ledger, rfl⟩
  | cons payment rest ih =>
      obtain ⟨here, later⟩ := List.forall_mem_cons.mp payable
      rw [List.map_cons, List.sum_cons] at covered
      obtain ⟨wallet, held⟩ := Option.isSome_iff_exists.mp here.received
      let next := { ledger with
        vaults := ledger.vaults.insert mint (balance - payment.amount)
        wallets := ledger.wallets.insert payment.destination
          { wallet with amount := wallet.amount + payment.amount } }
      have paid : transferFromVault payment ledger = .ok next := by
        rw [transferFromVault, here.mint]
        refine bind_eq_ok.mpr ⟨balance, fetch_eq_ok.mpr vault, ?_⟩
        refine bind_eq_ok.mpr ⟨wallet, fetch_eq_ok.mpr held, ?_⟩
        exact bind_eq_ok.mpr ⟨(), require_eq_ok.mpr ((Nat.le_add_right _ _).trans covered), rfl⟩
      have remains : next.vaults.lookup mint = some (balance - payment.amount) := by
        simp [next]
      obtain ⟨after, success⟩ := ih remains
        (fun payment member =>
          ⟨(later payment member).mint, Store.isSome_lookup_insert (later payment member).received⟩)
        (by omega)
      exact ⟨after, bind_eq_ok.mpr ⟨next, paid, success⟩⟩

/-- Token accounts keep their owners and mints. -/
def OwnersKept (ledger after : RoundLedger) : Prop :=
  ∀ {address wallet}, after.wallets.lookup address = some wallet
    → ∃ before, ledger.wallets.lookup address = some before
      ∧ before.owner = wallet.owner ∧ before.mint = wallet.mint

/-- Vaults and token accounts in use stay in use. -/
structure AccountsKept (ledger after : RoundLedger) : Prop where
  vaults : ∀ {mint}, (ledger.vaults.lookup mint).isSome → (after.vaults.lookup mint).isSome
  wallets : ∀ {address}, (ledger.wallets.lookup address).isSome
    → (after.wallets.lookup address).isSome

theorem OwnersKept.trans {next after : RoundLedger} (earlier : OwnersKept ledger next)
    (later : OwnersKept next after) : OwnersKept ledger after := by
  intro address wallet found
  obtain ⟨middle, held, owner, minted⟩ := later found
  obtain ⟨first, present, own, same⟩ := earlier held
  exact ⟨first, present, own.trans owner, same.trans minted⟩

theorem AccountsKept.trans {next after : RoundLedger} (earlier : AccountsKept ledger next)
    (later : AccountsKept next after) : AccountsKept ledger after :=
  ⟨fun used => later.vaults (earlier.vaults used), fun used => later.wallets (earlier.wallets used)⟩

/-- A token account in use stays its owner's. -/
theorem OwnersKept.wallet {after : RoundLedger} (owners : OwnersKept ledger after)
    (accounts : AccountsKept ledger after) {address : Pubkey} {wallet : TokenAccount}
    (held : ledger.wallets.lookup address = some wallet)
    : ∃ later, after.wallets.lookup address = some later
        ∧ later.owner = wallet.owner ∧ later.mint = wallet.mint := by
  obtain ⟨later, present⟩ :=
    Option.isSome_iff_exists.mp (accounts.wallets (by rw [held]; rfl))
  obtain ⟨before, found, owner, same⟩ := owners present
  cases held.symm.trans found
  exact ⟨later, present, owner.symm, same.symm⟩

/-- Transfers change amounts only, by induction on the payments. -/
theorem kept_of_transferAll {payments : List Payment} {after : RoundLedger}
    (success : transferAll payments ledger = .ok after)
    : OwnersKept ledger after ∧ AccountsKept ledger after := by
  induction payments generalizing ledger with
  | nil =>
      obtain rfl := pure_eq_ok.mp success
      exact ⟨fun found => ⟨_, found, rfl, rfl⟩, id, id⟩
  | cons payment rest ih =>
      obtain ⟨next, paid, later⟩ := bind_eq_ok.mp success
      simp only [transferFromVault, bind_eq_ok, fetch_eq_ok, require_eq_ok, exists_const,
        pure_eq_ok] at paid
      obtain ⟨_, _, wallet, held, _, rfl⟩ := paid
      obtain ⟨owners, accounts⟩ := ih later
      refine ⟨OwnersKept.trans ?_ owners, AccountsKept.trans ?_ accounts⟩
      · intro address other found
        rcases Store.lookup_insert_eq_some.mp found with ⟨rfl, rfl⟩ | ⟨_, before⟩
        · exact ⟨wallet, held, rfl, rfl⟩
        · exact ⟨other, before, rfl, rfl⟩
      · exact ⟨Store.isSome_lookup_insert, Store.isSome_lookup_insert⟩

/-- Settling changes no token account's owner and closes no account. -/
theorem kept_of_settle {settling : Settling} {after : RoundLedger}
    (success : settle settling ledger = .ok after)
    : OwnersKept ledger after ∧ AccountsKept ledger after := by
  obtain ⟨paid, transferred, stored⟩ := bind_eq_ok.mp success
  obtain rfl := pure_eq_ok.mp stored
  obtain ⟨owners, accounts⟩ := kept_of_transferAll transferred
  exact ⟨fun found => owners found, accounts.vaults, accounts.wallets⟩

/-- A payment's token account stays its player's. -/
theorem PaysPlayer.kept {after : RoundLedger} {mint : Pubkey} {payment : Payment}
    (pays : PaysPlayer ledger mint payment) (owners : OwnersKept ledger after)
    (accounts : AccountsKept ledger after) (entries : after.entries = ledger.entries)
    : PaysPlayer after mint payment := by
  obtain ⟨wallet, held, owned, minted⟩ := pays.received
  obtain ⟨later, present, owner, same⟩ := owners.wallet accounts held
  exact ⟨entries ▸ pays.entered, ⟨later, present, owner.trans owned, same.trans minted⟩, pays.mint⟩

/-- A distribution changes no token account's owner. -/
theorem ownersKept_of_distributePot {accounts : List Pubkey} {after : RoundLedger}
    (success : distributePot env accounts ledger = .ok after) : OwnersKept ledger after := by
  obtain ⟨settling, _, moved⟩ := bind_eq_ok.mp success
  exact (kept_of_settle moved).1

--------------------------------------------------------------------------------
-- Distribution
--------------------------------------------------------------------------------

/-- Pairs of an entry and a token account, as an instruction lists them. -/
def pairedAccounts (pairs : List (Pubkey × Pubkey)) : List Pubkey :=
  pairs.flatMap fun pair => [pair.1, pair.2]

theorem length_pairedAccounts (pairs : List (Pubkey × Pubkey))
    : (pairedAccounts pairs).length = pairs.length * 2 := by
  simp [pairedAccounts, List.length_flatMap]

/-- The token account of a pair belongs to the player of its entry. -/
def BelongsTo (ledger : RoundLedger) (mint : Pubkey) (pair : Pubkey × Pubkey) : Prop :=
  ∃ entry wallet,
    ledger.entries.lookup pair.1 = some entry
    ∧ ledger.wallets.lookup pair.2 = some wallet
    ∧ wallet.owner = entry.player
    ∧ wallet.mint = mint

theorem BelongsTo.kept {after : RoundLedger} {mint : Pubkey} {pair : Pubkey × Pubkey}
    (belongs : BelongsTo ledger mint pair) (owners : OwnersKept ledger after)
    (accounts : AccountsKept ledger after) (entries : after.entries = ledger.entries)
    : BelongsTo after mint pair := by
  obtain ⟨entry, wallet, found, held, owned, minted⟩ := belongs
  obtain ⟨later, present, owner, same⟩ := owners.wallet accounts held
  exact ⟨entry, later, entries ▸ found, present, owner.trans owned, same.trans minted⟩

/-- The loop pays winners into their own token accounts, by induction on the pairs. -/
theorem winnerPayments_of_belongs {mint : Pubkey} (share last : Nat)
    {pairs : List (Pubkey × Pubkey)} (belongs : ∀ pair ∈ pairs, BelongsTo ledger mint pair)
    : ∃ payments,
        winnerPayments ledger mint share last (pairs.map Prod.fst) (pairedAccounts pairs)
          = .ok payments
        ∧ payments.map Payment.destination = pairs.map Prod.snd := by
  induction pairs with
  | nil => exact ⟨[], rfl, rfl⟩
  | cons pair rest ih =>
      obtain ⟨⟨entry, wallet, found, held, owned, minted⟩, later⟩ := List.forall_mem_cons.mp belongs
      obtain ⟨payments, success, destinations⟩ := ih later
      let payment : Payment :=
        { entry := pair.1
          destination := pair.2
          owner := wallet.owner
          mint := mint
          amount := if (rest.map Prod.fst).isEmpty then last else share }
      refine ⟨payment :: payments, ?_, congrArg (pair.2 :: ·) destinations⟩
      refine bind_eq_ok.mpr ⟨(), require_eq_ok.mpr rfl, ?_⟩
      refine bind_eq_ok.mpr ⟨entry, fetch_eq_ok.mpr found, ?_⟩
      refine bind_eq_ok.mpr ⟨wallet, fetch_eq_ok.mpr held, ?_⟩
      refine bind_eq_ok.mpr ⟨(), require_eq_ok.mpr owned, ?_⟩
      refine bind_eq_ok.mpr ⟨(), require_eq_ok.mpr minted, ?_⟩
      exact bind_eq_ok.mpr ⟨payments, success, rfl⟩

/-- A round whose pot is due, with a pot of the size a token account can hold. -/
structure Distributable (env : Env) (ledger : RoundLedger) (pot : Nat) : Prop extends
    DistributeChecks env ledger pot where
  numbered : 1 ≤ ledger.round.roundId
  carried : ∀ {stored}, ledger.settlement = some stored → stored.roundId = ledger.round.roundId
  enough : (potWinners ledger.round).length ≤ pot
  fits : pot < u64Modulus

/-- The checks of a distribution pass where the winners' own token accounts are given. -/
theorem planDistribution_of_belongs {pot : Nat} {pairs : List (Pubkey × Pubkey)}
    (due : Distributable env ledger pot)
    (winners : pairs.map Prod.fst = potWinners ledger.round)
    (belongs : ∀ pair ∈ pairs, BelongsTo ledger env.config.sgdMint pair)
    : ∃ settling, planDistribution env (pairedAccounts pairs) ledger = .ok settling := by
  have mint := due.mint
  simp only [planDistribution, requireOperator, bind_eq_ok, fetch_eq_ok, require_eq_ok,
    exists_const, openSettlement_eq_ok due.numbered due.carried, requireUnsettled_eq_ok, due.vault,
    due.operator, due.unsettled, due.finalized, due.revealed, Option.some.injEq, exists_eq_left',
    true_and, mint, ne_eq, not_false_eq_true]
  by_cases nothing : (potWinners ledger.round).length = 0 ∨ pot = 0
  · exact ⟨_, if_pos nothing⟩
  · obtain ⟨won, _⟩ := not_or.mp nothing
    let count := (potWinners ledger.round).length
    have least : pot / count * (count - 1) ≤ pot :=
      (Nat.mul_le_mul_left _ (Nat.sub_le _ _)).trans (Nat.div_mul_le_self _ _)
    obtain ⟨payments, loop, _⟩ :=
      winnerPayments_of_belongs (pot / count) (pot - pot / count * (count - 1)) belongs
    rw [winners] at loop
    have paid := winnersPaid_of_loop loop
    have sum : (payments.map Payment.amount).sum = pot := by
      rw [paid.amounts (mt List.length_eq_zero_iff.mpr won)]
      exact sum_evenShares
    have total : checkedTotal 0 (payments.map Payment.amount) = .ok pot := by
      rw [checkedTotal_of_fits (by rw [Nat.zero_add, sum]; exact due.fits), Nat.zero_add, sum]
    have accounts : (pairedAccounts pairs).length = count * 2 := by
      rw [length_pairedAccounts, ← List.length_map Prod.fst, winners]
    simp only [if_neg nothing, bind_eq_ok, require_eq_ok, exists_const, checkedDiv_eq_ok,
      checkedMul_eq_ok, checkedSub_eq_ok]
    exact ⟨_, due.enough, _, ⟨won, rfl⟩, _, ⟨least.trans_lt due.fits, rfl⟩, _, ⟨least, rfl⟩,
      accounts, payments, loop, pot, total, rfl, rfl⟩

/-- The winners' own token accounts are all it takes to pay a pot that is due. -/
theorem distributePot_of_belongs {pot : Nat} {pairs : List (Pubkey × Pubkey)}
    (due : Distributable env ledger pot)
    (winners : pairs.map Prod.fst = potWinners ledger.round)
    (belongs : ∀ pair ∈ pairs, BelongsTo ledger env.config.sgdMint pair)
    : ∃ after, distributePot env (pairedAccounts pairs) ledger = .ok after := by
  obtain ⟨⟨settlement, payments⟩, planned⟩ := planDistribution_of_belongs due winners belongs
  obtain ⟨held, checks, shared, _⟩ := planDistribution_success due.numbered due.carried planned
  cases due.vault.symm.trans checks.vault
  have payable : ∀ payment ∈ payments, Payable ledger env.config.sgdMint payment := by
    intro payment member
    cases shared with
    | nothing => cases member
    | shared _ _ _ players _ =>
        obtain ⟨_, ⟨wallet, present, _⟩, mint⟩ := players payment member
        exact ⟨mint, by rw [present]; rfl⟩
  have covered : (payments.map Payment.amount).sum ≤ pot := by
    cases shared with
    | nothing => exact Nat.zero_le _
    | shared _ _ _ _ amounts => rw [amounts, sum_evenShares]
  obtain ⟨paid, moved⟩ := transferAll_of_covered due.vault payable covered
  exact ⟨_, bind_eq_ok.mpr ⟨_, planned, bind_eq_ok.mpr ⟨paid, moved, rfl⟩⟩⟩

--------------------------------------------------------------------------------
-- Refund
--------------------------------------------------------------------------------

/-- The entries of a batch, each listed before its token account. -/
def batchEntries : (accounts : List Pubkey) → List Pubkey
  | entryKey :: _ :: accounts => entryKey :: batchEntries accounts
  | _ => []

@[simp] theorem batchEntries_pairedAccounts (pairs : List (Pubkey × Pubkey))
    : batchEntries (pairedAccounts pairs) = pairs.map Prod.fst := by
  induction pairs with
  | nil => rfl
  | cons pair rest ih => exact congrArg (pair.1 :: ·) ih

/-- The loop pays the entries it was given, by induction on the accounts, two at a time. -/
theorem entries_of_refundPayments {mint perEntrant cursor vault : Nat} {accounts : List Pubkey}
    {payments : List Payment}
    (success : refundPayments ledger mint perEntrant cursor vault accounts = .ok payments)
    : payments.map Payment.entry = batchEntries accounts := by
  fun_induction refundPayments ledger mint perEntrant cursor vault accounts
    generalizing payments with
  | case1 =>
      obtain rfl := pure_eq_ok.mp success
      rfl
  | case2 cursor vault entryKey destination accounts ih =>
      simp only [bind_eq_ok, fetch_eq_ok, require_eq_ok, exists_const, pure_eq_ok] at success
      obtain ⟨_, _, _, _, _, _, _, _, _, later, loop, rfl⟩ := success
      exact congrArg (entryKey :: ·) (ih loop)
  | case3 => cases success

/-- An accepted batch pays the entries it was given. -/
theorem entries_of_payBatch {accounts : List Pubkey} {vault : Nat} {terms : RoundSettlement}
    {settling : Settling} (success : payBatch env accounts vault ledger terms = .ok settling)
    : settling.payments.map Payment.entry = batchEntries accounts := by
  simp only [payBatch, bind_eq_ok, require_eq_ok, exists_const] at success
  obtain ⟨_, _, _, _, _, payments, loop, _, _, finish⟩ := success
  have paid := entries_of_refundPayments loop
  split at finish
  · simp only [bind_eq_ok, require_eq_ok, exists_const, pure_eq_ok] at finish
    obtain ⟨_, _, _, rfl⟩ := finish
    exact paid
  · obtain rfl := pure_eq_ok.mp finish
    exact paid

/-- A refund that pays anything pays the entries it was given. -/
theorem entries_of_planRefund {accounts : List Pubkey} {settling : Settling}
    (success : planRefund env accounts ledger = .ok settling) (paying : settling.payments ≠ [])
    : settling.payments.map Payment.entry = batchEntries accounts := by
  simp only [planRefund, bind_eq_ok, fetch_eq_ok, require_eq_ok, exists_const] at success
  obtain ⟨_, _, _, _, _, _, _, _, _, plan⟩ := success
  split at plan
  · obtain ⟨_, _, rest⟩ := bind_eq_ok.mp plan
    split at rest
    · obtain rfl := pure_eq_ok.mp rest
      exact absurd rfl paying
    · exact entries_of_payBatch rest
  · exact entries_of_payBatch plan

/-- Entrants a refund can pay next: entries of the round above the cursor, each with a token
account of its player.
-/
structure NextInTurn (ledger : RoundLedger) (mint cursor : Pubkey)
    (pairs : List (Pubkey × Pubkey)) : Prop where
  ascending : (cursor :: pairs.map Prod.fst).IsChain (· < ·)
  entered : ∀ pair ∈ pairs, pair.1 ∈ ledger.roundEntries
  belongs : ∀ pair ∈ pairs, BelongsTo ledger mint pair

/-- The loop pays entrants that are next in turn, by induction on the pairs. -/
theorem refundPayments_of_belongs {mint perEntrant cursor vault : Nat}
    {pairs : List (Pubkey × Pubkey)} (next : NextInTurn ledger mint cursor pairs)
    (covered : perEntrant * pairs.length ≤ vault)
    : ∃ payments,
        refundPayments ledger mint perEntrant cursor vault (pairedAccounts pairs)
          = .ok payments := by
  induction pairs generalizing cursor vault with
  | nil => exact ⟨[], rfl⟩
  | cons pair rest ih =>
      obtain ⟨above, ascending⟩ := List.isChain_cons_cons.mp next.ascending
      obtain ⟨here, entered⟩ := List.forall_mem_cons.mp next.entered
      obtain ⟨⟨entry, wallet, found, held, owned, minted⟩, belongs⟩ :=
        List.forall_mem_cons.mp next.belongs
      obtain ⟨_, same, own⟩ := mem_roundEntries.mp here
      cases found.symm.trans same
      rw [List.length_cons, Nat.mul_add_one] at covered
      obtain ⟨payments, success⟩ :=
        ih ⟨ascending, entered, belongs⟩ (Nat.le_sub_of_add_le covered)
      let payment : Payment :=
        { entry := pair.1
          destination := pair.2
          owner := wallet.owner
          mint := mint
          amount := perEntrant }
      refine ⟨payment :: payments, bind_eq_ok.mpr ⟨(), require_eq_ok.mpr above, ?_⟩⟩
      refine bind_eq_ok.mpr ⟨entry, fetch_eq_ok.mpr found, ?_⟩
      refine bind_eq_ok.mpr ⟨(), require_eq_ok.mpr own, ?_⟩
      refine bind_eq_ok.mpr ⟨wallet, fetch_eq_ok.mpr held, ?_⟩
      refine bind_eq_ok.mpr ⟨(), require_eq_ok.mpr owned, ?_⟩
      refine bind_eq_ok.mpr ⟨(), require_eq_ok.mpr minted, ?_⟩
      refine bind_eq_ok.mpr ⟨(), require_eq_ok.mpr ((Nat.le_add_left _ _).trans covered), ?_⟩
      exact bind_eq_ok.mpr ⟨payments, success, rfl⟩

/-- Terms under which so many more entrants can be paid. -/
structure BatchDue (terms : RoundSettlement) (vault count : Nat) : Prop where
  nonempty : 0 < count
  remaining : terms.recipientCount + count ≤ terms.entrantCount
  settled : terms.totalSettled = terms.perEntrant * terms.recipientCount
  fits : terms.perEntrant * terms.entrantCount < u64Modulus
  covered : terms.perEntrant * count ≤ vault

theorem payBatch_of_belongs {terms : RoundSettlement} {vault : Nat}
    {pairs : List (Pubkey × Pubkey)}
    (next : NextInTurn ledger env.config.sgdMint terms.cursor pairs)
    (due : BatchDue terms vault pairs.length)
    : ∃ settling, payBatch env (pairedAccounts pairs) vault ledger terms = .ok settling := by
  have remaining := due.remaining
  obtain ⟨payments, loop⟩ := refundPayments_of_belongs next due.covered
  obtain ⟨batch, length⟩ := refundBatch_of_loop loop
  rw [length_pairedAccounts] at length
  have count : payments.length = pairs.length := by omega
  have sum : terms.totalSettled + (payments.map Payment.amount).sum
      = terms.perEntrant * (terms.recipientCount + pairs.length) := by
    rw [due.settled, batch.total, count, Nat.mul_add]
  have within : terms.totalSettled + (payments.map Payment.amount).sum < u64Modulus :=
    sum.trans_le (Nat.mul_le_mul_left _ remaining) |>.trans_lt due.fits
  have half : pairs.length * 2 / 2 = pairs.length := Nat.mul_div_cancel _ Nat.two_pos
  have counted : terms.recipientCount ≤ terms.entrantCount :=
    (Nat.le_add_right _ _).trans remaining
  have room := Nat.le_sub_of_add_le' remaining
  have total := checkedTotal_of_fits within
  simp only [payBatch, bind_eq_ok, require_eq_ok, exists_const, checkedSub_eq_ok,
    length_pairedAccounts, half, Nat.mul_mod_left, true_and]
  by_cases ended : terms.recipientCount + pairs.length = terms.entrantCount
  · simp only [if_pos ended, bind_eq_ok, require_eq_ok, exists_const, checkedMul_eq_ok]
    exact ⟨_, due.nonempty, _, ⟨counted, rfl⟩, room, payments, loop, _, total, _,
      ⟨due.fits, rfl⟩, sum.trans (congrArg _ ended), rfl⟩
  · simp only [if_neg ended]
    exact ⟨_, due.nonempty, _, ⟨counted, rfl⟩, room, payments, loop, _, total, rfl⟩

/-- The terms the next batch of a refund is paid under: those it fixes itself, or the stored
ones.
-/
inductive RefundDue (env : Env) (ledger : RoundLedger) (vault : Nat)
    : (terms : RoundSettlement) → Prop
  | first
    (unsettled : ledger.currentSettlement.state = .none)
    (entered : ledger.round.participantCount ≠ 0)
    (owed : (frozenTerms ledger vault env.now).perEntrant ≠ 0)
    : RefundDue env ledger vault (frozenTerms ledger vault env.now)
  | later (pending : ledger.currentSettlement.state = .potRefundPending)
    : RefundDue env ledger vault ledger.currentSettlement

/-- Terms that a batch fixes itself have refunded as many as none. -/
theorem RefundDue.recipientCount {terms : RoundSettlement} {vault : Nat}
    (due : RefundDue env ledger vault terms) (sound : Sound ledger)
    : terms.recipientCount = ledger.currentSettlement.recipientCount := by
  cases due with
  | first unsettled =>
      rw [RoundLedger.currentSettlement, sound.settlement_eq_none unsettled]
      rfl
  | later => rfl

/-- Terms a batch can be paid under are those of a pending refund. -/
theorem RefundDue.state {terms : RoundSettlement} {vault : Nat}
    (due : RefundDue env ledger vault terms) : terms.state = .potRefundPending := by
  cases due with
  | first => rfl
  | later pending => exact pending

/-- A batch is paid under the terms that are due. -/
theorem RefundDue.paid {terms : RoundSettlement} {vault : Nat} {settling : Settling}
    (due : RefundDue env ledger vault terms)
    (planned : RefundPlanned env ledger vault settling)
    : BatchPaid env ledger vault terms settling := by
  cases due with
  | first unsettled entered owed =>
      cases planned with
      | nothing _ empty => exact absurd empty (not_or.mpr ⟨entered, owed⟩)
      | first _ _ _ paid => exact paid
      | later pending => exact absurd (unsettled.symm.trans pending) nofun
  | later pending =>
      cases planned with
      | nothing unsettled => exact absurd (unsettled.symm.trans pending) nofun
      | first unsettled => exact absurd (unsettled.symm.trans pending) nofun
      | later _ paid => exact paid

/-- A refund that goes on paid a batch under the terms that were due. -/
theorem RefundPlanned.due {vault : Nat} {settling : Settling}
    (planned : RefundPlanned env ledger vault settling)
    (unfinished : settling.settlement.state ≠ .potRefunded)
    : ∃ terms, RefundDue env ledger vault terms ∧ BatchPaid env ledger vault terms settling := by
  cases planned with
  | nothing => exact absurd rfl unfinished
  | first unsettled entered owed paid => exact ⟨_, .first unsettled entered owed, paid⟩
  | later pending paid => exact ⟨_, .later pending, paid⟩

/-- The entrants next in turn are all it takes for one more batch of a refund that is due. -/
theorem planRefund_of_belongs {terms : RoundSettlement} {vault : Nat}
    {pairs : List (Pubkey × Pubkey)} (sound : Sound ledger)
    (checks : RefundChecks env ledger vault) (refundDue : RefundDue env ledger vault terms)
    (next : NextInTurn ledger env.config.sgdMint terms.cursor pairs)
    (due : BatchDue terms vault pairs.length)
    : ∃ settling, planRefund env (pairedAccounts pairs) ledger = .ok settling := by
  obtain ⟨settling, paid⟩ := payBatch_of_belongs next due
  have eligible : refundEligibility env ledger = .ok () :=
    refundEligibility_eq_ok.mpr
      ⟨checks.finalized, checks.unrevealed, checks.bounded, checks.due, checks.mint⟩
  simp only [planRefund, bind_eq_ok, fetch_eq_ok, require_eq_ok, exists_const, eligible,
    openSettlement_eq_ok sound.numbered sound.carried, requireRefundable_eq_ok, checks.held,
    Option.some.injEq, exists_eq_left', checks.authority, true_and]
  cases refundDue with
  | first unsettled entered owed =>
      have frozen : freezeTerms env ledger.round.participantCount vault ledger.currentSettlement
          = .ok (frozenTerms ledger vault env.now) := by
        have least := perEntrant_mul_le entryFeeSgd vault ledger.round.participantCount
        unfold freezeTerms
        rw [if_neg entered]
        refine bind_eq_ok.mpr ⟨_, checkedDiv_eq_ok.mpr ⟨entered, rfl⟩, ?_⟩
        refine bind_eq_ok.mpr ⟨_, checkedMul_eq_ok.mpr ⟨due.fits, rfl⟩, ?_⟩
        exact bind_eq_ok.mpr ⟨_, checkedSub_eq_ok.mpr ⟨least, rfl⟩, rfl⟩
      refine ⟨settling, .inl unsettled, ?_⟩
      rw [if_pos unsettled]
      refine bind_eq_ok.mpr ⟨_, frozen, ?_⟩
      exact (if_neg (not_or.mpr ⟨entered, owed⟩)).trans paid
  | later pending =>
      refine ⟨settling, .inr pending, ?_⟩
      rw [if_neg (by simp [pending])]
      exact paid

theorem refundUnrevealedPot_of_belongs {terms : RoundSettlement} {vault : Nat}
    {pairs : List (Pubkey × Pubkey)} (sound : Sound ledger)
    (checks : RefundChecks env ledger vault) (refundDue : RefundDue env ledger vault terms)
    (next : NextInTurn ledger env.config.sgdMint terms.cursor pairs)
    (due : BatchDue terms vault pairs.length)
    : ∃ after, refundUnrevealedPot env (pairedAccounts pairs) ledger = .ok after := by
  obtain ⟨settling, planned⟩ := planRefund_of_belongs sound checks refundDue next due
  obtain ⟨held, known, plan⟩ := planRefund_success sound.numbered sound.carried planned
  cases checks.held.symm.trans known.held
  have ⟨players, covered⟩ : (∀ payment ∈ settling.payments,
        PaysPlayer ledger env.config.sgdMint payment)
      ∧ (settling.payments.map Payment.amount).sum ≤ vault := by
    cases plan with
    | nothing => exact ⟨nofun, Nat.zero_le _⟩
    | first _ _ _ paid => exact ⟨paid.batch.players, paid.batch.total.trans_le paid.batch.covered⟩
    | later _ paid => exact ⟨paid.batch.players, paid.batch.total.trans_le paid.batch.covered⟩
  have payable : ∀ payment ∈ settling.payments,
      Payable ledger env.config.sgdMint payment := by
    intro payment member
    obtain ⟨_, ⟨wallet, present, _⟩, mint⟩ := players payment member
    exact ⟨mint, by rw [present]; rfl⟩
  obtain ⟨paid, moved⟩ := transferAll_of_covered checks.held payable covered
  exact ⟨_, bind_eq_ok.mpr ⟨_, planned, bind_eq_ok.mpr ⟨paid, moved, rfl⟩⟩⟩

--------------------------------------------------------------------------------
-- Closing a vault
--------------------------------------------------------------------------------

/-- The authority's token account is all it takes to close a vault that is settled. -/
theorem closePotVault_of_owned {surplusDestination : Pubkey} {wallet : TokenAccount}
    (vault : (ledger.vaults.lookup env.config.sgdMint).isSome)
    (operator : isOperatorOrAuthority env.config env.signer)
    (held : ledger.wallets.lookup surplusDestination = some wallet)
    (owned : wallet.owner = env.config.authority) (minted : wallet.mint = env.config.sgdMint)
    (closable : requireClosable ledger = .ok ())
    : ∃ after, closePotVault env surplusDestination ledger = .ok after := by
  obtain ⟨leftover, vault⟩ := Option.isSome_iff_exists.mp vault
  simp only [closePotVault, requireOperator, bind_eq_ok, fetch_eq_ok, require_eq_ok, exists_const]
  exact ⟨_, leftover, vault, wallet, held, owned, minted, operator, (), closable, rfl⟩

end SecretGarden.Settlement
