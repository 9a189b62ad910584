import SecretGarden.AutoCycle.Refunder
import SecretGarden.AutoCycle.Vaults

/-! The refund script ends the refund of every round it may refund. Earlier runs may have
stopped anywhere, and anyone may have acted in between: every batch it still sends is accepted.
-/

namespace SecretGarden.AutoCycle

open Foundation SecretGarden.Bracket SecretGarden.Settlement

variable {deps : CycleDeps} {env : Env} {state : JournaledRound} {vault : Nat}
  {terms : RoundSettlement} {pending : List RefundRow}

--------------------------------------------------------------------------------
-- One batch
--------------------------------------------------------------------------------

def RefundRow.pair (row : RefundRow) : Pubkey × Pubkey := (row.entry, row.ata)

theorem refundAccounts_eq (rows : List RefundRow)
    : refundAccounts rows = pairedAccounts (rows.map RefundRow.pair) := by
  simp [refundAccounts, pairedAccounts, List.flatMap_map, RefundRow.pair]

theorem batchEntries_refundAccounts (rows : List RefundRow)
    : batchEntries (refundAccounts rows) = rows.map RefundRow.entry := by
  rw [refundAccounts_eq, batchEntries_pairedAccounts, List.map_map]
  rfl

/-- A round in the middle of its refund: the terms of the next batch, and the entrants that are
left, each with a token account.
-/
structure Refunding (env : Env) (state : JournaledRound) (vault : Nat) (terms : RoundSettlement)
    (pending : List RefundRow) : Prop where
  checks : RefundChecks env state.system vault
  due : RefundDue env state.system vault terms
  kept : state.journal.terms.all (·.mint == env.config.sgdMint)
  listed : pending.map RefundRow.entry = (refundOrder state.system).drop terms.recipientCount
  belongs : ∀ row ∈ pending, BelongsTo state.system env.config.sgdMint row.pair

/-- The refunds made so far under the terms of the next batch. -/
theorem Refunding.refunded (refunding : Refunding env state vault terms pending)
    (sound : Settlement.Sound state.system) (known : RefundsKnown state)
    : ∃ refunds found, found.mint = env.config.sgdMint
      ∧ RefundedSoFar state.system refunds found terms := by
  cases refunding.due with
  | first => exact ⟨[], _, rfl, sound.frozen env.now refunding.checks.held⟩
  | later pending =>
      have stored := RoundLedger.settlement_of_pending pending
      obtain ⟨found, fixed, refunded⟩ := known _ stored (by simp [pending])
      have kept := refunding.kept
      rw [fixed] at kept
      exact ⟨_, found, by simpa using kept, refunded⟩

/-- A refund of a full round at the full fee is an amount a token account can hold. -/
theorem refund_fits {perEntrant count : Nat} (fee : perEntrant ≤ entryFeeSgd)
    (seated : count ≤ roundCapacity) : perEntrant * count < u64Modulus :=
  (Nat.mul_le_mul fee seated).trans_lt (by decide)

/-- The entrants that are left are those the terms still owe. -/
theorem Refunding.length (refunding : Refunding env state vault terms pending)
    (sound : Settlement.Sound state.system) (known : RefundsKnown state)
    : pending.length = terms.entrantCount - terms.recipientCount := by
  obtain ⟨_, _, _, refunded⟩ := refunding.refunded sound known
  rw [← List.length_map RefundRow.entry, refunding.listed, List.length_drop, length_refundOrder,
    refunded.entrants]

/-- Any number of the entrants that are left can be paid. -/
theorem Refunding.batchDue (refunding : Refunding env state vault terms pending)
    (sound : Settlement.Sound state.system) (tallied : Tallied state.system)
    (known : RefundsKnown state)
    {count : Nat} (nonempty : 0 < count) (left : count ≤ pending.length)
    : BatchDue terms vault count := by
  obtain ⟨refunds, found, mint, refunded⟩ := refunding.refunded sound known
  have length := refunding.length sound known
  have covered := refunded.solvent refunding.due.state
  rw [mint, RoundLedger.balance, refunding.checks.held, Option.getD_some,
    ← refunded.recipients, ← length] at covered
  refine ⟨nonempty, by omega, ?_, ?_, (Nat.mul_le_mul_left _ left).trans covered⟩
  · rw [refunded.settled, refunded.recipients]
  · apply refund_fits
    · rw [refunded.perEntrant]
      exact min_le_left _ _
    · rw [refunded.entrants, ← sound.counted]
      exact tallied.seated

/-- The first of the entrants that are left come next in turn. -/
theorem Refunding.next (refunding : Refunding env state vault terms pending)
    (sound : Settlement.Sound state.system) (turn : InTurn state.system terms) (count : Nat)
    : NextInTurn state.system env.config.sgdMint terms.cursor
        ((pending.take count).map RefundRow.pair) := by
  have entries : ((pending.take count).map RefundRow.pair).map Prod.fst
      = ((refundOrder state.system).drop terms.recipientCount).take count := by
    rw [← refunding.listed, List.map_map, List.map_take]
    rfl
  refine ⟨?_, fun pair member => ?_, ?_⟩
  · have ascending := pending_ascending sound terms.recipientCount
    rw [← turn.cursor] at ascending
    rw [entries]
    exact (ascending.sublist ((List.take_sublist _ _).cons_cons _)).isChain
  · have listed : pair.1 ∈ ((pending.take count).map RefundRow.pair).map Prod.fst :=
      List.mem_map_of_mem member
    rw [entries] at listed
    exact mem_refundOrder.mp (List.mem_of_mem_drop (List.mem_of_mem_take listed))
  · intro pair member
    obtain ⟨row, taken, rfl⟩ := List.mem_map.mp member
    exact refunding.belongs row (List.mem_of_mem_take taken)

/-- A refund that is over: its last batch left this marker. -/
structure RefundOver (env : Env) (later : JournaledRound) (marker : RoundSettlement) : Prop where
  stored : later.system.settlement = some marker
  ended : marker.state = .potRefunded
  owed : marker.perEntrant ≠ 0
  kept : later.journal.terms.all (·.mint == env.config.sgdMint)

/-- What a batch leaves: the refund is over, or it goes on with the entrants after it. -/
inductive RefundAdvanced (env : Env) (later : JournaledRound) (rest : List RefundRow) : Prop
  | finished {marker : RoundSettlement}
    (finish : RefundOver env later marker)
    (done : rest = [])
    : RefundAdvanced env later rest
  | ongoing {found : Nat} {next : RoundSettlement}
    (refunding : Refunding env later found next rest)
    (left : rest ≠ [])
    : RefundAdvanced env later rest

/-- A refund in the mint of the earlier ones keeps it. -/
theorem mintKept_of_refund {journal : PotJournal} {mint balance : Nat} (payments : List Payment)
    (kept : journal.terms.all (·.mint == mint))
    : (journal.refund ⟨mint, balance⟩ payments).terms.all (·.mint == mint) := by
  cases fixed : journal.terms with
  | none => simp [PotJournal.refund, fixed]
  | some terms =>
      rw [fixed] at kept
      simpa [PotJournal.refund, fixed] using kept

/-- The checks of a refund hold again after each batch. -/
theorem refundChecks_of_settled {ledger after : RoundLedger} {settling : Settling}
    (checks : RefundChecks env ledger vault) (settled : Settled settling ledger after)
    (accounts : AccountsKept ledger after) : ∃ left, RefundChecks env after left := by
  obtain ⟨left, held⟩ := Option.isSome_iff_exists.mp (accounts.vaults (by rw [checks.held]; rfl))
  have round : after.round = ledger.round := by rw [settled.frame]
  refine ⟨left, checks.authority, held, ?_, ?_, ?_, ?_, checks.mint⟩ <;> rw [round]
  · exact checks.finalized
  · exact checks.unrevealed
  · exact checks.bounded
  · exact checks.due

/-- A batch that was paid ends the refund, or leaves it with the entrants after it. -/
theorem Refunding.advanced (refunding : Refunding env state vault terms pending)
    (turn : InTurn state.system terms)
    (length : pending.length = terms.entrantCount - terms.recipientCount)
    {after : RoundLedger} {journal : PotJournal} {settling : Settling}
    (paid : BatchPaid env state.system vault terms settling)
    (payments : settling.payments.length = min refundBatchSize pending.length)
    (moved : settle settling state.system = .ok after)
    (kept : journal.terms.all (·.mint == env.config.sgdMint))
    : RefundAdvanced env ⟨after, journal⟩ (pending.drop refundBatchSize) := by
  have remaining := turn.remaining
  have settled := settled_of_settle moved
  have result := paid.settlement
  unfold finishedSettlement at result
  by_cases done : pending.drop refundBatchSize = []
  · have last : (paidSettlement terms settling.payments).recipientCount
        = (paidSettlement terms settling.payments).entrantCount := by
      rw [min_eq_right (List.drop_eq_nil_iff.mp done)] at payments
      change terms.recipientCount + settling.payments.length = terms.entrantCount
      omega
    rw [if_pos last] at result
    refine .finished ⟨settled.settlement, ?_, ?_, kept⟩ done <;> rw [result]
    exact turn.owed
  · have many := not_le.mp (mt List.drop_eq_nil_iff.mpr done)
    rw [min_eq_left many.le] at payments
    have more : (paidSettlement terms settling.payments).recipientCount
        ≠ (paidSettlement terms settling.payments).entrantCount := by
      change terms.recipientCount + settling.payments.length ≠ terms.entrantCount
      omega
    rw [if_neg more] at result
    have current : after.currentSettlement = paidSettlement terms settling.payments := by
      rw [RoundLedger.currentSettlement, settled.settlement, Option.getD_some, result]
    obtain ⟨owners, accounts⟩ := kept_of_settle moved
    obtain ⟨left, again⟩ := refundChecks_of_settled refunding.checks settled accounts
    have due : RefundDue env after left after.currentSettlement := by
      refine .later ?_
      rw [current]
      exact refunding.due.state
    rw [current] at due
    refine .ongoing ⟨again, due, kept, ?_, fun row member => ?_⟩ done
    · have order : refundOrder after = refundOrder state.system := by
        rw [refundOrder, refundOrder, settled.frame]
      change _ = (refundOrder after).drop (terms.recipientCount + settling.payments.length)
      rw [List.map_drop, refunding.listed, List.drop_drop, order, payments]
    · exact (refunding.belongs row (List.mem_of_mem_drop member)).kept owners accounts
        (by rw [settled.frame])

variable {start : RoundLedger} {history : List RoundSubmission}

/-- What was refunded on the way from one state to another: it is noted, the vault lost it, and
it is in token accounts of the entrants' players.
-/
structure RefundsPaid (mint : Pubkey) (state later : JournaledRound) (payments : List Payment)
    : Prop where
  noted : later.journal.refunds = state.journal.refunds ++ payments
  players : ∀ payment ∈ payments, PaysPlayer later.system mint payment
  paid : PaidOut payments state.system later.system

/-- Batches of the script, which touch nothing but balances and the settlement. -/
structure BatchesPaid (mint : Pubkey) (state later : JournaledRound) (payments : List Payment)
    : Prop extends RefundsPaid mint state later payments where
  reveal : later.system.toRevealLedger = state.system.toRevealLedger
  owners : OwnersKept state.system later.system
  accounts : AccountsKept state.system later.system

/-- Later batches leave the earlier ones with their players. -/
theorem BatchesPaid.append {mint : Pubkey} {next later : JournaledRound}
    {first second : List Payment} (before : BatchesPaid mint state next first)
    (after : BatchesPaid mint next later second)
    : BatchesPaid mint state later (first ++ second) := by
  constructor
  · constructor
    · rw [after.noted, before.noted, List.append_assoc]
    · intro payment member
      rcases List.mem_append.mp member with old | new
      · exact (before.players payment old).kept after.owners after.accounts
          (by rw [after.reveal])
      · exact after.players payment new
    · exact before.paid.append after.paid
  · exact after.reveal.trans before.reveal
  · exact OwnersKept.trans before.owners after.owners
  · exact before.accounts.trans after.accounts

/-- One batch of the script. -/
theorem batchesPaid_of_settle {accounts : List Pubkey} {settling : Settling} {after : RoundLedger}
    (planned : planRefund env accounts state.system = .ok settling)
    (paid : BatchPaid env state.system vault terms settling)
    (moved : settle settling state.system = .ok after)
    : BatchesPaid env.config.sgdMint state
        ⟨after, notePot state.system ⟨env, .refundUnrevealedPot accounts⟩ state.journal⟩
        settling.payments := by
  have settled := settled_of_settle moved
  obtain ⟨owners, kept⟩ := kept_of_settle moved
  refine ⟨⟨?_, fun payment member => ?_, settled.paid⟩, ?_, owners, kept⟩
  · rw [notePot_refund planned]
    rfl
  · exact (paid.batch.players payment member).kept owners kept (by rw [settled.frame])
  · rw [settled.frame]

/-- The next batch of the script. -/
def nextBatch (env : Env) (pending : List RefundRow) : RoundSubmission :=
  ⟨env, .refundUnrevealedPot (refundAccounts (pending.take refundBatchSize))⟩

/-- One more batch is accepted, and the refund ends with the last one. -/
theorem Refunding.pay (refunding : Refunding env state vault terms pending)
    (opened : start.Opened) (run : Run journaledRound RefundsInTurn start.journaled history state)
    (left : pending ≠ [])
    : ∃ later,
        RefundsInTurn state (nextBatch env pending)
        ∧ journaledRound state (nextBatch env pending) = .ok later
        ∧ (∃ payments, BatchesPaid env.config.sgdMint state later payments)
        ∧ RefundAdvanced env later (pending.drop refundBatchSize) := by
  have sound := sound_of_journaled opened run
  have known := refundsKnown_of_inTurn opened run
  have turn := (pendingInTurn_of_run opened run).due refunding.due
  let rows := pending.take refundBatchSize
  have count : rows.length = min refundBatchSize pending.length := List.length_take
  have filled : 0 < pending.length := List.length_pos_iff.mpr left
  have due := refunding.batchDue sound (tallied_of_run opened run.forget) known
    (show 0 < rows.length by simp [count, refundBatchSize, filled])
    (show rows.length ≤ pending.length by simp [count])
  have next := refunding.next sound turn refundBatchSize
  obtain ⟨after, success⟩ := refundUnrevealedPot_of_belongs sound refunding.checks refunding.due
    next (by rwa [List.length_map])
  rw [← refundAccounts_eq] at success
  obtain ⟨settling, planned, moved⟩ := bind_eq_ok.mp success
  obtain ⟨held, checks, plan⟩ := planRefund_success sound.numbered sound.carried planned
  cases refunding.checks.held.symm.trans checks.held
  have paid := refunding.due.paid plan
  have entries : settling.payments.map Payment.entry = rows.map RefundRow.entry := by
    rw [entries_of_planRefund planned paid.nonempty, batchEntries_refundAccounts]
  have payments : settling.payments.length = rows.length := by
    simpa using congrArg List.length entries
  have turned : RefundsInTurn state (nextBatch env pending) := by
    refine ⟨refunding.kept, ?_⟩
    change NextEntries _ _ (batchEntries _)
    rw [batchEntries_refundAccounts, NextEntries, ← refunding.due.recipientCount sound,
      ← refunding.listed]
    exact (List.take_prefix _ _).map _
  refine ⟨⟨after, notePot state.system (nextBatch env pending) state.journal⟩, turned,
    journaled_eq_ok.mpr ⟨success, rfl⟩, ⟨_, batchesPaid_of_settle planned paid moved⟩, ?_⟩
  have length := refunding.length sound known
  refine refunding.advanced turn length paid (payments.trans count) moved ?_
  rw [nextBatch, notePot_refund planned]
  exact mintKept_of_refund settling.payments refunding.kept

--------------------------------------------------------------------------------
-- All batches
--------------------------------------------------------------------------------

theorem batchesFor_drop (pending : List RefundRow)
    : batchesFor (pending.drop refundBatchSize) = batchesFor pending - 1 := by
  simp only [batchesFor, refundBatchSize, List.length_drop]
  omega

/-- All batches are accepted, by induction on their number. -/
theorem sendRefunds_finishes {batches : Nat}
    (refunding : Refunding env state vault terms pending)
    (opened : start.Opened) (run : Run journaledRound RefundsInTurn start.journaled history state)
    (left : pending ≠ []) (enough : batches = batchesFor pending)
    : ∃ marker later longer,
        sendRefunds env batches pending state.system = (.refunded marker, later.system)
        ∧ Run journaledRound RefundsInTurn start.journaled longer later
        ∧ (∃ payments, BatchesPaid env.config.sgdMint state later payments)
        ∧ RefundOver env later marker := by
  induction batches generalizing pending state vault terms history with
  | zero =>
      have filled : 0 < pending.length := List.length_pos_iff.mpr left
      simp only [batchesFor, refundBatchSize] at enough
      omega
  | succ batches ih =>
      obtain ⟨next, turned, success, ⟨batch, paid⟩, advanced⟩ := refunding.pay opened run left
      have longer := run.accepted turned success
      have accepted : roundStep state.system (nextBatch env pending) = .ok next.system :=
        (journaled_eq_ok.mp success).1
      have sent : sendRefunds env (batches + 1) pending state.system
          = sendRefunds env batches (pending.drop refundBatchSize) next.system := by
        rw [nextBatch] at accepted
        simp only [sendRefunds, accepted]
      have fewer : batches = batchesFor (pending.drop refundBatchSize) := by
        rw [batchesFor_drop, ← enough, Nat.add_sub_cancel]
      rw [sent]
      cases advanced with
      | finished finish done =>
          rw [done] at fewer ⊢
          obtain rfl : batches = 0 := fewer
          refine ⟨_, next, _, ?_, longer, ⟨batch, paid⟩, finish⟩
          rw [sendRefunds, finish.stored]
      | ongoing refunding remain =>
          obtain ⟨marker, later, history, rest, final, ⟨others, after⟩, finish⟩ :=
            ih refunding longer remain fewer
          exact ⟨marker, later, history, rest, final, ⟨batch ++ others, paid.append after⟩, finish⟩

--------------------------------------------------------------------------------
-- The script
--------------------------------------------------------------------------------

variable {ledger : RoundLedger}

/-- A row lists an entry of the round and its player's token account. -/
theorem mem_refundRows {row : RefundRow} (listed : row ∈ refundRows deps env ledger)
    : row.ata = deps.ataFor row.player env.config.sgdMint
      ∧ ∃ entry, ledger.entries.lookup row.entry = some entry ∧ entry.player = row.player := by
  rw [refundRows, List.mem_insertionSort, List.mem_map] at listed
  obtain ⟨⟨entryKey, entry⟩, member, rfl⟩ := listed
  exact ⟨rfl, entry, (mem_entriesForRound.mp member).1, rfl⟩

theorem Furnished.reveal {next : RoundLedger} {mint : Pubkey}
    (furnished : Furnished deps mint ledger next)
    : next.toRevealLedger = ledger.toRevealLedger := by
  rw [furnished.frame]

theorem Furnished.currentSettlement {next : RoundLedger} {mint : Pubkey}
    (furnished : Furnished deps mint ledger next)
    : next.currentSettlement = ledger.currentSettlement := by
  rw [furnished.frame]
  rfl

theorem furnishRow_furnishes {row : RefundRow} (ledger : RoundLedger)
    (derived : row.ata = deps.ataFor row.player env.config.sgdMint)
    : Furnished deps env.config.sgdMint ledger (furnishRow env ledger row)
      ∧ ((furnishRow env ledger row).wallets.lookup row.ata).isSome := by
  rw [furnishRow]
  split
  · next held => exact ⟨.refl ledger, held⟩
  · next absent =>
      rw [derived] at absent ⊢
      exact ⟨.create deps env.config.sgdMint row.player ledger
        (Option.not_isSome_iff_eq_none.mp absent), by simp⟩

/-- Every entrant has a token account by then, by induction on the rows. -/
theorem furnishRows_furnishes {rows : List RefundRow} (ledger : RoundLedger)
    (derived : ∀ row ∈ rows, row.ata = deps.ataFor row.player env.config.sgdMint)
    : Furnished deps env.config.sgdMint ledger (rows.foldl (furnishRow env) ledger)
      ∧ ∀ row ∈ rows, ((rows.foldl (furnishRow env) ledger).wallets.lookup row.ata).isSome := by
  induction rows generalizing ledger with
  | nil => exact ⟨.refl ledger, nofun⟩
  | cons row rest ih =>
      obtain ⟨here, later⟩ := List.forall_mem_cons.mp derived
      obtain ⟨furnished, held⟩ := furnishRow_furnishes ledger here
      obtain ⟨rests, others⟩ := ih (furnishRow env ledger row) later
      exact ⟨furnished.trans rests, List.forall_mem_cons.mpr ⟨rests.kept held, others⟩⟩

/-- Creating token accounts is a part of the round's history, by induction on the rows. -/
theorem run_of_furnishRows (env : Env) (rows : List RefundRow)
    (run : Run journaledRound RefundsInTurn start.journaled history state)
    : ∃ longer, Run journaledRound RefundsInTurn start.journaled longer
        ⟨rows.foldl (furnishRow env) state.system, state.journal⟩ := by
  induction rows generalizing state history with
  | nil => exact ⟨history, run⟩
  | cons row rest ih =>
      rw [List.foldl_cons]
      by_cases held : (state.system.wallets.lookup row.ata).isSome
      · rw [furnishRow, if_pos held]
        exact ih run
      · rw [furnishRow, if_neg held]
        let wallet : TokenAccount := ⟨row.player, env.config.sgdMint, 0⟩
        let creation : RoundSubmission := ⟨env, .outside (.changeWallet row.ata wallet)⟩
        have created : journaledRound state creation = .ok
            ⟨{ state.system with wallets := state.system.wallets.insert row.ata wallet },
              state.journal⟩ :=
          journaled_eq_ok.mpr ⟨rfl, rfl⟩
        have other : RefundsInTurn state creation := ⟨trivial, trivial⟩
        exact ih (run.accepted other created)

/-- What the script relies on: the checks of a refund hold, nothing has ended it, the earlier
batches were in the configured mint, and a refund that is yet to begin finds a unit for
everyone.
-/
structure RefunderReady (deps : CycleDeps) (env : Env) (state : JournaledRound) (vault : Nat)
    : Prop where
  checks : RefundChecks env state.system vault
  kept : state.journal.terms.all (·.mint == env.config.sgdMint)
  atas : AtasOwned deps env.config.sgdMint state.system
  entered : state.system.round.participantCount ≠ 0
  unfinished : state.system.currentSettlement.state = .none
    ∨ state.system.currentSettlement.state = .potRefundPending
  enough : state.system.currentSettlement.state = .none
    → state.system.round.participantCount ≤ vault

/-- The next batch is due. -/
theorem RefunderReady.due (ready : RefunderReady deps env state vault)
    : ∃ terms, RefundDue env state.system vault terms := by
  rcases ready.unfinished with unsettled | pending
  · refine ⟨_, .first unsettled ready.entered ?_⟩
    have share := Nat.div_pos (ready.enough unsettled) (Nat.pos_of_ne_zero ready.entered)
    exact (lt_min (by decide) share).ne'
  · exact ⟨_, .later pending⟩

/-- Token accounts make no difference to the checks. -/
theorem RefunderReady.furnished (ready : RefunderReady deps env state vault)
    {next : RoundLedger} (furnished : Furnished deps env.config.sgdMint state.system next)
    : RefunderReady deps env ⟨next, state.journal⟩ vault := by
  obtain ⟨frame, _, owned⟩ := furnished
  generalize next.wallets = wallets at frame
  subst frame
  have checks := ready.checks
  exact
    { checks := ⟨checks.authority, checks.held, checks.finalized, checks.unrevealed,
        checks.bounded, checks.due, checks.mint⟩
      kept := ready.kept
      atas := owned ready.atas
      entered := ready.entered
      unfinished := ready.unfinished
      enough := ready.enough }

/-- The script begins in the middle of a refund, or before it. -/
theorem RefunderReady.refunding (ready : RefunderReady deps env state vault)
    (due : RefundDue env state.system vault terms)
    (listed : pending.map RefundRow.entry
      = (refundOrder state.system).drop terms.recipientCount)
    (rows : ∀ row ∈ pending, row.ata = deps.ataFor row.player env.config.sgdMint
      ∧ ∃ entry, state.system.entries.lookup row.entry = some entry
        ∧ entry.player = row.player)
    (held : ∀ row ∈ pending, (state.system.wallets.lookup row.ata).isSome)
    : Refunding env state vault terms pending := by
  refine ⟨ready.checks, due, ready.kept, listed, fun row member => ?_⟩
  obtain ⟨derived, entry, found, player⟩ := rows row member
  obtain ⟨wallet, present⟩ := Option.isSome_iff_exists.mp (held row member)
  obtain ⟨owner, mint⟩ := ready.atas.owned (derived ▸ present)
  exact ⟨entry, wallet, found, present, owner.trans player.symm, mint⟩

/-- Every entrant of the round got the same amount back, once: what earlier batches left to pay
is by now in token accounts of the entrants' players, and the vault has lost exactly that.
-/
structure EveryoneRefunded (state later : JournaledRound) (mint : Pubkey)
    (marker : RoundSettlement) : Prop where
  stored : later.system.settlement = some marker
  ended : marker.state = .potRefunded
  owed : 0 < marker.perEntrant
  everyone : (later.journal.refunds.map Payment.entry).Perm state.system.roundEntries
  players : ∀ payment ∈ later.journal.refunds,
    PaidBack state.system mint marker.perEntrant payment
  paid : ∃ payments, RefundsPaid mint state later payments

/-- A refund that is over has refunded everyone. -/
theorem RefundOver.everyone {later : JournaledRound} {marker : RoundSettlement}
    (finish : RefundOver env later marker) (known : RefundsKnown later)
    (same : later.system.toRevealLedger = state.system.toRevealLedger)
    (paid : ∃ payments, RefundsPaid env.config.sgdMint state later payments)
    : EveryoneRefunded state later env.config.sgdMint marker := by
  have owed := Nat.pos_of_ne_zero finish.owed
  obtain ⟨found, fixed, refunded⟩ := known marker finish.stored (by simp [finish.ended])
  have kept := finish.kept
  rw [fixed] at kept
  have mint : found.mint = env.config.sgdMint := by simpa using kept
  refine ⟨finish.stored, finish.ended, owed, ?_, fun payment member => ?_, paid⟩
  · rw [← same]
    apply refunded.visited.complete
    rw [List.length_map, refunded.finished finish.ended owed, refunded.entrants]
  · obtain ⟨entered, minted, amount⟩ := refunded.players payment member
    rw [same] at entered
    exact ⟨entered, minted.trans mint, amount⟩

/-- Past its guards, the script sends what is pending. -/
theorem RefunderReady.sends (ready : RefunderReady deps env state vault)
    (sound : Settlement.Sound state.system)
    : let pending := (refundRows deps env state.system).drop
        state.system.currentSettlement.recipientCount
      refundUnrevealed deps env true state.system
        = sendRefunds env (batchesFor pending) pending
            (pending.foldl (furnishRow env) state.system) := by
  have checks := ready.checks
  have paid : state.system.currentSettlement.state ≠ .potPaid := by
    rcases ready.unfinished with state | state <;> rw [state] <;> nofun
  have refunded : state.system.currentSettlement.state ≠ .potRefunded := by
    rcases ready.unfinished with state | state <;> rw [state] <;> nofun
  have grace : ¬ env.now < state.system.round.endTime + refundGraceSeconds :=
    not_lt.mpr checks.due
  have complete : (refundRows deps env state.system).length
      = state.system.round.participantCount := by
    rw [← List.length_map RefundRow.entry, entries_refundRows, length_refundOrder, sound.counted]
  simp only [refundUnrevealed, checks.finalized, checks.unrevealed, paid, refunded, grace,
    complete, ne_eq, not_true_eq_false, if_false, if_true, Bool.false_eq_true]

end SecretGarden.AutoCycle
