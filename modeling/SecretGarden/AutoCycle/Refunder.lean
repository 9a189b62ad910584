import SecretGarden.AutoCycle.Payouts
import SecretGarden.AutoCycle.Planning

/-! The script that refunds a round nobody revealed: its entrants in the order the program's
cursor requires, a few in each transaction, from where an earlier run stopped.
-/

namespace SecretGarden.AutoCycle

open Foundation SecretGarden.Bracket SecretGarden.Settlement

/-- Entrants in one transaction. -/
def refundBatchSize : Nat := 8

/-- The script's own copy of the time a round has to be over. -/
def refundGraceSeconds : Int := 7 * 86400

/-- An entrant of the round with the token account of its player. -/
structure RefundRow where
  entry : Pubkey
  player : Pubkey
  ata : Pubkey
deriving DecidableEq

/-- How a run of the script ended. -/
inductive RefundReport where
  | notFinalized
  | revealed
  | alreadyDistributed
  | tooEarly
  | alreadyRefunded (marker : RoundSettlement)
  | refusing (found participants : Nat)
  | dryRun (batches : Nat)
  | rejected (failure : SecretGardenError)
  | refunded (marker : RoundSettlement)

section Script

variable (deps : CycleDeps) (env : Env)

/-- The entrants of a round, sorted by their entries' addresses. -/
def refundRows (ledger : RoundLedger) : List RefundRow :=
  let rows := (entriesForRound deps ledger).map fun listed => RefundRow.mk listed.1
    listed.2.player (deps.ataFor listed.2.player env.config.sgdMint)
  rows.insertionSort fun first second => first.entry ≤ second.entry

/-- Create the token account of an entrant where there is none. -/
def furnishRow (ledger : RoundLedger) (row : RefundRow) : RoundLedger :=
  if (ledger.wallets.lookup row.ata).isSome then ledger
  else { ledger with
    wallets := ledger.wallets.insert row.ata ⟨row.player, env.config.sgdMint, 0⟩ }

/-- The accounts of a batch: each entrant's entry and token account. -/
def refundAccounts (rows : List RefundRow) : List Pubkey :=
  rows.flatMap fun row => [row.entry, row.ata]

/-- Refund the pending entrants in so many transactions; the first that is rejected ends the
run, and what was paid before stays paid.
-/
def sendRefunds : (batches : Nat) → (pending : List RefundRow) → RoundLedger
    → RefundReport × RoundLedger
  | 0, _, ledger =>
      match ledger.settlement with
      | none => (.rejected .accountNotInitialized, ledger)
      | some marker => (.refunded marker, ledger)
  | batches + 1, pending, ledger =>
      let accounts := refundAccounts (pending.take refundBatchSize)
      match roundStep ledger ⟨env, .refundUnrevealedPot accounts⟩ with
      | .ok after => sendRefunds batches (pending.drop refundBatchSize) after
      | .error failure => (.rejected failure, ledger)

/-- How many transactions the pending entrants take. -/
def batchesFor (pending : List RefundRow) : Nat :=
  (pending.length + refundBatchSize - 1) / refundBatchSize

/-- One run of the script, up to the report it prints. -/
def refundUnrevealed (execute : Bool) (ledger : RoundLedger) : RefundReport × RoundLedger :=
  let round := ledger.round
  let marker := ledger.currentSettlement
  if round.status ≠ .finalized then (.notFinalized, ledger)
  else if round.scoringRevealed then (.revealed, ledger)
  else if marker.state = .potPaid then (.alreadyDistributed, ledger)
  else if env.now < round.endTime + refundGraceSeconds then (.tooEarly, ledger)
  else if marker.state = .potRefunded then (.alreadyRefunded marker, ledger)
  else
    let rows := refundRows deps env ledger
    if rows.length ≠ round.participantCount then
      (.refusing rows.length round.participantCount, ledger)
    else
      -- an earlier run that got partway left its position in the settlement
      let pending := rows.drop marker.recipientCount
      if execute then
        sendRefunds env (batchesFor pending) pending (pending.foldl (furnishRow env) ledger)
      else (.dryRun (batchesFor pending), ledger)

end Script

variable {deps : CycleDeps} {env : Env} {ledger after : RoundLedger}

--------------------------------------------------------------------------------
-- The order of a refund
--------------------------------------------------------------------------------

/-- The order in which the script refunds the entries of a round. -/
def refundOrder (ledger : RoundLedger) : List Pubkey := sortEntriesByteWise ledger.roundEntries

theorem length_refundOrder (ledger : RoundLedger)
    : (refundOrder ledger).length = ledger.roundEntries.length :=
  (List.perm_insertionSort _ _).length_eq

theorem mem_refundOrder {entryKey : Pubkey}
    : entryKey ∈ refundOrder ledger ↔ entryKey ∈ ledger.roundEntries :=
  List.mem_insertionSort _

/-- The rows list the entries in their order, however they were fetched. -/
theorem entries_refundRows (deps : CycleDeps) (env : Env) (ledger : RoundLedger)
    : (refundRows deps env ledger).map RefundRow.entry = refundOrder ledger := by
  rw [refundRows, List.map_insertionSort _ (· ≤ ·) _ _ fun _ _ _ _ => Iff.rfl, List.map_map]
  change sortEntriesByteWise ((entriesForRound deps ledger).map Prod.fst) = _
  rw [keys_entriesForRound]
  exact sortEntriesByteWise_perm (deps.listing_perm ledger)

/-- No entry of a round comes before the cursor of an untouched settlement. -/
theorem refundOrder_ascending (sound : Settlement.Sound ledger)
    : (0 :: refundOrder ledger).Pairwise (· < ·) := by
  refine List.pairwise_cons.mpr ⟨fun entryKey member => ?_, ?_⟩
  · exact Nat.pos_of_ne_zero (sound.addressed entryKey (mem_refundOrder.mp member))
  · exact insertionSort_ascending (Store.keysWhere_nodup _ _)

/-- The cursor of terms that refunded so many entries in order. -/
def orderedCursor (ledger : RoundLedger) (count : Nat) : Pubkey :=
  ((refundOrder ledger).take count).getLast?.getD 0

/-- What comes after the entries that were refunded is above the cursor. -/
theorem pending_ascending (sound : Settlement.Sound ledger) (count : Nat)
    : (orderedCursor ledger count :: (refundOrder ledger).drop count).Pairwise (· < ·) := by
  have ascending := refundOrder_ascending sound
  rw [← List.take_append_drop count (refundOrder ledger), ← List.cons_append,
    List.pairwise_append] at ascending
  obtain ⟨_, rest, apart⟩ := ascending
  refine List.pairwise_cons.mpr ⟨apart _ ?_, rest⟩
  exact List.mem_of_getLast? List.getLast?_cons

/-- A refund that has paid the entrants in order so far, with some of them left. -/
structure InTurn (ledger : RoundLedger) (terms : RoundSettlement) : Prop where
  cursor : terms.cursor = orderedCursor ledger terms.recipientCount
  remaining : terms.recipientCount < terms.entrantCount
  owed : terms.perEntrant ≠ 0

/-- Terms that were fixed just now have paid nobody. -/
theorem inTurn_of_frozen {vault : Nat} {now : Int} (entered : ledger.round.participantCount ≠ 0)
    (owed : (frozenTerms ledger vault now).perEntrant ≠ 0)
    : InTurn ledger (frozenTerms ledger vault now) :=
  ⟨rfl, Nat.pos_of_ne_zero entered, owed⟩

theorem InTurn.kept {terms : RoundSettlement} (turn : InTurn ledger terms)
    (entries : after.roundEntries.Perm ledger.roundEntries) : InTurn after terms := by
  refine ⟨?_, turn.remaining, turn.owed⟩
  rw [turn.cursor, orderedCursor, orderedCursor, refundOrder, refundOrder,
    sortEntriesByteWise_perm entries]

/-- The entries a batch may pay: a first part of those that were not refunded yet. -/
def NextEntries (ledger : RoundLedger) (terms : RoundSettlement) (entries : List Pubkey) : Prop :=
  entries <+: (refundOrder ledger).drop terms.recipientCount

/-- A batch in order moves the cursor to its last entry. -/
theorem orderedCursor_of_next {count : Nat} {entries : List Pubkey}
    (next : entries <+: (refundOrder ledger).drop count)
    : entries.getLast?.getD (orderedCursor ledger count)
      = orderedCursor ledger (count + entries.length) := by
  rw [orderedCursor, orderedCursor, List.take_add, ← List.prefix_iff_eq_take.mp next,
    List.getLast?_append]
  cases entries.getLast? <;> rfl

/-- A refund that goes on after a batch in order is still in order. -/
theorem InTurn.pay {terms : RoundSettlement} {vault : Nat} {settling : Settling}
    (turn : InTurn ledger terms) (paid : BatchPaid env ledger vault terms settling)
    (next : NextEntries ledger terms (settling.payments.map Payment.entry))
    (unfinished : settling.settlement.state ≠ .potRefunded)
    : InTurn ledger settling.settlement := by
  have fits := paid.fits
  have result := paid.settlement
  unfold finishedSettlement at result
  split at result
  · rw [result] at unfinished
    exact absurd rfl unfinished
  · next left =>
      rw [result]
      refine ⟨?_, lt_of_le_of_ne fits left, turn.owed⟩
      have moved := orderedCursor_of_next next
      rw [List.length_map, ← turn.cursor] at moved
      exact moved

--------------------------------------------------------------------------------
-- Every run
--------------------------------------------------------------------------------

/-- Batches of a refund are in order, and in the mint of the first one. -/
def RefundsInTurn (state : JournaledRound) (submission : RoundSubmission) : Prop :=
  RefundMintKept state submission
  ∧ match submission.instruction with
    | .refundUnrevealedPot accounts =>
        NextEntries state.system state.system.currentSettlement (batchEntries accounts)
    | _ => True

instance (ledger : RoundLedger) (terms : RoundSettlement) (entries : List Pubkey)
    : Decidable (NextEntries ledger terms entries) :=
  inferInstanceAs (Decidable (_ <+: _))

instance (state : JournaledRound) (submission : RoundSubmission)
    : Decidable (RefundsInTurn state submission) := by
  unfold RefundsInTurn
  generalize submission.instruction = instruction
  rcases instruction <;> infer_instance

/-- A pending refund is in order. -/
def PendingInTurn (ledger : RoundLedger) : Prop :=
  ∀ terms, ledger.settlement = some terms → terms.state = .potRefundPending → InTurn ledger terms

/-- The terms of the next batch are in order. -/
theorem PendingInTurn.due (known : PendingInTurn ledger) {vault : Nat} {terms : RoundSettlement}
    (due : RefundDue env ledger vault terms) : InTurn ledger terms := by
  cases due with
  | first _ entered owed => exact inTurn_of_frozen entered owed
  | later pending => exact known _ (RoundLedger.settlement_of_pending pending) pending

variable {state : JournaledRound} {submission : RoundSubmission}

/-- Accepted instructions that meet the condition keep pending refunds in order. -/
theorem PendingInTurn.step (known : PendingInTurn state.system)
    (sound : Settlement.Sound state.system)
    (met : RefundsInTurn state submission)
    (success : roundStep state.system submission = .ok after) : PendingInTurn after := by
  intro terms stored pending
  have carry (same : after.settlement = state.system.settlement) : InTurn after terms := by
    rw [same] at stored
    rcases roundStep_entries success with ⟨_, entryKey, entered⟩ | ⟨entries, _⟩
    · exact absurd (entered.opened.symm.trans (sound.settling stored).2) (by simp)
    · exact (known terms stored pending).kept entries
  cases sound.potMove success with
  | distributed _ _ _ settled result =>
      obtain rfl := Option.some.inj (settled.settlement.symm.trans stored)
      rw [result] at pending
      cases pending
  | @refunded env accounts settling _ planned _ plan settled =>
      have unfinished : terms.state ≠ .potRefunded := by
        rw [pending]
        nofun
      obtain rfl := Option.some.inj (settled.settlement.symm.trans stored)
      obtain ⟨earlier, due, paid⟩ := plan.due unfinished
      have next : NextEntries state.system earlier (settling.payments.map Payment.entry) := by
        rw [entries_of_planRefund planned paid.nonempty, NextEntries, due.recipientCount sound]
        exact met.2
      refine ((known.due due).pay paid next unfinished).kept ?_
      rw [settled.frame]
  | closed swept => exact carry (by rw [swept.frame])
  | still _ same => exact carry same

/-- Pending refunds are in order throughout every run that meets the condition. -/
theorem pendingInTurn_of_run {start : RoundLedger} (opened : start.Opened)
    {history : List RoundSubmission}
    (run : Run journaledRound RefundsInTurn start.journaled history state)
    : PendingInTurn state.system := by
  apply run.invariant_with (fun run => sound_of_journaled opened run)
  · intro terms stored
    simp [RoundLedger.journaled, opened.settlement] at stored
  · intro before submission after sound known met success
    exact known.step sound met (journaled_eq_ok.mp success).1

/-- In such a run the refunds are known as well. -/
theorem refundsKnown_of_inTurn {start : RoundLedger} (opened : start.Opened)
    {history : List RoundSubmission}
    (run : Run journaledRound RefundsInTurn start.journaled history state) : RefundsKnown state :=
  refundsKnown_of_run opened (run.mono fun _ _ met => met.1)

end SecretGarden.AutoCycle
