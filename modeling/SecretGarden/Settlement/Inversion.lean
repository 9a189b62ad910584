import SecretGarden.Bracket.Inversion
import SecretGarden.Settlement.Machine

/-! What each accepted instruction checked and did: every later proof reads these lemmas
instead of the instructions.
-/

namespace SecretGarden.Settlement

open Foundation SecretGarden.Bracket

variable {env : Env} {ledger after : RoundLedger}

theorem checkedAdd_eq_ok {a b result : Nat}
    : checkedAdd a b = .ok result ↔ a + b < u64Modulus ∧ a + b = result := by
  simp only [checkedAdd, bind_eq_ok, require_eq_ok, exists_const, pure_eq_ok]

theorem checkedSub_eq_ok {a b result : Nat}
    : checkedSub a b = .ok result ↔ b ≤ a ∧ a - b = result := by
  simp only [checkedSub, bind_eq_ok, require_eq_ok, exists_const, pure_eq_ok]

theorem checkedMul_eq_ok {a b result : Nat}
    : checkedMul a b = .ok result ↔ a * b < u64Modulus ∧ a * b = result := by
  simp only [checkedMul, bind_eq_ok, require_eq_ok, exists_const, pure_eq_ok]

theorem checkedDiv_eq_ok {a b result : Nat}
    : checkedDiv a b = .ok result ↔ b ≠ 0 ∧ a / b = result := by
  simp only [checkedDiv, bind_eq_ok, require_eq_ok, exists_const, pure_eq_ok]

/-- A checked total is the sum, by induction on the amounts. -/
theorem eq_of_checkedTotal {total result : Nat} {amounts : List Nat}
    (success : checkedTotal total amounts = .ok result) : result = total + amounts.sum := by
  induction amounts generalizing total with
  | nil => exact (pure_eq_ok.mp success).symm
  | cons amount rest ih =>
      obtain ⟨next, added, later⟩ := bind_eq_ok.mp success
      obtain ⟨_, rfl⟩ := checkedAdd_eq_ok.mp added
      rw [ih later, List.sum_cons, Nat.add_assoc]

@[simp] theorem amountIn_nil (mint : Pubkey) : amountIn mint [] = 0 := rfl

@[simp] theorem amountIn_cons (mint : Pubkey) (payment : Payment) (rest : List Payment)
    : amountIn mint (payment :: rest)
      = (if payment.mint = mint then payment.amount else 0) + amountIn mint rest := by
  by_cases same : payment.mint = mint <;> simp [amountIn, same]

@[simp] theorem amountIn_append (mint : Pubkey) (first second : List Payment)
    : amountIn mint (first ++ second) = amountIn mint first + amountIn mint second := by
  simp [amountIn]

/-- Payments in one mint move their whole sum in it. -/
theorem amountIn_of_mint {mint : Pubkey} {payments : List Payment}
    (all : ∀ payment ∈ payments, payment.mint = mint)
    : amountIn mint payments = (payments.map Payment.amount).sum := by
  rw [amountIn, List.filter_eq_self.mpr (by simpa using all)]

@[simp] theorem amountTo_nil (address : Pubkey) : amountTo address [] = 0 := rfl

@[simp] theorem amountTo_cons (address : Pubkey) (payment : Payment) (rest : List Payment)
    : amountTo address (payment :: rest)
      = (if payment.destination = address then payment.amount else 0) + amountTo address rest := by
  by_cases same : payment.destination = address <;> simp [amountTo, same]

@[simp] theorem amountTo_append (address : Pubkey) (first second : List Payment)
    : amountTo address (first ++ second) = amountTo address first + amountTo address second := by
  simp [amountTo]

/-- What payments did to the balances: each vault has lost what they took out of it, and each
token account has received what they brought it.
-/
structure PaidOut (payments : List Payment) (ledger after : RoundLedger) : Prop where
  moved : ∀ mint, after.balance mint + amountIn mint payments = ledger.balance mint
  credited : ∀ address,
    after.walletAmount address = ledger.walletAmount address + amountTo address payments

theorem PaidOut.refl (ledger : RoundLedger) : PaidOut [] ledger ledger :=
  ⟨fun _ => rfl, fun _ => rfl⟩

theorem PaidOut.append {first second : List Payment} {ledger next after : RoundLedger}
    (earlier : PaidOut first ledger next) (later : PaidOut second next after)
    : PaidOut (first ++ second) ledger after := by
  constructor
  · intro mint
    have here := earlier.moved mint
    have there := later.moved mint
    rw [amountIn_append]
    omega
  · intro address
    have here := earlier.credited address
    have there := later.credited address
    rw [amountTo_append]
    omega

/-- Transfers out of the vaults made these payments, and only vault and wallet balances
changed.
-/
structure Transferred (payments : List Payment) (ledger after : RoundLedger) : Prop where
  frame : after = { ledger with vaults := after.vaults, wallets := after.wallets }
  paid : PaidOut payments ledger after

/-- One transfer makes one payment. -/
theorem transferred_of_transfer {payment : Payment}
    (success : transferFromVault payment ledger = .ok after)
    : Transferred [payment] ledger after := by
  simp only [transferFromVault, bind_eq_ok, fetch_eq_ok, require_eq_ok, exists_const,
    pure_eq_ok] at success
  obtain ⟨balance, held, wallet, found, covered, rfl⟩ := success
  refine ⟨rfl, fun mint => ?_, fun address => ?_⟩
  · simp only [RoundLedger.balance, Store.lookup_insert_apply, amountIn_cons, amountIn_nil]
    by_cases same : mint = payment.mint
    · subst same
      simp only [if_true, held, Option.getD_some]
      omega
    · simp [same, Ne.symm same]
  · simp only [RoundLedger.walletAmount, Store.lookup_insert_apply, amountTo_cons, amountTo_nil]
    by_cases same : address = payment.destination
    · subst same
      simp [found]
    · simp [same, Ne.symm same]

/-- Accepted transfers make all payments, by induction on the list. -/
theorem transferred_of_transferAll {payments : List Payment}
    (success : transferAll payments ledger = .ok after)
    : Transferred payments ledger after := by
  induction payments generalizing ledger with
  | nil =>
      obtain rfl := pure_eq_ok.mp success
      exact ⟨rfl, .refl ledger⟩
  | cons payment rest ih =>
      obtain ⟨next, moved, later⟩ := bind_eq_ok.mp success
      have one := transferred_of_transfer moved
      have others := ih later
      refine ⟨?_, one.paid.append others.paid⟩
      rw [others.frame, one.frame]

/-- The ledger after its pot moved. -/
structure Settled (settling : Settling) (ledger after : RoundLedger) : Prop where
  frame : after = { ledger with
    settlement := some settling.settlement
    vaults := after.vaults
    wallets := after.wallets }
  paid : PaidOut settling.payments ledger after

/-- Settling makes the payments and stores the settlement. -/
theorem settled_of_settle {settling : Settling}
    (success : settle settling ledger = .ok after) : Settled settling ledger after := by
  obtain ⟨paid, moved, stored⟩ := bind_eq_ok.mp success
  obtain rfl := pure_eq_ok.mp stored
  have transferred := transferred_of_transferAll moved
  refine ⟨?_, transferred.paid.moved, transferred.paid.credited⟩
  rw [transferred.frame]

/-- The settlement an instruction works on: the stored one, or a fresh one. -/
def RoundLedger.currentSettlement (ledger : RoundLedger) : RoundSettlement :=
  ledger.settlement.getD { RoundSettlement.zeroed with roundId := ledger.round.roundId }

/-- Opening gives the current settlement, as long as a stored one carries the round's id. -/
theorem openSettlement_eq_ok {settlement : RoundSettlement}
    (numbered : 1 ≤ ledger.round.roundId)
    (carried : ∀ {stored}, ledger.settlement = some stored
      → stored.roundId = ledger.round.roundId)
    : openSettlement ledger = .ok settlement ↔ ledger.currentSettlement = settlement := by
  unfold openSettlement RoundLedger.currentSettlement
  cases known : ledger.settlement with
  | none => simp [RoundSettlement.zeroed, pure_eq_ok]
  | some stored =>
      have same := carried known
      have nonzero : stored.roundId ≠ 0 := by omega
      simp only [Option.getD_some]
      rw [if_neg nonzero]
      simp only [bind_eq_ok, require_eq_ok, exists_const, pure_eq_ok, same, true_and]

--------------------------------------------------------------------------------
-- Lifecycle
--------------------------------------------------------------------------------

/-- What an accepted entry found. -/
structure SubmitChecks (env : Env) (ledger : RoundLedger) (entryKey : Pubkey)
    (flower : FlowerRecord) : Prop where
  addressed : entryKey ≠ 0
  unused : ledger.entries.lookup entryKey = none
  owned : flower.owner = env.signer
  active : flower.status = .active
  opened : ledger.round.status = .opened
  capacity : ledger.round.participantCount < ledger.round.maxParticipants
  mint : env.config.sgdMint ≠ 0

/-- A new entry, unscored. -/
def newEntry (env : Env) (ledger : RoundLedger) (flowerKey : FlowerKey)
    (flower : FlowerRecord) : CompetitionEntry :=
  { round := ledger.round.key
    player := env.signer
    flowerRecord := flowerKey
    submittedAt := env.now
    status := .submitted
    encryptedScore := 0
    scoreNonce := 0
    scored := false
    scoreErrorCode := 0
    scoreQueued := false
    queuedAt := 0
    raritySnapshot := flower.rarity }

theorem submitEntry_success {entryKey playerSgdAta : Pubkey} {flowerKey : FlowerKey}
    {flower : FlowerRecord}
    (success : submitEntry env entryKey flowerKey flower playerSgdAta ledger = .ok after)
    : SubmitChecks env ledger entryKey flower
      ∧ after = { ledger with
          round := { ledger.round with
            participantCount := ledger.round.participantCount + 1 }
          entries := ledger.entries.insert entryKey (newEntry env ledger flowerKey flower)
          vaults := ledger.vaults.insert env.config.sgdMint
            (ledger.balance env.config.sgdMint + entryFeeSgd)
          wallets := after.wallets } := by
  simp only [submitEntry, requireUnpaused, bind_eq_ok, fetch_eq_ok, require_eq_ok,
    exists_const, pure_eq_ok, Option.isNone_iff_eq_none] at success
  obtain ⟨_, ⟨addressed, unused, _⟩, ata, _, _, _, balance, held, owned, active, opened, _,
    capacity, mint, _, rfl⟩ := success
  refine ⟨⟨addressed, unused, owned, active, opened, capacity, mint⟩, ?_⟩
  rw [RoundLedger.balance, held]
  rfl

theorem closeRound_success (success : closeRound env ledger = .ok after)
    : ledger.round.status = .opened
      ∧ after = { ledger with round := { ledger.round with status := .closed } } := by
  simp only [closeRound, requireOperator, bind_eq_ok, require_eq_ok, exists_const,
    pure_eq_ok] at success
  obtain ⟨_, opened, _, rfl⟩ := success
  exact ⟨opened, rfl⟩

theorem finalizeRound_success (success : finalizeRound env ledger = .ok after)
    : ledger.round.status = .closed
      ∧ after = { ledger with round := { ledger.round with status := .finalized } } := by
  simp only [finalizeRound, requireOperator, bind_eq_ok, require_eq_ok, exists_const,
    pure_eq_ok] at success
  obtain ⟨_, closed, rfl⟩ := success
  exact ⟨closed, rfl⟩

/-- An entry of the same round and player, whatever became of its score and status. -/
def SameEntry (entry later : CompetitionEntry) : Prop :=
  later.round = entry.round ∧ later.player = entry.player

--------------------------------------------------------------------------------
-- Scoring and releasing
--------------------------------------------------------------------------------

/-- An entry without a score, rewritten in the fields that follow a scoring attempt. -/
structure Attempted (ledger : RoundLedger) (entryKey : Pubkey)
    (entry later : CompetitionEntry) : Prop where
  found : ledger.entries.lookup entryKey = some entry
  unscored : entry.scored = false
  later : ∃ code queued queuedAt,
    later = { entry with
      scoreErrorCode := code
      scoreQueued := queued
      queuedAt := queuedAt }

/-- An entry with its score written. -/
def scoredEntry (entry : CompetitionEntry) (score nonce : Nat) : CompetitionEntry :=
  { entry with
    encryptedScore := score
    scoreNonce := nonce
    scored := true
    scoreQueued := false }

/-- What a queued scoring found. -/
structure ScoreQueueChecks (ledger : RoundLedger) (entryKey : Pubkey) (flowerKey : FlowerKey)
    (entry : CompetitionEntry) : Prop where
  found : ledger.entries.lookup entryKey = some entry
  own : entry.round = ledger.round.key
  flower : entry.flowerRecord = flowerKey
  unscored : entry.scored = false
  idle : entry.scoreQueued = false
  closed : ledger.round.status = .closed

theorem queueScoreEntry_checked {computationOffset : Nat} {entryKey : Pubkey}
    {flowerKey : FlowerKey}
    (success : queueScoreEntry env computationOffset entryKey flowerKey ledger = .ok after)
    : ∃ entry,
        ScoreQueueChecks ledger entryKey flowerKey entry
        ∧ after = { ledger with
            entries := ledger.entries.insert entryKey
              { entry with scoreQueued := true, queuedAt := env.now }
            scoreComputations :=
              ledger.scoreComputations.insert computationOffset entryKey } := by
  simp only [queueScoreEntry, requireUnpaused, requireOperator, bind_eq_ok, fetch_eq_ok,
    require_eq_ok, exists_const, pure_eq_ok] at success
  obtain ⟨_, entry, found, own, flower, unscored, idle, _, closed, _, rfl⟩ := success
  exact ⟨entry, ⟨found, own, flower, unscored, idle, closed⟩, rfl⟩

/-- What a delivered scoring did: nothing to an entry that is scored already. -/
inductive ScoreDelivered (ledger : RoundLedger) (entryKey : Pubkey) (entry : CompetitionEntry)
    : (output : Option (Nat × Nat)) → RoundLedger → Prop
  | ignored {output} (scored : entry.scored) : ScoreDelivered ledger entryKey entry output ledger
  | failed (unscored : entry.scored = false)
    : ScoreDelivered ledger entryKey entry none
        { ledger with
          entries := ledger.entries.insert entryKey
            { entry with scoreErrorCode := scoreErrorAborted, scoreQueued := false } }
  | succeeded {score nonce} (unscored : entry.scored = false)
    : ScoreDelivered ledger entryKey entry (some (score, nonce))
        { ledger with
          entries := ledger.entries.insert entryKey (scoredEntry entry score nonce)
          round := { ledger.round with
            scoredCount := min u16Max (ledger.round.scoredCount + 1) } }

theorem scoreEntryV2Callback_delivered {computationOffset : Nat} {output : Option (Nat × Nat)}
    (success : scoreEntryV2Callback computationOffset output ledger = .ok after)
    : ∃ entryKey entry,
        ledger.scoreComputations.lookup computationOffset = some entryKey
        ∧ ledger.entries.lookup entryKey = some entry
        ∧ entry.round = ledger.round.key
        ∧ ScoreDelivered ledger entryKey entry output after := by
  simp only [scoreEntryV2Callback, bind_eq_ok, fetch_eq_ok, require_eq_ok, exists_const]
    at success
  obtain ⟨entryKey, queued, entry, found, own, delivered⟩ := success
  refine ⟨entryKey, entry, queued, found, own, ?_⟩
  split at delivered
  · next scored =>
      obtain rfl := pure_eq_ok.mp delivered
      exact .ignored scored
  · next unscored =>
      have unscored := Bool.not_eq_true _ |>.mp unscored
      cases output with
      | none =>
          obtain rfl := pure_eq_ok.mp delivered
          exact .failed unscored
      | some answer =>
          obtain rfl := pure_eq_ok.mp delivered
          exact .succeeded unscored

theorem cancelStuckScore_attempted {entryKey : Pubkey}
    (success : cancelStuckScore env entryKey ledger = .ok after)
    : ∃ entry later,
        Attempted ledger entryKey entry later
        ∧ after = { ledger with entries := ledger.entries.insert entryKey later } := by
  simp only [cancelStuckScore, bind_eq_ok, fetch_eq_ok, require_eq_ok, exists_const,
    pure_eq_ok] at success
  obtain ⟨entry, found, unscored, _, _, rfl⟩ := success
  exact ⟨entry, _, ⟨found, unscored, _, _, _, rfl⟩, rfl⟩

/-- What a release found. -/
structure ReleaseChecks (ledger : RoundLedger) (entryKey : Pubkey) (flowerKey : FlowerKey)
    (entry : CompetitionEntry) : Prop where
  finalized : ledger.round.status = .finalized
  found : ledger.entries.lookup entryKey = some entry
  own : entry.round = ledger.round.key
  flower : entry.flowerRecord = flowerKey
  submitted : entry.status = .submitted

theorem releaseEntry_checked {entryKey : Pubkey} {flowerKey : FlowerKey}
    (success : releaseEntry env entryKey flowerKey ledger = .ok after)
    : ∃ entry,
        ReleaseChecks ledger entryKey flowerKey entry
        ∧ after = { ledger with
            entries := ledger.entries.insert entryKey { entry with status := .released } } := by
  simp only [releaseEntry, requireUnpaused, bind_eq_ok, fetch_eq_ok, require_eq_ok,
    exists_const, pure_eq_ok] at success
  obtain ⟨_, finalized, entry, found, own, flower, submitted, rfl⟩ := success
  exact ⟨entry, ⟨finalized, found, own, flower, submitted⟩, rfl⟩

end SecretGarden.Settlement
