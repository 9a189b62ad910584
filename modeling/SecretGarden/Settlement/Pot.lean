import SecretGarden.Settlement.Lifecycle

/-! Where a pot goes: to the revealed winners, back to the entrants of an unrevealed round, or,
once nobody is owed any of it, to the authority.
-/

namespace SecretGarden.Settlement

open Foundation SecretGarden.Bracket

variable (env : Env)

/-- A pot is distributed only while nothing has happened to it. -/
def requireUnsettled (settlement : RoundSettlement) : Outcome Unit :=
  match settlement.state with
  | .none => pure ()
  | .potPaid => .error .potAlreadyDistributed
  | .potRefunded => .error .potAlreadyRefunded
  | .potRefundPending => .error .potAlreadyRefunded

/-- The loop over the winners, who come with one entry and one token account each: the entry
is the one revealed for this rank, and its player owns the token account.
-/
def winnerPayments (ledger : RoundLedger) (mint share last : Nat)
    : (winners accounts : List Pubkey) → Outcome (List Payment)
  | [], _ => pure []
  | winner :: rest, entryKey :: destination :: accounts => do
      require (entryKey = winner) .entryMismatch
      let entry ← fetch (ledger.entries.lookup entryKey) .accountNotInitialized
      let ata ← fetch (ledger.wallets.lookup destination) .accountNotInitialized
      require (ata.owner = entry.player) .wrongSgdMint
      require (ata.mint = mint) .wrongSgdMint
      let later ← winnerPayments ledger mint share last rest accounts
      pure
        ({ entry := entryKey
           destination := destination
           owner := ata.owner
           mint := mint
           amount := if rest.isEmpty then last else share } :: later)
  | _ :: _, _ => .error .arrayIndex

/-- The revealed winners; a place nobody took holds the default address. -/
def potWinners (round : CompetitionRound) : List Pubkey :=
  round.tops.filter (· ≠ 0)

def planDistribution (accounts : List Pubkey) (ledger : RoundLedger) : Outcome Settling := do
  let mint := env.config.sgdMint
  let pot ← fetch (ledger.vaults.lookup mint) .accountNotInitialized
  requireOperator env
  require (mint ≠ 0) .sgdMintNotSet
  let settlement ← openSettlement ledger
  requireUnsettled settlement
  require (ledger.round.status = .finalized) .roundNotFinalized
  require ledger.round.scoringRevealed .roundNotRevealed
  let winners := potWinners ledger.round
  let k := winners.length
  if k = 0 ∨ pot = 0 then
    pure
      { settlement := { settlement with
          state := .potPaid
          totalSettled := 0
          recipientCount := 0
          settledAt := env.now }
        payments := [] }
  else do
    require (k ≤ pot) .potTooSmall
    let share ← checkedDiv pot k
    let paidBeforeLast ← checkedMul share (k - 1)
    let last ← checkedSub pot paidBeforeLast
    require (accounts.length = k * 2) .wrongEntryCount
    let payments ← winnerPayments ledger mint share last winners accounts
    let totalPaid ← checkedTotal 0 (payments.map Payment.amount)
    require (totalPaid = pot) .potMathOverflow
    pure
      { settlement := { settlement with
          state := .potPaid
          totalSettled := totalPaid
          recipientCount := k
          settledAt := env.now }
        payments := payments }

def distributePot (accounts : List Pubkey) (ledger : RoundLedger) : Outcome RoundLedger := do
  let settling ← planDistribution env accounts ledger
  settle settling ledger

/-- A round is refunded once it has failed: finalized, unrevealed, and long past its end. -/
def refundEligibility (ledger : RoundLedger) : Outcome Unit := do
  let round := ledger.round
  require (round.status = .finalized) .roundNotFinalized
  require (round.scoringRevealed = false) .roundAlreadyRevealed
  require (round.endTime + potRefundMinAgeSeconds < i64Bound) .potMathOverflow
  require (round.endTime + potRefundMinAgeSeconds ≤ env.now) .refundTooEarly
  require (env.config.sgdMint ≠ 0) .sgdMintNotSet

/-- A refund starts on an untouched pot and resumes a started refund. -/
def requireRefundable (settlement : RoundSettlement) : Outcome Unit :=
  match settlement.state with
  | .none => pure ()
  | .potRefundPending => pure ()
  | .potPaid => .error .potAlreadyDistributed
  | .potRefunded => .error .potAlreadyRefunded

/-- The first batch fixes what every entrant gets: the fee, or an equal part of a vault that
holds less.
-/
def freezeTerms (entrantCount totalPot : Nat) (settlement : RoundSettlement)
    : Outcome RoundSettlement := do
  let affordable ← if entrantCount = 0 then pure 0 else checkedDiv totalPot entrantCount
  let perEntrant := min entryFeeSgd affordable
  let owed ← checkedMul perEntrant entrantCount
  let surplus ← checkedSub totalPot owed
  pure { settlement with
    state := .potRefundPending
    entrantCount := entrantCount
    recipientCount := 0
    totalPot := totalPot
    totalSettled := 0
    cursor := 0
    startedAt := env.now
    settledAt := 0
    perEntrant := perEntrant
    surplus := surplus }

/-- The loop over a batch of entries with one token account each: entries of this round, in
strictly ascending order above the cursor, each account owned by the entry's player.
-/
def refundPayments (ledger : RoundLedger) (mint perEntrant : Nat)
    : (cursor : Pubkey) → (vaultRemaining : Nat) → (accounts : List Pubkey)
      → Outcome (List Payment)
  | _, _, [] => pure []
  | cursor, vaultRemaining, entryKey :: destination :: accounts => do
      require (cursor < entryKey) .refundOrderInvalid
      let entry ← fetch (ledger.entries.lookup entryKey) .accountNotInitialized
      require (entry.round = ledger.round.key) .entryWrongRound
      let ata ← fetch (ledger.wallets.lookup destination) .accountNotInitialized
      require (ata.owner = entry.player) .wrongWinnerAccount
      require (ata.mint = mint) .wrongSgdMint
      require (perEntrant ≤ vaultRemaining) .potTooSmall
      let later ← refundPayments ledger mint perEntrant entryKey (vaultRemaining - perEntrant)
        accounts
      pure
        ({ entry := entryKey
           destination := destination
           owner := ata.owner
           mint := mint
           amount := perEntrant } :: later)
  | _, _, [_] => .error .arrayIndex

/-- Pay one batch under fixed terms; the one that reaches every entrant ends the refund. -/
def payBatch (accounts : List Pubkey) (vault : Nat) (ledger : RoundLedger)
    (terms : RoundSettlement) : Outcome Settling := do
  require (accounts.length % 2 = 0) .wrongEntryCount
  let batch := accounts.length / 2
  require (0 < batch) .wrongEntryCount
  let remainingEntrants ← checkedSub terms.entrantCount terms.recipientCount
  require (batch ≤ remainingEntrants) .refundBatchTooLong
  let payments ← refundPayments ledger env.config.sgdMint terms.perEntrant terms.cursor vault
    accounts
  let totalSettled ← checkedTotal terms.totalSettled (payments.map Payment.amount)
  let paid := { terms with
    totalSettled := totalSettled
    recipientCount := terms.recipientCount + batch
    cursor := (payments.map Payment.entry).getLast?.getD terms.cursor }
  if paid.recipientCount = paid.entrantCount then do
    let owed ← checkedMul paid.perEntrant paid.entrantCount
    require (paid.totalSettled = owed) .potMathOverflow
    pure
      { settlement := { paid with state := .potRefunded, settledAt := env.now }
        payments := payments }
  else
    pure { settlement := paid, payments := payments }

def planRefund (accounts : List Pubkey) (ledger : RoundLedger) : Outcome Settling := do
  require (env.signer = env.config.authority) .notAuthority
  let vault ← fetch (ledger.vaults.lookup env.config.sgdMint) .accountNotInitialized
  refundEligibility env ledger
  let settlement ← openSettlement ledger
  requireRefundable settlement
  if settlement.state = .none then do
    let terms ← freezeTerms env ledger.round.participantCount vault settlement
    -- a round nobody entered, or an empty vault: over at once
    if terms.entrantCount = 0 ∨ terms.perEntrant = 0 then
      pure
        { settlement := { terms with state := .potRefunded, settledAt := env.now }
          payments := [] }
    else payBatch env accounts vault ledger terms
  else payBatch env accounts vault ledger settlement

def refundUnrevealedPot (accounts : List Pubkey) (ledger : RoundLedger)
    : Outcome RoundLedger := do
  let settling ← planRefund env accounts ledger
  settle settling ledger

/-- A vault is closable once its round is settled; a round without a settlement account only
when it is finalized and nobody entered it.
-/
def requireClosable (ledger : RoundLedger) : Outcome Unit :=
  match ledger.settlement with
  | none => do
      require (ledger.round.status = .finalized) .potNotSettled
      require (ledger.round.participantCount = 0) .roundHadEntrants
  | some settlement => do
      require (settlement.roundId = ledger.round.roundId) .potNotSettled
      require settlement.isTerminal
        (if settlement.state = .potRefundPending then .refundIncomplete else .potNotSettled)

/-- Sweep what is left to the authority's token account and close the vault. -/
def closePotVault (surplusDestination : Pubkey) (ledger : RoundLedger)
    : Outcome RoundLedger := do
  let mint := env.config.sgdMint
  let leftover ← fetch (ledger.vaults.lookup mint) .accountNotInitialized
  let destination ← fetch (ledger.wallets.lookup surplusDestination) .accountNotInitialized
  require (destination.owner = env.config.authority) .wrongWinnerAccount
  require (destination.mint = mint) .wrongSgdMint
  requireOperator env
  requireClosable ledger
  pure { ledger with
    vaults := ledger.vaults.erase mint
    wallets := ledger.wallets.insert surplusDestination
      { destination with amount := destination.amount + leftover } }

end SecretGarden.Settlement
