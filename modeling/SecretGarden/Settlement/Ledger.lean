import SecretGarden.Bracket.Machine

/-! The accounts of one round together with its pot, and what the instructions that move the
pot share: checked arithmetic, the settlement account and the transfers out of a vault.
-/

namespace SecretGarden.Settlement

open Foundation SecretGarden.Bracket

/-- The accounts of one round. Its pot authority owns one vault for each mint, at the
associated address; the wallets are all other token accounts.
-/
structure RoundLedger extends RevealLedger where
  /-- The entry whose score each computation that was ever queued reports. -/
  scoreComputations : Store Nat Pubkey
  settlement : Option RoundSettlement
  /-- The balance of each vault. -/
  vaults : Store Pubkey Nat
  wallets : Store Pubkey TokenAccount

def checkedAdd (a b : Nat) : Outcome Nat := do
  require (a + b < u64Modulus) .potMathOverflow
  pure (a + b)

def checkedSub (a b : Nat) : Outcome Nat := do
  require (b ≤ a) .potMathOverflow
  pure (a - b)

def checkedMul (a b : Nat) : Outcome Nat := do
  require (a * b < u64Modulus) .potMathOverflow
  pure (a * b)

def checkedDiv (a b : Nat) : Outcome Nat := do
  require (b ≠ 0) .potMathOverflow
  pure (a / b)

/-- Add the amounts one after the other. -/
def checkedTotal : (total : Nat) → (amounts : List Nat) → Outcome Nat
  | total, [] => pure total
  | total, amount :: rest => do
      let next ← checkedAdd total amount
      checkedTotal next rest

/-- The settlement account, created on first use: an account no instruction has written yet
is told apart by its zero round id.
-/
def openSettlement (ledger : RoundLedger) : Outcome RoundSettlement := do
  let settlement := ledger.settlement.getD RoundSettlement.zeroed
  if settlement.roundId = 0 then
    pure { settlement with roundId := ledger.round.roundId, state := .none }
  else do
    require (settlement.roundId = ledger.round.roundId) .entryWrongRound
    pure settlement

/-- A transfer out of a vault, made for an entry into a token account. -/
structure Payment where
  entry : Pubkey
  destination : Pubkey
  owner : Pubkey
  mint : Pubkey
  amount : Nat
deriving DecidableEq

/-- How much of one mint a list of payments moves. -/
def amountIn (mint : Pubkey) (payments : List Payment) : Nat :=
  ((payments.filter (·.mint = mint)).map Payment.amount).sum

/-- How much a list of payments brings to one token account. -/
def amountTo (address : Pubkey) (payments : List Payment) : Nat :=
  ((payments.filter (·.destination = address)).map Payment.amount).sum

/-- What a vault holds; one that does not exist holds nothing. -/
def RoundLedger.balance (ledger : RoundLedger) (mint : Pubkey) : Nat :=
  (ledger.vaults.lookup mint).getD 0

/-- What a token account holds; one that does not exist holds nothing. -/
def RoundLedger.walletAmount (ledger : RoundLedger) (address : Pubkey) : Nat :=
  ((ledger.wallets.lookup address).map TokenAccount.amount).getD 0

/-- The token program moves exactly the amount, or nothing when the vault holds less. -/
def transferFromVault (payment : Payment) (ledger : RoundLedger) : Outcome RoundLedger := do
  let balance ← fetch (ledger.vaults.lookup payment.mint) .accountNotInitialized
  let wallet ← fetch (ledger.wallets.lookup payment.destination) .accountNotInitialized
  require (payment.amount ≤ balance) .insufficientFunds
  pure { ledger with
    vaults := ledger.vaults.insert payment.mint (balance - payment.amount)
    wallets := ledger.wallets.insert payment.destination
      { wallet with amount := wallet.amount + payment.amount } }

def transferAll : (payments : List Payment) → (ledger : RoundLedger) → Outcome RoundLedger
  | [], ledger => pure ledger
  | payment :: rest, ledger => do
      let next ← transferFromVault payment ledger
      transferAll rest next

/-- What an instruction that moves the pot decides once its checks have passed. -/
structure Settling where
  settlement : RoundSettlement
  payments : List Payment

/-- Make the transfers and store the settlement. Nothing a check reads changes by a
transfer, so the checks of a whole batch come first.
-/
def settle (settling : Settling) (ledger : RoundLedger) : Outcome RoundLedger := do
  let paid ← transferAll settling.payments ledger
  pure { paid with settlement := some settling.settlement }

end SecretGarden.Settlement
