import SecretGarden.Settlement.Pot

/-! One round and its pot as a state machine: every instruction that touches the round in any
order, and what anyone else may do around it. The journal keeps the fees and gifts that came
in and the payments and sweeps that went out. Only specifications read it.
-/

namespace SecretGarden.Settlement

open Foundation SecretGarden.Bracket

/-- What happens outside the round's own instructions: anyone creates or feeds a vault, token
accounts change hands, and other rounds are entered.
-/
inductive Outside where
  | createVault (mint : Pubkey)
  | donate (mint : Pubkey) (amount : Nat)
  | changeWallet (address : Pubkey) (wallet : TokenAccount)
  | closeWallet (address : Pubkey)
  | enterElsewhere (address : Pubkey) (entry : CompetitionEntry)

def Outside.happen (ledger : RoundLedger) : Outside → Outcome RoundLedger
  | .createVault mint => do
      require (ledger.vaults.lookup mint).isNone .accountInUse
      pure { ledger with vaults := ledger.vaults.insert mint 0 }
  | .donate mint amount => do
      let balance ← fetch (ledger.vaults.lookup mint) .accountNotInitialized
      pure { ledger with vaults := ledger.vaults.insert mint (balance + amount) }
  | .changeWallet address wallet =>
      pure { ledger with wallets := ledger.wallets.insert address wallet }
  | .closeWallet address => pure { ledger with wallets := ledger.wallets.erase address }
  | .enterElsewhere address entry => do
      require (address ≠ 0 ∧ (ledger.entries.lookup address).isNone) .accountInUse
      require (entry.round ≠ ledger.round.key) .accountInUse
      pure { ledger with entries := ledger.entries.insert address entry }

inductive RoundInstruction where
  | submitEntry (entryKey : Pubkey) (flowerKey : FlowerKey) (flower : FlowerRecord)
    (playerSgdAta : Pubkey)
  | closeRound
  | finalizeRound
  | queueScoreEntry (computationOffset : Nat) (entryKey : Pubkey) (flowerKey : FlowerKey)
  | scoreEntryV2Callback (computationOffset : Nat) (output : Option (Nat × Nat))
  | cancelStuckScore (entryKey : Pubkey)
  | releaseEntry (entryKey : Pubkey) (flowerKey : FlowerKey)
  | reveal (instruction : RevealInstruction)
  | distributePot (accounts : List Pubkey)
  | refundUnrevealedPot (accounts : List Pubkey)
  | closePotVault (surplusDestination : Pubkey)
  | outside (event : Outside)

/-- An instruction with the environment its transaction runs in. -/
structure RoundSubmission where
  env : Env
  instruction : RoundInstruction

def roundStep (ledger : RoundLedger) (submission : RoundSubmission) : Outcome RoundLedger :=
  match submission.instruction with
  | .submitEntry entryKey flowerKey flower playerSgdAta =>
      submitEntry submission.env entryKey flowerKey flower playerSgdAta ledger
  | .closeRound => closeRound submission.env ledger
  | .finalizeRound => finalizeRound submission.env ledger
  | .queueScoreEntry computationOffset entryKey flowerKey =>
      queueScoreEntry submission.env computationOffset entryKey flowerKey ledger
  | .scoreEntryV2Callback computationOffset output =>
      scoreEntryV2Callback computationOffset output ledger
  | .cancelStuckScore entryKey => cancelStuckScore submission.env entryKey ledger
  | .releaseEntry entryKey flowerKey =>
      releaseEntry submission.env entryKey flowerKey ledger
  | .reveal instruction => do
      let revealed ← revealStep ledger.toRevealLedger ⟨submission.env, instruction⟩
      pure { ledger with toRevealLedger := revealed }
  | .distributePot accounts => distributePot submission.env accounts ledger
  | .refundUnrevealedPot accounts => refundUnrevealedPot submission.env accounts ledger
  | .closePotVault surplusDestination =>
      closePotVault submission.env surplusDestination ledger
  | .outside event => event.happen ledger

/-- A round that was just opened: nobody has entered it and nothing has happened to its pot.
Other rounds may have entries, and anyone may have fed its vaults already.
-/
structure RoundLedger.Opened (ledger : RoundLedger) : Prop where
  unstarted : ledger.Unstarted
  round : ∃ roundId now targets, 1 ≤ roundId ∧ ledger.round = openedRound roundId now targets
  unentered : ∀ {address entry}, ledger.entries.lookup address = some entry
    → entry.round ≠ ledger.round.key
  scoreComputations : ledger.scoreComputations = ∅
  settlement : ledger.settlement = none

/-- What a refund's first batch found. -/
structure RefundTerms where
  mint : Pubkey
  balance : Nat
deriving DecidableEq

structure PotJournal where
  /-- Entry fees by the mint they were paid in. -/
  fees : Pubkey → Nat
  /-- What anyone else fed to each vault, before the round was opened and since. -/
  donated : Pubkey → Nat
  /-- The payments of each distribution. -/
  distributions : List (List Payment)
  refunds : List Payment
  terms : Option RefundTerms
  /-- What closing each vault swept out of it. -/
  swept : Pubkey → Nat

/-- Nothing has happened to the pot but for what was fed to its vaults in advance. -/
def PotJournal.blank (donated : Pubkey → Nat) : PotJournal :=
  { fees := fun _ => 0
    donated := donated
    distributions := []
    refunds := []
    terms := none
    swept := fun _ => 0 }

def PotJournal.distribute (journal : PotJournal) (payments : List Payment) : PotJournal :=
  { journal with distributions := journal.distributions ++ [payments] }

/-- The first refund fixes the terms, every refund adds its payments. -/
def PotJournal.refund (journal : PotJournal) (terms : RefundTerms) (payments : List Payment)
    : PotJournal :=
  { journal with
    refunds := journal.refunds ++ payments
    terms := some (journal.terms.getD terms) }

/-- The payments an accepted plan makes. -/
def plannedPayments (plan : Outcome Settling) : List Payment :=
  match plan with
  | .ok settling => settling.payments
  | .error _ => []

/-- What an accepted instruction adds to the journal. -/
def notePot (ledger : RoundLedger) (submission : RoundSubmission) (journal : PotJournal)
    : PotJournal :=
  let mint := submission.env.config.sgdMint
  match submission.instruction with
  | .submitEntry _ _ _ _ =>
      { journal with
        fees := Function.update journal.fees mint (journal.fees mint + entryFeeSgd) }
  | .distributePot accounts =>
      journal.distribute (plannedPayments (planDistribution submission.env accounts ledger))
  | .refundUnrevealedPot accounts =>
      journal.refund ⟨mint, (ledger.vaults.lookup mint).getD 0⟩
        (plannedPayments (planRefund submission.env accounts ledger))
  | .closePotVault _ =>
      { journal with
        swept := Function.update journal.swept mint (journal.swept mint + ledger.balance mint) }
  | .outside (.donate fed amount) =>
      { journal with donated := Function.update journal.donated fed (journal.donated fed + amount) }
  | _ => journal

/-- A round and its pot with their history. -/
abbrev JournaledRound : Type := Journaled RoundLedger PotJournal

def journaledRound : JournaledRound → RoundSubmission → Outcome JournaledRound :=
  journaled roundStep notePot

def RoundLedger.journaled (ledger : RoundLedger) : JournaledRound :=
  ⟨ledger, .blank ledger.balance⟩

/-- Everything paid to winners and entrants. -/
def PotJournal.payments (journal : PotJournal) : List Payment :=
  journal.distributions.flatten ++ journal.refunds

/-- How much of one mint was paid to winners and entrants. -/
def PotJournal.paid (journal : PotJournal) (mint : Pubkey) : Nat :=
  amountIn mint journal.payments

end SecretGarden.Settlement
