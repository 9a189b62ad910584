import SecretGarden.Settlement.Crowned
import SecretGarden.Settlement.Balances
import SecretGarden.Settlement.Exclusivity

/-! All rounds of a deployment under one configuration: rounds are opened one after the other,
and the authority may move the entry-fee mint between them.
-/

namespace SecretGarden.Season

open Foundation SecretGarden.Bracket SecretGarden.Settlement

structure Deployment where
  config : GameConfig
  rounds : Store RoundKey RoundLedger

/-- A mint account as a transaction presents it; none lives at the default address. -/
structure MintAccount where
  address : Pubkey
  decimals : Nat
deriving DecidableEq

/-- Pin the mint, once. -/
def setSgdMint (env : Env) (sgdMint : MintAccount) (deployment : Deployment)
    : Outcome Deployment := do
  require (env.signer = deployment.config.authority) .notAuthority
  require (sgdMint.address ≠ 0) .accountNotInitialized
  require (deployment.config.sgdMint = 0) .sgdMintAlreadySet
  require (sgdMint.decimals = sgdDecimals) .wrongSgdDecimals
  pure { deployment with config := { deployment.config with sgdMint := sgdMint.address } }

/-- The pot of the current round is settled, if anyone entered that round. -/
def requireDrained (ledger : RoundLedger) : Outcome Unit :=
  if 0 < ledger.round.participantCount then do
    let settlement ← fetch ledger.settlement .potNotDrained
    require (settlement.roundId = ledger.round.roundId) .potNotDrained
    require settlement.isTerminal .potNotDrained
  else pure ()

/-- Move to another mint once the current round is finalized and settled. -/
def updateSgdMint (env : Env) (newSgdMint : MintAccount) (deployment : Deployment)
    : Outcome Deployment := do
  require (env.signer = deployment.config.authority) .notAuthority
  let ledger ←
    fetch (deployment.rounds.lookup deployment.config.currentRound) .accountNotInitialized
  require (newSgdMint.address ≠ 0) .accountNotInitialized
  require (ledger.round.status = .finalized) .roundNotFinalized
  requireDrained ledger
  require (newSgdMint.decimals = sgdDecimals) .wrongSgdDecimals
  require (newSgdMint.address ≠ deployment.config.sgdMint) .sgdMintAlreadySet
  pure { deployment with config := { deployment.config with sgdMint := newSgdMint.address } }

/-- The accounts of a round that was just opened. Its vault is created unless anyone did so
before; entries of other rounds and token accounts join as outside events.
-/
def openedLedger (roundId : Nat) (now : Int) (targets : Vector Nat 4 × Nat) (mint : Pubkey)
    (funded : Store Pubkey Nat) : RoundLedger :=
  { round := openedRound roundId now targets
    entries := ∅
    bracket := none
    tier1 := none
    results := ∅
    computations := ∅
    scoreComputations := ∅
    settlement := none
    vaults := funded.insert mint ((funded.lookup mint).getD 0)
    wallets := ∅ }

/-- The round before must be the current one, and finalized. -/
def requirePreviousFinalized (previousRound : Option RoundKey) (deployment : Deployment)
    : Outcome Unit :=
  if 0 < deployment.config.currentRound then do
    let key ← fetch previousRound .previousRoundNotFinalized
    let previous ← fetch (deployment.rounds.lookup key) .accountNotInitialized
    require (previous.round.roundId = deployment.config.currentRound) .previousRoundNotFinalized
    require (previous.round.status = .finalized) .previousRoundNotFinalized
  else pure ()

def openRound (env : Env) (previousRound : Option RoundKey) (funded : Store Pubkey Nat)
    (deployment : Deployment) : Outcome Deployment := do
  requireUnpaused env
  let roundId := deployment.config.currentRound + 1
  require (deployment.rounds.lookup roundId).isNone .accountInUse
  requireOperator env
  require (deployment.config.sgdMint ≠ 0) .sgdMintNotSet
  requirePreviousFinalized previousRound deployment
  let targets := selectTargetTraits (roundEntropy env.slot env.now roundId)
    (deployment.config.effectiveMutantWeight env.now)
  pure
    { config := { deployment.config with currentRound := roundId }
      rounds := deployment.rounds.insert roundId
        (openedLedger roundId env.now targets deployment.config.sgdMint funded) }

inductive SeasonInstruction where
  | setSgdMint (sgdMint : MintAccount)
  | updateSgdMint (newSgdMint : MintAccount)
  /-- Any change of authority, pause switch, operators and weighting, by whoever may make it. -/
  | administer (authority : Pubkey) (paused : Bool) (operators : Vector Pubkey 3)
    (operatorCount : Nat) (mutantWeight : Nat) (restoreTs : Int)
  | openRound (previousRound : Option RoundKey) (funded : Store Pubkey Nat)
  /-- An instruction of one round, or an event outside it. -/
  | round (key : RoundKey) (instruction : RoundInstruction)

structure SeasonSubmission where
  signer : Pubkey
  slot : Nat
  now : Int
  instruction : SeasonInstruction

/-- Every transaction reads the configuration as it is. -/
def Deployment.env (deployment : Deployment) (submission : SeasonSubmission) : Env :=
  { signer := submission.signer
    config := deployment.config
    slot := submission.slot
    now := submission.now }

def seasonStep (deployment : Deployment) (submission : SeasonSubmission) : Outcome Deployment :=
  let env := deployment.env submission
  match submission.instruction with
  | .setSgdMint sgdMint => setSgdMint env sgdMint deployment
  | .updateSgdMint newSgdMint => updateSgdMint env newSgdMint deployment
  | .administer authority paused operators operatorCount mutantWeight restoreTs =>
      pure { deployment with config := { deployment.config with
        authority := authority
        paused := paused
        operators := operators
        operatorCount := operatorCount
        mutantWeight := mutantWeight
        restoreTs := restoreTs } }
  | .openRound previousRound funded => openRound env previousRound funded deployment
  | .round key instruction => do
      let ledger ← fetch (deployment.rounds.lookup key) .accountNotInitialized
      let after ← roundStep ledger ⟨env, instruction⟩
      pure { deployment with rounds := deployment.rounds.insert key after }

/-- A deployment whose configuration was just created. -/
structure Deployment.Fresh (deployment : Deployment) : Prop where
  currentRound : deployment.config.currentRound = 0
  sgdMint : deployment.config.sgdMint = 0
  rounds : deployment.rounds = ∅

/-- A deployment under authority 7. -/
def sampleDeployment : Deployment :=
  { config := { authorityEnv.config with currentRound := 0, sgdMint := 0 }
    rounds := ∅ }

theorem sampleDeployment_fresh : sampleDeployment.Fresh := ⟨rfl, rfl, rfl⟩

/-- One journal for each round; a round that opens has what was fed to its vaults before. -/
def noteSeason (deployment : Deployment) (submission : SeasonSubmission)
    (journal : RoundKey → PotJournal) : RoundKey → PotJournal :=
  match submission.instruction with
  | .openRound _ funded =>
      Function.update journal (deployment.config.currentRound + 1)
        (.blank fun mint => (funded.lookup mint).getD 0)
  | .round key instruction =>
      match deployment.rounds.lookup key with
      | some ledger =>
          Function.update journal key
            (notePot ledger ⟨deployment.env submission, instruction⟩ (journal key))
      | none => journal
  | _ => journal

/-- A season with the history of every round. -/
abbrev JournaledSeason : Type := Journaled Deployment (RoundKey → PotJournal)

def journaledSeason : JournaledSeason → SeasonSubmission → Outcome JournaledSeason :=
  journaled seasonStep noteSeason

def Deployment.journaled (deployment : Deployment) : JournaledSeason :=
  ⟨deployment, fun _ => .blank fun _ => 0⟩

end SecretGarden.Season
