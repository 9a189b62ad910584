import SecretGarden.AutoCycle.Driver
import SecretGarden.AutoCycle.ScoreState
import SecretGarden.Season.Lifecycle

/-! The daily cycle: settle what earlier rounds are owed, close the current round, score its
entries, reveal and finalize it, pay its pot, close the vaults that are settled, and open the
next round. Every stage decides from the accounts it reads, so a run goes on where an earlier one
stopped.
-/

namespace SecretGarden.AutoCycle

open Foundation SecretGarden.Bracket SecretGarden.Settlement SecretGarden.Season

/-- Earlier rounds have no settlement account, paid or not. -/
def potLedgerFirstRound : Nat := 73

/-- How long one scoring may take to finalize. -/
def scoreFinalizeTimeoutSeconds : Nat := 360

/-- How often the entry is read once that is over, a second apart. -/
def scorePolls : Nat := 120

/-- Attempts per entry before the cycle gives up on it. -/
def scoreAttempts : Nat := 3

--------------------------------------------------------------------------------
-- Decisions
--------------------------------------------------------------------------------

inductive CloseAction where
  | close
  | notOpen
  | tooEarly (remainingSeconds : Int)
deriving DecidableEq

/-- Whether the round may be closed, from its status and its scheduled end. -/
def closeRoundAction (round : CompetitionRound) (nowSecs : Int) : CloseAction :=
  if round.status ≠ .opened then .notOpen
  else
    let remaining := round.endTime - nowSecs
    if 0 < remaining then .tooEarly remaining else .close

inductive StuckScoreAction where
  | scored
  | notQueued
  | wait (seconds : Int)
  | cancel
deriving DecidableEq

/-- The next step for a scoring that may hang; the cushion covers clocks that disagree. -/
def stuckScoreAction (entry : CompetitionEntry) (nowSecs : Int) : StuckScoreAction :=
  if entry.scored then .scored
  else if entry.scoreQueued = false then .notQueued
  else
    let age := nowSecs - entry.queuedAt
    if scoreTimeoutSeconds ≤ age then .cancel else .wait (scoreTimeoutSeconds - age + 3)

/-- What became of one entry's scoring. -/
inductive ScoreOutcome where
  | scored
  | aborted (errorCode : Nat) (attempt : Nat)
  | noCallback (attempts : Nat)
deriving DecidableEq

/-- The settlement's state, as every check of the script reads it. -/
def settlementStateOf (settlement : Option RoundSettlement) : SettlementState :=
  (settlement.map RoundSettlement.state).getD .none

/-- Something may still be owed in a round that was finalized before the run. -/
def warnFinalizedOutsideCycle (participantCount : Nat) (settlementState : SettlementState)
    : Bool :=
  decide (0 < participantCount) && settlementState != .potPaid && settlementState != .potRefunded

/-- Whether `close_pot_vault` will accept a vault, from the accounts as they are surveyed. -/
inductive VaultSurvey where
  | skipped
  | closable
  | stranded
deriving DecidableEq

def classifyPotVault (mint : Pubkey) (ledger : RoundLedger) : VaultSurvey :=
  if (ledger.vaults.lookup mint).isNone then .skipped
  else
    let state := settlementStateOf ledger.settlement
    if state = .potPaid ∨ state = .potRefunded then .closable
    else if ledger.settlement.isNone
      ∧ ledger.round.status = .finalized
      ∧ ledger.round.participantCount = 0 then .closable
    else .stranded

--------------------------------------------------------------------------------
-- What the cycle acts on
--------------------------------------------------------------------------------

inductive CycleFailure where
  | unauthorized
  | accountMissing
  | rejected (error : SecretGardenError)
  | mintUnset
  | scoringIncomplete (scored participants : Nat)
  | entriesMissing (found participants : Nat)
  | unrevealable (failure : DriverFailure)
  | neverRevealed
  /-- A wait for the cancel window went on for longer than it can. -/
  | stillWaiting
deriving DecidableEq

/-- The chain, and the time on the script's own clock. -/
structure CycleWorld where
  deployment : Deployment
  now : Int

/-- What the script works with: its key, the validators' clock and slot by its own clock, the
addresses of token accounts, the order in which a round's entries are listed, fresh offsets for
computations, and the callbacks that land while it waits.
-/
structure CycleDeps where
  signer : Pubkey
  chainTime : Int → Int
  slotAt : Int → Nat
  ataFor : (owner mint : Pubkey) → Pubkey
  listing : RoundLedger → List Pubkey
  listing_perm : ∀ ledger, (listing ledger).Perm ledger.roundEntries
  scoreOffset : (entryKey : Pubkey) → (attempt : Nat) → Nat
  scoreArrivals : CycleWorld → List (Nat × Option (Nat × Nat))
  /-- How long a scoring takes to finalize. -/
  finalizeSeconds : CycleWorld → Nat
  revealOffset : ResultAddress → Nat
  revealEarly : RevealLedger → List Nat
  revealLate : RevealLedger → List Nat
  /-- What anyone put into the vaults of a round that is yet to open. -/
  funded : RoundKey → Store Pubkey Nat

section Script

variable (deps : CycleDeps)

/-- A transaction of the script at a time of its clock. -/
def CycleDeps.submission (now : Int) (instruction : SeasonInstruction) : SeasonSubmission :=
  { signer := deps.signer
    slot := deps.slotAt now
    now := deps.chainTime now
    instruction := instruction }

def send (instruction : SeasonInstruction) (world : CycleWorld)
    : Except CycleFailure CycleWorld :=
  match seasonStep world.deployment (deps.submission world.now instruction) with
  | .ok after => .ok { world with deployment := after }
  | .error error => .error (.rejected error)

/-- What happens to a round beside the script; where it is rejected nothing does. -/
def happen (key : RoundKey) (instruction : RoundInstruction) (world : CycleWorld) : CycleWorld :=
  { world with
    deployment :=
      processed seasonStep world.deployment (deps.submission world.now (.round key instruction)) }

/-- Wait. Callbacks of the round's scorings land meanwhile. -/
def sleep (key : RoundKey) (seconds : Int) (world : CycleWorld) : CycleWorld :=
  let landed := (deps.scoreArrivals world).foldl
    (fun before arrival => happen deps key (.scoreEntryV2Callback arrival.1 arrival.2) before) world
  { landed with now := landed.now + seconds }

def roundAt (key : RoundKey) (world : CycleWorld) : Except CycleFailure RoundLedger :=
  fetch (world.deployment.rounds.lookup key) .accountMissing

def entryAt (key : RoundKey) (entryKey : Pubkey) (world : CycleWorld)
    : Except CycleFailure CompetitionEntry := do
  let ledger ← roundAt key world
  fetch (ledger.entries.lookup entryKey) .accountMissing

/-- The entries of a round as they are listed. -/
def entriesForRound (ledger : RoundLedger) : List (Pubkey × CompetitionEntry) :=
  (deps.listing ledger).filterMap fun entryKey =>
    (ledger.entries.lookup entryKey).map fun entry => (entryKey, entry)

--------------------------------------------------------------------------------
-- Scoring
--------------------------------------------------------------------------------

/-- Clear a scoring that hangs, once the program allows it. The entry is read again after every
wait, so a callback that lands meanwhile wins; the turns bound the loop.
-/
def recoverStuckScore (key : RoundKey) (entryKey : Pubkey)
    : (turns : Nat) → CycleWorld → Except CycleFailure (Bool × CycleWorld)
  | 0, _ => .error .stillWaiting
  | turns + 1, world => do
      let entry ← entryAt key entryKey world
      match stuckScoreAction entry world.now with
      | .scored => pure (false, world)
      | .notQueued => pure (false, world)
      | .wait seconds => recoverStuckScore key entryKey turns (sleep deps key seconds world)
      | .cancel => do
          let cleared ← send deps (.round key (.cancelStuckScore entryKey)) world
          pure (true, cleared)

/-- A wait ends once the cancel window is open, so the loop takes two turns at most. -/
def recoveryTurns : Nat := 2

/-- Read the entry until its scoring has ended, as often as it is worth it. -/
def pollScore (key : RoundKey) (entryKey : Pubkey) (attempt : Nat)
    : (polls : Nat) → CycleWorld → Except CycleFailure (Option ScoreOutcome × CycleWorld)
  | 0, world => pure (none, world)
  | polls + 1, world => do
      let entry ← entryAt key entryKey world
      match classifyScoreState entry with
      | .scored => pure (some .scored, world)
      | .aborted => pure (some (.aborted entry.scoreErrorCode attempt), world)
      | _ => pollScore key entryKey attempt polls (sleep deps key 1 world)

/-- Score one entry with the attempts that are left; each begins by clearing what an earlier
attempt or an earlier run left in flight.
-/
def scoreWithin (key : RoundKey) (entryKey : Pubkey) (flowerRecord : FlowerKey)
    : (left : Nat) → CycleWorld → Except CycleFailure (ScoreOutcome × CycleWorld)
  | 0, world => pure (.noCallback scoreAttempts, world)
  | left + 1, world => do
      let attempt := scoreAttempts - left
      let (_, recovered) ← recoverStuckScore deps key entryKey recoveryTurns world
      let entry ← entryAt key entryKey recovered
      if entry.scored then pure (.scored, recovered)
      else do
        let queued ← send deps
          (.round key (.queueScoreEntry (deps.scoreOffset entryKey attempt) entryKey flowerRecord))
          recovered
        let finalized := sleep deps key
          (min (deps.finalizeSeconds queued) scoreFinalizeTimeoutSeconds : Nat) queued
        let (outcome, polled) ← pollScore deps key entryKey attempt scorePolls finalized
        match outcome with
        | some outcome => pure (outcome, polled)
        | none => scoreWithin key entryKey flowerRecord left polled

def scoreEntryWithRecovery (key : RoundKey) (entryKey : Pubkey) (flowerRecord : FlowerKey)
    (world : CycleWorld) : Except CycleFailure (ScoreOutcome × CycleWorld) :=
  scoreWithin deps key entryKey flowerRecord scoreAttempts world

/-- Score the listed entries one after the other; a failure is recorded, not thrown. -/
def scoreEntries (key : RoundKey)
    : (unscored : List (Pubkey × CompetitionEntry)) → CycleWorld
      → Except CycleFailure (List ScoreOutcome × CycleWorld)
  | [], world => pure ([], world)
  | (entryKey, entry) :: rest, world => do
      let (outcome, scored) ← scoreEntryWithRecovery deps key entryKey entry.flowerRecord world
      let (outcomes, after) ← scoreEntries key rest scored
      pure (outcome :: outcomes, after)

--------------------------------------------------------------------------------
-- Payouts and vaults
--------------------------------------------------------------------------------

structure WinnerWallet where
  rank : Nat
  wallet : Pubkey
  entry : Pubkey
deriving DecidableEq

/-- The player behind a revealed winner; a place nobody took has none. -/
def winnerAt (ledger : RoundLedger) (winner : Pubkey) (place : Nat) : Option WinnerWallet :=
  if winner = 0 then none
  else ((entriesForRound deps ledger).lookup winner).map fun entry =>
    { rank := place + 1, wallet := entry.player, entry := winner }

/-- The players behind the revealed winners. -/
def resolveWinnerWallets (ledger : RoundLedger) : List WinnerWallet :=
  ledger.round.tops.zipIdx.filterMap fun ranked => winnerAt deps ledger ranked.1 ranked.2

/-- Create the token account of an owner where there is none. -/
def ensureAta (key : RoundKey) (mint owner : Pubkey) (world : CycleWorld) : CycleWorld :=
  let ata := deps.ataFor owner mint
  if ((world.deployment.rounds.lookup key).any fun ledger => (ledger.wallets.lookup ata).isSome)
  then world
  else happen deps key (.outside (.changeWallet ata ⟨owner, mint, 0⟩)) world

def ensureAtas (key : RoundKey) (mint : Pubkey) (owners : List Pubkey) (world : CycleWorld)
    : CycleWorld :=
  owners.foldl (fun before owner => ensureAta deps key mint owner before) world

/-- How a distribution ended: what it paid, or why it failed. -/
structure PotResult where
  paidSgd : Nat
  error : Option CycleFailure
deriving DecidableEq

/-- The accounts of a distribution: each winner's entry and token account. -/
def winnerAccounts (mint : Pubkey) (winners : List WinnerWallet) : List Pubkey :=
  winners.flatMap fun winner => [winner.entry, deps.ataFor winner.wallet mint]

/-- Pay a round's pot to its winners. An empty pot is left alone; a failure is reported, and the
accounts created for it stay.
-/
def distributeSgdPot (key : RoundKey) (winners : List WinnerWallet) (world : CycleWorld)
    : PotResult × CycleWorld :=
  let mint := world.deployment.config.sgdMint
  let pot := ((world.deployment.rounds.lookup key).map fun ledger => ledger.balance mint).getD 0
  if pot = 0 then (⟨0, none⟩, world)
  else
    let ensured := ensureAtas deps key mint (winners.map WinnerWallet.wallet) world
    match send deps (.round key (.distributePot (winnerAccounts deps mint winners))) ensured with
    | .ok paid => (⟨pot, none⟩, paid)
    | .error failure => (⟨0, some failure⟩, ensured)

/-- The rounds that had no settlement when they were surveyed. -/
def owingRounds (current : RoundKey) (deployment : Deployment) : List RoundKey :=
  (List.range' potLedgerFirstRound (current + 1 - potLedgerFirstRound)).filter fun key =>
    ((deployment.rounds.lookup key).bind RoundLedger.settlement).isNone

/-- Pay one round of the backlog, if it is over and has winners. -/
def settleOwing (key : RoundKey) (world : CycleWorld)
    : Option (RoundKey × PotResult) × CycleWorld :=
  match world.deployment.rounds.lookup key with
  | none => (none, world)
  | some ledger =>
      let winners := resolveWinnerWallets deps ledger
      if ledger.round.status ≠ .finalized ∨ ledger.round.scoringRevealed = false ∨ winners = []
      then (none, world)
      else
        let (result, after) := distributeSgdPot deps key winners world
        (some (key, result), after)

def settleRounds : (keys : List RoundKey) → CycleWorld
    → List (RoundKey × PotResult) × CycleWorld
  | [], world => ([], world)
  | key :: rest, world =>
      let (paid, next) := settleOwing deps key world
      let (later, after) := settleRounds rest next
      (paid.toList ++ later, after)

/-- Settle every finalized round that still owes its winners. -/
def settleBacklog (current : RoundKey) (world : CycleWorld)
    : List (RoundKey × PotResult) × CycleWorld :=
  settleRounds deps (owingRounds current world.deployment) world

/-- The rounds whose vault was surveyed to be of this kind. -/
def surveyVaults (current : RoundKey) (deployment : Deployment) (survey : VaultSurvey)
    : List RoundKey :=
  (List.range' 1 current).filter fun key =>
    (deployment.rounds.lookup key).any fun ledger =>
      classifyPotVault deployment.config.sgdMint ledger == survey

/-- Close one vault; a rejection leaves it for the next run. The authority's token account, where
the rest of the vault goes, is created as this round sees it.
-/
def reclaimVault (key : RoundKey) (world : CycleWorld) : Bool × CycleWorld :=
  let config := world.deployment.config
  let ensured := ensureAtas deps key config.sgdMint [config.authority] world
  match send deps (.round key (.closePotVault (deps.ataFor config.authority config.sgdMint)))
      ensured with
  | .ok closed => (true, closed)
  | .error _ => (false, ensured)

def reclaimVaults : (keys : List RoundKey) → CycleWorld → List RoundKey × CycleWorld
  | [], world => ([], world)
  | key :: rest, world =>
      let (closed, next) := reclaimVault deps key world
      let (later, after) := reclaimVaults rest next
      (if closed then key :: later else later, after)

--------------------------------------------------------------------------------
-- Stages
--------------------------------------------------------------------------------

inductive PrizeSkip where
  | neverRevealed
  | noWinners
deriving DecidableEq

/-- What a run did, in the fields its log prints. -/
structure CycleSummary where
  processedRound : Option RoundKey
  entryCount : Option Nat
  /-- Set only by the run that closed the round. -/
  closedRound : Option RoundKey
  scoredCount : Nat
  scoredThisRun : Nat
  top3 : List Pubkey
  revealedPreviously : Bool
  potAlreadySettled : Bool
  potPaidSgd : Nat
  potError : Option CycleFailure
  prizeSkipReason : Option PrizeSkip
  backlogPaid : List (RoundKey × PotResult)
  vaultsClosed : Nat
  vaultsStranded : Nat
  externallyFinalized : Bool
  /-- Set only by the run that finalized the round. -/
  finalizedRound : Option RoundKey
  openedRound : Option RoundKey

def CycleSummary.blank : CycleSummary :=
  { processedRound := none
    entryCount := none
    closedRound := none
    scoredCount := 0
    scoredThisRun := 0
    top3 := []
    revealedPreviously := false
    potAlreadySettled := false
    potPaidSgd := 0
    potError := none
    prizeSkipReason := none
    backlogPaid := []
    vaultsClosed := 0
    vaultsStranded := 0
    externallyFinalized := false
    finalizedRound := none
    openedRound := none }

/-- A run under way: what it did so far, and the world it did it to. -/
structure CycleRun where
  summary : CycleSummary
  world : CycleWorld

/-- A run that did all its work; a flagged one is reported as failed all the same. -/
structure CycleEnd extends CycleRun where
  flagged : Bool

/-- Close the round if that is what was decided. -/
def closeStage (key : RoundKey) (action : CloseAction) (run : CycleRun)
    : Except CycleFailure CycleRun :=
  if action = .close then do
    let closed ← send deps (.round key .closeRound) run.world
    let ledger ← roundAt key closed
    pure
      { summary := { run.summary with
          closedRound := some key
          entryCount := some ledger.round.participantCount }
        world := closed }
  else pure run

/-- Score what is unscored, unless the round is over or nobody entered it. -/
def scoreStage (key : RoundKey) (run : CycleRun)
    : Except CycleFailure (List ScoreOutcome × CycleRun) := do
  let ledger ← roundAt key run.world
  let summary := { run.summary with scoredCount := ledger.round.scoredCount }
  if ledger.round.status = .finalized ∨ ledger.round.participantCount = 0 then
    pure ([], { run with summary := summary })
  else do
    let unscored := (entriesForRound deps ledger).filter fun entry => !entry.2.scored
    let (outcomes, world) ← scoreEntries deps key unscored run.world
    let after ← roundAt key world
    pure
      (outcomes.filter (· ≠ .scored),
        { summary := { summary with
            scoredThisRun := outcomes.count .scored
            scoredCount := after.round.scoredCount }
          world := world })

/-- The reveal's share of the script's dependencies. -/
def CycleDeps.revealDeps (key : RoundKey) (world : CycleWorld) : BracketRevealDeps :=
  { envs := fun instruction =>
      world.deployment.env (deps.submission world.now (.round key (.reveal instruction)))
    freshOffset := deps.revealOffset
    early := deps.revealEarly
    late := deps.revealLate }

/-- The round's accounts after its reveal has moved. -/
def CycleWorld.withReveal (world : CycleWorld) (key : RoundKey) (ledger : RoundLedger)
    (revealed : RevealLedger) : CycleWorld :=
  { world with
    deployment := { world.deployment with
      rounds := world.deployment.rounds.insert key { ledger with toRevealLedger := revealed } } }

def topWallets (ledger : RoundLedger) : List Pubkey :=
  (resolveWinnerWallets deps ledger).map WinnerWallet.wallet

/-- Reveal the round, unless that was done, or there is nothing to rank. -/
def revealStage (key : RoundKey) (run : CycleRun) : Except CycleFailure CycleRun := do
  let ledger ← roundAt key run.world
  if ledger.round.status = .finalized then
    pure { run with summary := { run.summary with top3 := topWallets deps ledger } }
  else if ledger.round.scoringRevealed then
    pure
      { run with
        summary := { run.summary with
          revealedPreviously := true
          top3 := topWallets deps ledger } }
  else if ledger.round.participantCount = 0 then pure run
  else do
    require (ledger.round.scoredCount = ledger.round.participantCount)
      (.scoringIncomplete ledger.round.scoredCount ledger.round.participantCount)
    let scored := (entriesForRound deps ledger).filter fun entry => entry.2.scored
    require (scored.length = ledger.round.participantCount)
      (.entriesMissing scored.length ledger.round.participantCount)
    let revealed ← (runBracketReveal (deps.revealDeps key run.world) (scored.map Prod.fst)
      ledger.toRevealLedger).mapError .unrevealable
    let world := run.world.withReveal key ledger revealed
    let after ← roundAt key world
    require after.round.scoringRevealed .neverRevealed
    pure
      { summary := { run.summary with top3 := topWallets deps after }
        world := world }

def finalizeStage (key : RoundKey) (run : CycleRun) : Except CycleFailure CycleRun := do
  let ledger ← roundAt key run.world
  if ledger.round.status = .finalized then pure run
  else do
    let finalized ← send deps (.round key .finalizeRound) run.world
    pure
      { summary := { run.summary with finalizedRound := some key }
        world := finalized }

/-- Pay the pot of a revealed round that has no settlement, whoever revealed it. -/
def potStage (key : RoundKey) (run : CycleRun) : Except CycleFailure CycleRun := do
  let ledger ← roundAt key run.world
  let winners := resolveWinnerWallets deps ledger
  if ledger.round.scoringRevealed = false then
    pure { run with summary := { run.summary with prizeSkipReason := some .neverRevealed } }
  else if winners = [] then
    pure { run with summary := { run.summary with prizeSkipReason := some .noWinners } }
  else if settlementStateOf ledger.settlement ≠ .none then
    pure { run with summary := { run.summary with potAlreadySettled := true } }
  else
    let (result, world) := distributeSgdPot deps key winners run.world
    pure
      { summary := { run.summary with
          potPaidSgd := result.paidSgd
          potError := result.error }
        world := world }

/-- Close every vault that was surveyed to be closable. -/
def reclaimStage (current : RoundKey) (run : CycleRun) : CycleRun :=
  let deployment := run.world.deployment
  let (closed, world) := reclaimVaults deps (surveyVaults current deployment .closable) run.world
  { summary := { run.summary with
      vaultsClosed := closed.length
      vaultsStranded := (surveyVaults current deployment .stranded).length }
    world := world }

def openNextRound (current : RoundKey) (world : CycleWorld) : Except CycleFailure CycleWorld := do
  require (world.deployment.config.sgdMint ≠ 0) .mintUnset
  send deps
    (.openRound (if 0 < current then some current else none) (deps.funded (current + 1))) world

def openStage (current : RoundKey) (run : CycleRun) : Except CycleFailure CycleRun := do
  let opened ← openNextRound deps current run.world
  pure
    { summary := { run.summary with openedRound := some (current + 1) }
      world := opened }

/-- From a scored round to the next one. -/
def finishStages (current : RoundKey) (run : CycleRun) : Except CycleFailure CycleRun := do
  let revealed ← revealStage deps current run
  let finalized ← finalizeStage deps current revealed
  let paid ← potStage deps current finalized
  openStage deps current (reclaimStage deps current paid)

/-- The current round, from its close on. A round that cannot be fully scored is left for a later
run; silence of the network is flagged.
-/
def advanceStages (current : RoundKey) (action : CloseAction) (run : CycleRun)
    : Except CycleFailure CycleEnd := do
  let closed ← closeStage deps current action run
  let (failures, scored) ← scoreStage deps current closed
  if failures = [] then do
    let finished ← finishStages deps current scored
    pure { finished with flagged := false }
  else
    pure
      { reclaimStage deps current scored with
        flagged := failures.any fun outcome => outcome matches .noCallback _ }

/-- One run of the cycle. -/
def runCycle (world : CycleWorld) : Except CycleFailure CycleEnd := do
  let config := world.deployment.config
  require (isOperatorOrAuthority config deps.signer) .unauthorized
  let current := config.currentRound
  if current = 0 then do
    let opened ← openNextRound deps 0 world
    pure
      { summary := { CycleSummary.blank with openedRound := some 1 }
        world := opened
        flagged := false }
  else do
    let (backlogPaid, settled) := settleBacklog deps current world
    let ledger ← roundAt current settled
    let round := ledger.round
    let run : CycleRun :=
      { summary := { CycleSummary.blank with
          backlogPaid := backlogPaid
          processedRound := some current
          entryCount := some round.participantCount
          externallyFinalized := decide (round.status = .finalized)
            && warnFinalizedOutsideCycle round.participantCount
                (settlementStateOf ledger.settlement) }
        world := settled }
    -- a round that is still live ends the run
    match closeRoundAction round settled.now with
    | .tooEarly _ => pure { run with flagged := false }
    | action => advanceStages deps current action run

end Script

end SecretGarden.AutoCycle
