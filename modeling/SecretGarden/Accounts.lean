import Mathlib.Data.Vector.Basic
import SecretGarden.Constants
import SecretGarden.Error
import SecretGarden.Foundation.Sha256
import SecretGarden.Foundation.Store

/-! The account records of the program and the pure methods declared beside them. -/

namespace SecretGarden

open Foundation

/-- Addresses compare byte by byte from the first, so they are the naturals they spell
in big-endian order; the default address is zero.
-/
abbrev Pubkey : Type := Nat

/-- A round's address is derived from its id alone, so the id stands for it. -/
abbrev RoundKey : Type := Nat

/-- A flower's address is derived from the wallet that claimed or bred it and the wallet's
running index; the address of its mint is derived from the flower's in turn.
-/
structure FlowerKey where
  wallet : Pubkey
  index : Nat
deriving DecidableEq

/-- An experiment's address is derived from the player and the player's running index. -/
structure ExperimentKey where
  player : Pubkey
  index : Nat
deriving DecidableEq

structure GameConfig where
  authority : Pubkey
  paused : Bool
  currentRound : Nat
  operators : Vector Pubkey 3
  operatorCount : Nat
  /-- How likely the mutant trait is drawn, until the weighting expires. -/
  mutantWeight : Nat
  restoreTs : Int
  /-- The token entry fees are charged in; the default address until it is set. -/
  sgdMint : Pubkey
deriving DecidableEq

/-- The weight in force; uniform from the expiry on. -/
def GameConfig.effectiveMutantWeight (config : GameConfig) (now : Int) : Nat :=
  if config.restoreTs ≤ now then mutantWeightUniform else config.mutantWeight

/-- The authority may do everything; only the first `operatorCount` slots are active. -/
def isOperatorOrAuthority (config : GameConfig) (signer : Pubkey) : Bool :=
  signer == config.authority || (config.operators.toList.take config.operatorCount).contains signer

/-- What a transaction sees besides the accounts of one round. -/
structure Env where
  signer : Pubkey
  config : GameConfig
  slot : Nat
  now : Int
deriving DecidableEq

inductive RoundStatus where
  | opened
  | closed
  | finalized
deriving DecidableEq, Repr

structure CompetitionRound where
  roundId : Nat
  status : RoundStatus
  startTime : Int
  endTime : Int
  maxParticipants : Nat
  participantCount : Nat
  /-- Only the first `targetTraitCount` are asked for. -/
  targetTraits : Vector Nat 4
  targetTraitCount : Nat
  top1 : Pubkey
  top2 : Pubkey
  top3 : Pubkey
  scoringRevealed : Bool
  scoredCount : Nat
deriving DecidableEq

def CompetitionRound.key (round : CompetitionRound) : RoundKey := round.roundId

/-- The revealed winners in rank order. -/
def CompetitionRound.tops (round : CompetitionRound) : List Pubkey :=
  [round.top1, round.top2, round.top3]

inductive EntryStatus where
  | submitted
  | released
deriving DecidableEq, Repr

structure CompetitionEntry where
  round : RoundKey
  player : Pubkey
  flowerRecord : FlowerKey
  submittedAt : Int
  /-- A released entry has given its flower back. -/
  status : EntryStatus
  /-- The plaintext under the ciphertext stored in the entry. -/
  encryptedScore : Nat
  scoreNonce : Nat
  scored : Bool
  scoreErrorCode : Nat
  /-- A scoring computation is in flight. -/
  scoreQueued : Bool
  queuedAt : Int
  raritySnapshot : Nat
deriving DecidableEq

--------------------------------------------------------------------------------
-- Flowers
--------------------------------------------------------------------------------

/-- Starters carry no genome of their own; bred flowers carry an encrypted one. -/
inductive GenomeStatus where
  | starter
  | encrypted
deriving DecidableEq, Repr

inductive FlowerStatus where
  | active
  | locked
  | submitted
deriving DecidableEq, Repr

structure FlowerRecord where
  /-- The owner the program last observed; the holder of the flower's token may differ. -/
  owner : Pubkey
  flowerIndex : Nat
  visualSpeciesId : Nat
  generation : Nat
  rarity : Nat
  stability : Nat
  revealedTraitMask : Nat
  /-- Nothing for a starter, like the source experiment. -/
  parentA : Option FlowerKey
  parentB : Option FlowerKey
  genomeStatus : GenomeStatus
  sourceExperiment : Option ExperimentKey
  status : FlowerStatus
  createdAt : Int
  /-- The bytes of the ciphertext, as the number they spell from the first byte on. -/
  encryptedGenome : Nat
  /-- The ciphertext's nonce. -/
  encryptionMetadata : Nat
  genomeCommitment : Vector Byte 32
  timesBredAsParent : Nat
  /-- Zero in a flower that never changed hands. -/
  lastTransferAt : Int
deriving DecidableEq

/-- What a genome's commitment is computed from: the ciphertext's bytes and its nonce's. -/
def genomeBytes (encryptedGenome encryptionMetadata : Nat) : List Byte :=
  bigEndian encryptedGenome encryptedGenomeLen
    ++ littleEndian encryptionMetadata encryptionMetadataLen

/-- What the bytes of a flower's account hold besides the record: the account type's tag, the
address's bump, and the addresses of other accounts.
-/
structure FlowerEncoding where
  discriminator : Vector Byte 8
  bump : Byte
  flowerAddress : Option FlowerKey → Vector Byte 32
  experimentAddress : Option ExperimentKey → Vector Byte 32

def GenomeStatus.code : GenomeStatus → Byte
  | .starter => 0
  | .encrypted => 1

def FlowerStatus.code : FlowerStatus → Byte
  | .active => 0
  | .locked => 1
  | .submitted => 2

/-- The fields in front of the ciphertext, in the order they are stored. -/
def FlowerRecord.header (encoding : FlowerEncoding) (flower : FlowerRecord) : List Byte :=
  encoding.discriminator.toList ++ bigEndian flower.owner 32 ++ littleEndian flower.flowerIndex 4
    ++ littleEndian flower.visualSpeciesId 1 ++ littleEndian flower.generation 2
    ++ littleEndian flower.rarity 1 ++ littleEndian flower.stability 1
    ++ littleEndian flower.revealedTraitMask 4 ++ (encoding.flowerAddress flower.parentA).toList
    ++ (encoding.flowerAddress flower.parentB).toList ++ [flower.genomeStatus.code]
    ++ (encoding.experimentAddress flower.sourceExperiment).toList ++ [flower.status.code]
    ++ littleEndian (flower.createdAt % u64Modulus).toNat 8 ++ [encoding.bump]
    ++ flower.genomeCommitment.toList

/-- A flower's account. -/
def FlowerRecord.accountData (encoding : FlowerEncoding) (flower : FlowerRecord) : List Byte :=
  flower.header encoding ++ (bigEndian flower.encryptedGenome encryptedGenomeLen
    ++ (littleEndian flower.encryptionMetadata encryptionMetadataLen
      ++ littleEndian flower.timesBredAsParent 1
      ++ littleEndian (flower.lastTransferAt % u64Modulus).toNat 8))

/-- The bytes a computation reads in place are the flower's ciphertext. -/
theorem FlowerRecord.bytesAt_accountData (encoding : FlowerEncoding) (flower : FlowerRecord)
    : bytesAt flowerEncryptedGenomeOffset encryptedGenomeLen (flower.accountData encoding)
      = bigEndian flower.encryptedGenome encryptedGenomeLen := by
  apply bytesAt_append
  · simp [header, flowerEncryptedGenomeOffset]
  · exact length_bigEndian _ _

/-- A bred flower, as opposed to a starter. -/
def FlowerRecord.isHybrid (flower : FlowerRecord) : Bool :=
  flower.genomeStatus == .encrypted

structure PlayerProfile where
  owner : Pubkey
  starterClaimed : Bool
  totalFlowers : Nat
  finalSubmissions : Nat
  createdAt : Int
  activeExperimentCount : Nat
  totalExperiments : Nat
  nextFlowerIndex : Nat
  breedsThisRound : Nat
  /-- The round `breedsThisRound` counts breeds of. -/
  lastBreedRound : Nat
deriving DecidableEq

inductive ExperimentStatus where
  | queued
  | processing
  | completed
  | failed
  | expired
deriving DecidableEq, Repr

structure Experiment where
  owner : Pubkey
  parentA : FlowerKey
  parentB : FlowerKey
  computationOffset : Nat
  status : ExperimentStatus
  resultFlower : FlowerKey
  createdAt : Int
  updatedAt : Int
  errorCode : Nat
  callbackProcessed : Bool
deriving DecidableEq

/-- Who may move a token besides its owner: the program's own mint authority or a wallet. -/
inductive Delegate where
  | mintAuthority
  | wallet (key : Pubkey)
deriving DecidableEq

/-- A token account that holds flower tokens. -/
structure FlowerToken where
  owner : Pubkey
  /-- The flower whose mint the account is for. -/
  mint : FlowerKey
  amount : Nat
  frozen : Bool
  delegate : Option Delegate
  delegatedAmount : Nat
deriving DecidableEq

/-- A player's one hint, overwritten by each request. -/
structure HintResult where
  player : Pubkey
  roundId : Nat
  targetTraitCount : Nat
  /-- The answer below belongs to the request above. -/
  ready : Bool
  encryptionKey : Nat
  nonce : Nat
  ciphertext : Nat
  computedAt : Int
deriving DecidableEq

/-- A freshly created hint account. -/
def HintResult.zeroed : HintResult :=
  { player := 0, roundId := 0, targetTraitCount := 0, ready := false, encryptionKey := 0,
    nonce := 0, ciphertext := 0, computedAt := 0 }

--------------------------------------------------------------------------------
-- Settlements
--------------------------------------------------------------------------------

inductive SettlementState where
  | none
  | potRefundPending
  | potPaid
  | potRefunded
deriving DecidableEq, Repr

/-- What happened to a round's pot. -/
structure RoundSettlement where
  /-- Zero in an account that was only just created, since rounds count from one. -/
  roundId : Nat
  state : SettlementState
  /-- Moved out of the vault to winners or entrants. -/
  totalSettled : Nat
  recipientCount : Nat
  settledAt : Int
  entrantCount : Nat
  /-- What each entrant gets back, fixed by the first batch. -/
  perEntrant : Nat
  /-- The vault's balance at the first batch. -/
  totalPot : Nat
  surplus : Nat
  /-- The highest entry refunded so far. -/
  cursor : Pubkey
  startedAt : Int
deriving DecidableEq

/-- A freshly created settlement account. -/
def RoundSettlement.zeroed : RoundSettlement :=
  { roundId := 0, state := .none, totalSettled := 0, recipientCount := 0, settledAt := 0,
    entrantCount := 0, perEntrant := 0, totalPot := 0, surplus := 0, cursor := 0,
    startedAt := 0 }

/-- The pot has finished moving, either way. -/
def RoundSettlement.isTerminal (settlement : RoundSettlement) : Bool :=
  settlement.state == .potPaid || settlement.state == .potRefunded

structure TokenAccount where
  owner : Pubkey
  mint : Pubkey
  amount : Nat
deriving DecidableEq

/-- Where a reveal result lives: tier-1, ordinary and final shards share one namespace of
derived addresses, semifinals have their own.
-/
inductive ResultAddress where
  | shard (index : Nat)
  | semifinal (index : Nat)
deriving DecidableEq, Repr

structure RevealTop3V3Result where
  round : RoundKey
  ready : Bool
  slot1 : Nat
  slot2 : Nat
  slot3 : Nat
  score1 : Nat
  score2 : Nat
  score3 : Nat
  errorCode : Nat
  /-- The generation of the partition the result was queued under. -/
  generation : Nat
deriving DecidableEq

/-- A freshly created result account. -/
def RevealTop3V3Result.zeroed : RevealTop3V3Result :=
  { round := 0, ready := false, slot1 := 0, slot2 := 0, slot3 := 0, score1 := 0,
    score2 := 0, score3 := 0, errorCode := 0, generation := 0 }

/-- The winning slots in rank order. -/
def RevealTop3V3Result.slots (result : RevealTop3V3Result) : List Nat :=
  [result.slot1, result.slot2, result.slot3]

structure BracketState where
  round : RoundKey
  shardCount : Nat
  shardSizes : Vector Nat maxShards
  shardBounds : Vector Pubkey maxShards
  /-- Bit `k` is set once shard `k`'s winners are collected. -/
  shardsCollected : Nat
  finalists : Vector Pubkey maxFinalists
  finalistCount : Nat
  finalQueued : Bool
  applied : Bool
  generation : Nat
deriving DecidableEq

/-- A freshly created bracket account. -/
def BracketState.zeroed : BracketState :=
  { round := 0, shardCount := 0, shardSizes := .replicate _ 0, shardBounds := .replicate _ 0,
    shardsCollected := 0, finalists := .replicate _ 0, finalistCount := 0,
    finalQueued := false, applied := false, generation := 0 }

/-- Every shard's bit is set; a full byte stands for eight shards or more. -/
def BracketState.allShardsCollected (bracket : BracketState) : Bool :=
  bracket.shardsCollected == if bracket.shardCount ≥ 8 then 255 else 1 <<< bracket.shardCount - 1

/-- A single shard has already ranked the whole field. -/
def BracketState.needsFinalReveal (bracket : BracketState) : Bool :=
  decide (1 < bracket.shardCount)

/-- The recorded finalists, in the order they are stored. -/
def BracketState.activeFinalists (bracket : BracketState) : List Pubkey :=
  bracket.finalists.toList.take bracket.finalistCount

--------------------------------------------------------------------------------
-- Tier-1 state
--------------------------------------------------------------------------------

structure Tier1State where
  round : RoundKey
  shardBounds : Vector Pubkey maxTier1Shards
  winners : Vector Pubkey maxTier1Winners
  shardSizes : Vector Nat maxTier1Shards
  shardDone : Vector Bool maxTier1Shards
  shardCount : Nat
  winnerCount : Nat
  promoted : Bool
  generation : Nat
deriving DecidableEq

def Tier1State.allShardsCollected (tier1 : Tier1State) : Bool :=
  (tier1.shardDone.toList.take tier1.shardCount).all id

/-- The recorded winners, kept in ascending order. -/
def Tier1State.activeWinners (tier1 : Tier1State) : List Pubkey :=
  tier1.winners.toList.take tier1.winnerCount

/-- Scan the first `remaining` winners from position `i` for the place of `key`: the first
larger winner's position, the end when there is none, nothing when the key is present.
-/
def scanWinners (winners : Vector Pubkey maxTier1Winners) (key : Pubkey)
    : (i remaining : Nat) → Option Nat
  | i, 0 => some i
  | i, remaining + 1 =>
      let winner := winners[i]?.getD 0
      if winner = key then none
      else if key < winner then some i
      else scanWinners winners key (i + 1) remaining

/-- Move the winners at `pos` and above one place up, from position `i` downwards. -/
def shiftWinners (pos : Nat) (winners : Vector Pubkey maxTier1Winners)
    : (i : Nat) → Vector Pubkey maxTier1Winners
  | 0 => winners
  | i + 1 =>
      if pos < i + 1 then
        shiftWinners pos (winners.setIfInBounds (i + 1) (winners[i]?.getD 0)) i
      else winners

/-- Insert in ascending order; refused when the list is full or holds the key already. -/
def Tier1State.insertWinnerSorted (tier1 : Tier1State) (key : Pubkey) : Option Tier1State :=
  if maxTier1Winners ≤ tier1.winnerCount then none
  else
    match scanWinners tier1.winners key 0 tier1.winnerCount with
    | none => none
    | some pos =>
        let shifted := shiftWinners pos tier1.winners tier1.winnerCount
        some { tier1 with
          winners := shifted.setIfInBounds pos key
          winnerCount := tier1.winnerCount + 1 }

end SecretGarden
