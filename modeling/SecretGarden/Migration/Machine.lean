import SecretGarden.Accounts
import SecretGarden.Foundation.Growth
import SecretGarden.Foundation.Outcome

/-! Bringing an account of an earlier layout to the current one.
An account that is shorter than its record cannot be read as that record, so the migrations
take it as bytes and write through fixed offsets.
-/

namespace SecretGarden.Migration

open Foundation

-----------------------------------------------------------------------------------------
-- Layouts
-----------------------------------------------------------------------------------------

/-- The fields of a record in order, with the bytes each takes. -/
abbrev RecordLayout : Type := List (String × Nat)

def RecordLayout.initSpace (layout : RecordLayout) : Nat := (layout.map Prod.snd).sum

/-- Where a field starts; eight bytes that tell the record types apart come first. -/
def RecordLayout.offsetOf (layout : RecordLayout) (field : String) : Nat :=
  8 + RecordLayout.initSpace (layout.takeWhile fun entry => entry.1 ≠ field)

/-- The length of an account that holds the record. -/
def RecordLayout.newLen (layout : RecordLayout) : Nat := 8 + layout.initSpace

def gameConfigLayout : RecordLayout :=
  [("authority", 32), ("paused", 1), ("currentRound", 8), ("starterCount", 1), ("version", 1),
    ("bump", 1), ("operators", 96), ("operatorCount", 1), ("mutantWeight", 1),
    ("restoreTs", 8), ("sgdMint", 32), ("pendingAuthority", 32)]

def playerProfileLayout : RecordLayout :=
  [("owner", 32), ("starterClaimed", 1), ("totalFlowers", 2), ("totalCrosses", 2),
    ("dailyAttempts", 1), ("finalSubmissions", 1), ("createdAt", 8),
    ("activeExperimentCount", 4), ("totalExperiments", 4), ("nextFlowerIndex", 4),
    ("bump", 1), ("breedsThisRound", 1), ("lastBreedRound", 4)]

def flowerRecordLayout : RecordLayout :=
  [("owner", 32), ("flowerIndex", 4), ("visualSpeciesId", 1), ("generation", 2), ("rarity", 1),
    ("stability", 1), ("revealedTraitMask", 4), ("parentA", 32), ("parentB", 32),
    ("genomeStatus", 1), ("sourceExperiment", 32), ("status", 1), ("createdAt", 8),
    ("bump", 1), ("genomeCommitment", 32), ("encryptedGenome", encryptedGenomeLen),
    ("encryptionMetadata", encryptionMetadataLen), ("timesBredAsParent", 1),
    ("lastTransferAt", 8)]

def competitionEntryLayout : RecordLayout :=
  [("round", 32), ("player", 32), ("flowerRecord", 32), ("submittedAt", 8), ("status", 1),
    ("bump", 1), ("encryptedScore", 32), ("scoreNonce", 16), ("scored", 1),
    ("scoreErrorCode", 2), ("scoreQueued", 1), ("queuedAt", 8), ("raritySnapshot", 1)]

/-- The fixed offsets are where the records have those fields. -/
theorem offsets_match_layouts
    : gameConfigMutantWeightOffset = gameConfigLayout.offsetOf "mutantWeight"
      ∧ entryFlowerOffset = competitionEntryLayout.offsetOf "flowerRecord"
      ∧ flowerRarityOffset = flowerRecordLayout.offsetOf "rarity"
      ∧ competitionEntryLayout.newLen - 1 = competitionEntryLayout.offsetOf "raritySnapshot" := by
  decide +kernel

-----------------------------------------------------------------------------------------
-- Accounts as bytes
-----------------------------------------------------------------------------------------

/-- What the address of an account is derived from. -/
inductive AccountSeeds where
  | config
  | profile (owner : Pubkey)
  | flower (owner : Pubkey) (flowerIndex : Nat)
  | entry (round player : Pubkey)
deriving DecidableEq

/-- What the program takes from the chain it runs on. -/
structure Runtime where
  programId : Pubkey
  findAddress : AccountSeeds → Pubkey
  /-- The lamports that exempt an account of a given length from rent. -/
  minimumBalance : Nat → Nat

structure RawAccount where
  key : Pubkey
  /-- The program the account belongs to. -/
  owner : Pubkey
  lamports : Nat
  data : List Byte
deriving DecidableEq

def RawAccount.write (account : RawAccount) (offset : Nat) (byte : Byte) : RawAccount :=
  { account with data := account.data.set offset byte }

/-- The address spelled by the 32 bytes at an offset. -/
def pubkeyAt (offset : Nat) (data : List Byte) : Pubkey :=
  (bytesAt offset 32 data).foldl (fun number byte => number * 256 + byte.toNat) 0

/-- The eight bytes in front of a record: the start of a hash of its type's name. -/
def discriminator (record : String) : List Byte :=
  (sha256 (("account:" ++ record).toList.map fun c => BitVec.ofNat 8 c.toNat)).toList.take 8

variable (runtime : Runtime)

/-- The rarity in a flower's account, which must be the expected one. -/
def readFlowerRarity (info : RawAccount) (expected : Pubkey) : Outcome Byte := do
  require (info.key = expected) .flowerNotOwned
  require (info.owner = runtime.programId) .flowerNotOwned
  require (flowerRarityOffset < info.data.length) .flowerNotOwned
  require (info.data.take 8 = discriminator "FlowerRecord") .flowerNotOwned
  fetch info.data[flowerRarityOffset]? .arrayIndex

-----------------------------------------------------------------------------------------
-- Instructions
-----------------------------------------------------------------------------------------

/-- The account under migration and the lamports of the wallet that pays for it. -/
structure MigrationState where
  payer : Nat
  account : RawAccount
deriving DecidableEq

/-- The account is the one derived from the seeds and belongs to the program. -/
def requireDerived (seeds : AccountSeeds) (account : RawAccount) : Outcome Unit := do
  require (account.key = runtime.findAddress seeds) .constraintRaw
  require (account.owner = runtime.programId) .constraintRaw

/-- Top the account up to the rent of its new length, then extend it with zero bytes. -/
def grow (newLen : Nat) (state : MigrationState) : Outcome MigrationState := do
  let topUp := runtime.minimumBalance newLen - state.account.lamports
  require (topUp ≤ state.payer) .insufficientFunds
  pure
    { payer := state.payer - topUp
      account := { state.account with
        lamports := state.account.lamports + topUp
        data := resize 0 newLen state.account.data } }

def migrateConfig (signer : Pubkey) (state : MigrationState) : Outcome MigrationState := do
  requireDerived runtime .config state.account
  require (40 ≤ state.account.data.length) .notAuthority
  require (pubkeyAt 8 state.account.data = signer) .notAuthority
  if gameConfigLayout.newLen ≤ state.account.data.length then pure state
  else do
    let grown ← grow runtime gameConfigLayout.newLen state
    pure { grown with account :=
      grown.account.write gameConfigMutantWeightOffset (BitVec.ofNat 8 mutantWeightUniform) }

def migrateProfile (signer : Pubkey) (state : MigrationState) : Outcome MigrationState := do
  requireDerived runtime (.profile signer) state.account
  if playerProfileLayout.newLen ≤ state.account.data.length then pure state
  else grow runtime playerProfileLayout.newLen state

def migrateFlower (signer : Pubkey) (flowerIndex : Nat) (state : MigrationState)
    : Outcome MigrationState := do
  requireDerived runtime (.flower signer flowerIndex) state.account
  if flowerRecordLayout.newLen ≤ state.account.data.length then pure state
  else grow runtime flowerRecordLayout.newLen state

def operatorMigrateFlower (signer : Pubkey) (config : GameConfig) (owner : Pubkey)
    (flowerIndex : Nat) (state : MigrationState)
    : Outcome MigrationState := do
  requireDerived runtime (.flower owner flowerIndex) state.account
  require (isOperatorOrAuthority config signer) .notAuthority
  if flowerRecordLayout.newLen ≤ state.account.data.length then pure state
  else grow runtime flowerRecordLayout.newLen state

def migrateEntry (signer : Pubkey) (config : GameConfig) (round player : Pubkey)
    (flower : RawAccount) (state : MigrationState)
    : Outcome MigrationState := do
  requireDerived runtime (.entry round player) state.account
  require (isOperatorOrAuthority config signer) .notAuthority
  if competitionEntryLayout.newLen ≤ state.account.data.length then pure state
  else do
    require (entryFlowerOffset + 32 ≤ state.account.data.length) .wrongEntryCount
    require (state.account.data.take 8 = discriminator "CompetitionEntry") .wrongEntryCount
    let expectedFlower := pubkeyAt entryFlowerOffset state.account.data
    let rarity ← readFlowerRarity runtime flower expectedFlower
    let grown ← grow runtime competitionEntryLayout.newLen state
    -- the snapshot is the last field of the record
    pure { grown with account :=
      grown.account.write (competitionEntryLayout.newLen - 1) rarity }

/-- The migrations with the accounts each is given besides the one it migrates. -/
inductive MigrationInstruction where
  | config
  | profile
  | flower (flowerIndex : Nat)
  | operatorFlower (config : GameConfig) (owner : Pubkey) (flowerIndex : Nat)
  | entry (config : GameConfig) (round player : Pubkey) (flower : RawAccount)

/-- The layout a migration brings its account to. -/
def MigrationInstruction.layout : MigrationInstruction → RecordLayout
  | .config => gameConfigLayout
  | .profile => playerProfileLayout
  | .flower _ => flowerRecordLayout
  | .operatorFlower _ _ _ => flowerRecordLayout
  | .entry _ _ _ _ => competitionEntryLayout

def migrate (signer : Pubkey) (instruction : MigrationInstruction) (state : MigrationState)
    : Outcome MigrationState :=
  match instruction with
  | .config => migrateConfig runtime signer state
  | .profile => migrateProfile runtime signer state
  | .flower flowerIndex => migrateFlower runtime signer flowerIndex state
  | .operatorFlower config owner flowerIndex =>
      operatorMigrateFlower runtime signer config owner flowerIndex state
  | .entry config round player flower =>
      migrateEntry runtime signer config round player flower state

end SecretGarden.Migration
