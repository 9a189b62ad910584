import Mathlib.Algebra.Order.Ring.Int

/-! Protocol constants, under the names the program gives them. -/

namespace SecretGarden

--------------------------------------------------------------------------------
-- Reveal bracket
--------------------------------------------------------------------------------

/-- Input slots of the reveal circuit. -/
def maxParticipants : Nat := 16

/-- Places revealed by one computation. -/
def revealTopK : Nat := 3

/-- Distinct accounts one computation may reference. -/
def maxRevealAccountRefs : Nat := 14

def maxShardSize : Nat := 13

def minShardSize : Nat := 1

/-- Winners taken from each shard. -/
def shardWinners : Nat := revealTopK

def maxShards : Nat := 4

def maxFinalists : Nat := maxShards * shardWinners

/-- Largest round one tier of shards can reveal. -/
def singleTierCapacity : Nat := maxShards * maxShardSize

def maxTier1Shards : Nat := 17

def maxTier1Winners : Nat := maxTier1Shards * shardWinners

/-- Largest round two tiers can reveal, which is also the largest round. -/
def twoTierCapacity : Nat := maxTier1Shards * maxShardSize

def roundCapacity : Nat := twoTierCapacity

/-- The shard index that selects the final reveal. -/
def finalShardIndex : Nat := 255

/-- Generation stamps are 32-bit and wrap. -/
def generationModulus : Nat := 2 ^ 32

--------------------------------------------------------------------------------
-- Rounds
--------------------------------------------------------------------------------

def secondsPerDay : Int := 86400

/-- Rounds end at this time of a day. -/
def roundAnchorUtcSeconds : Int := 36000

def minRoundDurationSeconds : Int := 43200

/-- An operator other than the authority may close a round only this long after it opened. -/
def minOperatorCloseDelaySeconds : Int := 3600

/-- A scoring computation that has not answered for this long may be cancelled. -/
def scoreTimeoutSeconds : Int := 600

def scoreErrorAborted : Nat := 1

--------------------------------------------------------------------------------
-- Target traits
--------------------------------------------------------------------------------

/-- The public traits a round may ask for. -/
def traitTableLen : Nat := 10

def traitIdMutant : Nat := 8

/-- The weight at which the mutant trait is drawn like every other. -/
def mutantWeightUniform : Nat := 255

/-- The byte of a round's entropy that decides whether the mutant trait is in the pool. -/
def mutantGateEntropyIndex : Nat := 5

/-- Where the weighting of the mutant trait starts in the configuration's account. -/
def gameConfigMutantWeightOffset : Nat := 149

def targetTraitMin : Nat := 2

def targetTraitMax : Nat := 4

--------------------------------------------------------------------------------
-- Genomes
--------------------------------------------------------------------------------

/-- Bytes of a genome's ciphertext. -/
def encryptedGenomeLen : Nat := 320

def encryptionMetadataLen : Nat := 16

/-- Where the ciphertext starts in a flower's account. -/
def flowerEncryptedGenomeOffset : Nat := 192

/-- Where an entry's account names its flower. -/
def entryFlowerOffset : Nat := 72

/-- Where the rarity stands in a flower's account. -/
def flowerRarityOffset : Nat := 47

--------------------------------------------------------------------------------
-- Entry fees
--------------------------------------------------------------------------------

/-- Token amounts and round ids are unsigned 64-bit. -/
def u64Modulus : Nat := 2 ^ 64

/-- Counters of entries are unsigned 16-bit. -/
def u16Max : Nat := 2 ^ 16 - 1

/-- Timestamps are signed 64-bit. -/
def i64Bound : Int := 2 ^ 63

def sgdDecimals : Nat := 6

/-- Charged for every entry, in base units. -/
def entryFeeSgd : Nat := 100000000

/-- How long after a round's deadline its unrevealed pot may be refunded. -/
def potRefundMinAgeSeconds : Int := 7 * secondsPerDay

--------------------------------------------------------------------------------
-- Flowers
--------------------------------------------------------------------------------

def starterCount : Nat := 6

def starterStability : Nat := 100

/-- Bred flowers a player may hold before breeding another one. -/
def flowerCollectionCap : Nat := 20

def maxBreedsPerRound : Nat := 5

/-- What one starter species looks like. -/
structure SpeciesDef where
  visualSpeciesId : Nat
  rarity : Nat
  revealedTraitMask : Nat

/-- The starter species in the order of their flower indices. -/
def species : Vector SpeciesDef starterCount :=
  #v[⟨0, 2, 0b001111⟩, ⟨1, 3, 0b001111⟩, ⟨2, 2, 0b010111⟩, ⟨3, 4, 0b101111⟩, ⟨4, 1, 0b000111⟩,
    ⟨5, 3, 0b010111⟩]

/-- How often one flower may be a parent, ever. -/
def maxBreedsAsParent : Nat := 3

def hybridVisualSpeciesId : Nat := 255

def breedingStabilityPenalty : Nat := 5

def breedErrorAborted : Nat := 1

/-- A breeding computation that has not answered for this long may be cancelled. -/
def experimentTimeoutSeconds : Int := 600

/-- The rarity tier's place in the mask a breeding computation returns. -/
def rarityShift : Nat := 19

/-- Everything of that mask but the rarity tier. -/
def rarityStripMask : Nat := 0xFFC7FFFF

def nftMaxUriLen : Nat := 200

def u8Max : Nat := 2 ^ 8 - 1

def u16Modulus : Nat := 2 ^ 16

def u32Modulus : Nat := 2 ^ 32

/-- The semifinal tier can hold every tier-1 winner. -/
theorem maxTier1Winners_le : maxTier1Winners ≤ maxShards * maxShardSize := by decide

/-- The final reveal fits the account ceiling of one computation. -/
theorem maxFinalists_le : maxFinalists ≤ maxRevealAccountRefs := by decide

end SecretGarden
