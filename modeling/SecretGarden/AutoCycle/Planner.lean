import Mathlib.Data.List.Sort
import SecretGarden.Bracket.TwoTier

/-! How the cycle script splits a round's entries into a bracket.
The program only verifies a partition; choosing it is the script's job.
-/

namespace SecretGarden.AutoCycle

open Foundation SecretGarden.Bracket

/-- Entry addresses in the program's ascending order. -/
def sortEntriesByteWise (keys : List Pubkey) : List Pubkey := keys.insertionSort (· ≤ ·)

/-- Split `n` items into the fewest shards of at most `max`, as evenly as possible. -/
def planShardSizes (n max : Nat) : List Nat :=
  if n = 0 then []
  else
    let count := Nat.max 1 ((n + max - 1) / max)
    (List.range count).map (balancedSize n count)

/-- How many winners a tier-1 layout produces. -/
def expectedTier1Winners (sizes : List Nat) : Nat := (sizes.map (min shardWinners)).sum

structure ShardPlan where
  entries : List Pubkey
  /-- The shard's first entry. -/
  bound : Pubkey
deriving DecidableEq

inductive BracketTier where
  | single
  | two
deriving DecidableEq, Repr

structure BracketPlan where
  tier : BracketTier
  entryCount : Nat
  /-- Tier-1 shards for two tiers, the only tier of shards otherwise. -/
  shards : List ShardPlan
  sizes : List Nat
  /-- The ranking of a single shard is the round's already. -/
  finalReveal : Bool
  semifinalSizes : List Nat
deriving DecidableEq

inductive BracketPlanError where
  | noEntries
  | pastCeiling
  | tooManyShards
deriving DecidableEq, Repr

/-- Cut sorted entries from `cursor` on into shards of the given sizes. -/
def cutShards (sorted : List Pubkey) : (cursor : Nat) → (sizes : List Nat) → List ShardPlan
  | _, [] => []
  | cursor, size :: rest =>
      let chunk := (sorted.drop cursor).take size
      { entries := chunk, bound := chunk[0]?.getD 0 } :: cutShards sorted (cursor + size) rest

/-- Partition a round's entries, in whatever order they come. -/
def planBracket (entries : List Pubkey) : Except BracketPlanError BracketPlan := do
  let sorted := sortEntriesByteWise entries
  let n := sorted.length
  require (n ≠ 0) .noEntries
  require (n ≤ twoTierCapacity) .pastCeiling
  let tier : BracketTier := if singleTierCapacity < n then .two else .single
  let sizes := planShardSizes n maxShardSize
  let limit := if tier = .two then maxTier1Shards else maxShards
  require (sizes.length ≤ limit) .tooManyShards
  let shards := cutShards sorted 0 sizes
  pure
    { tier := tier
      entryCount := n
      shards := shards
      sizes := sizes
      finalReveal := tier == .two || decide (1 < shards.length)
      semifinalSizes :=
        if tier = .two then planShardSizes (expectedTier1Winners sizes) maxShardSize else [] }

/-- The arrays of the pins have a fixed width; unused slots are zero. -/
def padNumbers (values : List Nat) (width : Nat) : Vector Nat width :=
  .ofFn fun i => values[i.val]?.getD 0

def padKeys (values : List Pubkey) (width : Nat) : Vector Pubkey width :=
  .ofFn fun i => values[i.val]?.getD 0

/-- Does the partition that is pinned match the planned one? -/
def partitionMatches {capacity : Nat} (shardCount : Nat) (shardSizes : Vector Nat capacity)
    (shardBounds : Vector Pubkey capacity) (plan : BracketPlan) : Bool :=
  shardCount == plan.shards.length
  && plan.shards.zipIdx.all fun (shard, i) =>
    shardSizes[i]? == some shard.entries.length && shardBounds[i]? == some shard.bound

end SecretGarden.AutoCycle
