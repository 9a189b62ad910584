import SecretGarden.Bracket.TwoTier
import SecretGarden.Foundation.Transition

/-! The reveal of one round as a state machine, and the journal of its history.
The journal numbers the partitions as they are pinned and notes under which of them every
run was queued, stamped, written and collected. Only specifications read it.
-/

namespace SecretGarden.Bracket

open Foundation

inductive RevealInstruction where
  | initBracket (shardSizes : Vector Nat maxShards) (shardBounds : Vector Pubkey maxShards)
    (shardCount : Nat)
  | queueShardReveal (computationOffset shardIndex : Nat) (accounts : List Pubkey)
  | collectShardWinners (shardIndex : Nat) (accounts : List Pubkey)
  | applyBracketResult (resultIndex : Nat)
  | initTier1Bracket (shardSizes : Vector Nat maxTier1Shards)
    (shardBounds : Vector Pubkey maxTier1Shards) (shardCount : Nat)
  | closeTier1Bracket
  | queueTier1ShardReveal (computationOffset shardIndex : Nat) (accounts : List Pubkey)
  | collectTier1Winners (shardIndex : Nat) (accounts : List Pubkey)
  | promoteTier1
  | queueSemifinalReveal (computationOffset semiIndex : Nat) (accounts : List Pubkey)
  | collectSemifinalWinners (semiIndex : Nat)
  | revealTop3V5Callback (computationOffset : Nat) (verified : Bool)

/-- An instruction with the environment its transaction runs in. -/
structure Submission where
  env : Env
  instruction : RevealInstruction

def revealStep (ledger : RevealLedger) (submission : Submission) : Outcome RevealLedger :=
  match submission.instruction with
  | .initBracket shardSizes shardBounds shardCount =>
      initBracket submission.env shardSizes shardBounds shardCount ledger
  | .queueShardReveal computationOffset shardIndex accounts =>
      queueShardReveal submission.env computationOffset shardIndex accounts ledger
  | .collectShardWinners shardIndex accounts =>
      collectShardWinners submission.env shardIndex accounts ledger
  | .applyBracketResult resultIndex => applyBracketResult submission.env resultIndex ledger
  | .initTier1Bracket shardSizes shardBounds shardCount =>
      initTier1Bracket submission.env shardSizes shardBounds shardCount ledger
  | .closeTier1Bracket => closeTier1Bracket submission.env ledger
  | .queueTier1ShardReveal computationOffset shardIndex accounts =>
      queueTier1ShardReveal submission.env computationOffset shardIndex accounts ledger
  | .collectTier1Winners shardIndex accounts =>
      collectTier1Winners submission.env shardIndex accounts ledger
  | .promoteTier1 => promoteTier1 submission.env ledger
  | .queueSemifinalReveal computationOffset semiIndex accounts =>
      queueSemifinalReveal submission.env computationOffset semiIndex accounts ledger
  | .collectSemifinalWinners semiIndex =>
      collectSemifinalWinners submission.env semiIndex ledger
  | .revealTop3V5Callback computationOffset verified =>
      revealTop3V5Callback computationOffset verified ledger

/-- A round before any reveal instruction. -/
structure RevealLedger.Unstarted (ledger : RevealLedger) : Prop where
  bracket : ledger.bracket = none
  tier1 : ledger.tier1 = none
  results : ledger.results = ∅
  computations : ledger.computations = ∅

/-- An accepted run: the partition in force, the result account and the accounts given. -/
structure RunRecord where
  pin : Nat
  target : ResultAddress
  accounts : List Pubkey
deriving DecidableEq

/-- The account whose partition an instruction works under. -/
inductive Partition where
  | bracket
  | tier1
deriving DecidableEq, Repr

structure Journal where
  /-- How many partitions have been pinned so far. -/
  pins : Nat
  /-- The partition each account holds now. -/
  pinOf : Partition → Nat
  queued : List RunRecord
  collected : List RunRecord
  /-- The queued run behind each computation offset. -/
  pending : Nat → Option RunRecord
  /-- The partition under which each result account was last stamped. -/
  stamped : ResultAddress → Nat
  /-- The run whose computation was last written to each result account. -/
  written : ResultAddress → Option RunRecord
  /-- The winners the bracket's partition slices, when a promotion pinned it. -/
  sliced : Option (List Pubkey)

def Journal.blank : Journal :=
  { pins := 0, pinOf := fun _ => 0, queued := [], collected := [], pending := fun _ => none,
    stamped := fun _ => 0, written := fun _ => none, sliced := none }

/-- A new partition in `partition`'s account. -/
def Journal.pin (journal : Journal) (partition : Partition) : Journal :=
  { journal with
    pins := journal.pins + 1
    pinOf := Function.update journal.pinOf partition (journal.pins + 1) }

def Journal.queue (journal : Journal) (partition : Partition) (computationOffset : Nat)
    (target : ResultAddress) (accounts : List Pubkey) : Journal :=
  let run : RunRecord := ⟨journal.pinOf partition, target, accounts⟩
  { journal with
    queued := run :: journal.queued
    pending := Function.update journal.pending computationOffset (some run)
    stamped := Function.update journal.stamped target (journal.pinOf partition) }

def Journal.collect (journal : Journal) (partition : Partition) (target : ResultAddress)
    (accounts : List Pubkey) : Journal :=
  { journal with
    collected := ⟨journal.pinOf partition, target, accounts⟩ :: journal.collected }

def Journal.deliver (journal : Journal) (computationOffset : Nat) : Journal :=
  match journal.pending computationOffset with
  | none => journal
  | some run =>
      { journal with written := Function.update journal.written run.target (some run) }

/-- A delivery changes only what was written. -/
theorem Journal.deliver_frame (journal : Journal) (computationOffset : Nat)
    : journal.deliver computationOffset
      = { journal with written := (journal.deliver computationOffset).written } := by
  unfold Journal.deliver
  split <;> rfl

theorem Journal.deliver_pins (journal : Journal) (computationOffset : Nat)
    : (journal.deliver computationOffset).pins = journal.pins := by
  rw [deliver_frame]

theorem Journal.deliver_pinOf (journal : Journal) (computationOffset : Nat)
    : (journal.deliver computationOffset).pinOf = journal.pinOf := by
  rw [deliver_frame]

theorem Journal.deliver_queued (journal : Journal) (computationOffset : Nat)
    : (journal.deliver computationOffset).queued = journal.queued := by
  rw [deliver_frame]

theorem Journal.deliver_sliced (journal : Journal) (computationOffset : Nat)
    : (journal.deliver computationOffset).sliced = journal.sliced := by
  rw [deliver_frame]

/-- What an accepted instruction adds to the journal. -/
def note (ledger : RevealLedger) (submission : Submission) (journal : Journal) : Journal :=
  match submission.instruction with
  | .initBracket _ _ _ => { journal.pin .bracket with sliced := none }
  | .queueShardReveal computationOffset shardIndex accounts =>
      journal.queue .bracket computationOffset (.shard shardIndex) accounts
  | .collectShardWinners shardIndex accounts =>
      journal.collect .bracket (.shard shardIndex) accounts
  | .applyBracketResult _ => journal
  | .initTier1Bracket _ _ _ => journal.pin .tier1
  | .closeTier1Bracket => journal
  | .queueTier1ShardReveal computationOffset shardIndex accounts =>
      journal.queue .tier1 computationOffset (.shard shardIndex) accounts
  | .collectTier1Winners shardIndex accounts =>
      journal.collect .tier1 (.shard shardIndex) accounts
  | .promoteTier1 =>
      { journal.pin .bracket with sliced := ledger.tier1.map Tier1State.activeWinners }
  | .queueSemifinalReveal computationOffset semiIndex accounts =>
      journal.queue .bracket computationOffset (.semifinal semiIndex) accounts
  | .collectSemifinalWinners semiIndex =>
      journal.collect .bracket (.semifinal semiIndex) []
  | .revealTop3V5Callback computationOffset _ => journal.deliver computationOffset

/-- A reveal with its history. -/
abbrev JournaledReveal : Type := Journaled RevealLedger Journal

def journaledReveal : JournaledReveal → Submission → Outcome JournaledReveal :=
  journaled revealStep note

def RevealLedger.journaled (ledger : RevealLedger) : JournaledReveal := ⟨ledger, .blank⟩

--------------------------------------------------------------------------------
-- What a reveal uses of earlier computations
--------------------------------------------------------------------------------

/-- The contenders behind a list of accounts. -/
def contenders (entries : Store Pubkey CompetitionEntry) (accounts : List Pubkey)
    : List Contender :=
  accounts.filterMap fun key => (entries.lookup key).map (key, ·)

/-- The slots the circuit reveals for a list of accounts. -/
def revealedSlots (entries : Store Pubkey CompetitionEntry) (accounts : List Pubkey)
    : List Nat :=
  (Circuit.revealTop3V5 ((buildRevealArgs (contenders entries accounts)).input entries)).slots

/-- The result account holds the circuit's output on these accounts. -/
def RevealLedger.HoldsOutput (ledger : RevealLedger) (target : ResultAddress)
    (accounts : List Pubkey) : Prop :=
  (ledger.results.lookup target).map RevealTop3V3Result.slots
    = some (revealedSlots ledger.entries accounts)

instance (ledger : RevealLedger) (target : ResultAddress) (accounts : List Pubkey)
    : Decidable (ledger.HoldsOutput target accounts) :=
  inferInstanceAs (Decidable (_ = _))

/-- The result account whose slots an instruction resolves to entries, and the partition
its generation check compares. Applying a one-shard bracket resolves no slots.
-/
def RevealInstruction.reads (ledger : RevealLedger)
    : RevealInstruction → Option (Partition × ResultAddress)
  | .collectShardWinners shardIndex _ => some (.bracket, .shard shardIndex)
  | .collectTier1Winners shardIndex _ => some (.tier1, .shard shardIndex)
  | .collectSemifinalWinners semiIndex => some (.bracket, .semifinal semiIndex)
  | .applyBracketResult resultIndex =>
      if ledger.bracket.any (·.shardCount ≠ 1) then some (.bracket, .shard resultIndex) else none
  | _ => none

end SecretGarden.Bracket
