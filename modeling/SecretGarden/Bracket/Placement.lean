import SecretGarden.Bracket.Recording
import SecretGarden.Foundation.Layout

/-! What the placement rules of the entry loop amount to for a whole run. -/

namespace SecretGarden.Bracket

open Foundation

/-- The declared intervals of a partition. -/
def layoutOf {capacity : Nat} (shardSizes : Vector Nat capacity)
    (shardBounds : Vector Pubkey capacity) (shardCount : Nat) : Layout Pubkey :=
  { sizes := shardSizes.toList.take shardCount
    bounds := shardBounds.toList.take shardCount }

section Shard

variable {capacity : Nat} {shardBounds : Vector Pubkey capacity} {shardCount k : Nat}

theorem shardPlace_eq_ok {i : Nat} {prev key : Pubkey} {done : Unit}
    : shardPlace shardBounds shardCount k i prev key = .ok done
      ↔ ∃ low,
          shardBounds[k]? = some low
          ∧ (if i = 0 then key = low else prev < key)
          ∧ (k + 1 < shardCount → shardBounds[k + 1]?.all (key < ·)) := by
  simp only [shardPlace, bind_eq_ok, fetch_eq_ok, require_eq_ok, exists_const]

/-- Past the first account, placement means ascending below the next shard, by induction
on the accounts.
-/
theorem placed_shard_succ {i : Nat} {prev low : Pubkey} {accounts : List Pubkey}
    (declared : shardBounds[k]? = some low)
    : Placed (shardPlace shardBounds shardCount k) (i + 1) prev accounts
      ↔ (prev :: accounts).IsChain (· < ·)
        ∧ ∀ key ∈ accounts, k + 1 < shardCount → shardBounds[k + 1]?.all (key < ·) := by
  induction accounts generalizing i prev with
  | nil => simp [Placed]
  | cons key rest ih =>
      rw [Placed, ih, shardPlace_eq_ok, declared, List.isChain_cons_cons,
        List.forall_mem_cons]
      constructor
      · rintro ⟨⟨_, _, after, below⟩, ascending, later⟩
        exact ⟨⟨by simpa using after, ascending⟩, below, later⟩
      · rintro ⟨⟨after, ascending⟩, below, later⟩
        exact ⟨⟨low, rfl, by simpa using after, below⟩, ascending, later⟩

/-- A non-empty run of a shard is placed exactly when it starts at the declared key,
ascends, and stays below the next shard.
-/
theorem placed_shard {key : Pubkey} {rest : List Pubkey} {prev : Pubkey}
    : Placed (shardPlace shardBounds shardCount k) 0 prev (key :: rest)
      ↔ shardBounds[k]? = some key
        ∧ (key :: rest).Pairwise (· < ·)
        ∧ ∀ account ∈ key :: rest,
            k + 1 < shardCount → shardBounds[k + 1]?.all (account < ·) := by
  rw [Placed, shardPlace_eq_ok, List.forall_mem_cons, ← List.isChain_iff_pairwise]
  constructor
  · rintro ⟨⟨low, declared, first, below⟩, later⟩
    obtain ⟨ascending, rest⟩ := (placed_shard_succ declared).mp later
    rw [if_pos rfl] at first
    exact ⟨first ▸ declared, ascending, below, rest⟩
  · rintro ⟨declared, ascending, below, rest⟩
    exact ⟨⟨key, declared, rfl, below⟩, (placed_shard_succ declared).mpr ⟨ascending, rest⟩⟩

/-- A run of the declared size is placed exactly when the layout admits it. -/
theorem placed_iff_admits {shardSizes : Vector Nat capacity} {accounts : List Pubkey}
    {prev : Pubkey}
    (inside : k < shardCount)
    (size : shardSizes[k]? = some accounts.length) (filled : accounts ≠ [])
    : Placed (shardPlace shardBounds shardCount k) 0 prev accounts
      ↔ (layoutOf shardSizes shardBounds shardCount).Admits k accounts := by
  have high {account : Pubkey}
      : (k + 1 < shardCount → shardBounds[k + 1]?.all (account < ·))
        ↔ ∀ high, (shardBounds.toList.take shardCount)[k + 1]? = some high
            → account < high := by
    by_cases last : k + 1 < shardCount
    · rw [List.getElem?_take_of_lt last, Vector.getElem?_toList]
      cases shardBounds[k + 1]? <;> simp [last]
    · rw [List.getElem?_eq_none (by simp; omega)]
      simp [last]
  have low : (shardBounds.toList.take shardCount)[k]? = shardBounds[k]? := by
    rw [List.getElem?_take_of_lt inside, Vector.getElem?_toList]
  cases accounts with
  | nil => exact absurd rfl filled
  | cons key rest =>
      rw [placed_shard]
      constructor
      · rintro ⟨declared, ascending, below⟩
        refine ⟨?_, ?_, ascending, fun account member => high.mp (below account member)⟩
        · rw [layoutOf, List.getElem?_take_of_lt inside, Vector.getElem?_toList, size]
        · rw [layoutOf, low, declared, List.head?_cons]
      · intro admitted
        refine ⟨?_, admitted.ascending,
          fun account member => high.mpr (admitted.below account member)⟩
        have first := admitted.first
        rw [layoutOf, low, List.head?_cons] at first
        exact first.symm

end Shard

section Final

variable {finalists : List Pubkey}

theorem finalPlace_eq_ok {i : Nat} {prev key : Pubkey} {done : Unit}
    : finalPlace finalists i prev key = .ok done
      ↔ (0 < i → prev < key) ∧ key ∈ finalists := by
  simp only [finalPlace, bind_eq_ok, require_eq_ok, exists_const]

/-- Past the first account, placement in the final means ascending finalists, by induction
on the accounts.
-/
theorem placed_final_succ {i : Nat} {prev : Pubkey} {accounts : List Pubkey}
    : Placed (finalPlace finalists) (i + 1) prev accounts
      ↔ (prev :: accounts).IsChain (· < ·) ∧ ∀ key ∈ accounts, key ∈ finalists := by
  induction accounts generalizing i prev with
  | nil => simp [Placed]
  | cons key rest ih =>
      rw [Placed, ih, finalPlace_eq_ok, List.isChain_cons_cons, List.forall_mem_cons]
      constructor
      · rintro ⟨⟨after, member⟩, ascending, later⟩
        exact ⟨⟨after (Nat.succ_pos i), ascending⟩, member, later⟩
      · rintro ⟨⟨after, ascending⟩, member, later⟩
        exact ⟨⟨fun _ => after, member⟩, ascending, later⟩

/-- A run is placed in the final exactly when it lists finalists in ascending order. -/
theorem placed_final {prev : Pubkey} {accounts : List Pubkey}
    : Placed (finalPlace finalists) 0 prev accounts
      ↔ accounts.Pairwise (· < ·) ∧ ∀ key ∈ accounts, key ∈ finalists := by
  cases accounts with
  | nil => simp [Placed]
  | cons key rest =>
      rw [Placed, placed_final_succ, finalPlace_eq_ok, List.isChain_iff_pairwise,
        List.forall_mem_cons]
      constructor
      · rintro ⟨⟨_, member⟩, ascending, later⟩
        exact ⟨ascending, member, later⟩
      · rintro ⟨ascending, member, later⟩
        exact ⟨⟨fun impossible => absurd impossible (lt_irrefl 0), member⟩, ascending, later⟩

end Final

/-- A run is placed in a semifinal exactly when it is the winners' slice there, by
induction on the accounts.
-/
theorem placed_semifinal {winners : Vector Pubkey maxTier1Winners} {start i : Nat}
    {prev : Pubkey} {accounts : List Pubkey}
    : Placed (semifinalPlace winners start) i prev accounts
      ↔ (winners.toList.drop (start + i)).take accounts.length = accounts := by
  induction accounts generalizing i prev with
  | nil => simp [Placed]
  | cons key rest ih =>
      rw [Placed, ih, semifinalPlace, require_eq_ok, List.length_cons]
      cases slice : winners.toList.drop (start + i) with
      | nil =>
          have outside : winners[start + i]? = none := by
            rw [← Vector.getElem?_toList]
            exact List.getElem?_eq_none (List.drop_eq_nil_iff.mp slice)
          simp [outside]
      | cons head later =>
          have here : winners[start + i]? = some head := by
            rw [← Vector.getElem?_toList, ← List.head?_drop, slice, List.head?_cons]
          have next : winners.toList.drop (start + (i + 1)) = later := by
            rw [← Nat.add_assoc, ← List.tail_drop, slice, List.tail_cons]
          simp [here, next]

--------------------------------------------------------------------------------
-- Queued runs
--------------------------------------------------------------------------------

variable {env : Env} {ledger : RevealLedger} {shardIndex : Nat} {accounts : List Pubkey}
  {bracket : BracketState} {run : List Contender}

/-- A run accepted for the final: the recorded finalists in ascending order. -/
structure FinalRun (bracket : BracketState) (accounts : List Pubkey) : Prop where
  needed : bracket.needsFinalReveal
  collected : bracket.allShardsCollected
  unapplied : bracket.applied = false
  counted : accounts.length = bracket.finalistCount
  ascending : accounts.Pairwise (· < ·)
  members : ∀ key ∈ accounts, key ∈ bracket.activeFinalists

theorem QueueChecks.finalRun (checks : QueueChecks env ledger shardIndex accounts bracket run)
    (final : shardIndex = finalShardIndex) : FinalRun bracket accounts := by
  have size := checks.size
  rw [runSize, if_pos final] at size
  simp only [bind_eq_ok, require_eq_ok, exists_const, pure_eq_ok] at size
  obtain ⟨needed, collected, unapplied, counted⟩ := size
  have placed := checks.read.placed
  rw [runPlace, if_pos final, placed_final] at placed
  exact ⟨needed, collected, unapplied, counted.symm, placed.1, placed.2⟩

/-- The final is none of the shards that a bracket has room for. -/
theorem ne_finalShardIndex {k count : Nat} (inside : k < count) (few : count ≤ maxShards)
    : k ≠ finalShardIndex := by
  simp only [maxShards, finalShardIndex] at few ⊢
  omega

/-- A run accepted for an ordinary shard: as long as declared, and placed within its bounds. -/
theorem QueueChecks.shardRun (checks : QueueChecks env ledger shardIndex accounts bracket run)
    (ordinary : shardIndex ≠ finalShardIndex)
    : bracket.shardSizes[shardIndex]? = some accounts.length
      ∧ Placed (shardPlace bracket.shardBounds bracket.shardCount shardIndex) 0 0 accounts := by
  have size := checks.size
  rw [runSize, if_neg ordinary] at size
  simp only [bind_eq_ok, require_eq_ok, exists_const, fetch_eq_ok] at size
  have placed := checks.read.placed
  rw [runPlace, if_neg ordinary] at placed
  exact ⟨size.2, placed⟩

/-- The run of the final is the recorded finalists, sorted. -/
theorem FinalRun.perm (final : FinalRun bracket accounts)
    : accounts.Perm bracket.activeFinalists := by
  have size : bracket.activeFinalists.length ≤ accounts.length := by
    rw [final.counted, BracketState.activeFinalists, List.length_take]
    exact Nat.min_le_left _ _
  exact (List.subperm_of_subset (final.ascending.imp ne_of_lt)
    final.members).perm_of_length_le size

/-- Queueing the final leaves the run itself as the recorded finalists. -/
theorem FinalRun.activeFinalists_afterQueue (final : FinalRun bracket accounts)
    (bounded : bracket.finalistCount ≤ maxFinalists)
    : (afterQueue bracket finalShardIndex accounts).activeFinalists = accounts := by
  have fits : 0 + accounts.length ≤ maxFinalists := by
    rw [Nat.zero_add, final.counted]
    exact bounded
  have written : (writeFinalists bracket.finalists 0 accounts).toList.take
      (0 + accounts.length) = bracket.finalists.toList.take 0 ++ accounts :=
    take_writeFinalists fits
  rw [Nat.zero_add, List.take_zero, List.nil_append, final.counted] at written
  rw [afterQueue, if_pos rfl]
  exact written

end SecretGarden.Bracket
