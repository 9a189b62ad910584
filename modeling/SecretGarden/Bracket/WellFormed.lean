import Mathlib.Algebra.Order.BigOperators.Group.List
import Mathlib.Algebra.Order.Ring.Nat
import SecretGarden.Bracket.Slices

/-! The shape of the partition accounts in every reachable reveal state.
A round above one tier's capacity has its bracket only from a promotion, a smaller one only
from a declared partition, and the tier-1 winners stay sorted.
-/

namespace SecretGarden.Bracket

open Foundation

/-- A checked layout bounds the round by its capacity. -/
theorem LayoutChecked.participants_le {capacity : Nat} {shardSizes : Vector Nat capacity}
    {shardBounds : Vector Pubkey capacity} {shardCount participantCount : Nat}
    (layout : LayoutChecked shardSizes shardBounds shardCount participantCount)
    : participantCount ≤ capacity * maxShardSize := by
  have bounded : (shardSizes.toList.take shardCount).sum
      ≤ (shardSizes.toList.take shardCount).length * maxShardSize :=
    List.sum_le_card_nsmul _ _ fun size member => (layout.sizes size member).2
  have short : (shardSizes.toList.take shardCount).length ≤ capacity := by
    simp
  rw [layout.total] at bounded
  exact bounded.trans (Nat.mul_le_mul_right _ short)

/-- The bracket slices these winners evenly into semifinals. -/
structure SlicedInto (bracket : BracketState) (winners : List Pubkey) : Prop where
  winning : 1 ≤ winners.length
  fits : semifinalCount winners.length ≤ maxShards
  count : bracket.shardCount = semifinalCount winners.length
  sizes : bracket.shardSizes = semifinalSizes winners.length
  ascending : winners.Pairwise (· < ·)

/-- A semifinal starts where its slice of the winners does. -/
theorem SlicedInto.storedStart_eq {bracket : BracketState} {winners : List Pubkey} {k : Nat}
    (sliced : SlicedInto bracket winners) (inside : k ≤ bracket.shardCount)
    : storedStart bracket k = sliceStart winners.length (semifinalCount winners.length) k := by
  rw [sliced.count] at inside
  rw [storedStart, sliced.sizes, take_semifinalSizes inside sliced.fits, sliceStart]

/-- A semifinal is as large as its slice of the winners. -/
theorem SlicedInto.size_eq {bracket : BracketState} {winners : List Pubkey} {k : Nat}
    (sliced : SlicedInto bracket winners) (inside : k < bracket.shardCount)
    : bracket.shardSizes[k]?
      = some (balancedSize winners.length (semifinalCount winners.length) k) := by
  rw [sliced.count] at inside
  rw [sliced.sizes, getElem?_semifinalSizes inside sliced.fits]

/-- A semifinal's declared size is the length of its slice. -/
theorem SlicedInto.size_slice {bracket : BracketState} {winners : List Pubkey} {k : Nat}
    (sliced : SlicedInto bracket winners) (inside : k < bracket.shardCount)
    : bracket.shardSizes[k]? = some (winnersSlice winners k).length := by
  rw [sliced.size_eq inside, length_winnersSlice (sliced.count ▸ inside)]

/-- A slice is no larger than a shard. -/
theorem SlicedInto.slice_le {bracket : BracketState} {winners : List Pubkey} {k : Nat}
    (sliced : SlicedInto bracket winners) (inside : k < bracket.shardCount)
    : (winnersSlice winners k).length ≤ maxShardSize := by
  rw [length_winnersSlice (sliced.count ▸ inside)]
  exact (balancedSize_bounds sliced.winning).2

/-- What a semifinal reads from the stored winners is its slice. -/
theorem SlicedInto.take_stored {bracket : BracketState} {tier1 : Tier1State} {k : Nat}
    (sliced : SlicedInto bracket tier1.activeWinners) (sorted : SortedWinners tier1)
    (inside : k < bracket.shardCount)
    : (tier1.winners.toList.drop (storedStart bracket k)).take
        (winnersSlice tier1.activeWinners k).length
      = winnersSlice tier1.activeWinners k := by
  have playing := sliced.count ▸ inside
  rw [length_winnersSlice playing, sliced.storedStart_eq inside.le]
  rw [sorted.length_activeWinners] at playing ⊢
  exact (winnersSlice_take (by simpa using sorted.counted) playing).symm

/-- The bracket of a promotion slices the sorted winners. -/
theorem slicedInto_freshBracket {ledger : RevealLedger} {tier1 : Tier1State}
    (sorted : SortedWinners tier1) (winning : 1 ≤ tier1.winnerCount)
    (fits : semifinalCount tier1.winnerCount ≤ maxShards)
    : SlicedInto (ledger.freshBracket (semifinalSizes tier1.winnerCount)
        (semifinalBounds tier1) (semifinalCount tier1.winnerCount)) tier1.activeWinners := by
  have length := sorted.length_activeWinners
  constructor
  · rwa [length]
  · rwa [length]
  · rw [length]
    rfl
  · rw [length]
    rfl
  · exact sorted.ascending

structure WellFormed (state : JournaledReveal) : Prop where
  tier1 : ∀ {tier1}, state.system.tier1 = some tier1
    → singleTierCapacity < state.system.round.participantCount
      ∧ LayoutChecked tier1.shardSizes tier1.shardBounds tier1.shardCount
        state.system.round.participantCount
      ∧ SortedWinners tier1
  declared : ∀ {bracket}, state.system.bracket = some bracket
    → state.journal.sliced = none
    → LayoutChecked bracket.shardSizes bracket.shardBounds bracket.shardCount
        state.system.round.participantCount
  sliced : ∀ {bracket winners}, state.system.bracket = some bracket
    → state.journal.sliced = some winners
    → SlicedInto bracket winners
  promoted : ∀ {tier1}, state.system.tier1 = some tier1
    → tier1.promoted
    → state.journal.sliced = some tier1.activeWinners
  counted : ∀ {bracket}, state.system.bracket = some bracket
    → bracket.finalistCount ≤ maxFinalists

/-- There is nothing to check before the first instruction. -/
theorem RevealLedger.Unstarted.wellFormed {ledger : RevealLedger}
    (unstarted : ledger.Unstarted) : WellFormed ledger.journaled := by
  constructor
  all_goals simp [RevealLedger.journaled, unstarted.bracket, unstarted.tier1]

variable {state : JournaledReveal} {after : RevealLedger} {journal : Journal}

/-- Same partition, with the finalists still within bounds. -/
structure Refilled (bracket recorded : BracketState) : Prop where
  count : recorded.shardCount = bracket.shardCount
  sizes : recorded.shardSizes = bracket.shardSizes
  bounds : recorded.shardBounds = bracket.shardBounds
  counted : recorded.finalistCount ≤ maxFinalists

/-- Queueing a run refills the bracket at most. -/
theorem refilled_afterQueue {bracket : BracketState} {shardIndex : Nat} {keys : List Pubkey}
    (counted : bracket.finalistCount ≤ maxFinalists)
    : Refilled bracket (afterQueue bracket shardIndex keys) := by
  rw [afterQueue_frame]
  exact ⟨rfl, rfl, rfl, counted⟩

/-- Refilling the bracket's finalists keeps the shape. -/
theorem WellFormed.refill (formed : WellFormed state) {bracket recorded : BracketState}
    (found : state.system.bracket = some bracket) (refilled : Refilled bracket recorded)
    (stored : after.bracket = some recorded)
    (participants : after.round.participantCount = state.system.round.participantCount)
    (tier1 : after.tier1 = state.system.tier1)
    (sliced : journal.sliced = state.journal.sliced)
    : WellFormed ⟨after, journal⟩ := by
  constructor
  · intro tier1' held
    rw [tier1] at held
    rw [participants]
    exact formed.tier1 held
  · intro bracket' held unsliced
    rw [stored] at held
    cases held
    rw [participants, refilled.count, refilled.sizes, refilled.bounds]
    exact formed.declared found (sliced.symm.trans unsliced)
  · intro bracket' winners held some
    rw [stored] at held
    cases held
    have into := formed.sliced found (sliced.symm.trans some)
    exact ⟨into.winning, into.fits, refilled.count.trans into.count,
      refilled.sizes.trans into.sizes, into.ascending⟩
  · intro tier1' held promoted
    rw [tier1] at held
    rw [sliced]
    exact formed.promoted held promoted
  · intro bracket' held
    rw [stored] at held
    cases held
    exact refilled.counted

/-- Leaving both partition accounts alone keeps the shape. -/
theorem WellFormed.quiet (formed : WellFormed state)
    (participants : after.round.participantCount = state.system.round.participantCount)
    (bracket : after.bracket = state.system.bracket)
    (tier1 : after.tier1 = state.system.tier1)
    (sliced : journal.sliced = state.journal.sliced)
    : WellFormed ⟨after, journal⟩ := by
  constructor
  · intro _ held
    rw [participants]
    exact formed.tier1 (tier1.symm.trans held)
  · intro _ held unsliced
    rw [participants]
    exact formed.declared (bracket.symm.trans held) (sliced.symm.trans unsliced)
  · exact fun held slicing =>
      formed.sliced (bracket.symm.trans held) (sliced.symm.trans slicing)
  · exact fun held promoted => sliced.trans (formed.promoted (tier1.symm.trans held) promoted)
  · exact fun held => formed.counted (bracket.symm.trans held)

/-- Recording finalists refills the bracket. -/
theorem refilled_of_push {bracket recorded : BracketState} {keys : List Pubkey}
    {shardIndex : Nat} (counted : bracket.finalistCount ≤ maxFinalists)
    (pushed : pushFinalists keys bracket = .ok recorded)
    : Refilled bracket (markCollected recorded shardIndex) := by
  obtain ⟨fits, rfl⟩ := pushFinalists_eq_ok.mp pushed
  refine ⟨rfl, rfl, rfl, ?_⟩
  cases keys with
  | nil => exact counted
  | cons key rest => exact fits (by simp)

/-- Every accepted instruction keeps the shape, by cases on the instruction. -/
theorem WellFormed.step (formed : WellFormed state) {submission : Submission}
    (success : revealStep state.system submission = .ok after)
    : WellFormed ⟨after, note state.system submission state.journal⟩ := by
  obtain ⟨env, instruction⟩ := submission
  cases instruction with
  | initBracket shardSizes shardBounds shardCount =>
      obtain ⟨_, layout, rfl⟩ := initBracket_eq_ok.mp success
      have small : ∀ {tier1}, state.system.tier1 = some tier1 → False := fun held =>
        absurd (formed.tier1 held).1 (not_lt.mpr layout.participants_le)
      constructor
      · exact formed.tier1
      · rintro _ ⟨⟩ _
        exact layout
      · rintro _ _ _ ⟨⟩
      · exact fun held _ => (small held).elim
      · rintro _ ⟨⟩
        exact Nat.zero_le _
  | promoteTier1 =>
      obtain ⟨tier1, checks, rfl⟩ := promoteTier1_eq_ok.mp success
      obtain ⟨large, layout, sorted⟩ := formed.tier1 checks.found
      have noted : (note state.system ⟨env, .promoteTier1⟩ state.journal).sliced
          = some tier1.activeWinners := by
        simp [note, checks.found]
      constructor
      · rintro _ ⟨⟩
        exact ⟨large, layout, sorted.counted, sorted.ascending⟩
      · intro _ _ none
        rw [noted] at none
        cases none
      · rintro _ winners ⟨⟩ some
        rw [noted] at some
        cases some
        exact slicedInto_freshBracket sorted checks.winners checks.fits
      · rintro _ ⟨⟩ _
        exact noted
      · rintro _ ⟨⟩
        exact Nat.zero_le _
  | initTier1Bracket shardSizes shardBounds shardCount =>
      obtain ⟨_, absent, large, layout, _, rfl⟩ := initTier1Bracket_eq_ok.mp success
      refine ⟨?_, formed.declared, formed.sliced, ?_, formed.counted⟩
      · rintro _ ⟨⟩
        refine ⟨large, layout, Nat.zero_le _, ?_⟩
        rw [activeWinners_freshTier1]
        exact .nil
      · rintro _ ⟨⟩ promoted
        cases promoted
  | closeTier1Bracket =>
      obtain ⟨_, _, _, rfl⟩ := closeTier1Bracket_eq_ok.mp success
      refine ⟨?_, formed.declared, formed.sliced, ?_, formed.counted⟩
      · rintro _ ⟨⟩
      · rintro _ ⟨⟩
  | queueShardReveal computationOffset shardIndex accounts =>
      obtain ⟨bracket, run, checks, _, rfl⟩ := queueShardReveal_eq_ok.mp success
      exact formed.refill checks.found (refilled_afterQueue (formed.counted checks.found))
        rfl rfl rfl rfl
  | queueTier1ShardReveal computationOffset shardIndex accounts =>
      obtain ⟨tier1, run, _, _, rfl⟩ := queueTier1ShardReveal_eq_ok.mp success
      exact formed.quiet rfl rfl rfl rfl
  | queueSemifinalReveal computationOffset semiIndex accounts =>
      obtain ⟨tier1, bracket, run, _, _, rfl⟩ := queueSemifinalReveal_eq_ok.mp success
      exact formed.quiet rfl rfl rfl rfl
  | collectShardWinners shardIndex accounts =>
      obtain ⟨bracket, result, run, recorded, checks, recording, rfl⟩ :=
        collectShardWinners_eq_ok.mp success
      obtain ⟨picked, _, pushed⟩ := recordFinalists_eq_ok.mp recording
      exact formed.refill checks.found (refilled_of_push (formed.counted checks.found) pushed)
        rfl rfl rfl rfl
  | collectSemifinalWinners semiIndex =>
      obtain ⟨tier1, bracket, result, size, picked, recorded, checks, _, pushed, rfl⟩ :=
        collectSemifinalWinners_eq_ok.mp success
      exact formed.refill checks.found (refilled_of_push (formed.counted checks.found) pushed)
        rfl rfl rfl rfl
  | collectTier1Winners shardIndex accounts =>
      obtain ⟨tier1, result, run, recorded, checks, recording, rfl⟩ :=
        collectTier1Winners_eq_ok.mp success
      obtain ⟨picked, _, inserted⟩ := recordWinners_eq_ok.mp recording
      obtain ⟨large, layout, sorted⟩ := formed.tier1 checks.found
      have kept := sorted.insertWinners inserted
      have frame : markDone recorded shardIndex
          = { tier1 with
              winners := recorded.winners
              winnerCount := recorded.winnerCount
              shardDone := recorded.shardDone.setIfInBounds shardIndex true } := by
        rw [kept.frame, markDone]
      refine ⟨?_, formed.declared, formed.sliced, ?_, formed.counted⟩
      · rintro _ ⟨⟩
        refine ⟨large, ?_, kept.sorted.counted, kept.sorted.ascending⟩
        rw [frame]
        exact layout
      · rintro _ ⟨⟩ promoted
        rw [frame] at promoted
        exact absurd promoted (by simp [checks.unpromoted])
  | applyBracketResult resultIndex =>
      obtain ⟨bracket, result, top, checks, _, rfl⟩ := applyBracketResult_eq_ok.mp success
      have counted := formed.counted checks.found
      refine formed.refill checks.found ?_ rfl rfl rfl rfl
      exact ⟨rfl, rfl, rfl, counted⟩
  | revealTop3V5Callback computationOffset verified =>
      obtain ⟨computation, previous, _, _, _, rfl⟩ := revealTop3V5Callback_eq_ok.mp success
      exact formed.quiet rfl rfl rfl (state.journal.deliver_sliced _)

end SecretGarden.Bracket
