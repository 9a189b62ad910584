import SecretGarden.Bracket.Inversion
import Mathlib.Data.List.Sort

/-! How winners are recorded: resolved slots are appended to the finalists, or inserted
among the sorted tier-1 winners.
-/

namespace SecretGarden.Bracket

open Foundation

/-- Resolving slots succeeds exactly when every slot is in range, with the keys there, by
induction on the slots.
-/
theorem pickWinners_eq_ok {keys picked : List Pubkey} {size : Nat} {slots : List Nat}
    : pickWinners keys size slots = .ok picked
      ↔ (∀ slot ∈ slots, slot < size) ∧ slots.map (keys[·]?) = picked.map some := by
  induction slots generalizing picked with
  | nil => cases picked <;> simp [pickWinners, pure_eq_ok]
  | cons slot rest ih =>
      simp only [pickWinners, pickWinner, bind_eq_ok, require_eq_ok, fetch_eq_ok,
        exists_const, pure_eq_ok, ih]
      constructor
      · rintro ⟨key, ⟨inside, found⟩, later, ⟨ranged, resolved⟩, rfl⟩
        exact ⟨List.forall_mem_cons.mpr ⟨inside, ranged⟩, by simp [found, resolved]⟩
      · rintro ⟨ranged, resolved⟩
        obtain ⟨inside, ranged⟩ := List.forall_mem_cons.mp ranged
        cases picked with
        | nil => simp at resolved
        | cons key later =>
            obtain ⟨found, resolved⟩ := List.cons.inj resolved
            exact ⟨key, ⟨inside, found⟩, later, ⟨ranged, resolved⟩, rfl⟩

/-- Only the first `size` keys are ever picked. -/
theorem pickWinners_take {keys picked : List Pubkey} {size : Nat} {slots : List Nat}
    : pickWinners (keys.take size) size slots = .ok picked
      ↔ pickWinners keys size slots = .ok picked := by
  rw [pickWinners_eq_ok, pickWinners_eq_ok]
  refine and_congr_right fun ranged => ?_
  rw [List.map_congr_left fun slot listed => List.getElem?_take_of_lt (ranged slot listed)]

/-- Overwriting keeps what precedes it, by induction on the keys. -/
theorem take_writeFinalists {finalists : Vector Pubkey maxFinalists} {i : Nat}
    {keys : List Pubkey} (fits : i + keys.length ≤ maxFinalists)
    : (writeFinalists finalists i keys).toList.take (i + keys.length)
      = finalists.toList.take i ++ keys := by
  induction keys generalizing finalists i with
  | nil => simp [writeFinalists]
  | cons key rest ih =>
      have inside : i < finalists.toList.length := by
        rw [Vector.length_toList]
        simp only [List.length_cons] at fits
        omega
      rw [writeFinalists, List.length_cons, Nat.add_comm rest.length 1, ← Nat.add_assoc,
        ih (by simp only [List.length_cons] at fits; omega), Vector.toList_setIfInBounds,
        List.take_succ_eq_append_getElem (by simpa using inside), List.getElem_set_self,
        List.take_set_of_le (Nat.le_refl i), List.append_assoc, List.singleton_append]

/-- The bracket with keys appended to its finalists. -/
def appendFinalists (bracket : BracketState) (keys : List Pubkey) : BracketState :=
  { bracket with
    finalists := writeFinalists bracket.finalists bracket.finalistCount keys
    finalistCount := bracket.finalistCount + keys.length }

/-- Appended keys follow the earlier finalists. -/
theorem activeFinalists_append {bracket : BracketState} {keys : List Pubkey}
    (fits : bracket.finalistCount + keys.length ≤ maxFinalists)
    : (appendFinalists bracket keys).activeFinalists = bracket.activeFinalists ++ keys :=
  take_writeFinalists fits

/-- Recording keys succeeds exactly when they fit, by induction on the keys. -/
theorem pushFinalists_eq_ok {keys : List Pubkey} {bracket recorded : BracketState}
    : pushFinalists keys bracket = .ok recorded
      ↔ (keys ≠ [] → bracket.finalistCount + keys.length ≤ maxFinalists)
        ∧ appendFinalists bracket keys = recorded := by
  induction keys generalizing bracket with
  | nil => simp [pushFinalists, pure_eq_ok, appendFinalists, writeFinalists]
  | cons key rest ih =>
      simp only [pushFinalists, pushFinalist, bind_eq_ok, require_eq_ok, exists_const,
        pure_eq_ok]
      constructor
      · rintro ⟨_, ⟨inside, rfl⟩, pushed⟩
        obtain ⟨fits, rfl⟩ := ih.mp pushed
        refine ⟨fun _ => ?_, ?_⟩
        · cases rest with
          | nil => exact inside
          | cons next rest =>
              have := fits (by simp)
              simp only [List.length_cons] at this ⊢
              omega
        · simp [appendFinalists, writeFinalists, Nat.add_assoc, Nat.add_comm 1]
      · rintro ⟨fits, rfl⟩
        have bounded := fits (by simp)
        simp only [List.length_cons] at bounded
        refine ⟨_, ⟨by omega, rfl⟩, ih.mpr ⟨fun _ => by dsimp only; omega, ?_⟩⟩
        simp [appendFinalists, writeFinalists, Nat.add_assoc, Nat.add_comm 1]

/-- Recorded keys follow the earlier finalists. -/
theorem activeFinalists_of_push {keys : List Pubkey} {bracket recorded : BracketState}
    (counted : bracket.finalistCount ≤ maxFinalists)
    (pushed : pushFinalists keys bracket = .ok recorded)
    : recorded.activeFinalists = bracket.activeFinalists ++ keys := by
  obtain ⟨fits, rfl⟩ := pushFinalists_eq_ok.mp pushed
  apply activeFinalists_append
  cases keys with
  | nil => exact counted
  | cons key rest => exact fits (by simp)

/-- Resolving and recording slot by slot is resolving all and then recording all, by
induction on the slots.
-/
theorem recordFinalists_eq_ok {keys : List Pubkey} {size : Nat} {slots : List Nat}
    {bracket recorded : BracketState}
    : recordFinalists keys size slots bracket = .ok recorded
      ↔ ∃ picked,
          pickWinners keys size slots = .ok picked
          ∧ pushFinalists picked bracket = .ok recorded := by
  induction slots generalizing bracket with
  | nil => simp [recordFinalists, pickWinners, pushFinalists, pure_eq_ok]
  | cons slot rest ih =>
      simp only [recordFinalists, pickWinners, bind_eq_ok, pure_eq_ok, ih]
      constructor
      · rintro ⟨key, chosen, next, pushed, later, resolved, recorded⟩
        exact ⟨_, ⟨key, chosen, later, resolved, rfl⟩,
          by simpa only [pushFinalists, bind_eq_ok] using ⟨next, pushed, recorded⟩⟩
      · rintro ⟨_, ⟨key, chosen, later, resolved, rfl⟩, recorded⟩
        simp only [pushFinalists, bind_eq_ok] at recorded
        obtain ⟨next, pushed, recorded⟩ := recorded
        exact ⟨key, chosen, next, pushed, later, resolved, recorded⟩

--------------------------------------------------------------------------------
-- Tier-1 winners
--------------------------------------------------------------------------------

/-- The scan of a sorted segment finds the position after the smaller keys, or the key
itself, by induction on the segment.
-/
theorem scanWinners_eq {winners : Vector Pubkey maxTier1Winners} {key : Pubkey}
    {i remaining : Nat} (inside : i + remaining ≤ maxTier1Winners)
    (ascending : ((winners.toList.drop i).take remaining).Pairwise (· < ·))
    : scanWinners winners key i remaining
      = if key ∈ (winners.toList.drop i).take remaining then none
        else some (i + (((winners.toList.drop i).take remaining).takeWhile (· < key)).length) := by
  induction remaining generalizing i with
  | zero => simp [scanWinners]
  | succ remaining ih =>
      have bound : i < winners.toList.length := by
        rw [Vector.length_toList]
        omega
      have segment
          : (winners.toList.drop i).take (remaining + 1)
            = winners.toList[i] :: (winners.toList.drop (i + 1)).take remaining := by
        rw [List.drop_eq_getElem_cons bound, List.take_succ_cons]
      rw [segment] at ascending ⊢
      obtain ⟨below, later⟩ := List.pairwise_cons.mp ascending
      have here : winners[i]?.getD 0 = winners.toList[i] := by
        rw [← Vector.getElem?_toList, List.getElem?_eq_getElem bound, Option.getD_some]
      rw [scanWinners, here]
      rcases Nat.lt_trichotomy winners.toList[i] key with smaller | same | larger
      · rw [ih (by omega) later]
        simp only [smaller.ne, smaller.asymm, ↓reduceIte, List.mem_cons, smaller.ne',
          false_or, List.takeWhile_cons, smaller, decide_true, List.length_cons]
        congr 2
        omega
      · simp [same]
      · have absent : key ∉ winners.toList[i] :: (winners.toList.drop (i + 1)).take remaining := by
          intro member
          rcases List.mem_cons.mp member with same | later
          · exact absurd same larger.ne
          · exact absurd (below key later) larger.asymm
        rw [if_neg larger.ne', if_pos larger, if_neg absent]
        simp only [List.takeWhile_cons, larger.asymm, decide_false, Bool.false_eq_true,
          ↓reduceIte, List.length_nil, Nat.add_zero]

/-- Shifting moves the positions above `pos` up by one, by induction on the position. -/
theorem getElem?_shiftWinners {pos i j : Nat} {winners : Vector Pubkey maxTier1Winners}
    (inside : i < maxTier1Winners)
    : (shiftWinners pos winners i)[j]?
      = if pos < j ∧ j ≤ i then winners[j - 1]? else winners[j]? := by
  induction i generalizing winners with
  | zero =>
      rw [shiftWinners, if_neg (by omega)]
  | succ i ih =>
      rw [shiftWinners]
      by_cases above : pos < i + 1
      · rw [if_pos above, ih (by omega)]
        rcases Nat.lt_trichotomy j (i + 1) with lower | same | higher
        · have apart : i + 1 ≠ j - 1 := by omega
          simp [lower.ne', apart, Nat.le_of_lt_succ lower, lower.le]
        · subst same
          have source : i < maxTier1Winners := by omega
          simp [above, inside, source]
        · have apart : i + 1 ≠ j := by omega
          have outside : ¬ (pos < j ∧ j ≤ i) := by omega
          have outside' : ¬ (pos < j ∧ j ≤ i + 1) := by omega
          simp [outside, outside', apart]
      · have outside : ¬ (pos < j ∧ j ≤ i + 1) := by omega
        simp [above, outside]

/-- Shifting and then writing splits the first winners around the written key. -/
theorem take_insert {winners : Vector Pubkey maxTier1Winners} {pos count : Nat}
    {key : Pubkey} (inside : count < maxTier1Winners) (placed : pos ≤ count)
    : ((shiftWinners pos winners count).setIfInBounds pos key).toList.take (count + 1)
      = (winners.toList.take count).take pos ++ key :: (winners.toList.take count).drop pos := by
  have bound : count < winners.toList.length := by rwa [Vector.length_toList]
  apply List.ext_getElem?
  intro j
  rw [List.getElem?_take, Vector.getElem?_toList]
  have front : ((winners.toList.take count).take pos).length = pos := by
    simp only [List.length_take]
    omega
  rcases Nat.lt_trichotomy j pos with before | same | behind
  · have apart : pos ≠ j := by omega
    have outside : ¬ (pos < j ∧ j ≤ count) := by omega
    rw [List.getElem?_append_left (by omega), if_pos (by omega),
      Vector.getElem?_setIfInBounds_ne apart, getElem?_shiftWinners inside, if_neg outside,
      List.getElem?_take, if_pos before, List.getElem?_take, if_pos (by omega),
      Vector.getElem?_toList]
  · subst same
    rw [List.getElem?_append_right (by omega), front, Nat.sub_self, List.getElem?_cons_zero,
      if_pos (by omega), Vector.getElem?_setIfInBounds_self_of_lt (by omega)]
  · obtain ⟨offset, rfl⟩ := Nat.exists_eq_add_of_lt behind
    have apart : pos ≠ pos + offset + 1 := by omega
    rw [List.getElem?_append_right (by omega), front,
      Vector.getElem?_setIfInBounds_ne apart, getElem?_shiftWinners inside]
    rw [show pos + offset + 1 - pos = offset + 1 by omega, List.getElem?_cons_succ,
      List.getElem?_drop, List.getElem?_take, Vector.getElem?_toList]
    by_cases within : pos + offset < count
    · rw [if_pos (by omega), if_pos (by omega), if_pos within, Nat.add_sub_cancel]
    · rw [if_neg (by omega), if_neg within]

/-- Winners within capacity and strictly ascending. -/
structure SortedWinners (tier1 : Tier1State) : Prop where
  counted : tier1.winnerCount ≤ maxTier1Winners
  ascending : tier1.activeWinners.Pairwise (· < ·)

/-- As many winners are active as are counted. -/
theorem SortedWinners.length_activeWinners {tier1 : Tier1State} (sorted : SortedWinners tier1)
    : tier1.activeWinners.length = tier1.winnerCount := by
  rw [Tier1State.activeWinners, List.length_take, Vector.length_toList]
  exact Nat.min_eq_left sorted.counted

/-- Inserting into sorted winners: refused when full or present, otherwise the key takes
its place in the order.
-/
theorem SortedWinners.insertWinnerSorted_eq {tier1 : Tier1State}
    (sorted : SortedWinners tier1) (key : Pubkey)
    : (tier1.insertWinnerSorted key = none
        ∧ (tier1.winnerCount = maxTier1Winners ∨ key ∈ tier1.activeWinners))
      ∨ ∃ winners,
          tier1.insertWinnerSorted key
            = some { tier1 with winners := winners, winnerCount := tier1.winnerCount + 1 }
          ∧ tier1.winnerCount < maxTier1Winners
          ∧ key ∉ tier1.activeWinners
          ∧ winners.toList.take (tier1.winnerCount + 1)
            = tier1.activeWinners.orderedInsert (· ≤ ·) key := by
  rcases sorted.counted.eq_or_lt with full | roomy
  · exact Or.inl ⟨by rw [Tier1State.insertWinnerSorted, if_pos full.ge], Or.inl full⟩
  · have scanned : scanWinners tier1.winners key 0 tier1.winnerCount
        = if key ∈ tier1.activeWinners then none
          else some (0 + (tier1.activeWinners.takeWhile (· < key)).length) :=
      scanWinners_eq (by omega) sorted.ascending
    rw [Nat.zero_add] at scanned
    rw [Tier1State.insertWinnerSorted, if_neg (by omega), scanned]
    by_cases present : key ∈ tier1.activeWinners
    · exact Or.inl ⟨by rw [if_pos present], Or.inr present⟩
    · rw [if_neg present]
      refine Or.inr ⟨_, rfl, roomy, present, ?_⟩
      have placed : (tier1.activeWinners.takeWhile (· < key)).length ≤ tier1.winnerCount :=
        (List.takeWhile_sublist _).length_le.trans sorted.length_activeWinners.le
      have front : tier1.activeWinners.takeWhile (· < key)
          = tier1.activeWinners.take (tier1.activeWinners.takeWhile (· < key)).length :=
        List.prefix_iff_eq_take.mp (List.takeWhile_prefix _)
      have back : (tier1.activeWinners.takeWhile (· < key)
            ++ tier1.activeWinners.dropWhile (· < key)).drop
              (tier1.activeWinners.takeWhile (· < key)).length
          = tier1.activeWinners.dropWhile (· < key) :=
        List.drop_left
      rw [List.takeWhile_append_dropWhile] at back
      rw [take_insert roomy placed, List.orderedInsert_eq_take_drop]
      simp only [not_le]
      exact congrArg₂ (· ++ key :: ·) front.symm back

/-- Inserting keys one after the other. -/
def insertWinners (tier1 : Tier1State) : (keys : List Pubkey) → Option Tier1State
  | [] => some tier1
  | key :: rest => (tier1.insertWinnerSorted key).bind fun next => insertWinners next rest

/-- Resolving and inserting slot by slot is resolving all and then inserting all, by
induction on the slots.
-/
theorem recordWinners_eq_ok {keys : List Pubkey} {size : Nat} {slots : List Nat}
    {tier1 recorded : Tier1State}
    : recordWinners keys size slots tier1 = .ok recorded
      ↔ ∃ picked,
          pickWinners keys size slots = .ok picked
          ∧ insertWinners tier1 picked = some recorded := by
  induction slots generalizing tier1 with
  | nil => simp [recordWinners, pickWinners, insertWinners, pure_eq_ok]
  | cons slot rest ih =>
      simp only [recordWinners, pickWinners, bind_eq_ok, fetch_eq_ok, pure_eq_ok, ih]
      constructor
      · rintro ⟨key, chosen, next, inserted, later, resolved, recorded⟩
        exact ⟨_, ⟨key, chosen, later, resolved, rfl⟩,
          Option.bind_eq_some_iff.mpr ⟨next, inserted, recorded⟩⟩
      · rintro ⟨_, ⟨key, chosen, later, resolved, rfl⟩, recorded⟩
        obtain ⟨next, inserted, recorded⟩ := Option.bind_eq_some_iff.mp recorded
        exact ⟨key, chosen, next, inserted, later, resolved, recorded⟩

/-- Only the winners of the tier-1 account differ. -/
def WinnersOnly (tier1 recorded : Tier1State) : Prop :=
  recorded = { tier1 with winners := recorded.winners, winnerCount := recorded.winnerCount }

/-- Insertions change the winners only, by induction on the keys. -/
theorem insertWinners_winnersOnly {tier1 recorded : Tier1State} {keys : List Pubkey}
    (success : insertWinners tier1 keys = some recorded) : WinnersOnly tier1 recorded := by
  induction keys generalizing tier1 with
  | nil =>
      cases success
      rfl
  | cons key rest ih =>
      obtain ⟨next, inserted, success⟩ := Option.bind_eq_some_iff.mp success
      have first : WinnersOnly tier1 next := by
        unfold Tier1State.insertWinnerSorted at inserted
        split at inserted
        · cases inserted
        · split at inserted
          · cases inserted
          · cases inserted
            rfl
      have later := ih success
      rw [WinnersOnly] at first later ⊢
      rw [later, first]

/-- The tier-1 account with new winners among its old ones. -/
structure WinnersInserted (tier1 recorded : Tier1State) (keys : List Pubkey) : Prop where
  frame : WinnersOnly tier1 recorded
  sorted : SortedWinners recorded
  members : recorded.activeWinners.Perm (tier1.activeWinners ++ keys)

/-- One successful insertion, by the insertion rule for sorted winners. -/
theorem SortedWinners.insert {tier1 next : Tier1State} {key : Pubkey}
    (sorted : SortedWinners tier1) (success : tier1.insertWinnerSorted key = some next)
    : WinnersInserted tier1 next [key] := by
  rcases sorted.insertWinnerSorted_eq key
    with ⟨refused, _⟩ | ⟨winners, inserted, roomy, absent, placed⟩
  · rw [refused] at success
    cases success
  · rw [inserted] at success
    cases success
    have members : (winners.toList.take (tier1.winnerCount + 1)).Perm
        (key :: tier1.activeWinners) := by
      rw [placed]
      exact List.perm_orderedInsert _ _ _
    have distinct : (winners.toList.take (tier1.winnerCount + 1)).Nodup :=
      members.nodup_iff.mpr
        (List.nodup_cons.mpr ⟨absent, sorted.ascending.imp ne_of_lt⟩)
    have ordered : (winners.toList.take (tier1.winnerCount + 1)).Pairwise (· ≤ ·) := by
      rw [placed]
      exact (sorted.ascending.imp le_of_lt).orderedInsert key _
    refine ⟨rfl, ⟨roomy, ?_⟩, members.trans (List.perm_append_singleton _ _).symm⟩
    exact (ordered.and distinct).imp fun ⟨below, apart⟩ => lt_of_le_of_ne below apart

/-- Successful insertions keep the winners sorted, by induction on the keys. -/
theorem SortedWinners.insertWinners {tier1 recorded : Tier1State} {keys : List Pubkey}
    (sorted : SortedWinners tier1) (success : insertWinners tier1 keys = some recorded)
    : WinnersInserted tier1 recorded keys := by
  have frame := insertWinners_winnersOnly success
  induction keys generalizing tier1 with
  | nil =>
      cases success
      exact ⟨frame, sorted, by simp⟩
  | cons key rest ih =>
      obtain ⟨next, inserted, remaining⟩ := Option.bind_eq_some_iff.mp success
      have first := sorted.insert inserted
      have later := ih first.sorted remaining (insertWinners_winnersOnly remaining)
      have appended := later.members.trans (first.members.append_right rest)
      exact ⟨frame, later.sorted, by simpa using appended⟩

/-- New distinct keys within capacity are all inserted, by induction on the keys. -/
theorem SortedWinners.insertWinners_succeeds {tier1 : Tier1State} {keys : List Pubkey}
    (sorted : SortedWinners tier1)
    (fits : tier1.winnerCount + keys.length ≤ maxTier1Winners)
    (distinct : (tier1.activeWinners ++ keys).Nodup)
    : ∃ recorded, Bracket.insertWinners tier1 keys = some recorded := by
  induction keys generalizing tier1 with
  | nil => exact ⟨tier1, rfl⟩
  | cons key rest ih =>
      simp only [List.length_cons] at fits
      rcases sorted.insertWinnerSorted_eq key
        with ⟨_, full | present⟩ | ⟨winners, inserted, _⟩
      · omega
      · exact (List.disjoint_of_nodup_append distinct present List.mem_cons_self).elim
      · have first := sorted.insert inserted
        obtain ⟨recorded, success⟩ := ih first.sorted (by simp only; omega) (by
          rw [(first.members.append_right rest).nodup_iff]
          simpa using distinct)
        exact ⟨recorded, by rw [Bracket.insertWinners, inserted]; exact success⟩

end SecretGarden.Bracket
