import SecretGarden.Bracket.Recording

/-! The insertion of a tier-1 winner with every array access checked, and sequences of
insertions into an account that starts without winners.
-/

namespace SecretGarden.Bracket

--------------------------------------------------------------------------------
-- The insertion with checked accesses
--------------------------------------------------------------------------------

/-- Overwrite the winner at index `i`; nothing when the index leaves the array. -/
def writeWinner (winners : Vector Pubkey maxTier1Winners) (i : Nat) (key : Pubkey)
    : Option (Vector Pubkey maxTier1Winners) :=
  if i < maxTier1Winners then some (winners.setIfInBounds i key) else none

/-- The scan of `insertWinnerSorted` with checked reads: the outer option is empty when a
read leaves the array, the inner one when the key is present.
-/
def scanWinnersChecked (winners : Vector Pubkey maxTier1Winners) (key : Pubkey)
    : (i remaining : Nat) → Option (Option Nat)
  | i, 0 => some (some i)
  | i, remaining + 1 => do
      let winner ← winners[i]?
      if winner = key then some none
      else if key < winner then some (some i)
      else scanWinnersChecked winners key (i + 1) remaining

/-- The shift of `insertWinnerSorted` with checked reads and writes. -/
def shiftWinnersChecked (pos : Nat) (winners : Vector Pubkey maxTier1Winners)
    : (i : Nat) → Option (Vector Pubkey maxTier1Winners)
  | 0 => some winners
  | i + 1 =>
      if pos < i + 1 then do
        let below ← winners[i]?
        let moved ← writeWinner winners (i + 1) below
        shiftWinnersChecked pos moved i
      else some winners

/-- One call of `insert_winner_sorted`: the state it leaves and its answer; nothing when
an access leaves the array.
-/
def insertWinnerChecked (tier1 : Tier1State) (key : Pubkey) : Option (Tier1State × Bool) :=
  if maxTier1Winners ≤ tier1.winnerCount then some (tier1, false)
  else do
    let scanned ← scanWinnersChecked tier1.winners key 0 tier1.winnerCount
    match scanned with
    | none => some (tier1, false)
    | some pos =>
        let shifted ← shiftWinnersChecked pos tier1.winners tier1.winnerCount
        let placed ← writeWinner shifted pos key
        some ({ tier1 with winners := placed, winnerCount := tier1.winnerCount + 1 }, true)

/-- The calls on the keys in turn, with the answer to each. -/
def insertKeys (tier1 : Tier1State) : (keys : List Pubkey) → Option (Tier1State × List Bool)
  | [] => some (tier1, [])
  | key :: rest => do
      let (next, answer) ← insertWinnerChecked tier1 key
      let (final, answers) ← insertKeys next rest
      some (final, answer :: answers)

--------------------------------------------------------------------------------
-- No access leaves the array
--------------------------------------------------------------------------------

/-- A scan within the array reads inside it, by induction on what remains. -/
theorem scanWinnersChecked_eq {winners : Vector Pubkey maxTier1Winners} {key : Pubkey}
    {i remaining : Nat} (inside : i + remaining ≤ maxTier1Winners)
    : scanWinnersChecked winners key i remaining = some (scanWinners winners key i remaining) := by
  induction remaining generalizing i with
  | zero => rfl
  | succ remaining ih =>
      have read : winners[i]? = some (winners[i]?.getD 0) := by
        have bound : i < maxTier1Winners := by omega
        simp [bound]
      rw [scanWinnersChecked, read, scanWinners]
      simp only [Option.bind_eq_bind, Option.bind_some]
      rw [ih (by omega)]
      split
      · rfl
      · split <;> rfl

/-- A scan stops at the end at the latest, by induction on what remains. -/
theorem scanWinners_le {winners : Vector Pubkey maxTier1Winners} {key : Pubkey}
    {i remaining pos : Nat} (found : scanWinners winners key i remaining = some pos)
    : pos ≤ i + remaining := by
  induction remaining generalizing i with
  | zero =>
      cases found
      exact Nat.le_refl _
  | succ remaining ih =>
      rw [scanWinners] at found
      split at found
      · cases found
      · split at found
        · cases found
          omega
        · have later := ih found
          omega

/-- A shift from within the array stays inside it, by induction on the position. -/
theorem shiftWinnersChecked_eq {pos i : Nat} {winners : Vector Pubkey maxTier1Winners}
    (inside : i < maxTier1Winners)
    : shiftWinnersChecked pos winners i = some (shiftWinners pos winners i) := by
  induction i generalizing winners with
  | zero => rfl
  | succ i ih =>
      have read : winners[i]? = some (winners[i]?.getD 0) := by
        have bound : i < maxTier1Winners := by omega
        simp [bound]
      rw [shiftWinnersChecked, read, shiftWinners]
      simp only [Option.bind_eq_bind, Option.bind_some, writeWinner, if_pos inside]
      rw [ih (by omega)]
      split <;> rfl

/-- Every call stays inside the array, and answers as `insertWinnerSorted` does. -/
theorem insertWinnerChecked_eq (tier1 : Tier1State) (key : Pubkey)
    : insertWinnerChecked tier1 key
      = some (match tier1.insertWinnerSorted key with
        | none => (tier1, false)
        | some next => (next, true)) := by
  rw [insertWinnerChecked, Tier1State.insertWinnerSorted]
  by_cases full : maxTier1Winners ≤ tier1.winnerCount
  · rw [if_pos full, if_pos full]
  · have roomy : tier1.winnerCount < maxTier1Winners := by omega
    have scanned
        : scanWinnersChecked tier1.winners key 0 tier1.winnerCount
          = some (scanWinners tier1.winners key 0 tier1.winnerCount) :=
      scanWinnersChecked_eq (by omega)
    rw [if_neg full, if_neg full, scanned]
    cases found : scanWinners tier1.winners key 0 tier1.winnerCount with
    | none => rfl
    | some pos =>
        have placed := scanWinners_le found
        have inside : pos < maxTier1Winners := by omega
        simp only [Option.bind_eq_bind, Option.bind_some, shiftWinnersChecked_eq roomy,
          writeWinner, if_pos inside]

--------------------------------------------------------------------------------
-- Sequences of calls
--------------------------------------------------------------------------------

/-- A call on sorted winners is refused, and changes nothing, exactly when the key is
present or the array is full.
-/
theorem SortedWinners.insertWinnerChecked {tier1 : Tier1State} (sorted : SortedWinners tier1)
    (key : Pubkey)
    : ∃ next answer,
        insertWinnerChecked tier1 key = some (next, answer)
        ∧ (answer = false
            ↔ key ∈ tier1.activeWinners ∨ tier1.activeWinners.length = maxTier1Winners)
        ∧ (answer = false → next = tier1)
        ∧ SortedWinners next
        ∧ ∀ other, other ∈ next.activeWinners
            ↔ other ∈ tier1.activeWinners ∨ other = key ∧ answer = true := by
  rw [insertWinnerChecked_eq, sorted.length_activeWinners]
  rcases sorted.insertWinnerSorted_eq key
    with ⟨refused, reason⟩ | ⟨winners, inserted, roomy, absent, _⟩
  · rw [refused]
    exact ⟨tier1, false, rfl, by simpa using reason.symm, fun _ => rfl, sorted, by simp⟩
  · have recorded := sorted.insert inserted
    rw [inserted]
    refine ⟨_, true, rfl, by simp [absent, roomy.ne], nofun, recorded.sorted, ?_⟩
    intro other
    rw [recorded.members.mem_iff]
    simp

/-- Calls on sorted winners succeed, keep them sorted and add the keys answered with
true, by induction on the keys.
-/
theorem SortedWinners.insertKeys {tier1 : Tier1State} (sorted : SortedWinners tier1)
    (keys : List Pubkey)
    : ∃ final answers,
        insertKeys tier1 keys = some (final, answers)
        ∧ answers.length = keys.length
        ∧ SortedWinners final
        ∧ ∀ key, key ∈ final.activeWinners
            ↔ key ∈ tier1.activeWinners ∨ (key, true) ∈ keys.zip answers := by
  induction keys generalizing tier1 with
  | nil => exact ⟨tier1, [], rfl, rfl, sorted, by simp⟩
  | cons key rest ih =>
      obtain ⟨next, answer, called, _, _, kept, added⟩ := sorted.insertWinnerChecked key
      obtain ⟨final, answers, success, counted, ascending, members⟩ := ih kept
      refine ⟨final, answer :: answers, ?_, by simp [counted], ascending, ?_⟩
      · simp only [Bracket.insertKeys, called, success, Option.bind_eq_bind, Option.bind_some]
      · intro other
        rw [members other, added other, List.zip_cons_cons, List.mem_cons, Prod.mk.injEq,
          or_assoc, @eq_comm _ answer]

/-- From an account without winners any calls succeed. The winners are strictly ascending
and are the keys answered with true; the call that comes next is refused, and changes
nothing, exactly when its key is present or the array is full.
-/
theorem insertKeys_ascending {tier1 : Tier1State} (empty : tier1.winnerCount = 0)
    (keys : List Pubkey)
    : ∃ final answers,
        insertKeys tier1 keys = some (final, answers)
        ∧ answers.length = keys.length
        ∧ final.activeWinners.Pairwise (· < ·)
        ∧ (∀ key, key ∈ final.activeWinners ↔ (key, true) ∈ keys.zip answers)
        ∧ ∀ key, ∃ next answer,
            insertWinnerChecked final key = some (next, answer)
            ∧ (answer = false
                ↔ key ∈ final.activeWinners ∨ final.activeWinners.length = maxTier1Winners)
            ∧ (answer = false → next = final) := by
  have none : tier1.activeWinners = [] := by
    rw [Tier1State.activeWinners, empty, List.take_zero]
  have sorted : SortedWinners tier1 := ⟨by omega, by rw [none]; exact List.Pairwise.nil⟩
  obtain ⟨final, answers, success, counted, kept, members⟩ := sorted.insertKeys keys
  refine ⟨final, answers, success, counted, kept.ascending, ?_, ?_⟩
  · intro key
    rw [members key, none]
    simp
  · intro key
    obtain ⟨next, answer, called, refused, unchanged, _⟩ := kept.insertWinnerChecked key
    exact ⟨next, answer, called, refused, unchanged⟩

/-- An account without winners; its array still holds an old key. -/
def vacantTier1 : Tier1State :=
  { round := 1
    shardBounds := Vector.replicate _ 0
    winners := Vector.replicate _ 7
    shardSizes := Vector.replicate _ 0
    shardDone := Vector.replicate _ false
    shardCount := 4
    winnerCount := 0
    promoted := false
    generation := 0 }

/-- The key left in the array is inserted at first and refused the second time. -/
theorem insertKeys_ascending_vacant
    : ∃ final answers,
        insertKeys vacantTier1 [7, 3, 7] = some (final, answers)
        ∧ answers = [true, true, false]
        ∧ final.activeWinners = [3, 7]
        ∧ final.activeWinners.Pairwise (· < ·)
        ∧ ∀ key, key ∈ final.activeWinners ↔ (key, true) ∈ [7, 3, 7].zip answers := by
  obtain ⟨final, answers, success, _, ascending, members, _⟩ :=
    insertKeys_ascending (show vacantTier1.winnerCount = 0 from rfl) [7, 3, 7]
  have evaluated
      : (insertKeys vacantTier1 [7, 3, 7]).map
          (fun result => (result.1.activeWinners, result.2))
        = some ([3, 7], [true, true, false]) := by decide
  rw [success] at evaluated
  obtain ⟨active, answered⟩ := Prod.mk.inj (Option.some.inj evaluated)
  exact ⟨final, answers, success, answered, active, ascending, members⟩

end SecretGarden.Bracket
