import SecretGarden.Bracket.Exactness

/-! A tournament beside everything else that happens to its entries: whatever leaves the partition
accounts alone, and the entries where they stand, leaves it exact.
-/

namespace SecretGarden.Bracket

open Foundation

/-- Only the podiums of the groups that are counted matter. -/
theorem Gathered.reranked {entries others : Store Pubkey CompetitionEntry}
    {groups : Nat → List Pubkey} {count : Nat} {collected : Nat → Prop}
    {recorded : List Pubkey} {order : List Nat}
    (gathered : Gathered entries groups count collected recorded order)
    (alike : ∀ k < count, podium others (groups k) = podium entries (groups k))
    : Gathered others groups count collected recorded order := by
  refine ⟨gathered.unique, gathered.marked, gathered.inside, gathered.members.trans (.of_eq ?_)⟩
  exact List.flatMap_congr fun k listed => (alike k (gathered.inside k listed)).symm

variable {state : JournaledReveal} {after : RevealLedger} {journal : Journal}

/-- The same entries in another order are grouped alike. -/
theorem grouped_perm {bracket : BracketState} {groups : Nat → List Pubkey}
    (field : after.roundEntries.Perm state.system.roundEntries)
    (grouped : Grouped ⟨after, state.journal⟩ bracket groups) : Grouped state bracket groups := by
  unfold Grouped at grouped ⊢
  cases sliced : state.journal.sliced with
  | some winners => simpa only [sliced] using grouped
  | none =>
      simp only [sliced] at grouped
      exact ⟨grouped.1.perm field, grouped.2.trans (Layout.interval_perm field)⟩

/-- Groups consist of entries of the round. -/
theorem TournamentExact.grouped_entries (known : TournamentExact state) {bracket : BracketState}
    {groups : Nat → List Pubkey} (grouped : Grouped state bracket groups) {k : Nat}
    {key : Pubkey} (member : key ∈ groups k) : key ∈ state.system.roundEntries := by
  unfold Grouped at grouped
  split at grouped
  · next winners sliced =>
      subst grouped
      exact (known.sliced sliced).1 key (winnersSlice_sublist.subset member)
  · obtain ⟨_, rfl⟩ := grouped
    exact (Layout.mem_interval.mp member).1

/-- A tournament is unaffected while its partition accounts stay, and its entries stand as they
stood.
-/
theorem TournamentExact.reranked (known : TournamentExact state)
    (field : after.roundEntries.Perm state.system.roundEntries)
    (alike : ∀ key ∈ state.system.roundEntries,
      standings after.entries [key] = standings state.system.entries [key])
    (bracket : after.bracket = state.system.bracket) (tier1 : after.tier1 = state.system.tier1)
    : TournamentExact ⟨after, state.journal⟩ := by
  have podiums {accounts : List Pubkey}
      (entered : ∀ key ∈ accounts, key ∈ state.system.roundEntries)
      : podium after.entries accounts = podium state.system.entries accounts :=
    podium_congr fun key member => alike key (entered key member)
  constructor
  · intro recorded layout stored named splits
    have before : declaredLayout state .tier1 = some layout := by
      rw [← named, declaredLayout, declaredLayout, tier1]
    obtain ⟨order, gathered⟩ := known.tier1 (tier1 ▸ stored) before (splits.perm field)
    rw [Layout.interval_perm field]
    refine ⟨order, gathered.reranked fun k _ => podiums fun key member => ?_⟩
    exact (Layout.mem_interval.mp member).1
  · intro winners sliced
    obtain ⟨drawn, same⟩ := known.sliced sliced
    refine ⟨fun key member => field.mem_iff.mpr (drawn key member), ?_⟩
    rw [podiums drawn, same, podium_perm field, podiums fun _ member => member]
  · intro recorded groups stored grouped
    have before := grouped_perm field grouped
    have alike (k : Nat)
        : podium after.entries (groups k) = podium state.system.entries (groups k) :=
      podiums fun key member => known.grouped_entries before member
    obtain ⟨order, gathered, ordered⟩ := known.bracket (bracket ▸ stored) before
    refine ⟨order, gathered.reranked fun k _ => alike k, fun unqueued => ?_⟩
    rw [ordered unqueued]
    exact List.flatMap_congr fun k _ => (alike k).symm

/-- Before any partition is pinned nothing is recorded. -/
theorem tournamentExact_of_none (bracket : after.bracket = none)
    (tier1 : after.tier1 = none) (sliced : journal.sliced = none)
    : TournamentExact ⟨after, journal⟩ := by
  constructor
  · intro recorded layout stored
    simp [tier1] at stored
  · intro winners promoted
    simp [sliced] at promoted
  · intro recorded groups stored
    simp [bracket] at stored

/-- Only a promotion slices winners, and it leaves a bracket, which stays for good. -/
theorem note_sliced {submission : Submission} {ledger : RevealLedger}
    (known : journal.sliced.isSome → ledger.bracket.isSome)
    (success : revealStep ledger submission = .ok after)
    (sliced : (note ledger submission journal).sliced.isSome) : after.bracket.isSome := by
  obtain ⟨env, instruction⟩ := submission
  cases instruction with
  | initBracket shardSizes shardBounds shardCount => cases sliced
  | promoteTier1 =>
      obtain ⟨_, _, rfl⟩ := promoteTier1_eq_ok.mp success
      rfl
  | initTier1Bracket shardSizes shardBounds shardCount =>
      obtain ⟨_, _, _, _, _, rfl⟩ := initTier1Bracket_eq_ok.mp success
      exact known sliced
  | closeTier1Bracket =>
      obtain ⟨_, _, _, rfl⟩ := closeTier1Bracket_eq_ok.mp success
      exact known sliced
  | queueShardReveal computationOffset shardIndex accounts =>
      obtain ⟨_, _, _, _, rfl⟩ := queueShardReveal_eq_ok.mp success
      rfl
  | queueTier1ShardReveal computationOffset shardIndex accounts =>
      obtain ⟨_, _, _, _, rfl⟩ := queueTier1ShardReveal_eq_ok.mp success
      exact known sliced
  | queueSemifinalReveal computationOffset semiIndex accounts =>
      obtain ⟨_, _, _, _, _, rfl⟩ := queueSemifinalReveal_eq_ok.mp success
      exact known sliced
  | collectShardWinners shardIndex accounts =>
      obtain ⟨_, _, _, _, _, _, rfl⟩ := collectShardWinners_eq_ok.mp success
      rfl
  | collectTier1Winners shardIndex accounts =>
      obtain ⟨_, _, _, _, _, _, rfl⟩ := collectTier1Winners_eq_ok.mp success
      exact known sliced
  | collectSemifinalWinners semiIndex =>
      obtain ⟨_, _, _, _, _, _, _, _, _, rfl⟩ := collectSemifinalWinners_eq_ok.mp success
      rfl
  | applyBracketResult resultIndex =>
      obtain ⟨_, _, _, _, _, rfl⟩ := applyBracketResult_eq_ok.mp success
      rfl
  | revealTop3V5Callback computationOffset verified =>
      obtain ⟨_, _, _, _, _, rfl⟩ := revealTop3V5Callback_eq_ok.mp success
      rw [note, journal.deliver_sliced] at sliced
      exact known sliced

--------------------------------------------------------------------------------
-- What is in flight
--------------------------------------------------------------------------------

section Slots

variable {entries others : Store Pubkey CompetitionEntry} {accounts : List Pubkey}

/-- The entry is there, with what a circuit slot is built from. -/
def SlotKept (entries others : Store Pubkey CompetitionEntry) (key : Pubkey) : Prop :=
  ∃ entry later,
    entries.lookup key = some entry
    ∧ others.lookup key = some later
    ∧ later.encryptedScore = entry.encryptedScore
    ∧ later.scoreNonce = entry.scoreNonce
    ∧ later.raritySnapshot = entry.raritySnapshot

/-- The slots of a run stay with its entries, by induction on the accounts. -/
theorem map_revealSlot_contenders (kept : ∀ key ∈ accounts, SlotKept entries others key)
    : (contenders others accounts).map revealSlot
      = (contenders entries accounts).map revealSlot := by
  induction accounts with
  | nil => rfl
  | cons key rest ih =>
      obtain ⟨here, later⟩ := List.forall_mem_cons.mp kept
      obtain ⟨entry, written, found, held, _, nonce, rarity⟩ := here
      have tail := ih later
      simp only [contenders] at tail
      simp [contenders, found, held, revealSlot, nonce, rarity, tail]

/-- The arguments of a computation are its slots. -/
theorem buildRevealArgs_congr {run other : List Contender}
    (slots : other.map revealSlot = run.map revealSlot)
    : buildRevealArgs other = buildRevealArgs run := by
  have length : other.length = run.length := by
    rw [← List.length_map revealSlot, slots, List.length_map]
  have slot (i : Nat) : other[i]?.map revealSlot = run[i]?.map revealSlot := by
    rw [← List.getElem?_map, slots, List.getElem?_map]
  have head : other.head?.map revealSlot = run.head?.map revealSlot := by
    rw [← List.head?_map, slots, List.head?_map]
  simp only [buildRevealArgs, length, slot, head]

/-- The same arguments are queued for entries that are kept. -/
theorem buildRevealArgs_kept (kept : ∀ key ∈ accounts, SlotKept entries others key)
    : buildRevealArgs (contenders others accounts)
      = buildRevealArgs (contenders entries accounts) :=
  buildRevealArgs_congr (map_revealSlot_contenders kept)

/-- An active slot of a run is one of its accounts. -/
theorem account_buildRevealArgs {i : Fin maxParticipants}
    (active : i < (buildRevealArgs (contenders entries accounts)).participantCount)
    : ((buildRevealArgs (contenders entries accounts)).slots i).account ∈ accounts := by
  have inside : i < (contenders entries accounts).length := active
  obtain ⟨key, member, found⟩ := List.mem_filterMap.mp (List.getElem_mem inside)
  obtain ⟨entry, _, here⟩ := Option.map_eq_some_iff.mp found
  change (key, entry) = (contenders entries accounts)[i.val] at here
  have slot
      : (buildRevealArgs (contenders entries accounts)).slots i = revealSlot (key, entry) := by
    simp [buildRevealArgs, List.getElem?_eq_getElem inside, here]
  rw [slot]
  exact member

/-- The same slots are revealed for entries that are kept. -/
theorem revealedSlots_kept (kept : ∀ key ∈ accounts, SlotKept entries others key)
    : revealedSlots others accounts = revealedSlots entries accounts := by
  have args := buildRevealArgs_kept kept
  rw [revealedSlots, revealedSlots, args]
  refine congrArg Circuit.RevealOutput.slots (Circuit.revealTop3V5_congr rfl (fun i active => ?_)
    fun _ _ => rfl)
  obtain ⟨entry, later, found, held, score, _, _⟩ := kept _ (account_buildRevealArgs active)
  simp only [RevealArgs.input, found, held, Option.map_some, score]

end Slots

end SecretGarden.Bracket
