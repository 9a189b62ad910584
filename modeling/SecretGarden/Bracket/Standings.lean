import SecretGarden.Bracket.Recording
import SecretGarden.Circuit.Podium

/-! The podium of a list of entries, and the circuit as the way to compute it.
Picking the winners of each group and then the winners of the survivors gives the podium of
the whole field, however it was grouped.
-/

namespace SecretGarden.Bracket

open Foundation Circuit

/-- The standing of an entry: its score times eight plus its rarity, then its address. -/
def standing (contender : Contender) : Standing :=
  .of (contender.2.encryptedScore * 8 + contender.2.raritySnapshot) contender.1

def standings (entries : Store Pubkey CompetitionEntry) (accounts : List Pubkey)
    : List Standing :=
  (contenders entries accounts).map standing

/-- The three best entries in rank order. -/
def podium (entries : Store Pubkey CompetitionEntry) (accounts : List Pubkey) : List Pubkey :=
  (top 3 (standings entries accounts)).map Standing.address

variable {entries : Store Pubkey CompetitionEntry} {accounts : List Pubkey}

/-- Every account is an entry. -/
def AllEntries (entries : Store Pubkey CompetitionEntry) (accounts : List Pubkey) : Prop :=
  ∀ key ∈ accounts, (entries.lookup key).isSome

/-- The contenders behind entries are these entries in order, by induction on the list. -/
theorem contenders_keys (present : AllEntries entries accounts)
    : (contenders entries accounts).map Prod.fst = accounts := by
  induction accounts with
  | nil => rfl
  | cons key rest ih =>
      obtain ⟨here, later⟩ := List.forall_mem_cons.mp present
      obtain ⟨entry, found⟩ := Option.isSome_iff_exists.mp here
      have tail := ih later
      rw [contenders] at tail
      simp [contenders, found, tail]

/-- Standings carry the addresses they were computed for. -/
theorem standings_addresses (present : AllEntries entries accounts)
    : (standings entries accounts).map Standing.address = accounts := by
  have address : Standing.address ∘ standing = Prod.fst := rfl
  rw [standings, List.map_map, address, contenders_keys present]

theorem length_standings (present : AllEntries entries accounts)
    : (standings entries accounts).length = accounts.length := by
  rw [← List.length_map, standings_addresses present]

/-- A standing is recomputed from its address. -/
theorem standings_of_mem {other : Standing} (listed : other ∈ standings entries accounts)
    : standings entries [other.address] = [other] := by
  obtain ⟨contender, member, rfl⟩ := List.mem_map.mp listed
  obtain ⟨key, _, found⟩ := List.mem_filterMap.mp member
  obtain ⟨entry, held, rfl⟩ := Option.map_eq_some_iff.mp found
  have address : (standing (key, entry)).address = key := rfl
  simp [standings, contenders, address, held]

theorem standings_append (left right : List Pubkey)
    : standings entries (left ++ right) = standings entries left ++ standings entries right := by
  simp [standings, contenders]

/-- Standings are recomputed from addresses, by induction on the standings. -/
theorem standings_map_address {chosen : List Standing}
    (listed : ∀ other ∈ chosen, other ∈ standings entries accounts)
    : standings entries (chosen.map Standing.address) = chosen := by
  induction chosen with
  | nil => rfl
  | cons head rest ih =>
      obtain ⟨here, later⟩ := List.forall_mem_cons.mp listed
      rw [List.map_cons, ← List.singleton_append, standings_append, standings_of_mem here,
        ih later, List.singleton_append]

/-- The standings of a podium are the best of the field's. -/
theorem standings_podium
    : standings entries (podium entries accounts) = top 3 (standings entries accounts) :=
  standings_map_address fun _ => mem_of_mem_top

/-- The podium does not depend on the order of the accounts. -/
theorem podium_perm {others : List Pubkey} (same : accounts.Perm others)
    : podium entries accounts = podium entries others := by
  have standing : (standings entries accounts).Perm (standings entries others) :=
    (same.filterMap _).map _
  rw [podium, top_perm standing, podium]

/-- Entries with the same score and rarity stand alike. -/
theorem standings_alike {others : Store Pubkey CompetitionEntry} {key : Pubkey}
    {entry later : CompetitionEntry} (found : entries.lookup key = some entry)
    (held : others.lookup key = some later) (score : later.encryptedScore = entry.encryptedScore)
    (rarity : later.raritySnapshot = entry.raritySnapshot)
    : standings others [key] = standings entries [key] := by
  simp [standings, contenders, standing, found, held, score, rarity]

/-- Standings depend on the listed accounts only, by induction on the list. -/
theorem standings_congr {others : Store Pubkey CompetitionEntry}
    (alike : ∀ key ∈ accounts, standings others [key] = standings entries [key])
    : standings others accounts = standings entries accounts := by
  induction accounts with
  | nil => rfl
  | cons key rest ih =>
      obtain ⟨here, later⟩ := List.forall_mem_cons.mp alike
      rw [← List.singleton_append, standings_append, standings_append, here, ih later]

/-- So does the podium. -/
theorem podium_congr {others : Store Pubkey CompetitionEntry}
    (alike : ∀ key ∈ accounts, standings others [key] = standings entries [key])
    : podium others accounts = podium entries accounts := by
  rw [podium, standings_congr alike, podium]

theorem mem_of_mem_podium {key : Pubkey} (member : key ∈ podium entries accounts)
    : key ∈ accounts := by
  obtain ⟨other, chosen, rfl⟩ := List.mem_map.mp member
  obtain ⟨contender, listed, rfl⟩ := List.mem_map.mp (mem_of_mem_top chosen)
  obtain ⟨key, given, found⟩ := List.mem_filterMap.mp listed
  obtain ⟨entry, _, rfl⟩ := Option.map_eq_some_iff.mp found
  exact given

/-- No entry is on a podium twice. -/
theorem podium_nodup (present : AllEntries entries accounts) (unique : accounts.Nodup)
    : (podium entries accounts).Nodup := by
  have arranged : (((standings entries accounts).insertionSort (· ≤ ·)).map
      Standing.address).Perm accounts := by
    have sorted := (List.perm_insertionSort (· ≤ ·) (standings entries accounts)).map
      Standing.address
    rwa [standings_addresses present] at sorted
  exact (arranged.nodup_iff.mpr unique).sublist ((List.take_sublist _ _).map _)

theorem length_podium (present : AllEntries entries accounts)
    : (podium entries accounts).length = min 3 accounts.length := by
  rw [podium, List.length_map, length_top, length_standings present]

/-- A podium has three places at most. -/
theorem length_podium_le (entries : Store Pubkey CompetitionEntry) (accounts : List Pubkey)
    : (podium entries accounts).length ≤ shardWinners := by
  rw [podium, List.length_map, length_top]
  exact Nat.min_le_left _ _

/-- The standings of groups laid end to end, by induction on the groups. -/
theorem standings_flatMap (order : List Nat) (groups : Nat → List Pubkey)
    : standings entries (order.flatMap groups)
      = order.flatMap fun index => standings entries (groups index) := by
  induction order with
  | nil => rfl
  | cons index rest ih => rw [List.flatMap_cons, standings_append, ih, List.flatMap_cons]

/-- The podium of the groups' podiums is the podium of the whole field. -/
theorem podium_flatMap_podium (order : List Nat) (groups : Nat → List Pubkey)
    : podium entries (order.flatMap fun index => podium entries (groups index))
      = podium entries (order.flatMap groups) := by
  have selected := top_flatMap_top 3 (order.map fun index => standings entries (groups index))
  rw [List.flatMap_map, ← List.flatMap_def] at selected
  simp only [podium, standings_flatMap]
  rw [← selected]
  congr 2
  exact List.flatMap_congr fun index _ => standings_podium

--------------------------------------------------------------------------------
-- The circuit
--------------------------------------------------------------------------------

/-- The circuit ranks an active slot by the standing of the entry it was given. -/
theorem rankingKey_buildRevealArgs {i : Fin 16}
    (inside : i < (standings entries accounts).length)
    : rankingKey ((buildRevealArgs (contenders entries accounts)).input entries) i
      = ((standings entries accounts)[i.val]).composite := by
  have active : i < (contenders entries accounts).length := by
    simpa [standings] using inside
  obtain ⟨key, _, found⟩ := List.mem_filterMap.mp (List.getElem_mem active)
  obtain ⟨entry, held, here⟩ := Option.map_eq_some_iff.mp found
  change (key, entry) = (contenders entries accounts)[i.val] at here
  have slot : (buildRevealArgs (contenders entries accounts)).slots i
      = revealSlot (key, entry) := by
    simp [buildRevealArgs, List.getElem?_eq_getElem active, here]
  have standing : (standings entries accounts)[i.val] = standing (key, entry) := by
    simp [standings, here]
  have raw : ((buildRevealArgs (contenders entries accounts)).input entries).raw i
      = entry.encryptedScore := by
    change ((entries.lookup ((buildRevealArgs (contenders entries accounts)).slots i).account
      ).map CompetitionEntry.encryptedScore).getD 0 = _
    rw [slot, revealSlot, held]
    rfl
  have rar : ((buildRevealArgs (contenders entries accounts)).input entries).rar i
      = entry.raritySnapshot :=
    congrArg RevealSlot.rarity slot
  have turn : i < ((buildRevealArgs (contenders entries accounts)).input entries
      ).participantCount := active
  rw [standing, rankingKey, maskedScore, if_pos turn, if_pos turn, raw, rar]
  rfl

/-- On ascending entries the revealed slots name the podium. -/
theorem revealedSlots_podium (present : AllEntries entries accounts)
    (ascending : accounts.Pairwise (· < ·)) (fits : accounts.length ≤ maxParticipants)
    : ((revealedSlots entries accounts).take (min shardWinners accounts.length)).map
        (accounts[·]?)
      = (podium entries accounts).map some := by
  have size := length_standings present
  have addresses := standings_addresses present
  have active : ((buildRevealArgs (contenders entries accounts)).input entries).participantCount
      = (standings entries accounts).length := by
    rw [standings, List.length_map]
    rfl
  have ordered : (standings entries accounts).Pairwise
      fun left right => left.address < right.address := by
    rw [← List.pairwise_map, addresses]
    exact ascending
  have revealed := revealTop3V5_top active (size ▸ fits) ordered
    fun _ => rankingKey_buildRevealArgs
  have looked (slot : Nat) : accounts[slot]?
      = ((standings entries accounts)[slot]?).map Standing.address := by
    rw [← List.getElem?_map, addresses]
  calc ((revealedSlots entries accounts).take (min shardWinners accounts.length)).map
        (accounts[·]?)
      = (((revealedSlots entries accounts).take (min shardWinners accounts.length)).map
          ((standings entries accounts)[·]?)).map (Option.map Standing.address) := by
        rw [List.map_map]
        exact List.map_congr_left fun slot _ => looked slot
    _ = ((top 3 (standings entries accounts)).map some).map (Option.map Standing.address) := by
        rw [← revealed, size]
        rfl
    _ = (podium entries accounts).map some := by
        rw [podium, List.map_map, List.map_map]
        rfl

/-- Resolving the revealed slots of ascending entries yields their podium. -/
theorem pickWinners_revealedSlots (present : AllEntries entries accounts)
    (ascending : accounts.Pairwise (· < ·)) (fits : accounts.length ≤ maxParticipants)
    : pickWinners accounts accounts.length
        ((revealedSlots entries accounts).take (min shardWinners accounts.length))
      = .ok (podium entries accounts) := by
  have named := revealedSlots_podium present ascending fits
  refine pickWinners_eq_ok.mpr ⟨fun slot listed => ?_, named⟩
  have found : accounts[slot]? ∈ (podium entries accounts).map some := by
    rw [← named]
    exact List.mem_map_of_mem listed
  obtain ⟨key, _, stored⟩ := List.mem_map.mp found
  exact (List.getElem?_eq_some_iff.mp stored.symm).1

end SecretGarden.Bracket
