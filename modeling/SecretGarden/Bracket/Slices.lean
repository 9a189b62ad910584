import SecretGarden.Bracket.Recording

/-! Even slices: a promotion splits the sorted winners into consecutive semifinals whose
sizes differ by at most one.
-/

namespace SecretGarden.Bracket

/-- The start of a slice in closed form, by induction on its index. -/
theorem sliceStart_eq (n count k : Nat)
    : sliceStart n count k = k * (n / count) + min k (n % count) := by
  induction k with
  | zero => simp [sliceStart]
  | succ k ih =>
      rw [sliceStart, List.range_succ, List.map_append, List.sum_append, ← sliceStart, ih]
      simp only [List.map_cons, List.map_nil, List.sum_singleton, balancedSize, Nat.add_mul]
      split <;> omega

/-- Each slice ends where the next one starts. -/
theorem sliceStart_succ (n count k : Nat)
    : sliceStart n count (k + 1) = sliceStart n count k + balancedSize n count k := by
  rw [sliceStart, List.range_succ, List.map_append, List.sum_append, ← sliceStart]
  simp

/-- The slices cover all winners. -/
theorem sliceStart_count {n count : Nat} (sliced : 1 ≤ count)
    : sliceStart n count count = n := by
  rw [sliceStart_eq, Nat.min_eq_right (Nat.mod_lt n sliced).le, Nat.mul_comm,
    Nat.mul_comm, Nat.mul_comm count]
  exact Nat.div_add_mod' n count

/-- Later slices start later. -/
theorem sliceStart_mono (n count : Nat) {k later : Nat} (le : k ≤ later)
    : sliceStart n count k ≤ sliceStart n count later := by
  rw [sliceStart_eq, sliceStart_eq]
  have := Nat.mul_le_mul_right (n / count) le
  omega

/-- A semifinal's slice lies within the winners. -/
theorem slice_within {n k : Nat} (inside : k < semifinalCount n)
    : sliceStart n (semifinalCount n) k + balancedSize n (semifinalCount n) k ≤ n := by
  have covered : sliceStart n (semifinalCount n) (semifinalCount n) = n :=
    sliceStart_count (Nat.zero_lt_of_lt inside)
  rw [← sliceStart_succ]
  exact (sliceStart_mono n _ inside).trans covered.le

/-- Any winners need at least one semifinal. -/
theorem one_le_semifinalCount {n : Nat} (winners : 1 ≤ n) : 1 ≤ semifinalCount n := by
  unfold semifinalCount maxShardSize
  omega

/-- Semifinals are non-empty and at most as large as a shard. -/
theorem balancedSize_bounds {n k : Nat} (winners : 1 ≤ n)
    : minShardSize ≤ balancedSize n (semifinalCount n) k
      ∧ balancedSize n (semifinalCount n) k ≤ maxShardSize := by
  have played := one_le_semifinalCount winners
  have enough : n ≤ semifinalCount n * maxShardSize := by
    unfold semifinalCount maxShardSize
    omega
  have few : semifinalCount n ≤ n := by
    unfold semifinalCount maxShardSize
    omega
  have share : 1 ≤ n / semifinalCount n := Nat.div_pos few played
  have bound : n / semifinalCount n ≤ maxShardSize :=
    Nat.div_le_of_le_mul enough
  unfold balancedSize minShardSize
  refine ⟨by omega, ?_⟩
  split
  · next extra =>
      have whole := Nat.div_add_mod n (semifinalCount n)
      rcases bound.lt_or_eq with less | full
      · exact less
      · rw [full] at whole
        omega
  · omega

/-- The stored sizes of the semifinals in use. -/
theorem take_semifinalSizes {n k : Nat} (inside : k ≤ semifinalCount n)
    (fits : semifinalCount n ≤ maxShards)
    : (semifinalSizes n).toList.take k
      = (List.range k).map (balancedSize n (semifinalCount n)) := by
  apply List.ext_getElem?
  intro i
  rw [List.getElem?_take, List.getElem?_map]
  by_cases early : i < k
  · have stored : i < maxShards := by omega
    rw [if_pos early, Vector.getElem?_toList, List.getElem?_range early, semifinalSizes,
      Vector.getElem?_ofFn, dif_pos stored, Option.map_some, if_pos (early.trans_le inside)]
  · rw [if_neg early, List.getElem?_eq_none (by simpa using early), Option.map_none]

/-- The stored size of a semifinal in use. -/
theorem getElem?_semifinalSizes {n k : Nat} (inside : k < semifinalCount n)
    (fits : semifinalCount n ≤ maxShards)
    : (semifinalSizes n)[k]? = some (balancedSize n (semifinalCount n) k) := by
  rw [semifinalSizes, Vector.getElem?_ofFn, dif_pos (by omega), if_pos inside]

/-- The winners that play semifinal `k`. -/
def winnersSlice (winners : List Pubkey) (k : Nat) : List Pubkey :=
  (winners.drop (sliceStart winners.length (semifinalCount winners.length) k)).take
    (balancedSize winners.length (semifinalCount winners.length) k)

variable {winners : List Pubkey} {k : Nat}

theorem winnersSlice_sublist : (winnersSlice winners k).Sublist winners :=
  (List.take_sublist _ _).trans (List.drop_sublist _ _)

/-- A semifinal's slice has its full size. -/
theorem length_winnersSlice (inside : k < semifinalCount winners.length)
    : (winnersSlice winners k).length
      = balancedSize winners.length (semifinalCount winners.length) k := by
  have within := slice_within inside
  rw [winnersSlice, List.length_take, List.length_drop]
  omega

/-- A slice of the first winners is cut from the whole array. -/
theorem winnersSlice_take {n : Nat} (counted : n ≤ winners.length)
    (inside : k < semifinalCount n)
    : winnersSlice (winners.take n) k
      = (winners.drop (sliceStart n (semifinalCount n) k)).take
          (balancedSize n (semifinalCount n) k) := by
  have within := slice_within inside
  rw [winnersSlice, List.length_take, Nat.min_eq_left counted, List.take_drop, List.take_drop,
    List.take_take, Nat.min_eq_left within]

/-- The first slices laid end to end, by induction on their number. -/
theorem flatMap_winnersSlice_take (winners : List Pubkey) (k : Nat)
    : (List.range k).flatMap (winnersSlice winners)
      = winners.take (sliceStart winners.length (semifinalCount winners.length) k) := by
  induction k with
  | zero => simp [sliceStart]
  | succ k ih =>
      rw [List.range_succ, List.flatMap_append, ih, sliceStart_succ, List.take_add]
      simp [winnersSlice]

/-- The semifinals play all winners, each once and in order. -/
theorem flatMap_winnersSlice (won : 1 ≤ winners.length)
    : (List.range (semifinalCount winners.length)).flatMap (winnersSlice winners) = winners := by
  rw [flatMap_winnersSlice_take, sliceStart_count (one_le_semifinalCount won),
    List.take_length]

/-- Different semifinals share no winner. -/
theorem winnersSlice_disjoint (won : 1 ≤ winners.length) (unique : winners.Nodup)
    {j : Nat} (earlier : j < k) (inside : k < semifinalCount winners.length)
    : (winnersSlice winners j).Disjoint (winnersSlice winners k) := by
  have slices := List.nodup_flatMap.mp (flatMap_winnersSlice won ▸ unique)
  have apart := List.pairwise_iff_getElem.mp slices.2 j k (by simp; omega) (by simpa) earlier
  simpa using apart

end SecretGarden.Bracket
