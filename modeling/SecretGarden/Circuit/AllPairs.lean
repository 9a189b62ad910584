import SecretGarden.Circuit.Podium

/-! The plain sort behind the top-three circuit, and the all-pairs circuit it replaces.
Sixteen masked slots are ordered by score, then rarity, then slot; the one bit for each
unordered pair gives every slot its position in that order.
-/

namespace SecretGarden.Circuit

open Foundation

-----------------------------------------------------------------------------------------
-- The circuit that compares all ordered pairs
-----------------------------------------------------------------------------------------

section RevealTop3

variable (raw : Fin 16 → Nat) (participantCount : Nat)

/-- Scores with the inactive slots masked to zero. -/
def RevealTop3.masked (i : Fin 16) : Nat :=
  if i < participantCount then raw i else 0

/-- A strictly larger score wins; the earlier slot wins a tie. -/
def RevealTop3.beats (j i : Fin 16) : Bool :=
  masked raw participantCount j > masked raw participantCount i
  || masked raw participantCount j = masked raw participantCount i && j < i

/-- How many slots beat slot `i`, the slot itself included in the loop. -/
def RevealTop3.rank (i : Fin 16) : Nat :=
  (List.finRange 16).foldl (fun r j => if beats raw participantCount j i then r + 1 else r) 0

/-- The slot and score of a place: the last slot with that rank. -/
def RevealTop3.placed (place : Nat) : Nat × Nat :=
  (List.finRange 16).foldl
    (fun found i =>
      if rank raw participantCount i = place then (i.val, masked raw participantCount i)
      else found)
    (0, 0)

def revealTop3 : RevealOutput :=
  let placed := RevealTop3.placed raw participantCount
  { slot1 := (placed 0).1, score1 := (placed 0).2
    slot2 := (placed 1).1, score2 := (placed 1).2
    slot3 := (placed 2).1, score3 := (placed 2).2 }

end RevealTop3

-----------------------------------------------------------------------------------------
-- The plain sort of the masked slots
-----------------------------------------------------------------------------------------

/-- A slot in the sort: score descending, then rarity descending, then slot ascending. -/
abbrev Contender : Type := Natᵒᵈ ×ₗ (Natᵒᵈ ×ₗ Nat)

def Contender.of (score rarity slot : Nat) : Contender :=
  toLex (OrderDual.toDual score, toLex (OrderDual.toDual rarity, slot))

def Contender.score (contender : Contender) : Nat := OrderDual.ofDual (ofLex contender).1

def Contender.slot (contender : Contender) : Nat := (ofLex (ofLex contender).2).2

theorem Contender.of_lt_of {score rarity slot score' rarity' slot' : Nat}
    : of score rarity slot < of score' rarity' slot'
      ↔ score' < score
        ∨ score = score'
          ∧ (rarity' < rarity ∨ rarity = rarity' ∧ slot < slot') := by
  simp only [of, Prod.Lex.toLex_lt_toLex, OrderDual.toDual_lt_toDual,
    OrderDual.toDual_inj]

variable (input : RevealInput)

/-- Rarities with the inactive slots masked to zero. -/
def maskedRarity (i : Fin 16) : Nat :=
  if i < input.participantCount then input.rar i else 0

def contender (i : Fin 16) : Contender :=
  Contender.of (maskedScore input i) (maskedRarity input i) i

def contenders : List Contender := (List.finRange 16).map (contender input)

/-- The slot and score of each place, first place first. -/
def RevealOutput.places (output : RevealOutput) : List (Nat × Nat) :=
  [(output.slot1, output.score1), (output.slot2, output.score2),
    (output.slot3, output.score3)]

theorem RevealOutput.places_fst (output : RevealOutput)
    : output.places.map Prod.fst = output.slots := rfl

-----------------------------------------------------------------------------------------
-- Ranks are positions in the sort
-----------------------------------------------------------------------------------------

variable {input}

/-- The key of eight-bit scores and rarities fits its sixteen bits. -/
theorem rankingKey_le_u16Max (scores : ∀ i, input.raw i ≤ u8Max)
    (rarities : ∀ i, input.rar i ≤ u8Max) (i : Fin 16)
    : rankingKey input i ≤ u16Max := by
  have score := scores i
  have rarity := rarities i
  simp only [rankingKey, maskedScore, u8Max, u16Max] at *
  split <;> omega

/-- No rarity of three bits bridges two scores, so the packed key is ordered as the pair. -/
theorem beats_iff_contender (rarities : ∀ i, input.rar i ≤ 7) {j i : Fin 16}
    : Beats input j i ↔ contender input j < contender input i := by
  have few (slot : Fin 16) : maskedRarity input slot ≤ 7 := by
    have := rarities slot
    rw [maskedRarity]
    split <;> omega
  have left := few j
  have right := few i
  have keyed (slot : Fin 16)
      : rankingKey input slot = maskedScore input slot * 8 + maskedRarity input slot := rfl
  rw [Beats, contender, contender, Contender.of_lt_of, keyed, keyed, Fin.lt_def]
  omega

theorem contender_slot (i : Fin 16) : (contender input i).slot = i := rfl

theorem contender_score (i : Fin 16) : (contender input i).score = maskedScore input i := rfl

theorem contenders_slots : (contenders input).map Contender.slot = List.range 16 := by
  rw [contenders, List.map_map, ← List.map_coe_finRange_eq_range]
  rfl

theorem contenders_nodup (input : RevealInput) : (contenders input).Nodup := by
  apply List.Nodup.of_map Contender.slot
  rw [contenders_slots]
  exact List.nodup_range

theorem contender_mem (i : Fin 16) : contender input i ∈ contenders input :=
  List.mem_map_of_mem (List.mem_finRange i)

/-- A rank counts the contenders sorted before the slot. -/
theorem rank_eq_countP_contenders (rarities : ∀ i, input.rar i ≤ 7) (i : Fin 16)
    : rank input i = (contenders input).countP (· < contender input i) := by
  rw [rank_eq_countP, contenders, List.countP_map]
  apply List.countP_congr
  intro j _
  simp [beats_iff_contender rarities]

/-- The ranks of the slots are the numbers zero to fifteen, each once. -/
theorem ranks_perm (rarities : ∀ i, input.rar i ≤ 7)
    : ((List.finRange 16).map (rank input)).Perm (List.range 16) := by
  have numbered := ranks_perm_range (contenders_nodup input)
  have ranked
      : (contenders input).map (fun x => (contenders input).countP (· < x))
        = (List.finRange 16).map (rank input) := by
    rw [contenders, List.map_map]
    apply List.map_congr_left
    intro i _
    exact (rank_eq_countP_contenders rarities i).symm
  have sixteen : (contenders input).length = 16 := by simp [contenders]
  rwa [ranked, sixteen] at numbered

/-- The selection loop finds the one slot of each rank. -/
theorem placed_of_rank (rarities : ∀ i, input.rar i ≤ 7) {place : Nat} {i : Fin 16}
    (ranked : rank input i = place)
    : placed input place = (i.val, maskedScore input i) := by
  have distinct : ((List.finRange 16).map (rank input)).Nodup :=
    (ranks_perm rarities).nodup_iff.mpr List.nodup_range
  have unique : ∀ j ∈ List.finRange 16, rank input j = place → j = i := fun j member wanted =>
    List.inj_on_of_nodup_map distinct member (List.mem_finRange i) (wanted.trans ranked.symm)
  rw [placed, foldl_select _ _ unique]
  exact if_pos ⟨i, List.mem_finRange i, ranked⟩

/-- Each of the sixteen places belongs to a slot. -/
theorem exists_rank (rarities : ∀ i, input.rar i ≤ 7) (place : Nat) (inside : place < 16)
    : ∃ i, rank input i = place := by
  obtain ⟨i, _, ranked⟩ :=
    List.mem_map.mp ((ranks_perm rarities).mem_iff.mpr (List.mem_range.mpr inside))
  exact ⟨i, ranked⟩

/-- The circuit reads off the first three contenders of the sort. -/
theorem revealTop3V5_sorts (rarities : ∀ i, input.rar i ≤ 7)
    : (revealTop3V5 input).places
      = (top 3 (contenders input)).map fun found => (found.slot, found.score) := by
  have listed : (revealTop3V5 input).places = (List.range 3).map (placed input) := by
    simp only [revealTop3V5, RevealOutput.places, List.range_succ, List.range_zero,
      List.nil_append, List.cons_append, List.map_cons, List.map_nil]
  rw [listed]
  apply List.ext_getElem?
  intro place
  by_cases awarded : place < 3
  · obtain ⟨i, ranked⟩ := exists_rank rarities place (by omega)
    have selected : (top 3 (contenders input))[place]? = some (contender input i) := by
      apply top_getElem_of_rank (contenders_nodup input) (contender_mem i) awarded
      rw [← rank_eq_countP_contenders rarities, ranked]
    rw [List.getElem?_map, List.getElem?_map, List.getElem?_range awarded, selected,
      Option.map_some, Option.map_some, placed_of_rank rarities ranked, contender_slot,
      contender_score]
  · rw [List.getElem?_eq_none, List.getElem?_eq_none]
    · simp [length_top, contenders]
      omega
    · simpa using awarded

-----------------------------------------------------------------------------------------
-- Active slots come first
-----------------------------------------------------------------------------------------

/-- An active slot beats every inactive one: its key is no smaller and its slot is earlier. -/
theorem beats_inactive {j i : Fin 16} (active : j < input.participantCount)
    (inactive : input.participantCount ≤ i)
    : Beats input j i := by
  have before : j < i := Fin.lt_def.mpr (active.trans_le inactive)
  rw [Beats, rankingKey_inactive inactive]
  rcases Nat.eq_zero_or_pos (rankingKey input j) with tied | larger
  · exact Or.inr ⟨tied.symm, before⟩
  · exact Or.inl larger

/-- Absent slots rank behind all the active ones. -/
theorem participantCount_le_rank {i : Fin 16} (inactive : input.participantCount ≤ i)
    : input.participantCount ≤ rank input i := by
  have counted : ∀ count ≤ 16, (List.finRange 16).countP (·.val < count) = count := by decide
  calc input.participantCount
      = (List.finRange 16).countP (·.val < input.participantCount) :=
        (counted _ (by omega)).symm
    _ ≤ (List.finRange 16).countP fun j => Beats input j i := by
        apply List.countP_mono_left
        intro j _ active
        exact decide_eq_true (beats_inactive (of_decide_eq_true active) inactive)
    _ = rank input i := (rank_eq_countP i).symm

/-- A place within the participant count goes to an active slot. -/
theorem placed_active (rarities : ∀ i, input.rar i ≤ 7) {place : Nat} (inside : place < 16)
    (filled : place < input.participantCount)
    : (placed input place).1 < input.participantCount := by
  obtain ⟨i, ranked⟩ := exists_rank rarities place inside
  rw [placed_of_rank rarities ranked]
  by_contra outside
  have behind := participantCount_le_rank (not_lt.mp outside)
  omega

/-- The podium names three different slots. -/
theorem slots_nodup (rarities : ∀ i, input.rar i ≤ 7) : (revealTop3V5 input).slots.Nodup := by
  have named : (revealTop3V5 input).slots = (top 3 (contenders input)).map Contender.slot := by
    rw [← RevealOutput.places_fst, revealTop3V5_sorts rarities, List.map_map]
    rfl
  have apart : ((contenders input).map Contender.slot).Nodup := by
    rw [contenders_slots]
    exact List.nodup_range
  rw [named]
  apply List.Nodup.map_on _ (top_nodup (contenders_nodup input))
  exact fun left found right other =>
    List.inj_on_of_nodup_map apart (mem_of_mem_top found) (mem_of_mem_top other)

-----------------------------------------------------------------------------------------
-- The two circuits agree where rarities do not tell slots apart
-----------------------------------------------------------------------------------------

/-- The counting loop of the all-pairs circuit, by induction on the slots. -/
theorem foldl_count {α : Type} (slots : List α) (wanted : α → Bool) (start : Nat)
    : slots.foldl (fun r j => if wanted j then r + 1 else r) start
      = start + slots.countP wanted := by
  induction slots generalizing start with
  | nil => rfl
  | cons head rest ih =>
      rw [List.foldl_cons, ih, List.countP_cons]
      split <;> omega

/-- With one rarity for all, the packed keys of two active slots compare as their scores;
a pair with an absent slot is decided by presence in both circuits.
-/
theorem beats_eq_of_same_rarity {rarity : Nat} (same : ∀ i, input.rar i = rarity)
    (j i : Fin 16)
    : RevealTop3.beats input.raw input.participantCount j i = decide (Beats input j i) := by
  have masked (slot : Fin 16)
      : RevealTop3.masked input.raw input.participantCount slot = maskedScore input slot := rfl
  rw [RevealTop3.beats, Bool.eq_iff_iff]
  simp only [masked, Beats, rankingKey, maskedScore, same, Fin.lt_def, Bool.or_eq_true,
    Bool.and_eq_true, decide_eq_true_eq]
  split <;> split <;> omega

theorem rank_eq_of_same_rarity {rarity : Nat} (same : ∀ i, input.rar i = rarity) (i : Fin 16)
    : RevealTop3.rank input.raw input.participantCount i = rank input i := by
  rw [RevealTop3.rank, foldl_count, rank_eq_countP, Nat.zero_add]
  apply List.countP_congr
  intro j _
  rw [beats_eq_of_same_rarity same]

theorem revealTop3_eq_of_same_rarity {rarity : Nat} (same : ∀ i, input.rar i = rarity)
    : revealTop3 input.raw input.participantCount = revealTop3V5 input := by
  have placed (place : Nat)
      : RevealTop3.placed input.raw input.participantCount place = placed input place := by
    simp only [RevealTop3.placed, Circuit.placed, rank_eq_of_same_rarity same]
    rfl
  simp only [revealTop3, revealTop3V5, placed]

-----------------------------------------------------------------------------------------
-- The top-three circuit
-----------------------------------------------------------------------------------------

/-- The upper-triangle circuit is the plain sort of the masked slots cut after three:
its ranks number the slots from zero, the places that participants can fill go to different
active slots, and without rarities to tell slots apart it is the all-pairs circuit.
-/
theorem podium_is_plain_sort (input : RevealInput) (scores : ∀ i, input.raw i ≤ u8Max)
    (rarities : ∀ i, input.rar i ≤ 7)
    : (∀ i, rankingKey input i ≤ u16Max)
      ∧ (revealTop3V5 input).places
        = (top 3 (contenders input)).map (fun found => (found.slot, found.score))
      ∧ ((List.finRange 16).map (rank input)).Perm (List.range 16)
      ∧ ((revealTop3V5 input).slots.take (min 3 input.participantCount)).Nodup
      ∧ (∀ slot ∈ (revealTop3V5 input).slots.take (min 3 input.participantCount),
          slot < input.participantCount)
      ∧ ((∀ i j, input.rar i = input.rar j)
          → revealTop3V5 input = revealTop3 input.raw input.participantCount) := by
  refine ⟨rankingKey_le_u16Max scores ?_, revealTop3V5_sorts rarities, ranks_perm rarities,
    (slots_nodup rarities).sublist (List.take_sublist _ _), ?_, ?_⟩
  · exact fun i => (rarities i).trans (by decide)
  · intro slot chosen
    obtain ⟨place, inside, named⟩ := List.mem_take_iff_getElem.mp chosen
    have found : slot = (placed input place).1 := by
      rw [← named]
      simp only [revealTop3V5_slots, List.getElem_map, List.getElem_range]
    rw [found]
    exact placed_active rarities (by omega) (by omega)
  · exact fun same => (revealTop3_eq_of_same_rarity fun i => same i 0).symm

/-- Three entrants with one score: the rarest, in slot two, comes first. -/
theorem tiedEntrants_sorted
    : (revealTop3V5 ⟨fun _ => 50, 3, fun i => if i = 2 then 5 else 1⟩).places
        = [(2, 50), (0, 50), (1, 50)]
      ∧ (top 3 (contenders ⟨fun _ => 50, 3, fun i => if i = 2 then 5 else 1⟩)).map
          (fun found => (found.slot, found.score))
        = [(2, 50), (0, 50), (1, 50)] := by
  have revealed : (revealTop3V5 ⟨fun _ => 50, 3, fun i => if i = 2 then 5 else 1⟩).places
      = [(2, 50), (0, 50), (1, 50)] := by
    decide +kernel
  obtain ⟨_, sorted, _⟩ := podium_is_plain_sort
    ⟨fun _ => 50, 3, fun i => if i = 2 then 5 else 1⟩ (by decide) (by decide)
  exact ⟨revealed, sorted.symm.trans revealed⟩

end SecretGarden.Circuit
