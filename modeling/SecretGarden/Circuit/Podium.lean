import Mathlib.Algebra.BigOperators.Group.List.Basic
import Mathlib.Data.Prod.Lex
import SecretGarden.Circuit.RevealTop3
import SecretGarden.Foundation.TopSelection

/-! What the circuit is for: the best three standings of the active slots.
A standing ranks a higher composite key first and the smaller address first on a tie;
with the slots in address order the circuit's slot tie-break is the address tie-break.
-/

namespace SecretGarden.Circuit

open Foundation

/-- The rank order of contenders: composite key descending, then address ascending. -/
abbrev Standing : Type := Natᵒᵈ ×ₗ Nat

def Standing.of (composite address : Nat) : Standing := toLex (OrderDual.toDual composite, address)

def Standing.composite (standing : Standing) : Nat := OrderDual.ofDual (ofLex standing).1

def Standing.address (standing : Standing) : Nat := (ofLex standing).2

/-- Better standings have the larger composite key, or the smaller address on a tie. -/
theorem Standing.lt_iff {left right : Standing}
    : left < right
      ↔ right.composite < left.composite
        ∨ left.composite = right.composite ∧ left.address < right.address :=
  Prod.Lex.lt_iff

variable {input : RevealInput}

/-- Slot `j` is ranked before slot `i`. -/
def Beats (input : RevealInput) (j i : Fin 16) : Prop :=
  rankingKey input i < rankingKey input j
  ∨ rankingKey input i = rankingKey input j ∧ j < i

instance (j i : Fin 16) : Decidable (Beats input j i) := inferInstanceAs (Decidable (_ ∨ _))

/-- Adding up indicator bits counts, by induction on the list. -/
theorem sum_indicator {α : Type} (slots : List α) (wanted : α → Prop) [DecidablePred wanted]
    : (slots.map fun slot => if wanted slot then 1 else 0).sum
      = slots.countP fun slot => wanted slot := by
  induction slots with
  | nil => rfl
  | cons head rest ih =>
      rw [List.map_cons, List.sum_cons, ih, List.countP_cons, Nat.add_comm]
      simp

/-- The rank of a slot counts the slots that beat it. -/
theorem rank_eq_countP (i : Fin 16)
    : rank input i = (List.finRange 16).countP fun j => Beats input j i := by
  rw [rank, ← sum_indicator]
  congr 1
  apply List.map_congr_left
  intro j _
  rcases lt_trichotomy j i with before | same | after
  · have apart := before.asymm
    by_cases beaten : rankingKey input i > rankingKey input j
    · simp [Beats, strictGreater, before, beaten, beaten.asymm, beaten.ne']
    · rcases (not_lt.mp beaten).lt_or_eq with less | same
      · simp [Beats, strictGreater, before, less, less.asymm]
      · simp [Beats, strictGreater, before, same]
  · subst same
    simp [Beats]
  · have apart := after.asymm
    by_cases beats : rankingKey input j > rankingKey input i
    · simp [Beats, strictGreater, after, apart, beats]
    · simp [Beats, strictGreater, after, apart, beats]

/-- Inactive slots carry the least key. -/
theorem rankingKey_inactive {i : Fin 16} (inactive : input.participantCount ≤ i)
    : rankingKey input i = 0 := by
  simp [rankingKey, maskedScore, not_lt.mpr inactive]

/-- Only what the active slots hold matters. -/
theorem revealTop3V5_congr {other : RevealInput}
    (count : other.participantCount = input.participantCount)
    (raw : ∀ i : Fin 16, i < input.participantCount → other.raw i = input.raw i)
    (rar : ∀ i : Fin 16, i < input.participantCount → other.rar i = input.rar i)
    : revealTop3V5 other = revealTop3V5 input := by
  have masked : maskedScore other = maskedScore input := by
    funext i
    rw [maskedScore, maskedScore, count]
    split
    · next active => exact raw i active
    · rfl
  have keys : rankingKey other = rankingKey input := by
    funext i
    rw [rankingKey, rankingKey, masked, count]
    split
    · next active => rw [rar i active]
    · rfl
  have ranks : rank other = rank input := by
    funext i
    simp only [rank, strictGreater, keys]
  simp only [revealTop3V5, placed, ranks, masked]

/-- An active slot is not beaten by an inactive one. -/
theorem not_beats_inactive {j i : Fin 16} (inactive : input.participantCount ≤ j)
    (active : i < input.participantCount)
    : ¬ Beats input j i := by
  rintro (larger | ⟨_, before⟩)
  · rw [rankingKey_inactive inactive] at larger
    exact absurd larger (Nat.not_lt_zero _)
  · have : j.val < i.val := before
    omega

/-- The selection loop returns the only slot with the wanted rank, by induction on the
slots still to be scanned.
-/
theorem foldl_select {α β : Type} {wanted : α → Prop} [DecidablePred wanted] {value : α → β}
    {only : α} (slots : List α) (init : β)
    (unique : ∀ slot ∈ slots, wanted slot → slot = only)
    : slots.foldl (fun found slot => if wanted slot then value slot else found) init
      = if ∃ slot ∈ slots, wanted slot then value only else init := by
  induction slots generalizing init with
  | nil => simp
  | cons head rest ih =>
      rw [List.foldl_cons, ih _ fun slot member => unique slot (List.mem_cons_of_mem _ member)]
      by_cases later : ∃ slot ∈ rest, wanted slot
      · simp [later]
      · by_cases here : wanted head
        · simp [later, unique head List.mem_cons_self here]
        · simp [later, here]

/-- Counting over the positions of a list is counting over its elements, by induction on
the list.
-/
theorem countP_getElem? {α : Type} {field : List α} {size : Nat} {wanted : α → Bool}
    (fits : field.length ≤ size)
    : ((List.range size).countP fun i => field[i]?.any wanted) = field.countP wanted := by
  induction field generalizing size with
  | nil => simp
  | cons head rest ih =>
      cases size with
      | zero => simp at fits
      | succ size =>
          have shorter : rest.length ≤ size := by simpa using fits
          rw [List.range_succ_eq_map, List.countP_cons, List.countP_map, List.countP_cons,
            ← ih shorter]
          simp [Function.comp_def]

/-- The revealed slots are those read off for places zero to two. -/
theorem revealTop3V5_slots
    : (revealTop3V5 input).slots = (List.range 3).map fun place => (placed input place).1 := by
  simp only [revealTop3V5, RevealOutput.slots, List.range_succ, List.range_zero,
    List.nil_append, List.cons_append, List.map_cons, List.map_nil]

section Field

variable {field : List Standing}
  (active : input.participantCount = field.length)
  (fits : field.length ≤ 16)
  (ascending : field.Pairwise fun left right => left.address < right.address)
  (keyed : ∀ (i : Fin 16) (inside : i < field.length),
    rankingKey input i = (field[i.val]).composite)

include ascending keyed in
/-- Among active slots, beating is having the better standing. -/
theorem beats_iff_standing {j i : Fin 16} (jInside : j < field.length)
    (iInside : i < field.length)
    : Beats input j i ↔ field[j.val] < field[i.val] := by
  rw [Beats, Standing.lt_iff, keyed j jInside, keyed i iInside]
  have ordered := List.pairwise_iff_getElem.mp ascending
  have addresses
      : (field[j.val]).address < (field[i.val]).address ↔ j < i := by
    constructor
    · intro smaller
      by_contra notBefore
      rcases (not_lt.mp notBefore).lt_or_eq with after | same
      · exact absurd smaller (ordered i j iInside jInside after).asymm
      · subst same
        exact absurd smaller (lt_irrefl _)
    · exact fun before => ordered j i jInside iInside before
  rw [addresses, eq_comm]

include active fits ascending keyed in
/-- The rank of an active slot counts the better standings of the field. -/
theorem rank_eq_countP_field {i : Fin 16} (inside : i < field.length)
    : rank input i = field.countP fun other => other < field[i.val] := by
  rw [rank_eq_countP, ← countP_getElem? fits, ← List.map_coe_finRange_eq_range, List.countP_map]
  apply List.countP_congr
  intro j _
  by_cases jInside : j < field.length
  · simp [List.getElem?_eq_getElem jInside,
      beats_iff_standing ascending keyed jInside inside]
  · have inactive : input.participantCount ≤ j := by omega
    simp [List.getElem?_eq_none (not_lt.mp jInside),
      not_beats_inactive inactive (active ▸ inside)]

include active fits in
/-- An inactive slot ranks behind the whole field. -/
theorem length_le_rank {i : Fin 16} (outside : field.length ≤ i)
    : field.length ≤ rank input i := by
  rw [rank_eq_countP]
  have everyActive : (List.range 16).countP (fun j => field[j]?.any fun _ => true)
      = field.length := by
    rw [countP_getElem? fits, List.countP_true]
  rw [← List.map_coe_finRange_eq_range, List.countP_map] at everyActive
  rw [← everyActive]
  apply List.countP_mono_left
  intro j _ present
  have jInside : j < field.length := by
    by_contra missing
    simp [List.getElem?_eq_none (not_lt.mp missing)] at present
  have before : j < i := Fin.lt_def.mpr (jInside.trans_le outside)
  have least := rankingKey_inactive (i := i) (active ▸ outside)
  rw [decide_eq_true_eq, Beats, least]
  rcases Nat.eq_zero_or_pos (rankingKey input j) with tied | larger
  · exact Or.inr ⟨tied.symm, before⟩
  · exact Or.inl larger

include ascending in
/-- Distinct addresses make distinct standings. -/
theorem field_nodup : field.Nodup :=
  ascending.imp fun apart same => absurd (congrArg Standing.address same) apart.ne

include active fits ascending keyed in
/-- Each place up to the field's size goes to the slot whose standing the ordered field
lists there: ranks count better standings, so one slot only has that rank.
-/
theorem placed_field {place : Nat} (awarded : place < 3) (filled : place < field.length)
    : ∃ (i : Fin 16) (inside : i < field.length),
        placed input place = (i.val, maskedScore input i)
        ∧ (top 3 field)[place]? = some (field[i.val]) := by
  have distinct := field_nodup ascending
  have permuted := List.perm_insertionSort (· ≤ ·) field
  have ordered : place < (field.insertionSort (· ≤ ·)).length := by simpa using filled
  obtain ⟨position, inside, found⟩ :=
    List.getElem_of_mem (permuted.mem_iff.mp (List.getElem_mem ordered))
  let i : Fin 16 := ⟨position, by omega⟩
  have ranked : rank input i = place := by
    rw [rank_eq_countP_field active fits ascending keyed inside, found, ← permuted.countP_eq,
      countP_lt_getElem (insertionSort_ascending distinct) ordered]
  have selected {j : Fin 16} (jInside : j < field.length) (wanted : rank input j = place)
      : (top 3 field)[place]? = some (field[j.val]) := by
    apply top_getElem_of_rank distinct (List.getElem_mem jInside) awarded
    rw [← rank_eq_countP_field active fits ascending keyed jInside, wanted]
  have unique : ∀ j ∈ List.finRange 16, rank input j = place → j = i := by
    intro j _ wanted
    by_cases jInside : j < field.length
    · have same := (selected jInside wanted).symm.trans (selected inside ranked)
      exact Fin.ext ((distinct.getElem_inj_iff).mp (Option.some.inj same))
    · have behind := length_le_rank active fits (not_lt.mp jInside)
      omega
  refine ⟨i, inside, ?_, selected inside ranked⟩
  rw [placed, foldl_select _ _ unique]
  exact if_pos ⟨i, List.mem_finRange i, ranked⟩

include active fits ascending keyed in
/-- The revealed slots of the filled places name the best standings of the field. -/
theorem revealTop3V5_top
    : ((revealTop3V5 input).slots.take (min 3 field.length)).map (field[·]?)
      = (top 3 field).map some := by
  apply List.ext_getElem?
  intro place
  by_cases filled : place < min 3 field.length
  · have awarded : place < 3 := by omega
    obtain ⟨i, inside, chosen, selected⟩ :=
      placed_field active fits ascending keyed awarded (by omega)
    simp only [List.getElem?_map, List.getElem?_take_of_lt filled, selected, revealTop3V5_slots,
      List.getElem?_range awarded, Option.map_some, chosen, List.getElem?_eq_getElem inside]
  · rw [List.getElem?_eq_none, List.getElem?_eq_none]
    · rw [List.length_map, length_top]
      omega
    · rw [List.length_map, List.length_take, revealTop3V5_slots, List.length_map,
        List.length_range]
      omega

end Field

end SecretGarden.Circuit
