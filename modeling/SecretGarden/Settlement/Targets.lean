import SecretGarden.Foundation.Shuffle
import SecretGarden.Settlement.Lifecycle

/-! The traits a round asks for: drawn without repetition, from all traits or from all but
the mutant one.
-/

namespace SecretGarden.Settlement

open Foundation

/-- The weight lets the mutant trait take part under this entropy. -/
def MutantAdmitted (entropy : Vector Byte 32) (weight : Nat) : Prop :=
  (entropy[mutantGateEntropyIndex]?.getD 0).toNat * 255 < weight * 256

instance (entropy : Vector Byte 32) (weight : Nat) : Decidable (MutantAdmitted entropy weight) :=
  inferInstanceAs (Decidable (_ < _))

/-- The draw before there was a weight: every trait is in the pool. -/
def drawTraitsLegacy (entropy : Vector Byte 32)
    : (count : Nat) → Vector Nat traitTableLen × Vector Nat 4
  | 0 => (.ofFn fun place => place, .replicate 4 0)
  | k + 1 =>
      let (pool, targets) := drawTraitsLegacy entropy k
      let remaining := traitTableLen - k
      let swapWith := k + (entropy[k + 1]?.getD 0).toNat % remaining
      let pool := swapTraits pool k swapWith
      (pool, targets.setIfInBounds k (pool[k]?.getD 0))

/-- The selection before there was a weight, as the tests of `open_round` keep it. -/
def selectTargetTraitsLegacy (entropy : Vector Byte 32) : Vector Nat 4 × Nat :=
  let count := targetTraitMin
    + (entropy[0]?.getD 0).toNat % (targetTraitMax - targetTraitMin + 1)
  ((drawTraitsLegacy entropy count).2, count)

/-- The traits of a selection; only the counted slots of its array are meant. -/
def activeTargets (selection : Vector Nat 4 × Nat) : List Nat :=
  selection.1.toList.take selection.2

/-- Distinct known traits, as many as counted, with blank slots behind them. -/
structure TargetsDrawn (selection : Vector Nat 4 × Nat) : Prop where
  counted : targetTraitMin ≤ selection.2 ∧ selection.2 ≤ targetTraitMax
  distinct : (activeTargets selection).Nodup
  known : ∀ id ∈ activeTargets selection, id < traitTableLen
  blank : ∀ slot ∈ selection.1.toList.drop selection.2, slot = 0

--------------------------------------------------------------------------------
-- The draw is a partial shuffle of the pool
--------------------------------------------------------------------------------

/-- The place exchanged with place `k` when `length` places of the pool are in use. -/
def drawnPlace (entropy : Vector Byte 32) (length k : Nat) : Nat :=
  k + (entropy[k + 1]?.getD 0).toNat % (length - k)

/-- Every draw chooses among the places not drawn yet. -/
theorem drawnPlace_ahead (entropy : Vector Byte 32) {length count : Nat} (fits : count ≤ length)
    : ChoosesAhead (drawnPlace entropy length) length count := by
  intro k drawn
  have inside : (entropy[k + 1]?.getD 0).toNat % (length - k) < length - k :=
    Nat.mod_lt _ (by omega)
  simp only [drawnPlace]
  omega

/-- Two places inside the pool are exchanged. -/
theorem swapTraits_eq {pool : Vector Nat traitTableLen} {first second : Nat}
    (left : first < traitTableLen) (right : second < traitTableLen)
    : swapTraits pool first second = pool.swapIfInBounds first second := by
  rw [swapIfInBounds_eq left right]
  apply Vector.ext
  intro k inside
  simp only [swapTraits, Vector.getElem_setIfInBounds, Vector.getElem_swap,
    Vector.getElem?_eq_getElem left, Vector.getElem?_eq_getElem right, Option.getD_some]
  grind

variable {entropy : Vector Byte 32} {length count : Nat} {pool : Vector Nat traitTableLen}

/-- The pool after the draws, by induction on the draws. -/
theorem drawTraits_pool (drawn : count ≤ length) (fits : length ≤ traitTableLen)
    : (drawTraits entropy length pool count).1
      = partialShuffle (drawnPlace entropy length) pool count := by
  induction count with
  | zero => rfl
  | succ k ih =>
      obtain ⟨later, inside⟩ := drawnPlace_ahead entropy drawn k (Nat.lt_succ_self k)
      rw [partialShuffle, ← ih (by omega), ← swapTraits_eq (by omega) (by omega)]
      rfl

/-- The drawn traits are the first places of the pool after the draws, by induction on the
draws; a later draw does not touch them.
-/
theorem getElem?_drawTraits (drawn : count ≤ length) (fits : length ≤ traitTableLen)
    {i : Nat} (inside : i < 4)
    : (drawTraits entropy length pool count).2[i]?
      = some (if i < count
          then (partialShuffle (drawnPlace entropy length) pool count)[i]?.getD 0 else 0) := by
  induction count with
  | zero => simp [drawTraits, inside]
  | succ k ih =>
      have step
          : (drawTraits entropy length pool (k + 1)).2
            = (drawTraits entropy length pool k).2.setIfInBounds k
                ((drawTraits entropy length pool (k + 1)).1[k]?.getD 0) :=
        rfl
      rw [step, drawTraits_pool drawn fits]
      rcases Nat.lt_trichotomy i k with earlier | rfl | later
      · have ahead := drawnPlace_ahead entropy drawn
        rw [Vector.getElem?_setIfInBounds_ne earlier.ne', ih (by omega), if_pos earlier,
          if_pos (by omega), getElem?_partialShuffle ahead fits (by omega),
          getElem?_partialShuffle (ahead.of_le (Nat.le_succ k)) fits earlier]
      · rw [Vector.getElem?_setIfInBounds_self_of_lt inside, if_pos (Nat.lt_succ_self i)]
      · rw [Vector.getElem?_setIfInBounds_ne later.ne, ih (by omega), if_neg (by omega),
          if_neg (by omega)]

/-- The counted slots list the first places of the pool after the draws. -/
theorem take_drawTraits (drawn : count ≤ length) (fits : length ≤ traitTableLen)
    (few : count ≤ 4)
    : (drawTraits entropy length pool count).2.toList.take count
      = (partialShuffle (drawnPlace entropy length) pool count).toList.take count := by
  apply List.ext_getElem?
  intro i
  rw [List.getElem?_take, List.getElem?_take, Vector.getElem?_toList, Vector.getElem?_toList]
  by_cases early : i < count
  · have place : i < traitTableLen := by omega
    rw [if_pos early, if_pos early, getElem?_drawTraits drawn fits (by omega), if_pos early,
      Vector.getElem?_eq_getElem place, Option.getD_some]
  · rw [if_neg early, if_neg early]

/-- The slots that are not counted stay blank. -/
theorem drop_drawTraits (drawn : count ≤ length) (fits : length ≤ traitTableLen) {slot : Nat}
    (behind : slot ∈ (drawTraits entropy length pool count).2.toList.drop count) : slot = 0 := by
  obtain ⟨i, found⟩ := List.mem_iff_getElem?.mp behind
  rw [List.getElem?_drop, Vector.getElem?_toList] at found
  have inside : count + i < 4 := (Vector.getElem?_eq_some_iff.mp found).1
  rw [getElem?_drawTraits drawn fits inside, if_neg (by omega)] at found
  exact (Option.some.inj found).symm

--------------------------------------------------------------------------------
-- The selection with and without the mutant trait
--------------------------------------------------------------------------------

/-- The traits that take part in the draw. -/
def traitPool (admitted : Bool) : List Nat :=
  (List.range traitTableLen).filter fun id => id != traitIdMutant || admitted

/-- The number of traits the entropy asks for. -/
def targetCount (entropy : Vector Byte 32) : Nat :=
  targetTraitMin + (entropy[0]?.getD 0).toNat % (targetTraitMax - targetTraitMin + 1)

/-- The selection once it is known whether the mutant trait takes part. -/
def selectFrom (entropy : Vector Byte 32) (admitted : Bool) : Vector Nat 4 × Nat :=
  let pool := .ofFn fun place : Fin traitTableLen => (traitPool admitted).getD place 0
  ((drawTraits entropy (traitPool admitted).length pool (targetCount entropy)).2,
    targetCount entropy)

/-- The weight matters for the mutant trait's part in the draw only. -/
theorem selectTargetTraits_eq (entropy : Vector Byte 32) (weight : Nat)
    : selectTargetTraits entropy weight
      = selectFrom entropy (decide (MutantAdmitted entropy weight)) :=
  rfl

/-- A selection lists distinct traits that take part in the draw. -/
theorem selectFrom_drawn (entropy : Vector Byte 32) (admitted : Bool)
    : TargetsDrawn (selectFrom entropy admitted)
      ∧ ∀ id ∈ activeTargets (selectFrom entropy admitted), id ∈ traitPool admitted := by
  have counted : targetTraitMin ≤ targetCount entropy ∧ targetCount entropy ≤ targetTraitMax := by
    have residue := Nat.mod_lt (entropy[0]?.getD 0).toNat (show 0 < 3 by decide)
    simp only [targetCount, targetTraitMin, targetTraitMax]
    omega
  have few : targetCount entropy ≤ 4 := counted.2
  have sizes : 4 ≤ (traitPool admitted).length ∧ (traitPool admitted).length ≤ traitTableLen := by
    cases admitted <;> decide
  have listed
      : (Vector.ofFn fun place : Fin traitTableLen =>
            (traitPool admitted).getD place 0).toList.take (traitPool admitted).length
        = traitPool admitted := by
    cases admitted <;> decide
  have drawn := few.trans sizes.1
  have ahead := drawnPlace_ahead entropy drawn
  have unrepeated
      : ((Vector.ofFn fun place : Fin traitTableLen =>
            (traitPool admitted).getD place 0).toList.take (traitPool admitted).length).Nodup := by
    rw [listed]
    exact List.nodup_range.filter _
  obtain ⟨distinct, members⟩ := partialShuffle_drawn ahead sizes.2 unrepeated
  have active
      : activeTargets (selectFrom entropy admitted)
        = (partialShuffle (drawnPlace entropy (traitPool admitted).length)
            (.ofFn fun place : Fin traitTableLen => (traitPool admitted).getD place 0)
            (targetCount entropy)).toList.take (targetCount entropy) :=
    take_drawTraits drawn sizes.2 few
  rw [listed] at members
  rw [← active] at distinct members
  refine ⟨⟨counted, distinct, ?_, fun slot => drop_drawTraits drawn sizes.2⟩, members⟩
  intro id selected
  exact List.mem_range.mp (List.mem_filter.mp (members id selected)).1

/-- Without the mutant trait in the draw it is not selected. -/
theorem mutant_not_selected (entropy : Vector Byte 32)
    : traitIdMutant ∉ activeTargets (selectFrom entropy false) := by
  intro selected
  have listed := (selectFrom_drawn entropy false).2 _ selected
  revert listed
  decide

/-- With every trait in the draw the legacy selection is made. Both draw from the same
pool in the same way, by induction on the draws.
-/
theorem selectFrom_true (entropy : Vector Byte 32)
    : selectFrom entropy true = selectTargetTraitsLegacy entropy := by
  have pools
      : (Vector.ofFn fun place : Fin traitTableLen => (traitPool true).getD place 0)
        = .ofFn fun place => place := by decide
  have draws (count : Nat)
      : drawTraits entropy (traitPool true).length
          (.ofFn fun place : Fin traitTableLen => (traitPool true).getD place 0) count
        = drawTraitsLegacy entropy count := by
    induction count with
    | zero => rw [pools]; rfl
    | succ k ih =>
        rw [drawTraits, ih]
        rfl
  simp only [selectFrom, draws]
  rfl

/-- A higher weight admits the mutant trait as well. -/
theorem MutantAdmitted.mono {lower higher : Nat} (raised : lower ≤ higher)
    (admitted : MutantAdmitted entropy lower) : MutantAdmitted entropy higher :=
  Nat.lt_of_lt_of_le admitted (Nat.mul_le_mul_right 256 raised)

/-- The uniform weight always admits the mutant trait, a byte being less than 256. -/
theorem mutantAdmitted_uniform (entropy : Vector Byte 32)
    : MutantAdmitted entropy mutantWeightUniform := by
  have byte := (entropy[mutantGateEntropyIndex]?.getD 0).isLt
  simp only [MutantAdmitted, mutantWeightUniform]
  omega

theorem not_mutantAdmitted_zero (entropy : Vector Byte 32) : ¬ MutantAdmitted entropy 0 := by
  simp [MutantAdmitted]

/-- Every selection lists distinct known traits. Where the weight admits the mutant trait it
is the legacy selection, elsewhere the mutant trait is not selected; raising the weight
never removes that trait, and changes the selection at one weight at most.
-/
theorem selectTargetTraits_weighted (entropy : Vector Byte 32)
    : (∀ weight,
        TargetsDrawn (selectTargetTraits entropy weight)
        ∧ (MutantAdmitted entropy weight
            → selectTargetTraits entropy weight = selectTargetTraitsLegacy entropy)
        ∧ (¬ MutantAdmitted entropy weight
            → traitIdMutant ∉ activeTargets (selectTargetTraits entropy weight)))
      ∧ MutantAdmitted entropy mutantWeightUniform
      ∧ ¬ MutantAdmitted entropy 0
      ∧ (∀ lower higher,
          lower ≤ higher
          → traitIdMutant ∈ activeTargets (selectTargetTraits entropy lower)
          → traitIdMutant ∈ activeTargets (selectTargetTraits entropy higher))
      ∧ ∃ threshold,
          (∀ weight < threshold, selectTargetTraits entropy weight = selectTargetTraits entropy 0)
          ∧ ∀ weight, threshold ≤ weight
            → selectTargetTraits entropy weight
              = selectTargetTraits entropy mutantWeightUniform := by
  have without {weight : Nat} (excluded : ¬ MutantAdmitted entropy weight)
      : selectTargetTraits entropy weight = selectFrom entropy false := by
    rw [selectTargetTraits_eq, decide_eq_false excluded]
  have within {weight : Nat} (admitted : MutantAdmitted entropy weight)
      : selectTargetTraits entropy weight = selectFrom entropy true := by
    rw [selectTargetTraits_eq, decide_eq_true admitted]
  have uniform := mutantAdmitted_uniform entropy
  have zero := not_mutantAdmitted_zero entropy
  refine ⟨fun weight => ⟨?_, ?_, ?_⟩, uniform, zero, ?_, ?_⟩
  · rw [selectTargetTraits_eq]
    exact (selectFrom_drawn entropy _).1
  · intro admitted
    rw [within admitted, selectFrom_true]
  · intro excluded
    rw [without excluded]
    exact mutant_not_selected entropy
  · intro lower higher raised selected
    by_cases admitted : MutantAdmitted entropy lower
    · rwa [within (admitted.mono raised), ← within admitted]
    · rw [without admitted] at selected
      exact absurd selected (mutant_not_selected entropy)
  · refine ⟨(entropy[mutantGateEntropyIndex]?.getD 0).toNat * 255 / 256 + 1, ?_, ?_⟩
    · intro weight below
      have excluded : ¬ MutantAdmitted entropy weight := by
        simp only [MutantAdmitted]
        omega
      rw [without excluded, without zero]
    · intro weight reached
      have admitted : MutantAdmitted entropy weight := by
        simp only [MutantAdmitted]
        omega
      rw [within admitted, within uniform]

end SecretGarden.Settlement
