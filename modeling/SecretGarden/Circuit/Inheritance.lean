import Mathlib.Data.Fintype.Prod
import Mathlib.Order.Fin.Basic
import Mathlib.Order.Interval.Finset.Fin
import SecretGarden.Circuit.Breeding

/-! The dials of breeding as distributions over the draws: how often an inherited gene reaches a
value, and how often an offspring is a mutant.
-/

namespace SecretGarden.Circuit

open Foundation

variable {ga gb bias : Unsigned 8}

--------------------------------------------------------------------------------
-- One gene
--------------------------------------------------------------------------------

/-- The average of two genes, rounded down. -/
def average (ga gb : Unsigned 8) : Unsigned 8 := ⟨(ga.val + gb.val) / 2, by omega⟩

/-- The rolls that inherit parent A's gene. -/
def favoured (aStronger : Bool) (bias : Unsigned 8) : Nat :=
  if aStronger then 160 + bias.val / 4 else 96 - bias.val / 4

/-- The gene that the draws give. -/
def inheritedGene (ga gb bias : Unsigned 8) (draws : PickDraws) : Unsigned 8 :=
  if draws.mutateRoll < 32 then average ga gb
  else if draws.pickRoll.val < favoured (decide (gb ≤ ga)) bias then ga else gb

theorem pickThreshold_eq (aStronger : Bool) (bias : Unsigned 8)
    : ∃ threshold, pickThreshold aStronger bias = some threshold
        ∧ threshold.val = favoured aStronger bias := by
  cases aStronger with
  | true => exact exists_narrow 8 (160 + bias.val / 4) (by omega)
  | false => exact exists_minus 96 (bias.val / 4) (by show bias.val / 4 ≤ 96; omega)

/-- Nothing overflows in a gene's inheritance. -/
theorem pick_eq (ga gb bias : Unsigned 8) (draws : PickDraws)
    : pick ga gb bias draws = some (inheritedGene ga gb bias draws) := by
  obtain ⟨threshold, thresholdFits, thresholdIs⟩ := pickThreshold_eq (decide (gb ≤ ga)) bias
  have half : (ga.val + gb.val) / 2 < 2 ^ 8 := by omega
  obtain ⟨sum, sumFits, sumIs⟩ := exists_narrow 16 (ga.val + gb.val) (by omega)
  have averageFits : narrow 8 (sum.val / 2) = some (average ga gb) := by
    rw [sumIs]
    exact narrow_of_lt half
  simp only [pick, bind, thresholdFits, Option.bind_some, sumFits, averageFits, inheritedGene,
    Fin.lt_def, thresholdIs]

theorem average_comm (ga gb : Unsigned 8) : average ga gb = average gb ga := by
  simp only [average, Nat.add_comm]

/-- An inherited gene lies between the parents' genes. -/
theorem inheritedGene_between (ga gb bias : Unsigned 8) (draws : PickDraws)
    : min ga gb ≤ inheritedGene ga gb bias draws ∧ inheritedGene ga gb bias draws ≤ max ga gb := by
  have averaged : min ga gb ≤ average ga gb ∧ average ga gb ≤ max ga gb := by
    rw [min_le_iff, le_max_iff]
    simp only [Fin.le_def, average]
    omega
  unfold inheritedGene
  split
  · exact averaged
  · split
    · exact ⟨min_le_left _ _, le_max_left _ _⟩
    · exact ⟨min_le_right _ _, le_max_right _ _⟩

/-- Swapping the parents mirrors the roll: what was a win below the threshold is one above it. -/
theorem inheritedGene_swap (ga gb bias pickRoll mutateRoll : Unsigned 8)
    : inheritedGene gb ga bias ⟨pickRoll.rev, mutateRoll⟩
      = inheritedGene ga gb bias ⟨pickRoll, mutateRoll⟩ := by
  simp only [inheritedGene, average_comm gb]
  split
  · rfl
  · have dial : bias.val / 4 ≤ 63 := by omega
    have mirrored : pickRoll.rev.val = 255 - pickRoll.val := by
      rw [Fin.val_rev]
      omega
    rw [mirrored]
    rcases lt_trichotomy ga gb with below | same | above
    · simp only [favoured, below.le, not_le.mpr below, decide_true, decide_false, if_true,
        Bool.false_eq_true, if_false]
      by_cases won : pickRoll.val < 96 - bias.val / 4
      · rw [if_pos won, if_neg (by omega)]
      · rw [if_neg won, if_pos (by omega)]
    · subst same
      simp
    · simp only [favoured, above.le, not_le.mpr above, decide_true, decide_false, if_true,
        Bool.false_eq_true, if_false]
      by_cases won : pickRoll.val < 160 + bias.val / 4
      · rw [if_pos won, if_neg (by omega)]
      · rw [if_neg won, if_pos (by omega)]

/-- With the same draws a higher dial never gives a weaker gene. -/
theorem inheritedGene_mono {lower higher : Unsigned 8} (raised : lower ≤ higher)
    (draws : PickDraws)
    : inheritedGene ga gb lower draws ≤ inheritedGene ga gb higher draws := by
  have dials : lower.val / 4 ≤ higher.val / 4 := Nat.div_le_div_right raised
  simp only [inheritedGene]
  split
  · exact le_rfl
  · by_cases stronger : gb ≤ ga
    · simp only [favoured, stronger, decide_true, if_true]
      by_cases won : draws.pickRoll.val < 160 + lower.val / 4
      · rw [if_pos won, if_pos (by omega)]
      · rw [if_neg won]
        split
        · exact stronger
        · exact le_rfl
    · simp only [favoured, stronger, decide_false, Bool.false_eq_true, if_false]
      by_cases won : draws.pickRoll.val < 96 - higher.val / 4
      · rw [if_pos won, if_pos (by omega)]
      · rw [if_neg won]
        split
        · exact (not_le.mp stronger).le
        · exact le_rfl

--------------------------------------------------------------------------------
-- Counting draws
--------------------------------------------------------------------------------

/-- How many pairs of rolls give a gene of at least `x`. -/
def rollsReaching (ga gb bias : Unsigned 8) (x : Nat) : Nat :=
  ((Finset.univ : Finset (Unsigned 8 × Unsigned 8)).filter fun rolls =>
    (pick ga gb bias ⟨rolls.1, rolls.2⟩).any (x ≤ ·.val)).card

/-- How many gate draws make the offspring a mutant. -/
def mutantGates (soil randMag : Unsigned 8) : Nat :=
  ((Finset.univ : Finset (Unsigned 8)).filter fun randGate =>
    (mutationAffinity soil randGate randMag).any (·.val % 2 = 1)).card

theorem rollsReaching_swap (ga gb bias : Unsigned 8) (x : Nat)
    : rollsReaching ga gb bias x = rollsReaching gb ga bias x := by
  refine Finset.card_equiv (Fin.revPerm.prodCongr (Equiv.refl _)) fun rolls => ?_
  simp [pick_eq, inheritedGene_swap]

theorem rollsReaching_mono {lower higher : Unsigned 8} (raised : lower ≤ higher) (x : Nat)
    : rollsReaching ga gb lower x ≤ rollsReaching ga gb higher x := by
  refine Finset.card_le_card (Finset.monotone_filter_right _ fun rolls _ reached => ?_)
  rw [pick_eq, Option.any_some, decide_eq_true_eq] at reached ⊢
  exact reached.trans (inheritedGene_mono raised _)

/-- The gate alone decides the parity of the affinity. -/
theorem mutationAffinity_eq (soil randGate randMag : Unsigned 8)
    : ∃ affinity, mutationAffinity soil randGate randMag = some affinity
        ∧ (affinity.val % 2 = 1 ↔ randGate.val < 4 + soil.val / 8) := by
  obtain ⟨threshold, thresholdFits, thresholdIs⟩ :=
    exists_narrow 8 (4 + soil.val / 8) (by omega)
  obtain ⟨sum, sumFits, sumIs⟩ :=
    exists_narrow 16 (randMag.val + soil.val) (by omega)
  obtain ⟨magnitude, magnitudeFits, magnitudeIs⟩ :=
    exists_narrow 8 (sum.val / 2) (by omega)
  obtain ⟨even, evenFits, evenIs⟩ :=
    exists_narrow 8 (magnitude.val / 2 * 2) (by omega)
  let bit : Nat := if randGate < threshold then 1 else 0
  have small : bit ≤ 1 := by
    simp only [bit]
    split <;> omega
  obtain ⟨affinity, affinityFits, affinityIs⟩ :=
    exists_narrow 8 (even.val + bit) (by omega)
  refine ⟨affinity, ?_, ?_⟩
  · simp only [mutationAffinity, bind, thresholdFits, sumFits, magnitudeFits, evenFits,
      Option.bind_some]
    exact affinityFits
  · rw [← thresholdIs, ← Fin.lt_def, affinityIs]
    by_cases passes : randGate < threshold
    · have one : bit = 1 := if_pos passes
      simp only [passes, iff_true]
      omega
    · have zero : bit = 0 := if_neg passes
      simp only [passes, iff_false]
      omega

theorem mutantGates_eq (soil randMag : Unsigned 8)
    : mutantGates soil randMag = 4 + soil.val / 8 := by
  have bound : 4 + soil.val / 8 < 2 ^ 8 := by omega
  have gates
      : ((Finset.univ : Finset (Unsigned 8)).filter fun randGate =>
          (mutationAffinity soil randGate randMag).any (·.val % 2 = 1))
        = Finset.Iio ⟨4 + soil.val / 8, bound⟩ := by
    ext randGate
    obtain ⟨affinity, computed, odd⟩ := mutationAffinity_eq soil randGate randMag
    simp only [Finset.mem_filter, Finset.mem_univ, true_and, computed, Option.any_some,
      decide_eq_true_eq, odd, Finset.mem_Iio, Fin.lt_def]
  rw [mutantGates, gates, Fin.card_Iio]

/-- Inheritance does not depend on the order of the parents, a higher dial dominates a lower one,
every gene lies between the parents', and soil alone decides how many gates make a mutant.
-/
theorem dials_fair_and_monotone (ga gb : Unsigned 8)
    : (∀ bias draws, ∃ gene, pick ga gb bias draws = some gene
        ∧ min ga gb ≤ gene ∧ gene ≤ max ga gb)
      ∧ (∀ bias x, rollsReaching ga gb bias x = rollsReaching gb ga bias x)
      ∧ (∀ lower higher x, lower ≤ higher
          → rollsReaching ga gb lower x ≤ rollsReaching ga gb higher x)
      ∧ (∀ soil randMag, mutantGates soil randMag = 4 + soil.val / 8)
      ∧ ∀ poorer richer randMag other, poorer ≤ richer
          → mutantGates poorer randMag ≤ mutantGates richer other := by
  refine ⟨fun bias draws => ?_, rollsReaching_swap ga gb, fun _ _ x raised =>
    rollsReaching_mono raised x, mutantGates_eq, fun poorer richer randMag other fed => ?_⟩
  · exact ⟨_, pick_eq ga gb bias draws, inheritedGene_between ga gb bias draws⟩
  · rw [mutantGates_eq, mutantGates_eq]
    exact Nat.add_le_add_left (Nat.div_le_div_right fed) 4

/-- The full dial reaches at least what the empty one does, for one gene and for the mutants. -/
theorem fullDials_dominate
    : rollsReaching 200 100 0 150 ≤ rollsReaching 200 100 255 150
      ∧ mutantGates 0 7 ≤ mutantGates 255 9 := by
  obtain ⟨_, _, dominated, _, fed⟩ := dials_fair_and_monotone 200 100
  exact ⟨dominated 0 255 150 (by decide), fed 0 255 7 9 (by decide)⟩

end SecretGarden.Circuit
