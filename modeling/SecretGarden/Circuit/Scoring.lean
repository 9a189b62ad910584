import Mathlib.Data.Fintype.Pi
import Mathlib.Data.List.FinRange
import SecretGarden.Foundation.Width

/-! The circuits that compare a genome with a round's target traits: an entry's score, and the
private hint that tells a player which targets are met. Each evaluates its own copy of the trait
conditions.
-/

namespace SecretGarden.Circuit

open Foundation

/-- Ten logical byte fields. -/
structure Genome where
  colorGene : Unsigned 8
  petalGene : Unsigned 8
  leafGene : Unsigned 8
  stemGene : Unsigned 8
  aromaGene : Unsigned 8
  climateGene : Unsigned 8
  recessiveMask : Unsigned 8
  mutationAffinity : Unsigned 8
  stability : Unsigned 8
  reserved : Unsigned 8
deriving DecidableEq

/-- The loop over the four target slots: the values of the marked slots, added up in a byte. -/
def addMarked (marked : Fin 4 → Bool) (value : Fin 4 → Nat) : Option (Unsigned 8) :=
  (List.finRange 4).foldlM
    (fun sum i => if marked i then narrow 8 (sum + value i) else some sum) 0

--------------------------------------------------------------------------------
-- score_entry_v2
--------------------------------------------------------------------------------

namespace ScoreEntryV2

def traitSatisfied (g : Genome) (traitId : Nat) : Bool :=
  match traitId with
  | 0 => g.colorGene.val ≥ 180
  | 1 => g.colorGene.val < 64
  | 2 => g.petalGene.val ≥ 150
  | 3 => g.leafGene.val ≥ 128
  | 4 => g.stemGene.val ≥ 160
  | 5 => g.aromaGene.val ≥ 150
  | 6 => g.climateGene.val ≥ 140
  | 7 => g.recessiveMask.val ≥ 32
  | 8 => g.mutationAffinity.val % 2 == 1
  | 9 => g.stability.val ≥ 150
  | _ => false

/-- An active slot that matches. -/
def marked (g : Genome) (targetTraits : Vector (Unsigned 8) 4) (targetTraitCount : Unsigned 8)
    (i : Fin 4) : Bool :=
  i.val < targetTraitCount.val && traitSatisfied g targetTraits[i].val

/-- The bonus of a generation before it is scaled by the matches; the cap is tested first. -/
def genBonusRaw (generation : Unsigned 16) : Option (Unsigned 16) :=
  if generation.val ≥ 16 then some 30
  else if generation.val > 1 then do
    let bred ← minus generation 1
    narrow 16 (2 * bred)
  else some 0

end ScoreEntryV2

open ScoreEntryV2 in
/-- Score a genome: each of the two terms is multiplied first and divided afterwards. -/
def scoreEntryV2 (genome : Genome) (targetTraits : Vector (Unsigned 8) 4)
    (targetTraitCount : Unsigned 8) (generation : Unsigned 16) : Option (Unsigned 8) := do
  let matched ← addMarked (marked genome targetTraits targetTraitCount) fun _ => 1
  let safeCount : Unsigned 8 := if targetTraitCount = 0 then 1 else targetTraitCount
  let weighted ← narrow 16 (matched * 70)
  let base := weighted.val / safeCount
  let genBonusRaw ← genBonusRaw generation
  let amplified ← narrow 16 (matched * genBonusRaw)
  let genBonus := amplified.val / safeCount
  let total ← narrow 16 (base + genBonus)
  if total.val > 100 then some 100 else narrow 8 total

--------------------------------------------------------------------------------
-- private_hint
--------------------------------------------------------------------------------

namespace PrivateHint

def traitSatisfied (g : Genome) (traitId : Nat) : Bool :=
  match traitId with
  | 0 => g.colorGene.val ≥ 180
  | 1 => g.colorGene.val < 64
  | 2 => g.petalGene.val ≥ 150
  | 3 => g.leafGene.val ≥ 128
  | 4 => g.stemGene.val ≥ 160
  | 5 => g.aromaGene.val ≥ 150
  | 6 => g.climateGene.val ≥ 140
  | 7 => g.recessiveMask.val ≥ 32
  | 8 => g.mutationAffinity.val % 2 == 1
  | 9 => g.stability.val ≥ 150
  | _ => false

def marked (g : Genome) (targetTraits : Vector (Unsigned 8) 4) (targetTraitCount : Unsigned 8)
    (i : Fin 4) : Bool :=
  i.val < targetTraitCount.val && traitSatisfied g targetTraits[i].val

def bitValue : Vector Nat 4 := #v[1, 2, 4, 8]

end PrivateHint

open PrivateHint in
/-- The targets a genome meets, one bit for each slot. -/
def privateHint (genome : Genome) (targetTraits : Vector (Unsigned 8) 4)
    (targetTraitCount : Unsigned 8) : Option (Unsigned 8) :=
  addMarked (marked genome targetTraits targetTraitCount) fun i => bitValue[i]

--------------------------------------------------------------------------------
-- The marked slots
--------------------------------------------------------------------------------

/-- The two copies of the conditions agree. -/
theorem traitSatisfied_eq : PrivateHint.traitSatisfied = ScoreEntryV2.traitSatisfied := rfl

theorem marked_eq : PrivateHint.marked = ScoreEntryV2.marked := by
  funext g targetTraits targetTraitCount i
  rw [PrivateHint.marked, ScoreEntryV2.marked, traitSatisfied_eq]

/-- The sum over the marked slots of a list. -/
def markedSum (marked : Fin 4 → Bool) (value : Fin 4 → Nat) (slots : List (Fin 4)) : Nat :=
  (slots.map fun i => if marked i then value i else 0).sum

/-- A loop whose whole sum fits a byte never overflows, by induction on the slots left. -/
theorem foldlM_marked {marked : Fin 4 → Bool} {value : Fin 4 → Nat} (slots : List (Fin 4))
    (sum : Unsigned 8) (inside : sum + markedSum marked value slots < 2 ^ 8)
    : slots.foldlM (fun sum i => if marked i then narrow 8 (sum + value i) else some sum) sum
      = some ⟨sum + markedSum marked value slots, inside⟩ := by
  induction slots generalizing sum with
  | nil => rfl
  | cons i rest ih =>
      have split
          : markedSum marked value (i :: rest)
            = (if marked i then value i else 0) + markedSum marked value rest := by
        rw [markedSum, List.map_cons, List.sum_cons, markedSum]
      rw [split] at inside
      rw [List.foldlM_cons]
      by_cases here : marked i
      · rw [if_pos here] at inside
        have next : sum.val + value i < 2 ^ 8 := by omega
        simp only [here, if_true, narrow_of_lt next, bind, Option.bind_some]
        rw [ih ⟨sum + value i, next⟩ (by simpa [Nat.add_assoc] using inside)]
        simp only [split, here, if_true, Nat.add_assoc]
      · rw [if_neg here, Nat.zero_add] at inside
        simp only [here, Bool.false_eq_true, if_false, bind, Option.bind_some]
        rw [ih sum inside]
        simp only [split, here, Bool.false_eq_true, if_false, Nat.zero_add]

theorem addMarked_eq {marked : Fin 4 → Bool} {value : Fin 4 → Nat}
    (inside : markedSum marked value (List.finRange 4) < 2 ^ 8)
    : addMarked marked value = some ⟨markedSum marked value (List.finRange 4), inside⟩ := by
  have start : (0 : Unsigned 8).val + markedSum marked value (List.finRange 4) < 2 ^ 8 := by
    simpa using inside
  rw [addMarked, foldlM_marked (List.finRange 4) 0 start]
  simp

/-- How many of the four slots are marked. -/
def markedCount (marked : Fin 4 → Bool) : Nat := markedSum marked (fun _ => 1) (List.finRange 4)

/-- The marked slots as bits. -/
def markedMask (marked : Fin 4 → Bool) : Nat :=
  markedSum marked (fun i => PrivateHint.bitValue[i]) (List.finRange 4)

/-- The number of set bits of a byte. -/
def setBits (mask : Nat) : Nat := (List.range 8).countP mask.testBit

theorem markedCount_le : ∀ marked, markedCount marked ≤ 4 := by decide

theorem markedMask_lt : ∀ marked, markedMask marked < 16 := by decide

/-- A bit is set exactly for a marked slot. -/
theorem testBit_markedMask
    : ∀ (marked : Fin 4 → Bool) (i : Fin 4), (markedMask marked).testBit i = marked i := by
  decide

theorem setBits_markedMask : ∀ marked, setBits (markedMask marked) = markedCount marked := by
  decide

/-- No more slots are marked than a bound on their positions allows. -/
theorem markedCount_le_bound {marked : Fin 4 → Bool} {bound : Nat}
    (below : ∀ i, marked i → i.val < bound)
    : markedCount marked ≤ bound := by
  have small
      : ∀ (bound : Fin 4) (marked : Fin 4 → Bool), (∀ i, marked i → i.val < bound.val)
        → markedCount marked ≤ bound.val := by
    decide
  by_cases few : bound < 4
  · exact small ⟨bound, few⟩ marked below
  · exact (markedCount_le marked).trans (not_lt.mp few)

--------------------------------------------------------------------------------
-- The closed form
--------------------------------------------------------------------------------

variable {genome : Genome} {targetTraits : Vector (Unsigned 8) 4} {targetTraitCount : Unsigned 8}
  {generation : Unsigned 16}

/-- The bonus of a generation: two points for each one after the first, thirty at most. -/
def generationBonus (generation : Nat) : Nat := min (2 * (generation - 1)) 30

/-- The score of `matched` out of `count` targets. -/
def closedScore (matched count generation : Nat) : Nat :=
  70 * matched / count + matched * generationBonus generation / count

/-- The hint's loop stays inside its byte and marks the targets that are met. -/
theorem privateHint_eq (genome : Genome) (targetTraits : Vector (Unsigned 8) 4)
    (targetTraitCount : Unsigned 8)
    : ∃ mask, privateHint genome targetTraits targetTraitCount = some mask
        ∧ mask.val = markedMask (PrivateHint.marked genome targetTraits targetTraitCount) := by
  have inside := markedMask_lt (PrivateHint.marked genome targetTraits targetTraitCount)
  exact ⟨_, addMarked_eq (inside.trans (by decide)), rfl⟩

/-- The capped test computes the bonus without leaving the type at any generation. -/
theorem genBonusRaw_eq (generation : Unsigned 16)
    : ∃ bonus, ScoreEntryV2.genBonusRaw generation = some bonus
        ∧ bonus.val = generationBonus generation := by
  unfold ScoreEntryV2.genBonusRaw generationBonus
  split
  · next old => exact ⟨30, rfl, by show 30 = _; omega⟩
  · next young =>
      split
      · next bred =>
          have single : minus generation 1 = some ⟨generation - 1, by omega⟩ :=
            minus_of_le (by omega)
          have doubled : 2 * (generation.val - 1) < 2 ^ 16 := by omega
          rw [single]
          exact ⟨_, narrow_of_lt doubled, by dsimp only; omega⟩
      · next first => exact ⟨0, rfl, by show 0 = _; omega⟩

theorem generationBonus_le (generation : Nat) : generationBonus generation ≤ 30 :=
  Nat.min_le_right _ _

/-- Out of at least as many targets, no matches score past a hundred. -/
theorem closedScore_le {matched count : Nat} (within : matched ≤ count) (generation : Nat)
    : closedScore matched count generation ≤ 100 := by
  have bonus := generationBonus_le generation
  have base : 70 * matched / count ≤ 70 := by
    apply Nat.div_le_of_le_mul
    rw [Nat.mul_comm count]
    exact Nat.mul_le_mul_left 70 within
  have amplified : matched * generationBonus generation / count ≤ 30 :=
    Nat.div_le_of_le_mul (Nat.mul_le_mul within bonus)
  unfold closedScore
  omega

/-- Only active slots are marked. -/
theorem markedCount_le_count
    : markedCount (ScoreEntryV2.marked genome targetTraits targetTraitCount)
      ≤ targetTraitCount := by
  refine markedCount_le_bound fun i active => ?_
  simp only [ScoreEntryV2.marked, Bool.and_eq_true, decide_eq_true_eq] at active
  exact active.1

/-- The hint's bits: the active targets that the genome meets. -/
theorem testBit_hint {i : Nat}
    : (markedMask (ScoreEntryV2.marked genome targetTraits targetTraitCount)).testBit i
      ↔ i < min targetTraitCount.val 4
        ∧ targetTraits[i]?.any fun id => ScoreEntryV2.traitSatisfied genome id.val := by
  by_cases slot : i < 4
  · rw [testBit_markedMask _ ⟨i, slot⟩]
    simp [ScoreEntryV2.marked, slot]
  · have small := markedMask_lt (ScoreEntryV2.marked genome targetTraits targetTraitCount)
    have power : 2 ^ 4 ≤ 2 ^ i := Nat.pow_le_pow_right (by decide) (not_lt.mp slot)
    rw [Nat.testBit_lt_two_pow (small.trans_le power)]
    simp [slot]

/-- The score circuit stays inside its types and computes the closed form; its clamp never acts. -/
theorem scoreEntryV2_eq (genome : Genome) (targetTraits : Vector (Unsigned 8) 4)
    (targetTraitCount : Unsigned 8) (generation : Unsigned 16)
    : ∃ score, scoreEntryV2 genome targetTraits targetTraitCount generation = some score
        ∧ score.val = closedScore
            (markedCount (ScoreEntryV2.marked genome targetTraits targetTraitCount))
            (max targetTraitCount.val 1) generation := by
  let marked := ScoreEntryV2.marked genome targetTraits targetTraitCount
  have few := markedCount_le marked
  have within : markedCount marked ≤ max targetTraitCount.val 1 :=
    markedCount_le_count.trans (le_max_left _ _)
  obtain ⟨bonus, bonusFits, bonusIs⟩ := genBonusRaw_eq generation
  have bonusBound : bonus.val ≤ 30 := bonusIs ▸ generationBonus_le _
  have safe
      : ((if targetTraitCount = 0 then 1 else targetTraitCount : Unsigned 8).val)
        = max targetTraitCount.val 1 := by
    split
    · next none => subst none; rfl
    · next several =>
        have positive : targetTraitCount.val ≠ 0 := fun zero => several (Fin.ext zero)
        omega
  have counted
      : addMarked marked (fun _ => 1) = some ⟨markedCount marked, few.trans_lt (by decide)⟩ :=
    addMarked_eq (few.trans_lt (by decide))
  have weighted : markedCount marked * 70 < 2 ^ 16 := by omega
  have amplified : markedCount marked * bonus.val < 2 ^ 16 :=
    (Nat.mul_le_mul few bonusBound).trans_lt (by decide)
  have total
      : markedCount marked * 70 / max targetTraitCount.val 1
          + markedCount marked * bonus.val / max targetTraitCount.val 1
        = closedScore (markedCount marked) (max targetTraitCount.val 1) generation := by
    rw [closedScore, bonusIs, Nat.mul_comm 70]
  have small := closedScore_le within generation
  have fits : closedScore (markedCount marked) (max targetTraitCount.val 1) generation
      < 2 ^ 16 := by
    omega
  refine ⟨⟨_, small.trans_lt (by decide)⟩, ?_, rfl⟩
  simp only [scoreEntryV2, bind]
  rw [counted, Option.bind_some, narrow_of_lt weighted, Option.bind_some, bonusFits,
    Option.bind_some, narrow_of_lt amplified, Option.bind_some, safe, total,
    narrow_of_lt fits, Option.bind_some, if_neg (not_lt.mpr small)]
  exact narrow_of_lt (small.trans_lt (by decide))

/-- More matches and later generations score at least as much. -/
theorem closedScore_mono {count fewer more earlier later : Nat} (matching : fewer ≤ more)
    (generations : earlier ≤ later)
    : closedScore fewer count earlier ≤ closedScore more count later := by
  have bonus : generationBonus earlier ≤ generationBonus later := by
    unfold generationBonus
    omega
  have base : 70 * fewer / count ≤ 70 * more / count :=
    Nat.div_le_div_right (Nat.mul_le_mul_left 70 matching)
  have amplified
      : fewer * generationBonus earlier / count ≤ more * generationBonus later / count :=
    Nat.div_le_div_right (Nat.mul_le_mul matching bonus)
  exact Nat.add_le_add base amplified

/-- With few targets every match is worth a point. -/
theorem closedScore_eq_zero {matched count : Nat} (asked : 1 ≤ count) (few : count ≤ 70)
    (generation : Nat)
    : closedScore matched count generation = 0 ↔ matched = 0 := by
  constructor
  · intro zero
    by_contra matching
    have reached : 1 ≤ 70 * matched / count := by
      rw [Nat.le_div_iff_mul_le asked]
      omega
    exact absurd (Nat.add_eq_zero_iff.mp zero).1 (Nat.pos_iff_ne_zero.mp reached)
  · rintro rfl
    simp [closedScore]

/-- Full marks take every match and the full bonus. -/
theorem closedScore_eq_hundred {matched count : Nat} (asked : 1 ≤ count)
    (within : matched ≤ count) (generation : Nat)
    : closedScore matched count generation = 100 ↔ matched = count ∧ 16 ≤ generation := by
  have bonus := generationBonus_le generation
  rcases within.lt_or_eq with fewer | rfl
  · have both : closedScore matched count generation
        ≤ (70 * matched + matched * generationBonus generation) / count :=
      Nat.div_add_div_le_add_div
    have product : matched * generationBonus generation ≤ matched * 30 :=
      Nat.mul_le_mul_left matched bonus
    have below : (70 * matched + matched * generationBonus generation) / count < 100 := by
      rw [Nat.div_lt_iff_lt_mul asked]
      omega
    constructor
    · intro full
      omega
    · rintro ⟨every, _⟩
      omega
  · have all : closedScore matched matched generation = 70 + generationBonus generation := by
      rw [closedScore, Nat.mul_div_cancel _ asked, Nat.mul_div_cancel_left _ asked]
    rw [all, and_iff_right rfl]
    unfold generationBonus
    omega

/-- A bit of the hint is set exactly for an active target that the genome meets, as the score
circuit judges it, and the score is the closed form of the number of those bits.
-/
theorem hints_agree_with_scores (genome : Genome) (targetTraits : Vector (Unsigned 8) 4)
    (targetTraitCount : Unsigned 8) (generation : Unsigned 16)
    : ∃ mask score,
        privateHint genome targetTraits targetTraitCount = some mask
        ∧ scoreEntryV2 genome targetTraits targetTraitCount generation = some score
        ∧ (∀ i, mask.val.testBit i
            ↔ i < min targetTraitCount.val 4
              ∧ targetTraits[i]?.any fun id => ScoreEntryV2.traitSatisfied genome id.val)
        ∧ score.val = 70 * setBits mask / max targetTraitCount.val 1
            + setBits mask * min (2 * (generation.val - 1)) 30 / max targetTraitCount.val 1
        ∧ (2 ≤ targetTraitCount.val → targetTraitCount.val ≤ 4
            → score.val ≤ 100
              ∧ (score.val = 0 ↔ setBits mask = 0)
              ∧ (score.val = 100
                  ↔ setBits mask = targetTraitCount.val ∧ 16 ≤ generation.val)
              ∧ ∀ (other : Genome) (traits : Vector (Unsigned 8) 4) (later : Unsigned 16)
                  (hint better : Unsigned 8),
                  privateHint other traits targetTraitCount = some hint
                  → scoreEntryV2 other traits targetTraitCount later = some better
                  → setBits mask ≤ setBits hint → generation ≤ later
                  → score ≤ better) := by
  obtain ⟨mask, hinted, maskIs⟩ := privateHint_eq genome
    targetTraits targetTraitCount
  obtain ⟨score, scored, scoreIs⟩ := scoreEntryV2_eq genome
    targetTraits targetTraitCount
    generation
  rw [marked_eq] at maskIs
  have counted : setBits mask
      = markedCount (ScoreEntryV2.marked genome targetTraits targetTraitCount) := by
    rw [maskIs, setBits_markedMask]
  rw [← counted] at scoreIs
  refine ⟨mask, score, hinted, scored, ?_, scoreIs, ?_⟩
  · intro i
    rw [maskIs, testBit_hint]
  · intro many few
    have asked : max targetTraitCount.val 1 = targetTraitCount.val := by omega
    have within : setBits mask ≤ targetTraitCount.val := by
      rw [counted]
      exact markedCount_le_count
    rw [asked] at scoreIs
    refine ⟨?_, ?_, ?_, ?_⟩
    · rw [scoreIs]
      exact closedScore_le within generation
    · rw [scoreIs]
      exact closedScore_eq_zero (by omega) (by omega) generation
    · rw [scoreIs]
      exact closedScore_eq_hundred (by omega) within generation
    · intro other traits later hint better otherHinted otherScored matching generations
      obtain ⟨_, sameHint, hintIs⟩ := privateHint_eq other traits
        targetTraitCount
      obtain ⟨_, sameScore, betterIs⟩ := scoreEntryV2_eq other
        traits targetTraitCount later
      cases otherHinted.symm.trans sameHint
      cases otherScored.symm.trans sameScore
      rw [marked_eq] at hintIs
      rw [← setBits_markedMask, ← hintIs, asked] at betterIs
      rw [Fin.le_def, scoreIs, betterIs]
      exact closedScore_mono matching generations

/-- A genome of zeros against two targets scores no more than a full match. -/
theorem paleGenome_scores
    : ∀ score,
        scoreEntryV2 ⟨0, 0, 0, 0, 0, 0, 0, 0, 0, 0⟩ #v[1, 2, 0, 0] 2 1 = some score
        → score.val ≤ 100 := by
  intro score scored
  obtain ⟨_, _, _, same, _, _, bounded⟩ :=
    hints_agree_with_scores ⟨0, 0, 0, 0, 0, 0, 0, 0, 0, 0⟩ #v[1, 2, 0, 0] 2 1
  cases scored.symm.trans same
  exact (bounded (by decide) (by decide)).1

end SecretGarden.Circuit
