import SecretGarden.Circuit.Inheritance
import SecretGarden.Constants
import SecretGarden.Foundation.Bits

/-! The arithmetic of a breeding: the rarity tier as a count of reached boundaries, the visible
classes, and the mask that packs them. Nothing leaves its type for any parents, dials and draws.
-/

namespace SecretGarden.Circuit

open Foundation

variable {parentARarity parentBRarity offspringGeneration rarityRoll : Unsigned 8}
  {e : Environment}

--------------------------------------------------------------------------------
-- The genome
--------------------------------------------------------------------------------

theorem recessiveMask_fits (a b randRec : Unsigned 8)
    : ∃ mask, recessiveMask a b randRec = some mask := by
  obtain ⟨parents, parentsFit, parentsAre⟩ :=
    exists_narrow 16 (a.val + b.val) (by omega)
  obtain ⟨doubled, doubledFits, doubledIs⟩ :=
    exists_narrow 16 (2 * randRec.val) (by omega)
  obtain ⟨sum, sumFits, sumIs⟩ :=
    exists_narrow 16 (parents.val + doubled.val) (by omega)
  obtain ⟨mask, maskFits, _⟩ := exists_narrow 8 (sum.val / 4) (by omega)
  refine ⟨mask, ?_⟩
  simp only [recessiveMask, bind, parentsFit, doubledFits, sumFits, Option.bind_some, maskFits]

/-- Every gene of an offspring is computed inside its type. -/
theorem breedGenome_fits (a b : Genome) (e : Environment) (draws : BreedDraws)
    : ∃ child, breedGenome a b e draws = some child := by
  obtain ⟨mask, recessive⟩ := recessiveMask_fits a.recessiveMask b.recessiveMask draws.randRec
  obtain ⟨affinity, mutated, _⟩ := mutationAffinity_eq e.soil draws.randGate draws.randMag
  simp only [breedGenome, bind, pick_eq, Option.bind_some, recessive, mutated]
  exact ⟨_, rfl⟩

--------------------------------------------------------------------------------
-- The tier
--------------------------------------------------------------------------------

/-- How far the lineage and the dials lower the boundaries. -/
def lift (parentARarity parentBRarity offspringGeneration : Nat) (e : Environment) : Nat :=
  (parentARarity + parentBRarity) * 4 + min offspringGeneration 10
    + (e.light.val + e.water.val + e.soil.val) / 3 / 64

/-- One for each boundary that the roll reaches, and one to start with. -/
def tierOf (lift roll : Nat) : Nat :=
  1 + (if 115 - lift ≤ roll then 1 else 0) + (if 192 - lift ≤ roll then 1 else 0)
    + (if 230 - lift / 4 ≤ roll then 1 else 0) + (if 251 - lift / 8 ≤ roll then 1 else 0)

theorem tierOf_bounds (lift roll : Nat) : 1 ≤ tierOf lift roll ∧ tierOf lift roll ≤ 5 := by
  unfold tierOf
  split <;> split <;> split <;> split <;> omega

/-- A boundary that a lower roll reaches under less lift is reached by a higher one under more. -/
theorem reached_mono {base less more low high : Nat} (lifted : less ≤ more) (rolled : low ≤ high)
    : (if base - less ≤ low then 1 else 0) ≤ if base - more ≤ high then 1 else 0 := by
  split
  · rw [if_pos (by omega)]
  · exact Nat.zero_le _

theorem tierOf_mono {less more low high : Nat} (lifted : less ≤ more) (rolled : low ≤ high)
    : tierOf less low ≤ tierOf more high :=
  Nat.add_le_add (Nat.add_le_add (Nat.add_le_add (Nat.add_le_add_left
    (reached_mono lifted rolled) 1) (reached_mono lifted rolled))
    (reached_mono (Nat.div_le_div_right lifted) rolled))
    (reached_mono (Nat.div_le_div_right lifted) rolled)

/-- Higher rarities, a later generation and higher dials lift at least as far. -/
theorem lift_mono {a b generation rarerA rarerB later : Nat} {e dials : Environment}
    (first : a ≤ rarerA) (second : b ≤ rarerB) (bred : generation ≤ later)
    (light : e.light ≤ dials.light) (water : e.water ≤ dials.water) (soil : e.soil ≤ dials.soil)
    : lift a b generation e ≤ lift rarerA rarerB later dials := by
  have average : (e.light.val + e.water.val + e.soil.val) / 3 / 64
      ≤ (dials.light.val + dials.water.val + dials.soil.val) / 3 / 64 :=
    Nat.div_le_div_right (Nat.div_le_div_right
      (Nat.add_le_add (Nat.add_le_add light water) soil))
  unfold lift
  omega

theorem publicLift_eq (offspringGeneration : Unsigned 8)
    (rarities : parentARarity.val + parentBRarity.val ≤ 14)
    : ∃ lifted, publicLift parentARarity parentBRarity offspringGeneration = some lifted
        ∧ lifted.val = (parentARarity.val + parentBRarity.val) * 4
          + min offspringGeneration.val 10 := by
  have capped : (if offspringGeneration.val > 10 then 10 else offspringGeneration.val)
      = min offspringGeneration.val 10 := by
    split <;> omega
  obtain ⟨both, bothFit, bothAre⟩ :=
    exists_narrow 8 (parentARarity.val + parentBRarity.val) (by omega)
  obtain ⟨weighted, weightedFits, weightedIs⟩ :=
    exists_narrow 8 (both.val * 4) (by omega)
  obtain ⟨lineage, lineageFits, lineageIs⟩ :=
    exists_narrow 8 (min offspringGeneration.val 10 * 1) (by omega)
  obtain ⟨lifted, liftedFits, liftedIs⟩ :=
    exists_narrow 8 (weighted.val + lineage.val) (by omega)
  refine ⟨lifted, ?_, by omega⟩
  simp only [publicLift, bind, capped, bothFit, weightedFits, lineageFits, Option.bind_some,
    liftedFits]

theorem envLift_eq (e : Environment)
    : ∃ lifted, envLift e = some lifted
        ∧ lifted.val = (e.light.val + e.water.val + e.soil.val) / 3 / 64 := by
  obtain ⟨two, twoFit, twoAre⟩ :=
    exists_narrow 16 (e.light.val + e.water.val) (by omega)
  obtain ⟨three, threeFit, threeAre⟩ :=
    exists_narrow 16 (two.val + e.soil.val) (by omega)
  obtain ⟨average, averageFits, averageIs⟩ :=
    exists_narrow 8 (three.val / 3) (by omega)
  obtain ⟨lifted, liftedFits, liftedIs⟩ :=
    exists_narrow 8 (average.val / 64) (by omega)
  refine ⟨lifted, ?_, by rw [liftedIs, averageIs, threeAre, twoAre]⟩
  simp only [envLift, bind, twoFit, threeFit, averageFits, Option.bind_some, liftedFits]

/-- The carry is the comparison of the roll with its boundary. -/
theorem carry_eq {r16 : Unsigned 16} (boundary : Unsigned 16) (roll : r16.val < 256)
    (positive : 1 ≤ boundary.val) (small : boundary.val ≤ 256)
    : ∃ bit, carry r16 boundary = some bit
        ∧ bit.val = if boundary.val ≤ r16.val then 1 else 0 := by
  obtain ⟨raised, raisedFits, raisedIs⟩ :=
    exists_narrow 16 (r16.val + 256) (by omega)
  obtain ⟨difference, differenceFits, differenceIs⟩ :=
    exists_minus raised boundary.val (by omega)
  obtain ⟨bit, bitFits, bitIs⟩ :=
    exists_narrow 8 (difference.val / 256) (by omega)
  refine ⟨bit, ?_, ?_⟩
  · simp only [carry, bind, raisedFits, differenceFits, Option.bind_some, bitFits]
  · split <;> omega

/-- A boundary lowered by a lift that leaves it positive, and the comparison with it. -/
theorem lowered_eq {r16 : Unsigned 16} (base : Unsigned 16) (less : Nat) (roll : r16.val < 256)
    (room : less < base.val) (small : base.val ≤ 256)
    : ∃ boundary bit, minus base less = some boundary ∧ carry r16 boundary = some bit
        ∧ (bit.val = if base.val - less ≤ r16.val then 1 else 0) ∧ bit.val ≤ 1 := by
  obtain ⟨boundary, boundaryFits, boundaryIs⟩ :=
    exists_minus base less room.le
  obtain ⟨bit, computed, bitIs⟩ :=
    carry_eq boundary roll (by omega) (by omega)
  refine ⟨boundary, bit, boundaryFits, computed, by rw [bitIs, boundaryIs], ?_⟩
  rw [bitIs]
  split <;> omega

/-- The circuit computes the tier without leaving its types. -/
theorem rarityTier_eq (offspringGeneration rarityRoll : Unsigned 8)
    (rarityA : parentARarity.val ≤ 7) (rarityB : parentBRarity.val ≤ 7)
    : ∃ tier,
        rarityTier parentARarity parentBRarity offspringGeneration e rarityRoll = some tier
        ∧ tier.val = tierOf (lift parentARarity parentBRarity offspringGeneration e)
            rarityRoll := by
  obtain ⟨lineage, lineageFits, lineageIs⟩ :=
    publicLift_eq offspringGeneration
      (show parentARarity.val + parentBRarity.val ≤ 14 by omega)
  obtain ⟨dials, dialsFit, dialsAre⟩ := envLift_eq e
  obtain ⟨lift8, lift8Fits, lift8Is⟩ :=
    exists_narrow 8 (lineage.val + dials.val) (by omega)
  obtain ⟨lifted, liftedFits, liftedIs⟩ :=
    exists_narrow 16 lift8.val (by omega)
  have whole : lifted.val = lift parentARarity parentBRarity offspringGeneration e := by
    rw [liftedIs, lift8Is, lineageIs, dialsAre, lift]
  have bound : lifted.val ≤ 69 := by omega
  obtain ⟨r16, rollFits, rollIs⟩ :=
    exists_narrow 16 rarityRoll.val (by omega)
  have roll : r16.val < 256 := by omega
  obtain ⟨bUncommon, uncommon, lowered1, carried1, reached1, small1⟩ :=
    lowered_eq 115 lifted.val roll (by show _ < 115; omega) (by decide)
  obtain ⟨bRare, rare, lowered2, carried2, reached2, small2⟩ :=
    lowered_eq 192 lifted.val roll (by show _ < 192; omega) (by decide)
  obtain ⟨bEpic, epic, lowered3, carried3, reached3, small3⟩ :=
    lowered_eq 230 (lifted.val / 4) roll (by show _ < 230; omega) (by decide)
  obtain ⟨bLegendary, legendary, lowered4, carried4, reached4, small4⟩ :=
    lowered_eq 251 (lifted.val / 8) roll (by show _ < 251; omega) (by decide)
  obtain ⟨one, oneFits, oneIs⟩ :=
    exists_narrow 8 (1 + uncommon.val) (by omega)
  obtain ⟨two, twoFits, twoIs⟩ :=
    exists_narrow 8 (one.val + rare.val) (by omega)
  obtain ⟨three, threeFits, threeIs⟩ :=
    exists_narrow 8 (two.val + epic.val) (by omega)
  obtain ⟨tier, tierFits, tierIs⟩ :=
    exists_narrow 8 (three.val + legendary.val) (by omega)
  refine ⟨tier, ?_, ?_⟩
  · rw [rarityTier, bind_of_some lineageFits, bind_of_some dialsFit, bind_of_some lift8Fits,
      bind_of_some liftedFits, bind_of_some lowered1, bind_of_some lowered2,
      bind_of_some lowered3, bind_of_some lowered4, bind_of_some rollFits,
      bind_of_some carried1, bind_of_some carried2, bind_of_some carried3,
      bind_of_some carried4, bind_of_some oneFits, bind_of_some twoFits,
      bind_of_some threeFits, tierFits]
  · rw [tierIs, threeIs, twoIs, oneIs, reached1, reached2, reached3, reached4, whole, rollIs,
      tierOf]
    rfl

--------------------------------------------------------------------------------
-- Classes and the mask
--------------------------------------------------------------------------------

theorem speciesNudge_fits (a b : Unsigned 8)
    : ∃ nudge, speciesNudge a b = some nudge ∧ nudge.val ≤ 4 := by
  obtain ⟨sum, sumFits, _⟩ := exists_narrow 16 (a.val + b.val) (by omega)
  obtain ⟨nudge, nudgeFits, nudgeIs⟩ :=
    exists_narrow 8 (sum.val % 5) (by omega)
  refine ⟨nudge, ?_, by omega⟩
  rw [speciesNudge, bind_of_some sumFits, nudgeFits]

/-- There are five classes. -/
theorem visualClass_fits {nudge : Unsigned 8} (small : nudge.val ≤ 4) {salt : Nat}
    (salted : salt ≤ 3) (r : Unsigned 8)
    : ∃ looks, visualClass nudge salt r = some looks ∧ looks.val ≤ 4 := by
  obtain ⟨shifted, shiftedFits, _⟩ :=
    exists_narrow 8 (nudge.val + salt) (by omega)
  obtain ⟨sum, sumFits, _⟩ :=
    exists_narrow 8 (r.val % 5 + shifted.val % 5) (by omega)
  obtain ⟨looks, looksFit, looksAre⟩ :=
    exists_narrow 8 (sum.val % 5) (by omega)
  refine ⟨looks, ?_, by omega⟩
  rw [visualClass, bind_of_some shiftedFits, bind_of_some sumFits, looksFit]

/-- Looks as a breeding can produce them. -/
structure Looks.Valid (looks : Looks) : Prop where
  petal : looks.petalClass.val ≤ 4
  color : looks.colorClass.val ≤ 4
  leaf : looks.leafClass.val ≤ 4
  stem : looks.stemClass.val ≤ 4
  ranked : 1 ≤ looks.tier.val
  bounded : looks.tier.val ≤ 5

/-- The revealed part of every breeding is valid, and its tier is the one the circuit ranks. -/
theorem breedLooks_valid (e : Environment) (offspringGeneration : Unsigned 8)
    (parentA parentB : Parent) (draws : BreedDraws)
    (rarityA : parentARarity.val ≤ 7) (rarityB : parentBRarity.val ≤ 7)
    : ∃ looks,
        breedLooks parentA parentB parentARarity parentBRarity offspringGeneration e draws
          = some looks
        ∧ looks.Valid
        ∧ looks.tier.val = tierOf (lift parentARarity parentBRarity offspringGeneration e)
            draws.rarityRoll := by
  obtain ⟨nudge, nudged, small⟩ := speciesNudge_fits parentA.species parentB.species
  obtain ⟨petal, petalFits, petals⟩ :=
    visualClass_fits small (show 0 ≤ 3 by decide) draws.petalClass
  obtain ⟨color, colorFits, colors⟩ :=
    visualClass_fits small (show 1 ≤ 3 by decide) draws.colorClass
  obtain ⟨leaf, leafFits, leaves⟩ :=
    visualClass_fits small (show 2 ≤ 3 by decide) draws.leafClass
  obtain ⟨stem, stemFits, stems⟩ :=
    visualClass_fits small (show 3 ≤ 3 by decide) draws.stemClass
  obtain ⟨tier, ranked, tierIs⟩ := rarityTier_eq offspringGeneration
    (e := e) draws.rarityRoll rarityA rarityB
  obtain ⟨least, most⟩ := tierOf_bounds (lift parentARarity parentBRarity offspringGeneration e)
    draws.rarityRoll
  rw [← tierIs] at least most
  refine ⟨⟨petal, color, leaf, stem, tier⟩, ?_, ⟨petals, colors, leaves, stems, least, most⟩,
    tierIs⟩
  rw [breedLooks, bind_of_some nudged, bind_of_some petalFits, bind_of_some colorFits,
    bind_of_some leafFits, bind_of_some stemFits, bind_of_some ranked]

/-- The classes of a mask, a byte each. -/
def Looks.classes (looks : Looks) : Nat :=
  looks.petalClass.val + looks.colorClass.val * 256 + looks.leafClass.val * 65536
    + looks.stemClass.val * 16777216

/-- Valid looks are packed inside 32 bits. -/
theorem Looks.Valid.packMask_eq {looks : Looks} (valid : looks.Valid)
    : ∃ mask, packMask looks = some mask
        ∧ mask.val = looks.classes + looks.tier.val * 524288 := by
  obtain ⟨petals, colors, leaves, stems, _, tiers⟩ := valid
  obtain ⟨color, colorFits, colorIs⟩ :=
    exists_narrow 32 (looks.colorClass.val * 256) (by omega)
  obtain ⟨leaf, leafFits, leafIs⟩ :=
    exists_narrow 32 (looks.leafClass.val * 65536) (by omega)
  obtain ⟨stem, stemFits, stemIs⟩ :=
    exists_narrow 32 (looks.stemClass.val * 16777216) (by omega)
  obtain ⟨rarity, rarityFits, rarityIs⟩ :=
    exists_narrow 32 (looks.tier.val * 524288) (by omega)
  obtain ⟨two, twoFit, twoAre⟩ :=
    exists_narrow 32 (looks.petalClass.val + color.val) (by omega)
  obtain ⟨three, threeFit, threeAre⟩ :=
    exists_narrow 32 (two.val + leaf.val) (by omega)
  obtain ⟨four, fourFit, fourAre⟩ :=
    exists_narrow 32 (three.val + stem.val) (by omega)
  obtain ⟨mask, maskFits, maskIs⟩ :=
    exists_narrow 32 (four.val + rarity.val) (by omega)
  refine ⟨mask, ?_, ?_⟩
  · rw [packMask, bind_of_some colorFits, bind_of_some leafFits, bind_of_some stemFits,
      bind_of_some rarityFits, bind_of_some twoFit, bind_of_some threeFit, bind_of_some fourFit,
      maskFits]
  · rw [classes]
    omega

/-- Shifting the tier down leaves exactly the tier. -/
theorem Looks.Valid.unpack_tier {looks : Looks} (valid : looks.Valid)
    : ((looks.classes + looks.tier.val * 524288) >>> rarityShift) &&& 7 = looks.tier := by
  obtain ⟨petals, colors, leaves, _, _, tiers⟩ := valid
  let low := looks.petalClass.val + looks.colorClass.val * 256 + looks.leafClass.val * 65536
  have packed : looks.classes + looks.tier.val * 524288
      = 2 ^ 19 * (looks.stemClass.val * 32 + looks.tier.val) + low := by
    simp only [classes, low]
    omega
  rw [packed]
  refine (field_of_split (by simp only [low]; omega) 3).trans ?_
  omega

/-- Clearing the tier leaves exactly the four classes. -/
theorem Looks.Valid.strip_tier {looks : Looks} (valid : looks.Valid)
    : (looks.classes + looks.tier.val * 524288) &&& rarityStripMask = looks.classes := by
  obtain ⟨petals, colors, leaves, stems, _, tiers⟩ := valid
  let low := looks.petalClass.val + looks.colorClass.val * 256 + looks.leafClass.val * 65536
  have small : low < 2 ^ 19 := by
    simp only [low]
    omega
  have packed : looks.classes + looks.tier.val * 524288
      = 2 ^ 19 * (2 ^ 3 * (looks.stemClass.val * 4) + looks.tier.val) + low := by
    simp only [classes, low]
    omega
  have strip : rarityStripMask = 2 ^ 19 * (2 ^ 3 * (2 ^ 10 - 1) + 0) + (2 ^ 19 - 1) := by decide
  rw [packed, strip, and_of_split small (by decide), and_of_split (by omega) (by decide),
    Nat.and_two_pow_sub_one_of_lt_two_pow (by omega),
    Nat.and_two_pow_sub_one_of_lt_two_pow small, Nat.and_zero]
  simp only [classes, low]
  omega

/-- The four bytes of a mask, as a client reads them. -/
def maskBytes (mask : Nat) : List Nat := (List.range 4).map fun k => mask >>> (8 * k) &&& 255

theorem Looks.Valid.maskBytes_classes {looks : Looks} (valid : looks.Valid)
    : maskBytes looks.classes
      = [looks.petalClass.val, looks.colorClass.val, looks.leafClass.val, looks.stemClass.val] := by
  obtain ⟨petals, colors, leaves, stems, _, _⟩ := valid
  have byte (mask k : Nat) : mask >>> (8 * k) &&& 255 = mask / 2 ^ (8 * k) % 256 := by
    rw [Nat.shiftRight_eq_div_pow]
    exact Nat.and_two_pow_sub_one_eq_mod _ 8
  simp only [maskBytes, byte, classes, List.range_succ, List.range_zero, List.nil_append,
    List.cons_append, List.map_cons, List.map_nil, List.cons.injEq, and_true]
  omega

end SecretGarden.Circuit
