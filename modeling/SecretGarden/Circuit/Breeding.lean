import SecretGarden.Circuit.Scoring

/-! The breeding circuit: inheritance of the ten genes, the visible classes and the rarity tier of
an offspring. Every draw of the network's randomness is an input.
-/

namespace SecretGarden.Circuit

open Foundation

/-- The player's cultivation dials. -/
structure Environment where
  light : Unsigned 8
  water : Unsigned 8
  soil : Unsigned 8
deriving DecidableEq

/-- A parent: a starter by its species, another flower by its genome. -/
structure Parent where
  kind : Unsigned 8
  species : Unsigned 8
  genome : Genome
deriving DecidableEq

def kindStarter : Unsigned 8 := 0

/-- The genomes of the starter species. -/
def starter (species : Unsigned 8) : Genome :=
  match species.val with
  | 0 => ⟨200, 130, 90, 100, 60, 170, 20, 50, 210, 0⟩
  | 1 => ⟨60, 200, 70, 80, 90, 120, 40, 90, 150, 0⟩
  | 2 => ⟨150, 180, 110, 120, 220, 100, 30, 60, 180, 0⟩
  | 3 => ⟨220, 210, 160, 150, 140, 200, 10, 70, 240, 0⟩
  | 4 => ⟨120, 110, 140, 200, 80, 90, 60, 40, 200, 0⟩
  | 5 => ⟨90, 160, 100, 110, 200, 130, 50, 80, 170, 0⟩
  | _ => ⟨128, 128, 128, 128, 128, 128, 0, 64, 128, 0⟩

/-- The genome a parent passes on. -/
def Parent.effective (parent : Parent) : Genome :=
  if parent.kind = kindStarter then starter parent.species else parent.genome

/-- The two draws of one inherited gene. -/
structure PickDraws where
  pickRoll : Unsigned 8
  mutateRoll : Unsigned 8
deriving DecidableEq

/-- All draws of one breeding. -/
structure BreedDraws where
  color : PickDraws
  climate : PickDraws
  leaf : PickDraws
  stem : PickDraws
  stability : PickDraws
  petal : PickDraws
  aroma : PickDraws
  randRec : Unsigned 8
  randGate : Unsigned 8
  randMag : Unsigned 8
  petalClass : Unsigned 8
  colorClass : Unsigned 8
  leafClass : Unsigned 8
  stemClass : Unsigned 8
  rarityRoll : Unsigned 8

--------------------------------------------------------------------------------
-- Genes
--------------------------------------------------------------------------------

/-- The rolls below this inherit parent A's gene; the dial leans toward the stronger one. -/
def pickThreshold (aStronger : Bool) (bias : Unsigned 8) : Option (Unsigned 8) :=
  let add := bias.val / 4
  if aStronger then narrow 8 (160 + add) else minus 96 add

/-- One gene: a parent's, or the average of both. -/
def pick (ga gb bias : Unsigned 8) (draws : PickDraws) : Option (Unsigned 8) := do
  let threshold ← pickThreshold (decide (gb ≤ ga)) bias
  let inherited := if draws.pickRoll < threshold then ga else gb
  let sum ← narrow 16 (ga.val + gb.val)
  let mutated ← narrow 8 (sum.val / 2)
  some (if draws.mutateRoll < 32 then mutated else inherited)

def recessiveMask (a b randRec : Unsigned 8) : Option (Unsigned 8) := do
  let parents ← narrow 16 (a.val + b.val)
  let doubled ← narrow 16 (2 * randRec.val)
  let sum ← narrow 16 (parents.val + doubled.val)
  narrow 8 (sum.val / 4)

/-- The gate decides the lowest bit, the magnitude the others. -/
def mutationAffinity (soil randGate randMag : Unsigned 8) : Option (Unsigned 8) := do
  let add := soil.val / 8
  let mutantThreshold ← narrow 8 (4 + add)
  let mutantBit := if randGate < mutantThreshold then 1 else 0
  let sum ← narrow 16 (randMag.val + soil.val)
  let mutationMagnitude ← narrow 8 (sum.val / 2)
  let even ← narrow 8 (mutationMagnitude.val / 2 * 2)
  narrow 8 (even.val + mutantBit)

/-- The offspring's genome; genes without a dial use a neutral bias. -/
def breedGenome (a b : Genome) (e : Environment) (draws : BreedDraws) : Option Genome := do
  let colorGene ← pick a.colorGene b.colorGene e.light draws.color
  let climateGene ← pick a.climateGene b.climateGene e.light draws.climate
  let leafGene ← pick a.leafGene b.leafGene e.water draws.leaf
  let stemGene ← pick a.stemGene b.stemGene e.water draws.stem
  let stability ← pick a.stability b.stability e.soil draws.stability
  let petalGene ← pick a.petalGene b.petalGene 128 draws.petal
  let aromaGene ← pick a.aromaGene b.aromaGene 128 draws.aroma
  let recessiveMask ← recessiveMask a.recessiveMask b.recessiveMask draws.randRec
  let mutationAffinity ← mutationAffinity e.soil draws.randGate draws.randMag
  some
    { colorGene, petalGene, leafGene, stemGene, aromaGene, climateGene, recessiveMask,
      mutationAffinity, stability, reserved := 0 }

--------------------------------------------------------------------------------
-- Visible classes and rarity
--------------------------------------------------------------------------------

def speciesNudge (a b : Unsigned 8) : Option (Unsigned 8) := do
  let sum ← narrow 16 (a.val + b.val)
  narrow 8 (sum.val % 5)

/-- A visual class from one draw, with a salt of its own. -/
def visualClass (nudge : Unsigned 8) (salt : Nat) (r : Unsigned 8) : Option (Unsigned 8) := do
  let salted ← narrow 8 (nudge.val + salt)
  let sum ← narrow 8 (r.val % 5 + salted.val % 5)
  narrow 8 (sum.val % 5)

/-- What the parents' rarities and the generation add to every boundary's lift. -/
def publicLift (parentARarity parentBRarity offspringGeneration : Unsigned 8)
    : Option (Unsigned 8) := do
  let genC := if offspringGeneration.val > 10 then 10 else offspringGeneration.val
  let rarities ← narrow 8 (parentARarity.val + parentBRarity.val)
  let weighted ← narrow 8 (rarities.val * 4)
  let lineage ← narrow 8 (genC * 1)
  narrow 8 (weighted.val + lineage.val)

/-- What the dials add, in four steps only. -/
def envLift (e : Environment) : Option (Unsigned 8) := do
  let two ← narrow 16 (e.light.val + e.water.val)
  let three ← narrow 16 (two.val + e.soil.val)
  let average ← narrow 8 (three.val / 3)
  narrow 8 (average.val / 64)

/-- One when the roll reaches the boundary, without a comparison. -/
def carry (r16 boundary : Unsigned 16) : Option (Unsigned 8) := do
  let raised ← narrow 16 (r16.val + 256)
  let difference ← minus raised boundary
  narrow 8 (difference.val / 256)

/-- The rarity tier: one more for each boundary that the roll reaches. -/
def rarityTier (parentARarity parentBRarity offspringGeneration : Unsigned 8) (e : Environment)
    (rarityRoll : Unsigned 8) : Option (Unsigned 8) := do
  let publicLift ← publicLift parentARarity parentBRarity offspringGeneration
  let envLift ← envLift e
  let lift8 ← narrow 8 (publicLift.val + envLift.val)
  let lift ← narrow 16 lift8.val
  let bUncommon ← minus (115 : Unsigned 16) lift
  let bRare ← minus (192 : Unsigned 16) lift
  let bEpic ← minus (230 : Unsigned 16) (lift.val / 4)
  let bLegendary ← minus (251 : Unsigned 16) (lift.val / 8)
  let r16 ← narrow 16 rarityRoll.val
  let uncommon ← carry r16 bUncommon
  let rare ← carry r16 bRare
  let epic ← carry r16 bEpic
  let legendary ← carry r16 bLegendary
  let tier ← narrow 8 (1 + uncommon.val)
  let tier ← narrow 8 (tier.val + rare.val)
  let tier ← narrow 8 (tier.val + epic.val)
  narrow 8 (tier.val + legendary.val)

/-- What an offspring shows: four visual classes and its rarity tier. -/
structure Looks where
  petalClass : Unsigned 8
  colorClass : Unsigned 8
  leafClass : Unsigned 8
  stemClass : Unsigned 8
  tier : Unsigned 8
deriving DecidableEq

/-- The revealed part of a breeding, drawn from public values and fresh randomness. -/
def breedLooks (parentA parentB : Parent)
    (parentARarity parentBRarity offspringGeneration : Unsigned 8) (env : Environment)
    (draws : BreedDraws) : Option Looks := do
  let nudge ← speciesNudge parentA.species parentB.species
  let petalClass ← visualClass nudge 0 draws.petalClass
  let colorClass ← visualClass nudge 1 draws.colorClass
  let leafClass ← visualClass nudge 2 draws.leafClass
  let stemClass ← visualClass nudge 3 draws.stemClass
  let tier ← rarityTier parentARarity parentBRarity offspringGeneration env draws.rarityRoll
  some { petalClass, colorClass, leafClass, stemClass, tier }

/-- The four classes in a byte each, with the tier above the third one's. -/
def packMask (looks : Looks) : Option (Unsigned 32) := do
  let color ← narrow 32 (looks.colorClass.val * 256)
  let leaf ← narrow 32 (looks.leafClass.val * 65536)
  let stem ← narrow 32 (looks.stemClass.val * 16777216)
  let rarity ← narrow 32 (looks.tier.val * 524288)
  let sum ← narrow 32 (looks.petalClass.val + color.val)
  let sum ← narrow 32 (sum.val + leaf.val)
  let sum ← narrow 32 (sum.val + stem.val)
  narrow 32 (sum.val + rarity.val)

/-- Breed two parents: the offspring's genome and the revealed mask. -/
def breedV5 (parentA parentB : Parent)
    (parentARarity parentBRarity offspringGeneration : Unsigned 8) (env : Environment)
    (draws : BreedDraws) : Option (Genome × Unsigned 32) := do
  let child ← breedGenome parentA.effective parentB.effective env draws
  let looks ← breedLooks parentA parentB parentARarity parentBRarity offspringGeneration env draws
  let mask ← packMask looks
  some (child, mask)

end SecretGarden.Circuit
