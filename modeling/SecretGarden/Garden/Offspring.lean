import SecretGarden.Circuit.Rarity
import SecretGarden.Garden.Inversion

/-! From the breeding circuit to the stored offspring: what the circuit packs into the revealed
mask is what the callback unpacks.
-/

namespace SecretGarden.Garden

open Foundation SecretGarden.Bracket SecretGarden.Settlement SecretGarden.Season
open SecretGarden.Circuit

/-- An answered experiment's offspring shows what the answer's mask holds. -/
theorem breedV5Callback_stored {env : Env} {experimentKey : ExperimentKey} {output : BreedOutput}
    {state after : ProgramState} {experiment : Experiment}
    (success : breedV5Callback env experimentKey (some output) state = .ok after)
    (found : state.experiments.lookup experimentKey = some experiment)
    (pending : experiment.callbackProcessed = false)
    : ∃ offspring, after.flowers.lookup experiment.resultFlower = some offspring
        ∧ offspring.rarity = (output.mask >>> rarityShift) &&& 7
        ∧ offspring.revealedTraitMask = output.mask &&& rarityStripMask := by
  obtain ⟨accounts, loaded, delivered⟩ := breedV5Callback_success success
  cases found.symm.trans loaded.experiment
  cases delivered with
  | ignored processed =>
      rw [pending] at processed
      cases processed
  | completed =>
      exact ⟨_, AList.lookup_insert _, rfl, rfl⟩

/-- Breeding computes everything inside its types for parents of any stored rarity. The tier is one
of five and grows with everything that lifts it, and the callback stores exactly the tier and the
four classes that the circuit packed.
-/
theorem breeding_packs_faithfully (parentA parentB : Parent)
    (parentARarity parentBRarity offspringGeneration : Unsigned 8) (dials : Environment)
    (draws : BreedDraws) (rarityA : parentARarity.val ≤ 7) (rarityB : parentBRarity.val ≤ 7)
    : ∃ child mask looks,
        breedV5 parentA parentB parentARarity parentBRarity offspringGeneration dials draws
          = some (child, mask)
        ∧ breedLooks parentA parentB parentARarity parentBRarity offspringGeneration dials draws
          = some looks
        ∧ looks.Valid
        ∧ (∀ (rarerA rarerB later roll : Unsigned 8) (higher : Environment) (better : Looks),
            rarerA.val ≤ 7 → rarerB.val ≤ 7
            → parentARarity ≤ rarerA → parentBRarity ≤ rarerB → offspringGeneration ≤ later
            → dials.light ≤ higher.light → dials.water ≤ higher.water → dials.soil ≤ higher.soil
            → draws.rarityRoll ≤ roll
            → breedLooks parentA parentB rarerA rarerB later higher
                { draws with rarityRoll := roll } = some better
            → looks.tier ≤ better.tier)
        ∧ ∀ (env : Env) (experimentKey : ExperimentKey) (ciphertexts nonce : Nat)
            (state after : ProgramState) (experiment : Experiment),
            breedV5Callback env experimentKey (some ⟨ciphertexts, nonce, mask⟩) state = .ok after
            → state.experiments.lookup experimentKey = some experiment
            → experiment.callbackProcessed = false
            → ∃ offspring, after.flowers.lookup experiment.resultFlower = some offspring
                ∧ offspring.rarity = looks.tier
                ∧ maskBytes offspring.revealedTraitMask
                  = [looks.petalClass.val, looks.colorClass.val, looks.leafClass.val,
                    looks.stemClass.val] := by
  obtain ⟨child, bred⟩ := breedGenome_fits parentA.effective parentB.effective dials draws
  obtain ⟨looks, shown, valid, tierIs⟩ :=
    breedLooks_valid dials offspringGeneration parentA parentB draws rarityA rarityB
  obtain ⟨mask, packed, maskIs⟩ := valid.packMask_eq
  refine ⟨child, mask, looks, ?_, shown, valid, ?_, ?_⟩
  · rw [breedV5, bind_of_some bred, bind_of_some shown, bind_of_some packed]
  · intro rarerA rarerB later roll higher better boundA boundB first second bred light water soil
      rolled computed
    obtain ⟨_, same, _, betterIs⟩ :=
      breedLooks_valid higher later parentA parentB { draws with rarityRoll := roll } boundA boundB
    cases computed.symm.trans same
    rw [Fin.le_def, tierIs, betterIs]
    exact tierOf_mono (lift_mono first second bred light water soil) rolled
  · intro env experimentKey ciphertexts nonce state after experiment success found pending
    obtain ⟨offspring, stored, rarity, shownMask⟩ :=
      breedV5Callback_stored success found pending
    refine ⟨offspring, stored, ?_, ?_⟩
    · rw [rarity, maskIs]
      exact valid.unpack_tier
    · rw [shownMask, maskIs, valid.strip_tier]
      exact valid.maskBytes_classes

/-- Two legendary parents at the tenth generation, without any dial and with the lowest draws. -/
theorem legendaryParents_valid
    : ∃ looks,
        breedLooks ⟨1, 255, ⟨0, 0, 0, 0, 0, 0, 0, 0, 0, 0⟩⟩ ⟨0, 3, ⟨0, 0, 0, 0, 0, 0, 0, 0, 0, 0⟩⟩
          5 5 10 ⟨0, 0, 0⟩
          ⟨⟨0, 0⟩, ⟨0, 0⟩, ⟨0, 0⟩, ⟨0, 0⟩, ⟨0, 0⟩, ⟨0, 0⟩, ⟨0, 0⟩, 0, 0, 0, 0, 0, 0, 0, 0⟩
          = some looks
        ∧ looks.Valid := by
  obtain ⟨_, _, looks, _, shown, valid, _, _⟩ :=
    breeding_packs_faithfully ⟨1, 255, ⟨0, 0, 0, 0, 0, 0, 0, 0, 0, 0⟩⟩
      ⟨0, 3, ⟨0, 0, 0, 0, 0, 0, 0, 0, 0, 0⟩⟩ 5 5 10 ⟨0, 0, 0⟩
      ⟨⟨0, 0⟩, ⟨0, 0⟩, ⟨0, 0⟩, ⟨0, 0⟩, ⟨0, 0⟩, ⟨0, 0⟩, ⟨0, 0⟩, 0, 0, 0, 0, 0, 0, 0, 0⟩
      (by decide) (by decide)
  exact ⟨looks, shown, valid⟩

end SecretGarden.Garden
