import SecretGarden.Garden.Inversion

/-! Breeding keeps its parents: while an experiment is queued, both of its parents are locked
flowers that no other queued experiment uses, and its offspring waits for it. A flower that is
not locked has a completed source, and so has every flower that was ever minted.
-/

namespace SecretGarden.Garden

open Foundation SecretGarden.Bracket SecretGarden.Settlement SecretGarden.Season

variable {flowers : Store FlowerKey FlowerRecord} {mints : Store FlowerKey Nat}
  {experiments : Store ExperimentKey Experiment}

/-- The experiment that a flower came from, if any, has completed. -/
def Grown (experiments : Store ExperimentKey Experiment) (flower : FlowerRecord) : Prop :=
  ∀ experimentKey,
    flower.sourceExperiment = some experimentKey
    → ∃ experiment, experiments.lookup experimentKey = some experiment
        ∧ experiment.status = .completed

/-- An experiment whose computation is awaited. -/
def Queued (experiments : Store ExperimentKey Experiment) (experimentKey : ExperimentKey)
    (experiment : Experiment) : Prop :=
  experiments.lookup experimentKey = some experiment ∧ experiment.status = .queued

/-- A flower as an experiment that is queued holds it. -/
def Held (flowers : Store FlowerKey FlowerRecord)
    (experiments : Store ExperimentKey Experiment) (flowerKey : FlowerKey) : Prop :=
  ∃ flower, flowers.lookup flowerKey = some flower
    ∧ flower.status = .locked
    ∧ Grown experiments flower

def Experiment.parents (experiment : Experiment) : List FlowerKey :=
  [experiment.parentA, experiment.parentB]

/-- No queued experiment has the flower as a parent. -/
def Idle (experiments : Store ExperimentKey Experiment) (flowerKey : FlowerKey) : Prop :=
  ∀ experimentKey experiment,
    Queued experiments experimentKey experiment → flowerKey ∉ Experiment.parents experiment

/-- How flowers, experiments and mints belong together in every reachable state. -/
structure Nursery (flowers : Store FlowerKey FlowerRecord)
    (experiments : Store ExperimentKey Experiment) (mints : Store FlowerKey Nat) : Prop where
  processed : ∀ {experimentKey experiment},
    experiments.lookup experimentKey = some experiment
    → experiment.status ≠ .processing
      ∧ (experiment.callbackProcessed = false ↔ experiment.status = .queued)
  held : ∀ {experimentKey experiment},
    Queued experiments experimentKey experiment
    → ∀ parent ∈ Experiment.parents experiment, Held flowers experiments parent
  apart : ∀ {first second experiment other},
    Queued experiments first experiment
    → Queued experiments second other
    → first ≠ second
    → ∀ parent ∈ Experiment.parents experiment, parent ∉ Experiment.parents other
  offspring : ∀ {experimentKey experiment},
    Queued experiments experimentKey experiment
    → ∃ flower, flowers.lookup experiment.resultFlower = some flower
        ∧ flower.sourceExperiment = some experimentKey
  grown : ∀ {flowerKey flower},
    flowers.lookup flowerKey = some flower
    → flower.status = .locked ∨ Grown experiments flower
  bred : ∀ {flowerKey flower},
    flowers.lookup flowerKey = some flower
    → flower.sourceExperiment.isSome
    → flower.genomeStatus = .encrypted
  minted : ∀ {flowerKey},
    (mints.lookup flowerKey).isSome
    → ∃ flower, flowers.lookup flowerKey = some flower
        ∧ flower.genomeStatus = .encrypted
        ∧ Grown experiments flower

theorem Grown.of_same {record flower : FlowerRecord} (same : SameFlower record flower)
    (grown : Grown experiments record)
    : Grown experiments flower :=
  fun experimentKey source => grown experimentKey (same.sourceExperiment ▸ source)

/-- Rewriting an experiment that has not completed leaves every grown flower grown. -/
theorem Grown.insert {flower : FlowerRecord} {written : ExperimentKey} {experiment : Experiment}
    (incomplete
      : ∀ old, experiments.lookup written = some old → old.status ≠ .completed)
    (grown : Grown experiments flower)
    : Grown (experiments.insert written experiment) flower := by
  intro experimentKey source
  obtain ⟨found, lookup, completed⟩ := grown experimentKey source
  refine ⟨found, ?_, completed⟩
  rw [Store.lookup_insert_apply, if_neg]
  · exact lookup
  · rintro rfl
    exact incomplete found lookup completed

/-- A flower is not grown while its source is anything but completed. -/
theorem not_grown {flower : FlowerRecord} {experimentKey : ExperimentKey}
    {experiment : Experiment} (source : flower.sourceExperiment = some experimentKey)
    (found : experiments.lookup experimentKey = some experiment)
    (incomplete : experiment.status ≠ .completed)
    : ¬ Grown experiments flower := by
  intro grown
  obtain ⟨other, same, completed⟩ := grown experimentKey source
  rw [found] at same
  cases same
  exact incomplete completed

/-- An experiment other than the written one was queued before. -/
theorem Queued.of_insert {written experimentKey : ExperimentKey}
    {experiment queued : Experiment}
    (after : Queued (experiments.insert written experiment) experimentKey queued)
    : experimentKey = written ∧ queued = experiment ∨ experimentKey ≠ written
      ∧ Queued experiments experimentKey queued := by
  obtain ⟨found, status⟩ := after
  rcases Store.lookup_insert_eq_some.mp found with ⟨same, rfl⟩ | ⟨other, found⟩
  · exact .inl ⟨same, rfl⟩
  · exact .inr ⟨other, found, status⟩

/-- A flower that is not locked is grown and idle. -/
theorem Nursery.idle (nursery : Nursery flowers experiments mints) {flowerKey : FlowerKey}
    {flower : FlowerRecord} (found : flowers.lookup flowerKey = some flower)
    (unlocked : flower.status ≠ .locked)
    : Grown experiments flower ∧ Idle experiments flowerKey := by
  refine ⟨(nursery.grown found).resolve_left unlocked, fun experimentKey experiment queued parent
    => ?_⟩
  obtain ⟨record, same, locked, _⟩ := nursery.held queued flowerKey parent
  rw [found] at same
  cases same
  exact unlocked locked

/-- The flower of an experiment that has not completed is no parent of a queued one. -/
theorem Nursery.idle_of_not_grown (nursery : Nursery flowers experiments mints)
    {flowerKey : FlowerKey} {flower : FlowerRecord}
    (found : flowers.lookup flowerKey = some flower) (young : ¬ Grown experiments flower)
    : Idle experiments flowerKey := by
  intro experimentKey experiment queued parent
  obtain ⟨record, same, _, grown⟩ := nursery.held queued flowerKey parent
  rw [found] at same
  cases same
  exact young grown

theorem Nursery.empty : Nursery ∅ ∅ ∅ where
  processed lookup := by cases lookup
  held queued := by cases queued.1
  apart queued := by cases queued.1
  offspring queued := by cases queued.1
  grown lookup := by cases lookup
  bred lookup := by cases lookup
  minted present := by cases present

--------------------------------------------------------------------------------
-- Flowers change
--------------------------------------------------------------------------------

/-- A flower stays the same flower; it is unlocked only when it is grown and idle. -/
theorem Nursery.rewrite (nursery : Nursery flowers experiments mints) {flowerKey : FlowerKey}
    {record : FlowerRecord} (flower : FlowerRecord)
    (found : flowers.lookup flowerKey = some record) (same : SameFlower record flower)
    (free
      : flower.status = .locked ∨ Grown experiments flower ∧ Idle experiments flowerKey)
    : Nursery (flowers.insert flowerKey flower) experiments mints where
  processed := nursery.processed
  held queued parent inside := by
    obtain ⟨old, lookup, locked, grown⟩ := nursery.held queued parent inside
    by_cases here : parent = flowerKey
    · subst here
      rw [found] at lookup
      cases lookup
      have stays := free.resolve_right fun ⟨_, idle⟩ => idle _ _ queued inside
      exact ⟨flower, AList.lookup_insert _, stays, grown.of_same same⟩
    · exact ⟨old, (AList.lookup_insert_ne here).trans lookup, locked, grown⟩
  apart := nursery.apart
  offspring queued := by
    obtain ⟨old, lookup, source⟩ := nursery.offspring queued
    rw [Store.lookup_insert_apply]
    split
    · next here =>
        rw [here, found] at lookup
        cases lookup
        exact ⟨flower, rfl, same.sourceExperiment.trans source⟩
    · exact ⟨old, lookup, source⟩
  grown lookup := by
    rcases Store.lookup_insert_eq_some.mp lookup with ⟨_, rfl⟩ | ⟨_, lookup⟩
    · exact free.imp_right And.left
    · exact nursery.grown lookup
  bred lookup source := by
    rcases Store.lookup_insert_eq_some.mp lookup with ⟨_, rfl⟩ | ⟨_, lookup⟩
    · rw [same.sourceExperiment] at source
      exact same.genomeStatus.trans (nursery.bred found source)
    · exact nursery.bred lookup source
  minted present := by
    obtain ⟨old, lookup, encrypted, grown⟩ := nursery.minted present
    rw [Store.lookup_insert_apply]
    split
    · next here =>
        rw [here, found] at lookup
        cases lookup
        exact ⟨flower, rfl, same.genomeStatus.trans encrypted, grown.of_same same⟩
    · exact ⟨old, lookup, encrypted, grown⟩

/-- A flower is removed that was never minted, is idle, and is no queued experiment's
offspring.
-/
theorem Nursery.remove (nursery : Nursery flowers experiments mints) {flowerKey : FlowerKey}
    {flower : FlowerRecord} (found : flowers.lookup flowerKey = some flower)
    (unminted : mints.lookup flowerKey = none) (idle : Idle experiments flowerKey)
    (unawaited
      : ∀ experimentKey experiment,
          Queued experiments experimentKey experiment
          → flower.sourceExperiment ≠ some experimentKey)
    : Nursery (flowers.erase flowerKey) experiments mints where
  processed := nursery.processed
  held queued parent inside := by
    obtain ⟨old, lookup, kept⟩ := nursery.held queued parent inside
    have other : parent ≠ flowerKey := by
      rintro rfl
      exact idle _ _ queued inside
    exact ⟨old, (AList.lookup_erase_ne other).trans lookup, kept⟩
  apart := nursery.apart
  offspring queued := by
    obtain ⟨old, lookup, source⟩ := nursery.offspring queued
    rw [Store.lookup_erase_apply, if_neg]
    · exact ⟨old, lookup, source⟩
    · intro here
      rw [here, found] at lookup
      cases lookup
      exact unawaited _ _ queued source
  grown lookup := by
    obtain ⟨_, lookup⟩ := Store.lookup_erase_eq_some.mp lookup
    exact nursery.grown lookup
  bred lookup := by
    obtain ⟨_, lookup⟩ := Store.lookup_erase_eq_some.mp lookup
    exact nursery.bred lookup
  minted present := by
    obtain ⟨old, lookup, kept⟩ := nursery.minted present
    rw [Store.lookup_erase_apply, if_neg]
    · exact ⟨old, lookup, kept⟩
    · rintro rfl
      rw [unminted] at present
      cases present

/-- Flowers are added that came from no experiment. -/
theorem Nursery.extend (nursery : Nursery flowers experiments mints)
    {extended : Store FlowerKey FlowerRecord}
    (kept
      : ∀ flowerKey flower,
          flowers.lookup flowerKey = some flower → extended.lookup flowerKey = some flower)
    (added
      : ∀ flowerKey flower,
          extended.lookup flowerKey = some flower
          → flowers.lookup flowerKey = some flower ∨ flower.sourceExperiment = none)
    : Nursery extended experiments mints where
  processed := nursery.processed
  held queued parent inside := by
    obtain ⟨old, lookup, locked⟩ := nursery.held queued parent inside
    exact ⟨old, kept _ _ lookup, locked⟩
  apart := nursery.apart
  offspring queued := by
    obtain ⟨old, lookup, source⟩ := nursery.offspring queued
    exact ⟨old, kept _ _ lookup, source⟩
  grown lookup := by
    rcases added _ _ lookup with old | sourceless
    · exact nursery.grown old
    · right
      intro experimentKey source
      rw [sourceless] at source
      cases source
  bred lookup source := by
    rcases added _ _ lookup with old | sourceless
    · exact nursery.bred old source
    · rw [sourceless] at source
      cases source
  minted present := by
    obtain ⟨old, lookup, encrypted⟩ := nursery.minted present
    exact ⟨old, kept _ _ lookup, encrypted⟩

--------------------------------------------------------------------------------
-- Mints change
--------------------------------------------------------------------------------

/-- A bred flower that is not locked gets a mint. -/
theorem Nursery.mint (nursery : Nursery flowers experiments mints) {flowerKey : FlowerKey}
    {flower : FlowerRecord} {supply : Nat} (found : flowers.lookup flowerKey = some flower)
    (unlocked : flower.status ≠ .locked) (encrypted : flower.genomeStatus = .encrypted)
    : Nursery flowers experiments (mints.insert flowerKey supply) where
  processed := nursery.processed
  held := nursery.held
  apart := nursery.apart
  offspring := nursery.offspring
  grown := nursery.grown
  bred := nursery.bred
  minted present := by
    rw [Store.lookup_insert_apply] at present
    split at present
    · next here =>
        subst here
        exact ⟨flower, found, encrypted, (nursery.idle found unlocked).1⟩
    · exact nursery.minted present

/-- The same mints exist. -/
theorem Nursery.of_mints (nursery : Nursery flowers experiments mints)
    {after : Store FlowerKey Nat}
    (same : ∀ flowerKey, (after.lookup flowerKey).isSome = (mints.lookup flowerKey).isSome)
    : Nursery flowers experiments after where
  processed := nursery.processed
  held := nursery.held
  apart := nursery.apart
  offspring := nursery.offspring
  grown := nursery.grown
  bred := nursery.bred
  minted present := nursery.minted (same _ ▸ present)

end SecretGarden.Garden
