import SecretGarden.Circuit.Scoring
import SecretGarden.Garden.Genomes
import SecretGarden.Season.Champions

/-! What entries are judged by. The network scores the ciphertext that an entry's flower carries,
and nothing that happens to the flower, its holder or the computation in between makes the score
another flower's: the winners are the best three by the genomes that were entered.
-/

namespace SecretGarden.Garden

open Foundation SecretGarden.Bracket SecretGarden.Settlement SecretGarden.Season
open SecretGarden.Circuit

/-- What a flower brings into a competition: its sealed genome, its generation and its rarity. -/
structure Merit where
  encryptedGenome : Nat
  encryptionMetadata : Nat
  generation : Nat
  rarity : Nat
deriving DecidableEq

def meritOf (flower : FlowerRecord) : Merit :=
  { encryptedGenome := flower.encryptedGenome
    encryptionMetadata := flower.encryptionMetadata
    generation := flower.generation
    rarity := flower.rarity }

/-- The traits a round asks for and their number. -/
def targetsOf (round : CompetitionRound) : Vector Nat 4 × Nat :=
  (round.targetTraits, round.targetTraitCount)

section Score

-- what the network reads in a ciphertext under its nonce
variable (decrypt : Nat → Nat → Genome)

/-- What the network answers to a scoring: the arguments `queue_score_entry` builds, in the types
the circuit takes them in.
-/
def answerTo (targets : Vector Nat 4 × Nat) (merit : Merit) : Option Nat := do
  let genome := decrypt merit.encryptedGenome merit.encryptionMetadata
  let first ← narrow 8 targets.1[0]
  let second ← narrow 8 targets.1[1]
  let third ← narrow 8 targets.1[2]
  let fourth ← narrow 8 targets.1[3]
  let count ← narrow 8 targets.2
  let generation ← narrow 16 merit.generation
  let score ← scoreEntryV2 genome #v[first, second, third, fourth] count generation
  pure score.val

/-- The targets that the genome meets. -/
def Merit.matched (targets : Vector Nat 4 × Nat) (merit : Merit) : Nat :=
  markedCount fun i => decide (i.val < targets.2)
    && ScoreEntryV2.traitSatisfied (decrypt merit.encryptedGenome merit.encryptionMetadata)
        (targets.1.get i)

/-- The score a merit deserves. -/
def Merit.points (targets : Vector Nat 4 × Nat) (merit : Merit) : Nat :=
  closedScore (merit.matched decrypt targets) (max targets.2 1) merit.generation

variable {decrypt}

/-- The network's answer is the deserved score. -/
theorem points_of_answer {targets : Vector Nat 4 × Nat} {merit : Merit} {score : Nat}
    (answered : answerTo decrypt targets merit = some score)
    : score = merit.points decrypt targets := by
  simp only [answerTo, bind, Option.bind_eq_some_iff, narrow, Option.dite_none_right_eq_some,
    Option.some.injEq, pure] at answered
  obtain ⟨_, ⟨_, rfl⟩, _, ⟨_, rfl⟩, _, ⟨_, rfl⟩, _, ⟨_, rfl⟩, count, ⟨_, rfl⟩, generation,
    ⟨_, rfl⟩, _, scored, rfl⟩ := answered
  obtain ⟨_, same, closed⟩ := scoreEntryV2_eq
    (decrypt merit.encryptedGenome merit.encryptionMetadata) _ _ _
  cases scored.symm.trans same
  rw [closed, Merit.points, Merit.matched]
  congr 2
  funext i
  match i with
  | 0 => rfl
  | 1 => rfl
  | 2 => rfl
  | 3 => rfl

end Score

--------------------------------------------------------------------------------
-- One round
--------------------------------------------------------------------------------

/-- What the entries of a round were submitted with, and what its computations were handed. -/
structure MeritJournal where
  entered : Pubkey → Option Merit
  handed : Nat → Option Merit

def MeritJournal.blank : MeritJournal := ⟨fun _ => none, fun _ => none⟩

def MeritJournal.enter (journal : MeritJournal) (entryKey : Pubkey) (merit : Option Merit)
    : MeritJournal :=
  { journal with entered := Function.update journal.entered entryKey merit }

def MeritJournal.hand (journal : MeritJournal) (computationOffset : Nat) (merit : Option Merit)
    : MeritJournal :=
  { journal with handed := Function.update journal.handed computationOffset merit }

/-- Every entry is judged by the merit it was submitted with. -/
structure EntriesJudged (decrypt : Nat → Nat → Genome) (ledger : RoundLedger)
    (journal : MeritJournal) : Prop where
  judged : ∀ {key entry}, ledger.entries.lookup key = some entry
    → entry.round = ledger.round.key
    → ∃ merit, journal.entered key = some merit
        ∧ entry.raritySnapshot = merit.rarity
        ∧ (entry.scored → entry.encryptedScore = merit.points decrypt (targetsOf ledger.round))
  handed : ∀ {computationOffset key}, ledger.scoreComputations.lookup computationOffset = some key
    → ∃ merit, journal.handed computationOffset = some merit ∧ journal.entered key = some merit
  present : ∀ {computationOffset key}, ledger.scoreComputations.lookup computationOffset = some key
    → (ledger.entries.lookup key).isSome

section Round

variable {decrypt : Nat → Nat → Genome} {env : Env} {ledger after : RoundLedger}
  {journal : MeritJournal} {submission : RoundSubmission}

theorem entriesJudged_of_opened (opened : ledger.Opened) (journal : MeritJournal)
    : EntriesJudged decrypt ledger journal := by
  constructor
  · intro key entry found own
    exact absurd own (opened.unentered found)
  all_goals
    intro computationOffset key queued
    rw [opened.scoreComputations] at queued
    cases queued

/-- The round keeps its number and its targets, and its computations stay queued. -/
structure QueueKept (ledger after : RoundLedger) : Prop where
  key : after.round.key = ledger.round.key
  targets : targetsOf after.round = targetsOf ledger.round
  computations : after.scoreComputations = ledger.scoreComputations

/-- Nothing about the entries changed. -/
theorem EntriesJudged.same (known : EntriesJudged decrypt ledger journal)
    (kept : QueueKept ledger after) (entries : after.entries = ledger.entries)
    : EntriesJudged decrypt after journal := by
  constructor
  · rw [entries, kept.key, kept.targets]
    exact known.judged
  · rw [kept.computations]
    exact known.handed
  · rw [kept.computations, entries]
    exact known.present

/-- An entry was rewritten, and is still judged by its merit. -/
theorem EntriesJudged.rewrite (known : EntriesJudged decrypt ledger journal)
    (kept : QueueKept ledger after) {written : Pubkey} {entry later : CompetitionEntry}
    (found : ledger.entries.lookup written = some entry)
    (entries : after.entries = ledger.entries.insert written later)
    (round : later.round = entry.round) (rarity : later.raritySnapshot = entry.raritySnapshot)
    (score
      : ∀ merit, journal.entered written = some merit
        → (entry.scored → entry.encryptedScore = merit.points decrypt (targetsOf ledger.round))
        → later.scored
        → later.encryptedScore = merit.points decrypt (targetsOf ledger.round))
    : EntriesJudged decrypt after journal := by
  constructor
  · intro key other present own
    rw [kept.key] at own
    rw [kept.targets]
    rw [entries] at present
    rcases Store.lookup_insert_eq_some.mp present with ⟨rfl, rfl⟩ | ⟨_, present⟩
    · obtain ⟨merit, entered, same, scored⟩ := known.judged found (round.symm.trans own)
      exact ⟨merit, entered, rarity.trans same, score merit entered scored⟩
    · exact known.judged present own
  · rw [kept.computations]
    exact known.handed
  · rw [kept.computations, entries]
    exact fun queued => Store.isSome_lookup_insert (known.present queued)

/-- An entry of another round joins without a trace. -/
theorem EntriesJudged.join (known : EntriesJudged decrypt ledger journal) {address : Pubkey}
    {entry : CompetitionEntry} (foreign : entry.round ≠ ledger.round.key)
    : EntriesJudged decrypt { ledger with entries := ledger.entries.insert address entry }
        journal := by
  refine ⟨fun present own => ?_, known.handed, fun queued => ?_⟩
  · rcases Store.lookup_insert_eq_some.mp present with ⟨_, rfl⟩ | ⟨_, present⟩
    · exact absurd own foreign
    · exact known.judged present own
  · exact Store.isSome_lookup_insert (known.present queued)

/-- A new entry is judged by the flower it was submitted with. -/
theorem EntriesJudged.enter (known : EntriesJudged decrypt ledger journal)
    {entryKey playerSgdAta : Pubkey} {flowerKey : FlowerKey} {flower : FlowerRecord}
    (success
      : Settlement.submitEntry env entryKey flowerKey flower playerSgdAta ledger = .ok after)
    : EntriesJudged decrypt after (journal.enter entryKey (some (meritOf flower))) := by
  obtain ⟨checks, frame⟩ := Settlement.submitEntry_success success
  constructor
  · intro key entry found own
    rw [frame] at found own ⊢
    rcases Store.lookup_insert_eq_some.mp found with ⟨rfl, rfl⟩ | ⟨other, found⟩
    · exact ⟨meritOf flower, Function.update_self _ _ _, rfl, nofun⟩
    · obtain ⟨merit, entered, facts⟩ := known.judged found own
      exact ⟨merit, (Function.update_of_ne other _ _).trans entered, facts⟩
  · intro computationOffset key queued
    rw [frame] at queued
    obtain ⟨merit, handed, entered⟩ := known.handed queued
    refine ⟨merit, handed, (Function.update_of_ne ?_ _ _).trans entered⟩
    rintro rfl
    simpa [checks.unused] using known.present queued
  · intro computationOffset key queued
    rw [frame] at queued ⊢
    exact Store.isSome_lookup_insert (known.present queued)

/-- A computation is handed the merit of its entry. -/
theorem EntriesJudged.queue (known : EntriesJudged decrypt ledger journal)
    {computationOffset : Nat} {entryKey : Pubkey} {flowerKey : FlowerKey} {merit : Merit}
    (success
      : Settlement.queueScoreEntry env computationOffset entryKey flowerKey ledger = .ok after)
    (entered : journal.entered entryKey = some merit)
    : EntriesJudged decrypt after (journal.hand computationOffset (some merit)) := by
  obtain ⟨entry, checks, rfl⟩ := queueScoreEntry_checked success
  constructor
  · intro key other present own
    rcases Store.lookup_insert_eq_some.mp present with ⟨rfl, rfl⟩ | ⟨_, present⟩
    · have judged := known.judged checks.found own
      exact judged
    · exact known.judged present own
  · intro offset key queued
    rcases Store.lookup_insert_eq_some.mp queued with ⟨rfl, rfl⟩ | ⟨other, queued⟩
    · exact ⟨merit, Function.update_self _ _ _, entered⟩
    · obtain ⟨earlier, handed, same⟩ := known.handed queued
      exact ⟨earlier, (Function.update_of_ne other _ _).trans handed, same⟩
  · intro offset key queued
    refine Store.isSome_lookup_insert ?_
    rcases Store.lookup_insert_eq_some.mp queued with ⟨rfl, rfl⟩ | ⟨_, queued⟩
    · simp [checks.found]
    · exact known.present queued

/-- A verified answer scores an entry by the merit its computation was handed. -/
theorem EntriesJudged.answer (known : EntriesJudged decrypt ledger journal)
    {computationOffset : Nat} {output : Option (Nat × Nat)}
    (success : scoreEntryV2Callback computationOffset output ledger = .ok after)
    (answered
      : ∀ merit ∈ journal.handed computationOffset, ∀ answer ∈ output,
          answerTo decrypt (targetsOf ledger.round) merit = some answer.1)
    : EntriesJudged decrypt after journal := by
  obtain ⟨entryKey, entry, queued, found, _, delivered⟩ := scoreEntryV2Callback_delivered success
  obtain ⟨merit, handed, entered⟩ := known.handed queued
  cases delivered with
  | ignored => exact known
  | failed unscored =>
      refine known.rewrite ⟨rfl, rfl, rfl⟩ found rfl rfl rfl fun _ _ _ scored => ?_
      exact absurd scored (by simp [unscored])
  | succeeded unscored =>
      refine known.rewrite ⟨rfl, rfl, rfl⟩ found rfl rfl rfl fun other held _ _ => ?_
      cases entered.symm.trans held
      exact points_of_answer (answered merit handed _ rfl)

/-- The instructions that enter, queue or answer. -/
def RoundInstruction.Judges : RoundInstruction → Prop
  | .submitEntry _ _ _ _ => True
  | .queueScoreEntry _ _ _ => True
  | .scoreEntryV2Callback _ _ => True
  | _ => False

/-- Everything else leaves merits and scores alone, by cases on the instruction. -/
theorem EntriesJudged.other (known : EntriesJudged decrypt ledger journal)
    (success : roundStep ledger submission = .ok after)
    (other : ¬ RoundInstruction.Judges submission.instruction)
    : EntriesJudged decrypt after journal := by
  obtain ⟨env, instruction⟩ := submission
  cases instruction with
  | closeRound =>
      obtain ⟨_, rfl⟩ := closeRound_success success
      exact known.same ⟨rfl, rfl, rfl⟩ rfl
  | finalizeRound =>
      obtain ⟨_, rfl⟩ := finalizeRound_success success
      exact known.same ⟨rfl, rfl, rfl⟩ rfl
  | cancelStuckScore entryKey =>
      obtain ⟨entry, later, attempt, rfl⟩ := cancelStuckScore_attempted success
      obtain ⟨_, _, _, rfl⟩ := attempt.later
      exact known.rewrite ⟨rfl, rfl, rfl⟩ attempt.found rfl rfl rfl fun _ _ scored => scored
  | releaseEntry entryKey flowerKey =>
      obtain ⟨entry, checks, rfl⟩ := releaseEntry_checked success
      exact known.rewrite ⟨rfl, rfl, rfl⟩ checks.found rfl rfl rfl fun _ _ scored => scored
  | reveal instruction =>
      obtain ⟨revealed, accepted, done⟩ := bind_eq_ok.mp success
      obtain rfl := pure_eq_ok.mp done
      have framed := revealStep_framed accepted
      refine known.same ⟨framed.key, ?_, rfl⟩ framed.entries
      rcases framed.round with same | ⟨_, _, _, written⟩
      · exact congrArg targetsOf same
      · have targets := congrArg targetsOf written
        exact targets
  | distributePot accounts =>
      obtain ⟨_, _, settled⟩ := distributePot_success success
      refine known.same ⟨?_, ?_, ?_⟩ ?_ <;> rw [settled.frame]
  | refundUnrevealedPot accounts =>
      obtain ⟨_, _, settled⟩ := refundUnrevealedPot_success success
      refine known.same ⟨?_, ?_, ?_⟩ ?_ <;> rw [settled.frame]
  | closePotVault surplusDestination =>
      have swept := closePotVault_success success
      refine known.same ⟨?_, ?_, ?_⟩ ?_ <;> rw [swept.frame]
  | outside event =>
      cases event with
      | enterElsewhere address entry =>
          simp only [roundStep, Outside.happen, bind_eq_ok, require_eq_ok, exists_const,
            pure_eq_ok] at success
          obtain ⟨_, foreign, rfl⟩ := success
          exact known.join foreign
      | createVault mint =>
          obtain ⟨_, _, done⟩ := bind_eq_ok.mp success
          obtain rfl := pure_eq_ok.mp done
          exact known.same ⟨rfl, rfl, rfl⟩ rfl
      | donate mint amount =>
          obtain ⟨_, _, done⟩ := bind_eq_ok.mp success
          obtain rfl := pure_eq_ok.mp done
          exact known.same ⟨rfl, rfl, rfl⟩ rfl
      | changeWallet address wallet =>
          obtain rfl := pure_eq_ok.mp success
          exact known.same ⟨rfl, rfl, rfl⟩ rfl
      | closeWallet address =>
          obtain rfl := pure_eq_ok.mp success
          exact known.same ⟨rfl, rfl, rfl⟩ rfl
  | _ => exact absurd trivial other

end Round

--------------------------------------------------------------------------------
-- Flowers keep their merit
--------------------------------------------------------------------------------

variable {decrypt : Nat → Nat → Genome} {env : Env} {state after : ProgramState}
  {submission : GardenSubmission}

/-- A flower that was not locked has its merit for good. -/
def MeritsKept (before after : Store FlowerKey FlowerRecord) : Prop :=
  ∀ flowerKey record flower,
    before.lookup flowerKey = some record
    → record.status ≠ .locked
    → after.lookup flowerKey = some flower
    → meritOf flower = meritOf record

section Flowers

variable {before later : Store FlowerKey FlowerRecord}

theorem MeritsKept.refl (flowers : Store FlowerKey FlowerRecord) : MeritsKept flowers flowers := by
  intro flowerKey record flower found _ present
  cases found.symm.trans present
  rfl

theorem MeritsKept.insert (kept : MeritsKept before later) {written : FlowerKey}
    {flower : FlowerRecord}
    (merit
      : ∀ record, before.lookup written = some record
        → record.status ≠ .locked
        → meritOf flower = meritOf record)
    : MeritsKept before (later.insert written flower) := by
  intro flowerKey record other found unlocked present
  rcases Store.lookup_insert_eq_some.mp present with ⟨rfl, rfl⟩ | ⟨_, present⟩
  · exact merit record found unlocked
  · exact kept _ _ _ found unlocked present

theorem MeritsKept.erase (kept : MeritsKept before later) (removed : FlowerKey)
    : MeritsKept before (later.erase removed) := by
  intro flowerKey record flower found unlocked present
  obtain ⟨_, present⟩ := Store.lookup_erase_eq_some.mp present
  exact kept _ _ _ found unlocked present

/-- A flower is written that was found with the same merit. -/
theorem MeritsKept.rewrite (kept : MeritsKept before later) {written : FlowerKey}
    {record flower : FlowerRecord} (found : before.lookup written = some record)
    (merit : meritOf flower = meritOf record)
    : MeritsKept before (later.insert written flower) := by
  refine kept.insert fun other present _ => ?_
  cases found.symm.trans present
  exact merit

end Flowers

/-- A change of owner is no change of merit. -/
theorem Synced.merit {now : Int} {flowerKey : FlowerKey} {accounts : SyncAccounts}
    {record flower : FlowerRecord} {profiles raised : Store Pubkey PlayerProfile}
    (synced : Synced state now flowerKey accounts record profiles flower raised)
    : meritOf flower = meritOf record := by
  cases synced with
  | kept => rfl
  | corrected => rfl

/-- Ending an experiment keeps its parents' merits. -/
theorem MeritsKept.resolve {experimentKey : ExperimentKey} {accounts : ExperimentAccounts}
    (status : ExperimentStatus) (errorCode : Nat)
    (loaded : Loaded state experimentKey accounts)
    : MeritsKept state.flowers
        (resolveExperiment env experimentKey accounts status errorCode state).flowers := by
  refine MeritsKept.rewrite (.rewrite (.refl _) loaded.flowerA ?_) loaded.flowerB ?_
  · rfl
  · rfl

/-- Every accepted instruction keeps merits, by cases on the change: only the offspring of a
completed experiment receives one, and it was locked.
-/
theorem Change.merits (change : Change submission state after)
    (nursery : Nursery state.flowers state.experiments state.mints)
    : MeritsKept state.flowers after.flowers := by
  cases change with
  | kept _ flowers _ =>
      rw [flowers]
      exact .refl _
  | created _ _ flowers _ =>
      rw [flowers]
      exact .refl _
  | claimed _ _ unused _ flowers _ =>
      rw [flowers]
      intro flowerKey record flower found _ present
      rw [lookup_plantStarters unused found] at present
      cases present
      rfl
  | bred _ bred =>
      cases bred with
      | queued _ _ foundA _ foundB _ _ unused syncedA syncedB =>
          refine MeritsKept.insert (.rewrite (.rewrite (.refl _) foundA ?_) foundB ?_) ?_
          · exact syncedA.merit
          · exact syncedB.merit
          · intro record found _
            cases unused.symm.trans found
  | completed loaded queued found notA notB done =>
      subst done
      refine (MeritsKept.resolve _ _ loaded).insert fun record present unlocked => ?_
      obtain ⟨offspring, same, source⟩ := nursery.offspring ⟨loaded.experiment, queued⟩
      cases present.symm.trans same
      have grown := (nursery.grown same).resolve_left unlocked
      exact absurd grown (not_grown source loaded.experiment (by simp [queued]))
  | abandoned loaded _ _ done =>
      subst done
      exact .resolve _ _ loaded
  | reclaimed _ _ _ _ _ done =>
      subst done
      exact .erase (.refl _) _
  | closed _ _ _ _ done =>
      subst done
      exact .erase (.refl _) _
  | used used _ flowers _ =>
      rw [flowers]
      obtain ⟨written, synced, same⟩ := used.synced
      refine .rewrite (.refl _) used.found ?_
      rw [same]
      exact synced.merit

--------------------------------------------------------------------------------
-- The garden with its judges
--------------------------------------------------------------------------------

/-- What entries and computations were given, and the history of every round's reveal. -/
structure JudgeJournal where
  merits : RoundKey → MeritJournal
  reveals : RoundKey → Journal

def JudgeJournal.blank : JudgeJournal := ⟨fun _ => .blank, fun _ => .blank⟩

/-- What the season sees of an instruction of its own. -/
def GardenSubmission.seasonal (submission : GardenSubmission) (instruction : SeasonInstruction)
    : SeasonSubmission :=
  ⟨submission.signer, submission.slot, submission.now, instruction⟩

/-- The merit of the flower at an address. -/
def ProgramState.meritAt (state : ProgramState) (flowerKey : FlowerKey) : Option Merit :=
  (state.flowers.lookup flowerKey).map meritOf

/-- Entries are noted with what their flowers bring, computations with what they are handed. -/
def noteMerits (state : ProgramState) (submission : GardenSubmission)
    (merits : RoundKey → MeritJournal) : RoundKey → MeritJournal :=
  match submission.instruction with
  | .submitEntry roundKey entryKey flowerKey _ _ =>
      Function.update merits roundKey
        ((merits roundKey).enter entryKey (state.meritAt flowerKey))
  | .queueScoreEntry roundKey computationOffset _ flowerKey =>
      Function.update merits roundKey
        ((merits roundKey).hand computationOffset (state.meritAt flowerKey))
  | _ => merits

def noteJudged (state : ProgramState) (submission : GardenSubmission) (journal : JudgeJournal)
    : JudgeJournal :=
  { merits := noteMerits state submission journal.merits
    reveals :=
      match submission.instruction with
      | .season instruction =>
          noteReveals state.toDeployment (submission.seasonal instruction) journal.reveals
      | _ => journal.reveals }

abbrev JudgedGarden : Type := Journaled ProgramState JudgeJournal

def judged : JudgedGarden → GardenSubmission → Outcome JudgedGarden :=
  journaled gardenStep noteJudged

/-- The reveals of the garden's rounds. -/
def JudgedGarden.season (state : JudgedGarden) : TracedSeason :=
  ⟨state.system.toDeployment, state.journal.reveals⟩

/-- A verified score is the network's answer to what its computation was handed. -/
def Answers (decrypt : Nat → Nat → Genome) (state : JudgedGarden)
    (instruction : SeasonInstruction) : Prop :=
  match instruction with
  | .round roundKey (.scoreEntryV2Callback computationOffset output) =>
      ∀ ledger ∈ state.system.rounds.lookup roundKey,
      ∀ merit ∈ (state.journal.merits roundKey).handed computationOffset,
      ∀ answer ∈ output, answerTo decrypt (targetsOf ledger.round) merit = some answer.1
  | _ => True

/-- Scores and reveals are what the network computes, and reveals are documented ones. -/
def NetworkComputes (decrypt : Nat → Nat → Genome) (state : JudgedGarden)
    (submission : GardenSubmission) : Prop :=
  match submission.instruction with
  | .season instruction =>
      SeasonDocumented state.season (submission.seasonal instruction)
      ∧ Answers decrypt state instruction
  | _ => True

instance (state : JudgedGarden) (instruction : SeasonInstruction)
    : Decidable (Answers decrypt state instruction) := by
  unfold Answers
  rcases instruction with _ | _ | _ | _ | ⟨_, instruction⟩
  case round => rcases instruction <;> infer_instance
  all_goals infer_instance

instance (state : JudgedGarden) (submission : GardenSubmission)
    : Decidable (NetworkComputes decrypt state submission) := by
  unfold NetworkComputes
  generalize submission.instruction = instruction
  rcases instruction <;> infer_instance

variable {merits : RoundKey → MeritJournal}

/-- Every round's entries are judged by the merits of the flowers they still hold. -/
structure GardenJudged (decrypt : Nat → Nat → Genome) (state : ProgramState)
    (merits : RoundKey → MeritJournal) : Prop where
  rounds : ∀ roundKey ledger, state.rounds.lookup roundKey = some ledger
    → EntriesJudged decrypt ledger (merits roundKey)
  carried : ∀ {roundKey entryKey flowerKey}, Unreleased state roundKey entryKey flowerKey
    → ∃ flower, state.flowers.lookup flowerKey = some flower
        ∧ (merits roundKey).entered entryKey = some (meritOf flower)

theorem gardenJudged_of_fresh (fresh : state.Fresh) : GardenJudged decrypt state merits := by
  constructor
  · intro roundKey ledger found
    rw [fresh.deployment.rounds] at found
    cases found
  · rintro roundKey entryKey flowerKey ⟨ledger, _, found, _⟩
    rw [fresh.deployment.rounds] at found
    cases found

/-- Only a submission notes an entry's merit. -/
theorem entered_noteMerits (state : ProgramState) (submission : GardenSubmission)
    (merits : RoundKey → MeritJournal) (roundKey : RoundKey) (entryKey : Pubkey)
    : (noteMerits state submission merits roundKey).entered entryKey
      = match submission.instruction with
        | .submitEntry entered key flowerKey _ _ =>
            if roundKey = entered ∧ entryKey = key then state.meritAt flowerKey
            else (merits roundKey).entered entryKey
        | _ => (merits roundKey).entered entryKey := by
  obtain ⟨signer, slot, now, instruction⟩ := submission
  cases instruction with
  | submitEntry entered key flowerKey playerSgdAta accounts =>
      simp only [noteMerits, MeritJournal.enter]
      by_cases here : roundKey = entered
      · subst here
        simp [Function.update_apply]
      · rw [Function.update_of_ne here, if_neg fun both => here both.1]
  | queueScoreEntry queued computationOffset key flowerKey =>
      simp only [noteMerits, MeritJournal.hand]
      by_cases here : roundKey = queued
      · subst here
        rw [Function.update_self]
      · rw [Function.update_of_ne here]
  | _ => rfl

/-- A flower that an entry still holds has the merit it was submitted with. -/
theorem GardenJudged.carried_of_step (known : GardenJudged decrypt state merits)
    (pledged : Pledged state) (later : Pledged after)
    (nursery : Nursery state.flowers state.experiments state.mints)
    (success : gardenStep state submission = .ok after) {roundKey : RoundKey}
    {entryKey : Pubkey} {flowerKey : FlowerKey}
    (entered : Unreleased after roundKey entryKey flowerKey)
    : ∃ flower, after.flowers.lookup flowerKey = some flower
        ∧ (noteMerits state submission merits roundKey).entered entryKey
          = some (meritOf flower) := by
  have merit := (gardenStep_change nursery success).merits nursery
  obtain ⟨flower, present, _⟩ := later.held entered
  refine ⟨flower, present, ?_⟩
  rw [entered_noteMerits]
  -- an entry that was there holds a submitted flower, and its merit stays
  have held (before : Unreleased state roundKey entryKey flowerKey)
      : (merits roundKey).entered entryKey = some (meritOf flower) := by
    obtain ⟨record, found, noted⟩ := known.carried before
    obtain ⟨_, same, submitted⟩ := pledged.held before
    cases found.symm.trans same
    rw [noted, merit _ _ _ found (by simp [submitted]) present]
  rw [← pledge_eq_submitted] at entered
  cases gardenStep_pledging success with
  | kept other same =>
      rw [same, pledge_eq_submitted] at entered
      split
      · next asked =>
          rw [asked] at other
          exact absurd trivial other
      · exact held entered
  | entered asked unused moved found active =>
      simp only [asked]
      rw [moved] at entered
      split at entered
      · next here =>
          cases entered
          rw [if_pos here, ProgramState.meritAt, found, Option.map_some,
            merit _ _ _ found (by simp [active]) present]
      · next elsewhere =>
          rw [if_neg elsewhere]
          exact held (pledge_eq_submitted.mp entered)
  | released asked _ _ _ moved =>
      simp only [asked]
      rw [moved] at entered
      split at entered
      · cases entered
      · exact held (pledge_eq_submitted.mp entered)

/-- What an accepted submission did to its round, with the flower's merit. -/
theorem submitEntry_judged {roundKey : RoundKey} {entryKey playerSgdAta : Pubkey}
    {flowerKey : FlowerKey} {accounts : SyncAccounts}
    (success
      : submitEntry env roundKey entryKey flowerKey playerSgdAta accounts state = .ok after)
    : ∃ ledger next flower,
        state.rounds.lookup roundKey = some ledger
        ∧ Settlement.submitEntry { env with config := state.config } entryKey flowerKey flower
            playerSgdAta ledger = .ok next
        ∧ state.meritAt flowerKey = some (meritOf flower)
        ∧ after.rounds = state.rounds.insert roundKey next := by
  simp only [submitEntry, bind_eq_ok, fetch_eq_ok, pure_eq_ok, Prod.exists] at success
  obtain ⟨_, _, _, _, record, present, flower, _, synced, _, moved, _, _, rfl⟩ := success
  obtain ⟨ledger, next, found, accepted, rfl⟩ := onRound_success moved
  refine ⟨ledger, next, flower, found, accepted, ?_, rfl⟩
  rw [ProgramState.meritAt, present, Option.map_some,
    (syncFlowerOwner_success present synced).merit]

/-- One round moved to a state whose entries are judged, and the journals of the others stayed. -/
theorem GardenJudged.play (known : GardenJudged decrypt state merits) {played : RoundKey}
    {next : RoundLedger} {journal : MeritJournal}
    (rounds : after.rounds = state.rounds.insert played next)
    (judged : EntriesJudged decrypt next journal) {roundKey : RoundKey} {ledger : RoundLedger}
    (found : after.rounds.lookup roundKey = some ledger)
    : EntriesJudged decrypt ledger (Function.update merits played journal roundKey) := by
  rw [rounds] at found
  rcases Store.lookup_insert_eq_some.mp found with ⟨rfl, rfl⟩ | ⟨other, found⟩
  · rwa [Function.update_self]
  · rw [Function.update_of_ne other]
    exact known.rounds _ _ found

/-- The season's own instructions keep entries judged: what they are judged by is answered as the
network computes it.
-/
theorem GardenJudged.season (known : GardenJudged decrypt state merits)
    {instruction : SeasonInstruction} {deployment : Deployment}
    {played : SeasonSubmission} (asked : played.instruction = instruction)
    (quiet : SeasonInstruction.TouchesFlower instruction = false)
    (answers : ∀ {roundKey computationOffset output},
      instruction = .round roundKey (.scoreEntryV2Callback computationOffset output)
      → ∀ ledger ∈ state.rounds.lookup roundKey,
        ∀ merit ∈ (merits roundKey).handed computationOffset,
        ∀ answer ∈ output, answerTo decrypt (targetsOf ledger.round) merit = some answer.1)
    (success : seasonStep state.toDeployment played = .ok deployment) {roundKey : RoundKey}
    {ledger : RoundLedger} (found : deployment.rounds.lookup roundKey = some ledger)
    : EntriesJudged decrypt ledger (merits roundKey) := by
  cases seasonStep_change success with
  | configured rounds => exact known.rounds _ _ (rounds ▸ found)
  | opened _ _ rounds =>
      rw [rounds] at found
      rcases Store.lookup_insert_eq_some.mp found with ⟨_, rfl⟩ | ⟨_, found⟩
      · exact entriesJudged_of_opened (openedLedger_opened _ _ _ _ _ (Nat.succ_pos _)) _
      · exact known.rounds _ _ found
  | @played key step before next named present moved rounds =>
      rw [rounds] at found
      obtain rfl := asked.symm.trans named
      have judged := known.rounds _ _ present
      rcases Store.lookup_insert_eq_some.mp found with ⟨rfl, rfl⟩ | ⟨_, found⟩
      · cases step with
        | submitEntry => cases quiet
        | queueScoreEntry => cases quiet
        | scoreEntryV2Callback computationOffset output =>
            exact judged.answer moved (answers rfl _ present)
        | _ => exact judged.other moved id
      · exact known.rounds _ _ found

/-- Every accepted instruction keeps the entries of every round judged. -/
theorem GardenJudged.rounds_of_step (known : GardenJudged decrypt state merits)
    (holds : ∀ {roundKey computationOffset entryKey flowerKey},
      submission.instruction = .queueScoreEntry roundKey computationOffset entryKey flowerKey
      → Unreleased state roundKey entryKey flowerKey)
    (answers : ∀ {instruction roundKey computationOffset output},
      submission.instruction = .season instruction
      → instruction = .round roundKey (.scoreEntryV2Callback computationOffset output)
      → ∀ ledger ∈ state.rounds.lookup roundKey,
        ∀ merit ∈ (merits roundKey).handed computationOffset,
        ∀ answer ∈ output, answerTo decrypt (targetsOf ledger.round) merit = some answer.1)
    (success : gardenStep state submission = .ok after)
    : ∀ roundKey ledger, after.rounds.lookup roundKey = some ledger
      → EntriesJudged decrypt ledger (noteMerits state submission merits roundKey) := by
  intro roundKey ledger found
  have framed := gardenStep_framed success
  obtain ⟨signer, slot, now, instruction⟩ := submission
  cases instruction with
  | submitEntry entered entryKey flowerKey playerSgdAta accounts =>
      obtain ⟨before, next, flower, present, accepted, merit, rounds⟩ := submitEntry_judged success
      simp only [noteMerits, merit]
      exact known.play rounds ((known.rounds _ _ present).enter accepted) found
  | releaseFlower released entryKey flowerKey accounts =>
      obtain ⟨before, next, present, accepted, rounds⟩ := releaseFlower_round success
      have moved : roundStep before ⟨_, .releaseEntry entryKey flowerKey⟩ = .ok next := accepted
      have judged := (known.rounds _ _ present).other moved id
      have played := known.play rounds judged found
      rwa [Function.update_eq_self] at played
  | queueScoreEntry queued computationOffset entryKey flowerKey =>
      obtain ⟨before, next, present, accepted, _, rfl⟩ := queueScoreEntry_success success
      obtain ⟨flower, held, entered⟩ := known.carried (holds rfl)
      have merit : state.meritAt flowerKey = some (meritOf flower) := by
        rw [ProgramState.meritAt, held, Option.map_some]
      simp only [noteMerits, merit]
      exact known.play rfl ((known.rounds _ _ present).queue accepted entered) found
  | season instruction =>
      simp only [gardenStep, bind_eq_ok, require_eq_ok, exists_const, pure_eq_ok] at success
      obtain ⟨quiet, deployment, moved, rfl⟩ := success
      exact known.season rfl quiet (answers rfl) moved found
  | _ =>
      rw [framed.deployment id] at found
      exact known.rounds _ _ found

/-- Entries stay judged while the network computes what it answers. -/
theorem judged_of_run {start : ProgramState} (fresh : start.Fresh)
    {history : List GardenSubmission} {reached : JudgedGarden}
    (run : Run judged (NetworkComputes decrypt) ⟨start, .blank⟩ history reached)
    : GardenJudged decrypt reached.system reached.journal.merits := by
  induction run with
  | start => exact gardenJudged_of_fresh fresh
  | accepted earlier met success ih =>
      obtain ⟨moved, noted⟩ := journaled_eq_ok.mp success
      rw [noted]
      have nursery := nursery_of_run fresh earlier.forget
      have pledged := pledged_of_run fresh earlier.forget
      have later := pledged_of_run fresh (earlier.accepted met success).forget
      refine ⟨ih.rounds_of_step (fun asked => ?_) (fun asked answers => ?_) moved,
        ih.carried_of_step pledged later nursery moved⟩
      · simp only [gardenStep, asked] at moved
        exact unreleased_of_queueScoreEntry fresh earlier.forget moved
      · simp only [NetworkComputes, asked, Answers, answers] at met
        exact met.2
  | rejected _ _ ih => exact ih

--------------------------------------------------------------------------------
-- The garden's rounds as a season
--------------------------------------------------------------------------------

/-- What an instruction does to its round, beside the reveal, a season does as well. -/
theorem onRound_traced {roundKey : RoundKey} {instruction : RoundInstruction}
    {reveals : RoundKey → Journal}
    (success : onRound env roundKey instruction state = .ok after)
    (other : ∀ reveal, instruction ≠ .reveal reveal)
    : ∃ played,
        tracedSeason ⟨state.toDeployment, reveals⟩ played = .ok ⟨after.toDeployment, reveals⟩
        ∧ SeasonDocumented ⟨state.toDeployment, reveals⟩ played := by
  obtain ⟨deployment, moved, done⟩ := bind_eq_ok.mp success
  obtain rfl := pure_eq_ok.mp done
  refine ⟨⟨env.signer, env.slot, env.now, .round roundKey instruction⟩,
    journaled_eq_ok.mpr ⟨moved, ?_⟩, ?_⟩
  · simp only [noteReveals]
    split
    · rw [noteReveal_other other, Function.update_eq_self]
    · rfl
  · rintro ledger -
    unfold RoundDocumented
    split
    · next reveal same => exact absurd same (other reveal)
    · trivial

/-- Every accepted instruction is none of the season's, or one the season takes as well. -/
theorem judged_traced {before later : JudgedGarden}
    (met : NetworkComputes decrypt before submission)
    (success : judged before submission = .ok later)
    : later.season = before.season
      ∨ ∃ played, tracedSeason before.season played = .ok later.season
          ∧ SeasonDocumented before.season played := by
  obtain ⟨moved, noted⟩ := journaled_eq_ok.mp success
  have framed := gardenStep_framed moved
  obtain ⟨signer, slot, now, instruction⟩ := submission
  have quiet (other : ∀ instruction', instruction ≠ .season instruction')
      : later.season = ⟨later.system.toDeployment, before.journal.reveals⟩ := by
    rw [JudgedGarden.season, noted]
    cases instruction with
    | season instruction => exact absurd rfl (other instruction)
    | _ => rfl
  cases instruction with
  | submitEntry roundKey entryKey flowerKey playerSgdAta accounts =>
      right
      rw [quiet (by simp)]
      simp only [gardenStep, submitEntry, bind_eq_ok, pure_eq_ok, Prod.exists] at moved
      obtain ⟨_, _, _, _, _, _, _, _, _, _, entered, _, _, same⟩ := moved
      obtain ⟨played, season⟩ := onRound_traced entered (by simp)
      rw [← same]
      exact ⟨played, season⟩
  | releaseFlower roundKey entryKey flowerKey accounts =>
      right
      rw [quiet (by simp)]
      simp only [gardenStep, releaseFlower, bind_eq_ok, pure_eq_ok, Prod.exists] at moved
      obtain ⟨_, _, _, released, _, _, _, _, _, _, _, same⟩ := moved
      obtain ⟨played, season⟩ := onRound_traced released (by simp)
      rw [← same]
      exact ⟨played, season⟩
  | queueScoreEntry roundKey computationOffset entryKey flowerKey =>
      right
      rw [quiet (by simp)]
      obtain ⟨_, _, queued⟩ := bind_eq_ok.mp moved
      exact onRound_traced queued (by simp)
  | season instruction =>
      right
      simp only [gardenStep, bind_eq_ok, require_eq_ok, exists_const, pure_eq_ok] at moved
      obtain ⟨_, deployment, stepped, same⟩ := moved
      have reached : deployment = later.season.system := by
        rw [JudgedGarden.season, ← same]
      refine ⟨_, journaled_eq_ok.mpr ⟨reached ▸ stepped, ?_⟩, met.1⟩
      rw [JudgedGarden.season, noted]
      rfl
  | _ =>
      left
      rw [quiet (by simp), framed.deployment id]
      rfl

/-- The rounds of the garden go through a documented season. -/
theorem season_of_judged {start : ProgramState} {history : List GardenSubmission}
    {reached : JudgedGarden}
    (run : Run judged (NetworkComputes decrypt) ⟨start, .blank⟩ history reached)
    : ∃ played,
        Run tracedSeason SeasonDocumented start.toDeployment.traced played reached.season := by
  induction run with
  | start => exact ⟨[], .start⟩
  | accepted _ met success ih =>
      obtain ⟨played, earlier⟩ := ih
      rcases judged_traced met success with same | ⟨action, moved, documented⟩
      · exact ⟨played, same ▸ earlier⟩
      · exact ⟨_, earlier.accepted documented moved⟩
  | rejected _ _ ih => exact ih

--------------------------------------------------------------------------------
-- The winners
--------------------------------------------------------------------------------

/-- Where a merit stands: its points times eight plus its rarity, then the entry's address. -/
def Merit.standing (decrypt : Nat → Nat → Genome) (targets : Vector Nat 4 × Nat) (key : Pubkey)
    (merit : Merit) : Standing :=
  .of (merit.points decrypt targets * 8 + merit.rarity) key

/-- The three best of the round's entries, by the merits they were submitted with. -/
def podiumByMerit (decrypt : Nat → Nat → Genome) (ledger : RoundLedger)
    (entered : Pubkey → Option Merit) : List Pubkey :=
  (top 3 (ledger.roundEntries.filterMap fun key =>
    (entered key).map (Merit.standing decrypt (targetsOf ledger.round) key))).map Standing.address

/-- Scored entries stand where their merits do. -/
theorem standings_by_merit {ledger : RoundLedger} {journal : MeritJournal}
    (judged : EntriesJudged decrypt ledger journal) (all : AllScored ledger)
    : standings ledger.entries ledger.roundEntries
      = ledger.roundEntries.filterMap fun key =>
          (journal.entered key).map (Merit.standing decrypt (targetsOf ledger.round) key) := by
  rw [standings, Bracket.contenders, List.map_filterMap]
  apply List.filterMap_congr
  intro key member
  obtain ⟨entry, found, own⟩ := mem_roundEntries.mp member
  obtain ⟨merit, entered, rarity, scored⟩ := judged.judged found own
  rw [found, entered]
  simp [standing, Merit.standing, rarity, scored (all.scored found own)]

/-- While the network answers what it computes, every entry of a revealed round was submitted with
a merit, and the winners are the best three by merit: whatever became of flowers, holders and
computations in between.
-/
theorem winners_by_merit {start : ProgramState} (fresh : start.Fresh)
    {history : List GardenSubmission} {reached : JudgedGarden}
    (run : Run judged (NetworkComputes decrypt) ⟨start, .blank⟩ history reached)
    {roundKey : RoundKey} {ledger : RoundLedger}
    (found : reached.system.rounds.lookup roundKey = some ledger)
    (revealed : ledger.round.scoringRevealed)
    : let entered := (reached.journal.merits roundKey).entered
      (∀ key ∈ ledger.roundEntries, (entered key).isSome)
      ∧ ledger.round.tops = (List.range revealTopK).map fun place =>
          ((podiumByMerit decrypt ledger entered)[place]?).getD 0 := by
  intro entered
  have judged := (judged_of_run fresh run).rounds roundKey ledger found
  obtain ⟨_, season⟩ := season_of_judged run
  have all : AllScored ledger :=
    ((attested_of_run fresh.deployment season).known roundKey ledger found).scored revealed
  have tops : ledger.round.tops = ledger.podiumTops :=
    ((championship_of_run fresh.deployment season).known roundKey ledger found).winners revealed
  refine ⟨fun key member => ?_, ?_⟩
  · obtain ⟨entry, present, own⟩ := mem_roundEntries.mp member
    obtain ⟨merit, noted, _⟩ := judged.judged present own
    exact Option.isSome_of_eq_some noted
  · rw [tops, RoundLedger.podiumTops, podium, standings_by_merit judged all]
    rfl

/-- A network that reads the same hardy genome everywhere. -/
def sampleDecrypt : Nat → Nat → Genome :=
  fun _ _ => ⟨0, 0, 128, 160, 150, 140, 32, 1, 150, 0⟩

/-- The one entry of round 1 is scored and wins. -/
def wonScript : List GardenSubmission :=
  scoredScript starterCount
    ++ [.scoreEntryV2Callback 61 (some (35, 0)), .finalizeRound, .reveal (pinOneShard 1),
      .reveal (.queueShardReveal 51 0 [1]), .reveal (.revealTop3V5Callback 51 true),
      .reveal (.collectShardWinners 0 [1]), .reveal (.applyBracketResult 0)].map
        fun instruction => ⟨7, 1000, 1, .season (.round 1 instruction)⟩

/-- The only flower that was entered wins by its merit. -/
theorem wonScript_by_merit
    : ∃ (reached : JudgedGarden) (ledger : RoundLedger),
        Run judged (NetworkComputes sampleDecrypt) ⟨sampleProgram, .blank⟩ wonScript reached
        ∧ reached.system.rounds.lookup 1 = some ledger
        ∧ ledger.round.tops = [1, 0, 0]
        ∧ (∀ key ∈ ledger.roundEntries, ((reached.journal.merits 1).entered key).isSome)
        ∧ ledger.round.tops = (List.range revealTopK).map fun place =>
            ((podiumByMerit sampleDecrypt ledger (reached.journal.merits 1).entered)[place]?
              ).getD 0 := by
  have replayed : (replay judged (NetworkComputes sampleDecrypt) ⟨sampleProgram, .blank⟩
      wonScript).any fun reached =>
        (reached.system.rounds.lookup 1).any fun ledger =>
          ledger.round.scoringRevealed && decide (ledger.round.tops = [1, 0, 0]) := by
    decide +kernel
  obtain ⟨reached, run, checked⟩ := Run.of_replay_any replayed
  obtain ⟨ledger, found, shown⟩ := (Option.any_eq_true _ _).mp checked
  obtain ⟨revealed, tops⟩ := Bool.and_eq_true_iff.mp shown
  exact ⟨reached, ledger, run, found, of_decide_eq_true tops,
    winners_by_merit sampleProgram_fresh run found revealed⟩

end SecretGarden.Garden
