import Mathlib.Data.Nat.Pairing
import SecretGarden.AutoCycle.Attempts
import SecretGarden.AutoCycle.Resumption

/-! The scoring stage: every entry that is listed unscored is scored in turn. -/

namespace SecretGarden.AutoCycle

open Foundation SecretGarden.Bracket SecretGarden.Settlement SecretGarden.Season

variable {deps : CycleDeps} {key : RoundKey} {world : CycleWorld} {ledger : RoundLedger}

/-- No two computations of the run share an offset. -/
def OffsetsApart (deps : CycleDeps) : Prop :=
  ∀ first second attempt other,
    deps.scoreOffset first attempt = deps.scoreOffset second other
    → first = second ∧ attempt = other

theorem mem_entriesForRound {entryKey : Pubkey} {entry : CompetitionEntry}
    : (entryKey, entry) ∈ entriesForRound deps ledger
      ↔ ledger.entries.lookup entryKey = some entry ∧ entry.round = ledger.round.key := by
  rw [entriesForRound, List.mem_filterMap]
  constructor
  · rintro ⟨listed, member, found⟩
    obtain ⟨other, present, own⟩ :=
      mem_roundEntries.mp ((deps.listing_perm ledger).subset member)
    rw [present, Option.map_some] at found
    cases found
    exact ⟨present, own⟩
  · rintro ⟨present, own⟩
    refine ⟨entryKey, (deps.listing_perm ledger).symm.subset (mem_roundEntries.mpr ⟨entry, present,
      own⟩), ?_⟩
    rw [present]
    rfl

theorem keys_entriesForRound
    : (entriesForRound deps ledger).map Prod.fst = deps.listing ledger := by
  rw [entriesForRound, List.map_filterMap]
  rw [show (deps.listing ledger)
      = (deps.listing ledger).filterMap some from (List.filterMap_some).symm]
  rw [List.filterMap_filterMap]
  refine List.filterMap_congr fun entryKey member => ?_
  obtain ⟨entry, present, _⟩ := mem_roundEntries.mp ((deps.listing_perm ledger).subset member)
  simp [present]

theorem nodup_entriesForRound (deps : CycleDeps) (ledger : RoundLedger)
    : ((entriesForRound deps ledger).map Prod.fst).Nodup := by
  rw [keys_entriesForRound]
  exact (deps.listing_perm ledger).nodup_iff.mpr (Store.keysWhere_nodup _ _)

/-- Entries that are still to be scored in a closed round, with unused offsets. -/
structure Awaiting (deps : CycleDeps) (ledger : RoundLedger)
    (unscored : List (Pubkey × CompetitionEntry)) : Prop where
  apart : (unscored.map Prod.fst).Nodup
  scorable : ∀ listed ∈ unscored,
    Scorable deps ledger listed.1 listed.2.flowerRecord scoreAttempts

/-- Every listed entry is scored, where its outcome says so. -/
def ScoredAsReported (ledger : RoundLedger) (unscored : List (Pubkey × CompetitionEntry))
    (outcomes : List ScoreOutcome) : Prop :=
  List.Forall₂
    (fun listed outcome => outcome = ScoreOutcome.scored
      → ∃ entry, ledger.entries.lookup listed.1 = some entry ∧ entry.scored)
    unscored outcomes

/-- Reported scores stay. -/
theorem ScoredAsReported.kept {next : RoundLedger}
    {unscored : List (Pubkey × CompetitionEntry)} {outcomes : List ScoreOutcome}
    (reported : ScoredAsReported ledger unscored outcomes) (scores : ScoresKept ledger next)
    : ScoredAsReported next unscored outcomes := by
  refine List.Forall₂.imp (fun listed outcome known scored => ?_) reported
  obtain ⟨entry, found, done⟩ := known scored
  obtain ⟨later, present, still, _⟩ := scores listed.1 entry found done
  exact ⟨later, present, still⟩

/-- Where every outcome says so, every listed entry is scored. -/
theorem ScoredAsReported.all {unscored : List (Pubkey × CompetitionEntry)}
    {outcomes : List ScoreOutcome} (reported : ScoredAsReported ledger unscored outcomes)
    (scored : ∀ outcome ∈ outcomes, outcome = ScoreOutcome.scored)
    : ∀ listed ∈ unscored,
        ∃ entry, ledger.entries.lookup listed.1 = some entry ∧ entry.scored := by
  induction reported with
  | nil => nofun
  | cons known _ ih =>
      obtain ⟨here, later⟩ := List.forall_mem_cons.mp scored
      exact List.forall_mem_cons.mpr ⟨known here, ih later⟩

/-- The entries are scored one after the other, by induction on the list; the offsets of one
leave those of the others unused.
-/
theorem scoreEntries_reports (apart : OffsetsApart deps) (may : MayScore deps world)
    {unscored : List (Pubkey × CompetitionEntry)}
    (found : world.deployment.rounds.lookup key = some ledger)
    (awaiting : Awaiting deps ledger unscored)
    : ∃ outcomes after next,
        scoreEntries deps key unscored world = .ok (outcomes, after)
        ∧ Moved BesideReveals key (Tended (fun _ => True) SameSubmission) world after
        ∧ after.deployment.rounds.lookup key = some next
        ∧ ScoredAsReported next unscored outcomes
        ∧ (Answered deps key → ∀ outcome ∈ outcomes, outcome = .scored) := by
  induction unscored generalizing world ledger with
  | nil =>
      exact ⟨[], world, ledger, rfl, .refl (.refl .refl) world, found, .nil, fun _ _ => nofun⟩
  | cons listed rest ih =>
      obtain ⟨entryKey, entry⟩ := listed
      obtain ⟨fresh, others⟩ := List.nodup_cons.mp awaiting.apart
      have injective : Function.Injective (deps.scoreOffset entryKey) :=
        fun _ _ same => (apart _ _ _ _ same).2
      obtain ⟨outcome, scored, middle, later, success, moved, held, stored, reported, answered⟩ :=
        scoring_recovers may injective found (awaiting.scorable _ List.mem_cons_self)
      obtain ⟨_, same, tended⟩ := moved.ledger ledger found
      cases held.symm.trans same
      have remains : Awaiting deps middle rest := by
        refine ⟨others, fun listed member => ?_⟩
        refine (awaiting.scorable listed (List.mem_cons_of_mem _ member)).kept tended le_rfl ?_
        rintro k _ ⟨attempt, same⟩
        obtain ⟨other, _⟩ := apart _ _ _ _ same
        refine fresh ?_
        change entryKey ∈ rest.map Prod.fst
        rw [← other]
        exact List.mem_map_of_mem member
      obtain ⟨outcomes, after, next, finished, moved', reached, reports, all⟩ :=
        ih (may.kept moved.config) held remains
      have wide {own : Nat → Prop} {before after : CycleWorld}
          (moved : Moved BesideReveals key (Tended own SameSubmission) before after)
          : Moved BesideReveals key (Tended (fun _ => True) SameSubmission) before after :=
        moved.mono fun tended => tended.mono (fun _ _ => trivial) id
      obtain ⟨_, same, rests⟩ := moved'.ledger middle held
      cases reached.symm.trans same
      refine ⟨outcome :: outcomes, after, next, ?_, (wide moved).join moved', reached,
        .cons (fun done => ?_) reports, fun network => ?_⟩
      · rw [scoreEntries, bind_of_ok success]
        exact bind_of_ok finished
      · subst done
        cases reported with
        | scored scored =>
            obtain ⟨last, present, still, _⟩ := rests.scores entryKey later stored scored
            exact ⟨last, present, still⟩
      · exact List.forall_mem_cons.mpr ⟨answered network, all network⟩

--------------------------------------------------------------------------------
-- The stage
--------------------------------------------------------------------------------

/-- The script's offsets for scorings: apart, and unknown to the round so far. -/
structure FreshOffsets (deps : CycleDeps) (ledger : RoundLedger) : Prop where
  apart : OffsetsApart deps
  unused : ∀ entryKey attempt,
    ledger.scoreComputations.lookup (deps.scoreOffset entryKey attempt) = none

/-- The entries the stage takes up. -/
def unscoredEntries (deps : CycleDeps) (ledger : RoundLedger) : List (Pubkey × CompetitionEntry) :=
  (entriesForRound deps ledger).filter fun entry => !entry.2.scored

theorem mem_unscoredEntries {entryKey : Pubkey} {entry : CompetitionEntry}
    : (entryKey, entry) ∈ unscoredEntries deps ledger
      ↔ (ledger.entries.lookup entryKey = some entry ∧ entry.round = ledger.round.key)
        ∧ entry.scored = false := by
  rw [unscoredEntries, List.mem_filter, mem_entriesForRound, Bool.not_eq_true']

/-- What is unscored in a closed round is still to be scored. -/
theorem awaiting_unscored (closed : ledger.round.status = .closed)
    (offsets : FreshOffsets deps ledger)
    : Awaiting deps ledger (unscoredEntries deps ledger) := by
  refine ⟨?_, fun listed member => ?_⟩
  · exact (nodup_entriesForRound deps ledger).sublist (List.filter_sublist.map Prod.fst)
  · obtain ⟨⟨present, own⟩, _⟩ := mem_unscoredEntries.mp member
    exact ⟨closed, ⟨listed.2, present, own, rfl⟩, fun _ _ => offsets.unused _ _⟩

/-- Tending a round adds no entry and takes none away. -/
theorem Tended.roundEntries {own : Nat → Prop} {next : RoundLedger}
    (tended : Tended own SameSubmission ledger next)
    : next.roundEntries.Perm ledger.roundEntries := by
  refine (List.perm_ext_iff_of_nodup (Store.keysWhere_nodup _ _)
    (Store.keysWhere_nodup _ _)).mpr fun key => ?_
  change key ∈ next.toRevealLedger.roundEntries ↔ key ∈ ledger.toRevealLedger.roundEntries
  rw [mem_roundEntries, mem_roundEntries, tended.key]
  constructor
  · rintro ⟨later, found, own⟩
    cases present : ledger.entries.lookup key with
    | none => cases (tended.back key present).symm.trans found
    | some entry =>
        obtain ⟨other, held, same⟩ := tended.forth key entry present
        cases found.symm.trans held
        exact ⟨entry, rfl, same.round.symm.trans own⟩
  · rintro ⟨entry, found, own⟩
    obtain ⟨later, held, same⟩ := tended.forth key entry found
    exact ⟨later, held, same.round.trans own⟩

/-- A round is scored once everything that was unscored is. -/
theorem Tended.allScored {own : Nat → Prop} {next : RoundLedger}
    (tended : Tended own SameSubmission ledger next) (sound : Settlement.Sound ledger)
    (scored : ∀ listed ∈ unscoredEntries deps ledger,
      ∃ entry, next.entries.lookup listed.1 = some entry ∧ entry.scored)
    : AllScored next := by
  refine ⟨?_, fun {key later} found own => ?_⟩
  · have participants := congrArg (fun ledger : RoundLedger => ledger.round.participantCount)
      tended.frame
    exact tended.roundEntries.length_eq.trans (sound.counted.symm.trans participants.symm)
  · have member := tended.roundEntries.subset (mem_roundEntries.mpr ⟨later, found, own⟩)
    obtain ⟨entry, present, own⟩ := mem_roundEntries.mp member
    cases done : entry.scored with
    | true =>
        obtain ⟨same, held, still, _⟩ := tended.scores key entry present done
        cases held.symm.trans found
        exact still
    | false =>
        obtain ⟨same, held, still⟩ :=
          scored (key, entry) (mem_unscoredEntries.mpr ⟨⟨present, own⟩, done⟩)
        cases held.symm.trans found
        exact still

/-- What the stage does with a closed round. -/
structure Scoring (deps : CycleDeps) (key : RoundKey) (ledger : RoundLedger) (run : CycleRun)
    (failures : List ScoreOutcome) (after : CycleRun) (next : RoundLedger) : Prop where
  success : scoreStage deps key run = .ok (failures, after)
  moved : Moved BesideReveals key (Tended (fun _ => True) SameSubmission) run.world after.world
  found : after.world.deployment.rounds.lookup key = some next
  counted : after.summary.scoredCount = next.round.scoredCount
  closedRound : after.summary.closedRound = run.summary.closedRound
  finalizedRound : after.summary.finalizedRound = run.summary.finalizedRound
  openedRound : after.summary.openedRound = run.summary.openedRound
  failed : ∀ outcome ∈ failures, outcome ≠ .scored
  complete : failures = [] → AllScored next
  answered : Answered deps key → failures = []
  idle : AllScored ledger → failures = [] ∧ after.world = run.world

/-- The stage takes a closed round as far as the network lets it. -/
theorem scoreStage_closed {run : CycleRun} (may : MayScore deps run.world)
    (offsets : FreshOffsets deps ledger)
    (found : run.world.deployment.rounds.lookup key = some ledger) (sound : Settlement.Sound ledger)
    (closed : ledger.round.status = .closed)
    : ∃ failures after next, Scoring deps key ledger run failures after next := by
  have read : roundAt key run.world = .ok ledger := by
    rw [roundAt, found]
    rfl
  by_cases vacant : ledger.round.participantCount = 0
  · have unentered : ledger.roundEntries = [] :=
      List.eq_nil_of_length_eq_zero (sound.counted.symm.trans vacant)
    let counted := { run.summary with scoredCount := ledger.round.scoredCount }
    refine ⟨[], ⟨counted, run.world⟩, ledger, ?_, .refl (.refl .refl) run.world, found, rfl, rfl,
      rfl, rfl, by simp, fun _ => ⟨sound.counted.symm, fun {key entry} present own => ?_⟩,
      fun _ => rfl, fun _ => ⟨rfl, rfl⟩⟩
    · rw [scoreStage, bind_of_ok read, if_pos (.inr vacant)]
      rfl
    · have member := mem_roundEntries.mpr ⟨entry, present, own⟩
      rw [unentered] at member
      cases member
  · obtain ⟨outcomes, world, next, success, moved, reached, reported, scores⟩ :=
      scoreEntries_reports offsets.apart may found (awaiting_unscored closed offsets)
    obtain ⟨_, same, tended⟩ := moved.ledger ledger found
    cases reached.symm.trans same
    have reread : roundAt key world = .ok next := by
      rw [roundAt, reached]
      rfl
    let counted := { run.summary with
      scoredThisRun := outcomes.count ScoreOutcome.scored
      scoredCount := next.round.scoredCount }
    refine ⟨outcomes.filter (· ≠ ScoreOutcome.scored), ⟨counted, world⟩, next, ?_, moved, reached,
      rfl, rfl, rfl, rfl, ?_, fun none => ?_, fun network => ?_, fun all => ?_⟩
    · rw [scoreStage, bind_of_ok read, if_neg (by simp [closed, vacant])]
      simp only [unscoredEntries] at success
      simp only [bind_of_ok success, bind_of_ok reread]
      rfl
    · exact fun outcome member => by simpa using (List.mem_filter.mp member).2
    · refine tended.allScored sound (reported.all fun outcome member => ?_)
      by_contra failed
      exact List.filter_eq_nil_iff.mp none outcome member (by simpa using failed)
    · exact List.filter_eq_nil_iff.mpr fun outcome member => by simpa using scores network _ member
    · have none : unscoredEntries deps ledger = [] := by
        refine List.filter_eq_nil_iff.mpr fun listed member => ?_
        obtain ⟨present, own⟩ := mem_entriesForRound.mp member
        simp [all.scored present own]
      rw [none] at success
      obtain ⟨unfailed, still⟩ := Prod.mk.inj (Except.ok.inj success)
      exact ⟨by rw [← unfailed]; rfl, still.symm⟩

/-- The authority's script on the validators' own clock, and a network that answers whatever the
script has queued itself.
-/
def patientCycle : CycleDeps :=
  { signer := 7
    chainTime := id
    slotAt := fun _ => 1000
    ataFor := fun owner _ => 200 + owner
    listing := fun ledger => ledger.roundEntries
    listing_perm := fun _ => .refl _
    scoreOffset := fun entryKey attempt => 100 + Nat.pair entryKey attempt
    scoreArrivals := fun world => world.deployment.rounds.entries.flatMap fun held =>
      (held.2.scoreComputations.entries.filter fun queued => 100 ≤ queued.1).map fun queued =>
        (queued.1, some (queued.2, 0))
    finalizeSeconds := fun _ => 30
    revealOffset := patientDeps.freshOffset
    revealEarly := patientDeps.early
    revealLate := patientDeps.late
    funded := fun _ => ∅ }

theorem patientCycle_answered (key : RoundKey) : Answered patientCycle key := by
  intro world ledger entryKey attempt found queued
  refine ⟨entryKey, 0, List.mem_flatMap.mpr ⟨⟨key, ledger⟩, AList.mem_lookup_iff.mp found, ?_⟩⟩
  refine List.mem_map.mpr ⟨⟨_, entryKey⟩, List.mem_filter.mpr ⟨AList.mem_lookup_iff.mp queued, ?_⟩,
    rfl⟩
  simp [patientCycle]

theorem patientCycle_offsets
    (earlier : ∀ computationOffset ∈ ledger.scoreComputations.keys, computationOffset < 100)
    : FreshOffsets patientCycle ledger := by
  refine ⟨fun first second attempt other same => ?_, fun entryKey attempt => ?_⟩
  · exact Nat.pair_eq_pair.mp (Nat.add_left_cancel same)
  · by_contra used
    have listed := earlier _ (AList.mem_keys.mp (AList.lookup_isSome.mp
      (Option.ne_none_iff_isSome.mp used)))
    exact absurd listed (Nat.not_lt.mpr (Nat.le_add_right _ _))

theorem patientCycle_may {state : TracedSeason}
    (settings : state.system.config.paused = false ∧ state.system.config.authority = 7) (now : Int)
    : MayScore patientCycle ⟨state.system, now⟩ :=
  ⟨fun _ => le_rfl, settings.1, by simp [isOperatorOrAuthority, patientCycle, settings.2]⟩

/-- Two players enter the first round. -/
def enteredSeasonScript : List SeasonSubmission :=
  [administratorAt 0 (.setSgdMint ⟨9, 6⟩), administratorAt 0 (.openRound none ∅),
    administratorAt 0 (.round 1 (.outside (.changeWallet 301 ⟨101, 9, entryFeeSgd⟩))),
    administratorAt 0 (.round 1 (.outside (.changeWallet 302 ⟨102, 9, entryFeeSgd⟩)))]
    ++ [1, 2].map fun i => ⟨100 + i, 1000, 0, .round 1 (playerEnters i).instruction⟩

/-- The round was closed, and the scoring of entry 1 never came back. -/
def stuckSeasonScript : List SeasonSubmission :=
  enteredSeasonScript
    ++ [administratorAt 0 (.round 1 .closeRound),
      administratorAt 0 (.round 1 (.queueScoreEntry 61 1 (sampleFlowerKey 1)))]

end SecretGarden.AutoCycle
