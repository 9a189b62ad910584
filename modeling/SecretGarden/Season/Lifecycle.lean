import SecretGarden.Season.Changes
import SecretGarden.Settlement.Ranked

/-! The rounds of a season: numbered from one without gaps, over one after the other, each with
its participants counted, its stages in order and its winners final.
-/

namespace SecretGarden.Season

open Foundation SecretGarden.Bracket SecretGarden.Settlement

/-- One journal for each round's reveal. -/
def noteReveals (deployment : Deployment) (submission : SeasonSubmission)
    (journal : RoundKey → Journal) : RoundKey → Journal :=
  match submission.instruction with
  | .round key instruction =>
      match deployment.rounds.lookup key with
      | some ledger =>
          Function.update journal key
            (noteReveal ledger ⟨deployment.env submission, instruction⟩ (journal key))
      | none => journal
  | _ => journal

abbrev TracedSeason : Type := Journaled Deployment (RoundKey → Journal)

def tracedSeason : TracedSeason → SeasonSubmission → Outcome TracedSeason :=
  journaled seasonStep noteReveals

def Deployment.traced (deployment : Deployment) : TracedSeason := ⟨deployment, fun _ => .blank⟩

/-- A round of the season with its history. -/
def roundOf (state : TracedSeason) (key : RoundKey) (ledger : RoundLedger) : TracedRound :=
  ⟨ledger, state.journal key⟩

/-- Every result that a round's reveal reads is the circuit's output on a run queued for it under
the partition in force.
-/
def SeasonReadsOutput (state : TracedSeason) (submission : SeasonSubmission) : Prop :=
  match submission.instruction with
  | .round key instruction =>
      ∀ ledger ∈ state.system.rounds.lookup key,
        RoundReadsOutput (roundOf state key ledger)
          ⟨state.system.env submission, instruction⟩
  | _ => True

instance (state : TracedSeason) (submission : SeasonSubmission)
    : Decidable (SeasonReadsOutput state submission) := by
  unfold SeasonReadsOutput
  generalize submission.instruction = instruction
  rcases instruction <;> infer_instance

/-- Every round has the property, with its history; a round to come has none. -/
structure EachRound (property : TracedRound → Prop) (state : TracedSeason) : Prop where
  unopened : ∀ key, state.system.rounds.lookup key = none → state.journal key = .blank
  known : ∀ key ledger, state.system.rounds.lookup key = some ledger
    → property (roundOf state key ledger)

theorem Deployment.Fresh.eachRound {start : Deployment} (fresh : start.Fresh)
    (property : TracedRound → Prop) : EachRound property start.traced := by
  refine ⟨fun _ _ => rfl, fun key ledger found => ?_⟩
  rw [show start.traced.system.rounds = ∅ from fresh.rounds] at found
  cases found

/-- What holds of every opened round and survives the instructions that are admitted holds of
each round.
-/
theorem EachRound.step {property : TracedRound → Prop}
    (initially : ∀ ledger, ledger.Opened → property ⟨ledger, .blank⟩)
    {state after : TracedSeason} {submission : SeasonSubmission}
    (preserved
      : ∀ key instruction ledger next,
          submission.instruction = .round key instruction
          → state.system.rounds.lookup key = some ledger
          → property (roundOf state key ledger)
          → roundStep ledger ⟨state.system.env submission, instruction⟩ = .ok next
          → property
              ⟨next, noteReveal ledger ⟨state.system.env submission, instruction⟩
                (state.journal key)⟩)
    (each : EachRound property state) (success : tracedSeason state submission = .ok after)
    : EachRound property after := by
  obtain ⟨accepted, noted⟩ := journaled_eq_ok.mp success
  have quiet (other : ∀ key instruction, submission.instruction ≠ .round key instruction)
      : after.journal = state.journal := by
    rw [noted]
    unfold noteReveals
    split
    · next key instruction same => exact absurd same (other key instruction)
    · rfl
  cases seasonStep_change accepted with
  | configured rounds current other =>
      constructor
      · intro key absent
        rw [quiet other]
        exact each.unopened key (rounds ▸ absent)
      · intro key ledger found
        rw [roundOf, quiet other]
        exact each.known key ledger (rounds ▸ found)
  | opened previous unused rounds current other =>
      constructor
      · intro key absent
        rw [rounds] at absent
        obtain ⟨_, absent⟩ := Store.lookup_insert_eq_none.mp absent
        rw [quiet other]
        exact each.unopened key absent
      · intro key ledger found
        rw [rounds] at found
        rw [roundOf, quiet other]
        rcases Store.lookup_insert_eq_some.mp found with ⟨here, rfl⟩ | ⟨_, found⟩
        · rw [here, each.unopened _ unused]
          exact initially _ (openedLedger_opened _ _ _ _ _ (Nat.succ_pos _))
        · exact each.known key ledger found
  | @played key instruction ledger next asked present moved rounds =>
      have journal : after.journal = Function.update state.journal key
          (noteReveal ledger ⟨state.system.env submission, instruction⟩
            (state.journal key)) := by
        rw [noted, noteReveals, asked]
        simp only [present]
      constructor
      · intro other absent
        rw [rounds] at absent
        obtain ⟨elsewhere, absent⟩ := Store.lookup_insert_eq_none.mp absent
        rw [journal, Function.update_of_ne elsewhere]
        exact each.unopened other absent
      · intro other ledger' found
        rw [rounds] at found
        rw [roundOf, journal]
        rcases Store.lookup_insert_eq_some.mp found with ⟨here, rfl⟩ | ⟨elsewhere, found⟩
        · rw [here, Function.update_self]
          exact preserved key instruction ledger next asked present
            (each.known key ledger present) moved
        · rw [Function.update_of_ne elsewhere]
          exact each.known other ledger' found

--------------------------------------------------------------------------------
-- Rounds in order
--------------------------------------------------------------------------------

/-- The rounds are numbered from one to the current one, and all before it are finalized. -/
structure RoundsInOrder (deployment : Deployment) : Prop where
  numbered : ∀ key : Nat, (deployment.rounds.lookup key).isSome
    ↔ 1 ≤ key ∧ key ≤ deployment.config.currentRound
  named : ∀ (key : Nat) ledger, deployment.rounds.lookup key = some ledger
    → ledger.round.roundId = key
  finalized : ∀ (key : Nat) ledger, deployment.rounds.lookup key = some ledger
    → key < deployment.config.currentRound
    → ledger.round.status = .finalized

theorem Deployment.Fresh.roundsInOrder {start : Deployment} (fresh : start.Fresh)
    : RoundsInOrder start := by
  have absent (key : RoundKey) : start.rounds.lookup key = none := by
    rw [fresh.rounds]
    rfl
  constructor
  · intro key
    rw [absent key, fresh.currentRound]
    simp only [Option.isSome_none, Bool.false_eq_true, false_iff]
    omega
  · intro key ledger found
    rw [absent key] at found
    cases found
  · intro key ledger found
    rw [absent key] at found
    cases found

variable {deployment after : Deployment} {submission : SeasonSubmission}

/-- The round that has to be over before the next one opens is the current one. -/
theorem RoundsInOrder.current_over (known : RoundsInOrder deployment)
    (previous : PreviousOver deployment) {ledger : RoundLedger}
    (found : deployment.rounds.lookup deployment.config.currentRound = some ledger)
    : ledger.round.status = .finalized := by
  have current := (known.numbered deployment.config.currentRound).mp (by rw [found]; rfl)
  rcases previous with none | ⟨key, other, present, numbered, finalized⟩
  · omega
  · have same : key = deployment.config.currentRound :=
      (known.named key other present).symm.trans numbered
    rw [same] at present
    cases found.symm.trans present
    exact finalized

/-- Rounds stay in order at every accepted instruction. -/
theorem RoundsInOrder.step (known : RoundsInOrder deployment)
    (success : seasonStep deployment submission = .ok after) : RoundsInOrder after := by
  cases seasonStep_change success with
  | configured rounds current =>
      constructor
      · rw [rounds, current]
        exact known.numbered
      · rw [rounds]
        exact known.named
      · rw [rounds, current]
        exact known.finalized
  | opened previous unused rounds current =>
      constructor
      · intro key
        have before := known.numbered key
        rw [rounds, current, Store.lookup_insert_apply]
        split
        · next here =>
            subst here
            simp
        · rw [before]
          omega
      · intro key ledger found
        rw [rounds] at found
        rcases Store.lookup_insert_eq_some.mp found with ⟨here, rfl⟩ | ⟨_, found⟩
        · exact here.symm
        · exact known.named key ledger found
      · intro key ledger found earlier
        rw [rounds] at found
        rw [current] at earlier
        rcases Store.lookup_insert_eq_some.mp found with ⟨here, _⟩ | ⟨_, found⟩
        · omega
        · rcases (Nat.lt_succ_iff.mp earlier).lt_or_eq with before | same
          · exact known.finalized key ledger found before
          · exact known.current_over previous (same ▸ found)
  | @played played instruction ledger next asked present moved rounds current =>
      have advanced := roundStep_advanced moved
      constructor
      · intro key
        rw [rounds, current, ← known.numbered key, Store.lookup_insert_apply]
        split
        · next here =>
            rw [here, present]
            rfl
        · rfl
      · intro key other found
        rw [rounds] at found
        rcases Store.lookup_insert_eq_some.mp found with ⟨here, rfl⟩ | ⟨_, found⟩
        · rw [advanced.roundId, here]
          exact known.named played ledger present
        · exact known.named key other found
      · intro key other found earlier
        rw [rounds] at found
        rw [current] at earlier
        rcases Store.lookup_insert_eq_some.mp found with ⟨rfl, rfl⟩ | ⟨_, found⟩
        · exact advanced.finalized (known.finalized _ ledger present earlier)
        · exact known.finalized key other found earlier

/-- Only the current round can be unfinished. -/
theorem RoundsInOrder.single (known : RoundsInOrder deployment) {key : RoundKey}
    {ledger : RoundLedger} (found : deployment.rounds.lookup key = some ledger)
    (unfinished : ledger.round.status ≠ .finalized) : key = deployment.config.currentRound := by
  have numbered := (known.numbered key).mp (by rw [found]; rfl)
  by_contra other
  exact unfinished (known.finalized key ledger found (lt_of_le_of_ne numbered.2 other))

--------------------------------------------------------------------------------
-- What lasts of every round
--------------------------------------------------------------------------------

/-- Every round is still there, and related to what it was. -/
def EachKept (related : RoundLedger → RoundLedger → Prop) (before after : Deployment) : Prop :=
  ∀ key ledger, before.rounds.lookup key = some ledger
    → ∃ next, after.rounds.lookup key = some next ∧ related ledger next

/-- One accepted instruction moves one round at most. -/
theorem eachKept_of_step {related : RoundLedger → RoundLedger → Prop}
    (kept : ∀ ledger, related ledger ledger)
    (moves
      : ∀ {ledger next submission},
          roundStep ledger submission = .ok next → related ledger next)
    (success : seasonStep deployment submission = .ok after)
    : EachKept related deployment after := by
  intro key ledger found
  cases seasonStep_change success with
  | configured rounds => exact ⟨ledger, by rwa [rounds], kept ledger⟩
  | opened previous unused rounds =>
      refine ⟨ledger, ?_, kept ledger⟩
      rw [rounds, Store.lookup_insert_apply, if_neg]
      · exact found
      · rintro rfl
        rw [unused] at found
        cases found
  | @played played instruction held next asked present moved rounds =>
      rw [rounds, Store.lookup_insert_apply]
      split
      · next here =>
          subst here
          cases found.symm.trans present
          exact ⟨next, rfl, moves moved⟩
      · exact ⟨ledger, found, kept ledger⟩

/-- What lasts of a round lasts over every run of the season. -/
theorem lasting_of_run {condition : Deployment → SeasonSubmission → Prop}
    {history : List SeasonSubmission} (run : Run seasonStep condition deployment history after)
    : EachKept Lasting deployment after := by
  refine run.invariant (fun key ledger found => ⟨ledger, found, .refl _⟩) ?_
  intro before submission next known _ success key ledger found
  obtain ⟨middle, present, earlier⟩ := known key ledger found
  obtain ⟨last, held, later⟩ :=
    eachKept_of_step Lasting.refl roundStep_lasting success key middle present
  exact ⟨last, held, earlier.trans later⟩

/-- The status is the same or the next one. -/
def StatusAdvances (ledger next : RoundLedger) : Prop :=
  next.round.status = ledger.round.status ∨ NextStatus ledger.round.status next.round.status

/-- What the lifecycle promises of every round in a state. -/
structure RoundsKept (deployment : Deployment) : Prop where
  single : ∀ key ledger, deployment.rounds.lookup key = some ledger
    → ledger.round.status ≠ .finalized
    → key = deployment.config.currentRound
  counted : ∀ key ledger, deployment.rounds.lookup key = some ledger
    → ledger.round.participantCount = ledger.roundEntries.length
      ∧ ledger.round.participantCount ≤ roundCapacity
  scored : ∀ key ledger, deployment.rounds.lookup key = some ledger
    → ledger.round.scoringRevealed
    → AllScored ledger
  stages : ∀ {submission after}, seasonStep deployment submission = .ok after
    → EachKept StatusAdvances deployment after
  lasting : ∀ {history after}, Run seasonStep anyAction deployment history after
    → EachKept Lasting deployment after

/-- The revealed rounds name different entries for their first places, as many as have a
participant.
-/
def WinnersRanked (deployment : Deployment) : Prop :=
  ∀ key ledger, deployment.rounds.lookup key = some ledger
    → ledger.round.scoringRevealed
    → PlacesFilled ledger ∧ WinnersDistinct ledger.round

/-- Every round is attested throughout every run. -/
theorem attested_of_run {start : Deployment} (fresh : start.Fresh)
    {condition : TracedSeason → SeasonSubmission → Prop} {history : List SeasonSubmission}
    {state : TracedSeason} (run : Run tracedSeason condition start.traced history state)
    : EachRound Attested state :=
  run.invariant (fresh.eachRound _) fun each _ success =>
    each.step (fun _ opened => opened.attested) (fun _ _ _ _ _ _ known moved => known.step moved)
      success

/-- While the reveals read the circuit's output, their winners are distinct. -/
theorem distinct_of_run {start : Deployment} (fresh : start.Fresh)
    {history : List SeasonSubmission} {state : TracedSeason}
    (run : Run tracedSeason SeasonReadsOutput start.traced history state)
    : EachRound DistinctSoFar state := by
  refine run.invariant_with (fun run => attested_of_run fresh run) (fresh.eachRound _) ?_
  intro before submission after attested each reads success
  refine each.step (fun _ opened => opened.distinct) ?_ success
  intro key instruction ledger next asked found known moved
  have round := attested.known key ledger found
  refine known.step round.traced round.crowned ?_ moved
  rw [SeasonReadsOutput, asked] at reads
  exact reads ledger found

/-- In every reachable state the rounds are in order and keep their counts, stages and winners;
while the reveals read the circuit's output on runs queued for them, the winners are as many
different entries as there are places with a participant.
-/
theorem rounds_lifecycle {start : Deployment} (fresh : start.Fresh)
    {history : List SeasonSubmission} {state : TracedSeason}
    (run : Run tracedSeason anyAction start.traced history state)
    : RoundsInOrder state.system
      ∧ RoundsKept state.system
      ∧ (Run tracedSeason SeasonReadsOutput start.traced history state
        → WinnersRanked state.system) := by
  have attested := attested_of_run fresh run
  have order : RoundsInOrder state.system :=
    run.forget.invariant fresh.roundsInOrder fun known _ success => known.step success
  refine ⟨order,
    ⟨fun key ledger found unfinished => order.single found unfinished,
      fun key ledger found => ?_, fun key ledger found revealed => ?_, fun success => ?_,
      fun later => lasting_of_run later⟩,
    fun reads key ledger found revealed => ?_⟩
  · have round := attested.known key ledger found
    exact ⟨round.sound.counted, round.tallied.seated⟩
  · exact (attested.known key ledger found).scored revealed
  · exact eachKept_of_step (fun _ => .inl rfl) roundStep_status success
  · exact ⟨(attested.known key ledger found).filled revealed,
      ((distinct_of_run fresh reads).known key ledger found).winners revealed⟩

/-- Two players enter the first round, which is scored, finalized and revealed before the second
one opens.
-/
def revealedSeasonScript : List SeasonSubmission :=
  [administratorAt 0 (.setSgdMint ⟨9, 6⟩), administratorAt 0 (.openRound none ∅),
    administratorAt 0 (.round 1 (.outside (.changeWallet 301 ⟨101, 9, entryFeeSgd⟩))),
    administratorAt 0 (.round 1 (.outside (.changeWallet 302 ⟨102, 9, entryFeeSgd⟩)))]
    ++ revealedScript.map (fun submission =>
      ⟨submission.env.signer, 1000, submission.env.now, .round 1 submission.instruction⟩)
    ++ [administratorAt 0 (.openRound (some 1) ∅)]

/-- The revealed round keeps its two winners beside the one that opened after it. -/
theorem revealedSeasonScript_ranked
    : ∃ state ledger,
        Run tracedSeason SeasonReadsOutput sampleDeployment.traced revealedSeasonScript state
        ∧ state.system.rounds.lookup 1 = some ledger
        ∧ ledger.round.tops = [2, 1, 0]
        ∧ state.system.config.currentRound = 2
        ∧ RoundsInOrder state.system
        ∧ RoundsKept state.system
        ∧ WinnersRanked state.system := by
  have replayed : (replay tracedSeason SeasonReadsOutput sampleDeployment.traced
      revealedSeasonScript).any fun state =>
        (state.system.rounds.lookup 1).any (fun ledger =>
          decide (ledger.round.tops = [2, 1, 0]))
        && decide (state.system.config.currentRound = 2) := by
    decide +kernel
  obtain ⟨state, run, checked⟩ := Run.of_replay_any replayed
  obtain ⟨stored, current⟩ := Bool.and_eq_true_iff.mp checked
  obtain ⟨ledger, found, tops⟩ := (Option.any_eq_true _ _).mp stored
  obtain ⟨order, kept, ranked⟩ :=
    rounds_lifecycle sampleDeployment_fresh (run.mono fun _ _ _ => trivial)
  exact ⟨state, ledger, run, found, of_decide_eq_true tops, of_decide_eq_true current, order,
    kept, ranked run⟩

end SecretGarden.Season
