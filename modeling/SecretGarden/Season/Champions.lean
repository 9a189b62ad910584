import SecretGarden.Season.Lifecycle
import SecretGarden.Settlement.Champions

/-! The winners of every round of a season, throughout its runs. -/

namespace SecretGarden.Season

open Foundation SecretGarden.Bracket SecretGarden.Settlement

/-- The instructions of every round's reveal are documented ones that read the circuit's output. -/
def SeasonDocumented (state : TracedSeason) (submission : SeasonSubmission) : Prop :=
  match submission.instruction with
  | .round key instruction =>
      ∀ ledger ∈ state.system.rounds.lookup key,
        RoundDocumented (roundOf state key ledger) ⟨state.system.env submission, instruction⟩
  | _ => True

instance (state : TracedSeason) (submission : SeasonSubmission)
    : Decidable (SeasonDocumented state submission) := by
  unfold SeasonDocumented
  generalize submission.instruction = instruction
  rcases instruction <;> infer_instance

/-- Every round of a documented season is a championship. -/
theorem championship_of_run {start : Deployment} (fresh : start.Fresh)
    {history : List SeasonSubmission} {state : TracedSeason}
    (run : Run tracedSeason SeasonDocumented start.traced history state)
    : EachRound Championship state := by
  refine run.invariant_with (fun run => attested_of_run fresh run) (fresh.eachRound _) ?_
  intro before submission after attested each documented success
  refine each.step (fun _ opened => opened.championship) ?_ success
  intro key instruction ledger next asked found known moved
  rw [SeasonDocumented, asked] at documented
  exact known.step (attested.known key ledger found) (documented ledger found) moved

/-- Whatever else happens to a season, the winners of a revealed round are the best three of its
entries: by score times eight plus rarity, then by address.
-/
theorem winners_are_best {start : Deployment} (fresh : start.Fresh)
    {history : List SeasonSubmission} {state : TracedSeason}
    (run : Run tracedSeason SeasonDocumented start.traced history state) {key : RoundKey}
    {ledger : RoundLedger} (found : state.system.rounds.lookup key = some ledger)
    (revealed : ledger.round.scoringRevealed)
    : AllScored ledger ∧ ledger.round.tops = ledger.podiumTops :=
  ⟨((attested_of_run fresh run).known key ledger found).scored revealed,
    ((championship_of_run fresh run).known key ledger found).winners revealed⟩

/-- The sample season's first round shows the better of its two entries first. -/
theorem revealedSeasonScript_best
    : ∃ state ledger,
        Run tracedSeason SeasonDocumented sampleDeployment.traced revealedSeasonScript state
        ∧ state.system.rounds.lookup 1 = some ledger
        ∧ AllScored ledger
        ∧ ledger.round.tops = ledger.podiumTops
        ∧ ledger.podiumTops = [2, 1, 0] := by
  have replayed : (replay tracedSeason SeasonDocumented sampleDeployment.traced
      revealedSeasonScript).any fun state =>
        (state.system.rounds.lookup 1).any fun ledger =>
          ledger.round.scoringRevealed && decide (ledger.podiumTops = [2, 1, 0]) := by
    decide +kernel
  obtain ⟨state, run, checked⟩ := Run.of_replay_any replayed
  obtain ⟨ledger, found, shown⟩ := (Option.any_eq_true _ _).mp checked
  obtain ⟨revealed, best⟩ := Bool.and_eq_true_iff.mp shown
  obtain ⟨all, tops⟩ := winners_are_best sampleDeployment_fresh run found revealed
  exact ⟨state, ledger, run, found, all, tops, of_decide_eq_true best⟩

end SecretGarden.Season
