import SecretGarden.Garden.Inversion
import SecretGarden.Season.Changes

/-! The rounds of the program are those of a season: whatever an instruction does to a flower, it
does to its round what the season would, so a run of the program is a run of the season besides.
-/

namespace SecretGarden.Garden

open Foundation SecretGarden.Bracket SecretGarden.Settlement SecretGarden.Season

variable {env : Env} {state after : ProgramState} {submission : GardenSubmission}

/-- What an instruction does to its round is a step of the season. -/
theorem onRound_season {roundKey : RoundKey} {instruction : RoundInstruction}
    (success : onRound env roundKey instruction state = .ok after)
    : ∃ played, seasonStep state.toDeployment played = .ok after.toDeployment := by
  obtain ⟨deployment, moved, done⟩ := bind_eq_ok.mp success
  obtain rfl := pure_eq_ok.mp done
  exact ⟨_, moved⟩

/-- Every accepted instruction keeps the deployment or steps it as the season does. -/
theorem gardenStep_season (success : gardenStep state submission = .ok after)
    : after.toDeployment = state.toDeployment
      ∨ ∃ played, seasonStep state.toDeployment played = .ok after.toDeployment := by
  by_cases steps : submission.instruction.StepsSeason
  · right
    obtain ⟨signer, slot, now, instruction⟩ := submission
    cases instruction with
    | submitEntry roundKey entryKey flowerKey playerSgdAta accounts =>
        simp only [gardenStep, submitEntry, bind_eq_ok, pure_eq_ok, Prod.exists] at success
        obtain ⟨_, _, _, _, _, _, _, _, _, _, moved, _, _, rfl⟩ := success
        obtain ⟨played, season⟩ := onRound_season moved
        exact ⟨played, season⟩
    | releaseFlower roundKey entryKey flowerKey accounts =>
        simp only [gardenStep, releaseFlower, bind_eq_ok, pure_eq_ok, Prod.exists] at success
        obtain ⟨_, _, _, moved, _, _, _, _, _, _, _, rfl⟩ := success
        obtain ⟨played, season⟩ := onRound_season moved
        exact ⟨played, season⟩
    | queueScoreEntry roundKey computationOffset entryKey flowerKey =>
        obtain ⟨_, _, moved⟩ := bind_eq_ok.mp success
        exact onRound_season moved
    | season instruction =>
        simp only [gardenStep, bind_eq_ok, require_eq_ok, exists_const, pure_eq_ok] at success
        obtain ⟨_, deployment, moved, rfl⟩ := success
        exact ⟨_, moved⟩
    | _ => exact steps.elim
  · exact .inl ((gardenStep_framed success).deployment steps)

/-- The deployment of a program goes through a run of the season, by the steps of the run. -/
theorem season_of_run {condition : ProgramState → GardenSubmission → Prop}
    {start : ProgramState} {history : List GardenSubmission}
    (run : Run gardenStep condition start history state)
    : ∃ played, Run seasonStep anyAction start.toDeployment played state.toDeployment := by
  induction run with
  | start => exact ⟨[], .start⟩
  | accepted _ _ success ih =>
      obtain ⟨played, earlier⟩ := ih
      rcases gardenStep_season success with same | ⟨action, moved⟩
      · exact ⟨played, same ▸ earlier⟩
      · exact ⟨_, earlier.accepted trivial moved⟩
  | rejected _ _ ih => exact ih

end SecretGarden.Garden
