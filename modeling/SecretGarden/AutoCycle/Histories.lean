import SecretGarden.AutoCycle.Runs
import SecretGarden.AutoCycle.Seasons

/-! A run of the cycle as a part of the season's history. Whatever the validators' clock, the
network's callbacks and the listing of the entries do to it, what the script leaves behind is one
more scripted season, and a season it can go on from.
-/

namespace SecretGarden.AutoCycle

open Foundation SecretGarden.Bracket SecretGarden.Settlement SecretGarden.Season

variable {deps : CycleDeps} {key : RoundKey} {world after : CycleWorld}

--------------------------------------------------------------------------------
-- Beside the reveals
--------------------------------------------------------------------------------

theorem onward_of_send {instruction : SeasonInstruction}
    (beside : ∀ key reveals, instruction ≠ .round key (.reveal reveals))
    (sent : send deps instruction world = .ok after)
    : Onward BesideReveals world.deployment after.deployment := by
  rw [send] at sent
  split at sent
  · next accepted =>
      cases sent
      exact .of_step (fun _ key reveals => beside key reveals) accepted
  · cases sent

theorem onward_of_happen (deps : CycleDeps) (world : CycleWorld) {instruction : RoundInstruction}
    (beside : ∀ reveals, instruction ≠ .reveal reveals)
    : Onward BesideReveals world.deployment (happen deps key instruction world).deployment := by
  rw [happen, processed]
  split
  · next accepted =>
      refine .of_step (fun _ other reveals same => ?_) accepted
      exact beside reveals (SeasonInstruction.round.inj same).2
  · exact .refl _

/-- A fold of parts is a part, by induction on the items. -/
theorem onward_of_foldl {α : Type} {condition : TracedSeason → SeasonSubmission → Prop}
    {act : CycleWorld → α → CycleWorld}
    (part : ∀ world item, Onward condition world.deployment (act world item).deployment)
    (items : List α) (world : CycleWorld)
    : Onward condition world.deployment (items.foldl act world).deployment := by
  induction items generalizing world with
  | nil => exact .refl _
  | cons item rest ih => exact (part world item).trans (ih (act world item))

theorem onward_of_sleep (deps : CycleDeps) (key : RoundKey) (seconds : Int) (world : CycleWorld)
    : Onward BesideReveals world.deployment (sleep deps key seconds world).deployment :=
  onward_of_foldl (fun before _ => onward_of_happen deps before (by simp)) _ world

--------------------------------------------------------------------------------
-- Scoring
--------------------------------------------------------------------------------

section Scoring

variable {entryKey : Pubkey}

/-- The turns of a recovery, by induction on them. -/
theorem onward_of_recoverStuckScore {turns : Nat} {cleared : Bool}
    (success : recoverStuckScore deps key entryKey turns world = .ok (cleared, after))
    : Onward BesideReveals world.deployment after.deployment := by
  induction turns generalizing world with
  | zero => cases success
  | succ turns ih =>
      obtain ⟨entry, _, decided⟩ := bind_eq_ok.mp success
      split at decided
      · cases pure_eq_ok.mp decided
        exact .refl _
      · cases pure_eq_ok.mp decided
        exact .refl _
      · next seconds _ => exact (onward_of_sleep deps key seconds world).trans (ih decided)
      · obtain ⟨sent, cancels, rest⟩ := bind_eq_ok.mp decided
        cases pure_eq_ok.mp rest
        exact onward_of_send (by rintro _ _ ⟨⟩) cancels

theorem onward_of_pollScore {attempt polls : Nat} {outcome : Option ScoreOutcome}
    (success : pollScore deps key entryKey attempt polls world = .ok (outcome, after))
    : Onward BesideReveals world.deployment after.deployment := by
  induction polls generalizing world with
  | zero =>
      cases pure_eq_ok.mp success
      exact .refl _
  | succ polls ih =>
      obtain ⟨entry, _, decided⟩ := bind_eq_ok.mp success
      split at decided
      · cases pure_eq_ok.mp decided
        exact .refl _
      · cases pure_eq_ok.mp decided
        exact .refl _
      · exact (onward_of_sleep deps key 1 world).trans (ih decided)

/-- The attempts at an entry, by induction on those that are left. -/
theorem onward_of_scoreWithin {flowerRecord : FlowerKey} {left : Nat} {outcome : ScoreOutcome}
    (success : scoreWithin deps key entryKey flowerRecord left world = .ok (outcome, after))
    : Onward BesideReveals world.deployment after.deployment := by
  induction left generalizing world with
  | zero =>
      cases pure_eq_ok.mp success
      exact .refl _
  | succ left ih =>
      obtain ⟨⟨cleared, recovered⟩, recovers, rest⟩ := bind_eq_ok.mp success
      obtain ⟨entry, _, rest⟩ := bind_eq_ok.mp rest
      refine (onward_of_recoverStuckScore recovers).trans ?_
      split at rest
      · cases pure_eq_ok.mp rest
        exact .refl _
      · obtain ⟨queued, sent, rest⟩ := bind_eq_ok.mp rest
        obtain ⟨⟨decided, polled⟩, polls, rest⟩ := bind_eq_ok.mp rest
        refine (onward_of_send (by rintro _ _ ⟨⟩) sent).trans
          ((onward_of_sleep deps key _ queued).trans ((onward_of_pollScore polls).trans ?_))
        cases decided with
        | some ended =>
            cases pure_eq_ok.mp rest
            exact .refl _
        | none => exact ih rest

theorem onward_of_scoreEntries {unscored : List (Pubkey × CompetitionEntry)}
    {outcomes : List ScoreOutcome}
    (success : scoreEntries deps key unscored world = .ok (outcomes, after))
    : Onward BesideReveals world.deployment after.deployment := by
  induction unscored generalizing world outcomes with
  | nil =>
      cases pure_eq_ok.mp success
      exact .refl _
  | cons listed rest ih =>
      obtain ⟨⟨outcome, scored⟩, scores, later⟩ := bind_eq_ok.mp success
      obtain ⟨⟨others, last⟩, goes, same⟩ := bind_eq_ok.mp later
      cases pure_eq_ok.mp same
      exact (onward_of_scoreWithin scores).trans (ih goes)

end Scoring

--------------------------------------------------------------------------------
-- Payouts and vaults
--------------------------------------------------------------------------------

theorem onward_of_ensureAtas (deps : CycleDeps) (key : RoundKey) (mint : Pubkey)
    (owners : List Pubkey) (world : CycleWorld)
    : Onward BesideReveals world.deployment (ensureAtas deps key mint owners world).deployment := by
  refine onward_of_foldl (fun before owner => ?_) owners world
  rw [ensureAta]
  split
  · exact .refl _
  · exact onward_of_happen deps before (by simp)

theorem onward_of_distributeSgdPot (deps : CycleDeps) (key : RoundKey)
    (winners : List WinnerWallet) (world : CycleWorld)
    : Onward BesideReveals world.deployment
        (distributeSgdPot deps key winners world).2.deployment := by
  have ensured := onward_of_ensureAtas deps key world.deployment.config.sgdMint
    (winners.map WinnerWallet.wallet) world
  rw [distributeSgdPot]
  split
  · exact .refl _
  · dsimp only
    split
    · next paid => exact ensured.trans (onward_of_send (by rintro _ _ ⟨⟩) paid)
    · exact ensured

theorem onward_of_settleOwing (deps : CycleDeps) (key : RoundKey) (world : CycleWorld)
    : Onward BesideReveals world.deployment (settleOwing deps key world).2.deployment := by
  rw [settleOwing]
  split
  · exact .refl _
  · dsimp only
    split
    · exact .refl _
    · exact onward_of_distributeSgdPot deps key _ world

/-- The backlog, by induction on its rounds. -/
theorem onward_of_settleRounds (deps : CycleDeps) (keys : List RoundKey) (world : CycleWorld)
    : Onward BesideReveals world.deployment (settleRounds deps keys world).2.deployment := by
  induction keys generalizing world with
  | nil => exact .refl _
  | cons key rest ih => exact (onward_of_settleOwing deps key world).trans (ih _)

theorem onward_of_reclaimVault (deps : CycleDeps) (key : RoundKey) (world : CycleWorld)
    : Onward BesideReveals world.deployment (reclaimVault deps key world).2.deployment := by
  have ensured := onward_of_ensureAtas deps key world.deployment.config.sgdMint
    [world.deployment.config.authority] world
  rw [reclaimVault]
  split
  · next closed => exact ensured.trans (onward_of_send (by rintro _ _ ⟨⟩) closed)
  · exact ensured

theorem onward_of_reclaimVaults (deps : CycleDeps) (keys : List RoundKey) (world : CycleWorld)
    : Onward BesideReveals world.deployment (reclaimVaults deps keys world).2.deployment := by
  induction keys generalizing world with
  | nil => exact .refl _
  | cons key rest ih => exact (onward_of_reclaimVault deps key world).trans (ih _)

--------------------------------------------------------------------------------
-- Stages
--------------------------------------------------------------------------------

section Stages

variable {run last : CycleRun}

theorem onward_of_closeStage {action : CloseAction}
    (success : closeStage deps key action run = .ok last)
    : Onward BesideReveals run.world.deployment last.world.deployment := by
  rw [closeStage] at success
  split at success
  · obtain ⟨closed, sent, rest⟩ := bind_eq_ok.mp success
    obtain ⟨ledger, _, same⟩ := bind_eq_ok.mp rest
    cases pure_eq_ok.mp same
    exact onward_of_send (by rintro _ _ ⟨⟩) sent
  · cases pure_eq_ok.mp success
    exact .refl _

theorem onward_of_scoreStage {failures : List ScoreOutcome}
    (success : scoreStage deps key run = .ok (failures, last))
    : Onward BesideReveals run.world.deployment last.world.deployment := by
  obtain ⟨ledger, _, rest⟩ := bind_eq_ok.mp success
  dsimp only at rest
  split at rest
  · cases pure_eq_ok.mp rest
    exact .refl _
  · obtain ⟨⟨outcomes, world⟩, scores, rest⟩ := bind_eq_ok.mp rest
    obtain ⟨scored, _, same⟩ := bind_eq_ok.mp rest
    cases pure_eq_ok.mp same
    exact onward_of_scoreEntries scores

theorem onward_of_finalizeStage (success : finalizeStage deps key run = .ok last)
    : Onward BesideReveals run.world.deployment last.world.deployment := by
  obtain ⟨ledger, _, rest⟩ := bind_eq_ok.mp success
  split at rest
  · cases pure_eq_ok.mp rest
    exact .refl _
  · obtain ⟨finalized, sent, same⟩ := bind_eq_ok.mp rest
    cases pure_eq_ok.mp same
    exact onward_of_send (by rintro _ _ ⟨⟩) sent

theorem onward_of_potStage (success : potStage deps key run = .ok last)
    : Onward BesideReveals run.world.deployment last.world.deployment := by
  obtain ⟨ledger, _, rest⟩ := bind_eq_ok.mp success
  dsimp only at rest
  split at rest
  · cases pure_eq_ok.mp rest
    exact .refl _
  · split at rest
    · cases pure_eq_ok.mp rest
      exact .refl _
    · split at rest
      · cases pure_eq_ok.mp rest
        exact .refl _
      · cases pure_eq_ok.mp rest
        exact onward_of_distributeSgdPot deps key _ run.world

theorem onward_of_openNextRound (success : openNextRound deps key world = .ok after)
    : Onward BesideReveals world.deployment after.deployment := by
  obtain ⟨_, _, sent⟩ := bind_eq_ok.mp success
  exact onward_of_send (by rintro _ _ ⟨⟩) sent

/-- The reveal is for the plan of all the round's entries: the script goes on only once it has read
as many scored ones as take part.
-/
theorem onward_of_revealStage {condition : TracedSeason → SeasonSubmission → Prop}
    (reached : Reached condition run.world.deployment)
    (success : revealStage deps key run = .ok last)
    : Onward SeasonScripted run.world.deployment last.world.deployment := by
  obtain ⟨ledger, read, rest⟩ := bind_eq_ok.mp success
  have found : run.world.deployment.rounds.lookup key = some ledger := fetch_eq_ok.mp read
  split at rest
  · cases pure_eq_ok.mp rest
    exact .refl _
  split at rest
  · cases pure_eq_ok.mp rest
    exact .refl _
  next unrevealed =>
  split at rest
  · cases pure_eq_ok.mp rest
    exact .refl _
  obtain ⟨_, _, rest⟩ := bind_eq_ok.mp rest
  obtain ⟨_, complete, rest⟩ := bind_eq_ok.mp rest
  obtain ⟨revealed, reveals, rest⟩ := bind_eq_ok.mp rest
  obtain ⟨next, reread, rest⟩ := bind_eq_ok.mp rest
  obtain ⟨_, shown, same⟩ := bind_eq_ok.mp rest
  cases pure_eq_ok.mp same
  obtain ⟨journal, attested⟩ := reached.attested found
  have listed := deps.listing_perm ledger
  have all : ((entriesForRound deps ledger).filter fun entry => entry.2.scored)
      = entriesForRound deps ledger := by
    refine List.filter_sublist.eq_of_length ?_
    rw [require_eq_ok.mp complete, ← List.length_map Prod.fst, keys_entriesForRound]
    exact attested.sound.counted.trans listed.length_eq.symm
  rw [all, keys_entriesForRound] at reveals
  obtain ⟨plan, planned, driven⟩ := driven_of_runBracketReveal (mapError_eq_ok.mp reveals)
  rw [planBracket_perm listed] at planned
  rcases moved_of_driven found planned driven with rfl | moved
  · -- a reveal that changed nothing is not one that is over
    rw [roundAt, withReveal_eq, lookup_put] at reread
    cases Except.ok.inj reread
    exact absurd (require_eq_ok.mp shown) unrevealed
  · exact moved.onward

theorem onward_of_finishStages {current : RoundKey}
    (reached : Reached SeasonScripted run.world.deployment)
    (success : finishStages deps current run = .ok last)
    : Onward SeasonScripted run.world.deployment last.world.deployment := by
  obtain ⟨revealed, reveals, rest⟩ := bind_eq_ok.mp success
  obtain ⟨finalized, finalizes, rest⟩ := bind_eq_ok.mp rest
  obtain ⟨paid, pays, opens⟩ := bind_eq_ok.mp rest
  obtain ⟨opened, next, same⟩ := bind_eq_ok.mp opens
  cases pure_eq_ok.mp same
  have settling := (onward_of_finalizeStage finalizes).trans (onward_of_potStage pays)
  have sweeping : Onward BesideReveals paid.world.deployment
      (reclaimStage deps current paid).world.deployment := onward_of_reclaimVaults deps _ paid.world
  have beside := settling.trans (sweeping.trans (onward_of_openNextRound next))
  exact (onward_of_revealStage reached reveals).trans
    (beside.mono fun _ _ => BesideReveals.scripted)

theorem onward_of_advanceStages {action : CloseAction} {ended : CycleEnd}
    (reached : Reached SeasonScripted run.world.deployment)
    (success : advanceStages deps key action run = .ok ended)
    : Onward SeasonScripted run.world.deployment ended.world.deployment := by
  obtain ⟨closed, closes, rest⟩ := bind_eq_ok.mp success
  obtain ⟨⟨failures, scored⟩, scores, rest⟩ := bind_eq_ok.mp rest
  have before : Onward SeasonScripted run.world.deployment scored.world.deployment :=
    ((onward_of_closeStage closes).trans (onward_of_scoreStage scores)).mono
      fun _ _ => BesideReveals.scripted
  refine before.trans ?_
  dsimp only at rest
  split at rest
  · obtain ⟨finished, finishes, same⟩ := bind_eq_ok.mp rest
    cases pure_eq_ok.mp same
    exact onward_of_finishStages (reached.onward before) finishes
  · cases pure_eq_ok.mp rest
    exact (onward_of_reclaimVaults deps _ scored.world).mono fun _ _ => BesideReveals.scripted

end Stages

--------------------------------------------------------------------------------
-- One season after the other
--------------------------------------------------------------------------------

theorem onward_of_runCycle {ended : CycleEnd} (reached : Reached SeasonScripted world.deployment)
    (success : runCycle deps world = .ok ended)
    : Onward SeasonScripted world.deployment ended.world.deployment := by
  obtain ⟨_, _, rest⟩ := bind_eq_ok.mp success
  dsimp only at rest
  split at rest
  · obtain ⟨opened, opens, same⟩ := bind_eq_ok.mp rest
    cases pure_eq_ok.mp same
    exact (onward_of_openNextRound opens).mono fun _ _ => BesideReveals.scripted
  · obtain ⟨ledger, _, rest⟩ := bind_eq_ok.mp rest
    have settled : Onward SeasonScripted world.deployment
        (settleBacklog deps world.deployment.config.currentRound world).2.deployment :=
      (onward_of_settleRounds deps _ world).mono fun _ _ => BesideReveals.scripted
    refine settled.trans ?_
    split at rest
    · cases pure_eq_ok.mp rest
      exact .refl _
    · exact onward_of_advanceStages (reached.onward settled) rest

/-- What a run needs where the script alone reveals: it may act, and its offsets are new. -/
structure ScriptReady (deps : CycleDeps) (world : CycleWorld) (ledger : RoundLedger) : Prop where
  may : MayScore deps world
  minted : world.deployment.config.sgdMint ≠ 0
  offsets : FreshOffsets deps ledger
  alone : RevealsAlone deps ledger

variable {ledger : RoundLedger}

theorem Reached.managed (reached : Reached SeasonScripted world.deployment)
    (found : world.deployment.rounds.lookup key = some ledger)
    : ∃ journal, Managed ⟨ledger, journal⟩ := by
  obtain ⟨start, history, journal, fresh, run⟩ := reached
  exact ⟨_, (managed_of_run fresh run).known key ledger found⟩

theorem Reached.documented {deployment : Deployment} (reached : Reached SeasonScripted deployment)
    : Reached SeasonDocumented deployment := by
  obtain ⟨start, history, journal, fresh, run⟩ := reached
  exact ⟨start, history, journal, fresh, scripted_documented fresh run⟩

/-- Nothing has to be known of a reveal that was begun. -/
theorem ScriptReady.cycleReady (ready : ScriptReady deps world ledger)
    (reached : Reached SeasonScripted world.deployment)
    (found : world.deployment.rounds.lookup key = some ledger)
    : CycleReady deps key world ledger := by
  obtain ⟨journal, known⟩ := reached.managed found
  exact ⟨ready.may, ready.minted, ready.offsets, ready.alone,
    fun _ _ => resumable_of_managed known (deps.listing_perm ledger)⟩

theorem enteredSeasonScript_beside (submission : SeasonSubmission)
    (listed : submission ∈ enteredSeasonScript) (before : TracedSeason)
    : BesideReveals before submission := by
  simp only [enteredSeasonScript, List.map_cons, List.map_nil, List.mem_append, List.mem_cons,
    List.not_mem_nil, or_false] at listed
  rcases listed with (rfl | rfl | rfl | rfl) | rfl | rfl
  all_goals simp [BesideReveals, administratorAt, playerEnters]

/-- The season with two players is one in which nobody else reveals. -/
theorem enteredSeasonScript_scripted
    : ∃ (state : TracedSeason) (ledger : RoundLedger),
        EnteredRound state ledger
        ∧ Reached SeasonScripted state.system
        ∧ ScriptReady patientCycle ⟨state.system, roundEndTime 0⟩ ledger := by
  obtain ⟨state, replayed⟩ := Option.isSome_iff_exists.mp
    (show (replay tracedSeason SeasonDocumented sampleDeployment.traced
      enteredSeasonScript).isSome by decide +kernel)
  obtain ⟨ledger, entered⟩ := enteredRound_of_replay replayed
  have ready := entered.ready
  have run := (Run.of_replay replayed).of_forall enteredSeasonScript_beside
  exact ⟨state, ledger, entered, ⟨_, _, _, sampleDeployment_fresh,
    run.mono fun _ _ => BesideReveals.scripted⟩, ready.may, ready.minted, ready.offsets,
    ready.alone⟩

/-- Whatever round such a season shows as revealed, it shows the best three of its entries. -/
theorem script_ranks_best (reached : Reached SeasonScripted world.deployment)
    (found : world.deployment.rounds.lookup key = some ledger)
    (revealed : ledger.round.scoringRevealed)
    : AllScored ledger ∧ ledger.round.tops = ledger.podiumTops := by
  obtain ⟨start, history, journal, fresh, run⟩ := reached
  have documented := scripted_documented fresh run
  exact ⟨((attested_of_run fresh documented).known key ledger found).scored revealed,
    ((championship_of_run fresh documented).known key ledger found).winners revealed⟩

/-- The first run for the season with two players shows the best of them. -/
theorem enteredSeasonScript_ranks
    : ∃ (ended : CycleEnd) (next : RoundLedger),
        ended.world.deployment.rounds.lookup 1 = some next
        ∧ next.round.scoringRevealed
        ∧ AllScored next
        ∧ next.round.tops = next.podiumTops := by
  obtain ⟨state, ledger, entered, reached, ready⟩ := enteredSeasonScript_scripted
  have cycle := ready.cycleReady reached entered.found
  obtain ⟨run, held, begun⟩ := runCycle_begins reached entered.current entered.found
    ready.may.operator
  obtain ⟨ended, success, outcome⟩ := begun.ends reached.documented entered.current cycle
  obtain ⟨_, advanced⟩ := outcome.answered (fun _ => entered.endTime.le) (patientCycle_answered 1)
  obtain ⟨next, found, finished⟩ := advanced.ended
  have revealed := finished.revealed (by simp [entered.opened]) (by simp [entered.entered])
  exact ⟨ended, next, found, revealed,
    script_ranks_best (reached.onward (onward_of_runCycle reached success)) found revealed⟩

end SecretGarden.AutoCycle
