import SecretGarden.AutoCycle.Revealing
import SecretGarden.AutoCycle.ScoreStage

/-! The reveal stage: a round that is over and fully scored is revealed, wherever an earlier run
left its reveal.
-/

namespace SecretGarden.AutoCycle

open Foundation SecretGarden.Bracket SecretGarden.Settlement SecretGarden.Season

variable {deps : CycleDeps} {key : RoundKey} {world : CycleWorld} {ledger next : RoundLedger}

/-- A reveal leaves the round's entries and its place in the lifecycle. -/
structure SameRound (ledger after : RevealLedger) : Prop where
  entries : after.entries = ledger.entries
  roundId : after.round.roundId = ledger.round.roundId
  status : after.round.status = ledger.round.status
  participants : after.round.participantCount = ledger.round.participantCount

theorem SameRound.refl (ledger : RevealLedger) : SameRound ledger ledger := ⟨rfl, rfl, rfl, rfl⟩

theorem SameRound.trans {first second third : RevealLedger} (earlier : SameRound first second)
    (later : SameRound second third) : SameRound first third :=
  ⟨later.entries.trans earlier.entries, later.roundId.trans earlier.roundId,
    later.status.trans earlier.status, later.participants.trans earlier.participants⟩

theorem sameRound_of_driven {script : BracketRevealDeps} {plan : BracketPlan}
    {before after : RevealLedger} (driven : Driven script plan before after)
    : SameRound before after := by
  obtain ⟨history, run⟩ := driven
  refine run.invariant (.refl before) fun known _ success => known.trans ?_
  obtain ⟨entries, same | ⟨resultIndex, top, _, revealed⟩⟩ := revealStep_framed success
  · exact ⟨entries, by rw [same], by rw [same], by rw [same]⟩
  · exact ⟨entries, by rw [revealed]; rfl, by rw [revealed]; rfl, by rw [revealed]; rfl⟩

/-- The reveal's offsets are apart and unused, and its callbacks land before a wait is over. -/
structure RevealsAlone (deps : CycleDeps) (ledger : RoundLedger) : Prop where
  apart : Function.Injective deps.revealOffset
  free : ∀ target, ledger.computations.lookup (deps.revealOffset target) = none
  prompt : ∀ ledger : RevealLedger, ∀ computationOffset,
    (ledger.computations.lookup computationOffset).isSome
    → computationOffset ∈ deps.revealLate ledger

theorem RevealsAlone.runsAlone (alone : RevealsAlone deps ledger) (may : MayScore deps world)
    : RunsAlone (deps.revealDeps key world) ledger.toRevealLedger :=
  ⟨fun _ => ⟨may.unpaused, may.operator⟩, alone.apart, alone.free, alone.prompt⟩

/-- What the stage starts from. -/
structure RevealDue (deps : CycleDeps) (ledger : RoundLedger) : Prop where
  rankable : Rankable ledger
  unfinished : ledger.round.status ≠ .finalized
  unrevealed : ledger.round.scoringRevealed = false
  entered : ledger.round.participantCount ≠ 0
  alone : RevealsAlone deps ledger
  resumable : Resumable (deps.listing ledger) ledger.toRevealLedger

/-- Only the reveal moved, and it is over. -/
structure Revealed (ledger next : RoundLedger) : Prop where
  frame : next = { ledger with toRevealLedger := next.toRevealLedger }
  same : SameRound ledger.toRevealLedger next.toRevealLedger
  revealed : next.round.scoringRevealed

/-- Where everything is scored, the listed entries are the round's. -/
theorem scored_entriesForRound (deps : CycleDeps) (all : AllScored ledger)
    : ((entriesForRound deps ledger).filter fun entry => entry.2.scored)
      = entriesForRound deps ledger := by
  refine List.filter_eq_self.mpr fun listed member => ?_
  obtain ⟨found, own⟩ := mem_entriesForRound.mp member
  exact all.scored found own

/-- The script reveals what can be revealed. -/
theorem revealStage_reveals {run : CycleRun}
    (reached : Reached SeasonDocumented run.world.deployment) (may : MayScore deps run.world)
    (found : run.world.deployment.rounds.lookup key = some ledger) (due : RevealDue deps ledger)
    : ∃ after next,
        revealStage deps key run = .ok after
        ∧ Moved anyAction key Revealed run.world after.world
        ∧ after.world.now = run.world.now
        ∧ after.world.deployment.rounds.lookup key = some next
        ∧ Revealed ledger next
        ∧ after.summary = { run.summary with top3 := topWallets deps next } := by
  obtain ⟨start, history, journal, fresh, season⟩ := reached
  have attested := (attested_of_run fresh season).known key ledger found
  have championship := (championship_of_run fresh season).known key ledger found
  have conducted := (conducted_of_run fresh season).known key ledger found
  have established := established_of_season attested championship conducted
  have listed := deps.listing_perm ledger
  have revealable := Attested.revealable attested due.rankable due.unrevealed due.entered listed
  have alone : RunsAlone (deps.revealDeps key run.world) ledger.toRevealLedger :=
    due.alone.runsAlone may
  obtain ⟨revealed, success, past⟩ :
      ∃ revealed, runBracketReveal (deps.revealDeps key run.world) (deps.listing ledger)
          ledger.toRevealLedger = .ok revealed
        ∧ revealed.round.scoringRevealed :=
    established.reveals revealable alone due.resumable
  let next := { ledger with toRevealLedger := revealed }
  obtain ⟨plan, planned, driven⟩ := driven_of_runBracketReveal success
  rw [planBracket_perm listed] at planned
  have unlike : revealed ≠ ledger.toRevealLedger := by
    rintro rfl
    cases past.symm.trans due.unrevealed
  have moved := ((moved_of_driven found planned driven).resolve_left unlike).any
  have ended : Revealed ledger next := ⟨rfl, sameRound_of_driven driven, past⟩
  have scored := scored_entriesForRound deps due.rankable.2
  have count : (entriesForRound deps ledger).length = ledger.round.participantCount := by
    rw [← List.length_map Prod.fst, keys_entriesForRound]
    exact listed.length_eq.trans attested.sound.counted.symm
  have held : roundAt key (run.world.withReveal key ledger revealed) = .ok next := by
    rw [roundAt, withReveal_eq, lookup_put]
    rfl
  let summary := { run.summary with top3 := topWallets deps next }
  refine ⟨⟨summary, run.world.withReveal key ledger revealed⟩, next, ?_, ?_, rfl, lookup_put next,
    ended, rfl⟩
  · have read : roundAt key run.world = .ok ledger := by
      rw [roundAt, found]
      rfl
    have complete := complete_of_allScored due.rankable.2 attested.tallied
    simp only [revealStage, bind_of_ok read, due.unfinished, due.unrevealed, due.entered,
      Bool.false_eq_true, if_false, scored, count, keys_entriesForRound]
    refine bind_eq_ok.mpr ⟨(), require_eq_ok.mpr complete, ?_⟩
    refine bind_eq_ok.mpr ⟨(), require_eq_ok.mpr trivial, ?_⟩
    refine bind_eq_ok.mpr ⟨revealed, by rw [success]; rfl, ?_⟩
    refine bind_eq_ok.mpr ⟨next, held, ?_⟩
    exact bind_eq_ok.mpr ⟨(), require_eq_ok.mpr past, rfl⟩
  · refine ⟨moved.onward, moved.config, moved.others, fun _ present => ?_⟩
    cases found.symm.trans present
    exact ⟨next, lookup_put next, ended⟩

end SecretGarden.AutoCycle
