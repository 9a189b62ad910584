import SecretGarden.AutoCycle.Resumption
import SecretGarden.Season.Champions
import SecretGarden.Settlement.Conducted

/-! One more run of the reveal takes over a round of a season, wherever the season's own history
left it.
-/

namespace SecretGarden.AutoCycle

open Foundation SecretGarden.Bracket SecretGarden.Settlement SecretGarden.Season

/-- Every round of a season is conducted throughout every run. -/
theorem conducted_of_run {start : Deployment} (fresh : start.Fresh)
    {condition : TracedSeason → SeasonSubmission → Prop} {history : List SeasonSubmission}
    {state : TracedSeason} (run : Run tracedSeason condition start.traced history state)
    : EachRound Conducted state := by
  refine run.invariant_with (fun run => attested_of_run fresh run) (fresh.eachRound _) ?_
  intro before submission after attested each _ success
  refine each.step (fun _ opened => opened.conducted) ?_ success
  exact fun key _ ledger _ _ found known moved =>
    known.step (attested.known key ledger found) moved

/-- What a documented season has established of a round, with the round itself as the start. -/
theorem established_of_season {state : TracedRound} (attested : Attested state)
    (championship : Championship state) (conducted : Conducted state)
    : Established state.system.toRevealLedger (revealOf state) :=
  { followed := attested.followed
    marked := attested.traced.marked
    exact := championship.exact
    tracked := conducted.tracked
    upkept := conducted.upkept
    stamped := conducted.stamped
    round := fun _ => rfl }

/-- Once every entry is scored, the round's count of them is complete. -/
theorem complete_of_allScored {ledger : RoundLedger} (all : AllScored ledger)
    (tallied : Tallied ledger) : ledger.round.scoredCount = ledger.round.participantCount := by
  rw [tallied.counted, ← all.counted]
  refine le_antisymm (scoredEntries_sublist ledger).length_le ?_
  refine ((Store.keysWhere_nodup _ _).subperm fun key member => ?_).length_le
  obtain ⟨entry, found, own⟩ := mem_roundEntries.mp member
  exact Store.mem_keysWhere.mpr ⟨entry, found, by simp [own, all.scored found own]⟩

/-- A round that is over and fully scored can be revealed, from its entries in any order. -/
theorem Attested.revealable {state : TracedRound} (attested : Attested state)
    (rankable : Rankable state.system) (unrevealed : state.system.round.scoringRevealed = false)
    (entered : state.system.round.participantCount ≠ 0) {entryKeys : List Pubkey}
    (listed : entryKeys.Perm state.system.roundEntries)
    : Revealable state.system.toRevealLedger (sortEntriesByteWise entryKeys) := by
  have sorting : (sortEntriesByteWise entryKeys).Perm state.system.roundEntries :=
    (List.perm_insertionSort _ _).trans listed
  have length : (sortEntriesByteWise entryKeys).length = state.system.round.participantCount :=
    sorting.length_eq.trans attested.sound.counted.symm
  obtain ⟨ended, all⟩ := rankable
  exact
    { ended := by
        cases status : state.system.round.status with
        | opened => exact absurd status ended
        | closed => exact .inl rfl
        | finalized => exact .inr rfl
      unrevealed := unrevealed
      counted := complete_of_allScored all attested.tallied
      scored := fun key member entry found => by
        obtain ⟨other, present, own⟩ := mem_roundEntries.mp member
        cases present.symm.trans found
        exact all.scored found own
      filled := length ▸ Nat.one_le_iff_ne_zero.mpr entered
      fits := length ▸ attested.tallied.seated
      ascending := insertionSort_ascending
        (listed.nodup_iff.mpr (Store.keysWhere_nodup _ _))
      same := sorting
      participants := length }

variable {start : RevealLedger} {state : JournaledReveal} {deps : BracketRevealDeps}

/-- The script reveals a round that can be revealed, where what it will trust belongs together. -/
theorem Established.reveals (established : Established start state) {entryKeys : List Pubkey}
    (revealable : Revealable state.system (sortEntriesByteWise entryKeys))
    (alone : RunsAlone deps state.system) (resumable : Resumable entryKeys state.system)
    : ∃ after,
        runBracketReveal deps entryKeys state.system = .ok after
        ∧ after.round.scoringRevealed := by
  have length : (sortEntriesByteWise entryKeys).length = entryKeys.length :=
    (List.perm_insertionSort _ _).length_eq
  obtain ⟨plan, success, planned⟩ :=
    planBracket_succeeds (length ▸ revealable.filled) (length ▸ revealable.fits)
  have standing := resumable plan (by rw [success]; rfl)
  have tier := planned.tier
  have gathers : ∃ gathered bracket,
      runTiers deps plan state.system = .ok gathered ∧ EndgameReady deps bracket gathered := by
    rw [runTiers]
    by_cases large : singleTierCapacity < (sortEntriesByteWise entryKeys).length
    · rw [if_pos large] at tier
      rw [tier] at standing ⊢
      exact twoTier_resumes alone established revealable planned large standing
    · rw [if_neg large] at tier
      rw [tier] at standing ⊢
      exact singleTier_resumes alone established revealable planned (not_lt.mp large) standing
  obtain ⟨gathered, bracket, reached, ready⟩ := gathers
  obtain ⟨after, finished, revealed⟩ := ready.runEndgame_succeeds alone.allowed alone.prompt
  refine ⟨after, bind_eq_ok.mpr ⟨plan, ?_, bind_eq_ok.mpr ⟨gathered, reached, finished⟩⟩, revealed⟩
  rw [success]
  rfl

/-- A reveal that has not begun can go on. -/
theorem resumable_of_unstarted {ledger : RevealLedger} (unstarted : ledger.Unstarted)
    (entryKeys : List Pubkey) : Resumable entryKeys ledger := by
  intro plan _
  have idle (target : ResultAddress) : Idle ledger target := by
    intro computationOffset computation queued
    rw [unstarted.computations] at queued
    cases queued
  have vacant (target : ResultAddress) : (ledger.results.lookup target).isNone := by
    rw [unstarted.results]
    rfl
  split
  · rw [TwoTierResumable, if_neg (by simp [unstarted.tier1])]
    exact ⟨⟨fun _ _ _ => vacant _, by simp [unstarted.tier1]⟩, fun _ _ => vacant _, idle _⟩
  · intro bracket held
    rw [unstarted.bracket] at held
    cases held

end SecretGarden.AutoCycle
