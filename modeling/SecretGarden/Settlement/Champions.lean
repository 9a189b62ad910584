import SecretGarden.Bracket.Reranking
import SecretGarden.Settlement.Ranked

/-! The winners of a revealed round over its whole life. Entries join, scores arrive late or
twice, flowers are given back and pots are paid while the tournament is pinned, restarted and
played; the winners it writes are still the best three of all entries.
-/

namespace SecretGarden.Settlement

open Foundation SecretGarden.Bracket

variable {ledger after : RoundLedger} {submission : RoundSubmission} {state : TracedRound}

--------------------------------------------------------------------------------
-- What entries are ranked by
--------------------------------------------------------------------------------

/-- Writing one entry keeps all rarities, unless the entry was there and changes its own. -/
theorem rarityKept_of_insert {entryKey key : Pubkey} {written entry : CompetitionEntry}
    (entries : after.entries = ledger.entries.insert entryKey written)
    (kept
      : ∀ {old}, ledger.entries.lookup entryKey = some old
        → written.raritySnapshot = old.raritySnapshot)
    (found : ledger.entries.lookup key = some entry)
    : ∃ later, after.entries.lookup key = some later
        ∧ later.raritySnapshot = entry.raritySnapshot := by
  rw [entries, Store.lookup_insert_apply]
  split
  · next here =>
      subst here
      exact ⟨written, rfl, kept found⟩
  · exact ⟨entry, found, rfl⟩

/-- No accepted instruction changes the rarity an entry was submitted with. -/
theorem roundStep_rarity (success : roundStep ledger submission = .ok after) {key : Pubkey}
    {entry : CompetitionEntry} (found : ledger.entries.lookup key = some entry)
    : ∃ later, after.entries.lookup key = some later
        ∧ later.raritySnapshot = entry.raritySnapshot := by
  have unchanged (entries : after.entries = ledger.entries)
      : ∃ later, after.entries.lookup key = some later
          ∧ later.raritySnapshot = entry.raritySnapshot :=
    ⟨entry, by rwa [entries], rfl⟩
  cases roundStep_change success with
  | kept entries round => exact unchanged entries
  | entered asked checks entries round =>
      exact rarityKept_of_insert entries
        (fun held => absurd (checks.unused.symm.trans held) (by simp)) found
  | closed opened entries round => exact unchanged entries
  | finalized closed entries round => exact unchanged entries
  | attempted attempt entries round =>
      refine rarityKept_of_insert entries (fun held => ?_) found
      obtain ⟨_, _, _, rfl⟩ := attempt.later
      cases attempt.found.symm.trans held
      rfl
  | scored present own unscored entries round =>
      refine rarityKept_of_insert entries (fun held => ?_) found
      cases present.symm.trans held
      rfl
  | released asked checks entries round =>
      refine rarityKept_of_insert entries (fun held => ?_) found
      cases checks.found.symm.trans held
      rfl
  | revealed asked entries round => exact unchanged entries
  | elsewhere unused foreign entries round =>
      exact rarityKept_of_insert entries
        (fun held => absurd (unused.symm.trans held) (by simp)) found

/-- A scored entry stands where it stood. -/
theorem roundStep_standing (success : roundStep ledger submission = .ok after) {key : Pubkey}
    {entry : CompetitionEntry} (found : ledger.entries.lookup key = some entry)
    (scored : entry.scored)
    : standings after.entries [key] = standings ledger.entries [key] := by
  obtain ⟨later, held, _, score, _⟩ := roundStep_scoresKept success key entry found scored
  obtain ⟨other, same, rarity⟩ := roundStep_rarity success found
  cases held.symm.trans same
  exact standings_alike found held score rarity

/-- Once all entries are scored, their field and their standings stay. -/
theorem AllScored.ranking (all : AllScored ledger) (ended : ledger.round.status ≠ .opened)
    (success : roundStep ledger submission = .ok after)
    : after.roundEntries.Perm ledger.roundEntries
      ∧ ∀ key ∈ ledger.roundEntries,
          standings after.entries [key] = standings ledger.entries [key] := by
  constructor
  · rcases roundStep_entries success with ⟨_, entryKey, entered⟩ | ⟨entries, _⟩
    · exact absurd entered.opened ended
    · exact entries
  · intro key member
    obtain ⟨entry, found, own⟩ := mem_roundEntries.mp member
    exact roundStep_standing success found (all.scored found own)

--------------------------------------------------------------------------------
-- The invariant
--------------------------------------------------------------------------------

/-- Instructions of the reveal read the circuit's output, and promoted brackets are collected by
the semifinal instruction, as documented.
-/
def RoundDocumented (state : TracedRound) (submission : RoundSubmission) : Prop :=
  match submission.instruction with
  | .reveal instruction => DocumentedRead (revealOf state) ⟨submission.env, instruction⟩
  | _ => True

instance (state : TracedRound) (submission : RoundSubmission)
    : Decidable (RoundDocumented state submission) := by
  unfold RoundDocumented
  generalize submission.instruction = instruction
  rcases instruction <;> infer_instance

/-- The three best entries of the round, in the places of a revealed round. -/
def RoundLedger.podiumTops (ledger : RoundLedger) : List Pubkey :=
  (List.range revealTopK).map fun place =>
    ((podium ledger.entries ledger.roundEntries)[place]?).getD 0

/-- The tournament computes the podium, and a revealed round shows it. -/
structure Championship (state : TracedRound) : Prop where
  exact : TournamentExact (revealOf state)
  sliced : state.journal.sliced.isSome → state.system.bracket.isSome
  winners : state.system.round.scoringRevealed
    → state.system.round.tops = state.system.podiumTops

theorem RoundLedger.Opened.championship (opened : ledger.Opened)
    : Championship ⟨ledger, .blank⟩ := by
  refine ⟨opened.unstarted.exact, fun sliced => ?_, fun revealed => ?_⟩
  · cases sliced
  · refine absurd (opened.crowned.ended revealed) ?_
    obtain ⟨_, _, _, _, round⟩ := opened.round
    simp [round, openedRound]

/-- A round with its reveal, as the reveal's own start. -/
theorem Attested.followed (known : Attested state)
    : Followed state.system.toRevealLedger (revealOf state) :=
  ⟨rfl, rfl, rfl, known.traced.formed, known.traced.admitted⟩

/-- An applied bracket writes the podium of the round. -/
theorem Championship.applies (known : Championship state) (attested : Attested state)
    {env : Env} {resultIndex : Nat} {revealed : RevealLedger}
    (reads : ReadsOutput (revealOf state) ⟨env, .applyBracketResult resultIndex⟩)
    (success : applyBracketResult env resultIndex state.system.toRevealLedger = .ok revealed)
    : revealed.round.tops = state.system.podiumTops := by
  have entered := attested.sound.counted.symm
  obtain ⟨bracket, result, top, checks, resolved, rfl⟩ := applyBracketResult_eq_ok.mp success
  obtain ⟨drawn, best, single⟩ := finalists_podium attested.followed attested.traced.marked
    known.exact entered checks.found checks.collected
  have written : top = podium state.system.entries state.system.roundEntries := by
    by_cases one : bracket.shardCount = 1
    · obtain ⟨_, unqueued, rfl⟩ := (resolveTop_single one).mp resolved
      rw [single one unqueued]
      exact List.take_of_length_le (length_podium_le _ _)
    · exact (final_podium attested.traced.formed attested.traced.marked drawn checks one resolved
        reads).trans best
  rw [RoundLedger.podiumTops, ← written]
  rfl

/-- The tournament stays exact at every accepted instruction: those of the reveal record podiums,
and the others come before it or leave its entries where they stand.
-/
theorem Championship.exact_of_step (known : Championship state) (attested : Attested state)
    (documented : RoundDocumented state submission)
    (success : roundStep state.system submission = .ok after)
    : TournamentExact
        (revealOf ⟨after, noteReveal state.system submission state.journal⟩) := by
  rcases roundStep_reveal_or_beside success with
    ⟨env, instruction, revealed, rfl, accepted, rfl⟩ | ⟨other, kept⟩
  · exact known.exact.step attested.traced.marked attested.followed
      attested.sound.counted.symm documented accepted
  · rw [noteReveal_other other]
    by_cases begun : state.system.bracket.isSome ∨ state.system.tier1.isSome
    · obtain ⟨ended, all⟩ := attested.gate begun
      obtain ⟨field, alike⟩ := all.ranking ended success
      exact known.exact.reranked field alike kept.bracket kept.tier1
    · simp only [not_or, Bool.not_eq_true, Option.isSome_eq_false_iff,
        Option.isNone_iff_eq_none] at begun
      have unsliced : state.journal.sliced = none := by
        rw [← Option.not_isSome_iff_eq_none]
        intro sliced
        simpa [begun.1] using known.sliced sliced
      exact tournamentExact_of_none (kept.bracket.trans begun.1) (kept.tier1.trans begun.2)
        unsliced

/-- A round's podium stays once all its entries are scored. -/
theorem AllScored.podiumTops (all : AllScored ledger) (ended : ledger.round.status ≠ .opened)
    (success : roundStep ledger submission = .ok after)
    : after.podiumTops = ledger.podiumTops := by
  obtain ⟨field, alike⟩ := all.ranking ended success
  have same : podium after.entries after.roundEntries
      = podium ledger.entries ledger.roundEntries := by
    rw [podium_perm field, podium_congr alike]
  rw [RoundLedger.podiumTops, same, RoundLedger.podiumTops]

/-- A revealed round shows its podium: it was just written, or nothing about it changed. -/
theorem Championship.winners_of_step (known : Championship state) (attested : Attested state)
    (documented : RoundDocumented state submission)
    (success : roundStep state.system submission = .ok after)
    (revealed : after.round.scoringRevealed) : after.round.tops = after.podiumTops := by
  rcases roundStep_winners success with ⟨env, resultIndex, rfl, ledger, accepted, same⟩ | kept
  · obtain ⟨_, _, _, checks, _⟩ := applyBracketResult_eq_ok.mp accepted
    obtain ⟨ended, all⟩ := attested.gate (.inl (by simp [checks.found]))
    rw [all.podiumTops ended success, same]
    exact known.applies attested documented.1 accepted
  · have before : state.system.round.scoringRevealed := kept.revealed ▸ revealed
    rw [kept.tops, known.winners before]
    exact ((attested.scored before).podiumTops (attested.crowned.ended before) success).symm

/-- Every accepted instruction keeps the championship. -/
theorem Championship.step (known : Championship state) (attested : Attested state)
    (documented : RoundDocumented state submission)
    (success : roundStep state.system submission = .ok after)
    : Championship ⟨after, noteReveal state.system submission state.journal⟩ := by
  refine ⟨known.exact_of_step attested documented success, fun sliced => ?_,
    known.winners_of_step attested documented success⟩
  rcases roundStep_reveal_or_beside success with
    ⟨env, instruction, revealed, rfl, accepted, rfl⟩ | ⟨other, kept⟩
  · exact note_sliced known.sliced accepted sliced
  · rw [noteReveal_other other] at sliced
    exact kept.bracket ▸ known.sliced sliced

end SecretGarden.Settlement
