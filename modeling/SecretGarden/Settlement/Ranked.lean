import Mathlib.Logic.Relation
import SecretGarden.Bracket.Distinct
import SecretGarden.Bracket.Quotas
import SecretGarden.Settlement.Scoring

/-! The winners of a revealed round: one entry for each of the first three places that has a
participant, all of them different when every result that was read is the circuit's output.
-/

namespace SecretGarden.Settlement

open Foundation SecretGarden.Bracket

/-- What an accepted instruction adds to the history of the round's reveal. -/
def noteReveal (ledger : RoundLedger) (submission : RoundSubmission) (journal : Journal)
    : Journal :=
  match submission.instruction with
  | .reveal instruction => note ledger.toRevealLedger ⟨submission.env, instruction⟩ journal
  | _ => journal

/-- Instructions beside the reveal add nothing. -/
theorem noteReveal_other {ledger : RoundLedger} {submission : RoundSubmission}
    {journal : Journal}
    (other : ∀ instruction, submission.instruction ≠ .reveal instruction)
    : noteReveal ledger submission journal = journal := by
  unfold noteReveal
  split
  · next instruction same => exact absurd same (other instruction)
  · rfl

abbrev TracedRound : Type := Journaled RoundLedger Journal

/-- The reveal of a round. -/
def revealOf (state : TracedRound) : JournaledReveal :=
  ⟨state.system.toRevealLedger, state.journal⟩

/-- A result the reveal reads is the circuit's output on a run queued for it under the partition
in force.
-/
def RoundReadsOutput (state : TracedRound) (submission : RoundSubmission) : Prop :=
  match submission.instruction with
  | .reveal instruction => ReadsOutput (revealOf state) ⟨submission.env, instruction⟩
  | _ => True

instance (state : TracedRound) (submission : RoundSubmission)
    : Decidable (RoundReadsOutput state submission) := by
  unfold RoundReadsOutput
  generalize submission.instruction = instruction
  rcases instruction <;> infer_instance

variable {ledger after : RoundLedger} {journal : Journal} {submission : RoundSubmission}

/-- Entries that join leave the admitted runs as they are. -/
theorem RunsAdmitted.join {ledger after : RevealLedger}
    (known : RunsAdmitted ⟨ledger, journal⟩)
    (entries : ∀ key ∈ ledger.roundEntries, key ∈ after.roundEntries)
    (bracket : after.bracket = ledger.bracket) (tier1 : after.tier1 = ledger.tier1)
    : RunsAdmitted ⟨after, journal⟩ := by
  refine ⟨known.bounded, known.pinned, known.apart, fun partition held => ?_, ?_⟩
  · refine known.started partition ?_
    cases partition with
    | bracket => exact (congrArg Option.isSome bracket).symm.trans held
    | tier1 => exact (congrArg Option.isSome tier1).symm.trans held
  · intro partition layout named record listed pin index inside target
    have before : declaredLayout ⟨ledger, journal⟩ partition = some layout := by
      cases partition with
      | bracket => simpa only [declaredLayout, bracket] using named
      | tier1 => simpa only [declaredLayout, tier1] using named
    obtain ⟨admitted, entered⟩ := known.admitted before record listed pin index inside target
    exact ⟨admitted, fun key member => entries key (entered key member)⟩

/-- What a round's reveal has recorded, whatever the results held. -/
structure Traced (state : TracedRound) : Prop where
  formed : WellFormed (revealOf state)
  admitted : RunsAdmitted (revealOf state)
  marked : RunsMarked (revealOf state)
  quotas : QuotasMet state.system.toRevealLedger

theorem RoundLedger.Opened.traced (opened : ledger.Opened) : Traced ⟨ledger, .blank⟩ :=
  ⟨opened.unstarted.wellFormed, opened.unstarted.runsAdmitted, opened.unstarted.runsMarked,
    quotasMet_of_none opened.unstarted.bracket opened.unstarted.tier1⟩

variable {state : TracedRound}

/-- Instructions beside the reveal keep its records. -/
theorem Traced.other (known : Traced state) (crowned : Crowned state.system)
    (success : roundStep state.system submission = .ok after)
    (kept : PartitionsKept state.system after)
    : Traced ⟨after, state.journal⟩ := by
  have advanced := roundStep_advanced success
  have entries (key : Pubkey) (member : key ∈ state.system.roundEntries)
      : key ∈ after.roundEntries :=
    advanced.mem_roundEntries member
  refine ⟨crowned.formed_of_step known.formed success kept,
    RunsAdmitted.join known.admitted entries kept.bracket kept.tier1, ?_, ?_⟩
  · refine known.marked.quiet ⟨fun _ => id, rfl, rfl⟩ rfl ?_ fun stored =>
      ⟨_, kept.bracket ▸ stored, rfl, rfl⟩
    rintro (_ | _) k ⟨account, held, marked⟩
    · exact ⟨account, kept.bracket ▸ held, marked⟩
    · exact ⟨account, kept.tier1 ▸ held, marked⟩
  · rcases crowned.participants_of_step success with same | ⟨bracket, tier1⟩
    · exact known.quotas.quiet same
        (fun stored => ⟨_, kept.bracket ▸ stored, rfl, rfl, rfl, rfl⟩)
        fun stored => kept.tier1 ▸ stored
    · exact quotasMet_of_none (kept.bracket.trans bracket) (kept.tier1.trans tier1)

/-- Every accepted instruction keeps the reveal's records. -/
theorem Traced.step (known : Traced state) (crowned : Crowned state.system)
    (success : roundStep state.system submission = .ok after)
    : Traced ⟨after, noteReveal state.system submission state.journal⟩ := by
  rcases roundStep_reveal_or_beside success with
    ⟨env, instruction, revealed, rfl, accepted, rfl⟩ | ⟨other, kept⟩
  · exact ⟨known.formed.step accepted, known.admitted.step known.formed accepted,
      known.marked.step known.formed known.admitted accepted,
      known.quotas.step known.formed accepted⟩
  · rw [noteReveal_other other]
    exact known.other crowned success kept

--------------------------------------------------------------------------------
-- Places and winners
--------------------------------------------------------------------------------

/-- The first three places that have a participant are filled, by entries of the round. -/
structure PlacesFilled (ledger : RoundLedger) : Prop where
  filled : ∀ {place key : Nat}, ledger.round.tops[place]? = some key
    → (key ≠ 0 ↔ place < min revealTopK ledger.round.participantCount)
  entered : ∀ key ∈ ledger.round.tops, key ≠ 0 → key ∈ ledger.roundEntries

/-- No entry fills two places. -/
def WinnersDistinct (round : CompetitionRound) : Prop :=
  ∀ first second key : Nat,
    round.tops[first]? = some key → round.tops[second]? = some key → key ≠ 0 → first = second

/-- A place holds the winner that was written there, or none. -/
theorem tops_revealedRound {round : CompetitionRound} {top : List Pubkey} {place key : Nat}
    (held : (revealedRound round top).tops[place]? = some key)
    : place < revealTopK ∧ key = top[place]?.getD 0 := by
  match place, held with
  | 0, held => exact ⟨by decide, (Option.some.inj held).symm⟩
  | 1, held => exact ⟨by decide, (Option.some.inj held).symm⟩
  | 2, held => exact ⟨by decide, (Option.some.inj held).symm⟩

/-- A filled place holds the winner that was written there. -/
theorem getElem?_of_tops {round : CompetitionRound} {top : List Pubkey} {place key : Nat}
    (held : (revealedRound round top).tops[place]? = some key) (named : key ≠ 0)
    : top[place]? = some key := by
  obtain ⟨_, rfl⟩ := tops_revealedRound held
  cases found : top[place]? with
  | none => simp [found] at named
  | some winner => rfl

/-- Distinct winners fill distinct places. -/
theorem winnersDistinct_revealedRound {round : CompetitionRound} {top : List Pubkey}
    (distinct : top.Nodup) : WinnersDistinct (revealedRound round top) := by
  intro first second key held held' named
  have found := getElem?_of_tops held named
  have found' := getElem?_of_tops held' named
  have inside := (List.getElem?_eq_some_iff.mp found).1
  exact (List.getElem?_inj inside distinct).mp (found.trans found'.symm)

/-- As many winners as there are places with a participant, all of them entries, fill them. -/
theorem placesFilled_of_revealed (sound : Sound ledger) {top : List Pubkey}
    (round : after.round = revealedRound ledger.round top)
    (entries : after.roundEntries = ledger.roundEntries)
    (length : top.length = min revealTopK ledger.round.participantCount)
    (entered : ∀ key ∈ top, key ∈ ledger.roundEntries) : PlacesFilled after := by
  have participants : after.round.participantCount = ledger.round.participantCount := by
    rw [round]
    rfl
  constructor
  · intro place key held
    rw [round] at held
    rw [participants, ← length]
    constructor
    · exact fun named => (List.getElem?_eq_some_iff.mp (getElem?_of_tops held named)).1
    · intro inside
      obtain ⟨_, rfl⟩ := tops_revealedRound held
      rw [List.getElem?_eq_getElem inside, Option.getD_some]
      exact sound.addressed _ (entered _ (List.getElem_mem inside))
  · intro key member named
    rw [round] at member
    obtain ⟨place, held⟩ := List.mem_iff_getElem?.mp member
    rw [entries]
    exact entered key (List.mem_of_getElem? (getElem?_of_tops held named))

/-- Places stay filled while winners, participants and entries stay. -/
theorem PlacesFilled.keep (known : PlacesFilled ledger)
    (tops : after.round.tops = ledger.round.tops)
    (participants : after.round.participantCount = ledger.round.participantCount)
    (entries : ∀ key ∈ ledger.roundEntries, key ∈ after.roundEntries) : PlacesFilled after := by
  refine ⟨fun held => ?_, fun key member named => ?_⟩
  · rw [participants]
    exact known.filled (tops ▸ held)
  · exact entries key (known.entered key (tops ▸ member) named)

/-- A revealed round is over. -/
theorem Crowned.ended (crowned : Crowned ledger) (revealed : ledger.round.scoringRevealed)
    : ledger.round.status ≠ .opened := by
  intro opened
  rw [(crowned.early opened).2.2] at revealed
  cases revealed

/-- A round that is over keeps its participants. -/
theorem roundStep_participants (success : roundStep ledger submission = .ok after)
    (ended : ledger.round.status ≠ .opened)
    : after.round.participantCount = ledger.round.participantCount := by
  rcases roundStep_entries success with ⟨_, entryKey, entered⟩ | ⟨_, participants⟩
  · exact absurd entered.opened ended
  · exact participants

/-- A revealed round keeps its winners: a bracket is applied to an unrevealed round only. -/
theorem roundStep_revealed (success : roundStep ledger submission = .ok after)
    (revealed : ledger.round.scoringRevealed) : RevealKept ledger after := by
  refine roundStep_revealKept success fun resultIndex same => ?_
  obtain ⟨env, _⟩ := submission
  obtain rfl := same
  obtain ⟨applied, accepted, _⟩ := bind_eq_ok.mp success
  obtain ⟨_, _, _, checks, _⟩ := applyBracketResult_eq_ok.mp accepted
  have unrevealed := checks.unrevealed
  rw [revealed] at unrevealed
  cases unrevealed

/-- What becomes of the winners: they were written by an applied bracket, or stay. -/
theorem roundStep_winners (success : roundStep ledger submission = .ok after)
    : (∃ env resultIndex,
        submission = ⟨env, .reveal (.applyBracketResult resultIndex)⟩
        ∧ ∃ revealed,
            applyBracketResult env resultIndex ledger.toRevealLedger = .ok revealed
            ∧ after = { ledger with toRevealLedger := revealed })
      ∨ RevealKept ledger after := by
  by_cases applies : ∃ resultIndex,
      submission.instruction = .reveal (.applyBracketResult resultIndex)
  · obtain ⟨env, _⟩ := submission
    obtain ⟨resultIndex, rfl⟩ := applies
    obtain ⟨revealed, accepted, done⟩ := bind_eq_ok.mp success
    exact .inl ⟨env, resultIndex, rfl, revealed, accepted, (pure_eq_ok.mp done).symm⟩
  · exact .inr (roundStep_revealKept success fun resultIndex same =>
      applies ⟨resultIndex, same⟩)

/-- A revealed round has its places filled, whatever the results held. -/
theorem placesFilled_of_step (traced : Traced state) (crowned : Crowned state.system)
    (sound : Sound state.system)
    (known : state.system.round.scoringRevealed → PlacesFilled state.system)
    (success : roundStep state.system submission = .ok after)
    (revealed : after.round.scoringRevealed) : PlacesFilled after := by
  rcases roundStep_winners success with ⟨env, resultIndex, rfl, ledger, accepted, rfl⟩ | kept
  · obtain ⟨bracket, result, top, checks, resolved, rfl⟩ :=
      applyBracketResult_eq_ok.mp accepted
    exact placesFilled_of_revealed sound rfl rfl
      (traced.quotas.length_top traced.formed checks resolved)
      fun key member =>
        crowned.entrants.finalists checks.found key (mem_of_resolveTop resolved member)
  · rw [kept.revealed] at revealed
    have advanced := roundStep_advanced success
    exact (known revealed).keep kept.tops
      (roundStep_participants success (crowned.ended revealed))
      fun key => advanced.mem_roundEntries

/-- The finalists of the reveal are distinct, and so are the winners it wrote. -/
structure DistinctSoFar (state : TracedRound) : Prop where
  finalists : FinalistsDistinct (revealOf state)
  winners : state.system.round.scoringRevealed → WinnersDistinct state.system.round

theorem RoundLedger.Opened.distinct (opened : ledger.Opened)
    : DistinctSoFar ⟨ledger, .blank⟩ := by
  refine ⟨finalistsDistinct_of_none opened.unstarted.bracket _, fun revealed => ?_⟩
  exact absurd (opened.crowned.ended revealed) (by
    obtain ⟨_, _, _, _, round⟩ := opened.round
    simp [round, openedRound])

/-- Accepted instructions that read the circuit's output keep finalists and winners distinct. -/
theorem DistinctSoFar.step (known : DistinctSoFar state) (traced : Traced state)
    (crowned : Crowned state.system) (reads : RoundReadsOutput state submission)
    (success : roundStep state.system submission = .ok after)
    : DistinctSoFar ⟨after, noteReveal state.system submission state.journal⟩ := by
  constructor
  · rcases roundStep_reveal_or_beside success with
      ⟨env, instruction, revealed, rfl, accepted, rfl⟩ | ⟨other, kept⟩
    · exact known.finalists.step traced.formed traced.admitted traced.marked
        crowned.entrants reads accepted
    · rw [noteReveal_other other]
      exact known.finalists.keep
        (fun key => (roundStep_advanced success).mem_roundEntries)
        (fun stored => ⟨_, kept.bracket ▸ stored, .refl _⟩) rfl rfl
        fun _ record listed fresh => absurd listed fresh
  · intro revealed
    rcases roundStep_winners success with ⟨env, resultIndex, rfl, ledger, accepted, rfl⟩ | kept
    · obtain ⟨bracket, result, top, checks, resolved, rfl⟩ :=
        applyBracketResult_eq_ok.mp accepted
      exact winnersDistinct_revealedRound (known.finalists.top_nodup traced.formed
        traced.marked crowned.entrants checks resolved reads)
    · intro first second key held held' named
      rw [kept.tops] at held held'
      exact known.winners (kept.revealed ▸ revealed) first second key held held' named

--------------------------------------------------------------------------------
-- Attested rounds
--------------------------------------------------------------------------------

/-- What holds of a round with its history, whatever the results held. -/
structure Attested (state : TracedRound) : Prop where
  sound : Sound state.system
  crowned : Crowned state.system
  tallied : Tallied state.system
  gate : GateHeld state.system
  traced : Traced state
  scored : state.system.round.scoringRevealed → AllScored state.system
  filled : state.system.round.scoringRevealed → PlacesFilled state.system

theorem RoundLedger.Opened.attested (opened : ledger.Opened) : Attested ⟨ledger, .blank⟩ := by
  have unrevealed : ¬ ledger.round.scoringRevealed := by
    obtain ⟨_, _, _, _, round⟩ := opened.round
    simp [round, openedRound]
  refine ⟨opened.sound, opened.crowned, opened.tallied, fun begun => ?_, opened.traced,
    fun revealed => absurd revealed unrevealed, fun revealed => absurd revealed unrevealed⟩
  simp [opened.unstarted.bracket, opened.unstarted.tier1] at begun

/-- A reveal waits for all scores, and the scores stay. -/
theorem Attested.scored_of_step (known : Attested state)
    (success : roundStep state.system submission = .ok after)
    (revealed : after.round.scoringRevealed) : AllScored after := by
  rcases roundStep_winners success with ⟨env, resultIndex, rfl, ledger, accepted, _⟩ | kept
  · obtain ⟨_, _, _, checks, _⟩ := applyBracketResult_eq_ok.mp accepted
    obtain ⟨ended, all⟩ := known.gate (.inl (by simp [checks.found]))
    exact all.step known.sound ended success
  · rw [kept.revealed] at revealed
    exact (known.scored revealed).step known.sound (known.crowned.ended revealed) success

/-- Every accepted instruction keeps a round attested. -/
theorem Attested.step (known : Attested state)
    (success : roundStep state.system submission = .ok after)
    : Attested ⟨after, noteReveal state.system submission state.journal⟩ :=
  ⟨known.sound.step success, known.crowned.step success, known.tallied.step known.sound success,
    known.gate.step known.sound known.tallied success, known.traced.step known.crowned success,
    fun revealed => known.scored_of_step success revealed,
    fun revealed =>
      placesFilled_of_step known.traced known.crowned known.sound known.filled success revealed⟩

/-- The next stage of a round. -/
inductive NextStatus : RoundStatus → RoundStatus → Prop
  | closes : NextStatus .opened .closed
  | finalizes : NextStatus .closed .finalized

/-- An accepted instruction keeps a round's status or moves it to the next stage. -/
theorem roundStep_status (success : roundStep ledger submission = .ok after)
    : after.round.status = ledger.round.status
      ∨ NextStatus ledger.round.status after.round.status := by
  cases roundStep_change success with
  | kept entries round => exact .inl (by rw [round])
  | entered asked checks entries round => exact .inl (by rw [round])
  | closed opened entries round =>
      rw [round, opened]
      exact .inr .closes
  | finalized closed entries round =>
      rw [round, closed]
      exact .inr .finalizes
  | attempted attempt entries round => exact .inl (by rw [round])
  | scored found own unscored entries round => exact .inl (by rw [round])
  | released asked checks entries round => exact .inl (by rw [round])
  | revealed asked entries round =>
      rw [round]
      exact .inl rfl
  | elsewhere unused foreign entries round => exact .inl (by rw [round])

/-- What a round keeps for good: its number, the stages behind it, its participants once it is
closed, and its winners once they are revealed.
-/
structure Lasting (ledger after : RoundLedger) : Prop where
  roundId : after.round.roundId = ledger.round.roundId
  status : Relation.ReflTransGen NextStatus ledger.round.status after.round.status
  participants : ledger.round.status ≠ .opened
    → after.round.participantCount = ledger.round.participantCount
  revealed : ledger.round.scoringRevealed → RevealKept ledger after

theorem Lasting.refl (ledger : RoundLedger) : Lasting ledger ledger :=
  ⟨rfl, .refl, fun _ => rfl, fun _ => ⟨rfl, rfl⟩⟩

/-- No stage comes back to an open round, by induction on the stages. -/
theorem ended_of_stages {first last : RoundStatus}
    (stages : Relation.ReflTransGen NextStatus first last) (ended : first ≠ .opened)
    : last ≠ .opened := by
  induction stages with
  | refl => exact ended
  | tail _ next _ => cases next <;> simp

theorem Lasting.trans {first second third : RoundLedger} (earlier : Lasting first second)
    (later : Lasting second third) : Lasting first third := by
  refine ⟨later.roundId.trans earlier.roundId, earlier.status.trans later.status,
    fun ended => ?_, fun revealed => ?_⟩
  · exact (later.participants (ended_of_stages earlier.status ended)).trans
      (earlier.participants ended)
  · have before := earlier.revealed revealed
    have kept := later.revealed (before.revealed.trans revealed)
    exact ⟨kept.revealed.trans before.revealed, kept.tops.trans before.tops⟩

/-- Every accepted instruction keeps what lasts. -/
theorem roundStep_lasting (success : roundStep ledger submission = .ok after)
    : Lasting ledger after := by
  refine ⟨(roundStep_advanced success).roundId, ?_, roundStep_participants success,
    roundStep_revealed success⟩
  rcases roundStep_status success with same | next
  · rw [same]
  · exact .single next

end SecretGarden.Settlement
