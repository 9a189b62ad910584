import SecretGarden.AutoCycle.Resuming
import SecretGarden.AutoCycle.RevealStage

/-! Seasons whose rounds are revealed by the script alone, over runs of it that stop anywhere and
callbacks that land at any time. All their reveals are documented, so they rank every round
rightly; and each can be taken over where the last run left it.
-/

namespace SecretGarden.AutoCycle

open Foundation SecretGarden.Bracket SecretGarden.Settlement SecretGarden.Season

variable {state : TracedRound} {submission : RoundSubmission} {after : RoundLedger}

/-- A round's entries keep what their slots are built from, once all of them are scored. -/
theorem slotKept_of_scored {ledger : RoundLedger} (all : AllScored ledger)
    (success : roundStep ledger submission = .ok after) {key : Pubkey}
    (member : key ∈ ledger.roundEntries) : SlotKept ledger.entries after.entries key := by
  obtain ⟨entry, found, own⟩ := mem_roundEntries.mp member
  obtain ⟨later, held, _, score, nonce⟩ :=
    roundStep_scoresKept success key entry found (all.scored found own)
  obtain ⟨other, same, rarity⟩ := roundStep_rarity success found
  cases held.symm.trans same
  exact ⟨entry, later, found, held, score, nonce, rarity⟩

/-- What stands of the round's reveal is the script's, for the plan of its entries. -/
structure RoundPaced (state : TracedRound) : Prop where
  paced : ∀ {plan}, planBracket state.system.roundEntries = .ok plan → Paced plan (revealOf state)
  sliced : state.journal.sliced.isSome → state.system.bracket.isSome

theorem roundPaced_of_opened {ledger : RoundLedger} (opened : ledger.Opened)
    : RoundPaced ⟨ledger, .blank⟩ :=
  ⟨fun _ => paced_of_unstarted opened.unstarted rfl, nofun⟩

/-- What happens beside the reveal leaves it to the script. -/
theorem RoundPaced.other (known : RoundPaced state) (conducted : Conducted state)
    (success : roundStep state.system submission = .ok after)
    (other : ∀ instruction, submission.instruction ≠ .reveal instruction)
    (kept : PartitionsKept state.system after) : RoundPaced ⟨after, state.journal⟩ := by
  have results := roundStep_resultsKept success other
  refine ⟨fun {plan} planned => ?_, fun sliced => kept.bracket ▸ known.sliced sliced⟩
  by_cases ready : Rankable state.system
  · obtain ⟨field, _⟩ := ready.2.ranking ready.1 success
    have paced := known.paced ((planBracket_perm field).symm.trans planned)
    exact paced.beside kept.bracket kept.tier1 results.results results.computations
      (fun _ member => field.mem_iff.mpr member)
      fun _ member => slotKept_of_scored ready.2 success member
  · have unstarted := conducted.waiting ready
    have unsliced : state.journal.sliced = none := by
      rw [← Option.not_isSome_iff_eq_none]
      intro sliced
      simpa [unstarted.bracket] using known.sliced sliced
    exact paced_of_unstarted ⟨kept.bracket.trans unstarted.bracket,
      kept.tier1.trans unstarted.tier1, results.results.trans unstarted.results,
      results.computations.trans unstarted.computations⟩ unsliced

/-- A reveal's instruction that the script sends is documented, and leaves the reveal to it. -/
theorem RoundPaced.reveal (known : RoundPaced state) (attested : Attested state)
    (conducted : Conducted state) {env : Env} {instruction : RevealInstruction}
    {revealed : RevealLedger} (scripted : RoundScripted state.system (.reveal instruction))
    (accepted : revealStep state.system.toRevealLedger ⟨env, instruction⟩ = .ok revealed)
    : DocumentedRead (revealOf state) ⟨env, instruction⟩
      ∧ RoundPaced ⟨{ state.system with toRevealLedger := revealed },
          note state.system.toRevealLedger ⟨env, instruction⟩ state.journal⟩ := by
  obtain ⟨plan, planned, sends⟩ := scripted
  have paced := known.paced planned
  refine ⟨paced.documented sends accepted, fun {other} named => ?_,
    note_sliced known.sliced accepted⟩
  have field := (revealStep_framed accepted).roundEntries
  have same : planBracket state.system.roundEntries = .ok other := field ▸ named
  cases planned.symm.trans same
  exact paced.step attested.traced.formed conducted.stamped conducted.tracked
    (planned_of_success planned).sizes_eq sends accepted

/-- Every accepted instruction leaves the reveal to the script, if it is the script's or beside the
reveal.
-/
theorem RoundPaced.step (known : RoundPaced state) (attested : Attested state)
    (conducted : Conducted state)
    (scripted : RoundScripted state.system submission.instruction)
    (success : roundStep state.system submission = .ok after)
    : RoundDocumented state submission
      ∧ RoundPaced ⟨after, noteReveal state.system submission state.journal⟩ := by
  rcases roundStep_reveal_or_beside success with
    ⟨env, instruction, revealed, rfl, accepted, rfl⟩ | ⟨other, kept⟩
  · exact known.reveal attested conducted scripted accepted
  · rw [noteReveal_other other]
    refine ⟨?_, known.other conducted success other kept⟩
    unfold RoundDocumented
    split
    · next instruction asked => exact absurd asked (other instruction)
    · trivial

--------------------------------------------------------------------------------
-- Over a season
--------------------------------------------------------------------------------

/-- What every round of such a season has established. -/
structure Managed (state : TracedRound) : Prop where
  attested : Attested state
  conducted : Conducted state
  paced : RoundPaced state

theorem managed_of_opened {ledger : RoundLedger} (opened : ledger.Opened)
    : Managed ⟨ledger, .blank⟩ :=
  ⟨opened.attested, opened.conducted, roundPaced_of_opened opened⟩

theorem Managed.step (known : Managed state)
    (scripted : RoundScripted state.system submission.instruction)
    (success : roundStep state.system submission = .ok after)
    : Managed ⟨after, noteReveal state.system submission state.journal⟩ :=
  ⟨known.attested.step success, known.conducted.step known.attested success,
    (known.paced.step known.attested known.conducted scripted success).2⟩

/-- Whatever is left of the round's reveal can be taken over. -/
theorem resumable_of_managed (known : Managed state) {entryKeys : List Pubkey}
    (listed : entryKeys.Perm state.system.roundEntries)
    : Resumable entryKeys state.system.toRevealLedger := by
  cases planned : planBracket entryKeys with
  | error failure => simp [Resumable, planned, Except.toOption]
  | ok plan =>
      have paced : Paced plan (revealOf state) :=
        known.paced.paced ((planBracket_perm listed).symm.trans planned)
      exact paced.resumable planned known.conducted.tracked known.attested.traced.formed
        known.attested.traced.quotas

theorem managed_step {before after : TracedSeason} {submission : SeasonSubmission}
    (each : EachRound Managed before) (scripted : SeasonScripted before submission)
    (success : tracedSeason before submission = .ok after) : EachRound Managed after := by
  refine each.step (fun _ opened => managed_of_opened opened) ?_ success
  intro key instruction ledger next asked found known moved
  rw [SeasonScripted, asked] at scripted
  exact known.step (scripted ledger found) moved

/-- The script's instructions are documented ones, as long as nobody else reveals. -/
theorem documented_of_managed {before after : TracedSeason} {submission : SeasonSubmission}
    (each : EachRound Managed before) (scripted : SeasonScripted before submission)
    (success : tracedSeason before submission = .ok after)
    : SeasonDocumented before submission := by
  obtain ⟨accepted, _⟩ := journaled_eq_ok.mp success
  unfold SeasonDocumented
  split
  · next key instruction asked =>
      intro ledger found
      rw [SeasonScripted, asked] at scripted
      have known := each.known key ledger found
      cases seasonStep_change accepted with
      | configured _ _ other => exact absurd asked (other key instruction)
      | opened _ _ _ _ other => exact absurd asked (other key instruction)
      | played named present moved _ _ =>
          cases asked.symm.trans named
          cases present.symm.trans found
          let submitted : RoundSubmission := ⟨before.system.env submission, instruction⟩
          have sends : RoundScripted (roundOf before key ledger).system submitted.instruction :=
            scripted ledger found
          exact (known.paced.step known.attested known.conducted sends moved).1
  · trivial

/-- Every round of such a season is managed throughout. -/
theorem managed_of_run {start : Deployment} (fresh : start.Fresh)
    {history : List SeasonSubmission} {state : TracedSeason}
    (run : Run tracedSeason SeasonScripted start.traced history state)
    : EachRound Managed state :=
  run.invariant (fresh.eachRound _) managed_step

/-- Seasons in which the script alone reveals are documented: however its runs are interrupted, and
whenever the callbacks of abandoned runs land, each instruction of a reveal reads the circuit's
output on the run it is for.
-/
theorem scripted_documented {start : Deployment} (fresh : start.Fresh)
    {history : List SeasonSubmission} {state : TracedSeason}
    (run : Run tracedSeason SeasonScripted start.traced history state)
    : Run tracedSeason SeasonDocumented start.traced history state :=
  run.transfer (fresh.eachRound _) managed_step documented_of_managed

end SecretGarden.AutoCycle
