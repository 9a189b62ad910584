import SecretGarden.Garden.Accounting

/-! Whose answer a hint holds. An answer carries no name of its request, so a late one overwrites
the newer request's; a hint that is ready answers its latest request as long as no answer to an
earlier one is delivered.
-/

namespace SecretGarden.Garden

open Foundation SecretGarden.Bracket SecretGarden.Settlement SecretGarden.Season

variable {env : Env} {state after : ProgramState} {submission : GardenSubmission}

/-- A hint whose answer was just delivered. -/
def answeredHint (env : Env) (hint : HintResult) (output : SealedHint) : HintResult :=
  { hint with
    encryptionKey := output.encryptionKey
    nonce := output.nonce
    ciphertext := output.ciphertext
    ready := true
    computedAt := env.now }

/-- An answer is written to the hint that was fixed with its request; a failure changes nothing. -/
theorem privateHintCallback_eq {computationOffset : Nat} {output : Option SealedHint}
    (success : privateHintCallback env computationOffset output state = .ok after)
    : ∃ request hint,
        state.hintComputations.lookup computationOffset = some request
        ∧ state.hints.lookup request.player = some hint
        ∧ after = output.elim state fun output =>
          { state with
            hints := state.hints.insert request.player (answeredHint env hint output) } := by
  simp only [privateHintCallback, bind_eq_ok, fetch_eq_ok] at success
  obtain ⟨request, found, hint, asked, delivered⟩ := success
  refine ⟨request, hint, found, asked, ?_⟩
  cases output with
  | none => exact (pure_eq_ok.mp delivered).symm
  | some output => exact (pure_eq_ok.mp delivered).symm

/-- A player's request: its computation and the round it asks about. -/
structure AskedHint where
  computationOffset : Nat
  roundId : Nat
deriving DecidableEq

structure HintJournal where
  /-- Each player's latest request. -/
  asked : Pubkey → Option AskedHint
  /-- The output of each computation, once it was delivered. -/
  outputs : Nat → Option SealedHint

def HintJournal.blank : HintJournal := { asked := fun _ => none, outputs := fun _ => none }

def noteHints (state : ProgramState) (submission : GardenSubmission) (journal : HintJournal)
    : HintJournal :=
  match submission.instruction with
  | .queuePrivateHint roundKey _ _ computationOffset _ _ =>
      match state.rounds.lookup roundKey with
      | some ledger =>
          { journal with
            asked := Function.update journal.asked submission.signer
              (some ⟨computationOffset, ledger.round.roundId⟩) }
      | none => journal
  | .privateHintCallback computationOffset (some output) =>
      { journal with outputs := Function.update journal.outputs computationOffset (some output) }
  | _ => journal

/-- The program with the history of its hints. -/
abbrev JournaledHints : Type := Journaled ProgramState HintJournal

def hinted : JournaledHints → GardenSubmission → Outcome JournaledHints :=
  journaled gardenStep noteHints

--------------------------------------------------------------------------------
-- The invariant
--------------------------------------------------------------------------------

/-- A hint that records a request, and its answer once it is ready. -/
structure Records (state : ProgramState) (journal : HintJournal) (player : Pubkey)
    (hint : HintResult) (asked : AskedHint) : Prop where
  latest : journal.asked player = some asked
  request : ∃ request, state.hintComputations.lookup asked.computationOffset = some request
    ∧ request.player = player
    ∧ hint.targetTraitCount = request.targetTraitCount
  round : hint.roundId = asked.roundId
  answer : hint.ready → ∃ output,
    journal.outputs asked.computationOffset = some output
    ∧ hint.encryptionKey = output.encryptionKey
    ∧ hint.nonce = output.nonce
    ∧ hint.ciphertext = output.ciphertext

/-- Every hint records its player's latest request and, once it is ready, that request's answer. -/
def HintsAnswerLatest (state : ProgramState) (journal : HintJournal) : Prop :=
  ∀ player hint,
    state.hints.lookup player = some hint → ∃ asked, Records state journal player hint asked

/-- An answer that is delivered belongs to its player's latest request. -/
def DeliversLatest (before : JournaledHints) (submission : GardenSubmission) : Prop :=
  match submission.instruction with
  | .privateHintCallback computationOffset (some _) =>
      (before.system.hintComputations.lookup computationOffset).all fun request =>
        (before.journal.asked request.player).any fun asked =>
          asked.computationOffset == computationOffset
  | _ => True

instance (before : JournaledHints) (submission : GardenSubmission)
    : Decidable (DeliversLatest before submission) := by
  unfold DeliversLatest
  generalize submission.instruction = instruction
  rcases instruction
  case privateHintCallback output => rcases output <;> infer_instance
  all_goals infer_instance

/-- A record only depends on its player's journal and on computations that stay. -/
theorem Records.mono {journal later : HintJournal} {player : Pubkey} {hint : HintResult}
    {asked : AskedHint} (records : Records state journal player hint asked)
    (computations
      : ∀ {computationOffset request},
          state.hintComputations.lookup computationOffset = some request
          → after.hintComputations.lookup computationOffset = some request)
    (latest : later.asked player = journal.asked player)
    (outputs
      : later.outputs asked.computationOffset = journal.outputs asked.computationOffset)
    : Records after later player hint asked where
  latest := latest.trans records.latest
  request := by
    obtain ⟨request, found, rest⟩ := records.request
    exact ⟨request, computations found, rest⟩
  round := records.round
  answer ready := by
    rw [outputs]
    exact records.answer ready

/-- A request is recorded by its player's hint. -/
theorem HintsAnswerLatest.ask {journal : HintJournal}
    (known : HintsAnswerLatest state journal) {signer : Pubkey} {slot : Nat} {now : Int}
    {roundKey : RoundKey} {flowerKey : FlowerKey} {accounts : SyncAccounts}
    {computationOffset hintPubkey hintNonce : Nat}
    (success
      : gardenStep state ⟨signer, slot, now,
          .queuePrivateHint roundKey flowerKey accounts computationOffset hintPubkey hintNonce⟩
          = .ok after)
    : HintsAnswerLatest after
        (noteHints state ⟨signer, slot, now,
          .queuePrivateHint roundKey flowerKey accounts computationOffset hintPubkey hintNonce⟩
          journal) := by
  obtain ⟨ledger, _, flower, _, round, _, _, _, _, unused, rfl⟩ :=
    queuePrivateHint_success success
  simp only [noteHints, round]
  intro player hint found
  rcases Store.lookup_insert_eq_some.mp found with ⟨here, rfl⟩ | ⟨other, found⟩
  · subst here
    refine ⟨⟨computationOffset, ledger.round.roundId⟩, ?_, ?_, rfl, ?_⟩
    · exact Function.update_self _ _ _
    · exact ⟨_, AList.lookup_insert _, rfl, rfl⟩
    · rintro ⟨⟩
  · obtain ⟨asked, records⟩ := known player hint found
    refine ⟨asked, records.mono (fun {otherOffset request} present => ?_)
      (Function.update_of_ne other _ _) rfl⟩
    refine (AList.lookup_insert_ne ?_).trans present
    rintro rfl
    rw [unused] at present
    cases present

/-- An answer to the latest request makes its hint ready. -/
theorem HintsAnswerLatest.deliver {journal : HintJournal}
    (known : HintsAnswerLatest state journal) {signer : Pubkey} {slot : Nat} {now : Int}
    {computationOffset : Nat} {output : Option SealedHint}
    (delivers
      : DeliversLatest ⟨state, journal⟩
          ⟨signer, slot, now, .privateHintCallback computationOffset output⟩)
    (success
      : gardenStep state ⟨signer, slot, now, .privateHintCallback computationOffset output⟩
          = .ok after)
    : HintsAnswerLatest after
        (noteHints state ⟨signer, slot, now, .privateHintCallback computationOffset output⟩
          journal) := by
  obtain ⟨request, hint, found, held, done⟩ := privateHintCallback_eq success
  cases output with
  | none =>
      obtain rfl : after = state := done
      exact known
  | some output =>
      rw [Option.elim_some] at done
      subst done
      simp only [DeliversLatest, found, Option.all_some] at delivers
      intro player later lookup
      rcases Store.lookup_insert_eq_some.mp lookup with ⟨here, rfl⟩ | ⟨other, lookup⟩
      · subst here
        obtain ⟨asked, records⟩ := known _ hint held
        rw [records.latest, Option.any_some, beq_iff_eq] at delivers
        refine ⟨asked, records.latest, records.request, records.round, fun _ => ⟨output, ?_⟩⟩
        refine ⟨?_, rfl, rfl, rfl⟩
        rw [delivers]
        exact Function.update_self _ _ _
      · obtain ⟨asked, records⟩ := known player later lookup
        refine ⟨asked, records.mono id rfl (Function.update_of_ne ?_ _ _)⟩
        rintro rfl
        obtain ⟨same, present, named, _⟩ := records.request
        cases found.symm.trans present
        exact other named.symm

/-- Every accepted instruction under the condition keeps hints true to their latest requests. -/
theorem HintsAnswerLatest.step {before later : JournaledHints}
    (known : HintsAnswerLatest before.system before.journal)
    (delivers : DeliversLatest before submission)
    (success : hinted before submission = .ok later)
    : HintsAnswerLatest later.system later.journal := by
  obtain ⟨moved, noted⟩ := journaled_eq_ok.mp success
  rw [noted]
  by_cases touches : submission.instruction.TouchesHints
  · obtain ⟨signer, slot, now, instruction⟩ := submission
    cases instruction with
    | queuePrivateHint roundKey flowerKey accounts computationOffset hintPubkey hintNonce =>
        exact known.ask moved
    | privateHintCallback computationOffset output => exact known.deliver delivers moved
    | _ => exact touches.elim
  · obtain ⟨hints, computations⟩ := (gardenStep_framed moved).hints touches
    have same : noteHints before.system submission before.journal = before.journal := by
      obtain ⟨signer, slot, now, instruction⟩ := submission
      cases instruction with
      | queuePrivateHint => exact absurd trivial touches
      | privateHintCallback => exact absurd trivial touches
      | _ => rfl
    rw [same]
    intro player hint found
    rw [hints] at found
    obtain ⟨asked, records⟩ := known player hint found
    exact ⟨asked, records.mono (fun present => computations ▸ present) rfl rfl⟩

/-- Over every run in which only latest requests are answered, a hint that is ready holds the
answer to the request it records.
-/
theorem hints_answer_latest {start : ProgramState} (fresh : start.Fresh)
    {history : List GardenSubmission} {reached : JournaledHints}
    (run : Run hinted DeliversLatest ⟨start, .blank⟩ history reached)
    : HintsAnswerLatest reached.system reached.journal := by
  refine run.invariant ?_ HintsAnswerLatest.step
  intro player hint found
  simp only [fresh.hints] at found
  cases found

--------------------------------------------------------------------------------
-- A late answer
--------------------------------------------------------------------------------

/-- Player 101 asks about a flower in the open round. -/
def playerAsks (flowerIndex computationOffset : Nat) : GardenSubmission :=
  ⟨101, 1000, 1, .queuePrivateHint 1 ⟨101, flowerIndex⟩ ⟨0, 0, 0⟩ computationOffset 11 12⟩

/-- A computation is answered with a ciphertext. -/
def networkAnswers (computationOffset ciphertext : Nat) : GardenSubmission :=
  ⟨66, 1000, 1, .privateHintCallback computationOffset (some ⟨5, 6, ciphertext⟩)⟩

/-- A round is open and player 101 has flowers. -/
def plantedScript : List GardenSubmission :=
  [⟨7, 1000, 1, .season (.setSgdMint ⟨9, 6⟩)⟩,
    ⟨7, 1000, 1, .season (.openRound none ∅)⟩,
    ⟨101, 1000, 1, .createProfile⟩,
    ⟨101, 1000, 1, .claimStarters⟩]

/-- Both requests are answered before the next one is made, the first one twice. -/
theorem timelyAnswers_latest
    : ∃ reached : JournaledHints,
        Run hinted DeliversLatest ⟨sampleProgram, .blank⟩
          (plantedScript ++ [playerAsks 0 71, networkAnswers 71 1, networkAnswers 71 1,
            playerAsks 1 72, networkAnswers 72 2]) reached
        ∧ (reached.system.hints.lookup 101).any (fun hint => hint.ready && hint.ciphertext == 2)
        ∧ HintsAnswerLatest reached.system reached.journal := by
  have replayed : (replay hinted DeliversLatest ⟨sampleProgram, .blank⟩
      (plantedScript ++ [playerAsks 0 71, networkAnswers 71 1, networkAnswers 71 1,
        playerAsks 1 72, networkAnswers 72 2])).any fun reached =>
        (reached.system.hints.lookup 101).any fun hint => hint.ready && hint.ciphertext == 2 := by
    decide +kernel
  obtain ⟨reached, run, answered⟩ := Run.of_replay_any replayed
  exact ⟨reached, run, answered, hints_answer_latest sampleProgram_fresh run⟩

/-- The answer to the first of two requests arrives last and is shown for the second. -/
theorem lateAnswer_shown
    : ¬ ∀ start : ProgramState, start.Fresh
        → ∀ (history : List GardenSubmission) (reached : JournaledHints),
          Run hinted anyAction ⟨start, .blank⟩ history reached
          → HintsAnswerLatest reached.system reached.journal := by
  intro always
  have replayed : (replay hinted anyAction ⟨sampleProgram, .blank⟩
      (plantedScript ++ [playerAsks 0 71, playerAsks 1 72, networkAnswers 72 2,
        networkAnswers 71 1])).any fun reached =>
        (reached.system.hints.lookup 101).any (fun hint => hint.ready && hint.ciphertext == 1)
          && decide (reached.journal.asked 101 = some ⟨72, 1⟩)
          && decide (reached.journal.outputs 72 = some ⟨5, 6, 2⟩) := by
    decide +kernel
  obtain ⟨reached, run, checked⟩ := Run.of_replay_any replayed
  simp only [Bool.and_eq_true, decide_eq_true_eq, Option.any_eq_true, beq_iff_eq] at checked
  obtain ⟨⟨⟨hint, found, ready, stored⟩, latest⟩, answer⟩ := checked
  obtain ⟨asked, records⟩ := always _ sampleProgram_fresh _ _ run 101 hint found
  cases records.latest.symm.trans latest
  obtain ⟨output, same, _, _, ciphertext⟩ := records.answer ready
  cases same.symm.trans answer
  rw [stored] at ciphertext
  cases ciphertext

end SecretGarden.Garden
