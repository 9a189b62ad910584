import SecretGarden.Season.Funding

/-! Settlements stay truthful over a whole season as long as the mint moves only when every
earlier round is settled: a terminal settlement has paid out the fees of its round, and what is
in its vaults by then was never a fee.
-/

namespace SecretGarden.Season

open Foundation SecretGarden.Bracket SecretGarden.Settlement

variable {deployment after : Deployment}

/-- The deployment with another mint. -/
def Deployment.withMint (deployment : Deployment) (mint : Pubkey) : Deployment :=
  { deployment with config := { deployment.config with sgdMint := mint } }

theorem setSgdMint_success {env : Env} {sgdMint : MintAccount}
    (success : setSgdMint env sgdMint deployment = .ok after)
    : deployment.config.sgdMint = 0
      ∧ sgdMint.address ≠ 0
      ∧ after = deployment.withMint sgdMint.address := by
  simp only [setSgdMint, bind_eq_ok, require_eq_ok, exists_const, pure_eq_ok] at success
  obtain ⟨_, addressed, unset, _, rfl⟩ := success
  exact ⟨unset, addressed, rfl⟩

/-- A drained round is settled, or nobody entered it. -/
theorem requireDrained_success {ledger : RoundLedger} {done : Unit}
    (success : requireDrained ledger = .ok done)
    : ledger.round.participantCount = 0 ∨ isSettled ledger := by
  unfold requireDrained at success
  split at success
  · simp only [bind_eq_ok, fetch_eq_ok, require_eq_ok, exists_const] at success
    obtain ⟨settlement, stored, _, terminal⟩ := success
    rw [isSettled, stored]
    exact .inr terminal
  · next unentered => exact .inl (Nat.eq_zero_of_not_pos unentered)

theorem updateSgdMint_success {env : Env} {newSgdMint : MintAccount}
    (success : updateSgdMint env newSgdMint deployment = .ok after)
    : (∃ ledger, deployment.rounds.lookup deployment.config.currentRound = some ledger
        ∧ (ledger.round.participantCount = 0 ∨ isSettled ledger))
      ∧ newSgdMint.address ≠ 0
      ∧ after = deployment.withMint newSgdMint.address := by
  simp only [updateSgdMint, bind_eq_ok, fetch_eq_ok, require_eq_ok, exists_const, pure_eq_ok]
    at success
  obtain ⟨_, ledger, found, addressed, _, _, drained, _, _, rfl⟩ := success
  exact ⟨⟨ledger, found, requireDrained_success drained⟩, addressed, rfl⟩

theorem openRound_success {env : Env} {previousRound : Option RoundKey}
    {funded : Store Pubkey Nat}
    (success : openRound env previousRound funded deployment = .ok after)
    : deployment.rounds.lookup (deployment.config.currentRound + 1) = none
      ∧ deployment.config.sgdMint ≠ 0
      ∧ after =
        { config := { deployment.config with
            currentRound := deployment.config.currentRound + 1 }
          rounds := deployment.rounds.insert (deployment.config.currentRound + 1)
            (openedLedger (deployment.config.currentRound + 1) env.now
              (selectTargetTraits
                (roundEntropy env.slot env.now (deployment.config.currentRound + 1))
                (deployment.config.effectiveMutantWeight env.now))
              deployment.config.sgdMint funded) } := by
  simp only [openRound, requireUnpaused, requireOperator, bind_eq_ok, require_eq_ok,
    exists_const, pure_eq_ok, Option.isNone_iff_eq_none] at success
  obtain ⟨_, unused, _, mint, _, _, rfl⟩ := success
  exact ⟨unused, mint, rfl⟩

theorem openedLedger_opened (roundId : Nat) (now : Int) (targets : Vector Nat 4 × Nat)
    (mint : Pubkey) (funded : Store Pubkey Nat) (numbered : 1 ≤ roundId)
    : (openedLedger roundId now targets mint funded).Opened :=
  ⟨⟨rfl, rfl, rfl, rfl⟩, ⟨roundId, now, targets, numbered, rfl⟩, by simp [openedLedger], rfl,
    rfl⟩

/-- The vaults of a round that was just opened hold what they were fed before. -/
theorem openedLedger_journaled (roundId : Nat) (now : Int) (targets : Vector Nat 4 × Nat)
    (mint : Pubkey) (funded : Store Pubkey Nat)
    : (openedLedger roundId now targets mint funded).journaled
      = ⟨openedLedger roundId now targets mint funded,
          .blank fun mint => (funded.lookup mint).getD 0⟩ := by
  unfold RoundLedger.journaled
  congr
  funext other
  simp only [RoundLedger.balance, openedLedger, Store.lookup_insert_apply]
  split
  · next here => rw [here, Option.getD_some]
  · rfl

/-- Every round is funded in the configured mint. -/
structure SeasonFunded (state : JournaledSeason) : Prop where
  unpinned : state.system.config.sgdMint = 0 → state.system.rounds = ∅
  funded : ∀ key ledger, state.system.rounds.lookup key = some ledger
    → Funded state.system.config.sgdMint ⟨ledger, state.journal key⟩

/-- Every round other than the current one is settled, if anyone entered it. -/
def EarlierSettled (deployment : Deployment) : Prop :=
  ∀ key ∈ deployment.rounds.keys, key ≠ deployment.config.currentRound
    → (deployment.rounds.lookup key).all fun ledger =>
        ledger.round.participantCount == 0 || isSettled ledger

/-- The mint moves only while every earlier round is settled. -/
def MintMovesSettled (state : JournaledSeason) (submission : SeasonSubmission) : Prop :=
  match submission.instruction with
  | .updateSgdMint _ => EarlierSettled state.system
  | _ => True

instance (state : JournaledSeason) (submission : SeasonSubmission)
    : Decidable (MintMovesSettled state submission) := by
  unfold MintMovesSettled EarlierSettled
  generalize submission.instruction = instruction
  rcases instruction <;> infer_instance

theorem EarlierSettled.ended (known : EarlierSettled deployment) {key : RoundKey}
    {ledger : RoundLedger} (found : deployment.rounds.lookup key = some ledger)
    (earlier : key ≠ deployment.config.currentRound)
    : ledger.round.participantCount = 0 ∨ isSettled ledger := by
  have member : key ∈ deployment.rounds.keys := by
    rw [← AList.mem_keys, ← AList.lookup_isSome, found]
    rfl
  simpa [found] using known key member earlier

variable {state : JournaledSeason}

/-- A season stays funded when the mint moves while nobody's fees are in a vault. -/
theorem SeasonFunded.moveMint (known : SeasonFunded state) {mint : Pubkey} (addressed : mint ≠ 0)
    (ended : ∀ key ledger, state.system.rounds.lookup key = some ledger
      → ledger.round.participantCount = 0 ∨ isSettled ledger)
    : SeasonFunded ⟨state.system.withMint mint, state.journal⟩ :=
  ⟨fun unset => absurd unset addressed, fun key ledger found =>
    (known.funded key ledger found).moveMint (ended key ledger found) mint⟩

/-- A season stays funded when a round opens. -/
theorem SeasonFunded.open (known : SeasonFunded state) {env : Env}
    {previousRound : Option RoundKey} {funded : Store Pubkey Nat} {after : Deployment}
    (success : openRound env previousRound funded state.system = .ok after)
    : SeasonFunded ⟨after, Function.update state.journal (state.system.config.currentRound + 1)
        (.blank fun mint => (funded.lookup mint).getD 0)⟩ := by
  obtain ⟨unused, mint, rfl⟩ := openRound_success success
  refine ⟨fun unset => absurd unset mint, fun key ledger found => ?_⟩
  rcases Store.lookup_insert_eq_some.mp found with ⟨here, rfl⟩ | ⟨elsewhere, found⟩
  · subst here
    simp only [Function.update_self, ← openedLedger_journaled]
    exact funded_of_opened (openedLedger_opened _ _ _ _ _ (Nat.le_add_left 1 _))
  · simp only [Function.update_of_ne elsewhere]
    exact known.funded key ledger found

/-- A season stays funded when one of its rounds takes a step. -/
theorem SeasonFunded.round (known : SeasonFunded state) {submission : SeasonSubmission}
    {key : RoundKey} {instruction : RoundInstruction} {ledger after : RoundLedger}
    (found : state.system.rounds.lookup key = some ledger)
    (success : roundStep ledger ⟨state.system.env submission, instruction⟩ = .ok after)
    : SeasonFunded
        ⟨{ state.system with rounds := state.system.rounds.insert key after },
          Function.update state.journal key
            (notePot ledger ⟨state.system.env submission, instruction⟩ (state.journal key))⟩ := by
  refine ⟨fun unset => ?_, fun other later held => ?_⟩
  · rw [known.unpinned unset] at found
    cases found
  · rcases Store.lookup_insert_eq_some.mp held with ⟨here, rfl⟩ | ⟨elsewhere, held⟩
    · subst here
      simp only [Function.update_self]
      exact (known.funded _ _ found).step rfl success
    · simp only [Function.update_of_ne elsewhere]
      exact known.funded other later held

/-- Accepted transactions that meet the condition keep a season funded, by cases on the
instruction.
-/
theorem SeasonFunded.step (known : SeasonFunded state) {submission : SeasonSubmission}
    {after : JournaledSeason} (met : MintMovesSettled state submission)
    (success : journaledSeason state submission = .ok after) : SeasonFunded after := by
  obtain ⟨accepted, noted⟩ := journaled_eq_ok.mp success
  obtain ⟨system, journal⟩ := after
  obtain ⟨signer, slot, now, instruction⟩ := submission
  subst noted
  cases instruction with
  | setSgdMint sgdMint =>
      obtain ⟨unset, addressed, rfl⟩ := setSgdMint_success accepted
      refine known.moveMint addressed fun key ledger found => ?_
      rw [known.unpinned unset] at found
      cases found
  | updateSgdMint newSgdMint =>
      obtain ⟨⟨current, here, drained⟩, addressed, rfl⟩ := updateSgdMint_success accepted
      refine known.moveMint addressed fun key ledger found => ?_
      by_cases same : key = state.system.config.currentRound
      · subst same
        cases here.symm.trans found
        exact drained
      · exact met.ended found same
  | administer authority paused operators operatorCount mutantWeight restoreTs =>
      obtain rfl := pure_eq_ok.mp accepted
      exact ⟨known.unpinned, known.funded⟩
  | openRound previousRound funded => exact known.open accepted
  | round key instruction =>
      simp only [seasonStep, bind_eq_ok, fetch_eq_ok, pure_eq_ok] at accepted
      obtain ⟨ledger, found, later, moved, rfl⟩ := accepted
      simp only [noteSeason, found]
      exact known.round found moved

/-- A season is funded throughout every run that moves the mint only when settled. -/
theorem seasonFunded_of_run {start : Deployment} (fresh : start.Fresh)
    {history : List SeasonSubmission}
    (run : Run journaledSeason MintMovesSettled start.journaled history state)
    : SeasonFunded state := by
  apply run.invariant
  · refine ⟨fun _ => fresh.rounds, fun key ledger found => ?_⟩
    rw [show start.journaled.system.rounds = ∅ from fresh.rounds] at found
    cases found
  · exact fun known met success => known.step met success

--------------------------------------------------------------------------------
-- Truthful settlements
--------------------------------------------------------------------------------

/-- The instructions that settle a pot. -/
def RoundInstruction.Settles : RoundInstruction → Prop
  | .distributePot _ => True
  | .refundUnrevealedPot _ => True
  | _ => False

/-- Every token of a round's vaults is accounted for, a terminal settlement has paid out every
fee from the vault it was paid into, so that what this vault still holds was given by others, and
whatever settles the round reads that vault.
-/
structure Truthful (state : JournaledSeason) (key : RoundKey) (ledger : RoundLedger)
    : Prop where
  conserved : Conserved ⟨ledger, state.journal key⟩
  settled : ∀ settlement, ledger.settlement = some settlement
    → settlement.isTerminal
    → ∀ mint, (state.journal key).fees mint ≤ (state.journal key).paid mint
  remainder : ∀ settlement, ledger.settlement = some settlement
    → settlement.isTerminal
    → ∀ mint, ledger.balance mint ≤ (state.journal key).donated mint
  vault : ∀ submission instruction after, RoundInstruction.Settles instruction
    → roundStep ledger ⟨state.system.env submission, instruction⟩ = .ok after
    → ∀ mint, 0 < (state.journal key).fees mint
    → mint = state.system.config.sgdMint

/-- Vaults that paid out every fee hold at most what others gave. -/
theorem balance_le_donated {state : JournaledRound} (conserved : Conserved state) {mint : Pubkey}
    (paid : state.journal.fees mint ≤ state.journal.paid mint)
    : state.system.balance mint ≤ state.journal.donated mint := by
  have accounted := conserved mint
  omega

/-- What settles a round found it unsettled. -/
theorem unsettled_of_settles {ledger after : RoundLedger} {submission : RoundSubmission}
    (sound : Sound ledger) (settles : RoundInstruction.Settles submission.instruction)
    (success : roundStep ledger submission = .ok after) : isSettled ledger = false := by
  obtain ⟨env, instruction⟩ := submission
  unfold isSettled
  cases instruction with
  | distributePot accounts =>
      obtain ⟨settling, planned, _⟩ := distributePot_success success
      obtain ⟨pot, checks, _⟩ := planDistribution_success sound.numbered sound.carried planned
      rw [sound.undistributed checks]
      rfl
  | refundUnrevealedPot accounts =>
      obtain ⟨settling, planned, _⟩ := refundUnrevealedPot_success success
      obtain ⟨vault, _, plan⟩ := planRefund_success sound.numbered sound.carried planned
      rcases plan.before sound with absent | ⟨settlement, stored, pending⟩
      · rw [absent]
        rfl
      · rw [stored, Option.any_some, RoundSettlement.isTerminal, pending]
        rfl
  | _ => exact settles.elim

/-- While the mint moves only when every earlier round is settled, every round is settled
truthfully.
-/
theorem settlements_truthful {start : Deployment} (fresh : start.Fresh)
    {history : List SeasonSubmission}
    (run : Run journaledSeason MintMovesSettled start.journaled history state)
    {key : RoundKey} {ledger : RoundLedger}
    (found : state.system.rounds.lookup key = some ledger) : Truthful state key ledger := by
  have funded := (seasonFunded_of_run fresh run).funded key ledger found
  have settled {settlement : RoundSettlement} (stored : ledger.settlement = some settlement)
      (terminal : settlement.isTerminal) (mint : Pubkey)
      : (state.journal key).fees mint ≤ (state.journal key).paid mint := by
    apply funded.settled
    rw [isSettled, stored]
    exact terminal
  refine ⟨funded.conserved, fun _ => settled, fun _ stored terminal mint => ?_, ?_⟩
  · exact balance_le_donated funded.conserved (settled stored terminal mint)
  · intro submission instruction after settles success mint paid
    rw [funded.charged (unsettled_of_settles funded.sound settles success) mint] at paid
    by_contra other
    rw [if_neg other] at paid
    exact absurd paid (lt_irrefl 0)

/-- What the authority submits to a season at a time. -/
def administratorAt (now : Int) (instruction : SeasonInstruction) : SeasonSubmission :=
  ⟨7, 1000, now, instruction⟩

/-- One player enters the first round, which ends without a reveal. -/
def unrevealedScript : List SeasonSubmission :=
  [administratorAt 0 (.setSgdMint ⟨9, 6⟩), administratorAt 0 (.openRound none ∅),
    administratorAt 0 (.round 1 (.outside (.changeWallet 301 ⟨101, 9, entryFeeSgd⟩))),
    ⟨101, 1000, 0, .round 1 (.submitEntry 1 (sampleFlowerKey 1) (sampleFlower 1) 301)⟩,
    administratorAt 0 (.round 1 .closeRound), administratorAt 0 (.round 1 .finalizeRound)]

/-- The round is refunded before the mint moves. -/
def refundedScript : List SeasonSubmission :=
  unrevealedScript
    ++ [administratorAt refundTime (.round 1 (.refundUnrevealedPot [1, 301])),
      administratorAt refundTime (.updateSgdMint ⟨8, 6⟩)]

/-- The refunded round is settled truthfully, and its vault is empty, after the mint has moved. -/
theorem refundedScript_truthful
    : ∃ state ledger,
        Run journaledSeason MintMovesSettled sampleDeployment.journaled refundedScript state
        ∧ state.system.rounds.lookup 1 = some ledger
        ∧ (state.journal 1).fees 9 = entryFeeSgd
        ∧ ledger.balance 9 = 0
        ∧ isSettled ledger
        ∧ Truthful state 1 ledger := by
  have replayed : (replay journaledSeason MintMovesSettled sampleDeployment.journaled
      refundedScript).any fun state =>
        (state.system.rounds.lookup 1).any (fun ledger =>
          decide (ledger.balance 9 = 0) && isSettled ledger)
        && (state.journal 1).fees 9 == entryFeeSgd := by
    decide +kernel
  obtain ⟨state, run, checked⟩ := Run.of_replay_any replayed
  obtain ⟨stored, fees⟩ := Bool.and_eq_true_iff.mp checked
  obtain ⟨ledger, found, facts⟩ := (Option.any_eq_true _ _).mp stored
  obtain ⟨empty, settled⟩ := Bool.and_eq_true_iff.mp facts
  exact ⟨state, ledger, run, found, eq_of_beq fees, of_decide_eq_true empty, settled,
    settlements_truthful sampleDeployment_fresh run found⟩

/-- The mint moves past the first round while the second, empty one is current; anyone creates
the first round's vault in the new mint, and the refund finds nothing in it.
-/
def strandedScript : List SeasonSubmission :=
  unrevealedScript
    ++ [administratorAt 0 (.openRound (some 1) ∅), administratorAt 0 (.round 2 .closeRound),
      administratorAt 0 (.round 2 .finalizeRound), administratorAt 0 (.updateSgdMint ⟨8, 6⟩),
      ⟨66, 1000, 0, .round 1 (.outside (.createVault 8))⟩,
      administratorAt refundTime (.round 1 (.refundUnrevealedPot []))]

/-- A mint that moves past an unsettled earlier round strands its fees in their vault, behind a
terminal settlement.
-/
theorem stranded_fees_settled
    : ¬ ∀ start : Deployment, start.Fresh
        → ∀ (history : List SeasonSubmission) (state : JournaledSeason),
          Run journaledSeason anyAction start.journaled history state
          → ∀ key ledger, state.system.rounds.lookup key = some ledger
          → 0 < ledger.round.participantCount
          → Truthful state key ledger := by
  intro always
  have replayed : (replay journaledSeason anyAction sampleDeployment.journaled
      strandedScript).any fun state =>
        (state.system.rounds.lookup 1).any (fun ledger =>
          isSettled ledger && decide (0 < ledger.round.participantCount)
          && decide ((state.journal 1).donated 9 < ledger.balance 9)) := by
    decide +kernel
  obtain ⟨state, run, checked⟩ := Run.of_replay_any replayed
  obtain ⟨ledger, found, facts⟩ := (Option.any_eq_true _ _).mp checked
  obtain ⟨⟨settled, entered⟩, stranded⟩ := Bool.and_eq_true_iff.mp facts |>.imp_left
    Bool.and_eq_true_iff.mp
  obtain ⟨settlement, held, terminal⟩ := (Option.any_eq_true _ _).mp settled
  have truthful := always _ sampleDeployment_fresh _ _ run 1 ledger found
    (of_decide_eq_true entered)
  exact absurd (truthful.remainder settlement held terminal 9)
    (not_le_of_gt (of_decide_eq_true stranded))

end SecretGarden.Season
