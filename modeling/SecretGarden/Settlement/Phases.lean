import SecretGarden.Bracket.Freshness
import SecretGarden.Settlement.Frames

/-! The phases a settlement goes through: which states of the round each of them excludes, and
when a started refund can go on.
-/

namespace SecretGarden.Settlement

open Foundation SecretGarden.Bracket

variable {ledger after : RoundLedger} {submission : RoundSubmission}

/-- What holds of a round and its settlement in every reachable state. -/
structure Sound (ledger : RoundLedger) : Prop where
  numbered : 1 ≤ ledger.round.roundId
  counted : ledger.round.participantCount = ledger.roundEntries.length
  addressed : ∀ key ∈ ledger.roundEntries, key ≠ 0
  carried : ∀ {settlement}, ledger.settlement = some settlement
    → settlement.roundId = ledger.round.roundId
  settling : ∀ {settlement}, ledger.settlement = some settlement
    → settlement.state ≠ .none ∧ ledger.round.status = .finalized

/-- A round that was just opened is sound. -/
theorem RoundLedger.Opened.sound (opened : ledger.Opened) : Sound ledger := by
  obtain ⟨roundId, now, _, numbered, round⟩ := opened.round
  have unentered : ledger.roundEntries = [] := by
    rw [List.eq_nil_iff_forall_not_mem]
    intro key member
    obtain ⟨entry, found, own⟩ := mem_roundEntries.mp member
    exact opened.unentered found own
  constructor
  · rw [round]
    exact numbered
  · rw [round, unentered]
    rfl
  · simp [unentered]
  · simp [opened.settlement]
  · simp [opened.settlement]

/-- The current settlement of a sound round carries its id. -/
theorem Sound.currentSettlement_roundId (sound : Sound ledger)
    : ledger.currentSettlement.roundId = ledger.round.roundId := by
  unfold RoundLedger.currentSettlement
  cases known : ledger.settlement with
  | none => rfl
  | some settlement => exact sound.carried known

/-- A sound round without a pot movement yet has no settlement account. -/
theorem Sound.settlement_eq_none (sound : Sound ledger)
    (unsettled : ledger.currentSettlement.state = .none) : ledger.settlement = none := by
  cases known : ledger.settlement with
  | none => rfl
  | some settlement =>
      rw [RoundLedger.currentSettlement, known, Option.getD_some] at unsettled
      exact absurd unsettled (sound.settling known).1

@[simp] theorem finishedSettlement_roundId (settlement : RoundSettlement) (now : Int)
    : (finishedSettlement settlement now).roundId = settlement.roundId := by
  unfold finishedSettlement
  split <;> rfl

@[simp] theorem finishedSettlement_startedAt (settlement : RoundSettlement) (now : Int)
    : (finishedSettlement settlement now).startedAt = settlement.startedAt := by
  unfold finishedSettlement
  split <;> rfl

@[simp] theorem finishedSettlement_perEntrant (settlement : RoundSettlement) (now : Int)
    : (finishedSettlement settlement now).perEntrant = settlement.perEntrant := by
  unfold finishedSettlement
  split <;> rfl

/-- Finishing ends the refund or leaves the state as it is. -/
theorem finishedSettlement_state (settlement : RoundSettlement) (now : Int)
    : (finishedSettlement settlement now).state = .potRefunded
      ∨ (finishedSettlement settlement now).state = settlement.state := by
  unfold finishedSettlement
  split
  · exact .inl rfl
  · exact .inr rfl

/-- A refund keeps the round id and is pending or over. -/
theorem RefundPlanned.state {env : Env} {vault : Nat} {settling : Settling}
    (planned : RefundPlanned env ledger vault settling)
    : settling.settlement.roundId = ledger.currentSettlement.roundId
      ∧ (settling.settlement.state = .potRefunded
        ∨ settling.settlement.state = .potRefundPending) := by
  cases planned with
  | nothing => exact ⟨rfl, .inl rfl⟩
  | first _ _ _ paid =>
      rw [paid.settlement]
      exact ⟨finishedSettlement_roundId _ _, finishedSettlement_state _ _⟩
  | later pending paid =>
      rw [paid.settlement]
      refine ⟨finishedSettlement_roundId _ _, ?_⟩
      have state := finishedSettlement_state
        (paidSettlement ledger.currentSettlement settling.payments) env.now
      rwa [show (paidSettlement ledger.currentSettlement settling.payments).state
        = .potRefundPending from pending] at state

/-- What an accepted instruction does to the settlement of a sound round: it distributes or
refunds the pot, closes its vault, or leaves the settlement alone.
-/
inductive PotMove (ledger after : RoundLedger) : (submission : RoundSubmission) → Prop
  | distributed {env accounts settling pot}
    (planned : planDistribution env accounts ledger = .ok settling)
    (checks : DistributeChecks env ledger pot)
    (shared : PotShared ledger env.config.sgdMint pot settling.payments)
    (settled : Settled settling ledger after)
    (result : settling.settlement
      = distributedSettlement ledger.currentSettlement env.now settling.payments)
    : PotMove ledger after ⟨env, .distributePot accounts⟩
  | refunded {env accounts settling vault}
    (planned : planRefund env accounts ledger = .ok settling)
    (checks : RefundChecks env ledger vault)
    (plan : RefundPlanned env ledger vault settling)
    (settled : Settled settling ledger after)
    : PotMove ledger after ⟨env, .refundUnrevealedPot accounts⟩
  | closed {env surplusDestination}
    (swept : VaultSwept env surplusDestination ledger after)
    : PotMove ledger after ⟨env, .closePotVault surplusDestination⟩
  | still {submission : RoundSubmission} (unmoved : ¬ submission.instruction.MovesPot)
    (same : after.settlement = ledger.settlement)
    : PotMove ledger after submission

/-- Every accepted instruction is one of these moves. -/
theorem Sound.potMove (sound : Sound ledger) (success : roundStep ledger submission = .ok after)
    : PotMove ledger after submission := by
  by_cases moves : submission.instruction.MovesPot
  · obtain ⟨env, instruction⟩ := submission
    cases instruction with
    | distributePot accounts =>
        obtain ⟨settling, planned, settled⟩ := distributePot_success success
        obtain ⟨pot, checks, shared, result⟩ :=
          planDistribution_success sound.numbered sound.carried planned
        exact .distributed planned checks shared settled result
    | refundUnrevealedPot accounts =>
        obtain ⟨settling, planned, settled⟩ := refundUnrevealedPot_success success
        obtain ⟨vault, checks, plan⟩ :=
          planRefund_success sound.numbered sound.carried planned
        exact .refunded planned checks plan settled
    | closePotVault surplusDestination =>
        exact .closed (closePotVault_success success)
    | _ => exact moves.elim
  · exact .still moves ((roundStep_framed success).settlement moves)

/-- The settlement after an accepted instruction on the pot carries the round's id, is no
longer untouched, and belongs to a finalized round.
-/
theorem Sound.settled_of_step (sound : Sound ledger)
    (success : roundStep ledger submission = .ok after) {settlement : RoundSettlement}
    (stored : after.settlement = some settlement)
    : settlement.roundId = ledger.round.roundId
      ∧ settlement.state ≠ .none
      ∧ ledger.round.status = .finalized := by
  have kept (same : after.settlement = ledger.settlement)
      : settlement.roundId = ledger.round.roundId
        ∧ settlement.state ≠ .none
        ∧ ledger.round.status = .finalized :=
    ⟨sound.carried (same ▸ stored), sound.settling (same ▸ stored)⟩
  cases sound.potMove success with
  | distributed _ checks _ settled result =>
      obtain rfl := Option.some.inj (settled.settlement.symm.trans stored)
      rw [result]
      exact ⟨sound.currentSettlement_roundId, by simp [distributedSettlement], checks.finalized⟩
  | refunded _ checks plan settled =>
      obtain rfl := Option.some.inj (settled.settlement.symm.trans stored)
      refine ⟨plan.state.1.trans sound.currentSettlement_roundId, ?_, checks.finalized⟩
      rcases plan.state.2 with state | state <;> simp [state]
  | closed swept => exact kept (by rw [swept.frame])
  | still _ same => exact kept same

/-- Every accepted instruction keeps a round sound. -/
theorem Sound.step (sound : Sound ledger) (success : roundStep ledger submission = .ok after)
    : Sound after := by
  have advanced := roundStep_advanced success
  constructor
  · rw [advanced.roundId]
    exact sound.numbered
  · rcases roundStep_entries success with ⟨_, entryKey, entered⟩ | ⟨entries, participants⟩
    · rw [entered.participants, entered.roundEntries, List.length_cons, sound.counted]
    · rw [participants, entries.length_eq, sound.counted]
  · intro key member
    rcases roundStep_entries success with ⟨_, entryKey, entered⟩ | ⟨entries, _⟩
    · rw [entered.roundEntries] at member
      rcases List.mem_cons.mp member with rfl | old
      · exact entered.addressed
      · exact sound.addressed key old
    · exact sound.addressed key (entries.mem_iff.mp member)
  · intro settlement stored
    rw [advanced.roundId]
    exact (sound.settled_of_step success stored).1
  · intro settlement stored
    obtain ⟨_, state, finalized⟩ := sound.settled_of_step success stored
    exact ⟨state, advanced.finalized finalized⟩

/-- A round stays sound throughout every run. -/
theorem sound_of_run {condition : RoundLedger → RoundSubmission → Prop} {start : RoundLedger}
    (opened : start.Opened) {history : List RoundSubmission} {state : RoundLedger}
    (run : Run roundStep condition start history state) : Sound state :=
  run.invariant opened.sound fun sound _ success => sound.step success

--------------------------------------------------------------------------------
-- A started refund
--------------------------------------------------------------------------------

/-- A refund has started and not reached every entrant. -/
def RoundLedger.refundPending (ledger : RoundLedger) : Bool :=
  ledger.settlement.any (·.state == .potRefundPending)

/-- No bracket is applied while a refund is pending. -/
def AppliesBeforeRefund (ledger : RoundLedger) (submission : RoundSubmission) : Prop :=
  match submission.instruction with
  | .reveal (.applyBracketResult _) => ledger.refundPending = false
  | _ => True

instance (ledger : RoundLedger) (submission : RoundSubmission)
    : Decidable (AppliesBeforeRefund ledger submission) := by
  unfold AppliesBeforeRefund
  generalize submission.instruction = instruction
  rcases instruction
  case reveal revealed => rcases revealed <;> infer_instance
  all_goals infer_instance

/-- The round a pending refund was started on still qualifies for it. -/
structure Qualifies (round : CompetitionRound) (settlement : RoundSettlement) : Prop where
  finalized : round.status = .finalized
  unrevealed : round.scoringRevealed = false
  bounded : round.endTime + potRefundMinAgeSeconds < i64Bound
  due : round.endTime + potRefundMinAgeSeconds ≤ settlement.startedAt

/-- Rounds with a pending refund qualify for it. -/
def PendingQualify (ledger : RoundLedger) : Prop :=
  ∀ settlement, ledger.settlement = some settlement
    → settlement.state = .potRefundPending
    → Qualifies ledger.round settlement

/-- A refund that goes on after this batch was started on a round that qualifies. -/
theorem RefundPlanned.qualifies {env : Env} {vault : Nat} {settling : Settling}
    (known : PendingQualify ledger) (checks : RefundChecks env ledger vault)
    (planned : RefundPlanned env ledger vault settling)
    (pending : settling.settlement.state = .potRefundPending)
    : Qualifies ledger.round settling.settlement := by
  cases planned with
  | nothing => cases pending
  | first _ _ _ paid =>
      refine ⟨checks.finalized, checks.unrevealed, checks.bounded, ?_⟩
      rw [paid.settlement, finishedSettlement_startedAt]
      exact checks.due
  | later started paid =>
      refine ⟨checks.finalized, checks.unrevealed, checks.bounded, ?_⟩
      rw [paid.settlement, finishedSettlement_startedAt]
      exact (known _ (RoundLedger.settlement_of_pending started) started).due

/-- Accepted instructions that meet the condition keep pending refunds qualified. -/
theorem PendingQualify.step (known : PendingQualify ledger) (sound : Sound ledger)
    (met : AppliesBeforeRefund ledger submission)
    (success : roundStep ledger submission = .ok after) : PendingQualify after := by
  have advanced := roundStep_advanced success
  have carry {settlement : RoundSettlement} (round : Qualifies ledger.round settlement)
      (reveal : after.round.scoringRevealed = ledger.round.scoringRevealed)
      : Qualifies after.round settlement :=
    ⟨advanced.finalized round.finalized, reveal.trans round.unrevealed,
      by rw [advanced.endTime]; exact round.bounded,
      by rw [advanced.endTime]; exact round.due⟩
  intro settlement stored pending
  cases sound.potMove success with
  | distributed _ _ _ settled result =>
      obtain rfl := Option.some.inj (settled.settlement.symm.trans stored)
      rw [result] at pending
      cases pending
  | refunded _ checks plan settled =>
      obtain rfl := Option.some.inj (settled.settlement.symm.trans stored)
      exact carry (plan.qualifies known checks pending) (by rw [settled.frame])
  | closed swept =>
      have same : after.settlement = ledger.settlement := by rw [swept.frame]
      exact carry (known _ (same ▸ stored) pending) (by rw [swept.frame])
  | still _ same =>
      rw [same] at stored
      refine carry (known _ stored pending) ?_
      apply (roundStep_revealKept success _).revealed
      intro resultIndex applies
      simp [AppliesBeforeRefund, applies, RoundLedger.refundPending, stored, pending] at met

/-- The checks of a refund before it looks at its accounts. -/
def RefundResumes (ledger : RoundLedger) (settlement : RoundSettlement) (env : Env) : Prop :=
  refundEligibility env ledger = .ok ()
  ∧ openSettlement ledger = .ok settlement
  ∧ requireRefundable settlement = .ok ()

/-- While no bracket is applied to a round whose refund is pending, a started refund is never
wedged: the round stays unrevealed, and every later batch passes the guards.
-/
theorem pending_refund_resumes {start : RoundLedger} (opened : start.Opened)
    {history : List RoundSubmission} {state : RoundLedger}
    (run : Run roundStep AppliesBeforeRefund start history state)
    {settlement : RoundSettlement} (stored : state.settlement = some settlement)
    (pending : settlement.state = .potRefundPending)
    : state.round.scoringRevealed = false
      ∧ ∀ env : Env, settlement.startedAt ≤ env.now
        → env.config.sgdMint ≠ 0
        → RefundResumes state settlement env := by
  have sound := sound_of_run opened run
  have qualify : PendingQualify state := by
    apply run.invariant_with (fun run => sound_of_run opened run)
    · intro settlement found
      simp [opened.settlement] at found
    · exact fun sound known met success => PendingQualify.step known sound met success
  have round := qualify _ stored pending
  refine ⟨round.unrevealed, fun env later mint => ⟨?_, ?_, ?_⟩⟩
  · exact refundEligibility_eq_ok.mpr
      ⟨round.finalized, round.unrevealed, round.bounded, round.due.trans later, mint⟩
  · rw [openSettlement_eq_ok sound.numbered sound.carried, RoundLedger.currentSettlement,
      stored, Option.getD_some]
  · exact requireRefundable_eq_ok.mpr (.inr pending)

--------------------------------------------------------------------------------
-- A sample round
--------------------------------------------------------------------------------

/-- A round opened at time 0 whose vault is empty; player `100 + i` has the token account
`300 + i`.
-/
def sampleRound (players : List Nat) : RoundLedger :=
  { round := openedRound 1 0 (sampleTargets, 2)
    entries := ∅
    bracket := none
    tier1 := none
    results := ∅
    computations := ∅
    scoreComputations := ∅
    settlement := none
    vaults := (∅ : Store Pubkey Nat).insert 9 0
    wallets := players.foldr
      (fun i wallets => wallets.insert (300 + i)
        { owner := 100 + i, mint := 9, amount := entryFeeSgd })
      ∅ }

theorem sampleRound_opened (players : List Nat) : (sampleRound players).Opened :=
  ⟨⟨rfl, rfl, rfl, rfl⟩, ⟨1, 0, _, le_rfl, rfl⟩, by simp [sampleRound], rfl, rfl⟩

/-- What the authority submits at a time. -/
def authorityAt (now : Int) (instruction : RoundInstruction) : RoundSubmission :=
  ⟨{ authorityEnv with now := now }, instruction⟩

/-- The address of player `100 + i`'s first bred flower. -/
def sampleFlowerKey (i : Nat) : FlowerKey := ⟨100 + i, starterCount⟩

/-- An active flower player `100 + i` bred. -/
def sampleFlower (i : Nat) : FlowerRecord :=
  { owner := 100 + i
    flowerIndex := starterCount
    visualSpeciesId := hybridVisualSpeciesId
    generation := 1
    rarity := 1
    stability := 95
    revealedTraitMask := 0
    parentA := some ⟨100 + i, 0⟩
    parentB := some ⟨100 + i, 1⟩
    genomeStatus := .encrypted
    sourceExperiment := some ⟨100 + i, 0⟩
    status := .active
    createdAt := 0
    encryptedGenome := 1
    encryptionMetadata := 1
    genomeCommitment := sha256 (genomeBytes 1 1)
    timesBredAsParent := 0
    lastTransferAt := 0 }

/-- Player `100 + i` enters with an active flower, as entry `i`. -/
def playerEnters (i : Nat) : RoundSubmission :=
  ⟨{ authorityEnv with signer := 100 + i },
    .submitEntry i (sampleFlowerKey i) (sampleFlower i) (300 + i)⟩

/-- Entry `i` is scored through its own computation. -/
def scoreEntry (i : Nat) : List RoundSubmission :=
  [authorityAt 0 (.queueScoreEntry (60 + i) i (sampleFlowerKey i)),
    authorityAt 0 (.scoreEntryV2Callback (60 + i) (some (i, 0)))]

/-- The players enter and the round is closed, scored and finalized. -/
def playedScript (players : List Nat) : List RoundSubmission :=
  players.map playerEnters ++ [authorityAt 0 .closeRound]
    ++ players.flatMap scoreEntry ++ [authorityAt 0 .finalizeRound]

/-- The first moment an unrevealed sample round may be refunded. -/
def refundTime : Int := roundEndTime 0 + potRefundMinAgeSeconds

/-- The first of two entrants is refunded. -/
def startedRefundScript : List RoundSubmission :=
  playedScript [1, 2] ++ [authorityAt refundTime (.refundUnrevealedPot [1, 301])]

/-- A started refund whose round is not revealed meanwhile resumes. -/
theorem startedRefundScript_resumes
    : ∃ state settlement,
        Run roundStep AppliesBeforeRefund (sampleRound [1, 2]) startedRefundScript state
        ∧ state.settlement = some settlement
        ∧ settlement.state = .potRefundPending
        ∧ RefundResumes state settlement { authorityEnv with now := settlement.startedAt } := by
  have replayed : (replay roundStep AppliesBeforeRefund (sampleRound [1, 2])
      startedRefundScript).any RoundLedger.refundPending := by
    decide +kernel
  obtain ⟨state, run, checked⟩ := Run.of_replay_any replayed
  obtain ⟨settlement, stored, pending⟩ := (Option.any_eq_true _ _).mp checked
  have state_eq := eq_of_beq pending
  exact ⟨state, settlement, run, stored, state_eq,
    (pending_refund_resumes (sampleRound_opened _) run stored state_eq).2 _ le_rfl
      (by simp [authorityEnv])⟩

/-- The finalized round is revealed between two batches of its refund. -/
def lateRevealScript : List RoundSubmission :=
  startedRefundScript
    ++ [pinOneShard 2, .queueShardReveal 51 0 [1, 2],
      .revealTop3V5Callback 51 true, .collectShardWinners 0 [1, 2],
      .applyBracketResult 0].map fun instruction => authorityAt refundTime (.reveal instruction)

/-- A bracket applied to a round whose refund is pending wedges the refund. -/
theorem late_reveal_wedges
    : ¬ ∀ start : RoundLedger, start.Opened
        → ∀ (history : List RoundSubmission) (state : RoundLedger),
          Run roundStep anyAction start history state
          → ∀ settlement, state.settlement = some settlement
          → settlement.state = .potRefundPending
          → state.round.scoringRevealed = false := by
  intro always
  have replayed : (replay roundStep anyAction (sampleRound [1, 2]) lateRevealScript).any
      fun state => state.refundPending && state.round.scoringRevealed := by
    decide +kernel
  obtain ⟨state, run, checked⟩ := Run.of_replay_any replayed
  obtain ⟨started, revealed⟩ := Bool.and_eq_true_iff.mp checked
  obtain ⟨settlement, stored, pending⟩ := (Option.any_eq_true _ _).mp started
  have hidden := always _ (sampleRound_opened _) _ _ run settlement stored (eq_of_beq pending)
  simp [revealed] at hidden

end SecretGarden.Settlement
