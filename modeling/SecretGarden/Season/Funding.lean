import SecretGarden.Season.Machine

/-! One round under an unchanged mint: while its pot is not settled, the fees of all its
entries lie in the vault of that mint, and settling pays them out.
-/

namespace SecretGarden.Season

open Foundation SecretGarden.Bracket SecretGarden.Settlement

variable {state : JournaledRound} {after : RoundLedger} {submission : RoundSubmission}
  {mint : Pubkey}

/-- The settlement account says the pot has finished moving. -/
def isSettled (ledger : RoundLedger) : Bool := ledger.settlement.any RoundSettlement.isTerminal

/-- Where the fees of a round are while `mint` is configured: before any settlement in the
vault of `mint`, during a refund under terms that return every fee from that vault, and after
the settlement with their winners or entrants.
-/
structure Funded (mint : Pubkey) (state : JournaledRound) : Prop where
  sound : Sound state.system
  crowned : Crowned state.system
  past : PotHistory state
  refunds : RefundsKnown state
  conserved : Conserved state
  charged : isSettled state.system = false → ∀ other, state.journal.fees other
    = if other = mint then entryFeeSgd * state.system.round.participantCount else 0
  held : state.system.settlement = none
    → entryFeeSgd * state.system.round.participantCount ≤ state.system.balance mint
  refunding : ∀ settlement, state.system.settlement = some settlement
    → settlement.state = .potRefundPending
    → settlement.perEntrant = entryFeeSgd
      ∧ 0 < state.system.round.participantCount
      ∧ ∀ terms, state.journal.terms = some terms → terms.mint = mint
  settled : isSettled state.system
    → ∀ other, state.journal.fees other ≤ state.journal.paid other

/-- A round that was just opened has no fees to account for. -/
theorem funded_of_opened {ledger : RoundLedger} (opened : ledger.Opened)
    : Funded mint ledger.journaled := by
  obtain ⟨roundId, now, _, _, round⟩ := opened.round
  have unentered : ledger.round.participantCount = 0 := by
    rw [round]
    rfl
  refine ⟨opened.sound, opened.crowned, opened.potHistory, ?_, ledger.conserved, ?_, ?_, ?_, ?_⟩
  · intro settlement stored
    simp [RoundLedger.journaled, opened.settlement] at stored
  · intro _ other
    simp [RoundLedger.journaled, PotJournal.blank, unentered]
  · intro _
    simp [RoundLedger.journaled, unentered]
  · intro settlement stored
    simp [RoundLedger.journaled, opened.settlement] at stored
  · intro settled
    simp [RoundLedger.journaled, isSettled, opened.settlement] at settled

/-- Another mint may be configured once the round is settled or when nobody entered it. -/
theorem Funded.moveMint (funded : Funded mint state)
    (ended : state.system.round.participantCount = 0 ∨ isSettled state.system) (next : Pubkey)
    : Funded next state := by
  have unpending {settlement : RoundSettlement}
      (stored : state.system.settlement = some settlement)
      (pending : settlement.state = .potRefundPending) : False := by
    rcases ended with unentered | settled
    · have entered := (funded.refunding settlement stored pending).2.1
      omega
    · rw [isSettled, stored, Option.any_some, RoundSettlement.isTerminal, pending] at settled
      cases settled
  refine { funded with charged := ?_, held := ?_, refunding := ?_ }
  · intro unsettled other
    rcases ended with unentered | settled
    · have bare := funded.charged unsettled other
      rw [unentered, Nat.mul_zero, ite_self] at bare ⊢
      exact bare
    · rw [settled] at unsettled
      cases unsettled
  · intro absent
    rcases ended with unentered | settled
    · rw [unentered, Nat.mul_zero]
      exact Nat.zero_le _
    · rw [isSettled, absent] at settled
      cases settled
  · exact fun settlement stored pending => (unpending stored pending).elim

/-- A refund under a funded round runs in the mint its first batch fixed. -/
theorem Funded.refundMintKept (funded : Funded mint state)
    (configured : submission.env.config.sgdMint = mint)
    (success : roundStep state.system submission = .ok after)
    : RefundMintKept state submission := by
  obtain ⟨env, instruction⟩ := submission
  cases instruction with
  | refundUnrevealedPot accounts =>
      obtain ⟨settling, planned, _⟩ := refundUnrevealedPot_success success
      obtain ⟨vault, _, plan⟩ :=
        planRefund_success funded.sound.numbered funded.sound.carried planned
      rcases plan.before funded.sound with absent | ⟨settlement, stored, pending⟩
      · simp [RefundMintKept, (funded.past.untouched absent).2.2]
      · have fixed := (funded.refunding settlement stored pending).2.2
        cases known : state.journal.terms with
        | none => simp [RefundMintKept, known]
        | some terms =>
            have same : env.config.sgdMint = mint := configured
            simp [RefundMintKept, known, fixed terms known, same]
  | _ => trivial

/-- The facts that hold whatever the mint. -/
theorem Funded.common (funded : Funded mint state) (submission : RoundSubmission)
    (configured : submission.env.config.sgdMint = mint)
    (success : roundStep state.system submission = .ok after)
    : Sound after
      ∧ Crowned after
      ∧ PotHistory ⟨after, notePot state.system submission state.journal⟩
      ∧ RefundsKnown ⟨after, notePot state.system submission state.journal⟩
      ∧ Conserved ⟨after, notePot state.system submission state.journal⟩ :=
  ⟨funded.sound.step success, funded.crowned.step success,
    funded.past.step funded.sound success,
    RefundsKnown.step funded.refunds funded.sound funded.past
      (funded.refundMintKept configured success) success,
    Conserved.step funded.conserved (journaled_eq_ok.mpr ⟨success, rfl⟩)⟩

/-- A payment out of one vault for all fees covers them. -/
theorem fees_le_of_paid {fees : Pubkey → Nat} {payments : List Payment} {owed : Nat}
    (charged : ∀ other, fees other = if other = mint then owed else 0)
    (paid : owed ≤ amountIn mint payments) (other : Pubkey)
    : fees other ≤ amountIn other payments := by
  rw [charged other]
  split
  · next same => rwa [same]
  · exact Nat.zero_le _

/-- A distribution pays the fees of a funded round to its winners. -/
theorem Funded.distribute (funded : Funded mint state) {env : Env} {accounts : List Pubkey}
    (configured : env.config.sgdMint = mint)
    (success : distributePot env accounts state.system = .ok after)
    : Funded mint ⟨after, notePot state.system ⟨env, .distributePot accounts⟩ state.journal⟩ := by
  obtain ⟨sound, crowned, past, refunds, conserved⟩ :=
    funded.common ⟨env, .distributePot accounts⟩ configured success
  obtain ⟨settling, planned, settled⟩ := distributePot_success success
  obtain ⟨pot, checks, shared, result⟩ :=
    planDistribution_success funded.sound.numbered funded.sound.carried planned
  have untouched := funded.sound.undistributed checks
  obtain ⟨entered, won⟩ := funded.crowned.won funded.sound checks.revealed
  have unsettled : isSettled state.system = false := by rw [isSettled, untouched]; rfl
  have ended : isSettled after := by
    rw [isSettled, settled.settlement, result]
    rfl
  have pot_eq : state.system.balance mint = pot := by
    rw [← configured, RoundLedger.balance, checks.vault, Option.getD_some]
  have enough := funded.held untouched
  rw [pot_eq] at enough
  have filled : 1 ≤ pot := by
    have fee : 1 ≤ entryFeeSgd := by decide
    exact (Nat.mul_pos fee entered).trans_le enough
  have split := shared.split won filled
  refine ⟨sound, crowned, past, refunds, conserved, ?_, ?_, ?_, ?_⟩
  · intro not
    rw [ended] at not
    cases not
  · intro absent
    rw [settled.settlement] at absent
    cases absent
  · intro settlement stored pending
    obtain rfl := Option.some.inj (settled.settlement.symm.trans stored)
    rw [result] at pending
    cases pending
  · intro _
    obtain ⟨undistributed, unrefunded, _⟩ := funded.past.untouched untouched
    rw [notePot_distribute planned]
    simp only [PotJournal.paid, PotJournal.payments, PotJournal.distribute, undistributed,
      unrefunded, List.nil_append, List.flatten_cons, List.flatten_nil, List.append_nil]
    apply fees_le_of_paid (funded.charged unsettled)
    rw [amountIn_of_mint fun payment member =>
      (split.players payment member).mint.trans configured, split.total]
    exact enough

/-- What a refund of a funded round finds: fees that are not settled yet, and terms that return
the fee to every entrant, if anyone entered.
-/
structure RefundFound (mint : Pubkey) (state : JournaledRound) (settling : Settling) : Prop where
  unsettled : isSettled state.system = false
  undistributed : state.journal.distributions = []
  terms : ∀ terms, state.journal.terms = some terms → terms.mint = mint
  owed : 0 < state.system.round.participantCount
    → settling.settlement.perEntrant = entryFeeSgd
  unentered : settling.settlement.state = .potRefundPending
    → 0 < state.system.round.participantCount

/-- A vault that holds every fee affords the fee for everyone. -/
theorem frozenTerms_perEntrant {ledger : RoundLedger} {vault : Nat} (now : Int)
    (entered : 0 < ledger.round.participantCount)
    (enough : entryFeeSgd * ledger.round.participantCount ≤ vault)
    : (frozenTerms ledger vault now).perEntrant = entryFeeSgd :=
  min_eq_left ((Nat.le_div_iff_mul_le entered).mpr enough)

/-- Refunds found nothing settled, by cases on how they proceed. -/
theorem Funded.refundFound (funded : Funded mint state) {env : Env} {vault : Nat}
    {settling : Settling} (configured : env.config.sgdMint = mint)
    (held : state.system.vaults.lookup env.config.sgdMint = some vault)
    (planned : RefundPlanned env state.system vault settling)
    : RefundFound mint state settling := by
  have enough (absent : state.system.settlement = none)
      : entryFeeSgd * state.system.round.participantCount ≤ vault := by
    have fees := funded.held absent
    rwa [← configured, RoundLedger.balance, held, Option.getD_some] at fees
  have first (absent : state.system.settlement = none)
      (owed : 0 < state.system.round.participantCount
        → settling.settlement.perEntrant = entryFeeSgd)
      (unentered : settling.settlement.state = .potRefundPending
        → 0 < state.system.round.participantCount)
      : RefundFound mint state settling := by
    obtain ⟨undistributed, _, unfixed⟩ := funded.past.untouched absent
    refine ⟨?_, undistributed, ?_, owed, unentered⟩
    · rw [isSettled, absent]
      rfl
    · simp [unfixed]
  cases planned with
  | nothing unsettled empty =>
      have absent := funded.sound.settlement_eq_none unsettled
      refine first absent (fun entered => ?_) fun pending => by cases pending
      exact frozenTerms_perEntrant env.now entered (enough absent)
  | first unsettled entered owed paid =>
      have absent := funded.sound.settlement_eq_none unsettled
      have someone := Nat.pos_of_ne_zero entered
      refine first absent (fun _ => ?_) fun _ => someone
      rw [paid.settlement, finishedSettlement_perEntrant]
      exact frozenTerms_perEntrant env.now someone (enough absent)
  | later pending paid =>
      have stored := RoundLedger.settlement_of_pending pending
      obtain ⟨fee, someone, terms⟩ := funded.refunding _ stored pending
      refine ⟨?_, funded.past.unpaid _ stored (by simp [pending]), terms, fun _ => ?_,
        fun _ => someone⟩
      · rw [isSettled, stored, Option.any_some, RoundSettlement.isTerminal, pending]
        rfl
      · rw [paid.settlement, finishedSettlement_perEntrant]
        exact fee

/-- A refund of a funded round returns the fee to every entrant. -/
theorem Funded.refund (funded : Funded mint state) {env : Env} {accounts : List Pubkey}
    (configured : env.config.sgdMint = mint)
    (success : refundUnrevealedPot env accounts state.system = .ok after)
    : Funded mint
        ⟨after, notePot state.system ⟨env, .refundUnrevealedPot accounts⟩ state.journal⟩ := by
  obtain ⟨sound, crowned, past, refunds, conserved⟩ :=
    funded.common ⟨env, .refundUnrevealedPot accounts⟩ configured success
  obtain ⟨settling, planned, settled⟩ := refundUnrevealedPot_success success
  obtain ⟨vault, checks, plan⟩ :=
    planRefund_success funded.sound.numbered funded.sound.carried planned
  have found := funded.refundFound configured checks.held plan
  have participants : after.round = state.system.round := by rw [settled.frame]
  have charged := funded.charged found.unsettled
  have fees : (notePot state.system ⟨env, .refundUnrevealedPot accounts⟩ state.journal).fees
      = state.journal.fees := by
    rw [notePot_refund planned]
    rfl
  have minted (terms : RefundTerms)
      (fixed : (notePot state.system ⟨env, .refundUnrevealedPot accounts⟩ state.journal).terms
        = some terms)
      : terms.mint = mint := by
    rw [notePot_refund planned] at fixed
    obtain rfl := Option.some.inj fixed
    cases known : state.journal.terms with
    | none => exact configured
    | some terms => exact found.terms terms known
  refine ⟨sound, crowned, past, refunds, conserved, ?_, ?_, ?_, ?_⟩
  · intro _
    rw [participants, fees]
    exact charged
  · intro absent
    rw [settled.settlement] at absent
    cases absent
  · intro settlement stored pending
    obtain rfl := Option.some.inj (settled.settlement.symm.trans stored)
    have entered := found.unentered pending
    rw [participants]
    exact ⟨found.owed entered, entered, minted⟩
  · intro ended other
    rw [isSettled, settled.settlement, Option.any_some] at ended
    have finished : settling.settlement.state = .potRefunded := by
      rcases plan.state.2 with state | state
      · exact state
      · rw [RoundSettlement.isTerminal, state] at ended
        cases ended
    have unpaid : settling.settlement.state ≠ .potPaid := by simp [finished]
    obtain ⟨terms, fixed, refunded⟩ := refunds settling.settlement settled.settlement unpaid
    have undistributed := past.unpaid settling.settlement settled.settlement unpaid
    rw [fees, PotJournal.paid, PotJournal.payments, undistributed, List.flatten_nil,
      List.nil_append]
    apply fees_le_of_paid charged
    rcases Nat.eq_zero_or_pos state.system.round.participantCount with unentered | entered
    · rw [unentered, Nat.mul_zero]
      exact Nat.zero_le _
    · have fee := found.owed entered
      have everyone := refunded.finished finished (by rw [fee]; decide)
      have count := sound.counted
      rw [participants, ← refunded.entrants] at count
      rw [← minted terms fixed, refunded.amountIn_refunds, fee, everyone, count]

--------------------------------------------------------------------------------
-- Every instruction
--------------------------------------------------------------------------------

/-- Only a submission notes a fee. -/
theorem notePot_fees (ledger : RoundLedger) (journal : PotJournal)
    (other : ¬ submission.instruction.Enters)
    : (notePot ledger submission journal).fees = journal.fees := by
  obtain ⟨env, instruction⟩ := submission
  cases instruction with
  | submitEntry => exact absurd trivial other
  | outside event => cases event <;> rfl
  | _ => rfl

/-- An entry pays its fee into the vault of the configured mint. -/
theorem Funded.enter (funded : Funded mint state) {entryKey playerSgdAta : Pubkey}
    {flowerKey : FlowerKey} {flower : FlowerRecord} {env : Env}
    (configured : env.config.sgdMint = mint)
    (success : submitEntry env entryKey flowerKey flower playerSgdAta state.system = .ok after)
    : Funded mint ⟨after, notePot state.system
        ⟨env, .submitEntry entryKey flowerKey flower playerSgdAta⟩ state.journal⟩ := by
  have accepted : roundStep state.system
      ⟨env, .submitEntry entryKey flowerKey flower playerSgdAta⟩ = .ok after := success
  obtain ⟨sound, crowned, past, refunds, conserved⟩ := funded.common _ configured accepted
  have entered := submitEntry_entered success
  have absent : state.system.settlement = none := by
    cases stored : state.system.settlement with
    | none => rfl
    | some settlement =>
        have finalized := (funded.sound.settling stored).2
        exact absurd (entered.opened.symm.trans finalized) (by simp)
  have still : after.settlement = none :=
    ((roundStep_framed accepted).settlement id).trans absent
  have unsettled : isSettled state.system = false := by
    rw [isSettled, absent]
    rfl
  refine ⟨sound, crowned, past, refunds, conserved, ?_, ?_, ?_, ?_⟩
  · intro _ other
    have before := funded.charged unsettled
    simp only [notePot, configured, Function.update_apply, before, if_true,
      entered.participants]
    split
    · rw [Nat.mul_add_one]
    · rfl
  · intro _
    have before := funded.held absent
    rw [entered.participants, entered.balance, if_pos configured.symm, Nat.mul_add_one]
    exact Nat.add_le_add_right before _
  · intro settlement stored
    rw [still] at stored
    cases stored
  · intro settled
    rw [isSettled, still] at settled
    cases settled

/-- Instructions that keep settlement, participants and journal keep a round funded, as long
as they take nothing from a vault that still owes fees.
-/
theorem Funded.keep (funded : Funded mint state)
    (configured : submission.env.config.sgdMint = mint)
    (success : roundStep state.system submission = .ok after)
    (settlement : after.settlement = state.system.settlement)
    (other : ¬ submission.instruction.Enters)
    (payments
      : PaymentsKept state.journal (notePot state.system submission state.journal))
    (balance : state.system.settlement = none → 0 < state.system.round.participantCount
      → state.system.balance mint ≤ after.balance mint)
    : Funded mint ⟨after, notePot state.system submission state.journal⟩ := by
  obtain ⟨sound, crowned, past, refunds, conserved⟩ := funded.common submission configured success
  have participants : after.round.participantCount
      = state.system.round.participantCount := by
    rcases roundStep_entries success with ⟨enters, _⟩ | ⟨_, participants⟩
    · exact absurd enters other
    · exact participants
  have fees := notePot_fees state.system state.journal other
  have same : isSettled after = isSettled state.system := by rw [isSettled, isSettled, settlement]
  refine ⟨sound, crowned, past, refunds, conserved, ?_, ?_, ?_, ?_⟩
  · rw [same, participants, fees]
    exact funded.charged
  · intro absent
    have before := settlement.symm.trans absent
    rw [participants]
    rcases Nat.eq_zero_or_pos state.system.round.participantCount with unentered | entered
    · rw [unentered, Nat.mul_zero]
      exact Nat.zero_le _
    · exact (funded.held before).trans (balance before entered)
  · rw [settlement, participants, payments.terms]
    exact funded.refunding
  · intro settled other
    rw [same] at settled
    rw [fees, PotJournal.paid, PotJournal.payments, payments.distributions, payments.refunds]
    exact funded.settled settled other

/-- Every accepted instruction under an unchanged mint keeps a round funded, by cases on what
moves its pot.
-/
theorem Funded.step (funded : Funded mint state)
    (configured : submission.env.config.sgdMint = mint)
    (success : roundStep state.system submission = .ok after)
    : Funded mint ⟨after, notePot state.system submission state.journal⟩ := by
  by_cases moves : submission.instruction.MovesPot
  · obtain ⟨env, instruction⟩ := submission
    cases instruction with
    | distributePot accounts => exact funded.distribute configured success
    | refundUnrevealedPot accounts => exact funded.refund configured success
    | closePotVault surplusDestination =>
        have swept := closePotVault_success success
        refine funded.keep configured success (by rw [swept.frame]) id ⟨rfl, rfl, rfl⟩ ?_
        intro absent entered
        rcases requireClosable_success swept.closable with ⟨_, found, _⟩ | ⟨_, unentered⟩
        · rw [absent] at found
          cases found
        · omega
    | _ => exact moves.elim
  · by_cases enters : submission.instruction.Enters
    · obtain ⟨env, instruction⟩ := submission
      cases instruction with
      | submitEntry entryKey flowerKey flower playerSgdAta =>
          exact funded.enter configured success
      | _ => exact enters.elim
    · have framed := roundStep_framed success
      exact funded.keep configured success (framed.settlement moves) enters
        (notePot_kept _ _ moves) fun _ _ => framed.balance moves mint

end SecretGarden.Season
