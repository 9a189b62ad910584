import SecretGarden.Settlement.Refunds

/-! A pot is settled one way, once and completely: winners or entrants, an exact split, and no
sweep before the settlement is terminal.
-/

namespace SecretGarden.Settlement

open Foundation SecretGarden.Bracket

variable {ledger after : RoundLedger} {state : JournaledRound}

/-- A distribution among `k` winners: one payment for each in rank order, to a token account of
the configured mint owned by the entry's player; equal amounts, the last with the remainder;
together the whole pot.
-/
structure PotSplit (ledger : RoundLedger) (mint pot : Nat) (payments : List Payment)
    : Prop where
  ranked : payments.map Payment.entry = potWinners ledger.round
  players : ∀ payment ∈ payments, PaysPlayer ledger mint payment
  amounts : payments.map Payment.amount
    = List.replicate (payments.length - 1) (pot / payments.length)
      ++ [pot / payments.length + pot % payments.length]
  positive : ∀ payment ∈ payments, 1 ≤ payment.amount
  total : (payments.map Payment.amount).sum = pot

/-- Shares of a pot that someone won split it exactly. -/
theorem PotShared.split {mint pot : Nat} {payments : List Payment}
    (shared : PotShared ledger mint pot payments) (won : potWinners ledger.round ≠ [])
    (filled : 1 ≤ pot) : PotSplit ledger mint pot payments := by
  cases shared with
  | nothing empty =>
      rcases empty with none | drained
      · exact absurd none won
      · omega
  | shared _ enough ranked players amounts =>
      have count : payments.length = (potWinners ledger.round).length := by
        rw [← ranked, List.length_map]
      have nonempty : 1 ≤ (potWinners ledger.round).length := List.length_pos_iff.mpr won
      refine ⟨ranked, players, ?_, ?_, ?_⟩
      · rw [amounts, count, evenShares, last_evenShare nonempty]
      · intro payment member
        apply one_le_of_mem_evenShares nonempty enough
        rw [← amounts]
        exact List.mem_map_of_mem member
      · rw [amounts, sum_evenShares]

/-- The shares of a pot that someone won take all of it out of the vault. -/
theorem PotShared.amountIn {mint pot : Nat} {payments : List Payment}
    (shared : PotShared ledger mint pot payments) (won : potWinners ledger.round ≠ [])
    : amountIn mint payments = pot := by
  rcases Nat.eq_zero_or_pos pot with drained | filled
  · subst drained
    cases shared with
    | nothing => rfl
    | shared _ enough => exact absurd (List.length_eq_zero_iff.mp (Nat.le_zero.mp enough)) won
  · have split := shared.split won filled
    rw [amountIn_of_mint fun payment member => (split.players payment member).mint, split.total]

/-- What an accepted distribution did: it split the pot among the winners, their token accounts
received exactly their shares, and the vault is empty.
-/
structure PotDistributed (env : Env) (pot : Nat) (state later : JournaledRound)
    (payments : List Payment) : Prop where
  noted : later.journal.distributions = state.journal.distributions ++ [payments]
  split : PotSplit state.system env.config.sgdMint pot payments
  paid : PaidOut payments state.system later.system
  emptied : later.system.balance env.config.sgdMint = 0

/-- Payments that take all a vault holds leave it empty. -/
theorem PaidOut.emptied {mint : Pubkey} {payments : List Payment}
    (paid : PaidOut payments ledger after) (all : amountIn mint payments = ledger.balance mint)
    : after.balance mint = 0 := by
  have moved := paid.moved mint
  omega

/-- An accepted distribution of a pot that someone won. -/
theorem Sound.distribution {env : Env} {accounts : List Pubkey} {later : JournaledRound}
    (sound : Sound state.system)
    (success : journaledRound state ⟨env, .distributePot accounts⟩ = .ok later) {pot : Nat}
    (held : state.system.vaults.lookup env.config.sgdMint = some pot)
    (won : potWinners state.system.round ≠ []) (filled : 1 ≤ pot)
    : ∃ payments, PotDistributed env pot state later payments := by
  obtain ⟨accepted, noted⟩ := journaled_eq_ok.mp success
  obtain ⟨settling, planned, settled⟩ := distributePot_success accepted
  obtain ⟨vault, checks, shared, _⟩ :=
    planDistribution_success sound.numbered sound.carried planned
  obtain rfl := Option.some.inj (checks.vault.symm.trans held)
  refine ⟨settling.payments, ?_, shared.split won filled, settled.paid, settled.paid.emptied ?_⟩
  · rw [noted, notePot_distribute planned]
    rfl
  · rw [shared.amountIn won, RoundLedger.balance, held, Option.getD_some]

/-- An accepted close found a terminal settlement, or a round nobody ever entered. -/
theorem Sound.closable (sound : Sound ledger) {env : Env} {surplusDestination : Pubkey}
    (success : closePotVault env surplusDestination ledger = .ok after)
    : (∃ settlement, ledger.settlement = some settlement ∧ settlement.isTerminal)
      ∨ ledger.roundEntries = [] := by
  have closable := (closePotVault_success success).closable
  rcases requireClosable_success closable with terminal | ⟨_, unentered⟩
  · exact .inl terminal
  · rw [sound.counted] at unentered
    exact .inr (List.length_eq_zero_iff.mp unentered)

/-- A terminal settlement stays as it is in every continuation of a run. -/
theorem terminal_permanent {condition : JournaledRound → RoundSubmission → Prop}
    (sound : Sound state.system) {settlement : RoundSettlement}
    (stored : state.system.settlement = some settlement) (terminal : settlement.isTerminal)
    {history : List RoundSubmission} {later : JournaledRound}
    (run : Run journaledRound condition state history later)
    : later.system.settlement = some settlement := by
  have both : Sound later.system ∧ later.system.settlement = some settlement := by
    apply run.invariant ⟨sound, stored⟩
    intro before submission after known _ success
    have accepted := (journaled_eq_ok.mp success).1
    exact ⟨known.1.step accepted, known.1.terminal_kept accepted known.2 terminal⟩
  exact both.2

/-- How a pot is settled: not both ways, at most once, for good, exactly, and not swept while
anyone is owed.
-/
structure SettledOnce (state : JournaledRound) : Prop where
  exclusive : state.journal.distributions.flatten = [] ∨ state.journal.refunds = []
  once : state.journal.distributions.length ≤ 1
  permanent : ∀ settlement, state.system.settlement = some settlement
    → settlement.isTerminal
    → ∀ history later, Run journaledRound anyAction state history later
    → later.system.settlement = some settlement
  split : ∀ env accounts later pot,
    journaledRound state ⟨env, .distributePot accounts⟩ = .ok later
    → state.system.vaults.lookup env.config.sgdMint = some pot
    → potWinners state.system.round ≠ []
    → 1 ≤ pot
    → ∃ payments, PotDistributed env pot state later payments
  closes : ∀ env surplusDestination after,
    closePotVault env surplusDestination state.system = .ok after
    → (∃ settlement, state.system.settlement = some settlement ∧ settlement.isTerminal)
      ∨ state.system.roundEntries = []

/-- In every reachable state of a round, its pot is settled once. -/
theorem settled_once {start : RoundLedger} (opened : start.Opened)
    {history : List RoundSubmission}
    (run : Run journaledRound anyAction start.journaled history state) : SettledOnce state := by
  have sound := sound_of_journaled opened run
  have past := potHistory_of_run opened run
  constructor
  · cases stored : state.system.settlement with
    | none => exact .inr (past.untouched stored).2.1
    | some settlement =>
        by_cases paid : settlement.state = .potPaid
        · exact .inr (past.paid settlement stored paid).2
        · exact .inl (by rw [past.unpaid settlement stored paid, List.flatten_nil])
  · cases stored : state.system.settlement with
    | none => simp [(past.untouched stored).1]
    | some settlement =>
        by_cases paid : settlement.state = .potPaid
        · exact (past.paid settlement stored paid).1.le
        · simp [past.unpaid settlement stored paid]
  · exact fun _ stored terminal _ _ later => terminal_permanent sound stored terminal later
  · exact fun _ _ _ _ success held won filled =>
      Sound.distribution sound success held won filled
  · exact fun _ _ _ success => sound.closable success

/-- Two entrants, revealed and finalized: entry 2 scored higher. -/
def revealedScript : List RoundSubmission :=
  playedScript [1, 2]
    ++ [pinOneShard 2, .queueShardReveal 51 0 [1, 2],
      .revealTop3V5Callback 51 true, .collectShardWinners 0 [1, 2],
      .applyBracketResult 0].map fun instruction => authorityAt 0 (.reveal instruction)

/-- The winners of the sample round are paid. -/
def distributedScript : List RoundSubmission :=
  revealedScript ++ [authorityAt 0 (.distributePot [2, 302, 1, 301])]

/-- The sample round's pot is distributed to both token accounts, and settled once. -/
theorem distributedScript_settled
    : ∃ state,
        Run journaledRound anyAction (sampleRound [1, 2]).journaled distributedScript state
        ∧ state.journal.paid 9 = 2 * entryFeeSgd
        ∧ state.system.walletAmount 301 = entryFeeSgd
        ∧ state.system.walletAmount 302 = entryFeeSgd
        ∧ SettledOnce state := by
  have replayed : (replay journaledRound anyAction (sampleRound [1, 2]).journaled
      distributedScript).any fun state => decide (state.journal.paid 9 = 2 * entryFeeSgd
        ∧ state.system.walletAmount 301 = entryFeeSgd
        ∧ state.system.walletAmount 302 = entryFeeSgd) := by
    decide +kernel
  obtain ⟨state, run, checked⟩ := Run.of_replay_any replayed
  obtain ⟨paid, first, second⟩ := of_decide_eq_true checked
  exact ⟨state, run, paid, first, second, settled_once (sampleRound_opened _) run⟩

end SecretGarden.Settlement
