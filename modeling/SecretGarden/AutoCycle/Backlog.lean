import SecretGarden.AutoCycle.Vaults

/-! The backlog: whatever earlier runs left unpaid is paid before anything else, one round at a
time, whether or not another round's payment fails.
-/

namespace SecretGarden.AutoCycle

open Foundation SecretGarden.Bracket SecretGarden.Settlement SecretGarden.Season

variable {deps : CycleDeps} {key : RoundKey} {world : CycleWorld} {ledger next : RoundLedger}
  {mint : Pubkey} {condition : TracedSeason → SeasonSubmission → Prop}

/-- A round is over and has winners. -/
def Won (ledger : RoundLedger) : Prop :=
  ledger.round.status = .finalized ∧ ledger.round.scoringRevealed

instance (ledger : RoundLedger) : Decidable (Won ledger) := inferInstanceAs (Decidable (_ ∧ _))

/-- A revealed round has a winner. -/
theorem winners_ne_nil {journal : Journal} (attested : Attested ⟨ledger, journal⟩)
    (revealed : ledger.round.scoringRevealed) : potWinners ledger.round ≠ [] := by
  have crowned := attested.crowned.crowned revealed
  have nonzero := attested.sound.addressed _ crowned
  exact List.ne_nil_of_mem (List.mem_filter.mpr ⟨List.mem_cons_self, by simpa using nonzero⟩)

theorem resolved_ne_nil (deps : CycleDeps) {journal : Journal}
    (attested : Attested ⟨ledger, journal⟩) (revealed : ledger.round.scoringRevealed)
    : resolveWinnerWallets deps ledger ≠ [] := by
  intro none
  have ranked := (resolveWinnerWallets_ranked deps (attested.filled revealed)).1
  rw [none] at ranked
  exact winners_ne_nil attested revealed ranked.symm

/-- A pot is with its winners: the token accounts of their players have received their shares of
all it held, and the vault is empty.
-/
structure PotHandedOut (deps : CycleDeps) (mint : Pubkey) (ledger next : RoundLedger) : Prop where
  shared : ∃ middle payments,
    Furnished deps mint ledger middle
    ∧ PotShared middle mint (ledger.balance mint) payments
    ∧ PaidOut payments ledger next
  emptied : next.balance mint = 0

/-- A distribution that reports the whole balance has handed it out. -/
theorem Distributed.handedOut
    (distributed : Distributed deps mint ledger next ⟨ledger.balance mint, none⟩)
    (won : potWinners ledger.round ≠ []) : PotHandedOut deps mint ledger next := by
  generalize shown : (⟨ledger.balance mint, none⟩ : PotResult) = result at distributed
  cases distributed with
  | empty nothing same =>
      subst same
      exact ⟨⟨next, [], .refl next, .nothing (.inr nothing), .refl next⟩, nothing⟩
  | failed failure => cases congrArg PotResult.error shown
  | @paid middle settling _ furnished held shared _ settled =>
      subst held
      have paid := furnished.paidOut settled.paid
      refine ⟨⟨middle, settling.payments, furnished, shared, paid⟩, paid.emptied ?_⟩
      exact shared.amountIn (by rwa [furnished.frame])

/-- What a payment to one round's winners comes to: it is reported as it ended, and a pot that is
due is paid and handed out.
-/
structure PotOutcome (deps : CycleDeps) (config : GameConfig) (ledger next : RoundLedger)
    (result : PotResult) : Prop where
  reported : Distributed deps config.sgdMint ledger next result
  due : MayPay deps config
    → PotDue deps config.sgdMint ledger
    → result = ⟨ledger.balance config.sgdMint, none⟩
  handed : MayPay deps config
    → PotDue deps config.sgdMint ledger
    → PotHandedOut deps config.sgdMint ledger next

/-- Paying a revealed round. -/
theorem distributeSgdPot_settles (deps : CycleDeps)
    (found : world.deployment.rounds.lookup key = some ledger) {journal : Journal}
    (attested : Attested ⟨ledger, journal⟩) (revealed : ledger.round.scoringRevealed)
    : ∃ result after next,
        distributeSgdPot deps key (resolveWinnerWallets deps ledger) world = (result, after)
        ∧ Moved BesideReveals key PotMoved world after
        ∧ after.now = world.now
        ∧ after.deployment.rounds.lookup key = some next
        ∧ PotOutcome deps world.deployment.config ledger next result := by
  obtain ⟨result, after, next, success, moved, now, reached, reported⟩ :=
    distributeSgdPot_reports deps (resolveWinnerWallets deps ledger) found attested.sound
  have pays (may : MayPay deps world.deployment.config)
      (due : PotDue deps world.deployment.config.sgdMint ledger)
      : result = ⟨ledger.balance world.deployment.config.sgdMint, none⟩ := by
    have paid := distributeSgdPot_pays found attested.sound (attested.filled revealed) may due
    rw [success] at paid
    exact paid
  refine ⟨result, after, next, success, moved, now, reached, reported, pays, fun may due => ?_⟩
  exact (pays may due ▸ reported).handedOut (winners_ne_nil attested revealed)

--------------------------------------------------------------------------------
-- One round after the other
--------------------------------------------------------------------------------

/-- What settling the backlog does to a round that was surveyed as owing: nothing, unless it is
over and has winners.
-/
def Owed (deps : CycleDeps) (config : GameConfig) (reported : List (RoundKey × PotResult))
    (key : RoundKey) (ledger next : RoundLedger) : Prop :=
  if Won ledger then
    ∃ result, (key, result) ∈ reported ∧ PotOutcome deps config ledger next result
  else next = ledger

theorem Owed.mono {config : GameConfig} {fewer more : List (RoundKey × PotResult)}
    (owed : Owed deps config fewer key ledger next) (subset : fewer ⊆ more)
    : Owed deps config more key ledger next := by
  unfold Owed at owed ⊢
  split
  · next won =>
      rw [if_pos won] at owed
      obtain ⟨result, member, outcome⟩ := owed
      exact ⟨result, subset member, outcome⟩
  · next lost => rwa [if_neg lost] at owed

/-- Paying one round of the backlog. -/
theorem settleOwing_reports (deps : CycleDeps)
    (found : world.deployment.rounds.lookup key = some ledger) {journal : Journal}
    (attested : Attested ⟨ledger, journal⟩)
    : ∃ paid after,
        settleOwing deps key world = (paid, after)
        ∧ after.now = world.now
        ∧ (∀ report ∈ paid, report.1 = key ∧ Won ledger)
        ∧ Moved BesideReveals key
            (fun ledger next => Owed deps world.deployment.config paid.toList key ledger next)
            world after := by
  rw [settleOwing, found]
  by_cases won : Won ledger
  · obtain ⟨finalized, revealed⟩ := won
    obtain ⟨result, after, next, success, moved, now, reached, outcome⟩ :=
      distributeSgdPot_settles deps found attested revealed
    refine ⟨some (key, result), after, ?_, now, ?_, moved.onward, moved.config, moved.others, ?_⟩
    · simp only [finalized, revealed, resolved_ne_nil deps attested revealed, ne_eq,
        not_true_eq_false, Bool.true_eq_false, or_self, if_false, success]
    · rintro _ ⟨⟩
      exact ⟨rfl, finalized, revealed⟩
    · intro _ present
      cases found.symm.trans present
      refine ⟨next, reached, ?_⟩
      rw [Owed, if_pos ⟨finalized, revealed⟩]
      exact ⟨result, by simp, outcome⟩
  · refine ⟨none, world, ?_, rfl, nofun, .refl _, rfl, fun _ _ => rfl, ?_⟩
    · refine if_pos ?_
      by_contra past
      simp only [not_or, Bool.not_eq_false, not_not, ne_eq] at past
      exact won ⟨past.1, past.2.1⟩
    · intro _ present
      cases found.symm.trans present
      refine ⟨ledger, found, ?_⟩
      rw [Owed, if_neg won]

/-- What settling the backlog over `keys` does to each round. -/
def Backlogged (deps : CycleDeps) (config : GameConfig) (keys : List RoundKey)
    (reported : List (RoundKey × PotResult)) (key : RoundKey) (ledger next : RoundLedger) : Prop :=
  if key ∈ keys then Owed deps config reported key ledger next else next = ledger

/-- The rounds are paid one after the other, by induction on them. -/
theorem settleRounds_reports (deps : CycleDeps) {keys : List RoundKey} (unique : keys.Nodup)
    (known : ∀ key ∈ keys, ∃ ledger journal,
      world.deployment.rounds.lookup key = some ledger ∧ Attested ⟨ledger, journal⟩)
    : ∃ paid after,
        settleRounds deps keys world = (paid, after)
        ∧ after.now = world.now
        ∧ (∀ report ∈ paid, report.1 ∈ keys ∧ ∃ ledger,
            world.deployment.rounds.lookup report.1 = some ledger ∧ Won ledger)
        ∧ MovedEach BesideReveals (Backlogged deps world.deployment.config keys paid)
            world after := by
  induction keys generalizing world with
  | nil =>
      refine ⟨[], world, rfl, rfl, nofun, .refl (fun key ledger => ?_) world⟩
      simp [Backlogged]
  | cons key rest ih =>
      obtain ⟨⟨ledger, journal, found, attested⟩, others⟩ := List.forall_mem_cons.mp known
      obtain ⟨fresh, unique⟩ := List.nodup_cons.mp unique
      obtain ⟨paid, middle, success, now, named, moved⟩ := settleOwing_reports deps found attested
      have remain : ∀ other ∈ rest, ∃ ledger journal,
          middle.deployment.rounds.lookup other = some ledger ∧ Attested ⟨ledger, journal⟩ := by
        intro other member
        rw [moved.others other fun same => fresh (same ▸ member)]
        exact others other member
      obtain ⟨later, after, finished, last, listed, rests⟩ := ih unique remain
      rw [moved.config] at rests
      refine ⟨paid.toList ++ later, after, by simp only [settleRounds, success, finished],
        last.trans now, fun report member => ?_, ?_⟩
      · rcases List.mem_append.mp member with here | there
        · obtain ⟨same, won⟩ := named report (Option.mem_toList.mp here)
          rw [same]
          exact ⟨List.mem_cons_self, ledger, found, won⟩
        · obtain ⟨inside, other, held, won⟩ := listed report there
          rw [moved.others report.1 fun same => fresh (same ▸ inside)] at held
          exact ⟨List.mem_cons_of_mem _ inside, other, held, won⟩
      · have first : MovedEach BesideReveals
            (fun other ledger next =>
              if other = key then Owed deps world.deployment.config paid.toList key ledger next
              else next = ledger)
            world middle :=
          moved.toEach found (fun other apart ledger => (if_neg apart).symm ▸ rfl)
            fun _ owed => (if_pos rfl).symm ▸ owed
        refine first.trans ?_ rests
        intro other a b c before after
        unfold Backlogged at after ⊢
        by_cases here : other = key
        · subst here
          rw [if_pos rfl] at before
          obtain rfl : c = b := by simpa [fresh] using after
          rw [if_pos List.mem_cons_self]
          exact before.mono (List.subset_append_left _ _)
        · obtain rfl : b = a := by simpa [here] using before
          by_cases there : other ∈ rest
          · rw [if_pos there] at after
            rw [if_pos (List.mem_cons_of_mem _ there)]
            exact after.mono (List.subset_append_right _ _)
          · rw [if_neg there] at after
            rwa [if_neg (by simp [here, there])]

--------------------------------------------------------------------------------
-- The whole backlog
--------------------------------------------------------------------------------

/-- A round of the ledger's time that was never settled. -/
def Unsettled (key : RoundKey) (ledger : RoundLedger) : Prop :=
  potLedgerFirstRound ≤ key ∧ ledger.settlement = none

instance (key : RoundKey) (ledger : RoundLedger) : Decidable (Unsettled key ledger) :=
  inferInstanceAs (Decidable (_ ∧ _))

theorem mem_owingRounds {deployment : Deployment} (order : RoundsInOrder deployment)
    (found : deployment.rounds.lookup key = some ledger)
    : key ∈ owingRounds deployment.config.currentRound deployment ↔ Unsettled key ledger := by
  have placed := (order.numbered key).mp (by rw [found]; rfl)
  rw [owingRounds, List.mem_filter, List.mem_range'_1, found, Option.bind_some,
    Option.isNone_iff_eq_none, Unsettled]
  refine and_congr_left fun _ => ⟨And.left, fun late => ⟨late, ?_⟩⟩
  change key < potLedgerFirstRound + (deployment.config.currentRound + 1 - potLedgerFirstRound)
  rw [Nat.add_sub_of_le (late.trans (placed.2.trans (Nat.le_succ _)))]
  exact Nat.lt_succ_of_le placed.2

/-- The backlog moves the rounds that were surveyed as owing, and only pots. -/
theorem settleBacklog_reports (deps : CycleDeps) (reached : Reached condition world.deployment)
    : ∃ paid after,
        let current := world.deployment.config.currentRound
        settleBacklog deps current world = (paid, after)
        ∧ after.now = world.now
        ∧ (∀ report ∈ paid, report.1 ∈ owingRounds current world.deployment ∧ ∃ ledger,
            world.deployment.rounds.lookup report.1 = some ledger ∧ Won ledger)
        ∧ MovedEach BesideReveals
            (Backlogged deps world.deployment.config (owingRounds current world.deployment) paid)
            world after := by
  refine settleRounds_reports deps ((List.nodup_range' ..).filter _) fun key member => ?_
  obtain ⟨inside, _⟩ := List.mem_filter.mp member
  have placed : 1 ≤ key ∧ key ≤ world.deployment.config.currentRound := by
    obtain ⟨low, high⟩ := List.mem_range'_1.mp inside
    refine ⟨Nat.le_trans (by decide) low, Nat.le_of_lt_succ (high.trans_le ?_)⟩
    change potLedgerFirstRound + _ ≤ _
    unfold potLedgerFirstRound at low high ⊢
    omega
  obtain ⟨ledger, found⟩ := Option.isSome_iff_exists.mp ((reached.order.numbered key).mpr placed)
  obtain ⟨journal, attested⟩ := reached.attested found
  exact ⟨ledger, journal, found, attested⟩

/-- Rounds that nobody entered, up to the first one with a ledger, whose winners are never paid. -/
def owingSeasonScript : List SeasonSubmission :=
  administratorAt 0 (.setSgdMint ⟨9, 6⟩)
    :: (List.range (potLedgerFirstRound - 1)).flatMap (fun earlier =>
      [administratorAt 0 (.openRound (some earlier) ∅),
        administratorAt 0 (.round (earlier + 1) .closeRound),
        administratorAt 0 (.round (earlier + 1) .finalizeRound)])
    ++ [administratorAt 0 (.openRound (some (potLedgerFirstRound - 1)) ∅),
      administratorAt 0 (.round potLedgerFirstRound
        (.outside (.changeWallet 301 ⟨101, 9, entryFeeSgd⟩))),
      administratorAt 0 (.round potLedgerFirstRound
        (.outside (.changeWallet 302 ⟨102, 9, entryFeeSgd⟩)))]
    ++ revealedScript.map (fun submission =>
      ⟨submission.env.signer, 1000, submission.env.now,
        .round potLedgerFirstRound submission.instruction⟩)
    ++ [administratorAt 0 (.openRound (some potLedgerFirstRound) ∅)]

end SecretGarden.AutoCycle
