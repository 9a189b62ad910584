import SecretGarden.AutoCycle.ScoreStage
import SecretGarden.Settlement.Acceptance

/-! Paying pots and closing vaults: the winners' token accounts are created where they are
missing, and what the program then accepts is what the script surveyed.
-/

namespace SecretGarden.AutoCycle

open Foundation SecretGarden.Bracket SecretGarden.Settlement SecretGarden.Season

variable {deps : CycleDeps} {key : RoundKey} {world : CycleWorld} {ledger : RoundLedger}
  {mint : Pubkey}

--------------------------------------------------------------------------------
-- Token accounts
--------------------------------------------------------------------------------

/-- The derived addresses of token accounts are apart, and those in use are their owners'. -/
structure AtasOwned (deps : CycleDeps) (mint : Pubkey) (ledger : RoundLedger) : Prop where
  apart : ∀ {first second}, deps.ataFor first mint = deps.ataFor second mint → first = second
  owned : ∀ {owner wallet}, ledger.wallets.lookup (deps.ataFor owner mint) = some wallet
    → wallet.owner = owner ∧ wallet.mint = mint

theorem AtasOwned.kept {next : RoundLedger} (atas : AtasOwned deps mint ledger)
    (owners : OwnersKept ledger next) : AtasOwned deps mint next := by
  refine ⟨atas.apart, fun found => ?_⟩
  obtain ⟨before, held, owner, minted⟩ := owners found
  obtain ⟨own, same⟩ := atas.owned held
  exact ⟨owner.symm.trans own, minted.symm.trans same⟩

/-- Empty token accounts of the mint were created for their owners, and nothing else happened. -/
structure Furnished (deps : CycleDeps) (mint : Pubkey) (ledger next : RoundLedger) : Prop where
  frame : next = { ledger with wallets := next.wallets }
  kept : ∀ {address}, (ledger.wallets.lookup address).isSome
    → (next.wallets.lookup address).isSome
  owned : AtasOwned deps mint ledger → AtasOwned deps mint next
  amounts : ∀ address, next.walletAmount address = ledger.walletAmount address

theorem Furnished.refl (ledger : RoundLedger) : Furnished deps mint ledger ledger :=
  ⟨rfl, id, id, fun _ => rfl⟩

theorem Furnished.trans {first second third : RoundLedger}
    (earlier : Furnished deps mint first second) (later : Furnished deps mint second third)
    : Furnished deps mint first third := by
  refine ⟨?_, fun held => later.kept (earlier.kept held),
    fun atas => later.owned (earlier.owned atas),
    fun address => (later.amounts address).trans (earlier.amounts address)⟩
  rw [later.frame, earlier.frame]

/-- Payments made from new token accounts are payments of the round as it was before. -/
theorem Furnished.paidOut {middle next : RoundLedger} {payments : List Payment}
    (furnished : Furnished deps mint ledger middle) (paid : PaidOut payments middle next)
    : PaidOut payments ledger next := by
  have none : PaidOut [] ledger middle := by
    refine ⟨fun other => ?_, fun address => furnished.amounts address⟩
    rw [furnished.frame]
    rfl
  exact none.append paid

/-- A token account is created for its owner. -/
theorem Furnished.create (deps : CycleDeps) (mint owner : Pubkey) (ledger : RoundLedger)
    (absent : ledger.wallets.lookup (deps.ataFor owner mint) = none)
    : Furnished deps mint ledger { ledger with
        wallets := ledger.wallets.insert (deps.ataFor owner mint) ⟨owner, mint, 0⟩ } := by
  refine ⟨rfl, Store.isSome_lookup_insert, fun atas => ⟨atas.apart, ?_⟩, fun address => ?_⟩
  · intro other wallet present
    rcases Store.lookup_insert_eq_some.mp present with ⟨same, rfl⟩ | ⟨_, before⟩
    · exact ⟨(atas.apart same).symm, rfl⟩
    · exact atas.owned before
  · simp only [RoundLedger.walletAmount, Store.lookup_insert_apply]
    split
    · next here =>
        rw [here, absent]
        rfl
    · rfl

/-- Creating a token account leaves the round with it. -/
theorem ensureAta_ensures (deps : CycleDeps) (mint owner : Pubkey)
    (found : world.deployment.rounds.lookup key = some ledger)
    : Moved BesideReveals key (Furnished deps mint) world (ensureAta deps key mint owner world)
      ∧ (ensureAta deps key mint owner world).now = world.now
      ∧ ∃ next,
          (ensureAta deps key mint owner world).deployment.rounds.lookup key = some next
          ∧ (next.wallets.lookup (deps.ataFor owner mint)).isSome := by
  rw [ensureAta, found, Option.any_some]
  by_cases held : (ledger.wallets.lookup (deps.ataFor owner mint)).isSome
  · rw [if_pos held]
    exact ⟨.refl .refl world, rfl, ledger, found, held⟩
  · rw [if_neg held]
    let next := { ledger with
      wallets := ledger.wallets.insert (deps.ataFor owner mint) ⟨owner, mint, 0⟩ }
    have created : roundStep ledger
        ⟨deps.envAt world, .outside (.changeWallet (deps.ataFor owner mint) ⟨owner, mint, 0⟩)⟩
        = .ok next := rfl
    rw [happen_of_step found created]
    have absent := Option.not_isSome_iff_eq_none.mp held
    have furnished := Furnished.create deps mint owner ledger absent
    refine ⟨moved_of_step found created nofun furnished, rfl, next, lookup_put next, ?_⟩
    simp [next]

/-- Every owner has a token account by then, by induction on the owners. -/
theorem ensureAtas_ensures (deps : CycleDeps) (mint : Pubkey) (owners : List Pubkey)
    (found : world.deployment.rounds.lookup key = some ledger)
    : Moved BesideReveals key (Furnished deps mint) world (ensureAtas deps key mint owners world)
      ∧ (ensureAtas deps key mint owners world).now = world.now
      ∧ ∃ next,
          (ensureAtas deps key mint owners world).deployment.rounds.lookup key = some next
          ∧ ∀ owner ∈ owners, (next.wallets.lookup (deps.ataFor owner mint)).isSome := by
  induction owners generalizing world ledger with
  | nil => exact ⟨.refl .refl world, rfl, ledger, found, nofun⟩
  | cons owner rest ih =>
      obtain ⟨moved, now, middle, held, here⟩ := ensureAta_ensures deps mint owner found
      obtain ⟨rests, later, next, reached, others⟩ := ih held
      obtain ⟨_, same, furnished⟩ := rests.ledger middle held
      cases reached.symm.trans same
      exact ⟨moved.trans Furnished.trans rests, later.trans now, next, reached,
        List.forall_mem_cons.mpr ⟨furnished.kept here, others⟩⟩

--------------------------------------------------------------------------------
-- Winners
--------------------------------------------------------------------------------

/-- A listed entry is found under its address. -/
theorem lookup_entriesForRound (deps : CycleDeps) {entryKey : Pubkey} {entry : CompetitionEntry}
    (found : ledger.entries.lookup entryKey = some entry) (own : entry.round = ledger.round.key)
    : (entriesForRound deps ledger).lookup entryKey = some entry := by
  have member : (entryKey, entry) ∈ entriesForRound deps ledger :=
    mem_entriesForRound.mpr ⟨found, own⟩
  cases searched : (entriesForRound deps ledger).lookup entryKey with
  | none => exact absurd (List.lookup_eq_none_iff.mp searched _ member) (by simp)
  | some other =>
      have listed : (entryKey, other) ∈ entriesForRound deps ledger := by
        obtain ⟨before, after, split, _⟩ := List.lookup_eq_some_iff.mp searched
        rw [split]
        exact List.mem_append_right _ List.mem_cons_self
      exact (mem_entriesForRound.mp listed).1.symm.trans found

/-- Entries with the token accounts they are paid into. -/
def winnerPairs (deps : CycleDeps) (mint : Pubkey) (winners : List WinnerWallet)
    : List (Pubkey × Pubkey) :=
  winners.map fun winner => (winner.entry, deps.ataFor winner.wallet mint)

theorem winnerAccounts_eq (deps : CycleDeps) (mint : Pubkey) (winners : List WinnerWallet)
    : winnerAccounts deps mint winners = pairedAccounts (winnerPairs deps mint winners) := by
  rw [winnerAccounts, pairedAccounts, winnerPairs, List.flatMap_map]

/-- A winner's wallet is the player's of a winning entry. -/
def WinsFor (ledger : RoundLedger) (winner : WinnerWallet) : Prop :=
  ∃ entry, ledger.entries.lookup winner.entry = some entry ∧ winner.wallet = entry.player

/-- The winners' wallets are those of the revealed entries in rank order. -/
theorem resolveWinnerWallets_ranked (deps : CycleDeps) (filled : PlacesFilled ledger)
    : (resolveWinnerWallets deps ledger).map WinnerWallet.entry = potWinners ledger.round
      ∧ ∀ winner ∈ resolveWinnerWallets deps ledger, WinsFor ledger winner := by
  have resolves (tops : List Pubkey) (place : Nat)
      (entered : ∀ key ∈ tops, key ≠ 0 → key ∈ ledger.roundEntries) :
      let resolved := (tops.zipIdx place).filterMap fun ranked =>
        winnerAt deps ledger ranked.1 ranked.2
      resolved.map WinnerWallet.entry = tops.filter (· ≠ 0)
        ∧ ∀ winner ∈ resolved, WinsFor ledger winner := by
    induction tops generalizing place with
    | nil => exact ⟨rfl, by simp⟩
    | cons top rest ih =>
        obtain ⟨here, later⟩ := List.forall_mem_cons.mp entered
        have others := ih (place + 1) later
        by_cases vacant : top = 0
        · subst vacant
          have skipped : winnerAt deps ledger 0 place = none := if_pos rfl
          simpa [List.zipIdx_cons, List.filterMap_cons, skipped] using others
        · obtain ⟨entries, wins⟩ := others
          obtain ⟨entry, found, own⟩ := mem_roundEntries.mp (here vacant)
          have won : winnerAt deps ledger top place = some ⟨place + 1, entry.player, top⟩ := by
            rw [winnerAt, if_neg vacant, lookup_entriesForRound deps found own, Option.map_some]
          simp only [List.zipIdx_cons, List.filterMap_cons, won, List.map_cons, List.filter_cons,
            vacant, ne_eq, not_false_eq_true, decide_true, if_true]
          exact ⟨congrArg (top :: ·) (by simpa using entries),
            List.forall_mem_cons.mpr ⟨⟨entry, found, rfl⟩, wins⟩⟩
  exact resolves ledger.round.tops 0 filled.entered

--------------------------------------------------------------------------------
-- Distributing
--------------------------------------------------------------------------------

/-- Only the pot moved: its vaults, its settlement and token accounts. -/
def PotMoved (ledger next : RoundLedger) : Prop :=
  next = { ledger with
    settlement := next.settlement
    vaults := next.vaults
    wallets := next.wallets }

theorem PotMoved.refl (ledger : RoundLedger) : PotMoved ledger ledger := rfl

theorem PotMoved.trans {first second third : RoundLedger} (earlier : PotMoved first second)
    (later : PotMoved second third) : PotMoved first third := by
  unfold PotMoved
  rw [later, earlier]

theorem Furnished.potMoved {next : RoundLedger} (furnished : Furnished deps mint ledger next)
    : PotMoved ledger next := by
  unfold PotMoved
  rw [furnished.frame]

/-- How a distribution ended, as its result says. -/
inductive Distributed (deps : CycleDeps) (mint : Pubkey) (ledger next : RoundLedger)
    : PotResult → Prop
  | empty (nothing : ledger.balance mint = 0) (same : next = ledger)
    : Distributed deps mint ledger next ⟨0, none⟩
  | paid {middle : RoundLedger} {settling : Settling} {pot : Nat}
    (furnished : Furnished deps mint ledger middle)
    (held : ledger.balance mint = pot)
    (shared : PotShared middle mint pot settling.payments)
    (past : settling.settlement.state = .potPaid)
    (settled : Settled settling middle next)
    (owners : OwnersKept middle next)
    : Distributed deps mint ledger next ⟨pot, none⟩
  | failed (failure : CycleFailure) (furnished : Furnished deps mint ledger next)
    : Distributed deps mint ledger next ⟨0, some failure⟩

theorem Furnished.sound {next : RoundLedger} (furnished : Furnished deps mint ledger next)
    (sound : Settlement.Sound ledger) : Settlement.Sound next := by
  rw [furnished.frame]
  exact ⟨sound.numbered, sound.counted, sound.addressed, sound.carried, sound.settling⟩

/-- Whatever the accounts are, the result tells what became of the pot. -/
theorem distributeSgdPot_reports (deps : CycleDeps) (winners : List WinnerWallet)
    (found : world.deployment.rounds.lookup key = some ledger) (sound : Settlement.Sound ledger)
    : ∃ result after next,
        distributeSgdPot deps key winners world = (result, after)
        ∧ Moved BesideReveals key PotMoved world after
        ∧ after.now = world.now
        ∧ after.deployment.rounds.lookup key = some next
        ∧ Distributed deps world.deployment.config.sgdMint ledger next result := by
  let mint := world.deployment.config.sgdMint
  rw [distributeSgdPot]
  simp only [found, Option.map_some, Option.getD_some]
  by_cases nothing : ledger.balance mint = 0
  · rw [if_pos nothing]
    exact ⟨_, world, ledger, rfl, .refl .refl world, rfl, found, .empty nothing rfl⟩
  · rw [if_neg nothing]
    obtain ⟨moved, now, middle, held, _⟩ :=
      ensureAtas_ensures deps mint (winners.map WinnerWallet.wallet) found
    generalize ensureAtas deps key mint (winners.map WinnerWallet.wallet) world = ensured
      at moved now held ⊢
    obtain ⟨_, same, furnished⟩ := moved.ledger ledger found
    cases held.symm.trans same
    have prepared : Moved BesideReveals key PotMoved world ensured :=
      moved.mono fun furnished => furnished.potMoved
    cases sent : send deps (.round key (.distributePot (winnerAccounts deps mint winners)))
        ensured with
    | error failure => exact ⟨_, _, middle, rfl, prepared, now, held, .failed failure furnished⟩
    | ok after =>
        obtain ⟨next, accepted, rfl⟩ := step_of_send held sent
        obtain ⟨settling, planned, settled⟩ := distributePot_success accepted
        obtain ⟨pot, checks, shared, terms⟩ :=
          planDistribution_success (furnished.sound sound).numbered (furnished.sound sound).carried
            planned
        have minted : (deps.envAt ensured).config.sgdMint = mint :=
          congrArg GameConfig.sgdMint moved.config
        have vault := checks.vault
        rw [minted, furnished.frame] at vault
        have balance : ledger.balance mint = pot := by
          rw [RoundLedger.balance, vault]
          rfl
        refine ⟨_, _, next, rfl, prepared.trans PotMoved.trans ?_, now, lookup_put next, ?_⟩
        · refine moved_of_step held accepted (by simp) ?_
          unfold PotMoved
          rw [settled.frame]
        · refine .paid furnished rfl ?_ ?_ settled (ownersKept_of_distributePot accepted)
          · change PotShared middle (deps.envAt ensured).config.sgdMint pot _ at shared
            rw [minted] at shared
            rw [balance]
            exact shared
          · rw [terms]
            rfl

/-- A revealed round that is over and unsettled, with a unit for every winner in its pot. -/
structure PotDue (deps : CycleDeps) (mint : Pubkey) (ledger : RoundLedger) : Prop where
  finalized : ledger.round.status = .finalized
  revealed : ledger.round.scoringRevealed
  unsettled : ledger.settlement = none
  enough : (potWinners ledger.round).length ≤ ledger.balance mint
  fits : ledger.balance mint < u64Modulus
  atas : AtasOwned deps mint ledger

/-- The script may move pots: its key is registered, and there is a mint. -/
structure MayPay (deps : CycleDeps) (config : GameConfig) : Prop where
  operator : isOperatorOrAuthority config deps.signer
  minted : config.sgdMint ≠ 0

/-- A pot that is due is paid to the winners as the script resolves them. -/
theorem distributeSgdPot_pays (found : world.deployment.rounds.lookup key = some ledger)
    (sound : Settlement.Sound ledger) (filled : PlacesFilled ledger)
    (may : MayPay deps world.deployment.config)
    (due : PotDue deps world.deployment.config.sgdMint ledger)
    : (distributeSgdPot deps key (resolveWinnerWallets deps ledger) world).1
      = ⟨ledger.balance world.deployment.config.sgdMint, none⟩ := by
  let mint := world.deployment.config.sgdMint
  let winners := resolveWinnerWallets deps ledger
  rw [distributeSgdPot]
  simp only [found, Option.map_some, Option.getD_some]
  by_cases nothing : ledger.balance mint = 0
  · rw [if_pos nothing]
    exact congrArg (PotResult.mk · none) nothing.symm
  · rw [if_neg nothing]
    obtain ⟨moved, now, middle, held, ready⟩ :=
      ensureAtas_ensures deps mint (winners.map WinnerWallet.wallet) found
    generalize ensureAtas deps key mint (winners.map WinnerWallet.wallet) world = ensured
      at moved now held ⊢
    obtain ⟨_, same, furnished⟩ := moved.ledger ledger found
    cases held.symm.trans same
    have config : (deps.envAt ensured).config = world.deployment.config := moved.config
    obtain ⟨ranked, wins⟩ := resolveWinnerWallets_ranked deps filled
    obtain ⟨pot, vault⟩ : ∃ pot, ledger.vaults.lookup mint = some pot :=
      Option.isSome_iff_exists.mp (Option.isSome_iff_ne_none.mpr fun absent => nothing (by
        rw [RoundLedger.balance, absent]
        rfl))
    have balance : ledger.balance mint = pot := by
      rw [RoundLedger.balance, vault]
      rfl
    have payable : Distributable (deps.envAt ensured) middle pot := by
      rw [furnished.frame]
      refine ⟨⟨config ▸ vault, config ▸ may.operator, config ▸ may.minted, ?_, due.finalized,
        due.revealed⟩, sound.numbered, sound.carried, balance ▸ due.enough, balance ▸ due.fits⟩
      rw [RoundLedger.currentSettlement, due.unsettled]
      rfl
    have listed : (winnerPairs deps mint winners).map Prod.fst = potWinners middle.round := by
      rw [winnerPairs, List.map_map, furnished.frame]
      exact ranked
    have belongs : ∀ pair ∈ winnerPairs deps mint winners,
        BelongsTo middle (deps.envAt ensured).config.sgdMint pair := by
      intro pair member
      obtain ⟨winner, winning, rfl⟩ := List.mem_map.mp member
      obtain ⟨entry, present, player⟩ := wins winner winning
      obtain ⟨wallet, kept⟩ :=
        Option.isSome_iff_exists.mp (ready _ (List.mem_map_of_mem winning))
      obtain ⟨owner, minted⟩ := (furnished.owned due.atas).owned kept
      have entries : middle.entries = ledger.entries := by rw [furnished.frame]
      exact ⟨entry, wallet, entries ▸ present, kept, owner.trans player, config ▸ minted⟩
    obtain ⟨next, accepted⟩ := distributePot_of_belongs payable listed belongs
    rw [← winnerAccounts_eq] at accepted
    have step : roundStep middle
        ⟨deps.envAt ensured, .distributePot (winnerAccounts deps mint winners)⟩ = .ok next :=
      accepted
    rw [send_of_step held step]

end SecretGarden.AutoCycle
