import SecretGarden.Settlement.Changes

/-! What an instruction leaves alone. Everything but a distribution, a refund and a close keeps
the settlement and takes nothing out of the vaults.
-/

namespace SecretGarden.Settlement

open Foundation SecretGarden.Bracket

variable {ledger after : RoundLedger} {submission : RoundSubmission}

theorem mem_roundEntries {ledger : RevealLedger} {key : Pubkey}
    : key ∈ ledger.roundEntries
      ↔ ∃ entry, ledger.entries.lookup key = some entry ∧ entry.round = ledger.round.key := by
  simp [RevealLedger.roundEntries, Store.mem_keysWhere]

/-- Every entry is still there, with its round and player. -/
def EntriesKept (ledger after : RevealLedger) : Prop :=
  ∀ {key entry}, ledger.entries.lookup key = some entry
    → ∃ later, after.entries.lookup key = some later ∧ SameEntry entry later

/-- A new entry leaves the others alone. -/
theorem entriesKept_of_insert {ledger after : RevealLedger} {key : Pubkey}
    {entry : CompetitionEntry} (unused : ledger.entries.lookup key = none)
    (inserted : after.entries = ledger.entries.insert key entry)
    : EntriesKept ledger after := by
  intro other old found
  refine ⟨old, ?_, rfl, rfl⟩
  have distinct : other ≠ key := by
    rintro rfl
    exact absurd (unused.symm.trans found) (by simp)
  rw [inserted, Store.lookup_insert_apply, if_neg distinct]
  exact found

/-- A rewritten entry is still there, and so are the others. -/
theorem entriesKept_of_rewrite {ledger after : RevealLedger} {key : Pubkey}
    {entry later : CompetitionEntry} (found : ledger.entries.lookup key = some entry)
    (inserted : after.entries = ledger.entries.insert key later) (same : SameEntry entry later)
    : EntriesKept ledger after := by
  intro other old held
  rw [inserted, Store.lookup_insert_apply]
  split
  · next here =>
      subst here
      cases found.symm.trans held
      exact ⟨later, rfl, same⟩
  · exact ⟨old, held, rfl, rfl⟩

theorem entriesKept_of_same {ledger after : RevealLedger}
    (entries : after.entries = ledger.entries) : EntriesKept ledger after :=
  fun found => ⟨_, entries ▸ found, rfl, rfl⟩

/-- Storing an entry keeps the round's entries if its address held one of the round before
exactly when it does now.
-/
theorem roundEntries_of_insert {ledger after : RevealLedger} {written : Pubkey}
    {later : CompetitionEntry} (round : after.round.key = ledger.round.key)
    (inserted : after.entries = ledger.entries.insert written later)
    (agree : (∃ entry, ledger.entries.lookup written = some entry
        ∧ entry.round = ledger.round.key)
      ↔ later.round = ledger.round.key)
    : after.roundEntries.Perm ledger.roundEntries := by
  unfold RevealLedger.roundEntries
  rw [round]
  apply Store.keysWhere_perm
  intro other
  simp only [Store.mem_keysWhere, inserted, Store.lookup_insert_apply]
  by_cases here : other = written
  · subst here
    simpa using agree.symm
  · simp [here]

/-- Rewriting an entry keeps the round's entries. -/
theorem roundEntries_of_rewrite {ledger after : RevealLedger} {written : Pubkey}
    {entry later : CompetitionEntry} (round : after.round.key = ledger.round.key)
    (found : ledger.entries.lookup written = some entry)
    (inserted : after.entries = ledger.entries.insert written later)
    (same : SameEntry entry later)
    : after.roundEntries.Perm ledger.roundEntries :=
  roundEntries_of_insert round inserted (by simp [found, same.1])

/-- An entry of another round joins without a trace. -/
theorem roundEntries_of_foreign {ledger after : RevealLedger} {address : Pubkey}
    {entry : CompetitionEntry} (round : after.round = ledger.round)
    (unused : ledger.entries.lookup address = none) (foreign : entry.round ≠ ledger.round.key)
    (inserted : after.entries = ledger.entries.insert address entry)
    : after.roundEntries.Perm ledger.roundEntries :=
  roundEntries_of_insert (congrArg CompetitionRound.key round) inserted
    (by simp [unused, foreign])

theorem roundEntries_of_same {ledger after : RevealLedger}
    (round : after.round.key = ledger.round.key) (entries : after.entries = ledger.entries)
    : after.roundEntries.Perm ledger.roundEntries := by
  rw [RevealLedger.roundEntries, entries, round]
  exact .refl _

/-- The round keeps its identity and deadline, its status never goes back, and a round that is
no longer open keeps its participants.
-/
structure Advanced (ledger after : RoundLedger) : Prop where
  roundId : after.round.roundId = ledger.round.roundId
  endTime : after.round.endTime = ledger.round.endTime
  closed : ledger.round.status ≠ .opened → after.round.status ≠ .opened
  finalized : ledger.round.status = .finalized → after.round.status = .finalized
  entries : EntriesKept ledger.toRevealLedger after.toRevealLedger

theorem Advanced.key (advanced : Advanced ledger after)
    : after.round.key = ledger.round.key :=
  advanced.roundId

/-- The round's entries stay entries of the round. -/
theorem Advanced.mem_roundEntries (advanced : Advanced ledger after) {key : Pubkey}
    (member : key ∈ ledger.roundEntries) : key ∈ after.roundEntries := by
  obtain ⟨entry, found, own⟩ := Settlement.mem_roundEntries.mp member
  obtain ⟨later, held, same⟩ := advanced.entries found
  exact Settlement.mem_roundEntries.mpr ⟨later, held, same.1.trans (own.trans advanced.key.symm)⟩

/-- A round that keeps its identity, deadline and status advances. -/
theorem Advanced.of_status (roundId : after.round.roundId = ledger.round.roundId)
    (endTime : after.round.endTime = ledger.round.endTime)
    (status : after.round.status = ledger.round.status)
    (entries : EntriesKept ledger.toRevealLedger after.toRevealLedger)
    : Advanced ledger after := by
  refine ⟨roundId, endTime, ?_, ?_, entries⟩
  · rw [status]
    exact id
  · rw [status]
    exact id

/-- An accepted instruction advances the round, by cases on the change. -/
theorem roundStep_advanced (success : roundStep ledger submission = .ok after)
    : Advanced ledger after := by
  cases roundStep_change success with
  | kept entries round =>
      refine .of_status ?_ ?_ ?_ (entriesKept_of_same entries) <;> rw [round]
  | entered asked checks entries round =>
      refine .of_status ?_ ?_ ?_ (entriesKept_of_insert checks.unused entries) <;> rw [round]
  | closed opened entries round =>
      refine ⟨?_, ?_, ?_, ?_, entriesKept_of_same entries⟩ <;> simp [round, opened]
  | finalized closed entries round =>
      refine ⟨?_, ?_, ?_, ?_, entriesKept_of_same entries⟩ <;> simp [round]
  | attempted attempt entries round =>
      obtain ⟨_, _, _, rfl⟩ := attempt.later
      refine .of_status ?_ ?_ ?_ (entriesKept_of_rewrite attempt.found entries ⟨rfl, rfl⟩)
        <;> rw [round]
  | scored found own unscored entries round =>
      refine .of_status ?_ ?_ ?_ (entriesKept_of_rewrite found entries ⟨rfl, rfl⟩) <;> rw [round]
  | released asked checks entries round =>
      refine .of_status ?_ ?_ ?_ (entriesKept_of_rewrite checks.found entries ⟨rfl, rfl⟩)
        <;> rw [round]
  | revealed asked entries round =>
      refine .of_status ?_ ?_ ?_ (entriesKept_of_same entries) <;> rw [round, revealedRound]
  | elsewhere unused foreign entries round =>
      refine .of_status ?_ ?_ ?_ (entriesKept_of_insert unused entries) <;> rw [round]

/-- Settling leaves round and entries alone. -/
theorem Settled.advanced {settling : Settling} (settled : Settled settling ledger after)
    : Advanced ledger after := by
  refine .of_status ?_ ?_ ?_ (entriesKept_of_same ?_) <;> rw [settled.frame]

theorem Settled.settlement {settling : Settling} (settled : Settled settling ledger after)
    : after.settlement = some settling.settlement := by
  rw [settled.frame]

--------------------------------------------------------------------------------
-- Participants
--------------------------------------------------------------------------------

/-- A new participant: the round was open, the entry's address was unused, and the vault of
the configured mint took the fee.
-/
structure Entered (env : Env) (ledger after : RoundLedger) (entryKey : Pubkey) : Prop where
  opened : ledger.round.status = .opened
  addressed : entryKey ≠ 0
  unused : ledger.entries.lookup entryKey = none
  mint : env.config.sgdMint ≠ 0
  roundEntries : after.roundEntries = entryKey :: ledger.roundEntries
  participants : after.round.participantCount = ledger.round.participantCount + 1
  balance : ∀ mint, after.balance mint
    = ledger.balance mint + if mint = env.config.sgdMint then entryFeeSgd else 0

theorem submitEntry_entered {env : Env} {entryKey playerSgdAta : Pubkey}
    {flowerKey : FlowerKey} {flower : FlowerRecord}
    (success : submitEntry env entryKey flowerKey flower playerSgdAta ledger = .ok after)
    : Entered env ledger after entryKey := by
  obtain ⟨checks, frame⟩ := submitEntry_success success
  refine ⟨checks.opened, checks.addressed, checks.unused, checks.mint, ?_, ?_, ?_⟩
  · rw [frame]
    exact Store.keysWhere_insert_new checks.unused (by simp [newEntry, CompetitionRound.key])
  · rw [frame]
  · intro mint
    rw [frame]
    simp only [RoundLedger.balance, Store.lookup_insert_apply]
    split
    · next here =>
        subst here
        rfl
    · simp

/-- The instruction that adds a participant. -/
def RoundInstruction.Enters : RoundInstruction → Prop
  | .submitEntry _ _ _ _ => True
  | _ => False

/-- Except for a submission, an instruction keeps the round's entries and their count, by cases
on the change.
-/
theorem roundStep_entries (success : roundStep ledger submission = .ok after)
    : submission.instruction.Enters
        ∧ (∃ entryKey, Entered submission.env ledger after entryKey)
      ∨ after.roundEntries.Perm ledger.roundEntries
        ∧ after.round.participantCount = ledger.round.participantCount := by
  have key := (roundStep_advanced success).key
  cases roundStep_change success with
  | kept entries round => exact .inr ⟨roundEntries_of_same key entries, by rw [round]⟩
  | entered asked =>
      obtain ⟨env, instruction⟩ := submission
      obtain rfl := asked
      exact .inl ⟨trivial, _, submitEntry_entered success⟩
  | closed opened entries round => exact .inr ⟨roundEntries_of_same key entries, by rw [round]⟩
  | finalized closed entries round =>
      exact .inr ⟨roundEntries_of_same key entries, by rw [round]⟩
  | attempted attempt entries round =>
      obtain ⟨_, _, _, rfl⟩ := attempt.later
      exact .inr ⟨roundEntries_of_rewrite key attempt.found entries ⟨rfl, rfl⟩, by rw [round]⟩
  | scored found own unscored entries round =>
      exact .inr ⟨roundEntries_of_rewrite key found entries ⟨rfl, rfl⟩, by rw [round]⟩
  | released asked checks entries round =>
      exact .inr ⟨roundEntries_of_rewrite key checks.found entries ⟨rfl, rfl⟩, by rw [round]⟩
  | revealed asked entries round =>
      exact .inr ⟨roundEntries_of_same key entries, by rw [round, revealedRound]⟩
  | elsewhere unused foreign entries round =>
      exact .inr ⟨roundEntries_of_foreign round unused foreign entries, by rw [round]⟩

/-- The reveal is written by nothing but an applied bracket. -/
structure RevealKept (ledger after : RoundLedger) : Prop where
  revealed : after.round.scoringRevealed = ledger.round.scoringRevealed
  tops : after.round.tops = ledger.round.tops

/-- Every instruction but an applied bracket keeps the reveal, by cases on the change. -/
theorem roundStep_revealKept (success : roundStep ledger submission = .ok after)
    (other : ∀ resultIndex, submission.instruction ≠ .reveal (.applyBracketResult resultIndex))
    : RevealKept ledger after := by
  cases roundStep_change success with
  | kept entries round => exact ⟨by rw [round], by rw [round]⟩
  | entered asked checks entries round => exact ⟨by rw [round], by rw [round]; rfl⟩
  | closed opened entries round => exact ⟨by rw [round], by rw [round]; rfl⟩
  | finalized closed entries round => exact ⟨by rw [round], by rw [round]; rfl⟩
  | attempted attempt entries round => exact ⟨by rw [round], by rw [round]⟩
  | scored found own unscored entries round => exact ⟨by rw [round], by rw [round]; rfl⟩
  | released asked checks entries round => exact ⟨by rw [round], by rw [round]⟩
  | revealed asked => exact absurd asked (other _)
  | elsewhere unused foreign entries round => exact ⟨by rw [round], by rw [round]⟩

--------------------------------------------------------------------------------
-- Partition accounts and the pot
--------------------------------------------------------------------------------

/-- The instructions that read or write the settlement. -/
def RoundInstruction.MovesPot : RoundInstruction → Prop
  | .distributePot _ => True
  | .refundUnrevealedPot _ => True
  | .closePotVault _ => True
  | _ => False

/-- Instructions outside the reveal keep both partition accounts. -/
structure PartitionsKept (ledger after : RoundLedger) : Prop where
  bracket : after.bracket = ledger.bracket
  tier1 : after.tier1 = ledger.tier1

/-- What an outside event brings to the vault of a mint. -/
def Outside.brings (mint : Pubkey) : Outside → Nat
  | .donate fed amount => if fed = mint then amount else 0
  | _ => 0

/-- What an instruction that does not move the pot brings to the vault of a mint. -/
def RoundSubmission.brings (mint : Pubkey) (submission : RoundSubmission) : Nat :=
  match submission.instruction with
  | .submitEntry _ _ _ _ => if submission.env.config.sgdMint = mint then entryFeeSgd else 0
  | .outside event => event.brings mint
  | _ => 0

/-- Outside events only feed vaults. -/
theorem balance_of_outside {event : Outside} (success : event.happen ledger = .ok after)
    (mint : Pubkey)
    : after.balance mint = ledger.balance mint + event.brings mint := by
  cases event with
  | createVault created =>
      simp only [Outside.happen, bind_eq_ok, require_eq_ok, exists_const, pure_eq_ok,
        Option.isNone_iff_eq_none] at success
      obtain ⟨absent, rfl⟩ := success
      simp only [RoundLedger.balance, Store.lookup_insert_apply, Outside.brings, Nat.add_zero]
      split
      · next here =>
          subst here
          simp [absent]
      · rfl
  | donate fed amount =>
      simp only [Outside.happen, bind_eq_ok, fetch_eq_ok, pure_eq_ok] at success
      obtain ⟨balance, held, rfl⟩ := success
      simp only [RoundLedger.balance, Store.lookup_insert_apply, Outside.brings]
      by_cases here : mint = fed
      · subst here
        simp [held]
      · simp [here, Ne.symm here]
  | changeWallet address wallet =>
      obtain rfl := pure_eq_ok.mp success
      rfl
  | closeWallet address =>
      obtain rfl := pure_eq_ok.mp success
      rfl
  | enterElsewhere address entry =>
      simp only [Outside.happen, bind_eq_ok, require_eq_ok, exists_const, pure_eq_ok] at success
      obtain ⟨_, _, rfl⟩ := success
      rfl

/-- Outside events add vaults, balances and other rounds' entries, and change wallets. -/
theorem outside_frame {event : Outside} (success : event.happen ledger = .ok after)
    : after = { ledger with
        entries := after.entries
        vaults := after.vaults
        wallets := after.wallets } := by
  cases event with
  | createVault mint =>
      obtain ⟨_, _, done⟩ := bind_eq_ok.mp success
      obtain rfl := pure_eq_ok.mp done
      rfl
  | donate mint amount =>
      obtain ⟨_, _, done⟩ := bind_eq_ok.mp success
      obtain rfl := pure_eq_ok.mp done
      rfl
  | changeWallet address wallet =>
      obtain rfl := pure_eq_ok.mp success
      rfl
  | closeWallet address =>
      obtain rfl := pure_eq_ok.mp success
      rfl
  | enterElsewhere address entry =>
      simp only [Outside.happen, bind_eq_ok, require_eq_ok, exists_const, pure_eq_ok] at success
      obtain ⟨_, _, rfl⟩ := success
      rfl

/-- The partition accounts stay but in the reveal. The settlement stays, and every vault gains
exactly what the instruction brings, unless the instruction moves the pot.
-/
structure RoundFramed (submission : RoundSubmission) (ledger after : RoundLedger) : Prop where
  partitions : (∀ reveal, submission.instruction ≠ .reveal reveal) → PartitionsKept ledger after
  settlement : ¬ submission.instruction.MovesPot → after.settlement = ledger.settlement
  brought : ¬ submission.instruction.MovesPot
    → ∀ mint, after.balance mint = ledger.balance mint + submission.brings mint

/-- No vault loses anything. -/
theorem RoundFramed.balance (framed : RoundFramed submission ledger after)
    (unmoved : ¬ submission.instruction.MovesPot) (mint : Pubkey)
    : ledger.balance mint ≤ after.balance mint := by
  rw [framed.brought unmoved]
  exact Nat.le_add_right _ _

/-- Every accepted instruction is framed, by cases on the instruction. -/
theorem roundStep_framed (success : roundStep ledger submission = .ok after)
    : RoundFramed submission ledger after := by
  obtain ⟨env, instruction⟩ := submission
  cases instruction with
  | submitEntry entryKey flowerKey flower playerSgdAta =>
      have entered := submitEntry_entered success
      obtain ⟨_, frame⟩ := submitEntry_success success
      refine ⟨fun _ => by rw [frame]; exact ⟨rfl, rfl⟩, fun _ => by rw [frame],
        fun _ mint => ?_⟩
      simp only [entered.balance, RoundSubmission.brings, eq_comm]
  | closeRound =>
      obtain ⟨_, rfl⟩ := closeRound_success success
      exact ⟨fun _ => ⟨rfl, rfl⟩, fun _ => rfl, fun _ _ => rfl⟩
  | finalizeRound =>
      obtain ⟨_, rfl⟩ := finalizeRound_success success
      exact ⟨fun _ => ⟨rfl, rfl⟩, fun _ => rfl, fun _ _ => rfl⟩
  | queueScoreEntry computationOffset entryKey flowerKey =>
      obtain ⟨_, _, rfl⟩ := queueScoreEntry_checked success
      exact ⟨fun _ => ⟨rfl, rfl⟩, fun _ => rfl, fun _ _ => rfl⟩
  | scoreEntryV2Callback computationOffset output =>
      obtain ⟨_, _, _, _, _, delivered⟩ := scoreEntryV2Callback_delivered success
      cases delivered <;> exact ⟨fun _ => ⟨rfl, rfl⟩, fun _ => rfl, fun _ _ => rfl⟩
  | cancelStuckScore entryKey =>
      obtain ⟨_, _, _, rfl⟩ := cancelStuckScore_attempted success
      exact ⟨fun _ => ⟨rfl, rfl⟩, fun _ => rfl, fun _ _ => rfl⟩
  | releaseEntry entryKey flowerKey =>
      obtain ⟨_, _, rfl⟩ := releaseEntry_checked success
      exact ⟨fun _ => ⟨rfl, rfl⟩, fun _ => rfl, fun _ _ => rfl⟩
  | reveal instruction =>
      obtain ⟨revealed, accepted, done⟩ := bind_eq_ok.mp success
      obtain rfl := pure_eq_ok.mp done
      exact ⟨fun other => absurd rfl (other _), fun _ => rfl, fun _ _ => rfl⟩
  | distributePot accounts =>
      obtain ⟨_, _, settled⟩ := distributePot_success success
      exact ⟨fun _ => by rw [settled.frame]; exact ⟨rfl, rfl⟩, fun still => absurd trivial still,
        fun still => absurd trivial still⟩
  | refundUnrevealedPot accounts =>
      obtain ⟨_, _, settled⟩ := refundUnrevealedPot_success success
      exact ⟨fun _ => by rw [settled.frame]; exact ⟨rfl, rfl⟩, fun still => absurd trivial still,
        fun still => absurd trivial still⟩
  | closePotVault surplusDestination =>
      have frame := (closePotVault_success success).frame
      exact ⟨fun _ => by rw [frame]; exact ⟨rfl, rfl⟩, fun still => absurd trivial still,
        fun still => absurd trivial still⟩
  | outside event =>
      have frame := outside_frame success
      exact ⟨fun _ => by rw [frame]; exact ⟨rfl, rfl⟩, fun _ => by rw [frame],
        fun _ => balance_of_outside success⟩

end SecretGarden.Settlement
