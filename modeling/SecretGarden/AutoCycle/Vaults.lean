import SecretGarden.AutoCycle.Payouts

/-! Closing vaults: the survey of a round foretells what the program does with its vault, and a
sweep closes exactly the vaults that were surveyed to be closable.
-/

namespace SecretGarden.AutoCycle

open Foundation SecretGarden.Bracket SecretGarden.Settlement SecretGarden.Season

variable {deps : CycleDeps} {key : RoundKey} {world : CycleWorld} {ledger next : RoundLedger}
  {mint : Pubkey}

/-- The program lets the round's vault be closed. -/
def VaultReady (mint : Pubkey) (ledger : RoundLedger) : Prop :=
  (ledger.vaults.lookup mint).isSome ∧ requireClosable ledger = .ok ()

/-- A vault is surveyed as closable exactly when the program would let it be closed. -/
theorem classifyPotVault_closable (sound : Settlement.Sound ledger)
    : classifyPotVault mint ledger = .closable ↔ VaultReady mint ledger := by
  unfold classifyPotVault VaultReady requireClosable
  cases vault : ledger.vaults.lookup mint with
  | none => simp
  | some balance =>
      cases known : ledger.settlement with
      | none =>
          simp only [Option.isNone_some, Bool.false_eq_true, if_false, settlementStateOf,
            Option.map_none, Option.getD_none, reduceCtorEq, or_self, Option.isNone_none, true_and,
            Option.isSome_some, bind_eq_ok, require_eq_ok, exists_const]
          by_cases past : ledger.round.status = .finalized ∧ ledger.round.participantCount = 0
          · simp [past]
          · rw [if_neg past]
            simp [past]
      | some settlement =>
          have carried := sound.carried known
          simp only [Option.isNone_some, Bool.false_eq_true, if_false, settlementStateOf,
            Option.map_some, Option.getD_some, false_and, Option.isSome_some, true_and,
            bind_eq_ok, require_eq_ok, exists_const, carried, RoundSettlement.isTerminal,
            Bool.or_eq_true, beq_iff_eq]
          by_cases past : settlement.state = .potPaid ∨ settlement.state = .potRefunded
          · simp [past]
          · simp [past]

/-- A closed vault is gone, the authority's token account has exactly what was left in it, and
every other token account holds what it held.
-/
structure VaultClosed (deps : CycleDeps) (config : GameConfig) (ledger next : RoundLedger)
    : Prop where
  ready : VaultReady config.sgdMint ledger
  frame : next = { ledger with
    vaults := ledger.vaults.erase config.sgdMint
    wallets := next.wallets }
  received : ∃ wallet,
    next.wallets.lookup (deps.ataFor config.authority config.sgdMint) = some wallet
    ∧ wallet.owner = config.authority ∧ wallet.mint = config.sgdMint
  swept : ∀ address, next.walletAmount address = ledger.walletAmount address
    + if address = deps.ataFor config.authority config.sgdMint then ledger.balance config.sgdMint
      else 0

/-- What becomes of one round's vault: a vault that is surveyed closable stays only where a
derived address holds someone else's token account.
-/
inductive Reclaimed (deps : CycleDeps) (config : GameConfig) (ledger next : RoundLedger)
    : (closed : Bool) → Prop
  | closed (done : VaultClosed deps config ledger next) : Reclaimed deps config ledger next true
  | spared (furnished : Furnished deps config.sgdMint ledger next)
    (unowned : VaultReady config.sgdMint ledger → ¬ AtasOwned deps config.sgdMint ledger)
    : Reclaimed deps config ledger next false

/-- What an accepted close did, seen from before the authority's token account was created. -/
theorem vaultClosed_of_step {env : Env} {middle : RoundLedger}
    (furnished : Furnished deps env.config.sgdMint ledger middle)
    (success : closePotVault env (deps.ataFor env.config.authority env.config.sgdMint) middle
      = .ok next)
    : VaultClosed deps env.config ledger next := by
  have swept := closePotVault_success success
  have vault := swept.vault
  have closable := swept.closable
  rw [furnished.frame] at vault closable
  refine ⟨⟨vault, closable⟩, ?_, swept.received, fun address => ?_⟩
  · rw [swept.frame, furnished.frame]
  · have same : middle.balance env.config.sgdMint = ledger.balance env.config.sgdMint := by
      rw [furnished.frame]
      rfl
    rw [swept.credited, furnished.amounts, same]

/-- A close is accepted where the survey foretells it, and nowhere else. -/
theorem reclaimVault_reports (deps : CycleDeps)
    (found : world.deployment.rounds.lookup key = some ledger)
    (operator : isOperatorOrAuthority world.deployment.config deps.signer)
    : ∃ closed after,
        reclaimVault deps key world = (closed, after)
        ∧ after.now = world.now
        ∧ Moved BesideReveals key
            (fun ledger next => Reclaimed deps world.deployment.config ledger next closed)
            world after := by
  let config := world.deployment.config
  obtain ⟨moved, now, middle, held, ready⟩ :=
    ensureAtas_ensures deps config.sgdMint [config.authority] found
  rw [reclaimVault]
  generalize ensureAtas deps key config.sgdMint [config.authority] world = ensured
    at moved now held ⊢
  obtain ⟨_, same, furnished⟩ := moved.ledger ledger found
  cases held.symm.trans same
  have same : (deps.envAt ensured).config = config := moved.config
  cases sent : send deps
      (.round key (.closePotVault (deps.ataFor config.authority config.sgdMint))) ensured with
  | ok after =>
      obtain ⟨next, accepted, rfl⟩ := step_of_send held sent
      have step : Moved BesideReveals key (fun _ _ => True) ensured (ensured.put key next) :=
        moved_of_step held accepted nofun trivial
      refine ⟨true, _, rfl, now, moved.onward.trans step.onward, step.config.trans moved.config,
        fun other apart => (step.others other apart).trans (moved.others other apart), ?_⟩
      intro _ present
      cases found.symm.trans present
      refine ⟨next, lookup_put next, .closed ?_⟩
      change VaultClosed deps config ledger next
      rw [← same]
      exact vaultClosed_of_step (same ▸ furnished) (same ▸ accepted)
  | error failure =>
      refine ⟨false, _, rfl, now, moved.onward, moved.config, moved.others, ?_⟩
      intro _ present
      cases found.symm.trans present
      refine ⟨middle, held, .spared furnished fun ⟨vault, closable⟩ atas => ?_⟩
      obtain ⟨wallet, kept⟩ := Option.isSome_iff_exists.mp (ready _ (List.mem_singleton_self _))
      obtain ⟨owner, minted⟩ := (furnished.owned atas).owned kept
      have frame := furnished.frame
      obtain ⟨next, accepted⟩ :
          ∃ next, closePotVault (deps.envAt ensured)
            (deps.ataFor config.authority config.sgdMint) middle = .ok next := by
        refine closePotVault_of_owned ?_ (same ▸ operator) kept (same ▸ owner) (same ▸ minted) ?_
        · rw [same, frame]
          exact vault
        · rw [frame]
          exact closable
      have step : roundStep middle ⟨deps.envAt ensured,
          .closePotVault (deps.ataFor config.authority config.sgdMint)⟩ = .ok next := accepted
      rw [send_of_step held step] at sent
      cases sent

--------------------------------------------------------------------------------
-- A sweep
--------------------------------------------------------------------------------

/-- What a sweep over `keys` does to each round. -/
def SweptVaults (deps : CycleDeps) (config : GameConfig) (keys closed : List RoundKey)
    (key : RoundKey) (ledger next : RoundLedger) : Prop :=
  if key ∈ keys then Reclaimed deps config ledger next (decide (key ∈ closed)) else next = ledger

/-- The vaults are closed one after the other, by induction on the rounds. -/
theorem reclaimVaults_reports (deps : CycleDeps) {keys : List RoundKey} (unique : keys.Nodup)
    (operator : isOperatorOrAuthority world.deployment.config deps.signer)
    (known : ∀ key ∈ keys, (world.deployment.rounds.lookup key).isSome)
    : ∃ closed after,
        reclaimVaults deps keys world = (closed, after)
        ∧ after.now = world.now
        ∧ closed.Sublist keys
        ∧ MovedEach BesideReveals (SweptVaults deps world.deployment.config keys closed)
            world after := by
  induction keys generalizing world with
  | nil =>
      refine ⟨[], world, rfl, rfl, .slnil, .refl (fun key ledger => ?_) world⟩
      simp [SweptVaults]
  | cons key rest ih =>
      obtain ⟨here, others⟩ := List.forall_mem_cons.mp known
      obtain ⟨ledger, found⟩ := Option.isSome_iff_exists.mp here
      obtain ⟨fresh, unique⟩ := List.nodup_cons.mp unique
      obtain ⟨closed, middle, success, now, moved⟩ := reclaimVault_reports deps found operator
      have remain : ∀ other ∈ rest, (middle.deployment.rounds.lookup other).isSome := by
        intro other member
        rw [moved.others other (fun same => fresh (same ▸ member))]
        exact others other member
      obtain ⟨later, after, finished, last, listed, sweeps⟩ :=
        ih unique (moved.config ▸ operator) remain
      rw [moved.config] at sweeps
      have unlisted : key ∉ later := fun member => fresh (listed.subset member)
      refine ⟨if closed then key :: later else later, after, ?_, last.trans now, ?_, ?_⟩
      · simp only [reclaimVaults, success, finished]
      · cases closed
        · exact listed.cons key
        · exact listed.cons_cons key
      · have first : MovedEach BesideReveals
            (fun other ledger next =>
              if other = key then Reclaimed deps world.deployment.config ledger next closed
              else next = ledger)
            world middle :=
          moved.toEach found (fun other apart ledger => (if_neg apart).symm ▸ rfl)
            fun _ reclaimed => (if_pos rfl).symm ▸ reclaimed
        refine first.trans ?_ sweeps
        intro other a b c before after
        unfold SweptVaults at after ⊢
        by_cases here : other = key
        · subst here
          rw [if_pos rfl] at before
          obtain rfl : c = b := by simpa [fresh] using after
          cases closed <;> simpa [unlisted] using before
        · obtain rfl : b = a := by simpa [here] using before
          cases closed <;> simpa [here] using after

variable {current : RoundKey}

theorem mem_surveyVaults {deployment : Deployment} {survey : VaultSurvey}
    : key ∈ surveyVaults current deployment survey
      ↔ (1 ≤ key ∧ key ≤ current)
        ∧ ∃ ledger, deployment.rounds.lookup key = some ledger
          ∧ classifyPotVault deployment.config.sgdMint ledger = survey := by
  rw [surveyVaults, List.mem_filter, List.mem_range'_1, Option.any_eq_true]
  simp only [beq_iff_eq]
  exact and_congr_left fun _ => and_congr_right fun _ => Nat.lt_one_add_iff

/-- How many vaults of a deployment were surveyed to be of a kind. -/
def countVaults (deployment : Deployment) (survey : VaultSurvey) : Nat :=
  (Store.keysWhere deployment.rounds fun ledger =>
    classifyPotVault deployment.config.sgdMint ledger == survey).length

/-- The survey misses no round. -/
theorem surveyVaults_perm {deployment : Deployment} (order : RoundsInOrder deployment)
    (survey : VaultSurvey)
    : (surveyVaults deployment.config.currentRound deployment survey).Perm
        (Store.keysWhere deployment.rounds fun ledger =>
          classifyPotVault deployment.config.sgdMint ledger == survey) := by
  refine (List.perm_ext_iff_of_nodup ((List.nodup_range' ..).filter _)
    (Store.keysWhere_nodup _ _)).mpr fun key => ?_
  change key ∈ surveyVaults _ deployment survey ↔ _
  rw [mem_surveyVaults, Store.mem_keysWhere]
  simp only [beq_iff_eq]
  constructor
  · exact And.right
  · rintro ⟨ledger, found, same⟩
    exact ⟨(order.numbered key).mp (by rw [found]; rfl), ledger, found, same⟩

variable {condition : TracedSeason → SeasonSubmission → Prop}

theorem nodup_surveyVaults (deployment : Deployment) (survey : VaultSurvey)
    : (surveyVaults current deployment survey).Nodup :=
  (List.nodup_range' ..).filter _

/-- The closable rounds are those whose vault the program lets be closed. -/
theorem mem_closable (reached : Reached condition world.deployment)
    (found : world.deployment.rounds.lookup key = some ledger)
    : key ∈ surveyVaults world.deployment.config.currentRound world.deployment .closable
      ↔ VaultReady world.deployment.config.sgdMint ledger := by
  rw [mem_surveyVaults, ← classifyPotVault_closable (reached.sound found)]
  constructor
  · rintro ⟨_, other, held, same⟩
    cases found.symm.trans held
    exact same
  · exact fun same => ⟨(reached.order.numbered key).mp (by rw [found]; rfl), ledger, found, same⟩

theorem isSome_of_surveyed {deployment : Deployment} {survey : VaultSurvey}
    : ∀ key ∈ surveyVaults current deployment survey, (deployment.rounds.lookup key).isSome := by
  intro key member
  obtain ⟨_, ledger, found, _⟩ := mem_surveyVaults.mp member
  rw [found]
  rfl

/-- What the stage does to a round: a vault that is ready is taken up, and nothing else. -/
def Swept (deps : CycleDeps) (config : GameConfig) (ledger next : RoundLedger) : Prop :=
  VaultReady config.sgdMint ledger ∧ (∃ closed, Reclaimed deps config ledger next closed)
  ∨ ¬ VaultReady config.sgdMint ledger ∧ next = ledger

/-- The stage sweeps every round of a season. -/
theorem reclaimStage_sweeps (deps : CycleDeps) {cycle : CycleRun}
    (reached : Reached condition cycle.world.deployment)
    (named : cycle.world.deployment.config.currentRound = current)
    (operator : isOperatorOrAuthority cycle.world.deployment.config deps.signer)
    : (reclaimStage deps current cycle).world.now = cycle.world.now
      ∧ MovedEach BesideReveals (fun _ => Swept deps cycle.world.deployment.config) cycle.world
          (reclaimStage deps current cycle).world := by
  subst named
  let current := cycle.world.deployment.config.currentRound
  obtain ⟨closed, swept, success, now, _, moved⟩ :=
    reclaimVaults_reports deps (nodup_surveyVaults cycle.world.deployment .closable) operator
      isSome_of_surveyed
  have ended : (reclaimStage deps current cycle).world = swept := congrArg Prod.snd success
  rw [ended]
  refine ⟨now, moved.mono fun found sweeps => ?_⟩
  have surveyed := mem_closable reached found
  unfold SweptVaults at sweeps
  split at sweeps
  · next member => exact .inl ⟨surveyed.mp member, _, sweeps⟩
  · next absent => exact .inr ⟨mt surveyed.mpr absent, sweeps⟩

/-- One player entered a round that was never revealed, and was refunded from its vault. -/
def refundedSeasonScript : List SeasonSubmission :=
  unrevealedScript
    ++ [administratorAt refundTime (.round 1 (.refundUnrevealedPot [1, 301])),
      administratorAt refundTime (.openRound (some 1) ∅)]

theorem patientCycle_atas
    (owned : ∀ wallet ∈ ledger.wallets.entries,
      wallet.1 = 200 + wallet.2.owner ∧ wallet.2.mint = mint)
    : AtasOwned patientCycle mint ledger := by
  refine ⟨fun same => Nat.add_left_cancel same, fun found => ?_⟩
  obtain ⟨address, minted⟩ := owned _ (AList.mem_lookup_iff.mp found)
  exact ⟨(Nat.add_left_cancel address).symm, minted⟩

end SecretGarden.AutoCycle
