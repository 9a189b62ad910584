import SecretGarden.AutoCycle.Cycle
import SecretGarden.Season.Champions

/-! What the script's transactions and waits do to the world. Each of them is a part of the
season's own history, and moves no more than one round.
-/

namespace SecretGarden.AutoCycle

open Foundation SecretGarden.Bracket SecretGarden.Settlement SecretGarden.Season

variable {condition : TracedSeason → SeasonSubmission → Prop}

--------------------------------------------------------------------------------
-- The season goes on
--------------------------------------------------------------------------------

/-- Accepted instructions that meet the condition lead from one deployment to the other. -/
def Onward (condition : TracedSeason → SeasonSubmission → Prop) (before after : Deployment)
    : Prop :=
  ∀ journal, ∃ history later,
    Run tracedSeason condition ⟨before, journal⟩ history ⟨after, later⟩

theorem Onward.refl (deployment : Deployment) : Onward condition deployment deployment :=
  fun journal => ⟨[], journal, .start⟩

theorem Onward.trans {first second third : Deployment} (earlier : Onward condition first second)
    (later : Onward condition second third) : Onward condition first third := by
  intro journal
  obtain ⟨history, noted, run⟩ := earlier journal
  obtain ⟨rest, last, onward⟩ := later noted
  exact ⟨history ++ rest, last, run.append onward⟩

theorem Onward.mono {weaker : TracedSeason → SeasonSubmission → Prop}
    {before after : Deployment}
    (weaken : ∀ state submission, condition state submission → weaker state submission)
    (onward : Onward condition before after) : Onward weaker before after := by
  intro journal
  obtain ⟨history, later, run⟩ := onward journal
  exact ⟨history, later, run.mono weaken⟩

theorem Onward.of_step {before after : Deployment} {submission : SeasonSubmission}
    (met : ∀ journal, condition ⟨before, journal⟩ submission)
    (success : seasonStep before submission = .ok after) : Onward condition before after := by
  intro journal
  have accepted : tracedSeason ⟨before, journal⟩ submission
      = .ok ⟨after, noteReveals before submission journal⟩ :=
    journaled_eq_ok.mpr ⟨success, rfl⟩
  exact ⟨[submission], _, .accepted .start (met journal) accepted⟩

/-- A season led to the deployment, from its creation on. -/
def Reached (condition : TracedSeason → SeasonSubmission → Prop) (deployment : Deployment) : Prop :=
  ∃ start history journal, Deployment.Fresh start
    ∧ Run tracedSeason condition start.traced history ⟨deployment, journal⟩

theorem Reached.onward {before after : Deployment} (reached : Reached condition before)
    (onward : Onward condition before after) : Reached condition after := by
  obtain ⟨start, history, journal, fresh, run⟩ := reached
  obtain ⟨rest, later, more⟩ := onward journal
  exact ⟨start, _, later, fresh, run.append more⟩

theorem Reached.mono {weaker : TracedSeason → SeasonSubmission → Prop} {deployment : Deployment}
    (reached : Reached condition deployment)
    (weaken : ∀ state submission, condition state submission → weaker state submission)
    : Reached weaker deployment := by
  obtain ⟨start, history, journal, fresh, run⟩ := reached
  exact ⟨start, history, journal, fresh, run.mono weaken⟩

theorem Reached.attested {deployment : Deployment} (reached : Reached condition deployment)
    {key : RoundKey} {ledger : RoundLedger} (found : deployment.rounds.lookup key = some ledger)
    : ∃ journal, Attested ⟨ledger, journal⟩ := by
  obtain ⟨start, history, journal, fresh, run⟩ := reached
  exact ⟨_, (attested_of_run fresh run).known key ledger found⟩

theorem Reached.sound {deployment : Deployment} (reached : Reached condition deployment)
    {key : RoundKey} {ledger : RoundLedger} (found : deployment.rounds.lookup key = some ledger)
    : Settlement.Sound ledger := by
  obtain ⟨_, attested⟩ := reached.attested found
  exact attested.sound

theorem Reached.order {deployment : Deployment} (reached : Reached condition deployment)
    : RoundsInOrder deployment := by
  obtain ⟨start, history, journal, fresh, run⟩ := reached
  exact run.forget.invariant fresh.roundsInOrder fun known _ success => known.step success

/-- No part of a reveal. -/
def BesideReveals (_ : TracedSeason) (submission : SeasonSubmission) : Prop :=
  ∀ key instruction, submission.instruction ≠ .round key (.reveal instruction)

/-- What is beside the reveals is documented. -/
theorem BesideReveals.documented {state : TracedSeason} {submission : SeasonSubmission}
    (beside : BesideReveals state submission) : SeasonDocumented state submission := by
  unfold SeasonDocumented
  split
  · next key instruction asked =>
      intro ledger _
      unfold RoundDocumented
      split
      · next reveals same =>
          obtain rfl : instruction = .reveal reveals := same
          exact absurd asked (beside key reveals)
      · trivial
  · trivial

theorem Reached.beside {before after : Deployment} (reached : Reached SeasonDocumented before)
    (onward : Onward BesideReveals before after) : Reached SeasonDocumented after :=
  reached.onward (onward.mono fun _ _ => BesideReveals.documented)

--------------------------------------------------------------------------------
-- One round moves
--------------------------------------------------------------------------------

section Rounds

variable {deps : CycleDeps} {key : RoundKey} {world after : CycleWorld}
  {ledger : RoundLedger} {instruction : RoundInstruction}

/-- What a transaction of the script sees of the world. -/
def CycleDeps.envAt (deps : CycleDeps) (world : CycleWorld) : Env :=
  { signer := deps.signer
    config := world.deployment.config
    slot := deps.slotAt world.now
    now := deps.chainTime world.now }

/-- The world with a round's accounts replaced. -/
def CycleWorld.put (world : CycleWorld) (key : RoundKey) (ledger : RoundLedger) : CycleWorld :=
  { world with
    deployment := { world.deployment with rounds := world.deployment.rounds.insert key ledger } }

/-- The script's instruction of a round, as the season takes it. -/
theorem seasonStep_round (found : world.deployment.rounds.lookup key = some ledger)
    : seasonStep world.deployment (deps.submission world.now (.round key instruction))
      = (roundStep ledger ⟨deps.envAt world, instruction⟩).map
          fun next => (world.put key next).deployment := by
  change (do
    let held ← fetch (world.deployment.rounds.lookup key) SecretGardenError.accountNotInitialized
    let next ← roundStep held ⟨deps.envAt world, instruction⟩
    pure (world.put key next).deployment) = _
  rw [found]
  change (do
    let next ← roundStep ledger ⟨deps.envAt world, instruction⟩
    pure (world.put key next).deployment) = _
  cases roundStep ledger ⟨deps.envAt world, instruction⟩ <;> rfl

/-- An instruction that the round accepts is sent. -/
theorem send_of_step (found : world.deployment.rounds.lookup key = some ledger)
    {next : RoundLedger}
    (success : roundStep ledger ⟨deps.envAt world, instruction⟩ = .ok next)
    : send deps (.round key instruction) world = .ok (world.put key next) := by
  rw [send, seasonStep_round found, success]
  rfl

/-- What was sent, the round accepted. -/
theorem step_of_send (found : world.deployment.rounds.lookup key = some ledger)
    (sent : send deps (.round key instruction) world = .ok after)
    : ∃ next, roundStep ledger ⟨deps.envAt world, instruction⟩ = .ok next
        ∧ after = world.put key next := by
  rw [send, seasonStep_round found] at sent
  cases moved : roundStep ledger ⟨deps.envAt world, instruction⟩ with
  | error failure =>
      rw [moved] at sent
      cases sent
  | ok next =>
      rw [moved] at sent
      exact ⟨next, rfl, (Except.ok.inj sent).symm⟩

/-- What happens beside the script is accepted by the round, or changes nothing. -/
theorem happen_cases (deps : CycleDeps) (instruction : RoundInstruction)
    (found : world.deployment.rounds.lookup key = some ledger)
    : (∃ next, roundStep ledger ⟨deps.envAt world, instruction⟩ = .ok next
        ∧ happen deps key instruction world = world.put key next)
      ∨ (∃ failure, roundStep ledger ⟨deps.envAt world, instruction⟩ = .error failure)
        ∧ happen deps key instruction world = world := by
  rw [happen, processed, seasonStep_round found]
  cases roundStep ledger ⟨deps.envAt world, instruction⟩ with
  | error failure => exact .inr ⟨⟨failure, rfl⟩, rfl⟩
  | ok next => exact .inl ⟨next, rfl, rfl⟩

/-- What happens beside the script, where the round accepts it. -/
theorem happen_of_step (found : world.deployment.rounds.lookup key = some ledger)
    {next : RoundLedger}
    (success : roundStep ledger ⟨deps.envAt world, instruction⟩ = .ok next)
    : happen deps key instruction world = world.put key next := by
  rw [happen, processed, seasonStep_round found, success]
  rfl

/-- The last accounts put are those that stay. -/
theorem put_put (earlier next : RoundLedger)
    : (world.put key earlier).put key next = world.put key next := by
  simp [CycleWorld.put, AList.insert_insert]

@[simp]
theorem lookup_put (next : RoundLedger)
    : (world.put key next).deployment.rounds.lookup key = some next := by
  simp [CycleWorld.put]

/-- A part of the script's run that moves one round at most, as `related` says. -/
structure Moved (condition : TracedSeason → SeasonSubmission → Prop) (key : RoundKey)
    (related : RoundLedger → RoundLedger → Prop) (before after : CycleWorld) : Prop where
  onward : Onward condition before.deployment after.deployment
  config : after.deployment.config = before.deployment.config
  others : ∀ other ≠ key,
    after.deployment.rounds.lookup other = before.deployment.rounds.lookup other
  ledger : ∀ ledger, before.deployment.rounds.lookup key = some ledger
    → ∃ next, after.deployment.rounds.lookup key = some next ∧ related ledger next

variable {related : RoundLedger → RoundLedger → Prop}

theorem Moved.refl (kept : ∀ ledger, related ledger ledger) (world : CycleWorld)
    : Moved condition key related world world :=
  ⟨.refl _, rfl, fun _ _ => rfl, fun ledger found => ⟨ledger, found, kept ledger⟩⟩

theorem Moved.trans {first second third : CycleWorld}
    {former latter joint : RoundLedger → RoundLedger → Prop}
    (earlier : Moved condition key former first second)
    (composes : ∀ {a b c}, former a b → latter b c → joint a c)
    (later : Moved condition key latter second third)
    : Moved condition key joint first third := by
  refine ⟨earlier.onward.trans later.onward, later.config.trans earlier.config,
    fun other apart => (later.others other apart).trans (earlier.others other apart),
    fun ledger found => ?_⟩
  obtain ⟨middle, held, before⟩ := earlier.ledger ledger found
  obtain ⟨last, reached, after⟩ := later.ledger middle held
  exact ⟨last, reached, composes before after⟩

theorem Moved.mono {weaker : RoundLedger → RoundLedger → Prop} {before after : CycleWorld}
    (weaken : ∀ {ledger next}, related ledger next → weaker ledger next)
    (moved : Moved condition key related before after)
    : Moved condition key weaker before after := by
  refine ⟨moved.onward, moved.config, moved.others, fun ledger found => ?_⟩
  obtain ⟨next, reached, kept⟩ := moved.ledger ledger found
  exact ⟨next, reached, weaken kept⟩

theorem Moved.any {before after : CycleWorld} (moved : Moved condition key related before after)
    : Moved anyAction key related before after :=
  ⟨moved.onward.mono fun _ _ _ => trivial, moved.config, moved.others, moved.ledger⟩

/-- An accepted instruction moves its round. -/
theorem moved_of_met (found : world.deployment.rounds.lookup key = some ledger)
    {next : RoundLedger}
    (success : roundStep ledger ⟨deps.envAt world, instruction⟩ = .ok next)
    (met
      : ∀ journal,
          condition ⟨world.deployment, journal⟩
            (deps.submission world.now (.round key instruction)))
    (kept : related ledger next) : Moved condition key related world (world.put key next) := by
  refine ⟨?_, rfl, fun other apart => ?_, fun held present => ?_⟩
  · have accepted
        : seasonStep world.deployment (deps.submission world.now (.round key instruction))
          = .ok (world.put key next).deployment := by
      rw [seasonStep_round found, success]
      rfl
    exact .of_step met accepted
  · rw [CycleWorld.put, Store.lookup_insert_apply, if_neg apart]
  · cases found.symm.trans present
    exact ⟨next, lookup_put next, kept⟩

/-- An accepted instruction beside the reveal moves its round. -/
theorem moved_of_step (found : world.deployment.rounds.lookup key = some ledger)
    {next : RoundLedger}
    (success : roundStep ledger ⟨deps.envAt world, instruction⟩ = .ok next)
    (other : ∀ reveals, instruction ≠ .reveal reveals)
    (kept : related ledger next)
    : Moved BesideReveals key related world (world.put key next) := by
  refine moved_of_met found success (fun _ asked reveals same => ?_) kept
  exact other reveals (SeasonInstruction.round.inj same).2

/-- The clock alone moves nothing. -/
theorem Moved.later {before : CycleWorld} (moved : Moved condition key related before after)
    (now : Int) : Moved condition key related before { after with now := now } :=
  ⟨moved.onward, moved.config, moved.others, moved.ledger⟩

--------------------------------------------------------------------------------
-- Several rounds move
--------------------------------------------------------------------------------

/-- A part of the script's run that moves each round as `each` says. -/
structure MovedEach (condition : TracedSeason → SeasonSubmission → Prop)
    (each : RoundKey → RoundLedger → RoundLedger → Prop) (before after : CycleWorld) : Prop where
  onward : Onward condition before.deployment after.deployment
  config : after.deployment.config = before.deployment.config
  rounds : ∀ key,
    Option.Rel (each key) (before.deployment.rounds.lookup key)
      (after.deployment.rounds.lookup key)

variable {each : RoundKey → RoundLedger → RoundLedger → Prop} {before : CycleWorld}

theorem MovedEach.round (moved : MovedEach condition each before after)
    (found : before.deployment.rounds.lookup key = some ledger)
    : ∃ next, after.deployment.rounds.lookup key = some next ∧ each key ledger next := by
  have rounds := moved.rounds key
  rw [found] at rounds
  cases reached : after.deployment.rounds.lookup key with
  | none =>
      rw [reached] at rounds
      cases rounds
  | some next =>
      rw [reached] at rounds
      cases rounds with
      | some moves => exact ⟨next, rfl, moves⟩

theorem MovedEach.refl (kept : ∀ key ledger, each key ledger ledger) (world : CycleWorld)
    : MovedEach condition each world world := by
  refine ⟨.refl _, rfl, fun key => ?_⟩
  cases world.deployment.rounds.lookup key with
  | none => exact .none
  | some ledger => exact .some (kept key ledger)

theorem MovedEach.trans {first second third : CycleWorld}
    {former latter joint : RoundKey → RoundLedger → RoundLedger → Prop}
    (composes : ∀ {key a b c}, former key a b → latter key b c → joint key a c)
    (earlier : MovedEach condition former first second)
    (later : MovedEach condition latter second third)
    : MovedEach condition joint first third := by
  refine ⟨earlier.onward.trans later.onward, later.config.trans earlier.config, fun key => ?_⟩
  have one := earlier.rounds key
  have two := later.rounds key
  generalize first.deployment.rounds.lookup key = a at one ⊢
  generalize second.deployment.rounds.lookup key = b at one two
  generalize third.deployment.rounds.lookup key = c at two ⊢
  cases one with
  | none =>
      cases two
      exact .none
  | some before =>
      cases two with
      | some after => exact .some (composes before after)

theorem MovedEach.mono {wider : RoundKey → RoundLedger → RoundLedger → Prop}
    (moved : MovedEach condition each before after)
    (weaken
      : ∀ {key ledger next},
          before.deployment.rounds.lookup key = some ledger
          → each key ledger next
          → wider key ledger next)
    : MovedEach condition wider before after := by
  refine ⟨moved.onward, moved.config, fun key => ?_⟩
  have moves := moved.rounds key
  cases found : before.deployment.rounds.lookup key with
  | none =>
      rw [found] at moves
      generalize after.deployment.rounds.lookup key = reached at moves ⊢
      cases moves
      exact .none
  | some ledger =>
      obtain ⟨next, reached, moves⟩ := moved.round found
      rw [reached]
      exact .some (weaken found moves)

/-- One round moved, the others stayed. -/
theorem Moved.toEach (moved : Moved condition key related before after)
    (found : before.deployment.rounds.lookup key = some ledger)
    (stay : ∀ other ≠ key, ∀ ledger, each other ledger ledger)
    (move : ∀ {next}, after.deployment.rounds.lookup key = some next → related ledger next
      → each key ledger next)
    : MovedEach condition each before after := by
  refine ⟨moved.onward, moved.config, fun other => ?_⟩
  by_cases same : other = key
  · subst same
    obtain ⟨next, reached, moves⟩ := moved.ledger ledger found
    rw [found, reached]
    exact .some (move reached moves)
  · rw [moved.others other same]
    cases before.deployment.rounds.lookup other with
    | none => exact .none
    | some ledger => exact .some (stay other same ledger)

end Rounds

end SecretGarden.AutoCycle
