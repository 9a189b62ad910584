import SecretGarden.AutoCycle.Moves
import SecretGarden.AutoCycle.Scripted
import SecretGarden.AutoCycle.TakingOver

/-! Whatever the script does to reveal a round is a part of the round's own history: its
transactions, and the callbacks that land between them.
-/

namespace SecretGarden.AutoCycle

open Foundation SecretGarden.Bracket SecretGarden.Settlement SecretGarden.Season

variable {deps : BracketRevealDeps} {plan : BracketPlan} {ledger after : RevealLedger}

/-- A part of the script's reveal. -/
def ScriptedBy (deps : BracketRevealDeps) (plan : BracketPlan) (ledger : RevealLedger)
    (submission : Submission) : Prop :=
  submission.env = deps.envs submission.instruction
  ∧ Scripted plan ledger submission.instruction

/-- The script's transactions and landed callbacks lead from one ledger to the other. -/
def Driven (deps : BracketRevealDeps) (plan : BracketPlan) (before after : RevealLedger) : Prop :=
  ∃ history, Run revealStep (ScriptedBy deps plan) before history after

theorem Driven.refl (ledger : RevealLedger) : Driven deps plan ledger ledger := ⟨[], .start⟩

theorem Driven.trans {first second third : RevealLedger} (earlier : Driven deps plan first second)
    (later : Driven deps plan second third) : Driven deps plan first third := by
  obtain ⟨history, run⟩ := earlier
  obtain ⟨rest, more⟩ := later
  exact ⟨history ++ rest, run.append more⟩

theorem driven_of_step {instruction : RevealInstruction}
    (scripted : Scripted plan ledger instruction)
    (success : revealStep ledger ⟨deps.envs instruction, instruction⟩ = .ok after)
    : Driven deps plan ledger after :=
  ⟨[⟨deps.envs instruction, instruction⟩], .accepted .start ⟨rfl, scripted⟩ success⟩

/-- A folded action drives if it does at every element, by induction on them. -/
theorem driven_of_foldlM {α : Type} {act : RevealLedger → α → Except DriverFailure RevealLedger}
    {items : List α}
    (drives
      : ∀ {before next}, ∀ item ∈ items, act before item = .ok next → Driven deps plan before next)
    (success : items.foldlM act ledger = .ok after) : Driven deps plan ledger after := by
  induction items generalizing ledger with
  | nil => exact pure_eq_ok.mp success ▸ .refl _
  | cons item rest ih =>
      rw [List.foldlM_cons] at success
      obtain ⟨next, acted, later⟩ := bind_eq_ok.mp success
      refine (drives item List.mem_cons_self acted).trans (ih ?_ later)
      exact fun other listed => drives other (List.mem_cons_of_mem _ listed)

/-- A callback leaves the partition accounts. -/
theorem deliver_same (computationOffset : Nat) (ledger : RevealLedger)
    : SameAccounts ledger (deliver computationOffset ledger) := by
  rw [deliver]
  split
  · next delivered =>
      obtain ⟨_, _, _, _, _, rfl⟩ := revealTop3V5Callback_eq_ok.mp delivered
      exact ⟨rfl, rfl, rfl, rfl⟩
  · exact .refl ledger

/-- So do all that land, by induction on the arrivals. -/
theorem land_same (arrivals : List Nat) (ledger : RevealLedger)
    : SameAccounts ledger (land arrivals ledger) := by
  induction arrivals generalizing ledger with
  | nil => exact .refl ledger
  | cons computationOffset rest ih =>
      exact (deliver_same computationOffset ledger).trans (ih (deliver computationOffset ledger))

/-- Callbacks drive, by induction on the arrivals. -/
theorem driven_of_land (deps : BracketRevealDeps) (plan : BracketPlan) (arrivals : List Nat)
    (ledger : RevealLedger) : Driven deps plan ledger (land arrivals ledger) := by
  induction arrivals generalizing ledger with
  | nil => exact .refl ledger
  | cons computationOffset rest ih =>
      refine Driven.trans ?_ (ih (deliver computationOffset ledger))
      rw [deliver]
      split
      · next next delivered =>
          let callback := RevealInstruction.revealTop3V5Callback computationOffset true
          have accepted : revealStep ledger ⟨deps.envs callback, callback⟩ = .ok next := delivered
          exact driven_of_step .callback accepted
      · exact .refl ledger

theorem driven_of_sendTx {instruction : RevealInstruction}
    (scripted : Scripted plan (land (deps.early ledger) ledger) instruction)
    (success : sendTx deps instruction ledger = .ok after) : Driven deps plan ledger after := by
  rw [sendTx] at success
  split at success
  · next accepted =>
      cases success
      exact (driven_of_land deps plan _ ledger).trans (driven_of_step scripted accepted)
  · cases success

theorem driven_of_sendTxIf {needed : Bool} {instruction : RevealInstruction}
    (scripted : needed → Scripted plan (land (deps.early ledger) ledger) instruction)
    (success : sendTxIf deps needed instruction ledger = .ok after)
    : Driven deps plan ledger after := by
  rw [sendTxIf] at success
  split at success
  · next sent => exact driven_of_sendTx (scripted sent) success
  · exact pure_eq_ok.mp success ▸ .refl ledger

theorem driven_of_awaitResults (deps : BracketRevealDeps) (plan : BracketPlan)
    (targets : List ResultAddress) (ledger : RevealLedger)
    : Driven deps plan ledger (awaitResults deps targets ledger).2 := by
  rw [awaitResults]
  split
  · exact .refl ledger
  · exact driven_of_land deps plan _ ledger

/-- What a tier sends for its shards is a part of the script. -/
structure ScriptedTier (plan : BracketPlan) (spec : TierSpec) : Prop where
  queue : ∀ k < spec.count, ∀ ledger, Scripted plan ledger (spec.queue k)
  collect : ∀ k < spec.count, ∀ ledger, Scripted plan ledger (spec.collect k)

theorem driven_of_runTier {spec : TierSpec} {forceRequeue : Bool} (tier : ScriptedTier plan spec)
    (success : runTier deps spec forceRequeue ledger = .ok after)
    : Driven deps plan ledger after := by
  obtain ⟨queued, queues, rest⟩ := bind_eq_ok.mp success
  obtain ⟨_, _, collects⟩ := bind_eq_ok.mp rest
  have queuing := driven_of_foldlM
    (fun k listed sent => driven_of_sendTx
      (tier.queue k (List.mem_range.mp (List.mem_filter.mp listed).1) _) sent) queues
  have collecting : Driven deps plan (awaitResults deps _ queued).2 after :=
    driven_of_foldlM (fun k listed collected => by
      obtain ⟨done, _, sent⟩ := bind_eq_ok.mp collected
      split at sent
      · exact pure_eq_ok.mp sent ▸ .refl _
      · exact driven_of_sendTx (tier.collect k (List.mem_range.mp listed) _) sent) collects
  exact (driven_of_awaitResults deps plan _ ledger).trans
    (queuing.trans ((driven_of_awaitResults deps plan _ queued).trans collecting))

theorem driven_of_runSingleTier (single : plan.tier = .single)
    (ordinary : ∀ k < plan.shards.length, k ≠ finalShardIndex)
    (success : runSingleTier deps plan ledger = .ok after) : Driven deps plan ledger after := by
  obtain ⟨pinned, pins, tier⟩ := bind_eq_ok.mp success
  refine (driven_of_sendTxIf (fun needed => .pin single fun bracket held => ?_) pins).trans
    (driven_of_runTier ⟨fun k inside _ => .queue single (ordinary k inside),
      fun _ _ _ => .collect single⟩ tier)
  rw [(land_same _ ledger).bracket] at held
  simpa [Option.mem_def.mp held] using needed

theorem driven_of_runTier1 (two : plan.tier = .two)
    (ordinary : ∀ k < plan.shards.length, k ≠ finalShardIndex)
    (success : runTier1 deps plan ledger = .ok after) : Driven deps plan ledger after := by
  obtain ⟨cleared, clears, rest⟩ := bind_eq_ok.mp success
  obtain ⟨pinned, pins, rest⟩ := bind_eq_ok.mp rest
  have clearing : Driven deps plan ledger cleared := by
    refine driven_of_sendTxIf (fun needed => .clear two fun tier1 held => ?_) clears
    rw [(land_same _ ledger).tier1] at held
    rw [Option.mem_def.mp held] at needed
    simpa using (Bool.and_eq_true_iff.mp needed).2
  have begun := clearing.trans (driven_of_sendTxIf (fun _ => .pinTier1 two) pins)
  split at rest
  · exact pure_eq_ok.mp rest ▸ begun
  · obtain ⟨collected, tier, promotes⟩ := bind_eq_ok.mp rest
    have playing : Driven deps plan pinned collected :=
      driven_of_runTier ⟨fun k inside _ => .queueTier1 two (ordinary k inside),
        fun k inside _ => .collectTier1 two (ordinary k inside)⟩ tier
    exact begun.trans (playing.trans (driven_of_sendTx (.promote two) promotes))

theorem driven_of_runTwoTier (two : plan.tier = .two)
    (ordinary : ∀ k < plan.shards.length, k ≠ finalShardIndex)
    (success : runTwoTier deps plan ledger = .ok after) : Driven deps plan ledger after := by
  obtain ⟨promoted, first, rest⟩ := bind_eq_ok.mp success
  obtain ⟨tier1, _, rest⟩ := bind_eq_ok.mp rest
  obtain ⟨bracket, _, semifinals⟩ := bind_eq_ok.mp rest
  exact (driven_of_runTier1 two ordinary first).trans
    (driven_of_runTier ⟨fun _ _ _ => .queueSemifinal two, fun _ _ _ => .collectSemifinal two⟩
      semifinals)

theorem driven_of_runEndgame (success : runEndgame deps ledger = .ok after)
    : Driven deps plan ledger after := by
  obtain ⟨bracket, read, rest⟩ := bind_eq_ok.mp success
  have found := fetch_eq_ok.mp read
  dsimp only at rest
  split at rest
  · exact driven_of_sendTx .apply rest
  · obtain ⟨finished, final, applies⟩ := bind_eq_ok.mp rest
    obtain ⟨queued, sent, rest⟩ := bind_eq_ok.mp final
    obtain ⟨_, _, same⟩ := bind_eq_ok.mp rest
    obtain rfl := pure_eq_ok.mp same
    have queuing : Driven deps plan ledger queued := by
      refine driven_of_sendTxIf (fun needed => .queueFinal fun other held => ?_) sent
      rw [(land_same _ ledger).bracket, found] at held
      cases held
      simpa using needed
    exact queuing.trans ((driven_of_awaitResults deps plan [.shard finalShardIndex] queued).trans
      (driven_of_sendTx .apply applies))

/-- The whole reveal drives, by its plan. -/
theorem driven_of_runBracketReveal {entryKeys : List Pubkey}
    (success : runBracketReveal deps entryKeys ledger = .ok after)
    : ∃ plan, planBracket entryKeys = .ok plan ∧ Driven deps plan ledger after := by
  obtain ⟨plan, plans, rest⟩ := bind_eq_ok.mp success
  obtain ⟨gathered, tiers, endgame⟩ := bind_eq_ok.mp rest
  have planned : planBracket entryKeys = .ok plan := mapError_eq_ok.mp plans
  refine ⟨plan, planned, Driven.trans ?_ (driven_of_runEndgame endgame)⟩
  have ordinary : ∀ k < plan.shards.length, k ≠ finalShardIndex :=
    fun _ inside => ordinary_of_planned planned inside
  rw [runTiers] at tiers
  split at tiers
  · next two => exact driven_of_runTwoTier two ordinary tiers
  · next single => exact driven_of_runSingleTier single ordinary tiers

--------------------------------------------------------------------------------
-- In the season
--------------------------------------------------------------------------------

/-- A reveal leaves the entries of its round, by induction on its run. -/
theorem roundEntries_of_run {condition : RevealLedger → Submission → Prop}
    {history : List Submission} (run : Run revealStep condition ledger history after)
    : after.roundEntries = ledger.roundEntries := by
  induction run with
  | start => rfl
  | accepted _ _ success ih => exact (revealStep_framed success).roundEntries.trans ih
  | rejected _ _ ih => exact ih

/-- The reveal of a round is only what the script sends for the round's plan. -/
def RoundScripted (ledger : RoundLedger) (instruction : RoundInstruction) : Prop :=
  match instruction with
  | .reveal instruction =>
      ∃ plan,
        planBracket ledger.roundEntries = .ok plan
        ∧ Scripted plan ledger.toRevealLedger instruction
  | _ => True

/-- The script alone reveals rounds. Anybody may do anything else, and its own runs may stop
anywhere.
-/
def SeasonScripted (state : TracedSeason) (submission : SeasonSubmission) : Prop :=
  match submission.instruction with
  | .round key instruction =>
      ∀ ledger ∈ state.system.rounds.lookup key, RoundScripted ledger instruction
  | _ => True

/-- What is beside the reveals is left to anybody. -/
theorem BesideReveals.scripted {state : TracedSeason} {submission : SeasonSubmission}
    (beside : BesideReveals state submission) : SeasonScripted state submission := by
  unfold SeasonScripted
  split
  · next key instruction asked =>
      intro ledger _
      unfold RoundScripted
      split
      · next reveals => exact absurd asked (beside key reveals)
      · trivial
  · trivial

section Rounds

variable {cycle : CycleDeps} {key : RoundKey} {world : CycleWorld} {round : RoundLedger}
  {revealed : RevealLedger}

theorem withReveal_eq (revealed : RevealLedger)
    : world.withReveal key round revealed
      = world.put key { round with toRevealLedger := revealed } := rfl

/-- A reveal that is driven leaves the round as it is, or is a part of the season, by induction on
its run.
-/
theorem moved_of_driven (found : world.deployment.rounds.lookup key = some round)
    (planned : planBracket round.roundEntries = .ok plan)
    (driven : Driven (cycle.revealDeps key world) plan round.toRevealLedger revealed)
    : revealed = round.toRevealLedger
      ∨ Moved SeasonScripted key
          (fun _ next => next = { round with toRevealLedger := revealed })
          world (world.withReveal key round revealed) := by
  obtain ⟨history, run⟩ := driven
  induction run with
  | start => exact .inl rfl
  | @accepted _ before submission after earlier met success ih =>
      obtain ⟨env, instruction⟩ := submission
      obtain ⟨rfl, scripted⟩ : env = cycle.envAt world ∧ Scripted plan before instruction := met
      have field : before.roundEntries = round.roundEntries := roundEntries_of_run earlier
      let held : RoundLedger := { round with toRevealLedger := before }
      have step : roundStep held ⟨cycle.envAt world, .reveal instruction⟩
          = .ok { round with toRevealLedger := after } :=
        bind_eq_ok.mpr ⟨after, success, rfl⟩
      have allowed : RoundScripted held (.reveal instruction) :=
        ⟨plan, field.symm ▸ planned, scripted⟩
      refine .inr ?_
      rcases ih with rfl | moved
      · refine moved_of_met found step (fun _ ledger present => ?_) rfl
        cases found.symm.trans present
        exact allowed
      · have next : Moved SeasonScripted key
            (fun _ next => next = { round with toRevealLedger := after })
            (world.put key held)
            ((world.put key held).put key { round with toRevealLedger := after }) := by
          refine moved_of_met (lookup_put _) step (fun _ ledger present => ?_) rfl
          cases (lookup_put _).symm.trans present
          exact allowed
        rw [put_put] at next
        exact moved.trans (fun _ same => same) next
  | rejected _ _ ih => exact ih

end Rounds

end SecretGarden.AutoCycle
