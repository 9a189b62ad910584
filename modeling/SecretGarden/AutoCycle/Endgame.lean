import SecretGarden.AutoCycle.Tiers

/-! The script's endgame: the final, where one is needed, and the apply.
A final that an earlier run queued is taken as it is; the tiers before leave its account alone.
-/

namespace SecretGarden.AutoCycle

open Foundation SecretGarden.Bracket

/-- Nothing in flight is aimed at the account. -/
def Idle (ledger : RevealLedger) (target : ResultAddress) : Prop :=
  ∀ computationOffset computation,
    ledger.computations.lookup computationOffset = some computation
    → computation.target ≠ target

section Idle

variable {ledger : RevealLedger} {target : ResultAddress}

theorem Idle.awaits (idle : Idle ledger target) (accounts : List Pubkey)
    : Awaits ledger target accounts :=
  fun computationOffset computation found aimed =>
    absurd aimed (idle computationOffset computation found)

/-- Without a result account nothing is in flight to it. -/
theorem idle_of_vacant (tracked : Tracked ledger)
    (vacant : ledger.results.lookup target = none) : Idle ledger target := by
  rintro computationOffset computation found rfl
  obtain ⟨result, present⟩ := tracked.aimed found
  cases vacant.symm.trans present

/-- An account that does not exist yet answers for anything. -/
theorem answers_of_vacant (tracked : Tracked ledger)
    (vacant : ledger.results.lookup target = none) (generation : Nat) (accounts : List Pubkey)
    : Answers ledger target generation accounts := by
  refine ⟨fun result present => ?_, (idle_of_vacant tracked vacant).awaits accounts⟩
  cases vacant.symm.trans present

theorem survives_idle (target : ResultAddress) : Survives fun ledger => Idle ledger target := by
  intro ledger delivered computation result _ _ idle other queued listed
  obtain ⟨_, listed⟩ := Store.lookup_erase_eq_some.mp listed
  exact idle other queued listed

theorem Idle.queue_other {computationOffset stamp : Nat} {other : ResultAddress}
    {run : List Contender} (idle : Idle ledger target) (apart : other ≠ target)
    : Idle (ledger.queue computationOffset other stamp run) target := by
  intro queuedOffset computation found
  rcases Store.lookup_insert_eq_some.mp found with ⟨_, rfl⟩ | ⟨_, found⟩
  · exact apart
  · exact idle queuedOffset computation found

theorem SameResults.idle {after : RevealLedger} (same : SameResults ledger after)
    (idle : Idle ledger target) : Idle after target := by
  rwa [Idle, same.computations]

end Idle

--------------------------------------------------------------------------------
-- What a tier leaves alone
--------------------------------------------------------------------------------

section Untouched

variable {deps : BracketRevealDeps} {spec : TierSpec} {generation : Nat}

theorem Untouched.and {first second : RevealLedger → Prop}
    (one : Untouched deps spec generation first) (two : Untouched deps spec generation second)
    : Untouched deps spec generation fun ledger => first ledger ∧ second ledger := by
  constructor
  · intro ledger computationOffset computation result found present ⟨held, kept⟩
    exact ⟨one.survives found present held, two.survives found present kept⟩
  · exact fun inside ⟨held, kept⟩ => ⟨one.queue inside held, two.queue inside kept⟩
  · exact fun same ⟨held, kept⟩ => ⟨one.same same held, two.same same kept⟩

/-- Any number of facts, or one under a condition. -/
theorem Untouched.all {ι : Sort*} {aside : ι → RevealLedger → Prop}
    (each : ∀ i, Untouched deps spec generation (aside i))
    : Untouched deps spec generation fun ledger => ∀ i, aside i ledger := by
  constructor
  · exact fun _ _ _ _ found present held i => (each i).survives found present (held i)
  · exact fun inside held i => (each i).queue inside (held i)
  · exact fun same held i => (each i).same same (held i)

variable {target : ResultAddress} (others : ∀ k < spec.count, spec.resultPda k ≠ target)

include others

theorem untouched_free (apart : Function.Injective deps.freshOffset)
    : Untouched deps spec generation fun ledger =>
        ledger.computations.lookup (deps.freshOffset target) = none := by
  constructor
  · exact survives_free _
  · exact fun inside free => free_queue free (apart.ne (others _ inside).symm)
  · exact fun same free => same.computations ▸ free

theorem untouched_idle : Untouched deps spec generation fun ledger => Idle ledger target :=
  ⟨survives_idle target, fun inside idle => idle.queue_other (others _ inside),
    fun same idle => same.idle idle⟩

theorem untouched_vacant
    : Untouched deps spec generation fun ledger => ledger.results.lookup target = none := by
  constructor
  · exact survives_vacant target
  · exact fun inside vacant => (lookup_queue_other (others _ inside)).trans vacant
  · exact fun same vacant => same.results ▸ vacant

theorem untouched_answers (stamp : Nat) (accounts : List Pubkey)
    : Untouched deps spec generation fun ledger => Answers ledger target stamp accounts :=
  ⟨survives_answers target stamp accounts,
    fun inside answers => answers.queue_other (others _ inside),
    fun same answers => same.answers answers⟩

theorem untouched_carries (stamp : Nat)
    : Untouched deps spec generation fun ledger => ledger.Carries target stamp :=
  ⟨survives_carries target stamp,
    fun inside carries => carries.queue _ _ fun same => absurd same.symm (others _ inside),
    fun same carries => same.carries carries⟩

theorem untouched_ready
    : Untouched deps spec generation fun ledger => resultReady ledger target := by
  constructor
  · exact survives_ready target
  · intro ledger k run inside ready
    rwa [resultReady, lookup_queue_other (others _ inside)]
  · exact fun same ready => same.ready ready

omit others

/-- The account of the final, as the tiers find it and leave it: a queued final answers for
the finalists it was queued over, and nothing is in flight for one that is not queued.
-/
def FinalAside (deps : BracketRevealDeps) (base : BracketState) (ledger : RevealLedger) : Prop :=
  ledger.computations.lookup (deps.freshOffset (.shard finalShardIndex)) = none
  ∧ (base.finalQueued
    → Answers ledger (.shard finalShardIndex) base.generation base.activeFinalists
      ∧ ledger.Carries (.shard finalShardIndex) base.generation)
  ∧ (base.finalQueued = false → Idle ledger (.shard finalShardIndex))

/-- A tier of other accounts leaves the final's alone. -/
theorem untouched_final (apart : Function.Injective deps.freshOffset)
    (others : ∀ k < spec.count, spec.resultPda k ≠ .shard finalShardIndex) (base : BracketState)
    : Untouched deps spec generation (FinalAside deps base) :=
  (untouched_free others apart).and
    ((Untouched.all fun _ => (untouched_answers others _ _).and (untouched_carries others _)).and
      (Untouched.all fun _ => untouched_idle others))

end Untouched

--------------------------------------------------------------------------------
-- The final
--------------------------------------------------------------------------------

section Final

variable {deps : BracketRevealDeps} {ledger : RevealLedger} {bracket : BracketState}

/-- Only results and computations may differ. -/
theorem SameAccounts.reached {after : RevealLedger} (same : SameAccounts ledger after)
    (reached : EndgameReached ledger bracket) : EndgameReached after bracket := by
  have field : after.roundEntries = ledger.roundEntries := by
    rw [RevealLedger.roundEntries, same.entries, same.round, RevealLedger.roundEntries]
  constructor
  · exact same.bracket.trans reached.found
  · rw [same.round]
    exact reached.owned
  · exact reached.unapplied
  · exact reached.collected
  · exact reached.counted
  · rw [field]
    exact reached.drawn
  · rw [same.round]
    exact reached.unrevealed
  · rw [RevealLedger.FullyScored, field, same.entries]
    exact reached.scored

/-- The final is queued over its finalists in ascending order. -/
structure FinalAwaited (bracket : BracketState) (ledger : RevealLedger) : Prop where
  reached : EndgameReached ledger bracket
  many : bracket.shardCount ≠ 1
  queued : bracket.finalQueued
  ascending : bracket.activeFinalists.Pairwise (· < ·)
  answers : Answers ledger (.shard finalShardIndex) bracket.generation bracket.activeFinalists
  carries : ledger.Carries (.shard finalShardIndex) bracket.generation

theorem survives_finalAwaited (bracket : BracketState) : Survives (FinalAwaited bracket) := by
  intro ledger computationOffset computation result found present awaited
  have same : SameAccounts ledger (ledger.deliver computationOffset computation result) :=
    ⟨rfl, rfl, rfl, rfl⟩
  exact
    { reached := same.reached awaited.reached
      many := awaited.many
      queued := awaited.queued
      ascending := awaited.ascending
      answers := survives_answers _ _ _ found present awaited.answers
      carries := survives_carries _ _ found present awaited.carries }

/-- The final is queued over what is recorded so far, unless it was before. -/
theorem FinalAside.queue (aside : FinalAside deps bracket ledger) (allowed : Allowed deps.envs)
    (reached : EndgameReached ledger bracket) (several : 1 < bracket.shardCount)
    (unique : bracket.activeFinalists.Nodup) (tracked : Tracked ledger)
    (unqueued : bracket.finalQueued = false)
    : ∃ after final,
        sendTx deps (.queueShardReveal (deps.freshOffset (.shard finalShardIndex))
          finalShardIndex (sortEntriesByteWise bracket.activeFinalists)) ledger = .ok after
        ∧ Tracked after
        ∧ FinalAwaited final after := by
  let accounts := sortEntriesByteWise bracket.activeFinalists
  let computationOffset := deps.freshOffset (.shard finalShardIndex)
  let queue : RevealInstruction := .queueShardReveal computationOffset finalShardIndex accounts
  obtain ⟨unused, _, quiet⟩ := aside
  obtain ⟨tracking, same, free, idle⟩ := ((survives_sameAccounts ledger).and
    ((survives_free computationOffset).and (survives_idle (.shard finalShardIndex)))).land
      (deps.early ledger) tracked ⟨.refl ledger, unused, quiet unqueued⟩
  have landed := same.reached reached
  have final : FinalRun bracket accounts := landed.sortedRun several unique
  have accepted := landed.queue_final final (allowed queue).1 (allowed queue).2 free
  have frame := afterQueue_frame bracket finalShardIndex accounts
  have finalists := final.activeFinalists_afterQueue reached.counted
  have stamp : (afterQueue bracket finalShardIndex accounts).generation = bracket.generation := by
    rw [frame]
  refine ⟨_, afterQueue bracket finalShardIndex accounts, sendTx_of_step accepted,
    (tracking.queue free (.shard finalShardIndex) bracket.generation _).quiet rfl rfl, ?_⟩
  constructor
  · exact landed.afterQueue final rfl rfl rfl
  · rw [frame]
    exact several.ne'
  · rw [afterQueue, if_pos rfl]
  · rw [finalists]
    exact final.ascending
  · have answers := (idle.awaits accounts).queue computationOffset bracket.generation
    rw [finalists, stamp]
    refine SameResults.answers ?_ answers
    exact ⟨rfl, rfl, rfl⟩
  · rw [stamp]
    exact ⟨_, AList.lookup_insert _, rfl⟩

/-- The final is queued, unless it was before, and waited for. -/
theorem runFinal_succeeds (allowed : Allowed deps.envs) (prompt : Prompt deps)
    (tracked : Tracked ledger) (reached : EndgameReached ledger bracket)
    (several : 1 < bracket.shardCount) (unique : bracket.activeFinalists.Nodup)
    (ordered : bracket.finalQueued → bracket.activeFinalists.Pairwise (· < ·))
    (aside : FinalAside deps bracket ledger)
    : ∃ after final,
        runFinal deps bracket ledger = .ok after
        ∧ Tracked after
        ∧ FinalAwaited final after
        ∧ resultReady after (.shard finalShardIndex) := by
  obtain ⟨queued, final, sent, tracking, awaited⟩ : ∃ queued final,
      sendTxIf deps (!bracket.finalQueued)
          (.queueShardReveal (deps.freshOffset (.shard finalShardIndex)) finalShardIndex
            (sortEntriesByteWise bracket.activeFinalists)) ledger = .ok queued
      ∧ Tracked queued
      ∧ FinalAwaited final queued := by
    cases before : bracket.finalQueued with
    | true =>
        obtain ⟨answers, carries⟩ := aside.2.1 before
        exact ⟨ledger, bracket, rfl, tracked,
          ⟨reached, several.ne', before, ordered before, answers, carries⟩⟩
    | false => exact aside.queue allowed reached several unique tracked before
  obtain ⟨landing, landed⟩ := (survives_finalAwaited final).wait deps
    [.shard finalShardIndex] tracking awaited
  obtain ⟨result, found, _⟩ := landed.carries
  have ready := prompt.ready (List.cons_ne_nil (ResultAddress.shard finalShardIndex) []) tracking
    (by rw [found]; rfl)
  have back : (awaitResults deps [.shard finalShardIndex] queued).1 = 1 :=
    awaitResults_landed fun target listed => List.mem_singleton.mp listed ▸ ready
  have some : (awaitResults deps [.shard finalShardIndex] queued).1 ≠ 0 := by
    rw [back]
    decide
  refine ⟨_, final, bind_eq_ok.mpr ⟨queued, sent, ?_⟩, landing, landed, ready⟩
  exact bind_eq_ok.mpr ⟨(), require_eq_ok.mpr some, rfl⟩

end Final

--------------------------------------------------------------------------------
-- The apply
--------------------------------------------------------------------------------

section Apply

variable {deps : BracketRevealDeps} {ledger : RevealLedger} {bracket : BracketState}

/-- What the endgame starts from: the result of a single shard, or the account of the final. -/
structure EndgameReady (deps : BracketRevealDeps) (bracket : BracketState)
    (ledger : RevealLedger) : Prop where
  tracked : Tracked ledger
  reached : EndgameReached ledger bracket
  filled : 1 ≤ bracket.shardCount
  unique : bracket.activeFinalists.Nodup
  ordered : bracket.finalQueued
    → 1 < bracket.shardCount ∧ bracket.activeFinalists.Pairwise (· < ·)
  aside : FinalAside deps bracket ledger
  single : bracket.shardCount = 1
    → resultReady ledger (.shard 0) ∧ ledger.Carries (.shard 0) bracket.generation

/-- The endgame reveals the round. -/
theorem EndgameReady.runEndgame_succeeds (ready : EndgameReady deps bracket ledger)
    (allowed : Allowed deps.envs) (prompt : Prompt deps)
    : ∃ after, runEndgame deps ledger = .ok after ∧ after.round.scoringRevealed := by
  have reached := ready.reached
  by_cases one : bracket.shardCount = 1
  · obtain ⟨present, carries⟩ := ready.single one
    obtain ⟨_, same, clean, stamped⟩ := ((survives_sameAccounts ledger).and
      ((survives_ready (.shard 0)).and (survives_carries (.shard 0) bracket.generation))).land
        (deps.early ledger) ready.tracked ⟨.refl ledger, present, carries⟩
    obtain ⟨result, found, done, free⟩ := resultReady_iff.mp clean
    obtain ⟨_, again, stamp⟩ := stamped
    cases found.symm.trans again
    have unqueued : bracket.finalQueued = false := by
      cases queued : bracket.finalQueued with
      | true => exact absurd (ready.ordered queued).1 (by rw [one]; decide)
      | false => rfl
    obtain ⟨after, applied, revealed⟩ := (same.reached reached).apply_single
      (allowed (.applyBracketResult 0)).2 one unqueued found done free stamp
    refine ⟨after, bind_eq_ok.mpr ⟨bracket, fetch_eq_ok.mpr reached.found, ?_⟩, revealed⟩
    rw [if_pos (beq_iff_eq.mpr one)]
    exact sendTx_of_step applied
  · have several : 1 < bracket.shardCount := lt_of_le_of_ne ready.filled (Ne.symm one)
    obtain ⟨finished, final, sent, tracked, awaited, present⟩ := runFinal_succeeds allowed prompt
      ready.tracked reached several ready.unique (fun queued => (ready.ordered queued).2)
      ready.aside
    obtain ⟨_, awaited, present⟩ := ((survives_finalAwaited final).and
      (survives_ready (.shard finalShardIndex))).land (deps.early finished) tracked
        ⟨awaited, present⟩
    obtain ⟨result, found, done, clean, stamp, slots⟩ := awaited.answers.holds present
    obtain ⟨after, applied, revealed⟩ := awaited.reached.apply_final
      (allowed (.applyBracketResult finalShardIndex)).2 awaited.many awaited.queued
      awaited.ascending found done clean stamp slots
    refine ⟨after, bind_eq_ok.mpr ⟨bracket, fetch_eq_ok.mpr reached.found, ?_⟩, revealed⟩
    rw [if_neg (mt beq_iff_eq.mp one)]
    exact bind_eq_ok.mpr ⟨finished, sent, sendTx_of_step applied⟩

end Apply

end SecretGarden.AutoCycle
