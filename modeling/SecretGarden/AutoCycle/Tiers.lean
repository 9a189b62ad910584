import SecretGarden.AutoCycle.Waiting
import SecretGarden.Bracket.Driving

/-! One tier of the script, whichever it is.
A tier whose instructions are accepted in its turn ends with every shard collected, when each
result it takes as it finds it answers for its shard, and each account it queues anew awaits
nothing else.
-/

namespace SecretGarden.AutoCycle

open Foundation SecretGarden.Bracket

/-- The accounts differ, results and computations do not. -/
structure SameResults (before after : RevealLedger) : Prop where
  entries : after.entries = before.entries
  results : after.results = before.results
  computations : after.computations = before.computations

theorem SameResults.awaits {before after : RevealLedger} (same : SameResults before after)
    {target : ResultAddress} {accounts : List Pubkey} (awaits : Awaits before target accounts)
    : Awaits after target accounts := by
  rwa [Awaits, same.computations, same.entries]

theorem SameResults.answers {before after : RevealLedger} (same : SameResults before after)
    {target : ResultAddress} {generation : Nat} {accounts : List Pubkey}
    (answers : Answers before target generation accounts)
    : Answers after target generation accounts := by
  refine ⟨?_, same.awaits answers.awaits⟩
  rw [same.results, same.entries]
  exact answers.stamped

theorem SameResults.ready {before after : RevealLedger} (same : SameResults before after)
    {target : ResultAddress} (ready : resultReady before target) : resultReady after target := by
  rwa [resultReady, same.results]

theorem SameResults.carries {before after : RevealLedger} (same : SameResults before after)
    {target : ResultAddress} {generation : Nat} (carries : before.Carries target generation)
    : after.Carries target generation := by
  rwa [RevealLedger.Carries, same.results]

/-- A transaction that is accepted after what landed before it is sent. -/
theorem sendTx_of_step {deps : BracketRevealDeps} {instruction : RevealInstruction}
    {ledger after : RevealLedger}
    (success : revealStep (land (deps.early ledger) ledger)
      ⟨deps.envs instruction, instruction⟩ = .ok after)
    : sendTx deps instruction ledger = .ok after := by
  rw [sendTx, success]

section Tier

variable {deps : BracketRevealDeps} {spec : TierSpec} {generation : Nat}
  {accounts : Nat → List Pubkey} {progress aside : RevealLedger → Prop}
  {start ledger : RevealLedger}

/-- The instructions of the tier are accepted while it progresses. -/
structure TierContract (deps : BracketRevealDeps) (spec : TierSpec) (generation : Nat)
    (accounts : Nat → List Pubkey) (progress : RevealLedger → Prop) : Prop where
  kept : ∀ {before after}, SameAccounts before after → progress before → progress after
  unread : ∀ {before after}, SameAccounts before after
    → spec.collected after = spec.collected before
  apart : Function.Injective fun k => deps.freshOffset (spec.resultPda k)
  queue : ∀ {ledger k}, progress ledger
    → k < spec.count
    → ledger.computations.lookup (deps.freshOffset (spec.resultPda k)) = none
    → revealStep ledger ⟨deps.envs (spec.queue k), spec.queue k⟩
      = .ok (ledger.queue (deps.freshOffset (spec.resultPda k)) (spec.resultPda k) generation
          (contenders ledger.entries (accounts k)))
  read : ∀ {ledger} k, progress ledger → ∃ done, spec.collected ledger k = some done
  collect : ∀ {ledger k}, progress ledger
    → k < spec.count
    → spec.collected ledger k = some false
    → Holds ledger (spec.resultPda k) generation (accounts k)
    → ∃ after,
        revealStep ledger ⟨deps.envs (spec.collect k), spec.collect k⟩ = .ok after
        ∧ progress after
        ∧ SameResults ledger after
        ∧ ∀ j, spec.collected after j = some true
            ↔ spec.collected ledger j = some true ∨ j = k

/-- A fact about other accounts that the tier leaves alone. -/
structure Untouched (deps : BracketRevealDeps) (spec : TierSpec) (generation : Nat)
    (aside : RevealLedger → Prop) : Prop where
  survives : Survives aside
  queue : ∀ {ledger k run}, k < spec.count
    → aside ledger
    → aside (ledger.queue (deps.freshOffset (spec.resultPda k)) (spec.resultPda k) generation run)
  same : ∀ {before after}, SameResults before after → aside before → aside after

/-- What the result of shard `k` is good for: it answers while the shard is uncollected, and
keeps the stamp if it had it.
-/
structure Taken (spec : TierSpec) (generation : Nat) (accounts : Nat → List Pubkey)
    (start : RevealLedger) (k : Nat) (ledger : RevealLedger) : Prop where
  answers : spec.collected start k = some false
    → Answers ledger (spec.resultPda k) generation (accounts k)
  carries : start.Carries (spec.resultPda k) generation
    → ledger.Carries (spec.resultPda k) generation

theorem survives_taken (k : Nat) : Survives (Taken spec generation accounts start k) :=
  fun _ _ _ _ found present taken =>
    ⟨fun uncollected => survives_answers _ _ _ found present (taken.answers uncollected),
      fun carried => survives_carries _ _ found present (taken.carries carried)⟩

--------------------------------------------------------------------------------
-- Queueing
--------------------------------------------------------------------------------

/-- While the `remaining` shards are still to be queued. -/
structure Queueing (deps : BracketRevealDeps) (spec : TierSpec) (generation : Nat)
    (accounts : Nat → List Pubkey) (aside : RevealLedger → Prop) (start : RevealLedger)
    (needQueue remaining : List Nat) (ledger : RevealLedger) : Prop where
  tracked : Tracked ledger
  same : SameAccounts start ledger
  aside : aside ledger
  unique : remaining.Nodup
  listed : ∀ k ∈ remaining, k ∈ needQueue ∧ k < spec.count
  free : ∀ k ∈ remaining,
    ledger.computations.lookup (deps.freshOffset (spec.resultPda k)) = none
  awaits : ∀ k ∈ remaining, Awaits ledger (spec.resultPda k) (accounts k)
  taken : ∀ k < spec.count, k ∉ remaining → Taken spec generation accounts start k ledger
  present : ∀ k < spec.count, k ∉ remaining
    → (ledger.results.lookup (spec.resultPda k)).isSome
  ready : ∀ k < spec.count, k ∉ needQueue → resultReady ledger (spec.resultPda k)

variable {needQueue remaining : List Nat}

/-- Deliveries do not disturb the queueing. -/
theorem survives_queueing (untouched : Untouched deps spec generation aside)
    : Survives (Queueing deps spec generation accounts aside start needQueue remaining) := by
  intro ledger computationOffset computation result found present queueing
  refine
    { tracked := queueing.tracked.deliver found present
      same := survives_sameAccounts start found present queueing.same
      aside := untouched.survives found present queueing.aside
      unique := queueing.unique
      listed := queueing.listed
      free := fun k member => survives_free _ found present (queueing.free k member)
      awaits := fun k member => survives_awaits _ _ found present (queueing.awaits k member)
      taken := fun k inside queued =>
        survives_taken k found present (queueing.taken k inside queued)
      present := fun k inside queued => ?_
      ready := fun k inside skipped =>
        survives_ready _ found present (queueing.ready k inside skipped) }
  rw [RevealLedger.deliver, Store.lookup_insert_apply]
  split
  · rfl
  · exact queueing.present k inside queued

/-- Queueing the next shard. -/
theorem Queueing.queue {k : Nat} {rest : List Nat}
    (contract : TierContract deps spec generation accounts progress)
    (untouched : Untouched deps spec generation aside)
    (queueing : Queueing deps spec generation accounts aside start needQueue (k :: rest) ledger)
    : Queueing deps spec generation accounts aside start needQueue rest
        (ledger.queue (deps.freshOffset (spec.resultPda k)) (spec.resultPda k) generation
          (contenders ledger.entries (accounts k))) := by
  obtain ⟨fresh, unique⟩ := List.nodup_cons.mp queueing.unique
  obtain ⟨needed, inside⟩ := queueing.listed k List.mem_cons_self
  have targets : ∀ {j}, j ≠ k → spec.resultPda k ≠ spec.resultPda j := fun apart same =>
    apart (contract.apart (congrArg deps.freshOffset same)).symm
  have others : ∀ {j}, j ∈ rest → j ≠ k := by
    rintro j member rfl
    exact fresh member
  have earlier : ∀ {j}, j ≠ k → j ∉ rest → j ∉ k :: rest := fun apart absent member =>
    (List.mem_cons.mp member).elim apart absent
  refine
    { tracked := queueing.tracked.queue (queueing.free k List.mem_cons_self) _ _ _
      same := queueing.same.trans ⟨rfl, rfl, rfl, rfl⟩
      aside := untouched.queue inside queueing.aside
      unique := unique
      listed := fun j member => queueing.listed j (List.mem_cons_of_mem _ member)
      free := fun j member => free_queue (queueing.free j (List.mem_cons_of_mem _ member))
        fun same => others member (contract.apart same)
      awaits := fun j member => (queueing.awaits j (List.mem_cons_of_mem _ member)).queue_other
        (targets (others member))
      taken := fun j bounded queued => ?_
      present := fun j bounded queued => ?_
      ready := fun j bounded skipped => ?_ }
  · by_cases here : j = k
    · subst here
      have answers := (queueing.awaits j List.mem_cons_self).queue
        (deps.freshOffset (spec.resultPda j)) generation
      exact ⟨fun _ => answers, fun _ => ⟨_, AList.lookup_insert _, rfl⟩⟩
    · have taken := queueing.taken j bounded (earlier here queued)
      exact ⟨fun uncollected => (taken.answers uncollected).queue_other (targets here),
        fun carried => (taken.carries carried).queue _ _ fun same => absurd same.symm
          (targets here)⟩
  · by_cases here : j = k
    · subst here
      rw [RevealLedger.queue, AList.lookup_insert]
      rfl
    · rw [lookup_queue_other (targets here)]
      exact queueing.present j bounded (earlier here queued)
  · have here : j ≠ k := by
      rintro rfl
      exact skipped needed
    rw [resultReady, lookup_queue_other (targets here)]
    exact queueing.ready j bounded skipped

/-- All remaining shards are queued in turn. -/
theorem Queueing.run (contract : TierContract deps spec generation accounts progress)
    (untouched : Untouched deps spec generation aside) (progressing : progress start)
    (queueing : Queueing deps spec generation accounts aside start needQueue needQueue ledger)
    : ∃ after,
        needQueue.foldlM (fun before k => sendTx deps (spec.queue k) before) ledger = .ok after
        ∧ Queueing deps spec generation accounts aside start needQueue [] after := by
  refine foldlM_succeeds (fun k rest before
    (queueing : Queueing deps spec generation accounts aside start needQueue (k :: rest) before)
    => ?_) queueing
  obtain ⟨tracked, landed⟩ := (survives_queueing untouched).land (deps.early before)
    queueing.tracked queueing
  have accepted := contract.queue (contract.kept landed.same progressing)
    (landed.listed k List.mem_cons_self).2 (landed.free k List.mem_cons_self)
  exact ⟨_, sendTx_of_step accepted, landed.queue contract untouched⟩

--------------------------------------------------------------------------------
-- Collecting
--------------------------------------------------------------------------------

/-- While the `remaining` shards are still to be looked at. -/
structure Collecting (spec : TierSpec) (generation : Nat) (accounts : Nat → List Pubkey)
    (progress aside : RevealLedger → Prop) (start : RevealLedger) (remaining : List Nat)
    (ledger : RevealLedger) : Prop where
  tracked : Tracked ledger
  progressing : progress ledger
  aside : aside ledger
  listed : ∀ k ∈ remaining, k < spec.count
  taken : ∀ k < spec.count, Taken spec generation accounts start k ledger
  ready : ∀ k < spec.count, resultReady ledger (spec.resultPda k)
  kept : ∀ k, spec.collected start k = some true → spec.collected ledger k = some true
  done : ∀ k < spec.count, k ∉ remaining → spec.collected ledger k = some true

/-- Deliveries do not disturb the collecting. -/
theorem survives_collecting (contract : TierContract deps spec generation accounts progress)
    (untouched : Untouched deps spec generation aside)
    : Survives (Collecting spec generation accounts progress aside start remaining) := by
  intro ledger computationOffset computation result found present collecting
  have same : SameAccounts ledger (ledger.deliver computationOffset computation result) :=
    ⟨rfl, rfl, rfl, rfl⟩
  have unread := contract.unread same
  refine
    { tracked := collecting.tracked.deliver found present
      progressing := contract.kept same collecting.progressing
      aside := untouched.survives found present collecting.aside
      listed := collecting.listed
      taken := fun k inside => survives_taken k found present (collecting.taken k inside)
      ready := fun k inside =>
        survives_ready _ found present (collecting.ready k inside)
      kept := ?_
      done := ?_ }
  · rw [unread]
    exact collecting.kept
  · rw [unread]
    exact collecting.done

/-- The next shard is collected unless it was before. -/
theorem Collecting.collect {k : Nat} {rest : List Nat}
    (contract : TierContract deps spec generation accounts progress)
    (untouched : Untouched deps spec generation aside) (progressing : progress start)
    (collecting
      : Collecting spec generation accounts progress aside start (k :: rest) ledger)
    : ∃ after,
        collectShard deps spec ledger k = .ok after
        ∧ Collecting spec generation accounts progress aside start rest after := by
  have inside := collecting.listed k List.mem_cons_self
  have later : ∀ j ∈ rest, j < spec.count :=
    fun j member => collecting.listed j (List.mem_cons_of_mem _ member)
  obtain ⟨mark, read⟩ := contract.read k collecting.progressing
  cases mark with
  | true =>
      refine ⟨ledger, bind_eq_ok.mpr ⟨true, fetch_eq_ok.mpr read, rfl⟩,
        { collecting with listed := later, done := fun j bounded absent => ?_ }⟩
      by_cases here : j = k
      · exact here ▸ read
      · exact collecting.done j bounded fun member =>
          (List.mem_cons.mp member).elim here absent
  | false =>
      have uncollected : spec.collected start k = some false := by
        obtain ⟨before, first⟩ := contract.read k progressing
        cases before with
        | false => exact first
        | true => cases read.symm.trans (collecting.kept k first)
      obtain ⟨tracked, landed⟩ := (survives_collecting contract untouched).land
        (deps.early ledger) collecting.tracked collecting
      have same : SameAccounts ledger (land (deps.early ledger) ledger) :=
        ((survives_sameAccounts ledger).land (deps.early ledger) collecting.tracked
          (.refl ledger)).2
      have holds := ((landed.taken k inside).answers uncollected).holds (landed.ready k inside)
      obtain ⟨after, accepted, progressed, results, marks⟩ := contract.collect
        landed.progressing inside (by rw [contract.unread same]; exact read) holds
      refine ⟨after, bind_eq_ok.mpr ⟨false, fetch_eq_ok.mpr read, sendTx_of_step accepted⟩,
        { tracked := tracked.quiet results.results results.computations
          progressing := progressed
          aside := untouched.same results landed.aside
          listed := later
          taken := fun j bounded =>
            ⟨fun before => results.answers ((landed.taken j bounded).answers before),
              fun carried => results.carries ((landed.taken j bounded).carries carried)⟩
          ready := fun j bounded => results.ready (landed.ready j bounded)
          kept := fun j marked => (marks j).mpr (.inl (landed.kept j marked))
          done := fun j bounded absent => (marks j).mpr ?_ }⟩
      by_cases here : j = k
      · exact .inr here
      · exact .inl (landed.done j bounded fun member =>
          (List.mem_cons.mp member).elim here absent)

/-- Every shard is collected in its turn. -/
theorem Collecting.run (contract : TierContract deps spec generation accounts progress)
    (untouched : Untouched deps spec generation aside) (progressing : progress start)
    (collecting : Collecting spec generation accounts progress aside start
      (List.range spec.count) ledger)
    : ∃ after,
        (List.range spec.count).foldlM (collectShard deps spec) ledger = .ok after
        ∧ Collecting spec generation accounts progress aside start [] after :=
  foldlM_succeeds
    (fun _ _ _ collecting => collecting.collect contract untouched progressing) collecting

--------------------------------------------------------------------------------
-- The whole tier
--------------------------------------------------------------------------------

/-- What a tier starts from: the results it takes answer for their shards, and what it queues
anew is awaited by nothing else.
-/
structure TierReady (deps : BracketRevealDeps) (spec : TierSpec) (generation : Nat)
    (accounts : Nat → List Pubkey) (forceRequeue : Bool) (ledger : RevealLedger) : Prop where
  free : ∀ k < spec.count,
    ledger.computations.lookup (deps.freshOffset (spec.resultPda k)) = none
  taken : forceRequeue = false → ∀ k < spec.count, spec.collected ledger k = some false
    → Answers ledger (spec.resultPda k) generation (accounts k)
  requeued : forceRequeue → ∀ k < spec.count, Awaits ledger (spec.resultPda k) (accounts k)

/-- From there to the queueing: what is still missing after the first wait has no account yet,
or is queued anew whatever it holds.
-/
theorem TierReady.queueing {forceRequeue : Bool}
    (ready : TierReady deps spec generation accounts forceRequeue start)
    (untouched : Untouched deps spec generation aside) (prompt : Prompt deps)
    (tracked : Tracked start) (held : aside start) {inFlight : List Nat}
    (waits : ∀ k < spec.count, forceRequeue = false
      → resultReady start (spec.resultPda k) = false
      → (start.results.lookup (spec.resultPda k)).isSome
      → k ∈ inFlight)
    {settled : RevealLedger}
    (waited : (awaitResults deps (inFlight.map spec.resultPda) start).2 = settled)
    (missing : ∀ k, k ∈ needQueue
      ↔ k < spec.count ∧ (forceRequeue || !resultReady settled (spec.resultPda k)))
    (unique : needQueue.Nodup)
    : Queueing deps spec generation accounts aside start needQueue needQueue settled := by
  let kept (ledger : RevealLedger) : Prop :=
    (SameAccounts start ledger ∧ aside ledger)
    ∧ (∀ k < spec.count,
        ledger.computations.lookup (deps.freshOffset (spec.resultPda k)) = none
        ∧ (forceRequeue = false → Taken spec generation accounts start k ledger)
        ∧ (forceRequeue → Awaits ledger (spec.resultPda k) (accounts k)))
  have survives : Survives kept := by
    rintro ledger computationOffset computation result found present ⟨⟨same, apart⟩, shards⟩
    refine ⟨⟨survives_sameAccounts start found present same,
      untouched.survives found present apart⟩, fun k inside => ?_⟩
    obtain ⟨free, taken, awaits⟩ := shards k inside
    exact ⟨survives_free _ found present free,
      fun trusted => survives_taken k found present (taken trusted),
      fun forced => survives_awaits _ _ found present (awaits forced)⟩
  have initially : kept start := ⟨⟨.refl start, held⟩, fun k inside =>
    ⟨ready.free k inside, fun trusted => ⟨ready.taken trusted k inside, id⟩,
      fun forced => ready.requeued forced k inside⟩⟩
  obtain ⟨tracking, ⟨same, apart⟩, shards⟩ :=
    survives.wait deps (inFlight.map spec.resultPda) tracked initially
  rw [waited] at tracking same apart shards
  have skipped : ∀ k < spec.count, k ∉ needQueue
      → forceRequeue = false ∧ resultReady settled (spec.resultPda k) := by
    intro k inside absent
    have neither := mt (fun missed => (missing k).mpr ⟨inside, missed⟩) absent
    simpa using neither
  refine
    { tracked := tracking
      same := same
      aside := apart
      unique := unique
      listed := fun k listed => ⟨listed, ((missing k).mp listed).1⟩
      free := fun k listed => (shards k ((missing k).mp listed).1).1
      awaits := fun k listed => ?_
      taken := fun k inside absent =>
        (shards k inside).2.1 (skipped k inside absent).1
      present := fun k inside absent => ?_
      ready := fun k inside absent => (skipped k inside absent).2 }
  · obtain ⟨inside, missed⟩ := (missing k).mp listed
    cases forced : forceRequeue with
    | true => exact (shards k inside).2.2 forced
    | false =>
        -- an account that exists would have been waited for, and would be ready
        have vacant : settled.results.lookup (spec.resultPda k) = none := by
          by_contra created
          have present := Option.ne_none_iff_isSome.mp created
          have unready : resultReady settled (spec.resultPda k) = false := by
            simpa [forced] using missed
          by_cases empty : inFlight = []
          · have same : start = settled := by
              rw [empty] at waited
              exact waited
            subst same
            have listed := waits k inside forced unready present
            rw [empty] at listed
            cases listed
          · have waitedFor : inFlight.map spec.resultPda ≠ [] := by simpa using empty
            have late := prompt.ready waitedFor tracked (waited ▸ present)
            rw [waited, unready] at late
            cases late
        intro computationOffset computation found aimed
        obtain ⟨result, present⟩ := tracking.aimed found
        rw [aimed, vacant] at present
        cases present
  · obtain ⟨result, found, _⟩ := resultReady_iff.mp (skipped k inside absent).2
    rw [found]
    rfl

/-- Everything queued has landed after the second wait, and the collecting can begin. -/
theorem Queueing.collecting {queued revealed : RevealLedger}
    (contract : TierContract deps spec generation accounts progress)
    (untouched : Untouched deps spec generation aside) (prompt : Prompt deps)
    (progressing : progress start)
    (queueing : Queueing deps spec generation accounts aside start needQueue [] queued)
    (waited : (awaitResults deps (needQueue.map spec.resultPda) queued).2 = revealed)
    : Collecting spec generation accounts progress aside start (List.range spec.count)
        revealed := by
  obtain ⟨tracked, settled⟩ := (survives_queueing untouched).wait deps
    (needQueue.map spec.resultPda) queueing.tracked queueing
  rw [waited] at tracked settled
  refine
    { tracked := tracked
      progressing := contract.kept settled.same progressing
      aside := settled.aside
      listed := fun k listed => List.mem_range.mp listed
      taken := fun k inside => settled.taken k inside List.not_mem_nil
      ready := fun k inside => ?_
      kept := fun k marked => by rwa [contract.unread settled.same]
      done := fun k inside absent => absurd (List.mem_range.mpr inside) absent }
  by_cases empty : needQueue = []
  · exact settled.ready k inside (by simp [empty])
  · rw [← waited]
    refine prompt.ready (by simpa using empty) queueing.tracked ?_
    rw [waited]
    exact settled.present k inside List.not_mem_nil

/-- A tier that is ready ends with every shard collected and revealed. -/
theorem runTier_succeeds {forceRequeue : Bool}
    (contract : TierContract deps spec generation accounts progress)
    (untouched : Untouched deps spec generation aside) (prompt : Prompt deps)
    (ready : TierReady deps spec generation accounts forceRequeue start)
    (tracked : Tracked start) (progressing : progress start) (held : aside start)
    : ∃ after,
        runTier deps spec forceRequeue start = .ok after
        ∧ Collecting spec generation accounts progress aside start [] after := by
  let missing (ledger : RevealLedger) : List Nat := (List.range spec.count).filter fun k =>
    forceRequeue || !resultReady ledger (spec.resultPda k)
  let inFlight := (missing start).filter fun k =>
    !forceRequeue && (start.results.lookup (spec.resultPda k)).isSome
  let settled := (awaitResults deps (inFlight.map spec.resultPda) start).2
  let needQueue := missing settled
  have queueing : Queueing deps spec generation accounts aside start needQueue needQueue
      settled := by
    refine ready.queueing untouched prompt tracked held (fun k inside trusted unready present =>
      ?_) rfl (fun k => ?_) (List.nodup_range.filter _)
    · simp [inFlight, missing, inside, trusted, unready, present]
    · simp [needQueue, missing]
  obtain ⟨queued, sent, finished⟩ := queueing.run contract untouched progressing
  have collecting := finished.collecting contract untouched prompt progressing rfl
  have landed : (awaitResults deps (needQueue.map spec.resultPda) queued).1
      = needQueue.length := by
    rw [awaitResults_landed, List.length_map]
    intro target listed
    obtain ⟨k, member, rfl⟩ := List.mem_map.mp listed
    exact collecting.ready k (by simpa [needQueue, missing] using (List.mem_filter.mp member).1)
  obtain ⟨after, collected, done⟩ := collecting.run contract untouched progressing
  refine ⟨after, ?_, done⟩
  rw [runTier]
  refine bind_eq_ok.mpr ⟨queued, sent, ?_⟩
  exact bind_eq_ok.mpr ⟨(), require_eq_ok.mpr landed.ge, collected⟩

end Tier

end SecretGarden.AutoCycle
