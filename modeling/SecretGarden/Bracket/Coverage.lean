import SecretGarden.Bracket.Freshness
import SecretGarden.Bracket.Placement
import SecretGarden.Bracket.WellFormed

/-! Which entries the accepted runs of a partition hold.
No account lists a round's entries. A declared partition bounds every run accepted for a
shard, and once one run was collected for each shard the declared sizes leave no entry out.
-/

namespace SecretGarden.Bracket

open Foundation

/-- The addresses of the round's entries. -/
def RevealLedger.roundEntries (ledger : RevealLedger) : List Pubkey :=
  ledger.entries.keysWhere fun entry => entry.round = ledger.round.key

/-- The partition account exists. -/
def RevealLedger.Holds (ledger : RevealLedger) : Partition → Prop
  | .bracket => ledger.bracket.isSome
  | .tier1 => ledger.tier1.isSome

/-- The layout that the pin of a partition declared; a promotion declares none. -/
def declaredLayout (state : JournaledReveal) : Partition → Option (Layout Pubkey)
  | .bracket =>
      if state.journal.sliced.isSome then none
      else state.system.bracket.map fun bracket =>
        layoutOf bracket.shardSizes bracket.shardBounds bracket.shardCount
  | .tier1 =>
      state.system.tier1.map fun tier1 =>
        layoutOf tier1.shardSizes tier1.shardBounds tier1.shardCount

/-- All runs accepted so far, at queue or at collect. -/
def Journal.runs (journal : Journal) : List RunRecord := journal.queued ++ journal.collected

section Layout

variable {capacity : Nat} {shardSizes : Vector Nat capacity}
  {shardBounds : Vector Pubkey capacity} {shardCount participantCount : Nat}

/-- A declared shard holds between one and thirteen entries. -/
theorem LayoutChecked.size_bounds
    (layout : LayoutChecked shardSizes shardBounds shardCount participantCount)
    {index size : Nat} (inside : index < shardCount)
    (declared : shardSizes[index]? = some size)
    : minShardSize ≤ size ∧ size ≤ maxShardSize := by
  apply layout.sizes size
  apply List.mem_of_getElem? (i := index)
  rw [List.getElem?_take_of_lt inside, Vector.getElem?_toList, declared]

/-- A placed run of the declared size is admitted by the layout. -/
theorem LayoutChecked.admits
    (layout : LayoutChecked shardSizes shardBounds shardCount participantCount)
    {index : Nat} {prev : Pubkey} {accounts : List Pubkey} (inside : index < shardCount)
    (size : shardSizes[index]? = some accounts.length)
    (placed : Placed (shardPlace shardBounds shardCount index) 0 prev accounts)
    : (layoutOf shardSizes shardBounds shardCount).Admits index accounts := by
  have filled : accounts ≠ [] := by
    have bounds := (layout.size_bounds inside size).1
    rintro rfl
    exact absurd bounds (by decide)
  exact (placed_iff_admits inside size filled).mp placed

/-- As many intervals are declared as shards. -/
theorem LayoutChecked.length_bounds
    (layout : LayoutChecked shardSizes shardBounds shardCount participantCount)
    : (layoutOf shardSizes shardBounds shardCount).bounds.length = shardCount := by
  have := layout.bounded
  simp only [layoutOf, List.length_take, Vector.length_toList]
  omega

end Layout

/-- The accounts of a read run are entries of the round. -/
theorem RunRead.mem_roundEntries {ledger : RevealLedger} {capacity : Nat} {scoredOnly : Bool}
    {place : (i : Nat) → (prev key : Pubkey) → Outcome Unit}
    {i : Nat} {prev : Pubkey} {accounts : List Pubkey} {run : List Contender}
    (read : RunRead ledger.entries ledger.round.key capacity scoredOnly place i prev accounts
      run)
    {key : Pubkey} (member : key ∈ accounts)
    : key ∈ ledger.roundEntries := by
  rw [← read.keys] at member
  obtain ⟨contender, listed, rfl⟩ := List.mem_map.mp member
  obtain ⟨found, own⟩ := read.entered contender listed
  exact Store.mem_keysWhere.mpr ⟨contender.2, found, by simpa using own⟩

/-- A run acceptable for one interval of a layout over the round's entries. -/
structure EntriesAdmitted (ledger : RevealLedger) (layout : Layout Pubkey) (index : Nat)
    (accounts : List Pubkey) : Prop where
  admitted : layout.Admits index accounts
  entered : ∀ key ∈ accounts, key ∈ ledger.roundEntries

/-- Partitions are numbered apart, and every run accepted under the one in force is
admitted by its declared layout.
-/
structure RunsAdmitted (state : JournaledReveal) : Prop where
  bounded : ∀ record ∈ state.journal.runs, record.pin ≤ state.journal.pins
  pinned : ∀ partition, state.journal.pinOf partition ≤ state.journal.pins
  apart : state.journal.pinOf .bracket = state.journal.pinOf .tier1 → state.journal.pins = 0
  started : ∀ partition, state.system.Holds partition → 1 ≤ state.journal.pins
  admitted : ∀ {partition layout}, declaredLayout state partition = some layout
    → ∀ record ∈ state.journal.runs, record.pin = state.journal.pinOf partition
      → ∀ index < layout.bounds.length, record.target = .shard index
        → EntriesAdmitted state.system layout index record.accounts

theorem RevealLedger.Unstarted.runsAdmitted {ledger : RevealLedger}
    (unstarted : ledger.Unstarted) : RunsAdmitted ledger.journaled := by
  constructor
  all_goals simp [RevealLedger.journaled, Journal.blank, Journal.runs]
  rintro (_ | _) held
  · simp [RevealLedger.Holds, unstarted.bracket] at held
  · simp [RevealLedger.Holds, unstarted.tier1] at held

variable {state : JournaledReveal} {after : RevealLedger} {journal : Journal}

/-- Different partitions in force have different numbers. -/
theorem RunsAdmitted.pinOf_inj (known : RunsAdmitted state) {first second : Partition}
    (held : state.system.Holds first)
    (same : state.journal.pinOf first = state.journal.pinOf second)
    : first = second := by
  have started := known.started first held
  cases first <;> cases second
  · rfl
  · have := known.apart same
    omega
  · have := known.apart same.symm
    omega
  · rfl

/-- What the admitted runs depend on besides the journal. -/
structure PartitionsKept (ledger after : RevealLedger) : Prop where
  entries : after.roundEntries = ledger.roundEntries
  holds : ∀ {partition}, after.Holds partition → ledger.Holds partition

/-- Rewriting the bracket creates no partition account. -/
theorem PartitionsKept.of_bracket {ledger : RevealLedger} {bracket : BracketState}
    (entries : after.roundEntries = ledger.roundEntries) (found : ledger.bracket = some bracket)
    (tier1 : after.tier1 = ledger.tier1) : PartitionsKept ledger after := by
  refine ⟨entries, ?_⟩
  rintro (_ | _) held
  · simp [RevealLedger.Holds, found]
  · exact (congrArg Option.isSome tier1).symm.trans held

/-- The first tier's account and the bracket's are under different partitions. -/
theorem RunsAdmitted.pins_apart (known : RunsAdmitted state) {tier1 : Tier1State}
    (found : state.system.tier1 = some tier1)
    : state.journal.pinOf .tier1 ≠ state.journal.pinOf .bracket := by
  intro same
  cases known.pinOf_inj (by simp [RevealLedger.Holds, found]) same

/-- Where no partition is pinned, each accepted run is an earlier one or admitted itself. -/
theorem RunsAdmitted.extend (known : RunsAdmitted state)
    (kept : PartitionsKept state.system after)
    (pins : journal.pins = state.journal.pins)
    (pinOf : journal.pinOf = state.journal.pinOf)
    (declared : ∀ {partition layout},
      declaredLayout ⟨after, journal⟩ partition = some layout
      → declaredLayout state partition = some layout)
    (runs : ∀ record ∈ journal.runs,
      record ∈ state.journal.runs
      ∨ record.pin ≤ state.journal.pins
        ∧ ∀ {partition layout}, declaredLayout state partition = some layout
          → record.pin = state.journal.pinOf partition
          → ∀ index < layout.bounds.length, record.target = .shard index
            → EntriesAdmitted state.system layout index record.accounts)
    : RunsAdmitted ⟨after, journal⟩ := by
  constructor
  · intro record listed
    rw [pins]
    rcases runs record listed with earlier | ⟨bounded, _⟩
    · exact known.bounded record earlier
    · exact bounded
  · rw [pinOf, pins]
    exact known.pinned
  · rw [pinOf, pins]
    exact known.apart
  · rw [pins]
    exact fun partition held => known.started partition (kept.holds held)
  · intro partition layout named record listed pin index inside target
    rw [pinOf] at pin
    have acceptable : EntriesAdmitted state.system layout index record.accounts := by
      rcases runs record listed with earlier | ⟨_, admits⟩
      · exact known.admitted (declared named) record earlier pin index inside target
      · exact admits (declared named) pin index inside target
    exact ⟨acceptable.admitted, by rw [kept.entries]; exact acceptable.entered⟩

/-- Accepting no run and pinning nothing keeps the invariant. -/
theorem RunsAdmitted.quiet (known : RunsAdmitted state)
    (kept : PartitionsKept state.system after)
    (runs : journal.runs = state.journal.runs)
    (pins : journal.pins = state.journal.pins)
    (pinOf : journal.pinOf = state.journal.pinOf)
    (declared : ∀ {partition layout},
      declaredLayout ⟨after, journal⟩ partition = some layout
      → declaredLayout state partition = some layout)
    : RunsAdmitted ⟨after, journal⟩ :=
  known.extend kept pins pinOf declared fun _ listed => .inl (runs ▸ listed)

/-- A new partition starts without runs, since its number is new. -/
theorem RunsAdmitted.pin (known : RunsAdmitted state) (pinned : Partition)
    (entries : after.roundEntries = state.system.roundEntries)
    (runs : journal.runs = state.journal.runs)
    (pins : journal.pins = state.journal.pins + 1)
    (pinOf : journal.pinOf
      = Function.update state.journal.pinOf pinned (state.journal.pins + 1))
    (declared : ∀ {partition layout}, partition ≠ pinned
      → declaredLayout ⟨after, journal⟩ partition = some layout
      → declaredLayout state partition = some layout)
    : RunsAdmitted ⟨after, journal⟩ := by
  constructor
  · intro record listed
    rw [runs] at listed
    rw [pins]
    exact (known.bounded record listed).trans (Nat.le_succ _)
  · intro partition
    have := known.pinned partition
    simp only [pinOf, pins, Function.update_apply]
    split <;> omega
  · have bracket := known.pinned .bracket
    have tier1 := known.pinned .tier1
    simp only [pinOf, pins]
    cases pinned <;> simp <;> omega
  · rw [pins]
    exact fun _ _ => Nat.le_add_left 1 _
  · intro partition layout named record listed pin index inside target
    rw [runs] at listed
    by_cases here : partition = pinned
    · have := known.bounded record listed
      rw [pinOf, here, Function.update_self] at pin
      omega
    · rw [pinOf, Function.update_of_ne here] at pin
      obtain ⟨admitted, entered⟩ :=
        known.admitted (declared here named) record listed pin index inside target
      exact ⟨admitted, by rwa [entries]⟩

/-- Accepting an admitted run keeps the invariant. -/
theorem RunsAdmitted.record (known : RunsAdmitted state) (under : Partition)
    {target : ResultAddress} {accounts : List Pubkey}
    (held : state.system.Holds under)
    (kept : PartitionsKept state.system after)
    (runs : ∀ record, record ∈ journal.runs
      → record = ⟨state.journal.pinOf under, target, accounts⟩ ∨ record ∈ state.journal.runs)
    (pins : journal.pins = state.journal.pins)
    (pinOf : journal.pinOf = state.journal.pinOf)
    (declared : ∀ partition,
      declaredLayout ⟨after, journal⟩ partition = declaredLayout state partition)
    (admits : ∀ {layout}, declaredLayout state under = some layout
      → ∀ index < layout.bounds.length, target = .shard index
        → EntriesAdmitted state.system layout index accounts)
    : RunsAdmitted ⟨after, journal⟩ := by
  refine known.extend kept pins pinOf (fun named => (declared _).symm.trans named) ?_
  intro record listed
  rcases runs record listed with rfl | earlier
  · refine .inr ⟨known.pinned under, fun named pin => ?_⟩
    cases known.pinOf_inj held pin
    exact admits named
  · exact .inl earlier

/-- Framed instructions keep the round's entries. -/
theorem Framed.roundEntries {ledger : RevealLedger} {instruction : RevealInstruction}
    (framed : Framed instruction ledger after)
    : after.roundEntries = ledger.roundEntries := by
  rw [RevealLedger.roundEntries, framed.entries, framed.key, RevealLedger.roundEntries]

/-- A queued record joins the accepted runs. -/
theorem mem_runs_queue {partition : Partition} {computationOffset : Nat}
    {target : ResultAddress} {accounts : List Pubkey} {record : RunRecord}
    : record ∈ (journal.queue partition computationOffset target accounts).runs
      ↔ record = ⟨journal.pinOf partition, target, accounts⟩ ∨ record ∈ journal.runs := by
  simp [Journal.runs, Journal.queue]

/-- A collected record joins the accepted runs. -/
theorem mem_runs_collect {partition : Partition} {target : ResultAddress}
    {accounts : List Pubkey} {record : RunRecord}
    : record ∈ (journal.collect partition target accounts).runs
      ↔ record = ⟨journal.pinOf partition, target, accounts⟩ ∨ record ∈ journal.runs := by
  simp only [Journal.runs, Journal.collect, List.mem_append, List.mem_cons]
  tauto

/-- Delivering a computation accepts no run. -/
theorem runs_deliver (journal : Journal) (computationOffset : Nat)
    : (journal.deliver computationOffset).runs = journal.runs := by
  rw [Journal.deliver_frame]
  rfl

/-- Rewriting finalists keeps the declared layout. -/
theorem declaredLayout_refilled {bracket recorded : BracketState}
    (found : state.system.bracket = some bracket) (refilled : Refilled bracket recorded)
    (stored : after.bracket = some recorded)
    (tier1 : after.tier1 = state.system.tier1)
    (sliced : journal.sliced = state.journal.sliced) (partition : Partition)
    : declaredLayout ⟨after, journal⟩ partition = declaredLayout state partition := by
  cases partition with
  | bracket =>
      simp [declaredLayout, found, stored, sliced, refilled.count, refilled.sizes,
        refilled.bounds]
  | tier1 => simp [declaredLayout, tier1]

/-- A bracket that declares a layout was pinned with it. -/
theorem WellFormed.declares_bracket (formed : WellFormed state) {bracket : BracketState}
    {layout : Layout Pubkey} (found : state.system.bracket = some bracket)
    (named : declaredLayout state .bracket = some layout)
    : layout = layoutOf bracket.shardSizes bracket.shardBounds bracket.shardCount
      ∧ LayoutChecked bracket.shardSizes bracket.shardBounds bracket.shardCount
          state.system.round.participantCount := by
  simp only [declaredLayout, found] at named
  split at named
  · cases named
  · next unsliced =>
      cases named
      exact ⟨rfl, formed.declared found (by simpa using unsliced)⟩

/-- A tier-1 account always declares its layout. -/
theorem WellFormed.declares_tier1 (formed : WellFormed state) {tier1 : Tier1State}
    {layout : Layout Pubkey} (found : state.system.tier1 = some tier1)
    (named : declaredLayout state .tier1 = some layout)
    : layout = layoutOf tier1.shardSizes tier1.shardBounds tier1.shardCount
      ∧ LayoutChecked tier1.shardSizes tier1.shardBounds tier1.shardCount
          state.system.round.participantCount := by
  simp only [declaredLayout, found] at named
  cases named
  exact ⟨rfl, (formed.tier1 found).2.1⟩

/-- Every accepted instruction keeps the runs admitted, by cases on the instruction. -/
theorem RunsAdmitted.step (known : RunsAdmitted state) (formed : WellFormed state)
    {submission : Submission}
    (success : revealStep state.system submission = .ok after)
    : RunsAdmitted ⟨after, note state.system submission state.journal⟩ := by
  have entries := (revealStep_framed success).roundEntries
  obtain ⟨env, instruction⟩ := submission
  cases instruction with
  | initBracket shardSizes shardBounds shardCount =>
      obtain ⟨_, _, rfl⟩ := initBracket_eq_ok.mp success
      refine known.pin .bracket entries rfl rfl rfl ?_
      rintro (_ | _) layout apart named
      · exact absurd rfl apart
      · exact named
  | promoteTier1 =>
      obtain ⟨tier1, checks, rfl⟩ := promoteTier1_eq_ok.mp success
      refine known.pin .bracket entries rfl rfl rfl ?_
      rintro (_ | _) layout apart named
      · exact absurd rfl apart
      · simpa [declaredLayout, checks.found] using named
  | initTier1Bracket shardSizes shardBounds shardCount =>
      obtain ⟨_, _, _, _, _, rfl⟩ := initTier1Bracket_eq_ok.mp success
      refine known.pin .tier1 entries rfl rfl rfl ?_
      rintro (_ | _) layout apart named
      · exact named
      · exact absurd rfl apart
  | closeTier1Bracket =>
      obtain ⟨_, _, _, rfl⟩ := closeTier1Bracket_eq_ok.mp success
      refine known.quiet ⟨entries, ?_⟩ rfl rfl rfl ?_
      · rintro (_ | _) held
        · exact held
        · cases held
      · rintro (_ | _) layout named
        · exact named
        · cases named
  | queueShardReveal computationOffset shardIndex accounts =>
      obtain ⟨bracket, run, checks, _, rfl⟩ := queueShardReveal_eq_ok.mp success
      have refilled : Refilled bracket (afterQueue bracket shardIndex accounts) :=
        refilled_afterQueue (formed.counted checks.found)
      refine known.record .bracket (by simp [RevealLedger.Holds, checks.found])
        (.of_bracket entries checks.found rfl) (fun record => mem_runs_queue.mp) rfl rfl
        (declaredLayout_refilled checks.found refilled rfl rfl rfl) ?_
      rintro layout named index inside ⟨⟩
      obtain ⟨rfl, checked⟩ := formed.declares_bracket checks.found named
      rw [checked.length_bounds] at inside
      obtain ⟨size, placed⟩ := checks.shardRun (ne_finalShardIndex inside checked.bounded)
      exact ⟨checked.admits inside size placed, fun key => checks.read.mem_roundEntries⟩
  | queueTier1ShardReveal computationOffset shardIndex accounts =>
      obtain ⟨tier1, run, checks, _, rfl⟩ := queueTier1ShardReveal_eq_ok.mp success
      refine known.record .tier1 (by simp [RevealLedger.Holds, checks.found])
        ⟨entries, id⟩ (fun record => mem_runs_queue.mp) rfl rfl (fun partition => ?_) ?_
      · cases partition <;> rfl
      · rintro layout named index inside ⟨⟩
        obtain ⟨rfl, checked⟩ := formed.declares_tier1 checks.found named
        exact ⟨checked.admits checks.indexed checks.size checks.read.placed,
          fun key => checks.read.mem_roundEntries⟩
  | queueSemifinalReveal computationOffset semiIndex accounts =>
      obtain ⟨tier1, bracket, run, checks, _, rfl⟩ := queueSemifinalReveal_eq_ok.mp success
      refine known.record .bracket (by simp [RevealLedger.Holds, checks.found])
        ⟨entries, id⟩ (fun record => mem_runs_queue.mp) rfl rfl (fun partition => ?_) ?_
      · cases partition <;> rfl
      · rintro layout named index inside ⟨⟩
  | collectShardWinners shardIndex accounts =>
      obtain ⟨bracket, result, run, recorded, checks, recording, rfl⟩ :=
        collectShardWinners_eq_ok.mp success
      obtain ⟨picked, _, pushed⟩ := recordFinalists_eq_ok.mp recording
      have refilled : Refilled bracket (markCollected recorded shardIndex) :=
        refilled_of_push (formed.counted checks.found) pushed
      refine known.record .bracket (by simp [RevealLedger.Holds, checks.found])
        (.of_bracket entries checks.found rfl) (fun record => mem_runs_collect.mp) rfl rfl
        (declaredLayout_refilled checks.found refilled rfl rfl rfl) ?_
      rintro layout named index inside ⟨⟩
      obtain ⟨rfl, checked⟩ := formed.declares_bracket checks.found named
      exact ⟨checked.admits checks.indexed checks.size checks.read.placed,
        fun key => checks.read.mem_roundEntries⟩
  | collectSemifinalWinners semiIndex =>
      obtain ⟨tier1, bracket, result, size, picked, recorded, checks, _, pushed, rfl⟩ :=
        collectSemifinalWinners_eq_ok.mp success
      have refilled : Refilled bracket (markCollected recorded semiIndex) :=
        refilled_of_push (formed.counted checks.found) pushed
      refine known.record .bracket (by simp [RevealLedger.Holds, checks.found])
        (.of_bracket entries checks.found rfl) (fun record => mem_runs_collect.mp) rfl rfl
        (declaredLayout_refilled checks.found refilled rfl rfl rfl) ?_
      rintro layout named index inside ⟨⟩
  | collectTier1Winners shardIndex accounts =>
      obtain ⟨tier1, result, run, recorded, checks, recording, rfl⟩ :=
        collectTier1Winners_eq_ok.mp success
      obtain ⟨picked, _, inserted⟩ := recordWinners_eq_ok.mp recording
      have frame := insertWinners_winnersOnly inserted
      refine known.record .tier1 (by simp [RevealLedger.Holds, checks.found])
        ⟨entries, ?_⟩ (fun record => mem_runs_collect.mp) rfl rfl (fun partition => ?_) ?_
      · rintro (_ | _) held
        · exact held
        · simp [RevealLedger.Holds, checks.found]
      · cases partition with
        | bracket => rfl
        | tier1 =>
            rw [declaredLayout, declaredLayout, frame, checks.found]
            rfl
      · rintro layout named index inside ⟨⟩
        obtain ⟨rfl, checked⟩ := formed.declares_tier1 checks.found named
        exact ⟨checked.admits checks.indexed checks.size checks.read.placed,
          fun key => checks.read.mem_roundEntries⟩
  | applyBracketResult resultIndex =>
      obtain ⟨bracket, result, top, checks, _, rfl⟩ := applyBracketResult_eq_ok.mp success
      refine known.quiet (.of_bracket entries checks.found rfl) rfl rfl rfl ?_
      rintro (_ | _) layout named
      · rw [declaredLayout, checks.found]
        exact named
      · exact named
  | revealTop3V5Callback computationOffset verified =>
      obtain ⟨_, _, _, _, _, rfl⟩ := revealTop3V5Callback_eq_ok.mp success
      refine known.quiet ⟨entries, id⟩ (runs_deliver _ _) (state.journal.deliver_pins _)
        (state.journal.deliver_pinOf _) fun {partition layout} named => ?_
      cases partition with
      | bracket => simpa [declaredLayout, note, Journal.deliver_sliced] using named
      | tier1 => exact named

/-- What a run of one round keeps: the round's entries, its participants, and the facts
about its partitions.
-/
structure Followed (start : RevealLedger) (state : JournaledReveal) : Prop where
  entries : state.system.entries = start.entries
  key : state.system.round.key = start.round.key
  participants : state.system.round.participantCount = start.round.participantCount
  formed : WellFormed state
  admitted : RunsAdmitted state

theorem Followed.step {start : RevealLedger} (followed : Followed start state)
    {submission : Submission} (success : revealStep state.system submission = .ok after)
    : Followed start ⟨after, note state.system submission state.journal⟩ := by
  have framed := revealStep_framed success
  exact ⟨framed.entries.trans followed.entries, framed.key.trans followed.key,
    framed.participants.trans followed.participants, followed.formed.step success,
    followed.admitted.step followed.formed success⟩

theorem RevealLedger.Unstarted.followed {start : RevealLedger} (unstarted : start.Unstarted)
    : Followed start start.journaled :=
  ⟨rfl, rfl, rfl, unstarted.wellFormed, unstarted.runsAdmitted⟩

theorem followed_of_run {condition : JournaledReveal → Submission → Prop}
    {start : RevealLedger} (unstarted : start.Unstarted)
    {history : List Submission} {state : JournaledReveal}
    (run : Run journaledReveal condition start.journaled history state)
    : Followed start state := by
  apply run.invariant unstarted.followed
  intro before submission after followed _ success
  obtain ⟨accepted, noted⟩ := journaled_eq_ok.mp success
  have kept := followed.step accepted
  rwa [← noted] at kept

--------------------------------------------------------------------------------
-- Coverage
--------------------------------------------------------------------------------

/-- A declared layout is one its pin checked: consistent, ascending, of the round's size. -/
theorem WellFormed.declared_layout (formed : WellFormed state) {partition : Partition}
    {layout : Layout Pubkey} (named : declaredLayout state partition = some layout)
    : layout.bounds.Pairwise (· < ·)
      ∧ layout.sizes.length = layout.bounds.length
      ∧ layout.sizes.sum = state.system.round.participantCount := by
  have sound {capacity : Nat} {shardSizes : Vector Nat capacity}
      {shardBounds : Vector Pubkey capacity} {shardCount participantCount : Nat}
      (checked : LayoutChecked shardSizes shardBounds shardCount participantCount)
      : (layoutOf shardSizes shardBounds shardCount).bounds.Pairwise (· < ·)
        ∧ (layoutOf shardSizes shardBounds shardCount).sizes.length
          = (layoutOf shardSizes shardBounds shardCount).bounds.length
        ∧ (layoutOf shardSizes shardBounds shardCount).sizes.sum = participantCount := by
    refine ⟨List.isChain_iff_pairwise.mp checked.ascending, ?_, checked.total⟩
    simp [layoutOf]
  cases partition with
  | bracket =>
      rw [declaredLayout] at named
      split at named
      · cases named
      · next unsliced =>
          obtain ⟨bracket, found, rfl⟩ := Option.map_eq_some_iff.mp named
          exact sound (formed.declared found (by simpa using unsliced))
  | tier1 =>
      obtain ⟨tier1, found, rfl⟩ := Option.map_eq_some_iff.mp named
      exact sound (formed.tier1 found).2.1

/-- One accepted run for every shard means that the layout splits the round's entries. -/
theorem Followed.splits {start : RevealLedger} (followed : Followed start state)
    (entered : start.roundEntries.length = start.round.participantCount)
    {partition : Partition} {layout : Layout Pubkey}
    (named : declaredLayout state partition = some layout)
    (accepted : ∀ index < layout.bounds.length,
      ∃ record ∈ state.journal.runs,
        record.pin = state.journal.pinOf partition ∧ record.target = .shard index)
    : layout.Splits state.system.roundEntries := by
  obtain ⟨ascending, aligned, total⟩ := followed.formed.declared_layout named
  have entries : state.system.roundEntries = start.roundEntries := by
    rw [RevealLedger.roundEntries, followed.entries, followed.key, RevealLedger.roundEntries]
  refine ⟨by rw [total, followed.participants, entries, entered], ?_⟩
  have admitted : ∀ index, ∃ accounts, index < layout.bounds.length
      → EntriesAdmitted state.system layout index accounts := by
    intro index
    by_cases inside : index < layout.bounds.length
    · obtain ⟨record, listed, pin, target⟩ := accepted index inside
      exact ⟨record.accounts, fun _ =>
        followed.admitted.admitted named record listed pin index inside target⟩
    · exact ⟨[], fun present => absurd present inside⟩
  choose runs admits using admitted
  exact ⟨runs, ⟨ascending, aligned, fun index inside => (admits index inside).admitted⟩,
    fun index inside => (admits index inside).entered⟩

/-- Over a layout that splits the entries, an accepted run of a shard is its whole interval. -/
theorem Followed.eq_interval {start : RevealLedger} (followed : Followed start state)
    {partition : Partition} {layout : Layout Pubkey}
    (named : declaredLayout state partition = some layout)
    (splits : layout.Splits state.system.roundEntries) {record : RunRecord}
    (listed : record ∈ state.journal.runs) (pin : record.pin = state.journal.pinOf partition)
    {index : Nat} (inside : index < layout.bounds.length) (target : record.target = .shard index)
    : record.accounts = layout.interval state.system.roundEntries index := by
  obtain ⟨admitted, entered⟩ :=
    followed.admitted.admitted named record listed pin index inside target
  exact splits.admitted_eq inside admitted entered

/-- The runs accepted under the partition in force are its intervals of the round's
entries; these are disjoint and list every entry once.
-/
structure Covered (state : JournaledReveal) (partition : Partition) (layout : Layout Pubkey)
    : Prop where
  exact : ∀ record ∈ state.journal.queued ++ state.journal.collected,
    record.pin = state.journal.pinOf partition
    → ∀ index < layout.bounds.length, record.target = .shard index
      → record.accounts = layout.interval state.system.roundEntries index
  ascending : ∀ index, (layout.interval state.system.roundEntries index).Pairwise (· < ·)
  disjoint : ∀ first < layout.bounds.length, ∀ second < layout.bounds.length, first ≠ second
    → (layout.interval state.system.roundEntries first).Disjoint
        (layout.interval state.system.roundEntries second)
  once : ((List.range layout.bounds.length).flatMap
      (layout.interval state.system.roundEntries)).Perm state.system.roundEntries

/-- Once every shard of a declared partition is collected, every run queued or collected
for a shard is exactly the round's entries in its interval, and no entry is left out.
-/
theorem collected_partition_covers {start : RevealLedger} (unstarted : start.Unstarted)
    (entered : start.roundEntries.length = start.round.participantCount)
    {history : List Submission} {state : JournaledReveal}
    (run : Run journaledReveal anyAction start.journaled history state)
    {partition : Partition} {layout : Layout Pubkey}
    (declared : declaredLayout state partition = some layout)
    (collected : ∀ index < layout.bounds.length,
      ∃ record ∈ state.journal.collected,
        record.pin = state.journal.pinOf partition ∧ record.target = .shard index)
    : Covered state partition layout := by
  have followed := followed_of_run unstarted run
  have splits := followed.splits entered declared fun index inside =>
    have ⟨record, listed, named⟩ := collected index inside
    ⟨record, List.mem_append_right _ listed, named⟩
  constructor
  · exact fun record listed pin index inside target =>
      followed.eq_interval declared splits listed pin inside target
  · exact layout.interval_ascending splits.nodup
  · exact fun first firstInside second secondInside =>
      splits.disjoint firstInside secondInside
  · exact splits.concat_perm

/-- Two shards over three entries, each queued, delivered and collected. -/
def twoShardScript : List Submission :=
  [pinTwoShards 1 2,
    .queueShardReveal 51 0 [1], .revealTop3V5Callback 51 true, .collectShardWinners 0 [1],
    .queueShardReveal 51 1 [2, 3], .revealTop3V5Callback 51 true,
    .collectShardWinners 1 [2, 3]].map authoritySubmits

/-- Both shards collected, the three entries are covered. -/
theorem twoShardScript_covers
    : ∃ state,
        Run journaledReveal anyAction (scoredRound [5, 9, 7]).journaled twoShardScript state
        ∧ Covered state .bracket ⟨[1, 2], [1, 2]⟩ := by
  have replayed : (replay journaledReveal anyAction (scoredRound [5, 9, 7]).journaled
      twoShardScript).any fun state =>
        decide (declaredLayout state .bracket = some ⟨[1, 2], [1, 2]⟩)
        && decide (∀ index ∈ List.range 2, ∃ record ∈ state.journal.collected,
          record.pin = state.journal.pinOf .bracket ∧ record.target = .shard index) := by
    decide +kernel
  obtain ⟨state, run, checked⟩ := Run.of_replay_any replayed
  rw [Bool.and_eq_true, decide_eq_true_eq, decide_eq_true_eq] at checked
  exact ⟨state, run, collected_partition_covers (scoredRound_unstarted _) (by decide +kernel)
    run checked.1 fun index inside => checked.2 index (List.mem_range.mpr inside)⟩

end SecretGarden.Bracket
