import SecretGarden.AutoCycle.Driver
import SecretGarden.Bracket.Freshness
import SecretGarden.Bracket.Upkeep

/-! What the accounts of a reveal say while callbacks land.
Whatever lands between two transactions, the partition accounts stay, results keep their
stamps, and an account that only awaits one run's output ends with that output.
-/

namespace SecretGarden.AutoCycle

open Foundation SecretGarden.Bracket

/-- Nothing but results and computations differs. -/
structure SameAccounts (before after : RevealLedger) : Prop where
  round : after.round = before.round
  entries : after.entries = before.entries
  bracket : after.bracket = before.bracket
  tier1 : after.tier1 = before.tier1

theorem SameAccounts.refl (ledger : RevealLedger) : SameAccounts ledger ledger :=
  ⟨rfl, rfl, rfl, rfl⟩

theorem SameAccounts.trans {first second third : RevealLedger}
    (earlier : SameAccounts first second) (later : SameAccounts second third)
    : SameAccounts first third :=
  ⟨later.round.trans earlier.round, later.entries.trans earlier.entries,
    later.bracket.trans earlier.bracket, later.tier1.trans earlier.tier1⟩

variable {ledger after : RevealLedger} {target : ResultAddress} {accounts : List Pubkey}
  {generation : Nat}

/-- Whatever is in flight to the account was queued over these accounts. -/
def Awaits (ledger : RevealLedger) (target : ResultAddress) (accounts : List Pubkey) : Prop :=
  ∀ computationOffset computation,
    ledger.computations.lookup computationOffset = some computation
    → computation.target = target
    → computation.args = buildRevealArgs (contenders ledger.entries accounts)

/-- The account has the stamp, and its result, once it is ready, is the circuit's output on
these accounts.
-/
structure Answers (ledger : RevealLedger) (target : ResultAddress) (generation : Nat)
    (accounts : List Pubkey) : Prop where
  stamped : ∀ result, ledger.results.lookup target = some result
    → result.generation = generation
      ∧ (result.ready → result.slots = revealedSlots ledger.entries accounts)
  awaits : Awaits ledger target accounts

/-- The account holds the circuit's output on these accounts, under the stamp. -/
def Holds (ledger : RevealLedger) (target : ResultAddress) (generation : Nat)
    (accounts : List Pubkey) : Prop :=
  ∃ result,
    ledger.results.lookup target = some result
    ∧ result.ready
    ∧ result.errorCode = 0
    ∧ result.generation = generation
    ∧ result.slots = revealedSlots ledger.entries accounts

theorem resultReady_iff
    : resultReady ledger target
      ↔ ∃ result, ledger.results.lookup target = some result ∧ result.ready
        ∧ result.errorCode = 0 := by
  rw [resultReady, Option.any_eq_true]
  simp

/-- A ready account that answers holds the output. -/
theorem Answers.holds (answers : Answers ledger target generation accounts)
    (ready : resultReady ledger target) : Holds ledger target generation accounts := by
  obtain ⟨result, found, present, clean⟩ := resultReady_iff.mp ready
  obtain ⟨stamp, output⟩ := answers.stamped result found
  exact ⟨result, found, present, clean, stamp, output present⟩

theorem Holds.carries (holds : Holds ledger target generation accounts)
    : ledger.Carries target generation := by
  obtain ⟨result, found, _, _, stamp, _⟩ := holds
  exact ⟨result, found, stamp⟩

--------------------------------------------------------------------------------
-- Deliveries
--------------------------------------------------------------------------------

/-- What holds before a delivery holds after it. -/
def Survives (property : RevealLedger → Prop) : Prop :=
  ∀ ⦃ledger : RevealLedger⦄ ⦃computationOffset : Nat⦄ ⦃computation : RevealComputation⦄
    ⦃result : RevealTop3V3Result⦄,
    ledger.computations.lookup computationOffset = some computation
    → ledger.results.lookup computation.target = some result
    → property ledger
    → property (ledger.deliver computationOffset computation result)

theorem Survives.and {first second : RevealLedger → Prop} (one : Survives first)
    (two : Survives second) : Survives fun ledger => first ledger ∧ second ledger :=
  fun _ _ _ _ found present ⟨held, kept⟩ => ⟨one found present held, two found present kept⟩

theorem Survives.all {ι : Sort*} {property : ι → RevealLedger → Prop}
    (each : ∀ i, Survives (property i)) : Survives fun ledger => ∀ i, property i ledger :=
  fun _ _ _ _ found present held i => each i found present (held i)

theorem survives_sameAccounts (start : RevealLedger) : Survives (SameAccounts start) :=
  fun _ _ _ _ _ _ same => same.trans ⟨rfl, rfl, rfl, rfl⟩

theorem survives_carries (target : ResultAddress) (generation : Nat)
    : Survives fun ledger => ledger.Carries target generation :=
  fun _ _ _ _ _ present carries => carries.deliver present

/-- Deliveries only take computations out of flight. -/
theorem survives_free (computationOffset : Nat)
    : Survives fun ledger => ledger.computations.lookup computationOffset = none := by
  intro ledger delivered computation result _ _ free
  rw [RevealLedger.deliver, Store.lookup_erase_apply, free]
  exact ite_self _

/-- Deliveries create no account. -/
theorem survives_vacant (target : ResultAddress)
    : Survives fun ledger => ledger.results.lookup target = none := by
  intro ledger delivered computation result _ present vacant
  rw [RevealLedger.deliver, Store.lookup_insert_apply, if_neg, vacant]
  rintro rfl
  cases vacant.symm.trans present

theorem survives_awaits (target : ResultAddress) (accounts : List Pubkey)
    : Survives fun ledger => Awaits ledger target accounts := by
  intro ledger delivered computation result _ _ awaits other queued listed
  obtain ⟨_, listed⟩ := Store.lookup_erase_eq_some.mp listed
  exact awaits other queued listed

/-- A ready account stays ready, since a delivery writes no error. -/
theorem survives_ready (target : ResultAddress)
    : Survives fun ledger => resultReady ledger target := by
  intro ledger delivered computation result found present ready
  obtain ⟨held, stored, _, clean⟩ := resultReady_iff.mp ready
  refine resultReady_iff.mpr ?_
  rw [RevealLedger.deliver, Store.lookup_insert_apply]
  split
  · next here =>
      rw [here, present] at stored
      cases stored
      exact ⟨_, rfl, rfl, clean⟩
  · exact resultReady_iff.mp ready

/-- An account that answers keeps answering: what lands there is the awaited output. -/
theorem survives_answers (target : ResultAddress) (generation : Nat) (accounts : List Pubkey)
    : Survives fun ledger => Answers ledger target generation accounts := by
  intro ledger delivered computation result found present answers
  refine ⟨fun other stored => ?_, survives_awaits target accounts found present answers.awaits⟩
  rcases Store.lookup_insert_eq_some.mp stored with ⟨here, rfl⟩ | ⟨_, stored⟩
  · subst here
    refine ⟨(answers.stamped result present).1, fun _ => ?_⟩
    rw [slots_deliveredResult, answers.awaits _ _ found rfl]
    rfl
  · exact answers.stamped other stored

/-- A callback finds nothing to deliver, or delivers its computation. -/
theorem deliver_cases (tracked : Tracked ledger) (computationOffset : Nat)
    : ledger.computations.lookup computationOffset = none
        ∧ deliver computationOffset ledger = ledger
      ∨ ∃ computation result,
          ledger.computations.lookup computationOffset = some computation
          ∧ ledger.results.lookup computation.target = some result
          ∧ deliver computationOffset ledger
            = ledger.deliver computationOffset computation result := by
  cases found : ledger.computations.lookup computationOffset with
  | none =>
      refine .inl ⟨rfl, ?_⟩
      have failed : revealTop3V5Callback computationOffset true ledger
          = .error .computationNotFound := by
        rw [revealTop3V5Callback, fetch_eq_error.mpr ⟨found, rfl⟩]
        rfl
      rw [deliver, failed]
  | some computation =>
      obtain ⟨result, present⟩ := tracked.aimed found
      refine .inr ⟨computation, result, rfl, present, ?_⟩
      rw [deliver, revealTop3V5Callback_eq_ok.mpr ⟨computation, result, found, present, rfl, rfl⟩]
      rfl

/-- What survives each delivery survives all that land, by induction on the arrivals. -/
theorem Survives.land {property : RevealLedger → Prop} (survives : Survives property)
    (arrivals : List Nat) (tracked : Tracked ledger) (held : property ledger)
    : Tracked (land arrivals ledger) ∧ property (land arrivals ledger) := by
  induction arrivals generalizing ledger with
  | nil => exact ⟨tracked, held⟩
  | cons computationOffset rest ih =>
      rw [AutoCycle.land, List.foldl_cons, ← AutoCycle.land]
      rcases deliver_cases tracked computationOffset with ⟨_, same⟩ | ⟨_, _, found, present, same⟩
      · rw [same]
        exact ih tracked held
      · rw [same]
        exact ih (tracked.deliver found present) (survives found present held)

/-- Nothing in flight stays in flight once it has landed, by induction on the arrivals. -/
theorem land_empties {arrivals : List Nat} (tracked : Tracked ledger) {computationOffset : Nat}
    (complete : (ledger.computations.lookup computationOffset).isSome
      → computationOffset ∈ arrivals)
    : (land arrivals ledger).computations.lookup computationOffset = none := by
  induction arrivals generalizing ledger with
  | nil =>
      cases found : ledger.computations.lookup computationOffset with
      | none => exact found
      | some computation => exact absurd (complete (by rw [found]; rfl)) List.not_mem_nil
  | cons first rest ih =>
      rw [land, List.foldl_cons, ← land]
      -- whatever happens to the first arrival, it is not in flight afterwards
      rcases deliver_cases tracked first with ⟨absent, same⟩ | ⟨_, _, found, present, same⟩
      · rw [same]
        refine ih tracked fun listed => ?_
        rcases List.mem_cons.mp (complete listed) with rfl | later
        · rw [absent] at listed
          cases listed
        · exact later
      · rw [same]
        refine ih (tracked.deliver found present) fun listed => ?_
        rw [RevealLedger.deliver, Store.lookup_erase_apply] at listed
        split at listed
        · cases listed
        · next other => exact (List.mem_cons.mp (complete listed)).resolve_left other

/-- With nothing in flight every result is ready. -/
theorem ready_of_landed (tracked : Tracked ledger)
    (landed : ∀ computationOffset, ledger.computations.lookup computationOffset = none)
    (present : (ledger.results.lookup target).isSome) : resultReady ledger target := by
  obtain ⟨result, found⟩ := Option.isSome_iff_exists.mp present
  refine resultReady_iff.mpr ⟨result, found, ?_, tracked.clean found⟩
  by_contra waiting
  obtain ⟨computationOffset, computation, queued, _⟩ :=
    tracked.pending found (by simpa using waiting)
  cases (landed computationOffset).symm.trans queued

section Wait

variable {deps : BracketRevealDeps} {targets : List ResultAddress}

/-- What survives deliveries survives a wait. -/
theorem Survives.wait {property : RevealLedger → Prop} (survives : Survives property)
    (deps : BracketRevealDeps) (targets : List ResultAddress) (tracked : Tracked ledger)
    (held : property ledger)
    : Tracked (awaitResults deps targets ledger).2
      ∧ property (awaitResults deps targets ledger).2 := by
  rw [awaitResults]
  split
  · exact ⟨tracked, held⟩
  · exact survives.land _ tracked held

/-- Every queued computation's callback lands before a wait is over. -/
def Prompt (deps : BracketRevealDeps) : Prop :=
  ∀ ledger computationOffset, (ledger.computations.lookup computationOffset).isSome
    → computationOffset ∈ deps.late ledger

/-- After a wait for anything at all, every result account is ready. -/
theorem Prompt.ready (prompt : Prompt deps) (waited : targets ≠ []) (tracked : Tracked ledger)
    (present : ((awaitResults deps targets ledger).2.results.lookup target).isSome)
    : resultReady (awaitResults deps targets ledger).2 target := by
  have settled :=
    (Survives.wait (survives_sameAccounts ledger) deps targets tracked (.refl ledger)).1
  refine ready_of_landed settled (fun computationOffset => ?_) present
  rw [awaitResults, if_neg (by simpa using waited)]
  exact land_empties tracked (prompt ledger computationOffset)

/-- As many results came back as are ready by the end. -/
theorem awaitResults_landed (ready : ∀ target ∈ targets,
      resultReady (awaitResults deps targets ledger).2 target)
    : (awaitResults deps targets ledger).1 = targets.length := by
  rw [awaitResults] at ready ⊢
  split
  · next vacant => rw [List.isEmpty_iff.mp vacant, List.length_nil]
  · next waited =>
      rw [if_neg waited] at ready
      exact List.countP_eq_length.mpr ready

end Wait

--------------------------------------------------------------------------------
-- Queued runs
--------------------------------------------------------------------------------

section Queue

variable {computationOffset stamp : Nat} {other : ResultAddress} {run : List Contender}

/-- Queueing over the awaited accounts leaves the result account answering. -/
theorem Awaits.queue (awaits : Awaits ledger target accounts)
    (computationOffset generation : Nat)
    : Answers (ledger.queue computationOffset target generation
        (contenders ledger.entries accounts)) target generation accounts := by
  constructor
  · intro result found
    rw [RevealLedger.queue, AList.lookup_insert] at found
    cases found
    exact ⟨rfl, by rintro ⟨⟩⟩
  · intro queuedOffset computation found aimed
    rcases Store.lookup_insert_eq_some.mp found with ⟨_, rfl⟩ | ⟨_, found⟩
    · rfl
    · exact awaits queuedOffset computation found aimed

/-- Queueing for another account leaves what is in flight to this one. -/
theorem Awaits.queue_other (awaits : Awaits ledger target accounts) (apart : other ≠ target)
    : Awaits (ledger.queue computationOffset other stamp run) target accounts := by
  intro queuedOffset computation found aimed
  rcases Store.lookup_insert_eq_some.mp found with ⟨_, rfl⟩ | ⟨_, found⟩
  · exact absurd aimed apart
  · exact awaits queuedOffset computation found aimed

theorem lookup_queue_other (apart : other ≠ target)
    : (ledger.queue computationOffset other stamp run).results.lookup target
      = ledger.results.lookup target := by
  rw [RevealLedger.queue, AList.lookup_insert_ne apart.symm]

theorem Answers.queue_other (answers : Answers ledger target generation accounts)
    (apart : other ≠ target)
    : Answers (ledger.queue computationOffset other stamp run) target generation accounts :=
  ⟨fun result found => answers.stamped result (lookup_queue_other apart ▸ found),
    answers.awaits.queue_other apart⟩

theorem free_queue {unused : Nat} (free : ledger.computations.lookup unused = none)
    (apart : unused ≠ computationOffset)
    : (ledger.queue computationOffset other stamp run).computations.lookup unused = none := by
  rw [RevealLedger.queue, AList.lookup_insert_ne apart, free]

end Queue

end SecretGarden.AutoCycle
