import SecretGarden.AutoCycle.Moves

/-! Scoring one entry from whatever state an earlier run left it in: unqueued, in flight, hanging
or failed. Whenever callbacks land, the script's own transactions are accepted, and the outcome
it reports is the entry's.
-/

namespace SecretGarden.AutoCycle

open Foundation SecretGarden.Bracket SecretGarden.Settlement SecretGarden.Season

--------------------------------------------------------------------------------
-- What scoring leaves alone
--------------------------------------------------------------------------------

/-- A round's accounts but for what scoring writes. -/
def RoundLedger.withoutScores (ledger : RoundLedger) : RoundLedger :=
  { ledger with
    round := { ledger.round with scoredCount := 0 }
    entries := ∅
    scoreComputations := ∅ }

/-- An entry of the same round, player and flower. -/
structure SameSubmission (entry later : CompetitionEntry) : Prop where
  round : later.round = entry.round
  player : later.player = entry.player
  flowerRecord : later.flowerRecord = entry.flowerRecord

/-- Beside that, the entry was not queued anew. -/
structure NotRequeued (entry later : CompetitionEntry) : Prop extends
    SameSubmission entry later where
  queuedAt : later.queuedAt = entry.queuedAt

/-- Only scoring went on: entries are related to what they were, scores stay, and computations
are new only under own offsets.
-/
structure Tended (own : Nat → Prop) (related : CompetitionEntry → CompetitionEntry → Prop)
    (ledger next : RoundLedger) : Prop where
  frame : RoundLedger.withoutScores next = RoundLedger.withoutScores ledger
  scores : ScoresKept ledger next
  forth : ∀ key entry, ledger.entries.lookup key = some entry
    → ∃ later, next.entries.lookup key = some later ∧ related entry later
  back : ∀ key, ledger.entries.lookup key = none → next.entries.lookup key = none
  offsets : ∀ computationOffset, ¬ own computationOffset
    → next.scoreComputations.lookup computationOffset
      = ledger.scoreComputations.lookup computationOffset

variable {own : Nat → Prop} {related : CompetitionEntry → CompetitionEntry → Prop}
  {ledger next : RoundLedger}

theorem SameSubmission.refl (entry : CompetitionEntry) : SameSubmission entry entry :=
  ⟨rfl, rfl, rfl⟩

theorem SameSubmission.trans {first second third : CompetitionEntry}
    (earlier : SameSubmission first second) (later : SameSubmission second third)
    : SameSubmission first third :=
  ⟨later.round.trans earlier.round, later.player.trans earlier.player,
    later.flowerRecord.trans earlier.flowerRecord⟩

theorem NotRequeued.refl (entry : CompetitionEntry) : NotRequeued entry entry :=
  ⟨.refl entry, rfl⟩

theorem NotRequeued.trans {first second third : CompetitionEntry}
    (earlier : NotRequeued first second) (later : NotRequeued second third)
    : NotRequeued first third :=
  ⟨earlier.toSameSubmission.trans later.toSameSubmission, later.queuedAt.trans earlier.queuedAt⟩

theorem Tended.refl (reflects : ∀ entry, related entry entry) (ledger : RoundLedger)
    : Tended own related ledger ledger :=
  ⟨rfl, .refl ledger, fun _ entry found => ⟨entry, found, reflects entry⟩, fun _ absent => absent,
    fun _ _ => rfl⟩

theorem Tended.trans {first second third : RoundLedger}
    (composes : ∀ {a b c}, related a b → related b c → related a c)
    (earlier : Tended own related first second) (later : Tended own related second third)
    : Tended own related first third := by
  refine ⟨later.frame.trans earlier.frame, earlier.scores.trans later.scores,
    fun key entry found => ?_, fun key absent => later.back key (earlier.back key absent),
    fun offset foreign => (later.offsets offset foreign).trans (earlier.offsets offset foreign)⟩
  obtain ⟨middle, held, before⟩ := earlier.forth key entry found
  obtain ⟨last, reached, after⟩ := later.forth key middle held
  exact ⟨last, reached, composes before after⟩

theorem Tended.mono {wider : Nat → Prop} {weaker : CompetitionEntry → CompetitionEntry → Prop}
    (tended : Tended own related ledger next) (widen : ∀ offset, own offset → wider offset)
    (weaken : ∀ {entry later}, related entry later → weaker entry later)
    : Tended wider weaker ledger next := by
  refine ⟨tended.frame, tended.scores, fun key entry found => ?_, tended.back,
    fun offset foreign => tended.offsets offset fun owned => foreign (widen offset owned)⟩
  obtain ⟨later, reached, kept⟩ := tended.forth key entry found
  exact ⟨later, reached, weaken kept⟩

theorem Tended.status (tended : Tended own related ledger next)
    : next.round.status = ledger.round.status := by
  have same := congrArg (fun ledger : RoundLedger => ledger.round.status) tended.frame
  exact same

theorem Tended.participants (tended : Tended own related ledger next)
    : next.round.participantCount = ledger.round.participantCount := by
  have same := congrArg (fun ledger : RoundLedger => ledger.round.participantCount) tended.frame
  exact same

theorem Tended.vaults (tended : Tended own related ledger next) : next.vaults = ledger.vaults := by
  have same := congrArg (fun ledger : RoundLedger => ledger.vaults) tended.frame
  exact same

theorem Tended.wallets (tended : Tended own related ledger next)
    : next.wallets = ledger.wallets := by
  have same := congrArg (fun ledger : RoundLedger => ledger.wallets) tended.frame
  exact same

theorem Tended.computations (tended : Tended own related ledger next)
    : next.computations = ledger.computations := by
  have same := congrArg (fun ledger : RoundLedger => ledger.computations) tended.frame
  exact same

theorem Tended.key (tended : Tended own related ledger next)
    : next.round.key = ledger.round.key := by
  have same := congrArg (fun ledger : RoundLedger => ledger.round.key) tended.frame
  exact same

/-- Rewriting one entry of a round, in what scoring writes, tends it. -/
theorem tended_of_rewrite {env : Env} {instruction : RoundInstruction} {entryKey : Pubkey}
    {entry written : CompetitionEntry} (success : roundStep ledger ⟨env, instruction⟩ = .ok next)
    (frame : RoundLedger.withoutScores next = RoundLedger.withoutScores ledger)
    (found : ledger.entries.lookup entryKey = some entry)
    (entries : next.entries = ledger.entries.insert entryKey written)
    (kept : related entry written) (reflects : ∀ entry, related entry entry)
    (offsets : ∀ computationOffset, ¬ own computationOffset
      → next.scoreComputations.lookup computationOffset
        = ledger.scoreComputations.lookup computationOffset)
    : Tended own related ledger next := by
  refine ⟨frame, roundStep_scoresKept success, fun key held present => ?_,
    fun key absent => ?_, offsets⟩
  · rw [entries, Store.lookup_insert_apply]
    split
    · next here =>
        subst here
        cases found.symm.trans present
        exact ⟨written, rfl, kept⟩
    · exact ⟨held, present, reflects held⟩
  · rw [entries, Store.lookup_insert_apply, if_neg]
    · exact absent
    · rintro rfl
      cases found.symm.trans absent

variable {env : Env}

/-- A scoring callback tends the round, whatever it delivers. -/
theorem tended_of_callback {computationOffset : Nat} {output : Option (Nat × Nat)}
    (success : roundStep ledger ⟨env, .scoreEntryV2Callback computationOffset output⟩ = .ok next)
    : Tended (fun _ => False) NotRequeued ledger next := by
  obtain ⟨entryKey, entry, _, found, _, delivered⟩ := scoreEntryV2Callback_delivered success
  cases delivered with
  | ignored => exact .refl .refl ledger
  | failed =>
      exact tended_of_rewrite success rfl found rfl ⟨⟨rfl, rfl, rfl⟩, rfl⟩ .refl fun _ _ => rfl
  | succeeded =>
      exact tended_of_rewrite success rfl found rfl ⟨⟨rfl, rfl, rfl⟩, rfl⟩ .refl fun _ _ => rfl

/-- A callback with a score leaves its entry scored. -/
theorem scored_of_callback (env : Env) (score nonce : Nat) {computationOffset : Nat}
    {entryKey : Pubkey} {entry : CompetitionEntry}
    (queued : ledger.scoreComputations.lookup computationOffset = some entryKey)
    (found : ledger.entries.lookup entryKey = some entry) (own : entry.round = ledger.round.key)
    : ∃ next scored,
        roundStep ledger ⟨env, .scoreEntryV2Callback computationOffset (some (score, nonce))⟩
          = .ok next
        ∧ next.entries.lookup entryKey = some scored
        ∧ scored.scored := by
  have accepted {next : RoundLedger} (delivers
        : (if entry.scored then pure ledger
          else pure { ledger with
            entries := ledger.entries.insert entryKey (scoredEntry entry score nonce)
            round := { ledger.round with
              scoredCount := min u16Max (ledger.round.scoredCount + 1) } })
          = (.ok next : Outcome RoundLedger))
      : roundStep ledger ⟨env, .scoreEntryV2Callback computationOffset (some (score, nonce))⟩
        = .ok next := by
    simp only [roundStep, scoreEntryV2Callback, bind_eq_ok, fetch_eq_ok, require_eq_ok,
      exists_const]
    exact ⟨entryKey, queued, entry, found, own, delivers⟩
  by_cases scored : entry.scored
  · exact ⟨ledger, entry, accepted (if_pos scored), found, scored⟩
  · exact ⟨_, scoredEntry entry score nonce, accepted (if_neg scored), AList.lookup_insert _, rfl⟩

/-- A hanging scoring is cancelled once the window is open. -/
theorem cancel_accepted (env : Env) {entryKey : Pubkey} {entry : CompetitionEntry}
    (found : ledger.entries.lookup entryKey = some entry) (unscored : entry.scored = false)
    (queued : entry.scoreQueued) (due : scoreTimeoutSeconds ≤ env.now - entry.queuedAt)
    : ∃ next,
        roundStep ledger ⟨env, .cancelStuckScore entryKey⟩ = .ok next
        ∧ Tended (fun _ => False) NotRequeued ledger next
        ∧ next.entries.lookup entryKey = some { entry with scoreQueued := false } := by
  have success : roundStep ledger ⟨env, .cancelStuckScore entryKey⟩
      = .ok { ledger with
          entries := ledger.entries.insert entryKey { entry with scoreQueued := false } } := by
    simp only [roundStep, cancelStuckScore, bind_eq_ok, fetch_eq_ok, require_eq_ok, exists_const,
      pure_eq_ok]
    exact ⟨entry, found, unscored, queued, due, rfl⟩
  refine ⟨_, success, ?_, AList.lookup_insert _⟩
  exact tended_of_rewrite success rfl found rfl ⟨⟨rfl, rfl, rfl⟩, rfl⟩ .refl fun _ _ => rfl

/-- An entry that nothing is in flight for is queued under an unused offset. -/
theorem queue_accepted (env : Env) {entryKey : Pubkey} {entry : CompetitionEntry}
    {computationOffset : Nat} (unpaused : env.config.paused = false)
    (operator : isOperatorOrAuthority env.config env.signer)
    (found : ledger.entries.lookup entryKey = some entry) (own : entry.round = ledger.round.key)
    (unscored : entry.scored = false) (idle : entry.scoreQueued = false)
    (closed : ledger.round.status = .closed)
    (free : ledger.scoreComputations.lookup computationOffset = none)
    : ∃ next,
        roundStep ledger ⟨env, .queueScoreEntry computationOffset entryKey entry.flowerRecord⟩
          = .ok next
        ∧ Tended (· = computationOffset) SameSubmission ledger next
        ∧ next.scoreComputations.lookup computationOffset = some entryKey := by
  have success
      : roundStep ledger ⟨env, .queueScoreEntry computationOffset entryKey entry.flowerRecord⟩
        = .ok { ledger with
            entries := ledger.entries.insert entryKey
              { entry with scoreQueued := true, queuedAt := env.now }
            scoreComputations :=
              ledger.scoreComputations.insert computationOffset entryKey } := by
    simp only [roundStep, queueScoreEntry, requireUnpaused, requireOperator, bind_eq_ok,
      fetch_eq_ok, require_eq_ok, exists_const, pure_eq_ok, free]
    exact ⟨unpaused, entry, found, own, rfl, unscored, idle, operator, closed, rfl, rfl⟩
  refine ⟨_, success, ?_, AList.lookup_insert _⟩
  refine tended_of_rewrite success rfl found rfl ⟨rfl, rfl, rfl⟩ .refl fun offset foreign => ?_
  exact AList.lookup_insert_ne foreign

--------------------------------------------------------------------------------
-- Waiting
--------------------------------------------------------------------------------

variable {deps : CycleDeps} {key : RoundKey} {world : CycleWorld} {entryKey : Pubkey}
  {entry : CompetitionEntry}

/-- The callbacks that land, one after the other. -/
def landScores (deps : CycleDeps) (key : RoundKey) (arrivals : List (Nat × Option (Nat × Nat)))
    (world : CycleWorld) : CycleWorld :=
  arrivals.foldl
    (fun before arrival => happen deps key (.scoreEntryV2Callback arrival.1 arrival.2) before) world

/-- Callbacks tend their round, by induction on what lands. -/
theorem landScores_moved (found : world.deployment.rounds.lookup key = some ledger)
    (arrivals : List (Nat × Option (Nat × Nat)))
    : Moved BesideReveals key (Tended (fun _ => False) NotRequeued) world
        (landScores deps key arrivals world) := by
  induction arrivals generalizing world ledger with
  | nil => exact .refl (.refl .refl) world
  | cons arrival rest ih =>
      rw [landScores, List.foldl_cons, ← landScores]
      rcases happen_cases deps (.scoreEntryV2Callback arrival.1 arrival.2) found with
        ⟨next, moved, same⟩ | ⟨_, same⟩
      · rw [same]
        exact (moved_of_step found moved nofun (tended_of_callback moved)).trans
          (Tended.trans NotRequeued.trans) (ih (lookup_put next))
      · rw [same]
        exact ih found

theorem sleep_moved (deps : CycleDeps)
    (found : world.deployment.rounds.lookup key = some ledger) (seconds : Int)
    : Moved BesideReveals key (Tended (fun _ => False) NotRequeued) world
        (sleep deps key seconds world) :=
  (landScores_moved found _).later _

theorem landScores_now (arrivals : List (Nat × Option (Nat × Nat)))
    : (landScores deps key arrivals world).now = world.now := by
  induction arrivals generalizing world with
  | nil => rfl
  | cons arrival rest ih => exact ih

@[simp]
theorem sleep_now (seconds : Int) : (sleep deps key seconds world).now = world.now + seconds :=
  congrArg (· + seconds) (landScores_now _)

/-- A score that is among what lands leaves its entry scored: nothing before it takes the
computation away, and nothing after it the score.
-/
theorem landScores_scores (found : world.deployment.rounds.lookup key = some ledger)
    {computationOffset score nonce : Nat}
    (queued : ledger.scoreComputations.lookup computationOffset = some entryKey)
    (present : ledger.entries.lookup entryKey = some entry) (own : entry.round = ledger.round.key)
    {arrivals : List (Nat × Option (Nat × Nat))}
    (arrives : (computationOffset, some (score, nonce)) ∈ arrivals)
    : ∃ next scored,
        (landScores deps key arrivals world).deployment.rounds.lookup key = some next
        ∧ next.entries.lookup entryKey = some scored
        ∧ scored.scored := by
  obtain ⟨before, after, rfl⟩ := List.append_of_mem arrives
  rw [landScores, List.foldl_append, List.foldl_cons, ← landScores, ← landScores]
  obtain ⟨waited, held, tended⟩ := (landScores_moved found before).ledger ledger found
  obtain ⟨later, still, same⟩ := tended.forth entryKey entry present
  obtain ⟨next, scored, accepted, stored, done⟩ := scored_of_callback
    (deps.envAt (landScores deps key before world)) score nonce
    ((tended.offsets _ id).trans queued) still (same.round.trans (own.trans tended.key.symm))
  rw [happen_of_step held accepted]
  obtain ⟨last, reached, tended⟩ := (landScores_moved (lookup_put next) after).ledger next
    (lookup_put next)
  obtain ⟨final, kept, scores, _⟩ := tended.scores entryKey scored stored done
  exact ⟨last, final, reached, kept, scores⟩

/-- A wait that a score arrives in leaves its entry scored. -/
theorem sleep_scores (deps : CycleDeps) (seconds : Int)
    (found : world.deployment.rounds.lookup key = some ledger)
    {computationOffset score nonce : Nat}
    (queued : ledger.scoreComputations.lookup computationOffset = some entryKey)
    (present : ledger.entries.lookup entryKey = some entry) (own : entry.round = ledger.round.key)
    (arrives : (computationOffset, some (score, nonce)) ∈ deps.scoreArrivals world)
    : ∃ next scored,
        (sleep deps key seconds world).deployment.rounds.lookup key = some next
        ∧ next.entries.lookup entryKey = some scored
        ∧ scored.scored :=
  landScores_scores found queued present own arrives

theorem entryAt_eq_ok
    : entryAt key entryKey world = .ok entry
      ↔ ∃ ledger, world.deployment.rounds.lookup key = some ledger
          ∧ ledger.entries.lookup entryKey = some entry := by
  simp only [entryAt, roundAt, bind_eq_ok, fetch_eq_ok]

end SecretGarden.AutoCycle
