import SecretGarden.Settlement.Crowned

/-! Each entry of a round is scored once, however its computations are queued, cancelled and
delivered, and the reveal waits for all of them.
-/

namespace SecretGarden.Settlement

open Foundation SecretGarden.Bracket

variable {ledger after : RoundLedger} {submission : RoundSubmission}

/-- The scored entries of the round. -/
def RoundLedger.scoredEntries (ledger : RoundLedger) : List Pubkey :=
  ledger.entries.keysWhere fun entry => entry.round == ledger.round.key && entry.scored

/-- Every participant has an entry, and all of them are scored. -/
structure AllScored (ledger : RoundLedger) : Prop where
  counted : ledger.roundEntries.length = ledger.round.participantCount
  scored : ∀ {key entry}, ledger.entries.lookup key = some entry
    → entry.round = ledger.round.key
    → entry.scored

/-- Scored entries keep their scores. -/
def ScoresKept (ledger after : RoundLedger) : Prop :=
  ∀ key entry, ledger.entries.lookup key = some entry
    → entry.scored
    → ∃ later,
        after.entries.lookup key = some later
        ∧ later.scored
        ∧ later.encryptedScore = entry.encryptedScore
        ∧ later.scoreNonce = entry.scoreNonce

theorem ScoresKept.refl (ledger : RoundLedger) : ScoresKept ledger ledger :=
  fun _ entry found scored => ⟨entry, found, scored, rfl, rfl⟩

theorem ScoresKept.trans {first second third : RoundLedger}
    (earlier : ScoresKept first second) (later : ScoresKept second third)
    : ScoresKept first third := by
  intro key entry found scored
  obtain ⟨middle, present, still, score, nonce⟩ := earlier key entry found scored
  obtain ⟨last, held, scored, score', nonce'⟩ := later key middle present still
  exact ⟨last, held, scored, score'.trans score, nonce'.trans nonce⟩

/-- Writing one entry keeps all scores, unless the entry was scored and changes its score. -/
theorem scoresKept_of_insert {entryKey : Pubkey} {written : CompetitionEntry}
    (entries : after.entries = ledger.entries.insert entryKey written)
    (kept
      : ∀ {entry}, ledger.entries.lookup entryKey = some entry
        → entry.scored
        → written.scored
          ∧ written.encryptedScore = entry.encryptedScore
          ∧ written.scoreNonce = entry.scoreNonce)
    : ScoresKept ledger after := by
  intro key entry found scored
  rw [entries, Store.lookup_insert_apply]
  split
  · next here =>
      subst here
      exact ⟨written, rfl, kept found scored⟩
  · exact ⟨entry, found, scored, rfl, rfl⟩

/-- No accepted instruction changes the score of a scored entry. -/
theorem roundStep_scoresKept (success : roundStep ledger submission = .ok after)
    : ScoresKept ledger after := by
  have unchanged (entries : after.entries = ledger.entries) : ScoresKept ledger after :=
    fun key entry found scored => ⟨entry, by rwa [entries], scored, rfl, rfl⟩
  cases roundStep_change success with
  | kept entries round => exact unchanged entries
  | entered asked checks entries round =>
      exact scoresKept_of_insert entries fun found => absurd (checks.unused.symm.trans found)
        (by simp)
  | closed opened entries round => exact unchanged entries
  | finalized closed entries round => exact unchanged entries
  | attempted attempt entries round =>
      refine scoresKept_of_insert entries fun found scored => ?_
      cases attempt.found.symm.trans found
      exact absurd scored (by simp [attempt.unscored])
  | scored found own unscored entries round =>
      refine scoresKept_of_insert entries fun present scored => ?_
      cases found.symm.trans present
      exact absurd scored (by simp [unscored])
  | released asked checks entries round =>
      refine scoresKept_of_insert entries fun found scored => ?_
      cases checks.found.symm.trans found
      exact ⟨scored, rfl, rfl⟩
  | revealed asked entries round => exact unchanged entries
  | elsewhere unused foreign entries round =>
      exact scoresKept_of_insert entries fun found => absurd (unused.symm.trans found) (by simp)

/-- Scores stay for good, by the steps of a run. -/
theorem scoresKept_of_run {condition : RoundLedger → RoundSubmission → Prop}
    {start state : RoundLedger} {history : List RoundSubmission}
    (run : Run roundStep condition start history state) : ScoresKept start state :=
  run.invariant (.refl start) fun known _ success => known.trans (roundStep_scoresKept success)

/-- The round counts its scored entries, and its capacity bounds the count. -/
structure Tallied (ledger : RoundLedger) : Prop where
  counted : ledger.round.scoredCount = ledger.scoredEntries.length
  capacity : ledger.round.maxParticipants = roundCapacity
  seated : ledger.round.participantCount ≤ roundCapacity

/-- Scored entries are entries of the round. -/
theorem scoredEntries_sublist (ledger : RoundLedger)
    : ledger.scoredEntries.Sublist ledger.roundEntries :=
  ledger.entries.keysWhere_sublist fun _ both => (Bool.and_eq_true_iff.mp both).1

/-- No more entries are scored than took part. -/
theorem Tallied.bounded (tallied : Tallied ledger) (sound : Sound ledger)
    : ledger.round.scoredCount ≤ ledger.round.participantCount := by
  rw [tallied.counted, sound.counted]
  exact (scoredEntries_sublist ledger).length_le

/-- As many scores as participants means that every entry is scored. -/
theorem Tallied.allScored (tallied : Tallied ledger) (sound : Sound ledger)
    (complete : ledger.round.scoredCount = ledger.round.participantCount)
    : AllScored ledger := by
  refine ⟨sound.counted.symm, fun {key entry} found own => ?_⟩
  have same : ledger.scoredEntries = ledger.roundEntries := by
    apply (scoredEntries_sublist ledger).eq_of_length
    rw [← tallied.counted, complete, sound.counted]
  have member : key ∈ ledger.scoredEntries := by
    rw [same]
    exact mem_roundEntries.mpr ⟨entry, found, own⟩
  obtain ⟨other, present, both⟩ := Store.mem_keysWhere.mp member
  cases found.symm.trans present
  exact (Bool.and_eq_true_iff.mp both).2

theorem RoundLedger.Opened.tallied (opened : ledger.Opened) : Tallied ledger := by
  have sound := opened.sound
  obtain ⟨roundId, now, targets, _, round⟩ := opened.round
  have unentered : ledger.scoredEntries.length ≤ 0 := by
    apply (scoredEntries_sublist ledger).length_le.trans
    rw [← sound.counted, round]
    exact le_rfl
  constructor
  · rw [Nat.le_zero.mp unentered, round]
    rfl
  · rw [round]
    rfl
  · rw [round]
    exact Nat.zero_le _

/-- A round with the same key and entries has the same scored entries. -/
theorem scoredEntries_congr (key : after.round.key = ledger.round.key)
    (entries : after.entries = ledger.entries) : after.scoredEntries = ledger.scoredEntries := by
  rw [RoundLedger.scoredEntries, RoundLedger.scoredEntries, key, entries]

/-- Writing one entry moves the number of scored entries by what it scores. -/
theorem length_scoredEntries_insert {entryKey : Pubkey} {written : CompetitionEntry}
    (key : after.round.key = ledger.round.key)
    (entries : after.entries = ledger.entries.insert entryKey written)
    : after.scoredEntries.length
        + ((ledger.entries.lookup entryKey).any fun entry =>
            entry.round == ledger.round.key && entry.scored).toNat
      = ledger.scoredEntries.length
        + (written.round == ledger.round.key && written.scored).toNat := by
  rw [RoundLedger.scoredEntries, RoundLedger.scoredEntries, key, entries]
  exact Store.length_keysWhere_insert _ _ _ _

/-- The count follows the scored entries at every accepted instruction: it is bumped exactly
when an entry without a score receives one.
-/
theorem Tallied.counted_of_step (tallied : Tallied ledger) (sound : Sound ledger)
    (success : roundStep ledger submission = .ok after)
    : after.round.scoredCount = after.scoredEntries.length := by
  have key := (roundStep_advanced success).key
  have unchanged (entries : after.entries = ledger.entries)
      (count : after.round.scoredCount = ledger.round.scoredCount)
      : after.round.scoredCount = after.scoredEntries.length := by
    rw [count, scoredEntries_congr key entries, tallied.counted]
  have written {entryKey : Pubkey} {written : CompetitionEntry}
      (entries : after.entries = ledger.entries.insert entryKey written)
      (same
        : ((ledger.entries.lookup entryKey).any fun entry =>
            entry.round == ledger.round.key && entry.scored)
          = (written.round == ledger.round.key && written.scored))
      (count : after.round.scoredCount = ledger.round.scoredCount)
      : after.round.scoredCount = after.scoredEntries.length := by
    have length := length_scoredEntries_insert key entries
    rw [same] at length
    rw [count, tallied.counted]
    omega
  cases roundStep_change success with
  | kept entries round => exact unchanged entries (by rw [round])
  | entered asked checks entries round =>
      exact written entries (by simp [checks.unused, newEntry]) (by rw [round])
  | closed opened entries round => exact unchanged entries (by rw [round])
  | finalized closed entries round => exact unchanged entries (by rw [round])
  | attempted attempt entries round =>
      obtain ⟨_, _, _, rfl⟩ := attempt.later
      exact written entries (by simp [attempt.found]) (by rw [round])
  | @scored entryKey entry score nonce found own unscored entries round =>
      have length := length_scoredEntries_insert key entries
      have listed : (entry.round == ledger.round.key) = true := beq_iff_eq.mpr own
      simp only [found, Option.any_some, unscored, Bool.and_false, Bool.toNat_false,
        Nat.add_zero, scoredEntry, listed, Bool.and_true, Bool.toNat_true] at length
      have seated := (tallied.bounded sound).trans tallied.seated
      have small : roundCapacity < u16Max := by decide
      rw [length, ← tallied.counted, round]
      change min u16Max (ledger.round.scoredCount + 1) = ledger.round.scoredCount + 1
      omega
  | released asked checks entries round =>
      exact written entries (by simp [checks.found]) (by rw [round])
  | revealed asked entries round => exact unchanged entries (by rw [round]; rfl)
  | elsewhere unused foreign entries round =>
      exact written entries (by simp [unused, foreign]) (by rw [round])

/-- Every accepted instruction keeps the count and the capacity. -/
theorem Tallied.step (tallied : Tallied ledger) (sound : Sound ledger)
    (success : roundStep ledger submission = .ok after) : Tallied after := by
  have unchanged (capacity : after.round.maxParticipants = ledger.round.maxParticipants)
      (participants : after.round.participantCount = ledger.round.participantCount)
      : Tallied after :=
    ⟨tallied.counted_of_step sound success, capacity.trans tallied.capacity,
      participants.trans_le tallied.seated⟩
  cases roundStep_change success with
  | entered asked checks entries round =>
      have room := checks.capacity
      rw [tallied.capacity] at room
      refine ⟨tallied.counted_of_step sound success, ?_, ?_⟩
      · rw [round]
        exact tallied.capacity
      · rw [round]
        exact room
  | kept entries round => exact unchanged (by rw [round]) (by rw [round])
  | closed opened entries round => exact unchanged (by rw [round]) (by rw [round])
  | finalized closed entries round => exact unchanged (by rw [round]) (by rw [round])
  | attempted attempt entries round => exact unchanged (by rw [round]) (by rw [round])
  | scored found own unscored entries round => exact unchanged (by rw [round]) (by rw [round])
  | released asked checks entries round => exact unchanged (by rw [round]) (by rw [round])
  | revealed asked entries round =>
      exact unchanged (by rw [round, revealedRound]) (by rw [round, revealedRound])
  | elsewhere unused foreign entries round => exact unchanged (by rw [round]) (by rw [round])

/-- A round is tallied throughout every run. -/
theorem tallied_of_run {condition : RoundLedger → RoundSubmission → Prop} {start : RoundLedger}
    (opened : start.Opened) {history : List RoundSubmission} {state : RoundLedger}
    (run : Run roundStep condition start history state) : Tallied state :=
  run.invariant_with (fun run => sound_of_run opened run) opened.tallied
    fun sound tallied _ success => tallied.step sound success

--------------------------------------------------------------------------------
-- The gate of the reveal
--------------------------------------------------------------------------------

/-- A reveal that has begun found the round over and all its entries scored. -/
def GateHeld (ledger : RoundLedger) : Prop :=
  ledger.bracket.isSome ∨ ledger.tier1.isSome
    → ledger.round.status ≠ .opened ∧ AllScored ledger

/-- Once a round is over, scored entries are all it ever has. -/
theorem AllScored.step (all : AllScored ledger) (sound : Sound ledger)
    (ended : ledger.round.status ≠ .opened)
    (success : roundStep ledger submission = .ok after) : AllScored after := by
  have key := (roundStep_advanced success).key
  refine ⟨(sound.step success).counted.symm, fun {address entry} found own => ?_⟩
  rw [key] at own
  have known (present : ledger.entries.lookup address = some entry) : entry.scored :=
    all.scored present own
  have written {entryKey : Pubkey} {written : CompetitionEntry}
      (entries : after.entries = ledger.entries.insert entryKey written)
      (scored : written.round = ledger.round.key → written.scored) : entry.scored := by
    rw [entries] at found
    rcases Store.lookup_insert_eq_some.mp found with ⟨_, rfl⟩ | ⟨_, found⟩
    · exact scored own
    · exact known found
  cases roundStep_change success with
  | kept entries round => exact known (entries ▸ found)
  | entered asked checks entries round => exact absurd checks.opened ended
  | closed opened entries round => exact known (entries ▸ found)
  | finalized closed entries round => exact known (entries ▸ found)
  | attempted attempt entries round =>
      obtain ⟨_, _, _, rfl⟩ := attempt.later
      have scored := all.scored attempt.found
      exact written entries scored
  | scored found own unscored entries round => exact written entries fun _ => rfl
  | released asked checks entries round =>
      have scored := all.scored checks.found
      exact written entries scored
  | revealed asked entries round => exact known (entries ▸ found)
  | elsewhere unused foreign entries round =>
      exact written entries fun own => absurd own foreign

/-- A reveal begins at a pinned partition only. -/
theorem revealStep_begins {ledger after : RevealLedger} {submission : Submission}
    (success : revealStep ledger submission = .ok after)
    (begun : after.bracket.isSome ∨ after.tier1.isSome)
    : (ledger.bracket.isSome ∨ ledger.tier1.isSome)
      ∨ PinChecks submission.env ledger.round := by
  obtain ⟨env, instruction⟩ := submission
  cases instruction with
  | initBracket shardSizes shardBounds shardCount =>
      exact .inr (initBracket_eq_ok.mp success).1
  | initTier1Bracket shardSizes shardBounds shardCount =>
      exact .inr (initTier1Bracket_eq_ok.mp success).1
  | queueShardReveal computationOffset shardIndex accounts =>
      obtain ⟨_, _, checks, _⟩ := queueShardReveal_eq_ok.mp success
      exact .inl (.inl (by simp [checks.found]))
  | collectShardWinners shardIndex accounts =>
      obtain ⟨_, _, _, _, checks, _⟩ := collectShardWinners_eq_ok.mp success
      exact .inl (.inl (by simp [checks.found]))
  | applyBracketResult resultIndex =>
      obtain ⟨_, _, _, checks, _⟩ := applyBracketResult_eq_ok.mp success
      exact .inl (.inl (by simp [checks.found]))
  | closeTier1Bracket =>
      obtain ⟨⟨_, found⟩, _⟩ := closeTier1Bracket_eq_ok.mp success
      exact .inl (.inr (by simp [found]))
  | queueTier1ShardReveal computationOffset shardIndex accounts =>
      obtain ⟨_, _, checks, _⟩ := queueTier1ShardReveal_eq_ok.mp success
      exact .inl (.inr (by simp [checks.found]))
  | collectTier1Winners shardIndex accounts =>
      obtain ⟨_, _, _, _, checks, _⟩ := collectTier1Winners_eq_ok.mp success
      exact .inl (.inr (by simp [checks.found]))
  | promoteTier1 =>
      obtain ⟨_, checks, _⟩ := promoteTier1_eq_ok.mp success
      exact .inl (.inr (by simp [checks.found]))
  | queueSemifinalReveal computationOffset semiIndex accounts =>
      obtain ⟨_, _, _, checks, _⟩ := queueSemifinalReveal_eq_ok.mp success
      exact .inl (.inl (by simp [checks.found]))
  | collectSemifinalWinners semiIndex =>
      obtain ⟨_, _, _, _, _, _, checks, _⟩ := collectSemifinalWinners_eq_ok.mp success
      exact .inl (.inl (by simp [checks.found]))
  | revealTop3V5Callback computationOffset verified =>
      obtain ⟨_, _, _, _, _, rfl⟩ := revealTop3V5Callback_eq_ok.mp success
      exact .inl begun

/-- Every accepted instruction keeps the gate: a partition is pinned over complete scores, and
they stay complete.
-/
theorem GateHeld.step (held : GateHeld ledger) (sound : Sound ledger)
    (tallied : Tallied ledger) (success : roundStep ledger submission = .ok after)
    : GateHeld after := by
  intro begun
  have keep (ended : ledger.round.status ≠ .opened) (all : AllScored ledger)
      : after.round.status ≠ .opened ∧ AllScored after :=
    ⟨(roundStep_advanced success).closed ended, all.step sound ended success⟩
  rcases roundStep_reveal_or_beside success with
    ⟨env, instruction, revealed, rfl, accepted, rfl⟩ | ⟨_, kept⟩
  · rcases revealStep_begins accepted begun with earlier | pinned
    · obtain ⟨ended, all⟩ := held earlier
      exact keep ended all
    · refine keep ?_ (tallied.allScored sound pinned.scored)
      rcases pinned.ended with closed | finalized <;> simp [*]
  · rw [kept.bracket, kept.tier1] at begun
    obtain ⟨ended, all⟩ := held begun
    exact keep ended all

/-- The gate holds throughout every run. -/
theorem gateHeld_of_run {condition : RoundLedger → RoundSubmission → Prop}
    {start : RoundLedger} (opened : start.Opened) {history : List RoundSubmission}
    {state : RoundLedger} (run : Run roundStep condition start history state)
    : GateHeld state := by
  have always {history : List RoundSubmission} {reached : RoundLedger}
      (run : Run roundStep condition start history reached) : Sound reached ∧ Tallied reached :=
    ⟨sound_of_run opened run, tallied_of_run opened run⟩
  refine run.invariant_with always ?_ fun known held _ success =>
    held.step known.1 known.2 success
  intro begun
  simp [opened.unstarted.bracket, opened.unstarted.tier1] at begun

/-- The instructions that pin a partition, collect a reveal or apply its result. -/
def PinsOrCollects : RevealInstruction → Prop
  | .initBracket _ _ _ => True
  | .initTier1Bracket _ _ _ => True
  | .promoteTier1 => True
  | .collectShardWinners _ _ => True
  | .collectTier1Winners _ _ => True
  | .collectSemifinalWinners _ => True
  | .applyBracketResult _ => True
  | _ => False

/-- What scoring promises in a state. -/
structure ScoredOnce (state : RoundLedger) : Prop where
  counted : state.round.scoredCount = state.scoredEntries.length
  bounded : state.round.scoredCount ≤ state.round.participantCount
  lasting : ∀ {more later}, Run roundStep anyAction state more later → ScoresKept state later
  gated : ∀ {env instruction after}, PinsOrCollects instruction
    → roundStep state ⟨env, .reveal instruction⟩ = .ok after
    → AllScored state

/-- Over every order of queueing, cancelling and delivering scores, the round counts each scored
entry once, scores never change, and no partition is pinned and no reveal collected before every
participant's entry is scored.
-/
theorem scored_exactly_once {start : RoundLedger} (opened : start.Opened)
    {history : List RoundSubmission} {state : RoundLedger}
    (run : Run roundStep anyAction start history state) : ScoredOnce state := by
  have sound := sound_of_run opened run
  have tallied := tallied_of_run opened run
  have held := gateHeld_of_run opened run
  refine ⟨tallied.counted, tallied.bounded sound, fun later => scoresKept_of_run later, ?_⟩
  intro env instruction after advances success
  obtain ⟨revealed, accepted, _⟩ := bind_eq_ok.mp success
  cases instruction with
  | initBracket shardSizes shardBounds shardCount =>
      exact tallied.allScored sound (initBracket_eq_ok.mp accepted).1.scored
  | initTier1Bracket shardSizes shardBounds shardCount =>
      exact tallied.allScored sound (initTier1Bracket_eq_ok.mp accepted).1.scored
  | promoteTier1 =>
      obtain ⟨_, checks, _⟩ := promoteTier1_eq_ok.mp accepted
      exact (held (.inr (by simp [checks.found]))).2
  | collectShardWinners shardIndex accounts =>
      obtain ⟨_, _, _, _, checks, _⟩ := collectShardWinners_eq_ok.mp accepted
      exact (held (.inl (by simp [checks.found]))).2
  | collectTier1Winners shardIndex accounts =>
      obtain ⟨_, _, _, _, checks, _⟩ := collectTier1Winners_eq_ok.mp accepted
      exact (held (.inr (by simp [checks.found]))).2
  | collectSemifinalWinners semiIndex =>
      obtain ⟨_, _, _, _, _, _, checks, _⟩ := collectSemifinalWinners_eq_ok.mp accepted
      exact (held (.inl (by simp [checks.found]))).2
  | applyBracketResult resultIndex =>
      obtain ⟨_, _, _, checks, _⟩ := applyBracketResult_eq_ok.mp accepted
      exact (held (.inl (by simp [checks.found]))).2
  | _ => exact advances.elim

/-- Entry 1 is queued, timed out and queued again; both computations answer, the first one late,
and then once more.
-/
def retriedScript : List RoundSubmission :=
  [playerEnters 1, playerEnters 2, authorityAt 0 .closeRound,
    authorityAt 0 (.queueScoreEntry 61 1 (sampleFlowerKey 1)),
    authorityAt scoreTimeoutSeconds (.cancelStuckScore 1),
    authorityAt scoreTimeoutSeconds (.queueScoreEntry 71 1 (sampleFlowerKey 1)),
    authorityAt scoreTimeoutSeconds (.scoreEntryV2Callback 71 (some (5, 3))),
    authorityAt scoreTimeoutSeconds (.scoreEntryV2Callback 61 (some (7, 4))),
    authorityAt scoreTimeoutSeconds (.scoreEntryV2Callback 71 (some (5, 3)))]

/-- The retried entry is counted once. -/
theorem retriedScript_counted
    : ∃ state,
        Run roundStep anyAction (sampleRound [1, 2]) retriedScript state
        ∧ state.round.scoredCount = 1
        ∧ ScoredOnce state := by
  have replayed : (replay roundStep anyAction (sampleRound [1, 2]) retriedScript).any
      fun state => state.round.scoredCount == 1 := by
    decide +kernel
  obtain ⟨state, run, counted⟩ := Run.of_replay_any replayed
  exact ⟨state, run, eq_of_beq counted, scored_exactly_once (sampleRound_opened _) run⟩

end SecretGarden.Settlement
