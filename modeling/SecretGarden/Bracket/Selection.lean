import SecretGarden.Bracket.Freshness
import SecretGarden.Bracket.Placement
import SecretGarden.Bracket.WellFormed

/-! Whether two-tier selection can be bypassed.
Over a promoted bracket the semifinal instructions take their keys from the sorted tier-1
winners; the single-tier collect takes whatever entries it is given.
-/

namespace SecretGarden.Bracket

open Foundation

/-- Over a promoted bracket, the single-tier collect is only given sliced winners. -/
def CollectsWinners (state : JournaledReveal) (submission : Submission) : Prop :=
  match submission.instruction with
  | .collectShardWinners _ accounts =>
      ∀ winners ∈ state.journal.sliced, ∀ account ∈ accounts, account ∈ winners
  | _ => True

instance (state : JournaledReveal) (submission : Submission)
    : Decidable (CollectsWinners state submission) := by
  unfold CollectsWinners
  generalize submission.instruction = instruction
  rcases instruction <;> infer_instance

/-- Every recorded finalist of a promoted bracket is one of the sliced winners. -/
def FinalistsSelected (state : JournaledReveal) : Prop :=
  ∀ winners ∈ state.journal.sliced, ∀ bracket ∈ state.system.bracket,
    ∀ key ∈ bracket.activeFinalists, key ∈ winners

/-- Resolved keys are among the keys resolved from. -/
theorem mem_of_pickWinners {keys picked : List Pubkey} {size : Nat} {slots : List Nat}
    (resolved : pickWinners keys size slots = .ok picked) {key : Pubkey} (member : key ∈ picked)
    : key ∈ keys.take size := by
  obtain ⟨ranged, named⟩ := pickWinners_eq_ok.mp resolved
  have present : some key ∈ slots.map (keys[·]?) := by
    rw [named]
    exact List.mem_map_of_mem member
  obtain ⟨slot, listed, found⟩ := List.mem_map.mp present
  apply List.mem_of_getElem? (i := slot)
  rw [List.getElem?_take_of_lt (ranged slot listed)]
  exact found

/-- The winners written by an apply are recorded finalists. -/
theorem mem_of_resolveTop {bracket : BracketState} {result : RevealTop3V3Result}
    {resultIndex : Nat} {top : List Pubkey}
    (resolved : resolveTop bracket result resultIndex = .ok top) {key : Pubkey}
    (member : key ∈ top)
    : key ∈ bracket.activeFinalists := by
  by_cases one : bracket.shardCount = 1
  · obtain ⟨_, _, rfl⟩ := (resolveTop_single one).mp resolved
    exact List.mem_of_mem_take member
  · obtain ⟨_, _, picked⟩ := (resolveTop_many one).mp resolved
    exact List.mem_of_mem_take (mem_of_pickWinners picked member)

/-- Queueing a run adds no finalists. -/
theorem QueueChecks.mem_afterQueue {env : Env} {ledger : RevealLedger} {shardIndex : Nat}
    {accounts : List Pubkey} {bracket : BracketState} {run : List Contender}
    (checks : QueueChecks env ledger shardIndex accounts bracket run)
    (counted : bracket.finalistCount ≤ maxFinalists)
    {key : Pubkey} (member : key ∈ (afterQueue bracket shardIndex accounts).activeFinalists)
    : key ∈ bracket.activeFinalists := by
  by_cases final : shardIndex = finalShardIndex
  · have ordered := checks.finalRun final
    rw [final, ordered.activeFinalists_afterQueue counted] at member
    exact ordered.members key member
  · rw [afterQueue, if_neg final] at member
    exact member

/-- Recording keys adds just these keys. -/
theorem mem_of_push {bracket recorded : BracketState} {keys : List Pubkey} {shardIndex : Nat}
    (counted : bracket.finalistCount ≤ maxFinalists)
    (pushed : pushFinalists keys bracket = .ok recorded)
    {key : Pubkey} (member : key ∈ (markCollected recorded shardIndex).activeFinalists)
    : key ∈ bracket.activeFinalists ∨ key ∈ keys := by
  change key ∈ recorded.activeFinalists at member
  rwa [activeFinalists_of_push counted pushed, List.mem_append] at member

/-- The keys a semifinal collect resolves are sliced winners. -/
theorem mem_of_semifinal {winners picked : List Pubkey} {tier1 : Tier1State}
    {bracket : BracketState} {semiIndex size : Nat} {slots : List Nat}
    (sorted : SortedWinners tier1) (active : winners = tier1.activeWinners)
    (sliced : SlicedInto bracket winners)
    (inside : semiIndex < bracket.shardCount)
    (declared : bracket.shardSizes[semiIndex]? = some size)
    (resolved : pickWinners (tier1.winners.toList.drop (storedStart bracket semiIndex)) size
      slots = .ok picked)
    {key : Pubkey} (member : key ∈ picked)
    : key ∈ winners := by
  subst active
  have listed := mem_of_pickWinners resolved member
  rw [← Option.some.inj ((sliced.size_slice inside).symm.trans declared),
    sliced.take_stored sorted inside] at listed
  exact winnersSlice_sublist.subset listed

variable {state : JournaledReveal} {after : RevealLedger} {journal : Journal}

/-- Selection survives a change of finalists that adds sliced winners only. -/
theorem FinalistsSelected.refill (selected : FinalistsSelected state)
    {bracket recorded : BracketState}
    (found : state.system.bracket = some bracket) (stored : after.bracket = some recorded)
    (sliced : journal.sliced = state.journal.sliced)
    (added : ∀ key ∈ recorded.activeFinalists,
      key ∈ bracket.activeFinalists ∨ ∀ winners ∈ state.journal.sliced, key ∈ winners)
    : FinalistsSelected ⟨after, journal⟩ := by
  intro winners slices held holds key member
  rw [Option.mem_def, sliced] at slices
  rw [Option.mem_def, stored] at holds
  cases holds
  rcases added key member with old | new
  · exact selected winners slices bracket found key old
  · exact new winners slices

/-- Selection does not look beyond the bracket. -/
theorem FinalistsSelected.quiet (selected : FinalistsSelected state)
    (bracket : after.bracket = state.system.bracket)
    (sliced : journal.sliced = state.journal.sliced)
    : FinalistsSelected ⟨after, journal⟩ := by
  intro winners slices held holds
  exact selected winners (sliced ▸ slices) held (bracket ▸ holds)

/-- Accepted instructions keep the selection, by cases on the instruction: a fresh bracket
has no finalists, and collects add sliced winners.
-/
theorem FinalistsSelected.step (selected : FinalistsSelected state) (formed : WellFormed state)
    {submission : Submission}
    (collects : CollectsWinners state submission)
    (success : revealStep state.system submission = .ok after)
    : FinalistsSelected ⟨after, note state.system submission state.journal⟩ := by
  obtain ⟨env, instruction⟩ := submission
  cases instruction with
  | initBracket shardSizes shardBounds shardCount =>
      rintro winners ⟨⟩
  | promoteTier1 =>
      obtain ⟨tier1, _, rfl⟩ := promoteTier1_eq_ok.mp success
      rintro winners _ bracket ⟨⟩ key member
      cases member
  | initTier1Bracket shardSizes shardBounds shardCount =>
      obtain ⟨_, _, _, _, _, rfl⟩ := initTier1Bracket_eq_ok.mp success
      exact selected.quiet rfl rfl
  | closeTier1Bracket =>
      obtain ⟨_, _, _, rfl⟩ := closeTier1Bracket_eq_ok.mp success
      exact selected.quiet rfl rfl
  | queueShardReveal computationOffset shardIndex accounts =>
      obtain ⟨bracket, run, checks, _, rfl⟩ := queueShardReveal_eq_ok.mp success
      refine selected.refill checks.found rfl rfl fun key member => Or.inl ?_
      exact checks.mem_afterQueue (formed.counted checks.found) member
  | queueTier1ShardReveal computationOffset shardIndex accounts =>
      obtain ⟨_, _, _, _, rfl⟩ := queueTier1ShardReveal_eq_ok.mp success
      exact selected.quiet rfl rfl
  | queueSemifinalReveal computationOffset semiIndex accounts =>
      obtain ⟨_, _, _, _, _, rfl⟩ := queueSemifinalReveal_eq_ok.mp success
      exact selected.quiet rfl rfl
  | collectShardWinners shardIndex accounts =>
      obtain ⟨bracket, result, run, recorded, checks, recording, rfl⟩ :=
        collectShardWinners_eq_ok.mp success
      obtain ⟨picked, resolved, pushed⟩ := recordFinalists_eq_ok.mp recording
      refine selected.refill checks.found rfl rfl fun key member => ?_
      rcases mem_of_push (formed.counted checks.found) pushed member with old | new
      · exact Or.inl old
      · exact Or.inr fun winners slices =>
          collects winners slices key (List.mem_of_mem_take (mem_of_pickWinners resolved new))
  | collectSemifinalWinners semiIndex =>
      obtain ⟨tier1, bracket, result, size, picked, recorded, checks, resolved, pushed, rfl⟩ :=
        collectSemifinalWinners_eq_ok.mp success
      refine selected.refill checks.found rfl rfl fun key member => ?_
      rcases mem_of_push (formed.counted checks.found) pushed member with old | new
      · exact Or.inl old
      · refine Or.inr fun winners slices => ?_
        obtain ⟨_, _, sorted⟩ := formed.tier1 checks.foundTier1
        have active := formed.promoted checks.foundTier1 checks.promoted
        exact mem_of_semifinal sorted (Option.some.inj (slices.symm.trans active))
          (formed.sliced checks.found slices) checks.indexed checks.size resolved new
  | collectTier1Winners shardIndex accounts =>
      obtain ⟨_, _, _, _, _, _, rfl⟩ := collectTier1Winners_eq_ok.mp success
      exact selected.quiet rfl rfl
  | applyBracketResult resultIndex =>
      obtain ⟨bracket, result, top, checks, _, rfl⟩ := applyBracketResult_eq_ok.mp success
      exact selected.refill checks.found rfl rfl fun key member => Or.inl member
  | revealTop3V5Callback computationOffset verified =>
      obtain ⟨_, _, _, _, _, rfl⟩ := revealTop3V5Callback_eq_ok.mp success
      exact selected.quiet rfl (state.journal.deliver_sliced _)

/-- The selection holds in every state of a run whose collects meet the condition. -/
theorem finalistsSelected_of_run {start : RevealLedger} (unstarted : start.Unstarted)
    {history : List Submission} {state : JournaledReveal}
    (run : Run journaledReveal CollectsWinners start.journaled history state)
    : WellFormed state ∧ FinalistsSelected state := by
  apply run.invariant
  · refine ⟨unstarted.wellFormed, ?_⟩
    rintro winners ⟨⟩
  · rintro before submission after ⟨formed, selected⟩ collects success
    obtain ⟨accepted, noted⟩ := journaled_eq_ok.mp success
    have shape := formed.step accepted
    have kept := selected.step formed collects accepted
    rw [← noted] at shape kept
    exact ⟨shape, kept⟩

/-- Where single-tier collects over a promoted bracket are given sliced winners only, every
recorded finalist and every winner an apply writes is a sliced winner.
-/
theorem selection_not_bypassed {start : RevealLedger} (unstarted : start.Unstarted)
    {history : List Submission} {state : JournaledReveal}
    (run : Run journaledReveal CollectsWinners start.journaled history state)
    {winners : List Pubkey} (promoted : state.journal.sliced = some winners)
    : (∀ bracket, state.system.bracket = some bracket
        → ∀ key ∈ bracket.activeFinalists, key ∈ winners)
      ∧ ∀ env resultIndex after,
          applyBracketResult env resultIndex state.system = .ok after
          → ∀ key ∈ after.round.tops, key ≠ 0 → key ∈ winners := by
  have selected := (finalistsSelected_of_run unstarted run).2
  refine ⟨fun bracket found => selected winners promoted bracket found, ?_⟩
  intro env resultIndex after success key member named
  obtain ⟨bracket, result, top, checks, resolved, rfl⟩ := applyBracketResult_eq_ok.mp success
  apply selected winners promoted bracket checks.found key
  apply mem_of_resolveTop resolved
  have written : ∃ place : Nat, key = (top[place]?).getD 0 := by
    simp only [revealedRound, CompetitionRound.tops, List.mem_cons, List.not_mem_nil,
      or_false] at member
    rcases member with rfl | rfl | rfl
    exacts [⟨0, rfl⟩, ⟨1, rfl⟩, ⟨2, rfl⟩]
  obtain ⟨place, rfl⟩ := written
  cases found : top[place]? with
  | none => simp [found] at named
  | some key => exact List.mem_of_getElem? found

--------------------------------------------------------------------------------
-- A round of fifty-four entries
--------------------------------------------------------------------------------

/-- Entries `1`, `12` and `13` win the first tier-1 shard. -/
def bypassScores : List Nat :=
  [9, 5, 5, 5, 5, 5, 5, 5, 5, 5, 5, 9, 9] ++ List.replicate 41 0

/-- Five tier-1 shards are revealed, collected and promoted into two semifinals of seven. -/
def promoteFiftyFour : List RevealInstruction :=
  let sizes : List Nat := [13, 13, 13, 13, 2]
  let shard (k : Nat) : List Pubkey :=
    (List.range (sizes[k]?.getD 0)).map (· + 13 * k + 1)
  .initTier1Bracket
      (#v[13, 13, 13, 13, 2] ++ Vector.replicate 12 0)
      (#v[1, 14, 27, 40, 53] ++ Vector.replicate 12 0) 5
    :: (List.range 5).flatMap (fun k =>
      [.queueTier1ShardReveal 51 k (shard k), .revealTop3V5Callback 51 true,
        .collectTier1Winners k (shard k)])
    ++ [.promoteTier1]

/-- Collects the first semifinal from its slice of the winners. -/
def semifinalScript : List Submission :=
  List.map authoritySubmits <|
    promoteFiftyFour
      ++ [.queueSemifinalReveal 51 0 [1, 12, 13, 14, 15, 16, 27],
        .revealTop3V5Callback 51 true, .collectSemifinalWinners 0]

/-- Collects the first semifinal as an ordinary shard over entries `1` to `7`. -/
def bypassScript : List Submission :=
  List.map authoritySubmits <|
    promoteFiftyFour
      ++ [.queueShardReveal 51 0 [1, 2, 3, 4, 5, 6, 7], .revealTop3V5Callback 51 true,
        .collectShardWinners 0 [1, 2, 3, 4, 5, 6, 7]]

/-- The semifinal instructions record sliced winners. -/
theorem semifinals_not_bypassed
    : ∃ state winners bracket,
        Run journaledReveal CollectsWinners (scoredRound bypassScores).journaled
          semifinalScript state
        ∧ state.journal.sliced = some winners
        ∧ state.system.bracket = some bracket
        ∧ bracket.activeFinalists = [1, 12, 13]
        ∧ ∀ key ∈ bracket.activeFinalists, key ∈ winners := by
  have replayed : (replay journaledReveal CollectsWinners
      (scoredRound bypassScores).journaled semifinalScript).any fun state =>
        state.journal.sliced.any fun _ => state.system.bracket.any fun bracket =>
          decide (bracket.activeFinalists = [1, 12, 13]) := by
    decide +kernel
  obtain ⟨state, run, checked⟩ := Run.of_replay_any replayed
  simp only [Option.any_eq_true, decide_eq_true_eq] at checked
  obtain ⟨winners, promoted, bracket, found, recorded⟩ := checked
  exact ⟨state, winners, bracket, run, promoted, found, recorded,
    (selection_not_bypassed (scoredRound_unstarted _) run promoted).1 bracket found⟩

/-- The single-tier collect records finalists that lost their tier-1 shard. -/
theorem bypass_records_losers
    : ¬ ∀ (start : RevealLedger), start.Unstarted
        → ∀ (history : List Submission) (state : JournaledReveal),
          Run journaledReveal anyAction start.journaled history state
          → ∀ winners, state.journal.sliced = some winners
            → ∀ bracket, state.system.bracket = some bracket
              → ∀ key ∈ bracket.activeFinalists, key ∈ winners := by
  intro always
  have replayed : (replay journaledReveal anyAction (scoredRound bypassScores).journaled
      bypassScript).any fun state =>
        decide (state.journal.sliced.any fun winners =>
          state.system.bracket.any fun bracket =>
            bracket.activeFinalists.any fun key => !decide (key ∈ winners)) := by
    decide +kernel
  obtain ⟨state, run, checked⟩ := Run.of_replay_any replayed
  simp only [decide_eq_true_eq, Option.any_eq_true, List.any_eq_true, Bool.not_eq_true',
    decide_eq_false_iff_not] at checked
  obtain ⟨winners, promoted, bracket, found, key, recorded, lost⟩ := checked
  exact lost (always _ (scoredRound_unstarted _) _ _ run winners promoted bracket found key
    recorded)

end SecretGarden.Bracket
