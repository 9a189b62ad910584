import SecretGarden.Settlement.Frames

/-! The flowers pledged to the entries of a round. A submission pledges one, a release gives it
back once the round is over, and every other instruction keeps all pledges.
-/

namespace SecretGarden.Settlement

open Foundation SecretGarden.Bracket

variable {env : Env} {ledger after : RoundLedger} {submission : RoundSubmission}

/-- The flower of an entry of the round, and whether it was given back. -/
def RoundLedger.pledge (ledger : RoundLedger) (entryKey : Pubkey)
    : Option (FlowerKey × EntryStatus) :=
  (ledger.entries.lookup entryKey).bind fun entry =>
    if entry.round = ledger.round.key then some (entry.flowerRecord, entry.status) else none

theorem pledge_eq_some {entryKey : Pubkey} {flowerKey : FlowerKey} {status : EntryStatus}
    : ledger.pledge entryKey = some (flowerKey, status)
      ↔ ∃ entry,
          ledger.entries.lookup entryKey = some entry
          ∧ entry.round = ledger.round.key
          ∧ entry.flowerRecord = flowerKey
          ∧ entry.status = status := by
  simp [RoundLedger.pledge, Option.bind_eq_some_iff]

/-- Writing one entry moves its pledge only. -/
theorem pledge_insert {written : Pubkey} {entry : CompetitionEntry}
    (key : after.round.key = ledger.round.key)
    (entries : after.entries = ledger.entries.insert written entry) (entryKey : Pubkey)
    : after.pledge entryKey
      = if entryKey = written then
          if entry.round = ledger.round.key then some (entry.flowerRecord, entry.status) else none
        else ledger.pledge entryKey := by
  rw [RoundLedger.pledge, RoundLedger.pledge, entries, key, Store.lookup_insert_apply]
  split <;> rfl

/-- An entry that keeps its round, flower and status keeps its pledge. -/
theorem pledge_kept {written : Pubkey} {entry later : CompetitionEntry}
    (key : after.round.key = ledger.round.key)
    (entries : after.entries = ledger.entries.insert written later)
    (found : ledger.entries.lookup written = some entry) (round : later.round = entry.round)
    (flower : later.flowerRecord = entry.flowerRecord) (status : later.status = entry.status)
    (entryKey : Pubkey)
    : after.pledge entryKey = ledger.pledge entryKey := by
  rw [pledge_insert key entries]
  split
  · next here =>
      rw [here, RoundLedger.pledge, found, Option.bind_some, round, flower, status]
  · rfl

/-- The instructions of a round that take its flower as well. -/
def RoundInstruction.MovesPledge : RoundInstruction → Prop
  | .submitEntry _ _ _ _ => True
  | .releaseEntry _ _ => True
  | _ => False

/-- Every other instruction keeps all pledges, by cases on the change. -/
theorem roundStep_pledge (success : roundStep ledger submission = .ok after)
    (other : ¬ submission.instruction.MovesPledge) (entryKey : Pubkey)
    : after.pledge entryKey = ledger.pledge entryKey := by
  have key := (roundStep_advanced success).key
  have unchanged (entries : after.entries = ledger.entries)
      : after.pledge entryKey = ledger.pledge entryKey := by
    rw [RoundLedger.pledge, RoundLedger.pledge, entries, key]
  cases roundStep_change success with
  | kept entries round => exact unchanged entries
  | entered asked => exact absurd (by rw [asked]; trivial) other
  | closed opened entries round => exact unchanged entries
  | finalized closed entries round => exact unchanged entries
  | attempted attempt entries round =>
      obtain ⟨_, _, _, rfl⟩ := attempt.later
      exact pledge_kept key entries attempt.found rfl rfl rfl entryKey
  | scored found own unscored entries round =>
      exact pledge_kept key entries found rfl rfl rfl entryKey
  | released asked => exact absurd (by rw [asked]; trivial) other
  | revealed asked entries round => exact unchanged entries
  | elsewhere unused foreign entries round =>
      rw [pledge_insert key entries, if_neg foreign]
      split
      · next here => rw [here, RoundLedger.pledge, unused, Option.bind_none]
      · rfl

/-- A submission makes a new pledge. -/
theorem submitEntry_pledge {entryKey playerSgdAta : Pubkey} {flowerKey : FlowerKey}
    {flower : FlowerRecord}
    (success
      : submitEntry env entryKey flowerKey flower playerSgdAta ledger = .ok after)
    : ledger.pledge entryKey = none
      ∧ ∀ other, after.pledge other
          = if other = entryKey then some (flowerKey, .submitted)
            else ledger.pledge other := by
  obtain ⟨checks, frame⟩ := submitEntry_success success
  refine ⟨by rw [RoundLedger.pledge, checks.unused, Option.bind_none], fun other => ?_⟩
  have key : after.round.key = ledger.round.key := by
    rw [frame]
    rfl
  have own : (newEntry env ledger flowerKey flower).round = ledger.round.key := rfl
  rw [pledge_insert key (by rw [frame]), if_pos own]
  rfl

/-- A release gives back a pledged flower, once the round is over. -/
theorem releaseEntry_pledge {entryKey : Pubkey} {flowerKey : FlowerKey}
    (success : releaseEntry env entryKey flowerKey ledger = .ok after)
    : ledger.round.status = .finalized
      ∧ ledger.pledge entryKey = some (flowerKey, .submitted)
      ∧ ∀ other, after.pledge other
          = if other = entryKey then some (flowerKey, .released)
            else ledger.pledge other := by
  obtain ⟨entry, checks, rfl⟩ := releaseEntry_checked success
  refine ⟨checks.finalized, ?_, fun other => ?_⟩
  · exact pledge_eq_some.mpr ⟨entry, checks.found, checks.own, checks.flower, checks.submitted⟩
  · have key : ({ ledger with
        entries := ledger.entries.insert entryKey { entry with status := .released } }
          : RoundLedger).round.key = ledger.round.key := rfl
    rw [pledge_insert key rfl, if_pos checks.own, checks.flower]

/-- Only entries of a finalized round have given their flowers back. -/
def ReleasedAfter (ledger : RoundLedger) : Prop :=
  ∀ entryKey flowerKey,
    ledger.pledge entryKey = some (flowerKey, .released) → ledger.round.status = .finalized

theorem RoundLedger.Opened.releasedAfter (opened : ledger.Opened) : ReleasedAfter ledger := by
  intro entryKey flowerKey released
  obtain ⟨entry, found, own, _⟩ := pledge_eq_some.mp released
  exact absurd own (opened.unentered found)

theorem ReleasedAfter.step (known : ReleasedAfter ledger)
    (success : roundStep ledger submission = .ok after) : ReleasedAfter after := by
  have advanced := roundStep_advanced success
  have old {entryKey : Pubkey} {flowerKey : FlowerKey}
      (released : ledger.pledge entryKey = some (flowerKey, .released))
      : after.round.status = .finalized :=
    advanced.finalized (known _ _ released)
  intro entryKey flowerKey released
  by_cases moves : submission.instruction.MovesPledge
  · obtain ⟨env, instruction⟩ := submission
    cases instruction with
    | submitEntry submitted flowerKey flower playerSgdAta =>
        rw [(submitEntry_pledge success).2] at released
        split at released
        · cases released
        · exact old released
    | releaseEntry released flowerKey =>
        exact advanced.finalized (releaseEntry_pledge success).1
    | _ => exact moves.elim
  · rw [roundStep_pledge success moves] at released
    exact old released

end SecretGarden.Settlement
