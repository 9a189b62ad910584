import Mathlib.Order.Bounds.Basic
import SecretGarden.Foundation.Width
import SecretGarden.Settlement.Lifecycle

/-! When rounds end: always on the daily anchor, and the earliest one that leaves a round its
minimum length. Lateness of one opening is therefore not passed on to the next.
-/

namespace SecretGarden.Settlement

open Foundation

--------------------------------------------------------------------------------
-- The least solution
--------------------------------------------------------------------------------

/-- The end times a round opened at `now` may have. -/
def EndTimes (now : Int) : Set Int :=
  { t | t % secondsPerDay = roundAnchorUtcSeconds ∧ minRoundDurationSeconds ≤ t - now }

/-- An end time less than a day past the minimum length has no other before it. -/
theorem isLeast_endTimes {now t : Int} (anchored : t % secondsPerDay = roundAnchorUtcSeconds)
    (long : minRoundDurationSeconds ≤ t - now)
    (short : t - now < minRoundDurationSeconds + secondsPerDay)
    : IsLeast (EndTimes now) t := by
  refine ⟨⟨anchored, long⟩, fun other member => ?_⟩
  obtain ⟨same, distant⟩ := member
  by_contra earlier
  unfold secondsPerDay roundAnchorUtcSeconds minRoundDurationSeconds at *
  omega

/-- A round lasts its minimum length and less than a day more. -/
theorem roundEndTime_bounds (now : Int)
    : roundEndTime now % secondsPerDay = roundAnchorUtcSeconds
      ∧ minRoundDurationSeconds ≤ roundEndTime now - now
      ∧ roundEndTime now - now < minRoundDurationSeconds + secondsPerDay := by
  unfold roundEndTime secondsPerDay roundAnchorUtcSeconds minRoundDurationSeconds
  dsimp only
  split <;> split <;> omega

/-- A round ends after it was opened. -/
theorem lt_roundEndTime (now : Int) : now < roundEndTime now := by
  obtain ⟨_, long, _⟩ := roundEndTime_bounds now
  unfold minRoundDurationSeconds at long
  omega

/-- The earliest admissible end of a round is the one it gets. -/
theorem isLeast_roundEndTime (now : Int) : IsLeast (EndTimes now) (roundEndTime now) := by
  obtain ⟨anchored, long, short⟩ := roundEndTime_bounds now
  exact isLeast_endTimes anchored long short

/-- A round opened later does not end earlier: its end would have served the earlier one. -/
theorem roundEndTime_mono {earlier later : Int} (ordered : earlier ≤ later)
    : roundEndTime earlier ≤ roundEndTime later := by
  obtain ⟨anchored, long⟩ := (isLeast_roundEndTime later).1
  exact (isLeast_roundEndTime earlier).2 ⟨anchored, long.trans (Int.sub_le_sub_left ordered _)⟩

/-- Opening a round up to half a day after the end of the last one moves the end by a day. -/
theorem roundEndTime_next (opened : Int) {late : Int} (delayed : 0 ≤ late)
    (bounded : late ≤ minRoundDurationSeconds)
    : roundEndTime (roundEndTime opened + late) = roundEndTime opened + secondsPerDay := by
  obtain ⟨anchored, _, _⟩ := roundEndTime_bounds opened
  have next
      : IsLeast (EndTimes (roundEndTime opened + late)) (roundEndTime opened + secondsPerDay) := by
    apply isLeast_endTimes
    · rw [Int.add_emod_right, anchored]
    · unfold minRoundDurationSeconds secondsPerDay at *
      omega
    · unfold minRoundDurationSeconds secondsPerDay at *
      omega
  exact (isLeast_roundEndTime _).unique next

--------------------------------------------------------------------------------
-- In the program's integers
--------------------------------------------------------------------------------

/-- The end time as the program computes it, in signed 64-bit arithmetic. -/
def roundEndTimeI64 (now : Int) : Option Int := do
  let dayStart ← signed 64 (now - now % secondsPerDay)
  let anchor ← signed 64 (dayStart + roundAnchorUtcSeconds)
  let anchor ← if anchor ≤ now then signed 64 (anchor + secondsPerDay) else some anchor
  let remaining ← signed 64 (anchor - now)
  if remaining < minRoundDurationSeconds then signed 64 (anchor + secondsPerDay) else some anchor

/-- Where nothing overflows, the program computes the end time. -/
theorem roundEndTimeI64_eq_some {now t : Int} (computed : roundEndTimeI64 now = some t)
    : roundEndTime now = t := by
  simp only [roundEndTimeI64, bind, Option.bind_eq_some_iff] at computed
  obtain ⟨dayStart, day, anchor, first, rest⟩ := computed
  obtain rfl := signed_eq_some day
  obtain rfl := signed_eq_some first
  unfold roundEndTime
  dsimp only
  split at rest
  · next past =>
      simp only [Option.bind_eq_some_iff] at rest
      obtain ⟨later, future, remaining, left, last⟩ := rest
      obtain rfl := signed_eq_some future
      obtain rfl := signed_eq_some left
      rw [if_pos past]
      split at last
      · next near => rw [if_pos near, signed_eq_some last]
      · next far => rw [if_neg far, Option.some.inj last]
  · next ahead =>
      simp only [Option.bind_some, Option.bind_eq_some_iff] at rest
      obtain ⟨remaining, left, last⟩ := rest
      obtain rfl := signed_eq_some left
      rw [if_neg ahead]
      split at last
      · next near => rw [if_pos near, signed_eq_some last]
      · next far => rw [if_neg far, Option.some.inj last]

/-- Nothing overflows two days or more away from the ends of the type. -/
theorem roundEndTimeI64_of_inside {now : Int} (late : -i64Bound + 2 * secondsPerDay ≤ now)
    (early : now + 2 * secondsPerDay < i64Bound)
    : roundEndTimeI64 now = some (roundEndTime now) := by
  have inside {value : Int} (above : now - secondsPerDay ≤ value)
      (below : value ≤ now + 2 * secondsPerDay)
      : signed 64 value = some value := by
    apply if_pos
    unfold i64Bound secondsPerDay at *
    omega
  have length {value : Int} (above : 0 ≤ value) (below : value ≤ 2 * secondsPerDay)
      : signed 64 value = some value := by
    apply if_pos
    unfold secondsPerDay at *
    omega
  have remainder : 0 ≤ now % secondsPerDay ∧ now % secondsPerDay < secondsPerDay :=
    ⟨Int.emod_nonneg _ (by decide), Int.emod_lt_of_pos _ (by decide)⟩
  unfold roundEndTimeI64 roundEndTime
  dsimp only
  generalize now % secondsPerDay = rest at remainder
  unfold secondsPerDay roundAnchorUtcSeconds minRoundDurationSeconds at *
  rw [inside (by omega) (by omega)]
  simp only [bind, Option.bind_some]
  rw [inside (by omega) (by omega), Option.bind_some]
  by_cases past : now - rest + 36000 ≤ now
  · rw [if_pos past, if_pos past, inside (by omega) (by omega), Option.bind_some,
      length (by omega) (by omega), Option.bind_some]
    split
    · exact inside (by omega) (by omega)
    · rfl
  · rw [if_neg past, if_neg past, length (by omega) (by omega), Option.bind_some]
    split
    · exact inside (by omega) (by omega)
    · rfl

/-- Every end time the program computes is the least one on the anchor that leaves the minimum
length; it grows with the opening time, bounds the length of a round, and absorbs a late opening.
The program computes one for every opening two days away from the ends of the type.
-/
theorem rounds_end_on_schedule {now t : Int} (computed : roundEndTimeI64 now = some t)
    : IsLeast { t | t % 86400 = 36000 ∧ t - now ≥ 43200 } t
      ∧ (43200 ≤ t - now ∧ t - now < 129600)
      ∧ (∀ later u, roundEndTimeI64 later = some u → now ≤ later → t ≤ u)
      ∧ (∀ late u, 0 ≤ late → late ≤ 43200 → roundEndTimeI64 (t + late) = some u
          → u = t + 86400)
      ∧ ∀ opened, -i64Bound + 2 * secondsPerDay ≤ opened → opened + 2 * secondsPerDay < i64Bound
          → (roundEndTimeI64 opened).isSome := by
  obtain rfl := roundEndTimeI64_eq_some computed
  obtain ⟨_, long, short⟩ := roundEndTime_bounds now
  refine ⟨isLeast_roundEndTime now, ⟨long, short⟩, ?_, ?_, ?_⟩
  · intro later u next ordered
    obtain rfl := roundEndTimeI64_eq_some next
    exact roundEndTime_mono ordered
  · intro late u delayed bounded next
    obtain rfl := roundEndTimeI64_eq_some next
    exact roundEndTime_next now delayed bounded
  · intro opened above below
    rw [roundEndTimeI64_of_inside above below]
    rfl

/-- A round opened on the anchor of the first day ends a day later, and the next one, opened an
hour late, another day later.
-/
theorem firstRounds_end_on_schedule
    : IsLeast { t : Int | t % 86400 = 36000 ∧ t - 36000 ≥ 43200 } 122400
      ∧ (208800 : Int) = 122400 + 86400 := by
  have first : roundEndTimeI64 36000 = some 122400 := by decide
  have second : roundEndTimeI64 (122400 + 3600) = some 208800 := by decide
  obtain ⟨least, _, _, absorbed, _⟩ := rounds_end_on_schedule first
  exact ⟨least, absorbed 3600 208800 (by decide) (by decide) second⟩

end SecretGarden.Settlement
