import SecretGarden.AutoCycle.Lock

/-! While nothing comes between the judgement of a stale lock and its removal, the lock keeps
processes apart and a release removes the process's own lock only.
-/

namespace SecretGarden.AutoCycle

open Foundation

-----------------------------------------------------------------------------------------
-- What must not come between
-----------------------------------------------------------------------------------------

def Stage.isReleasing : Stage → Bool
  | .releasing _ => true
  | _ => false

/-- The process that wrote the file's lock is about to remove it. -/
def LockState.midRelease (state : LockState) (file : FileId) : Bool :=
  (state.contents file).any fun lock => (state.stage lock.pid).isReleasing

/-- The lock being stolen, if the path still names one, is the one that was judged, and its
owner is not releasing it; a lock is written in the second in which the call began.
-/
def undisturbed (state : LockState) : LockStep → Bool
  | .proceed pid =>
      match state.stage pid with
      | .stealing _ _ judged =>
          state.lockPath.all fun file => judged == some file && !state.midRelease file
      | .writing nowSecs _ => state.clock == nowSecs
      | _ => true
  | _ => true

def Undisturbed (state : LockState) (step : LockStep) : Prop := undisturbed state step

instance (state : LockState) (step : LockStep) : Decidable (Undisturbed state step) :=
  inferInstanceAs (Decidable (undisturbed state step = true))

-----------------------------------------------------------------------------------------
-- Owners
-----------------------------------------------------------------------------------------

/-- The lock a process was told it has and has not given back. -/
def Stage.held : Stage → Option Tenure
  | .holding tenure => some tenure
  | .releasing tenure => tenure
  | _ => none

/-- The file a process created and answers for. -/
def Stage.file : Stage → Option FileId
  | .writing _ file => some file
  | .holding tenure => some tenure.file
  | .releasing tenure => tenure.map Tenure.file
  | _ => none

/-- The reading of the clock a call under way goes by. -/
def Stage.nowSecs : Stage → Option Int
  | .creating nowSecs _ => some nowSecs
  | .writing nowSecs _ => some nowSecs
  | .reading nowSecs _ => some nowSecs
  | .stealing nowSecs _ _ => some nowSecs
  | _ => none

theorem Stage.file_of_held {stage : Stage} {tenure : Tenure} (held : stage.held = some tenure)
    : stage.file = some tenure.file := by
  cases stage with
  | holding => exact congrArg (Option.map Tenure.file) held
  | releasing => exact congrArg (Option.map Tenure.file) held
  | _ => cases held

/-- The files of the processes and what the path names, at every moment of a run. -/
structure Sound (state : LockState) : Prop where
  /-- Files are numbered in the order of their creation. -/
  named : ∀ file, state.lockPath = some file → file < state.nextFile
  written : ∀ file lock, state.contents file = some lock → file < state.nextFile
  owned : ∀ pid file, (state.stage pid).file = some file → file < state.nextFile
  /-- Processes answer for different files. -/
  apart
    : ∀ pid other file,
        (state.stage pid).file = some file
        → (state.stage other).file = some file
        → pid = other
  /-- A created file is named and empty until it is written. -/
  unwritten
    : ∀ pid nowSecs file,
        state.stage pid = .writing nowSecs file
        → state.lockPath = some file ∧ state.contents file = none
  /-- A lock that is held bears its owner's id and time, and is only removed when stale. -/
  tenure
    : ∀ pid tenure,
        (state.stage pid).held = some tenure
        → state.contents tenure.file = some ⟨pid, tenure.since⟩
          ∧ tenure.since ≤ state.clock
          ∧ (state.lockPath = some tenure.file
            ∨ tenure.since + lockStaleSeconds ≤ state.clock)
  /-- Whoever releases is about to remove its own lock. -/
  releasing
    : ∀ pid given,
        state.stage pid = .releasing given
        → ∃ tenure, given = some tenure ∧ state.lockPath = some tenure.file
  /-- A written lock belongs to a process that holds it or is done. -/
  signed
    : ∀ file lock,
        state.contents file = some lock
        → (state.stage lock.pid).held = some ⟨file, lock.startedAt⟩
          ∨ state.stage lock.pid = .done
  /-- A judged lock was stale by the clock of its judge. -/
  judged
    : ∀ pid nowSecs attempt file,
        state.stage pid = .stealing nowSecs attempt (some file)
        → ∃ lock, state.contents file = some lock
            ∧ lock.startedAt + lockStaleSeconds ≤ nowSecs
  asked : ∀ pid nowSecs, (state.stage pid).nowSecs = some nowSecs → nowSecs ≤ state.clock
  exclusive
    : ∀ pid other mine theirs,
        pid ≠ other
        → (state.stage pid).held = some mine
        → (state.stage other).held = some theirs
        → mine.since ≤ theirs.since
        → mine.since + lockStaleSeconds ≤ theirs.since

-----------------------------------------------------------------------------------------
-- The beginning
-----------------------------------------------------------------------------------------

theorem sound_unlocked (clock : Int) : Sound (unlockedState clock) where
  named file impossible := by cases impossible
  written file lock impossible := by cases impossible
  owned pid file impossible := by cases impossible
  apart pid other file impossible := by cases impossible
  unwritten pid nowSecs file impossible := by cases impossible
  tenure pid tenure impossible := by cases impossible
  releasing pid given impossible := by cases impossible
  signed file lock impossible := by cases impossible
  judged pid nowSecs attempt file impossible := by cases impossible
  asked pid nowSecs impossible := by cases impossible
  exclusive pid other mine theirs _ impossible := by cases impossible

/-- Only the process that left the lock is not idle. -/
theorem stage_lockedState {clock : Int} {lock : LockFile} {stage : Stage} (pid : Pid)
    : (lockedState clock lock stage).stage pid = if pid = lock.pid then stage else .idle := by
  simp only [lockedState, Function.update_apply]

theorem contents_lockedState {clock : Int} {lock : LockFile} {stage : Stage} (file : FileId)
    : (lockedState clock lock stage).contents file = if file = 0 then some lock else none := by
  simp only [lockedState, Function.update_apply]

/-- The process that left the lock holds it or is done, and every other one is idle. -/
theorem sound_lockedState {clock : Int} {lock : LockFile} {stage : Stage}
    (left
      : stage = .holding ⟨0, lock.startedAt⟩ ∧ lock.startedAt ≤ clock
        ∨ stage = .done)
    : Sound (lockedState clock lock stage) := by
  have only {pid : Pid} {file : FileId}
      (found : ((lockedState clock lock stage).stage pid).file = some file)
      : pid = lock.pid ∧ file = 0 := by
    rw [stage_lockedState] at found
    split at found
    · next here =>
        rcases left with ⟨rfl, _⟩ | rfl
        · exact ⟨here, (Option.some.inj found).symm⟩
        · cases found
    · cases found
  have stages (pid : Pid)
      : (lockedState clock lock stage).stage pid = .idle
        ∨ (lockedState clock lock stage).stage pid = .done
        ∨ ((lockedState clock lock stage).stage pid = .holding ⟨0, lock.startedAt⟩
          ∧ pid = lock.pid ∧ lock.startedAt ≤ clock) := by
    rw [stage_lockedState]
    split
    · next here =>
        rcases left with ⟨rfl, past⟩ | rfl
        · exact .inr (.inr ⟨rfl, here, past⟩)
        · exact .inr (.inl rfl)
    · exact .inl rfl
  exact {
    named := fun file found => by cases found; exact Nat.one_pos
    written := fun file other found => by
      rw [contents_lockedState] at found
      split at found
      · next here => exact here ▸ Nat.one_pos
      · cases found
    owned := fun pid file found => (only found).2 ▸ Nat.one_pos
    apart := fun pid other file found again => (only found).1.trans (only again).1.symm
    unwritten := fun pid nowSecs file found => by
      rcases stages pid with same | same | ⟨same, _⟩ <;> cases same.symm.trans found
    tenure := fun pid tenure found => by
      rcases stages pid with same | same | ⟨same, rfl, past⟩
      · rw [same] at found
        cases found
      · rw [same] at found
        cases found
      · rw [same] at found
        cases found
        exact ⟨by rw [contents_lockedState, if_pos rfl], past, .inl rfl⟩
    releasing := fun pid given found => by
      rcases stages pid with same | same | ⟨same, _⟩ <;> cases same.symm.trans found
    signed := fun file other found => by
      rw [contents_lockedState] at found
      split at found
      · next here =>
          cases found
          rw [stage_lockedState, if_pos rfl, here]
          rcases left with ⟨rfl, _⟩ | rfl
          · exact .inl rfl
          · exact .inr rfl
      · cases found
    judged := fun pid nowSecs attempt file found => by
      rcases stages pid with same | same | ⟨same, _⟩ <;> cases same.symm.trans found
    asked := fun pid nowSecs found => by
      rcases stages pid with same | same | ⟨same, _⟩ <;> rw [same] at found <;> cases found
    exclusive := fun pid other mine theirs different first second => by
      exact absurd ((only (Stage.file_of_held first)).1.trans
        (only (Stage.file_of_held second)).1.symm) different
  }

/-- The lock files of the beginning are sound. -/
theorem Initial.sound {state : LockState} (initial : Initial state) : Sound state := by
  cases initial with
  | unlocked clock => exact sound_unlocked clock
  | live past => exact sound_lockedState (.inl ⟨rfl, past⟩)
  | stale old => exact sound_lockedState (.inr rfl)

-----------------------------------------------------------------------------------------
-- One step
-----------------------------------------------------------------------------------------

variable {state : LockState} {pid : Pid} {stage : Stage}

theorem stage_move (other : Pid)
    : (state.move pid stage).stage other = if other = pid then stage else state.stage other := by
  simp only [LockState.move, Function.update_apply]

theorem Stage.file_eq {stage : Stage} (settled : ∀ nowSecs file, stage ≠ .writing nowSecs file)
    : stage.file = stage.held.map Tenure.file := by
  cases stage with
  | writing nowSecs file => exact absurd rfl (settled nowSecs file)
  | _ => rfl

theorem Stage.held_of_file {stage : Stage} {file : FileId}
    (settled : ∀ nowSecs file, stage ≠ .writing nowSecs file) (found : stage.file = some file)
    : ∃ tenure, stage.held = some tenure ∧ tenure.file = file := by
  rw [Stage.file_eq settled] at found
  exact Option.map_eq_some_iff.mp found

theorem Sound.tick (sound : Sound state) (seconds : Nat)
    : Sound { state with clock := state.clock + seconds } :=
  { sound with
    tenure := fun pid tenure found => by
      obtain ⟨signed, past, kept⟩ := sound.tenure pid tenure found
      refine ⟨signed, by simp only; omega, kept.imp_right fun stale => by simp only; omega⟩
    asked := fun pid nowSecs found => by
      have past := sound.asked pid nowSecs found
      simp only
      omega }

/-- What a stage must satisfy for a process to go there without touching the filesystem. -/
structure MovesTo (state : LockState) (pid : Pid) (stage : Stage) : Prop where
  undone : state.stage pid ≠ .done
  held : stage.held = (state.stage pid).held ∨ stage = .done
  settled : ∀ nowSecs file, stage ≠ .writing nowSecs file
  releasing
    : ∀ given, stage = .releasing given
      → ∃ tenure, given = some tenure ∧ state.lockPath = some tenure.file
  judged
    : ∀ nowSecs attempt file,
        stage = .stealing nowSecs attempt (some file)
        → ∃ lock, state.contents file = some lock
            ∧ lock.startedAt + lockStaleSeconds ≤ nowSecs
  asked : ∀ nowSecs, stage.nowSecs = some nowSecs → nowSecs ≤ state.clock

theorem MovesTo.held_before (moves : MovesTo state pid stage) {tenure : Tenure}
    (found : stage.held = some tenure) : (state.stage pid).held = some tenure := by
  rcases moves.held with same | rfl
  · rwa [← same]
  · cases found

theorem MovesTo.file_before (moves : MovesTo state pid stage) {file : FileId}
    (found : stage.file = some file) : (state.stage pid).file = some file := by
  obtain ⟨tenure, held, rfl⟩ := Stage.held_of_file moves.settled found
  exact Stage.file_of_held (moves.held_before held)

theorem Sound.move (sound : Sound state) (moves : MovesTo state pid stage)
    : Sound (state.move pid stage) := by
  have files {other : Pid} {file : FileId}
      (found : ((state.move pid stage).stage other).file = some file)
      : (state.stage other).file = some file := by
    rw [stage_move] at found
    split at found
    · next here => exact here ▸ moves.file_before found
    · exact found
  have tenures {other : Pid} {tenure : Tenure}
      (found : ((state.move pid stage).stage other).held = some tenure)
      : (state.stage other).held = some tenure := by
    rw [stage_move] at found
    split at found
    · next here => exact here ▸ moves.held_before found
    · exact found
  exact {
    named := sound.named
    written := sound.written
    owned := fun other file found => sound.owned other file (files found)
    apart := fun other another file first second =>
      sound.apart other another file (files first) (files second)
    unwritten := fun other nowSecs file found => by
      rw [stage_move] at found
      split at found
      · exact absurd found (moves.settled nowSecs file)
      · exact sound.unwritten other nowSecs file found
    tenure := fun other tenure found => sound.tenure other tenure (tenures found)
    releasing := fun other given found => by
      rw [stage_move] at found
      split at found
      · exact moves.releasing given found
      · exact sound.releasing other given found
    signed := fun file lock found => by
      rw [stage_move]
      split
      · next here =>
          rcases moves.held with same | rfl
          · have before := sound.signed file lock found
            rw [here] at before
            exact .inl (same ▸ before.resolve_right moves.undone)
          · exact .inr rfl
      · exact sound.signed file lock found
    judged := fun other nowSecs attempt file found => by
      rw [stage_move] at found
      split at found
      · exact moves.judged nowSecs attempt file found
      · exact sound.judged other nowSecs attempt file found
    asked := fun other nowSecs found => by
      rw [stage_move] at found
      split at found
      · exact moves.asked nowSecs found
      · exact sound.asked other nowSecs found
    exclusive := fun other another mine theirs different first second =>
      sound.exclusive other another mine theirs different (tenures first) (tenures second)
  }

/-- The path may stop naming a file that nobody answers for any more, or whose holder took it
long enough ago.
-/
theorem Sound.clear (sound : Sound state)
    (free
      : ∀ pid file,
          state.lockPath = some file
          → (state.stage pid).file = some file
          → ∃ tenure, state.stage pid = .holding tenure
              ∧ tenure.since + lockStaleSeconds ≤ state.clock)
    : Sound { state with lockPath := none } :=
  { sound with
    named := fun file impossible => by cases impossible
    unwritten := fun pid nowSecs file found => by
      obtain ⟨named, _⟩ := sound.unwritten pid nowSecs file found
      obtain ⟨tenure, other, _⟩ := free pid file named (by rw [found]; rfl)
      cases found.symm.trans other
    tenure := fun pid tenure found => by
      obtain ⟨signed, past, kept⟩ := sound.tenure pid tenure found
      refine ⟨signed, past, .inr ?_⟩
      rcases kept with named | stale
      · obtain ⟨held, same, stale⟩ := free pid tenure.file named (Stage.file_of_held found)
        rw [same] at found
        cases found
        exact stale
      · exact stale
    releasing := fun pid given found => by
      obtain ⟨tenure, rfl, named⟩ := sound.releasing pid given found
      obtain ⟨held, other, _⟩ := free pid tenure.file named (by rw [found]; rfl)
      cases found.symm.trans other }

/-- Every part of the state after a file was created. -/
theorem create_of_free (pid : Pid) (nowSecs : Int) (attempt : Nat) (free : state.lockPath = none)
    : (create pid nowSecs attempt state).clock = state.clock
      ∧ (create pid nowSecs attempt state).lockPath = some state.nextFile
      ∧ (create pid nowSecs attempt state).nextFile = state.nextFile + 1
      ∧ (∀ file, (create pid nowSecs attempt state).contents file
          = if file = state.nextFile then none else state.contents file)
      ∧ ∀ other, (create pid nowSecs attempt state).stage other
          = if other = pid then .writing nowSecs state.nextFile else state.stage other := by
  simp [create, free, Function.update_apply]

/-- Creating gives the process a file nobody answered for. -/
theorem Sound.create_file (sound : Sound state) {nowSecs : Int} {attempt : Nat}
    (calling : state.stage pid = .creating nowSecs attempt) (free : state.lockPath = none)
    : Sound (create pid nowSecs attempt state) := by
  have past := sound.asked pid nowSecs (by rw [calling]; rfl)
  obtain ⟨clock, path, next, contents, stages⟩ :=
    create_of_free pid nowSecs attempt free
  generalize create pid nowSecs attempt state = after at *
  have unnamed {file : FileId} (named : state.lockPath = some file) : False := by
    cases free.symm.trans named
  have kept {file : FileId} {lock : LockFile} (found : after.contents file = some lock)
      : state.contents file = some lock := by
    rw [contents] at found
    split at found
    · cases found
    · exact found
  have still {file : FileId} {lock : LockFile} (found : state.contents file = some lock)
      : after.contents file = some lock := by
    rw [contents, if_neg (Nat.ne_of_lt (sound.written file lock found)), found]
  have tenures {other : Pid} {tenure : Tenure}
      (found : (after.stage other).held = some tenure)
      : (state.stage other).held = some tenure := by
    rw [stages] at found
    split at found
    · cases found
    · exact found
  exact {
    named := fun file found => by
      cases path.symm.trans found
      rw [next]
      exact Nat.lt_succ_self _
    written := fun file lock found => by
      rw [next]
      exact Nat.lt_succ_of_lt (sound.written file lock (kept found))
    owned := fun other file found => by
      rw [next]
      rw [stages] at found
      split at found
      · cases found
        exact Nat.lt_succ_self _
      · exact Nat.lt_succ_of_lt (sound.owned other file found)
    apart := fun other another file first second => by
      rw [stages] at first second
      split at first <;> split at second
      · next here also => exact here.trans also.symm
      · cases first
        exact absurd (sound.owned another _ second) (Nat.lt_irrefl _)
      · cases second
        exact absurd (sound.owned other _ first) (Nat.lt_irrefl _)
      · exact sound.apart other another file first second
    unwritten := fun other nowSecs file found => by
      rw [stages] at found
      split at found
      · cases found
        exact ⟨path, by rw [contents, if_pos rfl]⟩
      · exact (unnamed (sound.unwritten other nowSecs file found).1).elim
    tenure := fun other tenure found => by
      obtain ⟨signed, since, named⟩ := sound.tenure other tenure (tenures found)
      rw [clock]
      exact ⟨still signed, since, .inr (named.resolve_left fun named => unnamed named)⟩
    releasing := fun other given found => by
      rw [stages] at found
      split at found
      · cases found
      · obtain ⟨_, _, named⟩ := sound.releasing other given found
        exact (unnamed named).elim
    signed := fun file lock found => by
      have before := sound.signed file lock (kept found)
      rw [stages]
      split
      · next here =>
          rw [here, calling] at before
          rcases before with impossible | impossible <;> cases impossible
      · exact before
    judged := fun other nowSecs attempt file found => by
      rw [stages] at found
      split at found
      · cases found
      · obtain ⟨lock, written, stale⟩ := sound.judged other nowSecs attempt file found
        exact ⟨lock, still written, stale⟩
    asked := fun other nowSecs found => by
      rw [clock]
      rw [stages] at found
      split at found
      · cases found
        exact past
      · exact sound.asked other nowSecs found
    exclusive := fun other another mine theirs different first second =>
      sound.exclusive other another mine theirs different (tenures first) (tenures second)
  }

theorem Sound.create (sound : Sound state) {nowSecs : Int} {attempt : Nat}
    (calling : state.stage pid = .creating nowSecs attempt)
    : Sound (create pid nowSecs attempt state) := by
  have past := sound.asked pid nowSecs (by rw [calling]; rfl)
  cases path : state.lockPath with
  | none => exact sound.create_file calling path
  | some file =>
      rw [AutoCycle.create, path]
      exact sound.move {
        undone := by simp [calling]
        held := .inl (by rw [calling]; rfl)
        settled := by simp
        releasing := by simp
        judged := by simp
        asked := fun _ found => by cases found; exact past
      }

/-- Every part of the state after a lock was written. -/
theorem write_eq (state : LockState) (pid : Pid) (nowSecs : Int) (file : FileId)
    : (write pid nowSecs file state).clock = state.clock
      ∧ (write pid nowSecs file state).lockPath = state.lockPath
      ∧ (write pid nowSecs file state).nextFile = state.nextFile
      ∧ (∀ other, (write pid nowSecs file state).contents other
          = if other = file then some ⟨pid, nowSecs⟩ else state.contents other)
      ∧ ∀ other, (write pid nowSecs file state).stage other
          = if other = pid then .holding ⟨file, state.clock⟩ else state.stage other := by
  simp [write, Function.update_apply]

/-- Writing makes the process a holder; every other one took the lock long enough ago, since
the path names the file that was just written.
-/
theorem Sound.write (sound : Sound state) {nowSecs : Int} {file : FileId}
    (calling : state.stage pid = .writing nowSecs file) (prompt : state.clock = nowSecs)
    : Sound (write pid nowSecs file state) := by
  obtain ⟨named, empty⟩ := sound.unwritten pid nowSecs file calling
  have mine : (state.stage pid).file = some file := by rw [calling]; rfl
  obtain ⟨clock, path, next, contents, stages⟩ := write_eq state pid nowSecs file
  generalize AutoCycle.write pid nowSecs file state = after at *
  have elsewhere {other : Pid} {theirs : FileId} (different : other ≠ pid)
      (found : (state.stage other).file = some theirs)
      : theirs ≠ file := by
    rintro rfl
    exact different (sound.apart other pid theirs found mine)
  have earlier {other : Pid} {tenure : Tenure} (different : other ≠ pid)
      (found : (state.stage other).held = some tenure)
      : tenure.since + lockStaleSeconds ≤ state.clock := by
    obtain ⟨_, _, kept⟩ := sound.tenure other tenure found
    refine kept.resolve_left fun also => ?_
    exact elsewhere different (Stage.file_of_held found)
      (Option.some.inj (also.symm.trans named))
  have files {other : Pid} {theirs : FileId} (found : (after.stage other).file = some theirs)
      : (state.stage other).file = some theirs := by
    rw [stages] at found
    split at found
    · next here =>
        cases found
        exact here ▸ mine
    · exact found
  exact {
    named := fun other found => by
      rw [next]
      exact sound.named other (path ▸ found)
    written := fun other lock found => by
      rw [next]
      rw [contents] at found
      split at found
      · next here => exact here ▸ sound.named file named
      · exact sound.written other lock found
    owned := fun other theirs found => next ▸ sound.owned other theirs (files found)
    apart := fun other another theirs first second =>
      sound.apart other another theirs (files first) (files second)
    unwritten := fun other nowSecs theirs found => by
      rw [stages] at found
      split at found
      · cases found
      · next different =>
          obtain ⟨also, _⟩ := sound.unwritten other nowSecs theirs found
          exact absurd (Option.some.inj (also.symm.trans named))
            (elsewhere different (by rw [found]; rfl))
    tenure := fun other tenure found => by
      rw [clock, path, contents]
      rw [stages] at found
      split at found
      · next here =>
          cases found
          rw [if_pos rfl, here, prompt]
          exact ⟨rfl, Int.le_refl _, .inl named⟩
      · next different =>
          rw [if_neg (elsewhere different (Stage.file_of_held found))]
          exact sound.tenure other tenure found
    releasing := fun other given found => by
      rw [path]
      rw [stages] at found
      split at found
      · cases found
      · exact sound.releasing other given found
    signed := fun other lock found => by
      rw [contents] at found
      rw [stages]
      split at found
      · next here =>
          cases found
          left
          rw [if_pos rfl, here, prompt]
          rfl
      · have before := sound.signed other lock found
        split
        · next also =>
            rw [also, calling] at before
            rcases before with impossible | impossible <;> cases impossible
        · exact before
    judged := fun other nowSecs attempt theirs found => by
      rw [stages] at found
      split at found
      · cases found
      · obtain ⟨lock, written, stale⟩ := sound.judged other nowSecs attempt theirs found
        refine ⟨lock, ?_, stale⟩
        rw [contents, if_neg, written]
        rintro rfl
        cases empty.symm.trans written
    asked := fun other nowSecs found => by
      rw [clock]
      rw [stages] at found
      split at found
      · cases found
      · exact sound.asked other nowSecs found
    exclusive := fun other another mine theirs different first second order => by
      rw [stages] at first second
      split at first <;> split at second
      · next here also => exact absurd (here.trans also.symm) different
      · next here notHere =>
          cases first
          have before := earlier notHere second
          simp only [lockStaleSeconds] at before order ⊢
          omega
      · next notHere here =>
          cases second
          exact earlier notHere first
      · exact sound.exclusive other another mine theirs different first second order
  }

/-- A call under way that goes on to a stage without a lock keeps everything sound. -/
theorem Sound.goOn (sound : Sound state) {nowSecs : Int} {next : Stage}
    (calling : (state.stage pid).nowSecs = some nowSecs)
    (quiet : next.held = none) (settled : ∀ nowSecs file, next ≠ .writing nowSecs file)
    (unreleased : ∀ given, next ≠ .releasing given)
    (judged
      : ∀ nowSecs attempt file,
          next = .stealing nowSecs attempt (some file)
          → ∃ lock, state.contents file = some lock
              ∧ lock.startedAt + lockStaleSeconds ≤ nowSecs)
    (asked : next.nowSecs = none ∨ next.nowSecs = some nowSecs)
    : Sound (state.move pid next) := by
  have past := sound.asked pid nowSecs calling
  have busy : (state.stage pid).held = none ∧ state.stage pid ≠ .done := by
    cases stage : state.stage pid with
    | creating => exact ⟨rfl, Stage.noConfusion⟩
    | reading => exact ⟨rfl, Stage.noConfusion⟩
    | stealing => exact ⟨rfl, Stage.noConfusion⟩
    | writing => exact ⟨rfl, Stage.noConfusion⟩
    | _ => rw [stage] at calling; cases calling
  exact sound.move {
    undone := busy.2
    held := .inl (quiet.trans busy.1.symm)
    settled := settled
    releasing := fun given found => absurd found (unreleased given)
    judged := judged
    asked := fun later found => by
      rcases asked with none | same
      · cases none.symm.trans found
      · cases same.symm.trans found
        exact past
  }

/-- Another attempt, or none, is of no consequence by itself. -/
theorem Sound.retry (sound : Sound state) {nowSecs : Int} (attempt : Nat)
    (calling : (state.stage pid).nowSecs = some nowSecs)
    : Sound (state.move pid (nextAttempt nowSecs attempt)) := by
  unfold nextAttempt
  split
  · exact sound.goOn calling rfl (by simp) (by simp) (by simp) (.inr rfl)
  · exact sound.goOn calling rfl (by simp) (by simp) (by simp) (.inl rfl)

/-- A judged lock that had contents was stale by the judge's clock. -/
theorem Sound.judge (sound : Sound state) {nowSecs : Int} {attempt : Nat}
    (calling : state.stage pid = .reading nowSecs attempt)
    : Sound (judge pid nowSecs attempt state) := by
  have asks : (state.stage pid).nowSecs = some nowSecs := by rw [calling]; rfl
  simp only [AutoCycle.judge]
  split
  · exact sound.retry attempt asks
  · next age stale =>
      refine sound.goOn asks rfl (by simp) (by simp) ?_ (.inr rfl)
      intro later attempt file found
      simp only [Stage.stealing.injEq, Option.filter_eq_some_iff] at found
      obtain ⟨rfl, _, named, present⟩ := found
      obtain ⟨lock, written⟩ := Option.isSome_iff_exists.mp present
      have read : state.readLock = some lock := by
        rw [LockState.readLock, named, Option.bind_some, written]
      refine ⟨lock, written, ?_⟩
      simp only [read, Option.getD_some, lockAction] at stale
      split at stale
      · simp only [lockStaleSeconds] at *
        omega
      · cases stale
  · exact sound.goOn asks rfl (by simp) (by simp) (by simp) (.inl rfl)

/-- Removing the lock that was judged, while its owner does not release it, removes a lock
that its owner took long enough ago.
-/
theorem Sound.steal (sound : Sound state) {nowSecs : Int} {attempt : Nat}
    {judged : Option FileId} (calling : state.stage pid = .stealing nowSecs attempt judged)
    (met : state.lockPath.all fun file => judged == some file && !state.midRelease file)
    : Sound (unlink pid (nextAttempt nowSecs attempt) state) := by
  have asks : (state.stage pid).nowSecs = some nowSecs := by rw [calling]; rfl
  apply Sound.clear (sound.retry attempt asks)
  intro other file named found
  have still := (Option.all_eq_true _ _).mp met file named
  simp only [Bool.and_eq_true, beq_iff_eq, Bool.not_eq_true'] at still
  obtain ⟨rfl, unreleased⟩ := still
  obtain ⟨lock, written, stale⟩ := sound.judged pid nowSecs attempt file calling
  have past := sound.asked pid nowSecs asks
  rw [stage_move] at found ⊢
  split at found
  · unfold nextAttempt at found
    split at found <;> cases found
  · next different =>
      rw [if_neg different]
      have settled : ∀ nowSecs created, state.stage other ≠ .writing nowSecs created := by
        intro later created writes
        rw [writes] at found
        cases found
        cases (sound.unwritten other later file writes).2.symm.trans written
      obtain ⟨tenure, held, rfl⟩ := Stage.held_of_file settled found
      obtain ⟨signed, _⟩ := sound.tenure other tenure held
      cases signed.symm.trans written
      cases stage : state.stage other with
      | holding own =>
          rw [stage] at held
          cases held
          refine ⟨tenure, rfl, ?_⟩
          simp only [LockState.move] at past stale ⊢
          omega
      | releasing given =>
          rw [LockState.midRelease, signed, Option.any_some, stage] at unreleased
          cases unreleased
      | _ => rw [stage] at held; cases held

/-- A process that ends holds nothing anymore. -/
theorem Sound.finish (sound : Sound state) (undone : state.stage pid ≠ .done)
    : Sound (state.move pid .done) :=
  sound.move {
    undone := undone
    held := .inr rfl
    settled := by simp
    releasing := by simp
    judged := by simp
    asked := by simp [Stage.nowSecs]
  }

/-- Reading one's own id means reading one's own lock. -/
theorem Sound.checkOwn (sound : Sound state) {tenure : Option Tenure}
    (held : (state.stage pid).held = tenure) (undone : state.stage pid ≠ .done)
    : Sound (checkOwn pid tenure state) := by
  unfold AutoCycle.checkOwn
  split
  · next lock read =>
      by_cases own : lock.pid = pid
      · rw [if_pos own]
        obtain ⟨file, named, written⟩ := Option.bind_eq_some_iff.mp read
        have mine := sound.signed file lock written
        rw [own] at mine
        have same := held.symm.trans (mine.resolve_right undone)
        exact sound.move {
          undone := undone
          held := .inl held.symm
          settled := by simp
          releasing := fun given found => by
            cases found
            exact ⟨_, same, named⟩
          judged := by simp
          asked := by simp [Stage.nowSecs]
        }
      · rw [if_neg own]
        exact sound.finish undone
  · exact sound.finish undone

/-- A release removes the process's own lock, and nobody else answers for it. -/
theorem Sound.release (sound : Sound state) {given : Option Tenure}
    (calling : state.stage pid = .releasing given)
    : Sound (unlink pid .done state) := by
  apply Sound.clear (sound.finish (by simp [calling]))
  intro other file named found
  obtain ⟨tenure, rfl, mine⟩ := sound.releasing pid given calling
  rw [stage_move] at found
  split at found
  · cases found
  · next different =>
      cases mine.symm.trans named
      exact absurd (sound.apart other pid tenure.file found (by rw [calling]; rfl)) different

/-- Every undisturbed step keeps the lock files sound. -/
theorem lockStep_sound {step : LockStep} {after : LockState} (sound : Sound state)
    (met : Undisturbed state step) (success : lockStep state step = .ok after)
    : Sound after := by
  cases step with
  | tick seconds =>
      cases success
      exact sound.tick seconds
  | acquireLock pid =>
      simp only [lockStep] at success
      split at success
      · next calling =>
          cases success
          exact sound.move {
            undone := by simp [calling]
            held := .inl (by rw [calling]; rfl)
            settled := by simp
            releasing := by simp
            judged := by simp
            asked := fun nowSecs found => by cases found; exact Int.le_refl _
          }
      · cases success
  | releaseLock pid =>
      simp only [lockStep] at success
      split at success
      · next tenure calling =>
          cases success
          exact sound.checkOwn (by rw [calling]; rfl) (by simp [calling])
      · next calling =>
          cases success
          exact sound.checkOwn (by rw [calling]; rfl) (by simp [calling])
      · cases success
  | proceed pid =>
      simp only [lockStep] at success
      simp only [Undisturbed, undisturbed] at met
      split at success
      · next calling =>
          cases success
          exact sound.create calling
      · next calling =>
          cases success
          rw [calling] at met
          exact sound.write calling (eq_of_beq met)
      · next calling =>
          cases success
          exact sound.judge calling
      · next calling =>
          cases success
          rw [calling] at met
          exact sound.steal calling met
      · next calling =>
          cases success
          exact sound.release calling
      · cases success

-----------------------------------------------------------------------------------------
-- Exclusion
-----------------------------------------------------------------------------------------

/-- Over every undisturbed run, two processes that were both told they have the lock, neither
of which has released it, were told so at least the stale time apart; and what a release is
about to remove is not a file that another process created.
-/
theorem lock_excludes {start : LockState} (initial : Initial start) {history : List LockStep}
    (run : Run lockStep Undisturbed start history state)
    : (∀ pid other mine theirs,
        pid ≠ other
        → (state.stage pid).held = some mine
        → (state.stage other).held = some theirs
        → mine.since ≤ theirs.since
        → mine.since + lockStaleSeconds ≤ theirs.since)
      ∧ ∀ pid given other file,
          state.stage pid = .releasing given
          → pid ≠ other
          → (state.stage other).file = some file
          → state.lockPath ≠ some file := by
  have sound : Sound state := run.invariant initial.sound lockStep_sound
  refine ⟨sound.exclusive, ?_⟩
  intro pid given other file releases different found named
  obtain ⟨tenure, rfl, mine⟩ := sound.releasing pid given releases
  cases mine.symm.trans named
  exact different (sound.apart pid other tenure.file (by rw [releases]; rfl) found)

/-- Process 1 takes the lock, process 2 finds it held, and process 1 is about to release it. -/
theorem secondRun_refused
    : ∃ state,
        Run lockStep Undisturbed (unlockedState 1700000000)
          [.acquireLock 1, .acquireLock 2, .proceed 1, .proceed 1, .proceed 2, .proceed 2,
            .releaseLock 1] state
        ∧ state.stage 2 = .refused
        ∧ state.stage 1 = .releasing (some ⟨0, 1700000000⟩)
        ∧ ∀ other file, 1 ≠ other → (state.stage other).file = some file
          → state.lockPath ≠ some file := by
  have replayed : (replay lockStep Undisturbed (unlockedState 1700000000)
      [.acquireLock 1, .acquireLock 2, .proceed 1, .proceed 1, .proceed 2, .proceed 2,
        .releaseLock 1]).any fun state =>
          state.stage 2 == .refused && state.stage 1 == .releasing (some ⟨0, 1700000000⟩) := by
    decide +kernel
  obtain ⟨state, run, checked⟩ := Run.of_replay_any replayed
  obtain ⟨refused, releases⟩ := Bool.and_eq_true_iff.mp checked
  refine ⟨state, run, eq_of_beq refused, eq_of_beq releases, fun other file => ?_⟩
  exact (lock_excludes (.unlocked 1700000000) run).2 1 _ other file (eq_of_beq releases)

/-- Process 2 reads the lock that process 1 has created but not yet written, takes it for
ancient, removes it and takes the lock as well.
-/
theorem emptyLock_stolen
    : ∃ start history state,
        Initial start
        ∧ Run lockStep anyAction start history state
        ∧ (state.stage 1).held = some ⟨0, 1700000000⟩
        ∧ (state.stage 2).held = some ⟨1, 1700000000⟩ := by
  have replayed : (replay lockStep anyAction (unlockedState 1700000000)
      [.acquireLock 1, .acquireLock 2, .proceed 1, .proceed 2, .proceed 2, .proceed 2,
        .proceed 2, .proceed 2, .proceed 1]).any fun state =>
          (state.stage 1).held == some ⟨0, 1700000000⟩
            && (state.stage 2).held == some ⟨1, 1700000000⟩ := by
    decide +kernel
  obtain ⟨state, run, checked⟩ := Run.of_replay_any replayed
  obtain ⟨first, second⟩ := Bool.and_eq_true_iff.mp checked
  exact ⟨_, _, state, .unlocked _, run, eq_of_beq first, eq_of_beq second⟩

end SecretGarden.AutoCycle
