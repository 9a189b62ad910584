import Mathlib.Logic.Function.Basic
import SecretGarden.Foundation.Transition

/-! The lock file that keeps two runs of the daily cycle apart.
Taking the lock is several steps on the filesystem, each atomic on its own: create the file
unless it exists, write into it, read it, remove it. Other processes may act between them.
-/

namespace SecretGarden.AutoCycle

open Foundation

abbrev Pid : Type := Nat

/-- A file keeps its identity when the path stops naming it. -/
abbrev FileId : Type := Nat

/-- A lock this old was left by a run that exited without cleanup. -/
def lockStaleSeconds : Int := 3600

structure LockFile where
  pid : Pid
  startedAt : Int
deriving DecidableEq

inductive LockAction where
  | acquire
  | steal (ageSeconds : Int)
  | abort (ageSeconds : Int) (pid : Pid)
deriving DecidableEq

/-- What to do about a lock, from its contents alone. -/
def lockAction (existing : Option LockFile) (nowSecs : Int) : LockAction :=
  match existing with
  | none => .acquire
  | some lock =>
      let age := nowSecs - lock.startedAt
      if lockStaleSeconds ≤ age then .steal age else .abort age lock.pid

/-- The file a process took the lock with, and when its call returned. -/
structure Tenure where
  file : FileId
  since : Int
deriving DecidableEq

/-- Where a process is in acquiring or releasing the lock. The tenure and the file that was
judged are only noted for the specification.
-/
inductive Stage where
  | idle
  | creating (nowSecs : Int) (attempt : Nat)
  | writing (nowSecs : Int) (file : FileId)
  /-- Creating failed because the file exists. -/
  | reading (nowSecs : Int) (attempt : Nat)
  /-- About to remove a stale lock, judged by the contents of a file if it had any. -/
  | stealing (nowSecs : Int) (attempt : Nat) (judged : Option FileId)
  /-- The call returned true. -/
  | holding (tenure : Tenure)
  /-- The call returned false. -/
  | refused
  /-- About to remove a lock that bears the process's own id. -/
  | releasing (tenure : Option Tenure)
  | done
deriving DecidableEq

structure LockState where
  clock : Int
  /-- The file that the path names. -/
  lockPath : Option FileId
  /-- A file that was created is empty until it is written. -/
  contents : FileId → Option LockFile
  nextFile : FileId
  stage : Pid → Stage

def LockState.move (state : LockState) (pid : Pid) (stage : Stage) : LockState :=
  { state with stage := Function.update state.stage pid stage }

/-- The lock that the path leads to; nothing if the file is missing or empty. -/
def LockState.readLock (state : LockState) : Option LockFile := state.lockPath.bind state.contents

/-- The loop makes two attempts. -/
def nextAttempt (nowSecs : Int) (attempt : Nat) : Stage :=
  if attempt + 1 < 2 then .creating nowSecs (attempt + 1) else .refused

/-- Create the file exclusively, or find that it exists. -/
def create (pid : Pid) (nowSecs : Int) (attempt : Nat) (state : LockState) : LockState :=
  match state.lockPath with
  | none =>
      { state with
        lockPath := some state.nextFile
        contents := Function.update state.contents state.nextFile none
        nextFile := state.nextFile + 1
        stage := Function.update state.stage pid (.writing nowSecs state.nextFile) }
  | some _ => state.move pid (.reading nowSecs attempt)

/-- Write into the created file, whether or not the path still names it. -/
def write (pid : Pid) (nowSecs : Int) (file : FileId) (state : LockState) : LockState :=
  { state with
    contents := Function.update state.contents file (some ⟨pid, nowSecs⟩)
    stage := Function.update state.stage pid (.holding ⟨file, state.clock⟩) }

/-- Read the lock and decide; one that cannot be read counts as ancient. -/
def judge (pid : Pid) (nowSecs : Int) (attempt : Nat) (state : LockState) : LockState :=
  let existing := state.readLock.getD ⟨0, 0⟩
  match lockAction (some existing) nowSecs with
  | .acquire => state.move pid (nextAttempt nowSecs attempt)
  | .steal _ =>
      state.move pid
        (.stealing nowSecs attempt (state.lockPath.filter fun file => (state.contents file).isSome))
  | .abort _ _ => state.move pid .refused

/-- Remove whatever the path names. -/
def unlink (pid : Pid) (next : Stage) (state : LockState) : LockState :=
  { state with lockPath := none, stage := Function.update state.stage pid next }

/-- Release starts with reading the lock, and ends there unless it bears the own id. -/
def checkOwn (pid : Pid) (tenure : Option Tenure) (state : LockState) : LockState :=
  match state.readLock with
  | some lock => state.move pid (if lock.pid = pid then .releasing tenure else .done)
  | none => state.move pid .done

inductive LockStep where
  | tick (seconds : Nat)
  | acquireLock (pid : Pid)
  | releaseLock (pid : Pid)
  /-- The next step of a call that is under way. -/
  | proceed (pid : Pid)
deriving DecidableEq

/-- Steps that are not the next one of their process are impossible. -/
def lockStep (state : LockState) : LockStep → Except Unit LockState
  | .tick seconds => .ok { state with clock := state.clock + seconds }
  | .acquireLock pid =>
      match state.stage pid with
      | .idle => .ok (state.move pid (.creating state.clock 0))
      | _ => .error ()
  | .releaseLock pid =>
      match state.stage pid with
      | .holding tenure => .ok (checkOwn pid (some tenure) state)
      | .refused => .ok (checkOwn pid none state)
      | _ => .error ()
  | .proceed pid =>
      match state.stage pid with
      | .creating nowSecs attempt => .ok (create pid nowSecs attempt state)
      | .writing nowSecs file => .ok (write pid nowSecs file state)
      | .reading nowSecs attempt => .ok (judge pid nowSecs attempt state)
      | .stealing nowSecs attempt _ => .ok (unlink pid (nextAttempt nowSecs attempt) state)
      | .releasing _ => .ok (unlink pid .done state)
      | _ => .error ()

/-- Nobody holds the lock. -/
def unlockedState (clock : Int) : LockState :=
  { clock := clock
    lockPath := none
    contents := fun _ => none
    nextFile := 0
    stage := fun _ => .idle }

/-- A well-formed lock that a process in the given stage left. -/
def lockedState (clock : Int) (lock : LockFile) (stage : Stage) : LockState :=
  { clock := clock
    lockPath := some 0
    contents := Function.update (fun _ => none) 0 (some lock)
    nextFile := 1
    stage := Function.update (fun _ => .idle) lock.pid stage }

/-- No lock, the lock of a live process, or a stale lock of a dead one. -/
inductive Initial : LockState → Prop
  | unlocked (clock : Int) : Initial (unlockedState clock)
  | live {clock : Int} {lock : LockFile} (past : lock.startedAt ≤ clock)
    : Initial (lockedState clock lock (.holding ⟨0, lock.startedAt⟩))
  | stale {clock : Int} {lock : LockFile} (old : lock.startedAt + lockStaleSeconds ≤ clock)
    : Initial (lockedState clock lock .done)

end SecretGarden.AutoCycle
