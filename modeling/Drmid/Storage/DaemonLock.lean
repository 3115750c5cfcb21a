import Mathlib.Logic.Function.Basic
import Drmid.Kernel.Bytes
import Drmid.Lib.Run

/-!
# The daemon lock file

`acquire_daemon_lock`, `release_daemon_lock` and the WebUI's probe `daemon_lock_owner_alive`, one
system call a step, by any number of processes on one private directory. The lock file's name
refers to an inode or to none; `openat` with `O_CREAT` makes a fresh inode when there is none,
`flock` is exclusive on an inode, `unlinkat` takes the name away and leaves open inodes as they are.
Any call may fail (`fault`), and a process may die anywhere, which drops its lock.

`close`, `fsync` and the opening of the directory change nothing another process can see; each is
part of the step it goes with.
-/

namespace Drmid

/-- Inode numbers. -/
abbrev Ino := Nat

/-! ## The owner's pid -/

/-- The pid that `daemon_lock_owner_alive` reads off the file: a number above 1 that a `pid_t` holds,
up to the end of the text or one newline. -/
def lockFilePid (content : List UInt8) : Option Int :=
  let text := content.take 31
  if text.length ≤ 1 then none
  else
    match strtol text with
    | none => none
    | some (value, rest) =>
      let ended := match rest with
        | [] | 0 :: _ | [10] | 10 :: 0 :: _ => true
        | _ => false
      if !ended || decide (value ≤ 1) || decide (2147483647 < value) then none else some value

/-! ## Processes -/

/-- The system call a process makes next. The inode is the one behind its descriptor. -/
inductive LockPc
  | idle
  | acquireOpen
  | acquireFlock (ino : Ino)
  | acquireFstat (ino : Ino)
  | acquireUnlock (ino : Ino)
  /-- `acquire_daemon_lock` returned true. -/
  | held (ino : Ino)
  /-- `acquire_daemon_lock` returned false. -/
  | refused
  | releaseFstat (ino : Ino)
  | releaseUnlink (ino : Ino)
  | releaseUnlock (ino : Ino)
  | probeOpen
  | probeFstat (ino : Ino)
  | probeFlock (ino : Ino)
  | probeUnlock (ino : Ino)
  | probeRead (ino : Ino)
  /-- `daemon_lock_owner_alive` returned. -/
  | probed (pid : Option Int)
  deriving DecidableEq, Repr

/-- No call is under way and no lock is held. -/
def LockPc.atRest : LockPc → Bool
  | .idle | .refused | .probed _ => true
  | _ => false

/-- The inode a process has locked. -/
def LockPc.locks : LockPc → Option Ino
  | .acquireFstat ino | .acquireUnlock ino | .held ino | .releaseFstat ino | .releaseUnlink ino
  | .releaseUnlock ino | .probeUnlock ino => some ino
  | _ => none

/-- The inode that an `acquire_daemon_lock` is about to lock. -/
def LockPc.locksNext : LockPc → Option Ino
  | .acquireFlock ino => some ino
  | _ => none

/-- The private directory and its processes. -/
structure LockSys (Proc : Type) where
  name : Option Ino
  fresh : Ino
  owner : Ino → Option Proc
  content : Ino → List UInt8
  pc : Proc → LockPc

/-- What may happen next. `alive` is what `kill(pid, 0)` says of the pid in the file. -/
inductive LockLabel (Proc : Type)
  | acquire (p : Proc)
  | release (p : Proc)
  | probe (p : Proc)
  | advance (p : Proc) (fault : Bool) (alive : Bool)
  /-- `write_daemon_lock_pid`, one of its calls. -/
  | write (p : Proc) (content : List UInt8)
  | die (p : Proc)

/-- The process a label moves. -/
def LockLabel.actor {Proc : Type} : LockLabel Proc → Proc
  | .acquire p | .release p | .probe p | .advance p _ _ | .write p _ | .die p => p

namespace LockSys

variable {Proc : Type} [DecidableEq Proc]

/-- A directory with or without a lock file, no process in a call. -/
def init (name : Option Ino) (fresh : Ino) (content : Ino → List UInt8) : LockSys Proc :=
  ⟨name, fresh, fun _ => none, content, fun _ => .idle⟩

def setPc (S : LockSys Proc) (p : Proc) (pc : LockPc) : LockSys Proc :=
  { S with pc := Function.update S.pc p pc }

def setOwner (S : LockSys Proc) (ino : Ino) (owner : Option Proc) : LockSys Proc :=
  { S with owner := Function.update S.owner ino owner }

/-- `openat` with `O_CREAT`: the inode behind the descriptor. -/
def openCreate (S : LockSys Proc) : Ino × LockSys Proc :=
  match S.name with
  | some ino => (ino, S)
  | none =>
    (S.fresh, { S with
      name := some S.fresh
      fresh := S.fresh + 1
      content := Function.update S.content S.fresh [] })

/-- The next system call of `acquire_daemon_lock`. -/
def advanceAcquire (S : LockSys Proc) (p : Proc) (fault : Bool) : LockSys Proc :=
  match S.pc p with
  | .acquireOpen =>
    if fault then S.setPc p .refused
    else
      let (ino, S) := S.openCreate
      S.setPc p (.acquireFlock ino)
  | .acquireFlock ino =>
    if fault || (S.owner ino).isSome then S.setPc p .refused
    else (S.setOwner ino (some p)).setPc p (.acquireFstat ino)
  | .acquireFstat ino => S.setPc p (if fault then .acquireUnlock ino else .held ino)
  | .acquireUnlock ino => (S.setOwner ino none).setPc p .refused
  | _ => S

/-- The next system call of `release_daemon_lock`. -/
def advanceRelease (S : LockSys Proc) (p : Proc) (fault : Bool) : LockSys Proc :=
  match S.pc p with
  | .releaseFstat ino =>
    S.setPc p (if !fault && S.name = some ino then .releaseUnlink ino else .releaseUnlock ino)
  | .releaseUnlink ino => { S with name := if fault then S.name else none }.setPc p
      (.releaseUnlock ino)
  | .releaseUnlock ino => (S.setOwner ino none).setPc p .idle
  | _ => S

/-- The next system call of `daemon_lock_owner_alive`. -/
def advanceProbe (S : LockSys Proc) (p : Proc) (fault alive : Bool) : LockSys Proc :=
  match S.pc p with
  | .probeOpen =>
    match S.name with
    | none => S.setPc p (.probed none)
    | some ino => S.setPc p (if fault then .probed none else .probeFstat ino)
  | .probeFstat ino =>
    let size := (S.content ino).length
    S.setPc p (if fault || decide (size ≤ 1) || decide (31 < size) then .probed none
      else .probeFlock ino)
  | .probeFlock ino =>
    if fault then S.setPc p (.probed none)
    else if (S.owner ino).isSome then S.setPc p (.probeRead ino)
    else (S.setOwner ino (some p)).setPc p (.probeUnlock ino)
  | .probeUnlock ino => (S.setOwner ino none).setPc p (.probed none)
  | .probeRead ino =>
    S.setPc p (.probed (if fault || !alive then none else lockFilePid (S.content ino)))
  | _ => S

/-- The kernel closes the descriptors of a dead process. -/
def die (S : LockSys Proc) (p : Proc) : LockSys Proc :=
  match (S.pc p).locks with
  | none => S.setPc p .idle
  | some ino => (S.setOwner ino none).setPc p .idle

def step (S : LockSys Proc) : LockLabel Proc → LockSys Proc
  | .acquire p => if (S.pc p).atRest then S.setPc p .acquireOpen else S
  | .release p =>
    match S.pc p with
    | .held ino => S.setPc p (.releaseFstat ino)
    | _ => S
  | .probe p => if (S.pc p).atRest then S.setPc p .probeOpen else S
  | .advance p fault alive =>
    match S.pc p with
    | .acquireOpen | .acquireFlock _ | .acquireFstat _ | .acquireUnlock _ =>
      S.advanceAcquire p fault
    | .releaseFstat _ | .releaseUnlink _ | .releaseUnlock _ => S.advanceRelease p fault
    | .probeOpen | .probeFstat _ | .probeFlock _ | .probeUnlock _ | .probeRead _ =>
      S.advanceProbe p fault alive
    | .idle | .held _ | .refused | .probed _ => S
  | .write p content =>
    match S.pc p with
    | .held ino => { S with content := Function.update S.content ino content }
    | _ => S
  | .die p => S.die p

def run (S : LockSys Proc) (ls : List (LockLabel Proc)) : LockSys Proc := Lib.run step S ls

/-- `acquire_daemon_lock` has returned true and `release_daemon_lock` has not started. -/
def Holds (S : LockSys Proc) (p : Proc) : Prop := ∃ ino, S.pc p = .held ino

/-- The `flock` of an `acquire_daemon_lock` is made while the name still refers to the inode that
was opened. -/
def LocksNamed (S : LockSys Proc) : LockLabel Proc → Prop
  | .advance p _ _ => (S.pc p).locksNext = none ∨ (S.pc p).locksNext = S.name
  | _ => True

instance (S : LockSys Proc) : ∀ l, Decidable (S.LocksNamed l)
  | .advance _ _ _ => inferInstanceAs (Decidable (_ ∨ _))
  | .acquire _ | .release _ | .probe _ | .write _ _ | .die _ => isTrue trivial

/-! ## One daemon and its probes -/

/-- `d` has called `acquire_daemon_lock`; no other process is in a call. -/
def starting (d : Proc) (name : Option Ino) (fresh : Ino) (content : Ino → List UInt8) :
    LockSys Proc :=
  (init name fresh content).setPc d .acquireOpen

/-- What may happen while only `d` starts: other processes probe or die, and no call fails. -/
def OnlyProbes (d : Proc) (_S : LockSys Proc) : LockLabel Proc → Prop
  | .probe p | .die p => p ≠ d
  | .advance _ fault _ => fault = false
  | .acquire _ | .release _ | .write _ _ => False

instance (d : Proc) (S : LockSys Proc) : ∀ l, Decidable (OnlyProbes d S l)
  | .probe _ | .die _ => inferInstanceAs (Decidable (_ ≠ _))
  | .advance _ _ _ => inferInstanceAs (Decidable (_ = _))
  | .acquire _ | .release _ | .write _ _ => isFalse id

/-- No probe has locked the inode that `d` is about to lock. -/
def ProbeFree (d : Proc) (S : LockSys Proc) : LockLabel Proc → Prop
  | .advance p _ _ => p = d → ∀ ino, S.pc d = .acquireFlock ino → ∀ q, S.pc q ≠ .probeUnlock ino
  | _ => True

/-- The label is a system call of `d`. -/
def callOf (d : Proc) : LockLabel Proc → Bool
  | .advance p _ _ => p = d
  | _ => false

end LockSys
end Drmid
