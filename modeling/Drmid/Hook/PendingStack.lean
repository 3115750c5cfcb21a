import Mathlib.Data.Set.Card
import Drmid.Hook.Pending

/-!
# Bounded per-thread stacks: what the pending table is for

The abstract model of the pending table: a finite map from task pointer to the pid and tgid the
stack was opened under and a non-empty stack of at most four frames. `PendingMap.Push` and
`PendingMap.Pop` say what one operation may do to the map; `pendingMap` reads the map off the
table. That the emitters refine the model is proved in `Proof/PendingTable.lean`.
-/

namespace Drmid

/-- The open requests of one thread, oldest first. -/
@[ext] structure PendingStack where
  pid : UInt32
  tgid : UInt32
  frames : List BinderPendingFrame
  nonempty : frames ≠ []
  bounded : frames.length ≤ 4

namespace PendingStack

/-- The innermost request. -/
def top (st : PendingStack) : BinderPendingFrame := st.frames.getLast st.nonempty

/-- A stack of one frame. -/
def single (t : TaskIdentity) (f : BinderPendingFrame) : PendingStack :=
  ⟨t.pid, t.tgid, [f], by simp, by simp⟩

/-- One frame more. -/
def push (st : PendingStack) (f : BinderPendingFrame) (h : st.frames.length < 4) : PendingStack :=
  ⟨st.pid, st.tgid, st.frames ++ [f], by simp, by simpa using h⟩

/-- The stack without its top frame, if another one is left. -/
def pop (st : PendingStack) : Option PendingStack :=
  if h : st.frames.dropLast ≠ [] then
    some ⟨st.pid, st.tgid, st.frames.dropLast, h, by
      have := st.bounded
      simp only [List.length_dropLast]
      omega⟩
  else none

/-- The stack was opened by this thread. -/
def Owner (st : PendingStack) (t : TaskIdentity) : Prop := st.pid = t.pid ∧ st.tgid = t.tgid

end PendingStack

abbrev PendingMap := UInt64 → Option PendingStack

namespace PendingMap

/-- The tasks of a bucket that hold a stack. -/
def holders (M : PendingMap) (b : Fin 32) : Set UInt64 := {u | pendingBucket u = b ∧ M u ≠ none}

/-- What a push of `f` by thread `t` may do. -/
inductive Push (M : PendingMap) (t : TaskIdentity) (f : BinderPendingFrame) : PendingMap → Prop
  | append {st : PendingStack} (hM : M t.kaddr = some st) (ho : st.Owner t)
      (h : st.frames.length < 4) : Push M t f (Function.update M t.kaddr (some (st.push f h)))
  | overflow {st : PendingStack} (hM : M t.kaddr = some st) (ho : st.Owner t)
      (h : st.frames.length = 4) : Push M t f M
  | reclaim {st : PendingStack} (hM : M t.kaddr = some st) (ho : ¬st.Owner t) :
      Push M t f (Function.update M t.kaddr (some (.single t f)))
  | fresh (hM : M t.kaddr = none) (hroom : (M.holders (pendingBucket t.kaddr)).ncard < 8) :
      Push M t f (Function.update M t.kaddr (some (.single t f)))
  | evict {v : UInt64} {sv : PendingStack} (hM : M t.kaddr = none)
      (hfull : (M.holders (pendingBucket t.kaddr)).ncard = 8)
      (hb : pendingBucket v = pendingBucket t.kaddr) (hv : M v = some sv)
      (holdest : ∀ u su, pendingBucket u = pendingBucket t.kaddr → M u = some su →
        sv.top.requestEventId ≤ su.top.requestEventId) :
      Push M t f (Function.update (Function.update M v none) t.kaddr (some (.single t f)))

/-- A push by `t` takes the slot of task `u`: all eight ways of the bucket are held by other tasks
and `u` is the one whose top frame is oldest. -/
def Evicts (M : PendingMap) (t : TaskIdentity) (u : UInt64) : Prop :=
  M t.kaddr = none ∧ (M.holders (pendingBucket t.kaddr)).ncard = 8 ∧
    pendingBucket u = pendingBucket t.kaddr ∧ ∃ su, M u = some su ∧
      ∀ v sv, pendingBucket v = pendingBucket t.kaddr → M v = some sv →
        su.top.requestEventId ≤ sv.top.requestEventId

/-- What a pop by the thread with task pointer `task` does and returns, under the active HAL
identity generation `g`. -/
inductive Pop (M : PendingMap) (task g : UInt64) : UInt64 × UInt32 → PendingMap → Prop
  | miss (hM : M task = none) : Pop M task g (0, 0) M
  | fresh {st : PendingStack} (hM : M task = some st) (hg : st.top.halIdentityGeneration = g) :
      Pop M task g (st.top.requestEventId, st.top.parcelFlags) (Function.update M task st.pop)
  | stale {st : PendingStack} (hM : M task = some st) (hg : st.top.halIdentityGeneration ≠ g) :
      Pop M task g (0, 0) (Function.update M task st.pop)

end PendingMap

/-! ## Operations under the lock -/

/-- One `emit_pending_push` or `emit_pending_pop` whose try-lock succeeded. -/
inductive PendingOp
  | push (t : TaskIdentity) (eventId : UInt64) (s : ParserScratch)
  | pop (task : UInt64) (terminalReply : Bool) (s : ParserScratch)

namespace PendingOp

/-- The thread that runs the operation. -/
def task : PendingOp → UInt64
  | push t _ _ => t.kaddr
  | pop task _ _ => task

/-- The event id a push brings. -/
def eventId : PendingOp → Option UInt64
  | push _ id _ => some id
  | pop _ _ _ => none

/-- The context after the operation. -/
def exec (ctx : KernelCounterContext) : PendingOp → KernelCounterContext
  | push t id s => (emitPendingPush t true id s ctx).2
  | pop task terminal s => (emitPendingPop task true terminal s ctx).ctx

/-- The request id and parcel flags a pop hands to the reply parser. -/
def result (ctx : KernelCounterContext) : PendingOp → UInt64 × UInt32
  | push _ _ _ => (0, 0)
  | pop task terminal s =>
    ((emitPendingPop task true terminal s ctx).requestId,
      (emitPendingPop task true terminal s ctx).flags)

/-- What the operation does to the map, the active generation being `g` throughout. -/
inductive Step (g : UInt64) (M : PendingMap) : PendingOp → UInt64 × UInt32 → PendingMap → Prop
  | oneWay {t : TaskIdentity} {id : UInt64} {s : ParserScratch}
      (h : s.transaction.oneWay = true) : Step g M (.push t id s) (0, 0) M
  | push {t : TaskIdentity} {id : UInt64} {s : ParserScratch} {M' : PendingMap}
      (h : s.transaction.oneWay = false) (hpush : PendingMap.Push M t (pendingFrameOf id g s) M') :
      Step g M (.push t id s) (0, 0) M'
  | miss {task : UInt64} {terminal : Bool} {s : ParserScratch} (hM : M task = none) :
      Step g M (.pop task terminal s) (0, 0) M
  | pop {task : UInt64} {terminal : Bool} {s : ParserScratch} {st : PendingStack}
      (hM : M task = some st) :
      Step g M (.pop task terminal s) (st.top.requestEventId, st.top.parcelFlags)
        (Function.update M task st.pop)

end PendingOp

/-! ## The map a table stands for -/

/-- The stack in an occupied slot. -/
def BinderPendingSlot.stack (slot : BinderPendingSlot) : Option PendingStack :=
  if h : slot.frameList ≠ [] then
    some ⟨slot.pid, slot.tgid, slot.frameList, h, by simp [BinderPendingSlot.frameList]⟩
  else none

def pendingMap (pending : Fin 256 → BinderPendingSlot) : PendingMap := fun task =>
  (pendingTable.lookup pending task).bind BinderPendingSlot.stack

/-- What holds of the table in every reachable state: each occupied slot lies in the bucket of its
task pointer, no task pointer occupies two slots, and an occupied slot holds one to four frames. -/
structure PendingInv (pending : Fin 256 → BinderPendingSlot) : Prop where
  bucket : ∀ i, (pending i).taskKaddr ≠ 0 →
    i.val / 8 = ((pending i).taskKaddr >>> 6 &&& 31).toNat
  unique : ∀ i j, (pending i).taskKaddr ≠ 0 → (pending i).taskKaddr = (pending j).taskKaddr → i = j
  depth_pos : ∀ i, (pending i).taskKaddr ≠ 0 → 1 ≤ (pending i).depth.toNat
  depth_le : ∀ i, (pending i).taskKaddr ≠ 0 → (pending i).depth.toNat ≤ 4

/-- The occupied slots are exactly the stacks of the map. -/
structure Represents (pending : Fin 256 → BinderPendingSlot) (M : PendingMap) : Prop
    extends PendingInv pending where
  occupied : ∀ i, (pending i).taskKaddr ≠ 0 → ∃ st, M (pending i).taskKaddr = some st ∧
    st.pid = (pending i).pid ∧ st.tgid = (pending i).tgid ∧ st.frames = (pending i).frameList
  held : ∀ task st, M task = some st → task ≠ 0 ∧ ∃ i, (pending i).taskKaddr = task

end Drmid
