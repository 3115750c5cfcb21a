import Drmid.Hook.Scratch
import Drmid.Lib.SetAssoc

/-!
# The pending table

`emit_pending_push` and `emit_pending_pop`: 256 slots in 32 buckets of eight ways, a slot holding
the stack of open requests of one Binder thread. The unrolled scan of a bucket is a recursion over
the ways with its three registers (`x14` first free way, `x10` oldest way, `x17` its event id) as
accumulator.

Both emitters run between a bounded try-lock and its release, so each is one atomic step here; the
argument `acquired` is what the try-lock said.
-/

namespace Drmid

/-- What the handler reads off `current`: the task pointer and the two ids at the task offsets. -/
structure TaskIdentity where
  kaddr : UInt64
  pid : UInt32
  tgid : UInt32
  deriving DecidableEq, Repr

/-! ## Slots -/

/-- `(task >> 6) & (kPendingBucketCount - 1)`, of 32 buckets. -/
def pendingBucket (task : UInt64) : Fin 32 := Fin.ofNat 32 (task >>> 6 &&& 31).toNat

/-- Way `w` of bucket `b`. -/
def slotAt (b : Fin 32) (w : Fin 8) : Fin 256 := ⟨b.val * 8 + w.val, by omega⟩

/-- The table a zeroed context starts with. -/
def emptyPending : Fin 256 → BinderPendingSlot := fun _ => BinderPendingSlot.zero

namespace BinderPendingSlot

/-- `frames[i]`. The code never indexes past `kPendingDepth` (`PendingInv.depth_le`). -/
def frame (slot : BinderPendingSlot) (i : UInt32) : BinderPendingFrame :=
  slot.frames[i.toNat]?.getD .zero

/-- The live frames, oldest first. -/
def frameList (slot : BinderPendingSlot) : List BinderPendingFrame :=
  slot.frames.toList.take slot.depth.toNat

/-- The event id that ages the slot: its top frame's, or 0 for a slot without frames. -/
def topEventId (slot : BinderPendingSlot) : UInt64 :=
  if slot.depth = 0 then 0 else (slot.frame (slot.depth - 1)).requestEventId

/-- The stores at label `claim`; the old frames stay in place below the new depth 0. -/
def claim (slot : BinderPendingSlot) (t : TaskIdentity) : BinderPendingSlot :=
  { slot with taskKaddr := t.kaddr, pid := t.pid, tgid := t.tgid, depth := 0 }

/-- A frame stored at `frames[depth]` and the depth raised. -/
def pushFrame (slot : BinderPendingSlot) (f : BinderPendingFrame) : BinderPendingSlot :=
  { slot with frames := slot.frames.setIfInBounds slot.depth.toNat f, depth := slot.depth + 1 }

/-- The depth lowered; the slot becomes free when no frame remains. -/
def popFrame (slot : BinderPendingSlot) : BinderPendingSlot :=
  { slot with
    depth := slot.depth - 1
    taskKaddr := if slot.depth - 1 = 0 then 0 else slot.taskKaddr }

end BinderPendingSlot

/-- The pending slots as a set-associative table keyed by task pointer. -/
def pendingTable : Lib.SetAssoc (Fin 256) BinderPendingSlot UInt64 where
  key slot := if slot.taskKaddr = 0 then none else some slot.taskKaddr
  home task := (List.finRange 8).map (slotAt (pendingBucket task))

/-! ## Push -/

/-- The scan's registers. -/
structure PushScan where
  firstEmpty : Option (Fin 8)
  oldest : Option (Fin 8)
  oldestId : UInt64
  deriving DecidableEq, Repr

/-- Where the scan of a bucket ends. -/
inductive PushTarget
  | found (w : Fin 8)
  | reclaimIdentity (w : Fin 8)
  | useEmpty (w : Fin 8)
  | evict (w : Fin 8)
  deriving DecidableEq, Repr

def PushTarget.way : PushTarget → Fin 8
  | found w | reclaimIdentity w | useEmpty w | evict w => w

/-- Label `consider_oldest`. -/
def PushScan.considerOldest (acc : PushScan) (w : Fin 8) (slot : BinderPendingSlot) : PushScan :=
  if slot.depth = 0 ∨ acc.oldest = none ∨ slot.topEventId < acc.oldestId then
    { acc with oldest := some w, oldestId := slot.topEventId }
  else acc

/-- Label `remember_empty`. -/
def PushScan.rememberEmpty (acc : PushScan) (w : Fin 8) : PushScan :=
  { acc with firstEmpty := acc.firstEmpty.or (some w) }

/-- The unrolled eight-way scan. After the last way a free way is preferred to the oldest one;
without a free way every way was held, so `x10` is set and the default is never taken. -/
def pushScan (bucket : Fin 8 → BinderPendingSlot) (t : TaskIdentity) :
    List (Fin 8) → PushScan → PushTarget
  | [], acc =>
    match acc.firstEmpty with
    | some w => .useEmpty w
    | none => .evict (acc.oldest.getD 0)
  | w :: ws, acc =>
    if (bucket w).taskKaddr = 0 then pushScan bucket t ws (acc.rememberEmpty w)
    else if (bucket w).taskKaddr = t.kaddr then
      if (bucket w).pid = t.pid ∧ (bucket w).tgid = t.tgid then .found w else .reclaimIdentity w
    else pushScan bucket t ws (acc.considerOldest w (bucket w))

/-- The slot the scan selects for `t`. -/
def pushTarget (pending : Fin 256 → BinderPendingSlot) (t : TaskIdentity) : PushTarget :=
  pushScan (fun w => pending (slotAt (pendingBucket t.kaddr) w)) t (List.finRange 8)
    ⟨none, none, 0xffffffffffffffff⟩

/-- The frame written for the request in the scratch area. -/
def pendingFrameOf (eventId generation : UInt64) (s : ParserScratch) : BinderPendingFrame where
  requestEventId := eventId
  target := s.transaction.target
  dataSize := s.transaction.dataSize
  halIdentityGeneration := generation
  code := s.transaction.code
  flags := s.transaction.flags
  parcelFlags := s.parcelFlags

/-- The slot a target stands for when the frame is about to be written: as it is when the thread
was found, claimed anew otherwise. -/
def PushTarget.opened (target : PushTarget) (slot : BinderPendingSlot) (t : TaskIdentity) :
    BinderPendingSlot :=
  match target with
  | .found _ => slot
  | _ => slot.claim t

/-- A reclaimed or evicted slot counts as a collision. -/
def PushTarget.collides : PushTarget → Bool
  | .reclaimIdentity _ | .evict _ => true
  | _ => false

/-- `emit_pending_push`. -/
def emitPendingPush (t : TaskIdentity) (acquired : Bool) (eventId : UInt64) (s : ParserScratch)
    (ctx : KernelCounterContext) : ParserScratch × KernelCounterContext :=
  if s.transaction.oneWay then (s, ctx.emitCounterIncrement .pendingOnewayIgnored)
  else if !acquired then (s, ctx.emitCounterIncrement .pendingLockDrops)
  else
    let target := pushTarget ctx.pending t
    let i := slotAt (pendingBucket t.kaddr) target.way
    let slot := target.opened (ctx.pending i) t
    let ctx := if target.collides then ctx.emitCounterIncrement .pendingCollisions else ctx
    if kPendingDepth ≤ slot.depth then
      (s, { ctx with pending := Function.update ctx.pending i slot }.emitCounterIncrement
        .pendingOverflows)
    else
      let s := { s with halIdentityGeneration := ctx.activeHalGeneration }
      let frame := pendingFrameOf eventId s.halIdentityGeneration s
      (s, { ctx with pending := Function.update ctx.pending i (slot.pushFrame frame) }
        |>.emitCounterIncrement .pendingPushes)

/-! ## Pop -/

/-- What a pop leaves: the request id in `x21`, its parcel flags in `w17`, the scratch and the
context. -/
structure PendingPop where
  requestId : UInt64
  flags : UInt32
  scratch : ParserScratch
  ctx : KernelCounterContext

/-- The scan of `emit_pending_pop`: the first way of the bucket with this task pointer. -/
def popScan (pending : Fin 256 → BinderPendingSlot) (task : UInt64) : Option (Fin 8) :=
  (List.finRange 8).find? fun w =>
    (pending (slotAt (pendingBucket task) w)).taskKaddr == task

/-- Label `miss`. -/
def popMiss (s : ParserScratch) (ctx : KernelCounterContext) : PendingPop :=
  ⟨0, 0, s, ctx.emitCounterIncrement .pendingMisses⟩

/-- `emit_pending_pop`. Only the task pointer is compared. -/
def emitPendingPop (task : UInt64) (acquired terminalReply : Bool) (s : ParserScratch)
    (ctx : KernelCounterContext) : PendingPop :=
  if !acquired then ⟨0, 0, s, ctx.emitCounterIncrement .pendingLockDrops⟩
  else
    match popScan ctx.pending task with
    | none => popMiss s ctx
    | some w =>
      let i := slotAt (pendingBucket task) w
      let slot := ctx.pending i
      if slot.depth = 0 then popMiss s ctx
      else
        let frame := slot.frame (slot.depth - 1)
        let s := { s with halIdentityGeneration := ctx.activeHalGeneration }
        let ctx := { ctx with pending := Function.update ctx.pending i slot.popFrame }
        if s.halIdentityGeneration = frame.halIdentityGeneration then
          if frame.requestEventId = 0 then ⟨0, frame.parcelFlags, s, ctx⟩
          else
            ⟨frame.requestEventId, frame.parcelFlags, s, ctx.emitCounterIncrement
              (if terminalReply then .pendingTerminalPops else .pendingPops)⟩
        else ⟨0, 0, s, ctx.emitCounterIncrement .pendingGenerationStale⟩

end Drmid
