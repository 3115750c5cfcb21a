import Drmid.Lib.Run
import Drmid.Hook.Stream

/-!
# The handler

What `build_readonly_parser_handler` emits: the identity gate, the walk over the unconsumed `'c'`
stream before the original `binder_ioctl`, the call of the original, and the walk over the returned
`'r'` stream after it. The driver is not modelled; an `Invocation` says what it returned and what
user memory it left, whatever it was called with. The function's stack frame lives in one
invocation, so it is the record `PreCall` between the two halves.

Ghosts: `invoked` is the calls of the original with the memory each met, `bc` and `br` are the
commands each of the two walks handed on.
-/

namespace Drmid

/-- `binder_write_read`, 48 bytes. -/
structure BinderWriteRead where
  writeSize : UInt64
  writeConsumed : UInt64
  writeBuffer : UInt64
  readSize : UInt64
  readConsumed : UInt64
  readBuffer : UInt64
  deriving DecidableEq, Repr

/-- The header that the 48 copied bytes hold. -/
def BinderWriteRead.ofBytes (b : Nat → UInt8) : BinderWriteRead where
  writeSize := le64 b
  writeConsumed := le64 fun i => b (i + 8)
  writeBuffer := le64 fun i => b (i + 16)
  readSize := le64 fun i => b (i + 24)
  readConsumed := le64 fun i => b (i + 32)
  readBuffer := le64 fun i => b (i + 40)

/-- The three arguments `x0`, `x1` and `x2` of `binder_ioctl`. -/
structure Ioctl where
  file : UInt64
  cmd : UInt64
  arg : UInt64
  deriving DecidableEq, Repr

/-- All that an invocation of the handler meets: its arguments, user memory at entry, what the
original returned and left in user memory, what other threads did to the context before the call
and during the original, the try-lock's answers, and the stack bytes under each walk. -/
structure Invocation where
  io : Ioctl
  user : UserMemory
  ret : UInt64
  after : UserMemory
  since : KernelCounterContext → KernelCounterContext
  during : KernelCounterContext → KernelCounterContext
  acquired : StreamType → Nat → Bool
  scratch : StreamType → ParserScratch

/-- What an invocation leaves. -/
structure Outcome where
  ret : UInt64
  user : UserMemory
  ctx : KernelCounterContext
  invoked : List (Ioctl × UserMemory)
  bc : List Handed
  br : List Handed

/-! ## The gate -/

/-- The unrolled loop of `emit_hal_identity_gate` from entry `index` on. -/
def gateScan (ids : HalIdentitySet) (tgid : UInt32) : List (Fin 4) → Bool
  | [] => false
  | index :: rest =>
    if ids.count.toNat < index.val + 1 then false
    else if tgid = ids.tgids[index] then true
    else gateScan ids tgid rest

theorem gateScan_cons (ids : HalIdentitySet) (tgid : UInt32) (index : Fin 4)
    (rest : List (Fin 4)) : gateScan ids tgid (index :: rest) =
      if ids.count.toNat < index.val + 1 then false
      else if tgid = ids.tgids.get index then true
      else gateScan ids tgid rest := rfl

/-- `emit_hal_identity_gate`: `true` is label `tracked`, `false` is label `bypass`. -/
def emitHalIdentityGate (installerTgid : UInt32) (t : TaskIdentity) (ctx : KernelCounterContext) :
    Bool :=
  if t.kaddr = 0 then false
  else if t.tgid = installerTgid then true
  else if kHalIdentityLimit < ctx.activeIdentities.count.toNat then false
  else gateScan ctx.activeIdentities t.tgid (List.finRange 4)

/-! ## Before the original -/

/-- The copy of the header at `arg`. -/
def copyHeader (u : UserMemory) (arg : UInt64) : Option BinderWriteRead :=
  if arg = 0 then none else (u.copyFromUser arg 48).map .ofBytes

/-- The frame at label `before_original`: the header's fields when `kLocalPreHeaderValid` is set,
the memory and context the original meets, and the `'c'` commands handed on. -/
structure PreCall where
  header : Option BinderWriteRead
  user : UserMemory
  ctx : KernelCounterContext
  bc : List Handed

/-- From label `tracked` to `before_original`. -/
def preCall (t : TaskIdentity) (inv : Invocation) (ctx : KernelCounterContext) : PreCall :=
  let ctx := ((ctx.emitCounterIncrement .halGateHits).emitCounterIncrement .activeCalls)
    |>.emitCounterIncrement .preCalls
  if inv.io.cmd.toUInt32 ≠ binderWriteRead then ⟨none, inv.user, ctx, []⟩
  else
    let ctx := ctx.emitCounterIncrement .bwrCalls
    match copyHeader inv.user inv.io.arg with
    | none => ⟨none, inv.user, ctx.emitCounterIncrement .preHeaderFaults, []⟩
    | some h =>
      let ctx := ctx.emitCounterIncrement .preHeaderOk
      if h.writeSize < h.writeConsumed then
        ⟨none, inv.user, ctx.emitCounterIncrement .preHeaderFaults, []⟩
      else
        let w := emitParseCommandStream t .bc (inv.acquired .bc)
          (h.writeBuffer + h.writeConsumed) (h.writeSize - h.writeConsumed)
          ⟨inv.user, inv.scratch .bc, ctx, []⟩
        ⟨some h, w.user, w.ctx, w.handed⟩

/-! ## After the original -/

/-- The checks before the walk over the `'r'` stream: sizes and pointers as before the call, and
the consumed counts within the sizes. -/
def postHeaderValid (pre post : BinderWriteRead) : Bool :=
  post.writeSize == pre.writeSize && post.writeBuffer == pre.writeBuffer &&
    post.readSize == pre.readSize && post.readBuffer == pre.readBuffer &&
    decide (post.writeConsumed ≤ pre.writeSize) &&
    decide (pre.writeConsumed ≤ post.writeConsumed) &&
    decide (post.readConsumed ≤ pre.readSize)

/-- From the original's return to label `post_done`, on the memory the original left. -/
def postParse (t : TaskIdentity) (inv : Invocation) (header : Option BinderWriteRead)
    (ctx : KernelCounterContext) : Walk :=
  let w : Walk := ⟨inv.after, inv.scratch .br, ctx, []⟩
  match header with
  | none => w
  | some pre =>
    match copyHeader inv.after inv.io.arg with
    | none => w.count .postHeaderFaults
    | some post =>
      let w := w.count .postHeaderOk
      if postHeaderValid pre post then
        emitParseCommandStream t .br (inv.acquired .br) post.readBuffer post.readConsumed w
      else w.count .invalidConsumed

/-- From label `tracked` on. -/
def trackedCall (t : TaskIdentity) (inv : Invocation) (ctx : KernelCounterContext) : Outcome :=
  let pre := preCall t inv ctx
  let w := postParse t inv pre.header (inv.during pre.ctx)
  ⟨inv.ret, w.user, (w.ctx.emitCounterIncrement .postCalls).emitAtomicDecrement .activeCalls,
    [(inv.io, pre.user)], pre.bc, w.handed⟩

/-- The handler `build_readonly_parser_handler` emits. -/
def handler (installerTgid : UInt32) (t : TaskIdentity) (inv : Invocation)
    (ctx : KernelCounterContext) : Outcome :=
  if emitHalIdentityGate installerTgid t ctx then trackedCall t inv ctx
  else ⟨inv.ret, inv.after, inv.during ctx, [(inv.io, inv.user)], [], []⟩

/-! ## Runs of one thread -/

/-- The context as one thread's calls left it, and the outcome of each call. -/
structure Calls where
  ctx : KernelCounterContext
  outcomes : List Outcome

namespace Calls

def init (ctx : KernelCounterContext) : Calls := ⟨ctx, []⟩

/-- The next call, after what other threads did since the last one. -/
def step (installerTgid : UInt32) (t : TaskIdentity) (C : Calls) (inv : Invocation) : Calls :=
  let out := handler installerTgid t inv (inv.since C.ctx)
  ⟨out.ctx, C.outcomes ++ [out]⟩

def run (installerTgid : UInt32) (t : TaskIdentity) (C : Calls) (invs : List Invocation) : Calls :=
  Lib.run (step installerTgid t) C invs

/-- The gate lets the call through. -/
def Tracked (installerTgid : UInt32) (t : TaskIdentity) (C : Calls) (inv : Invocation) : Prop :=
  emitHalIdentityGate installerTgid t (inv.since C.ctx) = true

/-- The `'c'` commands handed on over all calls. -/
def bc (C : Calls) : List Handed := C.outcomes.flatMap Outcome.bc

/-- The `'r'` commands handed on over all calls. -/
def br (C : Calls) : List Handed := C.outcomes.flatMap Outcome.br

end Calls

/-! ## Well-framed calls -/

/-- A call with what its two sides mean by it: the header before and after the original, the
commands the caller left for the driver and the commands the driver delivered. -/
structure Exchange where
  inv : Invocation
  pre : BinderWriteRead
  post : BinderWriteRead
  submitted : List Command
  delivered : List Command

namespace Exchange

/-- The submitted commands the driver got through. -/
def consumed (x : Exchange) : List Command :=
  (splitConsumed (x.post.writeConsumed - x.pre.writeConsumed).toNat x.submitted).1

/-- The submitted commands the driver did not get through. -/
def left (x : Exchange) : List Command :=
  (splitConsumed (x.post.writeConsumed - x.pre.writeConsumed).toNat x.submitted).2

/-- A `BINDER_WRITE_READ` with readable headers and streams. The driver advances the two consumed
counts by any amounts within the sizes and keeps the rest of the header. -/
structure WellFramed (x : Exchange) : Prop where
  cmd : x.inv.io.cmd.toUInt32 = binderWriteRead
  before : copyHeader x.inv.user x.inv.io.arg = some x.pre
  after : copyHeader x.inv.after x.inv.io.arg = some x.post
  kept : x.post = { x.pre with
    writeConsumed := x.post.writeConsumed, readConsumed := x.post.readConsumed }
  write_mono : x.pre.writeConsumed ≤ x.post.writeConsumed
  write_le : x.post.writeConsumed ≤ x.pre.writeSize
  read_mono : x.pre.readConsumed ≤ x.post.readConsumed
  read_le : x.post.readConsumed ≤ x.pre.readSize
  submitted : StreamIn .bc x.inv.user (x.pre.writeBuffer + x.pre.writeConsumed)
    (x.pre.writeSize - x.pre.writeConsumed) x.submitted
  delivered : StreamIn .br x.inv.after (x.pre.readBuffer + x.pre.readConsumed)
    (x.post.readConsumed - x.pre.readConsumed) x.delivered

end Exchange
end Drmid
