import Drmid.Lib.Pool
import Drmid.Hook.Handler
import Drmid.Hook.Race

/-!
# Handler calls interleaved

Any number of threads are in the handler at once, each at its own place of the code, while the
daemon writes to the context. A step of a call is what it does between two points where others may
get in: an atomic counter update, a copy from or to user memory, a section under the pending lock,
a stage of `emit_parse_hal_correlated_reply`, or the original `binder_ioctl`. The gate's loads are
one step.

Everything a run may choose is in its labels: who enters with which arguments, who moves, what user
memory and which answer of the try-lock the step meets, what the original returns and leaves in
user memory, what lies on the stack under a walk, and what the daemon does. A kernel operation of a
publish call may come at any time and from any stage of a call, so every run of publish calls is
covered.

Ghosts of a call: `invoked`, the calls of the original with what it returned, and `tracked`, the
answer of the gate.
-/

namespace Drmid

open KernelCounterContext

/-! ## Stages -/

/-- The registers of a walk at label `loop`: what `x22` lacks to `kMaxParsedCommands`, `x19` and
`x20`. -/
structure Cursor where
  left : Nat
  addr : UInt64
  remaining : UInt64
  deriving DecidableEq, Repr

/-- Where a walk is. `next` is the cursor it goes on with after the command, if any. -/
inductive WalkStage
  | loop (cursor : Cursor) (s : ParserScratch)
  | metadata (next : Option Cursor) (command : UInt32) (addr : UInt64) (s : ParserScratch)
  | capture (next : Option Cursor) (command : UInt32) (s : ParserScratch)
  | record (next : Option Cursor) (r : Recording)
  | reply (next : Option Cursor) (stage : ParseStage) (r : Recording)

/-- Where a call is. `hit`, `enter` and `pre` are the three increments at label `tracked`, `header`
is the copy of the header, `original` is label `before_original`, `post` and `exit` are the
increment and the decrement after label `post_done`. -/
inductive CallStage
  | gate | bypass
  | hit | enter | pre | header
  | walk (stream : StreamType) (w : WalkStage)
  | original | postHeader | post | exit
  | returned

/-- The words of the stack frame that outlive helper calls: `kLocalFile`, `kLocalCmd` and
`kLocalArg`, and `kLocalReturn`. -/
structure HookFrame where
  args : Ioctl
  ret : UInt64
  deriving DecidableEq, Repr

/-- A call of the handler: its task and arguments, its stack frame, the header when
`kLocalPreHeaderValid` is set, and `x0`. -/
structure HookCall where
  task : TaskIdentity
  io : Ioctl
  stage : CallStage
  frame : HookFrame
  header : Option BinderWriteRead
  x0 : UInt64
  invoked : List (Ioctl × UInt64)
  tracked : Bool

/-- What a step of a call meets. `x0` is what the helpers it calls leave there. -/
structure CallEvent where
  user : UserMemory
  acquired : Bool
  ret : UInt64
  after : UserMemory
  scratch : ParserScratch
  x0 : UInt64

/-! ## A step of a walk -/

/-- What a step of a walk leaves; `none` is label `done`. -/
structure WalkStep where
  stage : Option WalkStage
  user : UserMemory
  ctx : KernelCounterContext

namespace WalkStage

/-- The opening of `emit_parse_command_stream`. -/
def start (stream : StreamType) (userBuffer consumed : UInt64) (s : ParserScratch)
    (ctx : KernelCounterContext) : Option WalkStage × KernelCounterContext :=
  if consumed = 0 then (none, ctx)
  else if userBuffer = 0 then (none, ctx.emitCounterIncrement stream.counters.copyFault)
  else if kMaxParsedStreamBytes < consumed then
    (none, ctx.emitCounterIncrement stream.counters.capped)
  else
    (some (.loop ⟨kMaxParsedCommands, userBuffer, consumed⟩ s),
      ctx.emitCounterIncrement stream.counters.stream)

/-- From label `command_processed` on. -/
def resume (s : ParserScratch) (next : Option Cursor) : Option WalkStage := next.map (.loop · s)

/-- Label `loop`, up to the copy of the transaction data. -/
def stepLoop (stream : StreamType) (u : UserMemory) (cursor : Cursor) (s : ParserScratch)
    (ctx : KernelCounterContext) : Option WalkStage × KernelCounterContext :=
  if cursor.left = 0 then (none, ctx.emitCounterIncrement stream.counters.capped)
  else if cursor.remaining < 4 then (none, ctx.emitCounterIncrement stream.counters.boundary)
  else
    match u.copyFromUser cursor.addr 4 with
    | none => (none, ctx.emitCounterIncrement stream.counters.copyFault)
    | some data =>
      let command := le32 data
      let size := (iocSize command).toUInt64 + 4
      if iocType command ≠ stream.ioctl then
        (none, ctx.emitCounterIncrement stream.counters.boundary)
      else if cursor.remaining < size then
        (none, ctx.emitCounterIncrement stream.counters.boundary)
      else
        let ctx := ctx.emitCounterIncrement stream.counters.command
        let next : Option Cursor :=
          if cursor.remaining - size = 0 then none
          else some ⟨cursor.left - 1, cursor.addr + size, cursor.remaining - size⟩
        if stream.transactionCommands.contains command then
          (some (.metadata next command cursor.addr s),
            ctx.emitCounterIncrement stream.counters.transaction)
        else (resume s next, ctx)

/-- The copy of the transaction data. -/
def stepMetadata (u : UserMemory) (next : Option Cursor) (command : UInt32) (addr : UInt64)
    (s : ParserScratch) (ctx : KernelCounterContext) : Option WalkStage × KernelCounterContext :=
  match u.copyFromUser (addr + 4) 64 with
  | none => (resume s next, ctx.emitCounterIncrement .transactionMetadataFaults)
  | some data => (some (.capture next command { s with transaction := .ofBytes data }), ctx)

/-- A stage of `emit_record_transaction`. The parse of a reply has stages of its own. -/
def stepRecording (e : CallEvent) (next : Option Cursor) (r : Recording)
    (ctx : KernelCounterContext) : WalkStep :=
  match r.stage with
  | .parse => ⟨some (.reply next .capture r), e.user, ctx⟩
  | .done => ⟨resume r.scratch next, e.user, ctx⟩
  | .pop | .reserve | .push | .publish =>
    let (r, u, ctx) := stepRecord e.acquired e.user r ctx
    ⟨some (.record next r), u, ctx⟩

/-- A stage of `emit_parse_hal_correlated_reply`; a branch to a label ends the parse. -/
def stepReply (u : UserMemory) (next : Option Cursor) (stage : ParseStage) (r : Recording)
    (ctx : KernelCounterContext) : WalkStep :=
  match stage.body r.requestId r.requestFlags ⟨u, r.scratch, ctx⟩ with
  | .ok st =>
    match stage.next with
    | some stage => ⟨some (.reply next stage { r with scratch := st.scratch }), st.user, st.ctx⟩
    | none => ⟨some (.record next { r with stage := .reserve, scratch := st.scratch }), st.user,
        st.ctx⟩
  | .error (label, st) =>
    let st := st.finish label
    ⟨some (.record next { r with stage := .reserve, scratch := st.scratch }), st.user, st.ctx⟩

/-- One step of a walk over a stream of task `t`. -/
def step (t : TaskIdentity) (stream : StreamType) (e : CallEvent) (ctx : KernelCounterContext) :
    WalkStage → WalkStep
  | .loop cursor s =>
    let (w, ctx) := stepLoop stream e.user cursor s ctx
    ⟨w, e.user, ctx⟩
  | .metadata next command addr s =>
    let (w, ctx) := stepMetadata e.user next command addr s ctx
    ⟨w, e.user, ctx⟩
  | .capture next command s =>
    let (r, ctx) := beginRecord t stream command e.user s ctx
    ⟨some (.record next r), e.user, ctx⟩
  | .record next r => stepRecording e next r ctx
  | .reply next stage r => stepReply e.user next stage r ctx

end WalkStage

/-! ## A step of a call -/

/-- What a step of a call leaves. -/
structure CallStep where
  call : HookCall
  user : UserMemory
  ctx : KernelCounterContext

/-- Label `before_original` or `post_done`, where a walk over the stream ends. -/
def StreamType.done : StreamType → CallStage
  | .bc => .original
  | .br => .post

/-- A walk goes on, or its label `done` is reached. -/
def CallStage.ofWalk (stream : StreamType) : Option WalkStage → CallStage
  | some w => .walk stream w
  | none => stream.done

/-- Between the increment of `active_calls` and its decrement. -/
def CallStage.between : CallStage → Bool
  | .gate | .bypass | .hit | .enter | .returned => false
  | .pre | .header | .walk _ _ | .original | .postHeader | .post | .exit => true

namespace HookCall

/-- From the comparison of `cmd` to the walk over the `'c'` stream. -/
def stepHeader (c : HookCall) (e : CallEvent) (ctx : KernelCounterContext) :
    HookCall × KernelCounterContext :=
  if c.io.cmd.toUInt32 ≠ binderWriteRead then ({ c with stage := .original, header := none }, ctx)
  else
    let ctx := ctx.emitCounterIncrement .bwrCalls
    match copyHeader e.user c.io.arg with
    | none =>
      ({ c with stage := .original, header := none }, ctx.emitCounterIncrement .preHeaderFaults)
    | some h =>
      let ctx := ctx.emitCounterIncrement .preHeaderOk
      if h.writeSize < h.writeConsumed then
        ({ c with stage := .original, header := none }, ctx.emitCounterIncrement .preHeaderFaults)
      else
        let (w, ctx) := WalkStage.start .bc (h.writeBuffer + h.writeConsumed)
          (h.writeSize - h.writeConsumed) e.scratch ctx
        ({ c with stage := .ofWalk .bc w, header := some h }, ctx)

/-- From the original's return to the walk over the `'r'` stream. -/
def stepPostHeader (c : HookCall) (e : CallEvent) (ctx : KernelCounterContext) :
    HookCall × KernelCounterContext :=
  match c.header with
  | none => ({ c with stage := .post }, ctx)
  | some pre =>
    match copyHeader e.user c.frame.args.arg with
    | none => ({ c with stage := .post }, ctx.emitCounterIncrement .postHeaderFaults)
    | some post =>
      let ctx := ctx.emitCounterIncrement .postHeaderOk
      if postHeaderValid pre post then
        let (w, ctx) := WalkStage.start .br post.readBuffer post.readConsumed e.scratch ctx
        ({ c with stage := .ofWalk .br w }, ctx)
      else ({ c with stage := .post }, ctx.emitCounterIncrement .invalidConsumed)

/-- `arm64_emit_call_original` with the arguments `args`. -/
def callOriginal (c : HookCall) (args : Ioctl) (e : CallEvent) (next : CallStage) : HookCall :=
  { c with stage := next, x0 := e.ret, invoked := c.invoked ++ [(args, e.ret)] }

/-- One step of a call. -/
def step (installerTgid : UInt32) (ctx : KernelCounterContext) (c : HookCall) (e : CallEvent) :
    CallStep :=
  match c.stage with
  | .gate =>
    if emitHalIdentityGate installerTgid c.task ctx then
      ⟨{ c with stage := .hit, tracked := true }, e.user, ctx⟩
    else ⟨{ c with stage := .bypass, tracked := false }, e.user, ctx⟩
  | .bypass => ⟨c.callOriginal c.io e .returned, e.after, ctx⟩
  | .hit => ⟨{ c with stage := .enter }, e.user, ctx.emitCounterIncrement .halGateHits⟩
  | .enter => ⟨{ c with stage := .pre }, e.user, ctx.emitCounterIncrement .activeCalls⟩
  | .pre =>
    ⟨{ c with stage := .header, frame := { c.frame with args := c.io } }, e.user,
      ctx.emitCounterIncrement .preCalls⟩
  | .header =>
    let (c, ctx) := c.stepHeader e ctx
    ⟨{ c with x0 := e.x0 }, e.user, ctx⟩
  | .walk stream w =>
    let s := w.step c.task stream e ctx
    ⟨{ c with stage := .ofWalk stream s.stage, x0 := e.x0 }, s.user, s.ctx⟩
  | .original =>
    let c := c.callOriginal c.frame.args e .postHeader
    ⟨{ c with frame := { c.frame with ret := c.x0 } }, e.after, ctx⟩
  | .postHeader =>
    let (c, ctx) := c.stepPostHeader e ctx
    ⟨{ c with x0 := e.x0 }, e.user, ctx⟩
  | .post =>
    ⟨{ c with stage := .exit, x0 := c.frame.ret }, e.user, ctx.emitCounterIncrement .postCalls⟩
  | .exit => ⟨{ c with stage := .returned }, e.user, ctx.emitAtomicDecrement .activeCalls⟩
  | .returned => ⟨c, e.user, ctx⟩

def between (c : HookCall) : Bool := c.stage.between

/-- A tracked call that has not returned. -/
def inFlight (c : HookCall) : Bool :=
  match c.stage with
  | .gate | .bypass | .returned => false
  | .hit | .enter | .pre | .header | .walk _ _ | .original | .postHeader | .post | .exit => true

/-- What a caller sees of its call. The original is invoked once at most, with the caller's
arguments; when the call has returned it was invoked, and `x0` is what it returned. -/
structure Transparent (c : HookCall) : Prop where
  atMostOnce : c.invoked = [] ∨ ∃ ret, c.invoked = [(c.io, ret)]
  returned : c.stage = .returned → c.invoked = [(c.io, c.x0)]
  between : c.between = true → c.tracked = true

end HookCall

/-! ## The system -/

/-- A task enters the handler with its arguments; `frame` is what lies on its stack. -/
structure Entry where
  task : TaskIdentity
  io : Ioctl
  frame : HookFrame
  deriving DecidableEq, Repr

/-- `x0` holds the first argument. -/
def Entry.call (x : Entry) : HookCall where
  task := x.task
  io := x.io
  stage := .gate
  frame := x.frame
  header := none
  x0 := x.io.file
  invoked := []
  tracked := false

/-- The counters that only the daemon writes. -/
def daemonCounters : List Counter :=
  [.runtimeConfigSwitches, .runtimeConfigRejections, .halIdentitySwitches, .halIdentityRejections,
    .halIdentityRestarts]

/-- A write of the daemon: a kernel operation of a publish call at any stage, or the write of a
counter of its own. -/
inductive DaemonWrite
  | config (k : KernelFaults RuntimeConfigSlot) (p : Publishing RuntimeConfigSlot)
  | identities (k : KernelFaults HalIdentitySet) (p : Publishing HalIdentitySet)
  | counter (c : { c : Counter // c ∈ daemonCounters }) (x : UInt64)

def DaemonWrite.exec (ctx : KernelCounterContext) : DaemonWrite → KernelCounterContext
  | .config k p => (configRegister.advance k ctx p).2
  | .identities k p => (identityRegister.advance k ctx p).2
  | .counter c x => { ctx with counter := Function.update ctx.counter c.1 x }

/-- The handler installed by `installerTgid`, as a machine of calls. -/
def hookMachine (installerTgid : UInt32) :
    Lib.PoolMachine KernelCounterContext HookCall Entry CallEvent DaemonWrite where
  spawn := Entry.call
  act ctx c e :=
    let s := c.step installerTgid ctx e
    (s.ctx, s.call)
  env := DaemonWrite.exec

abbrev HookLabel := Lib.PoolLabel Entry CallEvent DaemonWrite

/-- The shared context and the calls so far. -/
abbrev Hook := Lib.Pool KernelCounterContext HookCall

namespace Hook

/-- No thread is in the handler. -/
def init (ctx : KernelCounterContext) : Hook := ⟨ctx, []⟩

def step (installerTgid : UInt32) (S : Hook) (l : HookLabel) : Hook :=
  Lib.Pool.step (hookMachine installerTgid) S l

/-- The state after the labels `ls`. -/
def run (installerTgid : UInt32) (S : Hook) (ls : List HookLabel) : Hook :=
  Lib.run (step installerTgid) S ls

end Hook
end Drmid
