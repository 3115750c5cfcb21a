import Drmid.Kernel.Bytes
import Drmid.Control.Monitor

/-!
# The control socket server

`run_control_socket_server`: one loop that polls the server socket and the pidfds, follows the HAL
processes and answers one client at a time. The machine's state is what the function holds at the
head of its loop, and one step is one pass of the loop, or the code after it. Everything a pass
meets is in its `LoopEvent`: the clock, the outcome of `poll`, what the HAL code finds, the client
and the kernel operations that fail.

Left out of the answer: its `crc32`, which covers the SDK's number of the result.
-/

namespace Drmid

open KernelCounterContext

/-! ## Requests and responses -/

def kControlIpcMagic : UInt64 := 0x30324350494d5244
def kControlIpcVersion : UInt32 := 5

inductive ControlIpcOperation
  | status | apply | stop
  deriving DecidableEq, Repr

/-- The `uint32_t` values of `ControlIpcOperation`. -/
def ControlIpcOperation.ofWord : UInt32 → Option ControlIpcOperation
  | 1 => some .status
  | 2 => some .apply
  | 3 => some .stop
  | _ => none

structure ControlIpcRequest where
  magic : UInt64
  version : UInt32
  operation : UInt32
  requestId : UInt64
  crc32 : UInt32
  reserved : UInt32
  deriving DecidableEq, Repr

/-- The bytes of a request before its `crc32`. -/
def ControlIpcRequest.covered (request : ControlIpcRequest) : List UInt8 :=
  leBytes 8 request.magic ++ leBytes 4 request.version.toUInt64 ++
    leBytes 4 request.operation.toUInt64 ++ leBytes 8 request.requestId

/-- `validate_request`, with the operation it lets through. -/
def validateRequest (request : ControlIpcRequest) : Option ControlIpcOperation :=
  if request.magic = kControlIpcMagic ∧ request.version = kControlIpcVersion ∧
      request.reserved = 0 ∧ request.crc32 = crc32 request.covered then
    ControlIpcOperation.ofWord request.operation
  else none

structure ControlIpcResponse where
  magic : UInt64
  version : UInt32
  result : KModErr
  requestId : UInt64
  daemonPid : UInt64
  activeCalls : UInt64
  configGeneration : UInt64
  seedGeneration : UInt64
  profileFingerprint : UInt64
  switches : UInt64
  rejections : UInt64
  serverRequestHits : UInt64
  correlatedReplyCandidates : UInt64
  replacementCandidates : UInt64
  replacementDryRunHits : UInt64
  replacementWriteOk : UInt64
  replacementWriteFaults : UInt64
  halIdentityGeneration : UInt64
  halIdentitySwitches : UInt64
  halGateHits : UInt64
  activeSlot : UInt32
  replacementMode : UInt32
  virtualIdLength : UInt32
  halState : UInt32
  halCount : UInt32
  halTgids : Vector UInt32 4
  halMonitorBackend : HalMonitorBackend
  halMonitorWakeups : UInt32
  deriving DecidableEq, Repr

def fillResponse (snapshot : KernelCounterContext) (pid requestId : UInt64) (result : KModErr)
    (monitor : HalMonitorState) : ControlIpcResponse where
  magic := kControlIpcMagic
  version := kControlIpcVersion
  result := result
  requestId := requestId
  daemonPid := pid
  activeCalls := snapshot.counter .activeCalls
  configGeneration := snapshot.activeConfig.configGeneration
  seedGeneration := snapshot.activeConfig.seedGeneration
  profileFingerprint := snapshot.activeConfig.profileFingerprint
  switches := snapshot.counter .runtimeConfigSwitches
  rejections := snapshot.counter .runtimeConfigRejections
  serverRequestHits := snapshot.counter .serverRequestHits
  correlatedReplyCandidates := snapshot.counter .correlatedReplyCandidates
  replacementCandidates := snapshot.counter .replacementCandidates
  replacementDryRunHits := snapshot.counter .replacementDryRunHits
  replacementWriteOk := snapshot.counter .replacementWriteOk
  replacementWriteFaults := snapshot.counter .replacementWriteFaults
  halIdentityGeneration := snapshot.activeIdentities.generation
  halIdentitySwitches := snapshot.counter .halIdentitySwitches
  halGateHits := snapshot.counter .halGateHits
  activeSlot := slotWord (slotOf snapshot.activeConfigSlot)
  replacementMode := snapshot.activeConfig.replacementMode
  virtualIdLength := snapshot.activeConfig.virtualIdLength
  halState := if snapshot.activeIdentities.count = 0 then 0 else 1
  halCount := snapshot.activeIdentities.count
  halTgids := snapshot.activeIdentities.tgids
  halMonitorBackend := monitor.backend
  halMonitorWakeups := monitor.wakeups

/-! ## One client -/

/-- `increment_rejections`. -/
def incrementRejections (session : CounterHookSession) (f : CounterFaults)
    (ctx : KernelCounterContext) : KModErr × KernelCounterContext :=
  match readCounterSnapshot session f.read ctx with
  | .error err => (err, ctx)
  | .ok snapshot =>
    let write (x : UInt64) :=
      { ctx with counter := Function.update ctx.counter .runtimeConfigRejections x }
    match f.write with
    | some (err, dirt) => (err, write dirt)
    | none => (.ok, write (snapshot.counter .runtimeConfigRejections + 1))

/-- What an apply request meets: the control file as `read_runtime_control_file` reads it, and the
kernel operations. -/
structure ApplyEvent where
  file : Except KModFailure ReplacementConfig
  read : Option KModFailure
  publish : KernelFaults RuntimeConfigSlot
  rejection : CounterFaults

/-- The config of the control file is published, unless its generation is active already. -/
def applyControlFile (session : CounterHookSession) (e : ApplyEvent) (ctx : KernelCounterContext) :
    KModErr × KernelCounterContext :=
  match e.file with
  | .error err => (err, ctx)
  | .ok config =>
    match readCounterSnapshot session e.read ctx with
    | .error err => (err, ctx)
    | .ok current =>
      if config.configGeneration = current.activeConfig.configGeneration then (.ok, ctx)
      else
        let res := publishRuntimeConfig session config e.publish ctx
        (res.err, res.ctx)

/-- The `kApply` branch. -/
def handleApply (session : CounterHookSession) (e : ApplyEvent) (ctx : KernelCounterContext) :
    KModErr × KernelCounterContext :=
  let (err, ctx) := applyControlFile session e ctx
  if err ≠ .ok then (err, (incrementRejections session e.rejection ctx).2) else (err, ctx)

/-- The client of a pass. `request` is `none` when it could not be read in full. -/
inductive ClientEvent
  | acceptFailed
  | accepted (request : Option ControlIpcRequest) (apply : ApplyEvent)
      (snapshot : Option KModFailure)

/-- The operation that the client asks for, if its request is valid. -/
def ClientEvent.operation : ClientEvent → Option ControlIpcOperation
  | .acceptFailed => none
  | .accepted request _ _ => request.bind validateRequest

/-- The operation of a client, `none` when its request was not valid. -/
def handleOperation (session : CounterHookSession) (operation : Option ControlIpcOperation)
    (apply : ApplyEvent) (ctx : KernelCounterContext) : KModErr × KernelCounterContext :=
  match operation with
  | none => (.errModuleParam, ctx)
  | some .apply => handleApply session apply ctx
  | some .status | some .stop => (.ok, ctx)

/-- What `read_counter_snapshot` leaves in its argument. -/
def snapshotContents (session : CounterHookSession) (fault : Option KModFailure)
    (ctx : KernelCounterContext) : KernelCounterContext :=
  if session.contextKaddr = 0 ∨ fault.isSome then .zero else ctx

/-! ## The server -/

structure ServerConfig where
  session : CounterHookSession
  maxRuntimeMs : UInt32
  pid : UInt64

structure Server where
  daemon : Daemon
  stop : Bool
  elapsedMs : UInt32
  sent : List ControlIpcResponse
  /-- `none` at the head of the loop, else what the function has returned. -/
  result : Option KModErr

/-- The outcome of `poll`: an error, a timeout, or the `revents` of the pidfds, by index, and of
the server socket. -/
inductive PollOutcome
  | interrupted | failed | timeout
  | ready (pidfd : Nat → Bool) (client : Bool)

/-- What one pass of the loop meets. -/
structure LoopEvent where
  stopRequested : Bool
  elapsedBefore : Nat
  poll : PollOutcome
  elapsedAfter : Nat
  hal : HalScan
  clear : ClearFaults
  client : ClientEvent
  shutdown : ClearFaults

/-- `static_cast<int>` of a `uint32_t`. -/
def intOf (w : UInt32) : Int := w.toInt32.toInt

/-- Elapsed milliseconds, cut off at the maximum. -/
def clampElapsed (maxRuntimeMs : UInt32) (elapsed : Nat) : UInt32 :=
  if maxRuntimeMs.toNat ≤ elapsed then maxRuntimeMs else UInt32.ofNat elapsed

def lifecycleTimeoutMs (monitor : HalMonitorState) : Int :=
  match monitor.backend with
  | .waiting => intOf monitor.retryMs
  | .procfsFallback => intOf kHalProcFallbackPollMs
  | .pidfd => -1

def pollTimeoutMs (maxRuntimeMs elapsedMs : UInt32) (lifecycle : Int) : Int :=
  if maxRuntimeMs = 0 then lifecycle
  else
    let remaining := intOf (maxRuntimeMs - elapsedMs)
    if lifecycle < 0 then remaining else min lifecycle remaining

/-- A pidfd of the monitor has events. -/
def PollOutcome.pidfdEvent (monitor : HalMonitorState) : PollOutcome → Bool
  | .ready pidfd _ => (List.range monitor.pidfds.length).any pidfd
  | .interrupted | .failed | .timeout => false

/-- `poll_result == 0`. -/
def PollOutcome.timedOut : PollOutcome → Bool
  | .timeout => true
  | .interrupted | .failed | .ready _ _ => false

/-- The server socket has a client. -/
def PollOutcome.hasClient : PollOutcome → Bool
  | .ready _ client => client
  | .interrupted | .failed | .timeout => false

/-- The HAL part of a pass: a reported exit clears the identities, an elapsed lifecycle timeout
looks for processes again. -/
def halPass (session : CounterHookSession) (e : LoopEvent) (exit elapsed : Bool) (d : Daemon) :
    KModErr × Daemon :=
  if exit then d.wake.clearMonitoredIdentities session true e.clear
  else if elapsed then
    let (err, d) := d.rediscoverHalIdentities session e.hal
    if err ≠ .ok then
      let (err, d) := d.clearMonitoredIdentities session true e.clear
      if err ≠ .ok then (err, d) else (.ok, d.doubleRetry)
    else (.ok, d)
  else (.ok, d)

namespace Server

/-- The client part of a pass. -/
def clientPass (cfg : ServerConfig) (S : Server) : ClientEvent → Server
  | .acceptFailed => S
  | .accepted request apply fault =>
    let operation := request.bind validateRequest
    let (result, ctx) := handleOperation cfg.session operation apply S.daemon.ctx
    let result := match readCounterSnapshot cfg.session fault ctx with
      | .error err => if result = .ok then err else result
      | .ok _ => result
    let requestId := (request.map ControlIpcRequest.requestId).getD 0
    { S with
      daemon := { S.daemon with ctx := ctx }
      stop := S.stop || operation == some .stop
      sent := S.sent ++ [fillResponse (snapshotContents cfg.session fault ctx) cfg.pid requestId
        result S.daemon.monitor] }

/-- The code after the loop, `result` being `server_result`. -/
def shutdown (cfg : ServerConfig) (S : Server) (e : LoopEvent) (result : KModErr) : Server :=
  let (err, d) := S.daemon.clearMonitoredIdentities cfg.session false e.shutdown
  { S with
    daemon := d.closePidfds
    result := some (if err ≠ .ok ∧ result = .ok then err else result) }

/-- The loop goes on: no stop was asked for and there is time left. -/
def continues (cfg : ServerConfig) (S : Server) (e : LoopEvent) : Bool :=
  !S.stop && !e.stopRequested &&
    decide (cfg.maxRuntimeMs = 0 ∨ S.elapsedMs < cfg.maxRuntimeMs)

/-- The clock before `poll`. -/
def tick (cfg : ServerConfig) (S : Server) (elapsed : Nat) : Server :=
  { S with elapsedMs :=
      if cfg.maxRuntimeMs = 0 then S.elapsedMs else clampElapsed cfg.maxRuntimeMs elapsed }

/-- The time ran out before `poll`. -/
def expired (cfg : ServerConfig) (S : Server) : Bool :=
  decide (cfg.maxRuntimeMs ≠ 0 ∧ cfg.maxRuntimeMs ≤ S.elapsedMs)

/-- The lifecycle timeout of the monitor is what `poll` waited for. -/
def lifecycleElapsed (cfg : ServerConfig) (S : Server) (e : LoopEvent) : Bool :=
  let lifecycle := lifecycleTimeoutMs S.daemon.monitor
  e.poll.timedOut && decide (0 ≤ lifecycle) &&
    decide (pollTimeoutMs cfg.maxRuntimeMs S.elapsedMs lifecycle = lifecycle)

/-- The body of the loop after the HAL part, which reported `err`. -/
def afterHal (cfg : ServerConfig) (S : Server) (e : LoopEvent) (err : KModErr) : Server :=
  if err ≠ .ok then S.shutdown cfg e err
  else if e.poll.hasClient then S.clientPass cfg e.client
  else S

/-- The body of the loop after a `poll` that did not fail. -/
def polled (cfg : ServerConfig) (S : Server) (e : LoopEvent) : Server :=
  let exit := e.poll.pidfdEvent S.daemon.monitor
  let (err, d) := halPass cfg.session e exit (S.lifecycleElapsed cfg e) S.daemon
  afterHal cfg { S.tick cfg e.elapsedAfter with daemon := d } e err

/-- One pass of the loop, from its head to its head or to the end of the function. -/
def step (cfg : ServerConfig) (S : Server) (e : LoopEvent) : Server :=
  if S.result.isSome then S
  else if !S.continues cfg e then S.shutdown cfg e .ok
  else
    let S := S.tick cfg e.elapsedBefore
    if S.expired cfg then S.shutdown cfg e .ok
    else match e.poll with
      | .interrupted => S
      | .failed => S.shutdown cfg e .errModuleSocket
      | .timeout | .ready _ _ => S.polled cfg e

/-- Up to the head of the loop; `setup` is the error of the socket calls, if one failed. -/
def start (cfg : ServerConfig) (setup : Option KModFailure) (fault : Option KModFailure)
    (answers : Nat → Except Errno Nat) (f : ClearFaults) (ctx : KernelCounterContext) : Server :=
  let returned (err : KModErr) (d : Daemon) : Server := ⟨d, false, 0, [], some err⟩
  if cfg.session.contextKaddr = 0 then returned .errModuleParam ⟨ctx, .zero, []⟩
  else match setup with
    | some err => returned err ⟨ctx, .zero, []⟩
    | none =>
      let (err, d) := Daemon.initializeHalMonitor cfg.session fault answers f ctx
      if err ≠ .ok then returned err d else ⟨d, false, 0, [], none⟩

end Server
end Drmid
