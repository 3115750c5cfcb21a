import Mathlib.Data.List.Sort
import Mathlib.Data.List.Destutter
import Drmid.Hook.Publish

/-!
# The HAL monitor

The functions of `control_ipc.cpp` that follow the Widevine HAL processes: they discover the
processes, watch them through pidfds or by polling `/proc`, and publish their TGIDs to the kernel.
`discover_widevine_hal_identities` of `hal_identity.cpp` is here too; which processes of `/proc`
pass its checks is an input (`scan`).

Everything outside the daemon is in a function's arguments: the processes found, the answers of
`pidfd_open` and the kernel operations that fail. `history` is a ghost: the identity sets that were
published, latest first.
-/

namespace Drmid

def kHalRediscoveryInitialMs : UInt32 := 50
def kHalRediscoveryMaximumMs : UInt32 := 2000
def kHalProcFallbackPollMs : UInt32 := 5000

inductive HalMonitorBackend
  | waiting | pidfd | procfsFallback
  deriving DecidableEq, Repr

/-- An open pidfd, with the process it was opened for. -/
structure Pidfd where
  fd : Nat
  tgid : UInt32
  deriving DecidableEq, Repr

structure HalMonitorState where
  active : HalIdentityConfig
  backend : HalMonitorBackend
  wakeups : UInt32
  retryMs : UInt32
  pidfds : List Pidfd
  deriving DecidableEq, Repr

/-- `monitor = {}`. -/
def HalMonitorState.zero : HalMonitorState := ⟨.zero, .waiting, 0, kHalRediscoveryInitialMs, []⟩

/-- The TGIDs that a config lists. -/
def HalIdentityConfig.tgidList (identities : HalIdentityConfig) : List UInt32 :=
  identities.tgids.toList.take identities.count.toNat

def sameHalTgids (left right : HalIdentityConfig) : Bool :=
  left.count == right.count && left.tgidList == right.tgidList

/-! ## Discovery -/

/-- `discover_widevine_hal_identities`. `scan` is `none` when `/proc` cannot be opened, else the
TGIDs of the entries that `inspect_candidate` accepts, in the order of the directory. -/
def discoverWidevineHalIdentities (generation : UInt64) (scan : Option (List UInt32)) :
    Except KModErr HalIdentityConfig :=
  if generation = 0 then .error .errModuleParam
  else match scan with
    | none => .error .errModuleOpenFile
    | some found =>
      let matched := (found.insertionSort (· ≤ ·)).destutter (· ≠ ·)
      if kHalIdentityLimit < matched.length then .error .errModuleParam
      else .ok ⟨generation, UInt32.ofNat matched.length, .ofFn fun i => matched.getD i 0⟩

/-! ## Pidfds -/

/-- The `errno` values `open_identity_pidfds` tells apart. -/
inductive Errno
  | enosys | eperm | eacces | other
  deriving DecidableEq, Repr

inductive PidfdOpenResult
  | ready | unsupported | processGone
  deriving DecidableEq, Repr

/-- `open_hal_pidfd`, `answer` being the system call's. -/
def openHalPidfd (tgid : UInt32) (answer : Except Errno Nat) : Except Errno Nat :=
  if tgid = 0 then .error .other else answer

/-- The loop of `open_identity_pidfds` over the TGIDs from `index` on. -/
def openPidfdsFrom (answers : Nat → Except Errno Nat) :
    List UInt32 → Nat → List Pidfd → PidfdOpenResult × List Pidfd
  | [], _, opened => (.ready, opened)
  | tgid :: rest, index, opened =>
    match openHalPidfd tgid (answers index) with
    | .ok fd => openPidfdsFrom answers rest (index + 1) (opened ++ [⟨fd, tgid⟩])
    | .error e =>
      (if e = .enosys ∨ e = .eperm ∨ e = .eacces then .unsupported else .processGone, [])

/-! ## The daemon's state -/

structure Daemon where
  ctx : KernelCounterContext
  monitor : HalMonitorState
  history : List HalIdentitySet

namespace Daemon

def setPidfds (d : Daemon) (pidfds : List Pidfd) : Daemon :=
  { d with monitor := { d.monitor with pidfds := pidfds } }

def closePidfds (d : Daemon) : Daemon := d.setPidfds []

/-- `open_identity_pidfds`. -/
def openIdentityPidfds (identities : HalIdentityConfig) (answers : Nat → Except Errno Nat)
    (d : Daemon) : PidfdOpenResult × Daemon :=
  let (result, pidfds) := openPidfdsFrom answers identities.tgidList 0 []
  (result, d.setPidfds pidfds)

/-- The monitor watches the active set, through the pidfds if they are all open. -/
def watch (d : Daemon) (result : PidfdOpenResult) : Daemon :=
  { d with monitor := { d.monitor with
      backend := if result = .ready then .pidfd else .procfsFallback
      retryMs := kHalRediscoveryInitialMs } }

/-- The monitor waits for a HAL process and looks again after the initial delay. -/
def wait (d : Daemon) : Daemon :=
  { d with monitor := { d.monitor with
      backend := .waiting
      retryMs := kHalRediscoveryInitialMs } }

/-- `retry_ms` doubled, up to the maximum. -/
def doubleRetry (d : Daemon) : Daemon :=
  { d with monitor := { d.monitor with
      retryMs := if kHalRediscoveryMaximumMs < d.monitor.retryMs * 2 then kHalRediscoveryMaximumMs
        else d.monitor.retryMs * 2 } }

/-- The monitor waits and looks again after twice the delay. -/
def backOff (d : Daemon) : Daemon :=
  doubleRetry { d with monitor := { d.monitor with backend := .waiting } }

/-- `if (monitor.wakeups != UINT32_MAX) ++monitor.wakeups`. -/
def wake (d : Daemon) : Daemon :=
  { d with monitor := { d.monitor with
      wakeups := if d.monitor.wakeups ≠ 0xffffffff then d.monitor.wakeups + 1
        else d.monitor.wakeups } }

end Daemon

/-! ## Counters and publication -/

/-- What the two kernel operations of `increment_kernel_counter` do. -/
structure CounterFaults where
  read : Option KModFailure
  write : Option (KModFailure × UInt64)

def incrementKernelCounter (session : CounterHookSession) (c : Counter) (f : CounterFaults)
    (ctx : KernelCounterContext) : KModErr × KernelCounterContext :=
  match readCounterSnapshot session f.read ctx with
  | .error err => (err, ctx)
  | .ok snapshot =>
    let current := snapshot.counter c
    if current = 0xffffffffffffffff then (.errModuleParam, ctx)
    else
      let write (x : UInt64) := { ctx with counter := Function.update ctx.counter c x }
      match f.write with
      | some (err, dirt) => (err, write dirt)
      | none => (.ok, write (current + 1))

/-- The kernel operations of one `publish_monitored_identities`. -/
structure MonitorFaults where
  publish : KernelFaults HalIdentitySet
  rejection : CounterFaults

/-- The kernel operations of one `clear_monitored_identities`. -/
structure ClearFaults extends MonitorFaults where
  restart : CounterFaults

namespace Daemon

variable (session : CounterHookSession)

/-- `publish_monitored_identities`: the next generation, or nothing. -/
def publishMonitoredIdentities (identities : HalIdentityConfig) (f : MonitorFaults) (d : Daemon) :
    KModErr × Daemon :=
  if d.monitor.active.generation = 0xffffffffffffffff then (.errModuleParam, d)
  else
    let identities := { identities with generation := d.monitor.active.generation + 1 }
    let res := publishHalIdentities session identities f.publish d.ctx
    if res.err ≠ .ok then
      let (_, ctx) := incrementKernelCounter session .halIdentityRejections f.rejection res.ctx
      (res.err, { d with ctx := ctx })
    else
      (.ok, { d with
        ctx := res.ctx
        monitor := { d.monitor with active := identities }
        history := .ofConfig identities :: d.history })

/-- `clear_monitored_identities`. -/
def clearMonitoredIdentities (countRestart : Bool) (f : ClearFaults) (d : Daemon) :
    KModErr × Daemon :=
  let d := d.closePidfds
  if d.monitor.active.count = 0 then (.ok, d.wait)
  else
    let (err, d) := publishMonitoredIdentities session .zero f.toMonitorFaults d
    if err ≠ .ok then (err, d)
    else if countRestart then
      let (_, ctx) := incrementKernelCounter session .halIdentityRestarts f.restart d.ctx
      (.ok, wait { d with ctx := ctx })
    else (.ok, d.wait)

/-- The end of `adopt_discovered_identities`: publish the set, unless it is the active one, and
watch it. -/
def publishAndWatch (discovered : HalIdentityConfig) (result : PidfdOpenResult) (f : MonitorFaults)
    (d : Daemon) : KModErr × Daemon :=
  let (err, d) :=
    if !sameHalTgids d.monitor.active discovered then
      publishMonitoredIdentities session discovered f d
    else (.ok, d)
  if err ≠ .ok then (err, d) else (.ok, d.watch result)

/-- `adopt_discovered_identities`. -/
def adoptDiscoveredIdentities (discovered : HalIdentityConfig)
    (answers : Nat → Except Errno Nat) (f : MonitorFaults) (d : Daemon) : KModErr × Daemon :=
  if discovered.count = 0 then (.ok, d.backOff)
  else
    let (result, d) :=
      -- `force_procfs`
      if d.monitor.backend = .procfsFallback then (.unsupported, d)
      else d.openIdentityPidfds discovered answers
    if result = .processGone then (.ok, d.backOff)
    else d.publishAndWatch session discovered result f

end Daemon

/-- What a rediscovery meets. -/
structure HalScan where
  scan : Option (List UInt32)
  answers : Nat → Except Errno Nat
  clear : ClearFaults
  publish : MonitorFaults

namespace Daemon

variable (session : CounterHookSession)

/-- `rediscover_hal_identities`. -/
def rediscoverHalIdentities (e : HalScan) (d : Daemon) : KModErr × Daemon :=
  let d := d.wake
  let generation := if d.monitor.active.generation = 0xffffffffffffffff then 0xffffffffffffffff
    else d.monitor.active.generation + 1
  match discoverWidevineHalIdentities generation e.scan with
  | .error err => (err, d)
  | .ok discovered =>
    let (err, d) :=
      if d.monitor.active.count ≠ 0 ∧ sameHalTgids d.monitor.active discovered = false then
        clearMonitoredIdentities session true e.clear d
      else (.ok, d)
    if err ≠ .ok then (err, d)
    else adoptDiscoveredIdentities session discovered e.answers e.publish d

/-- The identity set of the snapshot, as `initialize_hal_monitor` copies it. -/
def monitoredOf (set : HalIdentitySet) : HalIdentityConfig := ⟨set.generation, set.count, set.tgids⟩

/-- `initialize_hal_monitor`. -/
def initializeHalMonitor (fault : Option KModFailure) (answers : Nat → Except Errno Nat)
    (f : ClearFaults) (ctx : KernelCounterContext) : KModErr × Daemon :=
  match readCounterSnapshot session fault ctx with
  | .error err => (err, ⟨ctx, .zero, []⟩)
  | .ok snapshot =>
    let active := monitoredOf snapshot.activeIdentities
    let d : Daemon :=
      ⟨ctx, { HalMonitorState.zero with active := active }, [snapshot.activeIdentities]⟩
    if active.count = 0 then (.ok, d)
    else
      let (result, d) := d.openIdentityPidfds active answers
      match result with
      -- `retry_ms` is the initial delay already
      | .ready | .unsupported => (.ok, d.watch result)
      | .processGone => clearMonitoredIdentities session true f d

end Daemon
end Drmid
