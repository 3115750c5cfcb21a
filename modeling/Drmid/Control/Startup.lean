import Drmid.Hook.Emitted
import Drmid.Hook.Publish
import Drmid.Lib.Agent
import Drmid.Resolver.Release
import Drmid.Resolver.Resolve
import Drmid.Storage.RuntimeProfile

/-!
# The start of the daemon

`run_readonly_parser_probe` and the part of `skroot_module_main` around it, call by call: the gates
in front of the hook, the installation with its clean-ups, the self-test, the server, and the
removal. The calls are the subsystems that other modules are about (the resolver, the profile, the
control file, HAL discovery, the server) and the kernel operations of installing and removing; any
reply may come.

`Started` is a ghost: what the calls so far have led to. `Started.Permits` says which call may be
made then, and `Started.Ends` what may be left at the end. Prints are left out.
-/

namespace Drmid

open Lib

/-! ## The environment -/

def kSelfTestIoctlCount : Nat := 8
def kDefaultBootWaitTimeoutMs : Nat := 180000
def kBootPollMs : Nat := 500

/-- The environment variables, those with a number as `strtoul` and `atoi` read them, and the
device. -/
structure StartupEnv where
  execDaemon : Bool
  daemonMode : Bool
  /-- `skroot_module_main` sets it where `DRMID_EXEC_DAEMON` is set. -/
  daemon : execDaemon = true → daemonMode = true
  bootWaitMs : Option Nat
  regenerateSeed : Bool
  configOnly : Bool
  resolveOnly : Bool
  writeTest : Bool
  observeMs : Option Int
  controlPollMs : Option Int
  rootDeviceTrigger : Bool
  deviceTrigger : Bool
  observeUntilFile : Bool
  /-- `runtime_control_path` is not empty. -/
  controlPath : Bool
  /-- `socket_path` is not empty. -/
  socketPath : Bool
  apiLevel : Int
  kernelVersion : Bytes

namespace StartupEnv

def bootWait (env : StartupEnv) : Nat :=
  match env.bootWaitMs with
  | some requested => if requested ≤ 600000 then requested else kDefaultBootWaitTimeoutMs
  | none => kDefaultBootWaitTimeoutMs

def observation (env : StartupEnv) : Nat :=
  let observationMs := if env.daemonMode then 0 else 750
  match env.observeMs with
  | some requested => if 0 ≤ requested ∧ requested ≤ 60000 then requested.toNat else observationMs
  | none => observationMs

def pollMs (env : StartupEnv) : Nat :=
  match env.controlPollMs with
  | some requested => if 5 ≤ requested ∧ requested ≤ 1000 then requested.toNat else 25
  | none => 25

/-- The checks of the device; the build is a 64-bit one for ARM. -/
def supported (env : StartupEnv) : Bool :=
  decide (34 ≤ env.apiLevel) && isSupportedLinux61OrNewer env.kernelVersion

end StartupEnv

/-! ## Calls -/

/-- The calls, with what they return if it is looked at. -/
inductive StartupCall : Type → Type
  | makePrivateDir : StartupCall Bool
  | acquireDaemonLock : StartupCall Bool
  | cleanupSeedTempOrphans : StartupCall Unit
  | writeDaemonLockPid : StartupCall Bool
  | releaseDaemonLock : StartupCall Unit
  | cleanupLegacyPublicArtifacts : StartupCall Unit
  | unlinkStaleCapability : StartupCall Unit
  | cleanupMarkerPresent : StartupCall Bool
  | cleanupModuleStateFiles : StartupCall Unit
  | bootCompleted : StartupCall Bool
  | usleep : StartupCall Unit
  | waitForReadiness : StartupCall Unit
  | captureFingerprint : StartupCall Unit
  | loadProfile (regenerateSeed : Bool) : StartupCall (Except KModFailure LoadedProfile)
  | openBinderDriver : StartupCall Bool
  | resolveBinderIoctl : StartupCall (Except KModFailure BinderIoctlResolution)
  | writeCapabilityStatus (resolution : BinderIoctlResolution) : StartupCall Unit
  | taskIdentityOffsets : StartupCall (Except KModFailure TaskIdentityOffsets)
  | migrateRuntimeControl : StartupCall (Option KModFailure)
  | cleanupLegacyTargetState : StartupCall Unit
  | readRuntimeControl : StartupCall (Except KModFailure ReplacementConfig)
  | writeRuntimeControl (config : ReplacementConfig) : StartupCall (Option KModFailure)
  | discoverHalIdentities : StartupCall (Except KModFailure HalIdentityConfig)
  | allocKernelMem : StartupCall (Except KModFailure UInt64)
  | writeContext (kaddr : UInt64) (initial : KernelCounterContext) :
      StartupCall (Option KModFailure)
  | buildHandler (kaddr : UInt64) (offsets : TaskIdentityOffsets) :
      StartupCall (Except KModFailure Bytes)
  | installHook (target : UInt64) (handler : Bytes) : StartupCall (Option KModFailure)
  | freeKernelMem (kaddr : UInt64) : StartupCall Unit
  | readContext (kaddr : UInt64) : StartupCall (Except KModFailure KernelCounterContext)
  | emptyBinderIoctl : StartupCall Bool
  | publishRuntimeConfig (kaddr : UInt64) (config : ReplacementConfig) :
      StartupCall (Option KModFailure)
  | writeRejections (kaddr next : UInt64) : StartupCall Unit
  | runTrigger : StartupCall Unit
  | untilFilePresent : StartupCall Bool
  | runControlSocketServer (kaddr : UInt64) : StartupCall KModErr
  | uninstallHook : StartupCall (Option KModFailure)
  | closeBinder : StartupCall Unit

abbrev Startup := Agent StartupCall

/-! ## The hook session -/

/-- `CounterHookSession` with its `hook`, which is compared with null only. -/
structure HookSession extends CounterHookSession where
  hook : Bool

/-- `read_counter_snapshot`. -/
def readSnapshot (session : HookSession) : Startup (Except KModErr KernelCounterContext) := do
  if session.contextKaddr = 0 then return .error .errModuleParam
  else match ← Agent.ask (.readContext session.contextKaddr) with
    | .error err => return .error err.val
    | .ok snapshot => return readCounterSnapshot session.toCounterHookSession none snapshot

/-- `install_readonly_parser_hook`. -/
def installParserHook (target : UInt64) (offsets : TaskIdentityOffsets)
    (config : ReplacementConfig) (identities : HalIdentityConfig) :
    Startup (Except KModErr HookSession) := do
  match installReadonlyParserHook config identities with
  | none => return .error .errModuleParam
  | some initial =>
    match ← Agent.ask .allocKernelMem with
    | .error err => return .error err.val
    | .ok kaddr =>
      match ← Agent.ask (.writeContext kaddr initial) with
      | some err =>
        let _ ← Agent.ask (.freeKernelMem kaddr)
        return .error err.val
      | none =>
        match ← Agent.ask (.buildHandler kaddr offsets) with
        | .error err =>
          let _ ← Agent.ask (.freeKernelMem kaddr)
          return .error err.val
        | .ok handler =>
          match ← Agent.ask (.installHook target handler) with
          | some err =>
            let _ ← Agent.ask (.freeKernelMem kaddr)
            return .error err.val
          | none => return .ok { targetKaddr := target, contextKaddr := kaddr, activeAtRemove := 0,
                                 hook := true }

/-- `remove_readonly_parser_hook`. The context stays. -/
def removeParserHook (session : HookSession) : Startup KModErr := do
  let removed ← if session.hook then Agent.ask .uninstallHook else pure none
  match removed with
  | some err => return err.val
  | none =>
    if session.contextKaddr ≠ 0 then
      match ← readSnapshot session with
      | .error err => return err
      | .ok _ => return .ok
    else return .ok

/-! ## Observing -/

/-- `note_runtime_control_rejection`. -/
def noteRuntimeControlRejection (session : HookSession) : Startup Unit := do
  match ← readSnapshot session with
  | .error _ => return ()
  | .ok snapshot =>
    Agent.ask (.writeRejections session.contextKaddr
      (snapshot.counter .runtimeConfigRejections + 1))

/-- The loop over the control file, for so many passes. -/
def pollRuntimeControl (session : HookSession) :
    Nat → UInt64 → KModErr → Startup Unit
  | 0, _, _ => return ()
  | passes + 1, publishedGeneration, lastControlErr => do
    match ← Agent.ask .readRuntimeControl with
    | .ok runtimeConfig =>
      if publishedGeneration < runtimeConfig.configGeneration then
        match ← Agent.ask (.publishRuntimeConfig session.contextKaddr runtimeConfig) with
        | some _ =>
          noteRuntimeControlRejection session
          Agent.ask .usleep
          pollRuntimeControl session passes publishedGeneration .ok
        | none =>
          Agent.ask .usleep
          pollRuntimeControl session passes runtimeConfig.configGeneration .ok
      else
        Agent.ask .usleep
        pollRuntimeControl session passes publishedGeneration .ok
    | .error readErr =>
      if readErr.val ≠ .errModuleStorageNotFound ∧ readErr.val ≠ lastControlErr then
        noteRuntimeControlRejection session
        Agent.ask .usleep
        pollRuntimeControl session passes publishedGeneration readErr.val
      else
        Agent.ask .usleep
        pollRuntimeControl session passes publishedGeneration lastControlErr

/-- The loop of `DRMID_OBSERVE_UNTIL_FILE`, with so many milliseconds left. -/
def observeUntilFile : Nat → Startup Unit
  | 0 => return ()
  | left + 1 => do
    if ← Agent.ask .untilFilePresent then return ()
    else
      Agent.ask .usleep
      observeUntilFile left

/-- The passive observation. -/
def observe (env : StartupEnv) (session : HookSession) (config : ReplacementConfig) :
    Startup Unit :=
  if env.observation = 0 then return ()
  else if !env.daemonMode && env.controlPath then
    pollRuntimeControl session ((env.observation + env.pollMs - 1) / env.pollMs)
      config.configGeneration .ok
  else if env.rootDeviceTrigger || env.deviceTrigger then Agent.ask .runTrigger
  else if env.observeUntilFile then do
    observeUntilFile env.observation
    -- the file is looked for once more
    let _ ← Agent.ask .untilFilePresent
    return ()
  else Agent.ask .usleep

/-! ## The self-test -/

/-- The calls of `BINDER_WRITE_READ` with an empty header: how many of them succeeded. -/
def emptyBinderIoctls : Nat → Nat → Startup Nat
  | 0, successful => return successful
  | left + 1, successful => do
    if ← Agent.ask .emptyBinderIoctl then emptyBinderIoctls left (successful + 1)
    else emptyBinderIoctls left successful

/-- The counters of the self-test. -/
def selfTestCounters : List Counter :=
  [.preCalls, .postCalls, .bwrCalls, .preHeaderOk, .postHeaderOk]

/-- Each counter has gone up by as many as there were calls. -/
def selfTestPassed (successful : Nat) (before after : KernelCounterContext) : Bool :=
  decide (successful = kSelfTestIoctlCount) && selfTestCounters.all fun c =>
    decide (UInt64.ofNat kSelfTestIoctlCount ≤ after.counter c - before.counter c)

def selfTest (env : StartupEnv) (session : HookSession) (config : ReplacementConfig) :
    Startup KModErr := do
  match ← readSnapshot session with
  | .error err => return err
  | .ok before =>
    let successful ← emptyBinderIoctls kSelfTestIoctlCount 0
    observe env session config
    match ← readSnapshot session with
    | .error err => return err
    | .ok after =>
      return if selfTestPassed successful before after then .ok else .errModuleTestChannel

/-- The server of a daemon. -/
def serve (env : StartupEnv) (session : HookSession) : Startup KModErr := do
  if !env.socketPath || !env.controlPath then return .errModuleParam
  else
    let err ← Agent.ask (.runControlSocketServer session.contextKaddr)
    match ← readSnapshot session with
    | .ok _ => return err
    | .error finalErr => return if err = .ok then finalErr else err

/-! ## The probe -/

/-- What the probe returns: `KModErr` with the two members that only the probe has. -/
inductive ProbeErr
  | err (e : KModErr)
  | errModuleNoBoot
  | errModuleSymbolNotMatchLinuxVer
  deriving DecidableEq

/-- The wait for `sys.boot_completed`, with so many pauses left. -/
def waitBoot : Nat → Startup Bool
  | 0 => Agent.ask .bootCompleted
  | pauses + 1 => do
    if ← Agent.ask .bootCompleted then return true
    else
      Agent.ask .usleep
      waitBoot pauses

/-- What a daemon does first; it may return there. -/
def daemonPrelude (env : StartupEnv) : Startup (Option ProbeErr) := do
  if env.daemonMode then
    Agent.ask .cleanupLegacyPublicArtifacts
    Agent.ask .unlinkStaleCapability
    if ← Agent.ask .cleanupMarkerPresent then
      Agent.ask .cleanupModuleStateFiles
      return some (.err .ok)
    else if ← waitBoot ((env.bootWait + kBootPollMs - 1) / kBootPollMs) then
      Agent.ask .waitForReadiness
      Agent.ask .captureFingerprint
      return none
    else return some .errModuleNoBoot
  else return none

/-- The config of the profile. -/
def initialConfig (env : StartupEnv) (profile : LoadedProfile) : ReplacementConfig where
  mode := if env.writeTest then kWriteTest else kDryRun
  virtualIdLength := kWidevineDeviceUniqueIdBytes
  configGeneration := 1
  seedGeneration := profile.seedGeneration
  profileFingerprint := virtualIdFingerprint
    (profile.virtualStream.toList.take kWidevineDeviceUniqueIdBytes.toNat)
  virtualId := profile.virtualStream

/-- The config that is to be installed, or an error, with the driver closed. -/
def restoreConfig (env : StartupEnv) (initial : ReplacementConfig) :
    Startup (Except KModErr ReplacementConfig) := do
  if env.daemonMode && env.controlPath then
    match ← Agent.ask .migrateRuntimeControl with
    | some err =>
      Agent.ask .closeBinder
      return .error err.val
    | none =>
      Agent.ask .cleanupLegacyTargetState
      match ← Agent.ask .readRuntimeControl with
      | .ok persisted =>
        if restorable persisted then return .ok persisted
        else
          Agent.ask .closeBinder
          return .error .errModuleStorageType
      | .error persistedErr =>
        if persistedErr.val = .errModuleStorageNotFound then
          match ← Agent.ask (.writeRuntimeControl initial) with
          | some err =>
            Agent.ask .closeBinder
            return .error err.val
          | none => return .ok initial
        else
          Agent.ask .closeBinder
          return .error persistedErr.val
  else return .ok initial

/-- The probe with the hook installed. -/
def runHooked (env : StartupEnv) (session : HookSession) (config : ReplacementConfig) :
    Startup KModErr := do
  let tested ← selfTest env session config
  let err ← if tested = .ok ∧ env.daemonMode then serve env session else pure tested
  let removeErr ← removeParserHook session
  Agent.ask .closeBinder
  return if removeErr ≠ .ok then removeErr else err

/-- The probe with the entry resolved. -/
def runResolved (env : StartupEnv) (profile : LoadedProfile)
    (resolution : BinderIoctlResolution) (offsets : TaskIdentityOffsets) : Startup KModErr := do
  match ← restoreConfig env (initialConfig env profile) with
  | .error err => return err
  | .ok config =>
    match ← Agent.ask .discoverHalIdentities with
    | .error err =>
      Agent.ask .closeBinder
      return err.val
    | .ok identities =>
      match ← installParserHook resolution.ioctlKaddr offsets config identities with
      | .error err =>
        Agent.ask .closeBinder
        return err
      | .ok session => runHooked env session config

/-- The probe with the driver open. -/
def runOpened (env : StartupEnv) (profile : LoadedProfile) : Startup KModErr := do
  match ← Agent.ask .resolveBinderIoctl with
  | .error err =>
    Agent.ask .closeBinder
    return err.val
  | .ok resolution =>
    if !hasRequiredBinderCapabilities resolution then
      Agent.ask .closeBinder
      return .errModuleFuncNotStandard
    else
      Agent.ask (.writeCapabilityStatus resolution)
      match ← Agent.ask .taskIdentityOffsets with
      | .error err =>
        Agent.ask .closeBinder
        return err.val
      | .ok offsets =>
        if env.resolveOnly then
          Agent.ask .closeBinder
          return .ok
        else runResolved env profile resolution offsets

def runReadonlyParserProbe (env : StartupEnv) : Startup ProbeErr := do
  match ← daemonPrelude env with
  | some result => return result
  | none =>
    match ← Agent.ask (.loadProfile env.regenerateSeed) with
    | .error err => return .err err.val
    | .ok profile =>
      if env.configOnly then return .err .ok
      else if !env.supported then return .errModuleSymbolNotMatchLinuxVer
      else if ← Agent.ask .openBinderDriver then return .err (← runOpened env profile)
      else return .err .errModuleOpenFile

/-! ## The module's main function -/

/-- How the process of the probe ends: `_exit` with a code of its own, or with the probe's. -/
inductive MainExit
  | exitOk
  | exitErr (e : KModErr)
  | probe (result : ProbeErr)

/-- `skroot_module_main` in the foreground. -/
def skrootModuleMain (env : StartupEnv) : Startup MainExit := do
  if env.execDaemon then
    if ← Agent.ask .makePrivateDir then
      if ← Agent.ask .acquireDaemonLock then
        Agent.ask .cleanupSeedTempOrphans
        if ← Agent.ask .writeDaemonLockPid then
          let result ← runReadonlyParserProbe env
          Agent.ask .releaseDaemonLock
          return .probe result
        else
          Agent.ask .releaseDaemonLock
          return .exitErr .errModuleStorageWrite
      else return .exitOk
    else return .exitErr .errModuleStorageWrite
  else return .probe (← runReadonlyParserProbe env)

/-! ## What the calls lead to -/

/-- The state that the calls so far have led to: whether the daemon lock is held, the driver open,
the fingerprint captured; the entry, the offsets, the identities and the config of the control file
that were found; the memory that is allocated, the context that was written and the handler that was
built there; whether the hook is in, whether it ever was, and the error of a removal; how many empty
calls of the driver succeeded, and the contexts that were read. -/
structure Started where
  locked : Bool
  opened : Bool
  captured : Bool
  resolved : Option BinderIoctlResolution
  offsets : Option TaskIdentityOffsets
  stored : Option ReplacementConfig
  identities : Option HalIdentityConfig
  memory : Option UInt64
  written : Bool
  built : Option Bytes
  hooked : Bool
  everHooked : Bool
  stuck : Option KModErr
  ioctls : Nat
  snapshots : List KernelCounterContext

namespace Started

def zero : Started :=
  ⟨false, false, false, none, none, none, none, none, false, none, false, false, none, 0, []⟩

/-- After a call. -/
def note (s : Started) : Agent.Event StartupCall → Started
  | ⟨.acquireDaemonLock, acquired⟩ => { s with locked := acquired }
  | ⟨.releaseDaemonLock, _⟩ => { s with locked := false }
  | ⟨.openBinderDriver, opened⟩ => { s with opened := opened }
  | ⟨.closeBinder, _⟩ => { s with opened := false }
  | ⟨.captureFingerprint, _⟩ => { s with captured := true }
  | ⟨.resolveBinderIoctl, .ok resolution⟩ => { s with resolved := some resolution }
  | ⟨.taskIdentityOffsets, .ok offsets⟩ => { s with offsets := some offsets }
  | ⟨.readRuntimeControl, .ok config⟩ => { s with stored := some config }
  | ⟨.writeRuntimeControl config, none⟩ => { s with stored := some config }
  | ⟨.discoverHalIdentities, .ok identities⟩ => { s with identities := some identities }
  | ⟨.allocKernelMem, .ok kaddr⟩ => { s with memory := some kaddr }
  | ⟨.freeKernelMem _, _⟩ => { s with memory := none, written := false, built := none }
  | ⟨.writeContext _ _, none⟩ => { s with written := true }
  | ⟨.buildHandler _ _, .ok handler⟩ => { s with built := some handler }
  | ⟨.installHook _ _, none⟩ => { s with hooked := true, everHooked := true }
  | ⟨.uninstallHook, none⟩ => { s with hooked := false }
  | ⟨.uninstallHook, some err⟩ => { s with stuck := some err.val }
  | ⟨.emptyBinderIoctl, true⟩ => { s with ioctls := s.ioctls + 1 }
  | ⟨.readContext _, .ok snapshot⟩ => { s with snapshots := s.snapshots ++ [snapshot] }
  | _ => s

/-- The context to be written is of identities that were discovered and of a config that may be
published, which is the one of the control file where a daemon has one. -/
def Initial (env : StartupEnv) (s : Started) (initial : KernelCounterContext) : Prop :=
  ∃ config identities, installReadonlyParserHook config identities = some initial ∧
    s.identities = some identities ∧
    ((env.daemonMode && env.controlPath) = true → s.stored = some config)

/-- The hook may be installed: at the entry that was resolved, with the handler that was built for
the context that was written, after a daemon has captured the fingerprint, and under the lock if the
process takes it. -/
structure MayInstall (env : StartupEnv) (s : Started) (target : UInt64) (handler : Bytes) :
    Prop where
  target : ∃ resolution, s.resolved = some resolution ∧ target = resolution.ioctlKaddr ∧
    hasRequiredBinderCapabilities resolution = true
  built : s.built = some handler
  written : s.written = true
  fresh : s.everHooked = false
  captured : env.daemonMode = true → s.captured = true
  locked : env.execDaemon = true → s.locked = true

/-- The call may be made. Nothing is opened, allocated or installed twice, or used when it is not
there; memory that an installed handler may still read is never freed; and the server is for a hook
that has passed its test. -/
def Permits (env : StartupEnv) (s : Started) : {β : Type} → StartupCall β → Prop
  | _, .acquireDaemonLock => s.locked = false
  | _, .releaseDaemonLock => s.locked = true
  | _, .openBinderDriver => s.opened = false
  | _, .closeBinder | _, .emptyBinderIoctl | _, .resolveBinderIoctl => s.opened = true
  | _, .captureFingerprint => s.everHooked = false
  | _, .allocKernelMem => s.memory = none
  | _, .writeContext kaddr initial =>
    s.memory = some kaddr ∧ s.everHooked = false ∧ s.Initial env initial
  | _, .buildHandler kaddr offsets => s.memory = some kaddr ∧ s.offsets = some offsets
  | _, .installHook target handler => s.MayInstall env target handler
  | _, .freeKernelMem kaddr => s.memory = some kaddr ∧ s.everHooked = false
  | _, .readContext kaddr | _, .publishRuntimeConfig kaddr _ | _, .writeRejections kaddr _ =>
    s.memory = some kaddr
  | _, .runControlSocketServer kaddr =>
    s.memory = some kaddr ∧ s.hooked = true ∧
      ∃ before after, s.snapshots = [before, after] ∧ selfTestPassed s.ioctls before after = true
  | _, .uninstallHook => s.hooked = true
  | _, _ => True

/-- What is left when the process ends with `e`: no descriptor and no lock. Memory is left where the
hook was in, and nowhere else. The hook is left where it could not be removed, and then the process
says so. -/
structure Ends (s : Started) (e : MainExit) : Prop where
  opened : s.opened = false
  locked : s.locked = false
  memory : s.memory.isSome = s.everHooked
  hooked : s.hooked = true → ∃ err, err ≠ .ok ∧ s.stuck = some err ∧ e = .probe (.err err)

end Started

end Drmid
