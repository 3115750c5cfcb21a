import Drmid.Kernel.Bytes

/-!
# Adaptive startup readiness

`startup_readiness.cpp`: the policy that the environment may change within bounds, the test of two
samples in a row, and `wait_for_adaptive_startup_readiness`, which samples the system until it has
been quiet for long enough or the deadline is reached.

What `sample_observation` finds out from one poll to the next is the sequence of samples. Left out:
the log lines with `last_bits` and `next_progress_log_ms`, and the sleep.
-/

namespace Drmid

structure StartupReadinessPolicy where
  pollMs : UInt32 := 250
  stableMs : UInt32 := 3000
  deadlineMs : UInt32 := 45000
  maxCpuPermille : UInt32 := 500
  deriving DecidableEq, Repr

structure StartupProcessObservation where
  pid : Int := -1
  state : UInt8 := 63
  startTimeTicks : UInt64 := 0
  cpuTicks : UInt64 := 0
  deriving DecidableEq, Repr

structure StartupReadinessObservation where
  bootAnimationStopped : Bool := false
  deviceBootComplete : Bool := false
  userStorageReady : Bool := false
  serviceManagerRunning : Bool := false
  mediaDrmRunning : Bool := false
  drmServiceRunning : Bool := false
  systemServer : StartupProcessObservation := {}
  surfaceFlinger : StartupProcessObservation := {}
  processCount : UInt64 := 0
  deriving DecidableEq, Repr

structure StartupReadinessResult where
  elapsedMs : UInt32 := 0
  stableMs : UInt32 := 0
  deadlineFallback : Bool := false
  observation : StartupReadinessObservation := {}
  deriving DecidableEq, Repr

/-! ## Tests of samples -/

/-- The states `Z`, `X`, `x` and `?` are those of no living process. -/
def processAlive (process : StartupProcessObservation) : Bool :=
  decide (1 < process.pid) && process.startTimeTicks != 0 && process.state != 90 &&
    process.state != 88 && process.state != 120 && process.state != 63

/-- `condition ? 1U << n : 0`. -/
def readinessBit (condition : Bool) (n : UInt32) : UInt32 := if condition then 1 <<< n else 0

def readinessBits (observation : StartupReadinessObservation) : UInt32 :=
  readinessBit observation.bootAnimationStopped 0 |||
    readinessBit observation.deviceBootComplete 1 |||
    readinessBit observation.userStorageReady 2 |||
    readinessBit observation.serviceManagerRunning 3 |||
    readinessBit observation.mediaDrmRunning 4 |||
    readinessBit observation.drmServiceRunning 5 |||
    readinessBit (processAlive observation.systemServer) 6 |||
    readinessBit (processAlive observation.surfaceFlinger) 7

def startupBaseServicesReady (observation : StartupReadinessObservation) : Bool :=
  readinessBits observation == 0xff && observation.processCount != 0

def startupObservationsQuiet (previous current : StartupReadinessObservation)
    (policy : StartupReadinessPolicy) (clockTicksPerSecond : UInt64) : Bool :=
  if !startupBaseServicesReady current || !processAlive previous.systemServer ||
      !processAlive previous.surfaceFlinger ||
      previous.systemServer.pid != current.systemServer.pid ||
      previous.systemServer.startTimeTicks != current.systemServer.startTimeTicks ||
      previous.surfaceFlinger.pid != current.surfaceFlinger.pid ||
      previous.surfaceFlinger.startTimeTicks != current.surfaceFlinger.startTimeTicks ||
      previous.processCount != current.processCount ||
      decide (current.systemServer.cpuTicks < previous.systemServer.cpuTicks) ||
      decide (current.surfaceFlinger.cpuTicks < previous.surfaceFlinger.cpuTicks) ||
      clockTicksPerSecond == 0 || policy.pollMs == 0 then false
  else
    let systemDelta := current.systemServer.cpuTicks - previous.systemServer.cpuTicks
    let surfaceDelta := current.surfaceFlinger.cpuTicks - previous.surfaceFlinger.cpuTicks
    -- the product may wrap
    let allowedNumerator :=
      policy.maxCpuPermille.toUInt64 * policy.pollMs.toUInt64 * clockTicksPerSecond
    let allowedTicks := allowedNumerator / 1000000 + 1
    decide (systemDelta ≤ allowedTicks) && decide (surfaceDelta ≤ allowedTicks)

/-! ## The policy -/

def boundedEnvironmentU32 (getenv : String → Option Bytes) (name : String)
    (fallback minimum maximum : UInt32) : UInt32 :=
  match getenv name with
  | none | some [] => fallback
  | some text =>
    match strtoul text with
    | some (some value, []) =>
      if value < minimum.toUInt64 ∨ maximum.toUInt64 < value then fallback else value.toUInt32
    | _ => fallback

def startupReadinessPolicyFromEnvironment (getenv : String → Option Bytes) :
    StartupReadinessPolicy :=
  let policy : StartupReadinessPolicy := {}
  let policy := { policy with
    pollMs := boundedEnvironmentU32 getenv "DRMID_READY_POLL_MS" policy.pollMs 100 1000
    stableMs := boundedEnvironmentU32 getenv "DRMID_READY_STABLE_MS" policy.stableMs 1000 15000
    deadlineMs :=
      boundedEnvironmentU32 getenv "DRMID_READY_DEADLINE_MS" policy.deadlineMs 5000 60000
    maxCpuPermille :=
      boundedEnvironmentU32 getenv "DRMID_READY_CPU_PERMILLE" policy.maxCpuPermille 50 4000 }
  if policy.deadlineMs < policy.stableMs then { policy with deadlineMs := policy.stableMs }
  else policy

/-! ## Waiting -/

/-- The `clock_ticks_per_second` of what `sysconf` returns. -/
def clockTicksPerSecond (configuredTicks : Int64) : UInt64 :=
  if 0 < configuredTicks then configuredTicks.toUInt64 else 100

/-- The variables of the loop; `previous` is there after the first pass. -/
structure ReadinessWait where
  result : StartupReadinessResult := {}
  previous : Option StartupReadinessObservation := none
  deriving DecidableEq, Repr

/-- The sample is quiet after the one before it. The first sample has none. -/
def quietAfter (policy : StartupReadinessPolicy) (ticks : UInt64)
    (previous : Option StartupReadinessObservation) (sample : StartupReadinessObservation) : Bool :=
  match previous with
  | none => false
  | some previous => startupObservationsQuiet previous sample policy ticks

/-- The first half of a pass: the sample is taken and counted. -/
def takeSample (policy : StartupReadinessPolicy) (ticks : UInt64)
    (sample : StartupReadinessObservation) (w : ReadinessWait) : StartupReadinessResult :=
  { w.result with
    observation := sample
    stableMs :=
      if quietAfter policy ticks w.previous sample then
        min policy.stableMs (w.result.stableMs + policy.pollMs)
      else 0 }

/-- The second half of a pass: `elapsed_ms` after the sleep. -/
def elapsePoll (policy : StartupReadinessPolicy) (elapsedMs : UInt32) : UInt32 :=
  if policy.deadlineMs - elapsedMs < policy.pollMs then policy.deadlineMs
  else elapsedMs + policy.pollMs

/-- The loop from its pass number `taken` on, for at most `fuel` tests of its condition: the number
of samples taken, and the result. -/
def waitLoop (policy : StartupReadinessPolicy) (ticks : UInt64)
    (samples : Nat → StartupReadinessObservation) :
    Nat → Nat → ReadinessWait → Option (Nat × StartupReadinessResult)
  | 0, _, _ => none
  | fuel + 1, taken, w =>
    if w.result.elapsedMs < policy.deadlineMs then
      let result := takeSample policy ticks (samples taken) w
      if policy.stableMs ≤ result.stableMs then some (taken + 1, result)
      else
        waitLoop policy ticks samples fuel (taken + 1)
          { result := { result with elapsedMs := elapsePoll policy result.elapsedMs }
            previous := some result.observation }
    else some (taken, { w.result with deadlineFallback := true })

def waitForAdaptiveStartupReadiness (policy : StartupReadinessPolicy) (configuredTicks : Int64)
    (samples : Nat → StartupReadinessObservation) (fuel : Nat) :
    Option (Nat × StartupReadinessResult) :=
  waitLoop policy (clockTicksPerSecond configuredTicks) samples fuel 0 {}

end Drmid
