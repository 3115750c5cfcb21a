import Mathlib.Logic.Function.Basic

/-!
# The kernel context of the Binder hook

The data of `kernel_context.h`: the preallocated read-write state that the generated handler and
the daemon share. Fixed-width fields are `UInt64`/`UInt32`/`UInt8`, so their arithmetic wraps as
the machine's does. The counters the code addresses by `offsetof` are one enumeration `Counter`
and one function from it; the big arrays (`events`, `pending`, the two double slots) are functions
on `Fin n`.

Left out, because no modelled function reads or writes them: the `reserved` padding words of the
slots and sets, which the code only ever zeroes.
-/

namespace Drmid

/-! ## Constants -/

def kCounterContextMagic : UInt64 := 0x44524d4944363132
def kCounterContextAbi : UInt64 := 20
def kHalIdentityLimit : Nat := 4
def kWidevineDeviceUniqueIdBytes : UInt32 := 32
def kPendingBucketWays : Nat := 8
def kPendingDepth : UInt32 := 4

def kParcelFlagDeviceUniqueId : UInt32 := 1
def kReplyFlagCorrelatedDeviceUniqueId : UInt32 := 0x01
def kReplyFlagStatusOk : UInt32 := 0x02
def kReplyFlagArrayValid : UInt32 := 0x04
def kReplyFlagContentReadable : UInt32 := 0x08
def kReplyFlagReplacementCandidate : UInt32 := 0x10
def kReplyFlagDryRun : UInt32 := 0x20
def kReplyFlagReplaced : UInt32 := 0x40
def kReplyFlagHalCorrelated : UInt32 := 0x80

/-- `ReplacementMode`, a `uint32_t` enumeration that a config file may fill with any word. -/
def kDryRun : UInt32 := 0
def kWriteTest : UInt32 := 1

/-- `BinderEventKind`. -/
inductive BinderEventKind
  | unknown | bcTransaction | bcReply | brTransaction | brTransactionSecCtx | brReply
  deriving DecidableEq, Repr

/-- `ParcelTokenKind`. -/
inductive ParcelTokenKind
  | none | drmPlugin
  deriving DecidableEq, Repr

/-- The members of `KernelCounterContext` that are bumped through their offset. -/
inductive Counter
  | activeCalls | preCalls | postCalls | bwrCalls
  | halGateHits | preHeaderOk | preHeaderFaults | postHeaderOk | postHeaderFaults
  | invalidConsumed | writeStreams | readStreams | bcCommands | brCommands
  | bcTransactionCommands | brTransactionCommands
  | writeBoundaryErrors | readBoundaryErrors | writeCopyFaults | readCopyFaults
  | writeCapped | readCapped
  | transactionMetadataOk | transactionMetadataFaults
  | pendingLockDrops | pendingPushes | pendingPops | pendingTerminalPops | pendingMisses
  | pendingOverflows | pendingCollisions | pendingOnewayIgnored | pendingGenerationStale
  | replyWithoutPending
  | parcelPrefixOk | parcelPrefixFaults | parcelPluginHits | parcelDeviceUniqueIdHits
  | parcelUnknownTokens | serverRequestHits
  | replyCandidates | replyHeaderCopyOk | replyHeaderCopyFaults | replyStatusOk
  | replyStatusNonzero | replyArrayValid | replyArrayInvalid | replyContentCopyOk
  | replyContentCopyFaults | correlatedReplyCandidates | replacementCandidates
  | replacementLengthMismatch | replacementDryRunHits | replacementWriteOk
  | replacementWriteFaults | replacementCopyToUserFaults
  | runtimeConfigSwitches | runtimeConfigRejections
  | halIdentitySwitches | halIdentityRejections | halIdentityRestarts
  deriving DecidableEq, Repr

/-! ## Records -/

/-- `binder_transaction_data`, the 64 bytes that follow every transaction command word. -/
structure BinderTransactionData where
  target : UInt64
  cookie : UInt64
  code : UInt32
  flags : UInt32
  senderPid : UInt32
  senderEuid : UInt32
  dataSize : UInt64
  offsetsSize : UInt64
  buffer : UInt64
  offsets : UInt64
  deriving DecidableEq, Repr

structure BinderTransactionEvent where
  sequence : UInt64
  eventId : UInt64
  taskKaddr : UInt64
  target : UInt64
  cookie : UInt64
  dataSize : UInt64
  offsetsSize : UInt64
  buffer : UInt64
  offsets : UInt64
  correlatedRequestId : UInt64
  pid : UInt32
  tgid : UInt32
  command : UInt32
  code : UInt32
  flags : UInt32
  senderPid : UInt32
  senderEuid : UInt32
  kind : BinderEventKind
  parcelTokenKind : ParcelTokenKind
  parcelTokenOffset : UInt32
  parcelPrefixSize : UInt32
  parcelFlags : UInt32
  correlatedRequestFlags : UInt32
  replyPrefixSize : UInt32
  replyStatusCode : UInt32
  replyByteArrayLength : UInt32
  replyByteArrayOffset : UInt32
  replyFlags : UInt32
  deriving DecidableEq, Repr

structure BinderPendingFrame where
  requestEventId : UInt64
  target : UInt64
  dataSize : UInt64
  halIdentityGeneration : UInt64
  code : UInt32
  flags : UInt32
  parcelFlags : UInt32
  deriving DecidableEq, Repr, Inhabited

/-- A way of a pending bucket; `taskKaddr = 0` marks it free. -/
structure BinderPendingSlot where
  taskKaddr : UInt64
  pid : UInt32
  tgid : UInt32
  depth : UInt32
  frames : Vector BinderPendingFrame 4
  deriving DecidableEq, Repr

structure RuntimeConfigSlot where
  configGeneration : UInt64
  seedGeneration : UInt64
  profileFingerprint : UInt64
  replacementMode : UInt32
  virtualIdLength : UInt32
  virtualId : Vector UInt8 64
  deriving DecidableEq, Repr

structure HalIdentitySet where
  generation : UInt64
  count : UInt32
  tgids : Vector UInt32 4
  deriving DecidableEq, Repr

structure KernelCounterContext where
  magic : UInt64
  abiVersion : UInt64
  counter : Counter → UInt64
  eventWriteIndex : UInt64
  replacementLastRequestId : UInt64
  replacementLastReplyFlags : UInt32
  replacementLastArrayLength : UInt32
  events : Fin 256 → BinderTransactionEvent
  pending : Fin 256 → BinderPendingSlot
  activeConfigSlot : UInt32
  configSlots : Fin 2 → RuntimeConfigSlot
  activeHalIdentitySlot : UInt32
  halIdentitySlots : Fin 2 → HalIdentitySet

/-! ## Zeroed records -/

def BinderPendingFrame.zero : BinderPendingFrame := ⟨0, 0, 0, 0, 0, 0, 0⟩

def BinderPendingSlot.zero : BinderPendingSlot :=
  ⟨0, 0, 0, 0, Vector.replicate 4 BinderPendingFrame.zero⟩

def BinderTransactionEvent.zero : BinderTransactionEvent :=
  ⟨0, 0, 0, 0, 0, 0, 0, 0, 0, 0, 0, 0, 0, 0, 0, 0, 0, .unknown, .none, 0, 0, 0, 0, 0, 0, 0, 0, 0⟩

def RuntimeConfigSlot.zero : RuntimeConfigSlot := ⟨0, 0, 0, 0, 0, Vector.replicate 64 0⟩

def HalIdentitySet.zero : HalIdentitySet := ⟨0, 0, Vector.replicate 4 0⟩

/-- `KernelCounterContext initial{}`. -/
def KernelCounterContext.zero : KernelCounterContext where
  magic := 0
  abiVersion := 0
  counter _ := 0
  eventWriteIndex := 0
  replacementLastRequestId := 0
  replacementLastReplyFlags := 0
  replacementLastArrayLength := 0
  events _ := .zero
  pending _ := .zero
  activeConfigSlot := 0
  configSlots _ := .zero
  activeHalIdentitySlot := 0
  halIdentitySlots _ := .zero

/-! ## Counters and active slots -/

namespace KernelCounterContext

/-- `emit_counter_increment`: one atomic 64-bit add of 1. -/
def emitCounterIncrement (ctx : KernelCounterContext) (c : Counter) : KernelCounterContext :=
  { ctx with counter := Function.update ctx.counter c (ctx.counter c + 1) }

/-- `emit_atomic_decrement`: one atomic 64-bit add of `UINT64_MAX`. -/
def emitAtomicDecrement (ctx : KernelCounterContext) (c : Counter) : KernelCounterContext :=
  { ctx with counter := Function.update ctx.counter c (ctx.counter c - 1) }

/-- An index word read with `& 1`. -/
def slotOf (index : UInt32) : Fin 2 := ⟨index.toNat % 2, Nat.mod_lt _ (by decide)⟩

/-- The identity set whose slot the handler's gate and the publisher take as active. -/
def activeIdentities (ctx : KernelCounterContext) : HalIdentitySet :=
  ctx.halIdentitySlots (slotOf ctx.activeHalIdentitySlot)

/-- The config slot that `emit_capture_active_runtime_config` acquires. -/
def activeConfig (ctx : KernelCounterContext) : RuntimeConfigSlot :=
  ctx.configSlots (slotOf ctx.activeConfigSlot)

/-- The generation `emit_capture_active_hal_generation` loads. -/
def activeHalGeneration (ctx : KernelCounterContext) : UInt64 := ctx.activeIdentities.generation

section
variable (ctx : KernelCounterContext) (c : Counter)

@[simp] theorem increment_magic : (ctx.emitCounterIncrement c).magic = ctx.magic := rfl
@[simp] theorem increment_abiVersion :
    (ctx.emitCounterIncrement c).abiVersion = ctx.abiVersion := rfl
@[simp] theorem increment_eventWriteIndex :
    (ctx.emitCounterIncrement c).eventWriteIndex = ctx.eventWriteIndex := rfl
@[simp] theorem increment_events : (ctx.emitCounterIncrement c).events = ctx.events := rfl
@[simp] theorem increment_pending : (ctx.emitCounterIncrement c).pending = ctx.pending := rfl
@[simp] theorem increment_activeConfigSlot :
    (ctx.emitCounterIncrement c).activeConfigSlot = ctx.activeConfigSlot := rfl
@[simp] theorem increment_configSlots :
    (ctx.emitCounterIncrement c).configSlots = ctx.configSlots := rfl
@[simp] theorem increment_activeHalIdentitySlot :
    (ctx.emitCounterIncrement c).activeHalIdentitySlot = ctx.activeHalIdentitySlot := rfl
@[simp] theorem increment_halIdentitySlots :
    (ctx.emitCounterIncrement c).halIdentitySlots = ctx.halIdentitySlots := rfl
@[simp] theorem increment_activeConfig :
    (ctx.emitCounterIncrement c).activeConfig = ctx.activeConfig := rfl
@[simp] theorem increment_activeIdentities :
    (ctx.emitCounterIncrement c).activeIdentities = ctx.activeIdentities := rfl
@[simp] theorem increment_activeHalGeneration :
    (ctx.emitCounterIncrement c).activeHalGeneration = ctx.activeHalGeneration := rfl

end

/-! ## Telemetry -/

/-- Two contexts that differ in counters and in the record of the last replacement at most. -/
def SameButTelemetry (ctx ctx' : KernelCounterContext) : Prop :=
  ∃ counter last flags length, ctx' = { ctx with
    counter := counter
    replacementLastRequestId := last
    replacementLastReplyFlags := flags
    replacementLastArrayLength := length }

section
variable {ctx ctx' ctx'' : KernelCounterContext}

theorem SameButTelemetry.rfl : ctx.SameButTelemetry ctx := ⟨_, _, _, _, Eq.refl _⟩

theorem SameButTelemetry.increment (c : Counter) (h : ctx.SameButTelemetry ctx') :
    ctx.SameButTelemetry (ctx'.emitCounterIncrement c) := by
  obtain ⟨_, _, _, _, rfl⟩ := h
  exact ⟨_, _, _, _, Eq.refl _⟩

theorem SameButTelemetry.trans (h : ctx.SameButTelemetry ctx')
    (h' : ctx'.SameButTelemetry ctx'') : ctx.SameButTelemetry ctx'' := by
  obtain ⟨_, _, _, _, rfl⟩ := h
  obtain ⟨_, _, _, _, rfl⟩ := h'
  exact ⟨_, _, _, _, Eq.refl _⟩

theorem SameButTelemetry.pending (h : ctx.SameButTelemetry ctx') :
    ctx'.pending = ctx.pending := by
  obtain ⟨_, _, _, _, rfl⟩ := h
  exact Eq.refl _

theorem SameButTelemetry.eventWriteIndex (h : ctx.SameButTelemetry ctx') :
    ctx'.eventWriteIndex = ctx.eventWriteIndex := by
  obtain ⟨_, _, _, _, rfl⟩ := h
  exact Eq.refl _

theorem SameButTelemetry.activeHalGeneration (h : ctx.SameButTelemetry ctx') :
    ctx'.activeHalGeneration = ctx.activeHalGeneration := by
  obtain ⟨_, _, _, _, rfl⟩ := h
  exact Eq.refl _

theorem SameButTelemetry.identities (h : ctx.SameButTelemetry ctx') :
    ctx'.halIdentitySlots = ctx.halIdentitySlots ∧
      ctx'.activeHalIdentitySlot = ctx.activeHalIdentitySlot := by
  obtain ⟨_, _, _, _, rfl⟩ := h
  exact ⟨Eq.refl _, Eq.refl _⟩

/-- Contexts with the same config slots and index. -/
def SameConfigs (ctx ctx' : KernelCounterContext) : Prop :=
  ctx'.configSlots = ctx.configSlots ∧ ctx'.activeConfigSlot = ctx.activeConfigSlot

theorem SameConfigs.trans (h : ctx.SameConfigs ctx') (h' : ctx'.SameConfigs ctx'') :
    ctx.SameConfigs ctx'' :=
  ⟨h'.1.trans h.1, h'.2.trans h.2⟩

theorem SameButTelemetry.configs (h : ctx.SameButTelemetry ctx') : ctx.SameConfigs ctx' := by
  obtain ⟨_, _, _, _, rfl⟩ := h
  exact ⟨Eq.refl _, Eq.refl _⟩

end

end KernelCounterContext
end Drmid
