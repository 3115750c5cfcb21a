import Drmid.Kernel.Context
import Drmid.Kernel.Errors
import Drmid.Lib.DoubleSlot
import Drmid.Lib.Run

/-!
# Publishing configs and HAL identities

The daemon's side of the double slots: `validate_runtime_config`, `validate_hal_identities`,
`read_counter_snapshot`, the installation of the first context, and the two publish calls. The
calls differ in what they validate and in which part of the context they write, so both are
`publish` at a `Register`, the record of where an index, its slots and its switch counter are.

A publish call makes four kernel operations: it reads the context, writes the inactive slot, writes
the switch counter and flips the index. Each may fail, and `KernelFaults` says which of them do in
one call. A failed write may leave anything where it was aimed; a failed flip has stored nothing.
The operations are stages of their own (`Register.advance`), so that a reader can be put between
two of them.
-/

namespace Drmid

open KernelCounterContext

/-! ## Arguments -/

structure CounterHookSession where
  targetKaddr : UInt64
  /-- Compared with zero only; a nonzero one is the address of the context. -/
  contextKaddr : UInt64
  activeAtRemove : UInt64
  deriving DecidableEq, Repr

structure ReplacementConfig where
  mode : UInt32
  virtualIdLength : UInt32
  configGeneration : UInt64
  seedGeneration : UInt64
  profileFingerprint : UInt64
  virtualId : Vector UInt8 64
  deriving DecidableEq, Repr

structure HalIdentityConfig where
  generation : UInt64
  count : UInt32
  tgids : Vector UInt32 4
  deriving DecidableEq, Repr

/-- `HalIdentityConfig empty;`. -/
def HalIdentityConfig.zero : HalIdentityConfig := ⟨0, 0, Vector.replicate 4 0⟩

def validateRuntimeConfig (config : ReplacementConfig) : Bool :=
  config.configGeneration != 0 && config.seedGeneration != 0 && config.profileFingerprint != 0 &&
    decide (config.mode ≤ kWriteTest) && config.virtualIdLength == kWidevineDeviceUniqueIdBytes

/-- The body of the loop of `validate_hal_identities` at `index`. -/
def validTgidAt (identities : HalIdentityConfig) (index : Fin 4) : Bool :=
  let value := identities.tgids[index]
  if index.val < identities.count.toNat then
    value != 0 &&
      (index.val == 0 || decide (identities.tgids.toList.getD (index.val - 1) 0 < value))
  else value == 0

def validateHalIdentities (identities : HalIdentityConfig) : Bool :=
  if identities.generation = 0 ∨ kHalIdentityLimit < identities.count.toNat then false
  else (List.finRange 4).all (validTgidAt identities)

/-- The `RuntimeConfigSlot next{}` that is filled from `config`; `memcpy` takes
`virtual_id_length` bytes. -/
def RuntimeConfigSlot.ofConfig (config : ReplacementConfig) : RuntimeConfigSlot where
  configGeneration := config.configGeneration
  seedGeneration := config.seedGeneration
  profileFingerprint := config.profileFingerprint
  replacementMode := config.mode
  virtualIdLength := config.virtualIdLength
  virtualId := .ofFn fun i => if i.val < config.virtualIdLength.toNat then config.virtualId[i] else 0

/-- The `HalIdentitySet next{}` that is filled from `identities`. -/
def HalIdentitySet.ofConfig (identities : HalIdentityConfig) : HalIdentitySet where
  generation := identities.generation
  count := identities.count
  tgids := identities.tgids

/-! ## Reading and installing the context -/

def readCounterSnapshot (session : CounterHookSession) (fault : Option KModFailure)
    (ctx : KernelCounterContext) : Except KModErr KernelCounterContext :=
  if session.contextKaddr = 0 then .error .errModuleParam
  else match fault with
    | some f => .error f
    | none =>
      if ctx.magic ≠ kCounterContextMagic ∨ ctx.abiVersion ≠ kCounterContextAbi then
        .error .errModuleParam
      else .ok ctx

/-- The context `install_readonly_parser_hook` writes, if it accepts its arguments. -/
def installReadonlyParserHook (config : ReplacementConfig) (identities : HalIdentityConfig) :
    Option KernelCounterContext :=
  if validateRuntimeConfig config && validateHalIdentities identities then
    some { KernelCounterContext.zero with
      magic := kCounterContextMagic
      abiVersion := kCounterContextAbi
      configSlots := fun _ => .ofConfig config
      halIdentitySlots := fun _ => .ofConfig identities }
  else none

/-! ## The registers -/

/-- Where a double slot of the context is: its index, its slots, its switch counter, and which word
of a slot is its generation. The four kinds of access do not disturb each other. -/
structure Register (α : Type) where
  index : KernelCounterContext → UInt32
  slots : KernelCounterContext → Fin 2 → α
  setIndex : KernelCounterContext → UInt32 → KernelCounterContext
  setSlots : KernelCounterContext → (Fin 2 → α) → KernelCounterContext
  switches : Counter
  generation : α → UInt64
  index_setIndex : ∀ ctx i, index (setIndex ctx i) = i := by intros; rfl
  slots_setIndex : ∀ ctx i, slots (setIndex ctx i) = slots ctx := by intros; rfl
  index_setSlots : ∀ ctx s, index (setSlots ctx s) = index ctx := by intros; rfl
  slots_setSlots : ∀ ctx s, slots (setSlots ctx s) = s := by intros; rfl
  index_counter : ∀ ctx c, index { ctx with counter := c } = index ctx := by intros; rfl
  slots_counter : ∀ ctx c, slots { ctx with counter := c } = slots ctx := by intros; rfl

def configRegister : Register RuntimeConfigSlot where
  index := activeConfigSlot
  slots := configSlots
  setIndex ctx i := { ctx with activeConfigSlot := i }
  setSlots ctx s := { ctx with configSlots := s }
  switches := .runtimeConfigSwitches
  generation := RuntimeConfigSlot.configGeneration

def identityRegister : Register HalIdentitySet where
  index := activeHalIdentitySlot
  slots := halIdentitySlots
  setIndex ctx i := { ctx with activeHalIdentitySlot := i }
  setSlots ctx s := { ctx with halIdentitySlots := s }
  switches := .halIdentitySwitches
  generation := HalIdentitySet.generation

/-! ## One publish call -/

/-- What the kernel operations of one publish call do, `none` being success. -/
structure KernelFaults (α : Type) where
  read : Option KModFailure
  slot : Option (KModFailure × α)
  switches : Option (KModFailure × UInt64)
  flip : Option KModFailure

/-- No operation fails. -/
def KernelFaults.none {α : Type} : KernelFaults α := ⟨.none, .none, .none, .none⟩

/-- What a call keeps from its snapshot. -/
structure PublishPlan (α : Type) where
  inactive : Fin 2
  next : α
  switches : UInt64

/-- The index word of a slot. -/
def slotWord (i : Fin 2) : UInt32 := UInt32.ofNat i.val

namespace Register

variable {α : Type} (r : Register α)

/-- The register as readers see it. -/
def view (ctx : KernelCounterContext) : Lib.DoubleSlot α := ⟨slotOf (r.index ctx), r.slots ctx⟩

/-- Up to the slot that is to be written: the arguments are checked, the context is read and the
generation compared with the active one. -/
def snapshotStage (session : CounterHookSession) (valid : Bool) (next : α)
    (fault : Option KModFailure) (ctx : KernelCounterContext) : Except KModErr (PublishPlan α) :=
  if session.contextKaddr = 0 ∨ valid = false then .error .errModuleParam
  else match readCounterSnapshot session fault ctx with
    | .error err => .error err
    | .ok snapshot =>
      let active := slotOf (r.index snapshot)
      if r.generation next ≤ r.generation (r.slots snapshot active) then .error .errModuleParam
      else .ok ⟨Lib.DoubleSlot.other active, next, snapshot.counter r.switches + 1⟩

/-- The write of the inactive slot. -/
def slotStage (plan : PublishPlan α) (fault : Option (KModFailure × α))
    (ctx : KernelCounterContext) : Option KModFailure × KernelCounterContext :=
  let write (x : α) := r.setSlots ctx (Function.update (r.slots ctx) plan.inactive x)
  match fault with
  | some (err, dirt) => (some err, write dirt)
  | none => (none, write plan.next)

/-- The write of the switch counter. -/
def switchesStage (plan : PublishPlan α) (fault : Option (KModFailure × UInt64))
    (ctx : KernelCounterContext) : Option KModFailure × KernelCounterContext :=
  let write (x : UInt64) := { ctx with counter := Function.update ctx.counter r.switches x }
  match fault with
  | some (err, dirt) => (some err, write dirt)
  | none => (none, write plan.switches)

/-- `flip_slot_index`. -/
def flipStage (plan : PublishPlan α) (fault : Option KModFailure) (ctx : KernelCounterContext) :
    Option KModFailure × KernelCounterContext :=
  match fault with
  | some err => (some err, ctx)
  | none => (none, r.setIndex ctx (slotWord plan.inactive))

end Register

/-- A publish call under way, by the operation it makes next. -/
inductive Publishing (α : Type)
  | snapshot (session : CounterHookSession) (valid : Bool) (next : α)
  | slot (plan : PublishPlan α)
  | switches (plan : PublishPlan α)
  | flip (plan : PublishPlan α)
  | returned (err : KModErr) (publishedSlot : UInt32)

namespace Register

variable {α : Type} (r : Register α)

/-- A stage that fails returns its error, with `published_slot` still zero. -/
def proceed (next : Publishing α) :
    Option KModFailure × KernelCounterContext → Publishing α × KernelCounterContext
  | (some err, ctx) => (.returned err 0, ctx)
  | (none, ctx) => (next, ctx)

/-- The next kernel operation of a call. -/
def advance (k : KernelFaults α) (ctx : KernelCounterContext) :
    Publishing α → Publishing α × KernelCounterContext
  | .snapshot session valid next =>
    match r.snapshotStage session valid next k.read ctx with
    | .error err => (.returned err 0, ctx)
    | .ok plan => (.slot plan, ctx)
  | .slot plan => proceed (.switches plan) (r.slotStage plan k.slot ctx)
  | .switches plan => proceed (.flip plan) (r.switchesStage plan k.switches ctx)
  | .flip plan => proceed (.returned .ok (slotWord plan.inactive)) (r.flipStage plan k.flip ctx)
  | .returned err slot => (.returned err slot, ctx)

end Register

/-- What a publish call returns, with the context it leaves. -/
structure PublishResult where
  err : KModErr
  publishedSlot : UInt32
  ctx : KernelCounterContext

/-- The body the two publish calls share. -/
def publish {α : Type} (r : Register α) (session : CounterHookSession) (valid : Bool) (next : α)
    (k : KernelFaults α) (ctx : KernelCounterContext) : PublishResult :=
  match r.snapshotStage session valid next k.read ctx with
  | .error err => ⟨err, 0, ctx⟩
  | .ok plan =>
    match r.slotStage plan k.slot ctx with
    | (some err, ctx) => ⟨err, 0, ctx⟩
    | (none, ctx) =>
      match r.switchesStage plan k.switches ctx with
      | (some err, ctx) => ⟨err, 0, ctx⟩
      | (none, ctx) =>
        match r.flipStage plan k.flip ctx with
        | (some err, ctx) => ⟨err, 0, ctx⟩
        | (none, ctx) => ⟨.ok, slotWord plan.inactive, ctx⟩

def publishRuntimeConfig (session : CounterHookSession) (config : ReplacementConfig)
    (k : KernelFaults RuntimeConfigSlot) (ctx : KernelCounterContext) : PublishResult :=
  publish configRegister session (validateRuntimeConfig config) (.ofConfig config) k ctx

def publishHalIdentities (session : CounterHookSession) (identities : HalIdentityConfig)
    (k : KernelFaults HalIdentitySet) (ctx : KernelCounterContext) : PublishResult :=
  publish identityRegister session (validateHalIdentities identities) (.ofConfig identities) k ctx

/-! ## Sequences of calls -/

/-- One publish call, with what the kernel does in it. -/
inductive PublishCall
  | config (session : CounterHookSession) (config : ReplacementConfig)
      (k : KernelFaults RuntimeConfigSlot)
  | identities (session : CounterHookSession) (identities : HalIdentityConfig)
      (k : KernelFaults HalIdentitySet)

def PublishCall.exec (ctx : KernelCounterContext) : PublishCall → KernelCounterContext
  | .config session c k => (publishRuntimeConfig session c k ctx).ctx
  | .identities session s k => (publishHalIdentities session s k ctx).ctx

/-- The context after the calls. -/
def publishRun (ctx : KernelCounterContext) (calls : List PublishCall) : KernelCounterContext :=
  Lib.run PublishCall.exec ctx calls

/-- Every field of the slot is the config's; the id bytes past its length are zero. -/
structure RuntimeConfigSlot.Holds (slot : RuntimeConfigSlot) (config : ReplacementConfig) : Prop where
  configGeneration : slot.configGeneration = config.configGeneration
  seedGeneration : slot.seedGeneration = config.seedGeneration
  profileFingerprint : slot.profileFingerprint = config.profileFingerprint
  replacementMode : slot.replacementMode = config.mode
  virtualIdLength : slot.virtualIdLength = config.virtualIdLength
  virtualId : ∀ i : Fin 64, slot.virtualId[i] =
    if i.val < config.virtualIdLength.toNat then config.virtualId[i] else 0

/-- Every field of the set is the argument's. -/
structure HalIdentitySet.Holds (set : HalIdentitySet) (identities : HalIdentityConfig) : Prop where
  generation : set.generation = identities.generation
  count : set.count = identities.count
  tgids : set.tgids = identities.tgids

/-! ## Sample arguments -/

/-- A write-mode config of 32 bytes `0x5a`. -/
def sampleConfig (generation : UInt64) : ReplacementConfig :=
  ⟨kWriteTest, 32, generation, 1, 1, Vector.replicate 64 0x5a⟩

/-- One HAL process. -/
def sampleIdentities : HalIdentityConfig := ⟨1, 1, #v[5, 0, 0, 0]⟩

/-- The slot write fails and leaves zeros. -/
def dirtyWrite : KernelFaults RuntimeConfigSlot :=
  ⟨none, some (⟨.errModuleWriteFile, by decide⟩, .zero), none, none⟩

end Drmid
