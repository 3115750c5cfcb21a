import Drmid.Hook.Publish
import Drmid.Hook.Reply

/-!
# One reply parse between the operations of publish calls

The handler parses one reply, a stage of `emit_parse_hal_correlated_reply` at a time, while the
daemon makes any number of `publish_runtime_config` calls, one after the other and a kernel
operation at a time. A run may order the steps as it likes; what the user memory holds at a stage
and which kernel operations fail is in the labels too.

`seen` and `published` are ghosts: what the parse took from a config slot, and the configs that
have been active, latest first.
-/

namespace Drmid

open ReplyState

/-- The stages of a parse. -/
inductive ParseStage
  | capture | header | content | length | mode | copy
  deriving DecidableEq, Repr

namespace ParseStage

def body (requestId : UInt64) (requestFlags : UInt32) : ParseStage → Stage
  | .capture => captureStage requestId requestFlags
  | .header => headerStage
  | .content => contentStage
  | .length => lengthStage
  | .mode => modeStage
  | .copy => copyStage requestId

def next : ParseStage → Option ParseStage
  | .capture => some .header
  | .header => some .content
  | .content => some .length
  | .length => some .mode
  | .mode => some .copy
  | .copy => none

end ParseStage

/-- What the parse has read of a config slot: the length and the mode it tested and the bytes it
copied. -/
structure Seen where
  length : Option UInt32
  mode : Option UInt32
  bytes : Option (List UInt8)
  deriving DecidableEq, Repr

namespace Seen

def nothing : Seen := ⟨none, none, none⟩

/-- What `stage` adds, `slot` being the captured one. -/
def observe (seen : Seen) (slot : RuntimeConfigSlot) : ParseStage → Seen
  | .length => { seen with length := some slot.virtualIdLength }
  | .mode => { seen with mode := some slot.replacementMode }
  | .copy => { seen with bytes := some (slot.virtualId.toList.take 32) }
  | .capture | .header | .content => seen

/-- All of it belongs to `config`. -/
def BelongsTo (seen : Seen) (config : ReplacementConfig) : Prop :=
  (seen.length = none ∨ seen.length = some config.virtualIdLength) ∧
    (seen.mode = none ∨ seen.mode = some config.mode) ∧
    (seen.bytes = none ∨ seen.bytes = some (config.virtualId.toList.take 32))

instance (seen : Seen) (config : ReplacementConfig) : Decidable (seen.BelongsTo config) :=
  inferInstanceAs (Decidable (_ ∧ _ ∧ _))

end Seen

/-- The parse, the publisher and the context they share. -/
structure Race where
  ctx : KernelCounterContext
  requestId : UInt64
  requestFlags : UInt32
  /-- The stage that runs next; `none` after the parse. -/
  stage : Option ParseStage
  user : UserMemory
  scratch : ParserScratch
  seen : Seen
  /-- The publish call under way. -/
  call : Option (ReplacementConfig × Publishing RuntimeConfigSlot)
  published : List ReplacementConfig

inductive RaceLabel
  | parse (u : UserMemory)
  | call (session : CounterHookSession) (config : ReplacementConfig)
  | publish (k : KernelFaults RuntimeConfigSlot)

namespace Race

/-- A parse about to start in a context that was installed with `config`. -/
def init (ctx : KernelCounterContext) (config : ReplacementConfig) (requestId : UInt64)
    (requestFlags : UInt32) (u : UserMemory) (s : ParserScratch) : Race :=
  ⟨ctx, requestId, requestFlags, some .capture, u, s, .nothing, none, [config]⟩

/-- The parse after a stage that ran on to `next`, or that was its last. -/
def continueWith (S : Race) (st : ReplyState) (next : Option ParseStage) (seen : Seen) : Race :=
  { S with ctx := st.ctx, user := st.user, scratch := st.scratch, stage := next, seen := seen }

/-- One stage of the parse, which meets user memory `u`. -/
def parse (S : Race) (u : UserMemory) (stage : ParseStage) : Race :=
  let st : ReplyState := ⟨u, S.scratch, S.ctx⟩
  let seen := S.seen.observe st.config stage
  match stage.body S.requestId S.requestFlags st with
  | .ok st' => S.continueWith st' stage.next seen
  | .error (label, st') => S.continueWith (st'.finish label) none seen

/-- One kernel operation of the publish call. -/
def publish (S : Race) (k : KernelFaults RuntimeConfigSlot) (config : ReplacementConfig)
    (p : Publishing RuntimeConfigSlot) : Race :=
  match configRegister.advance k S.ctx p with
  | (.returned err _, ctx) =>
    { S with
      ctx := ctx
      call := none
      published := if err = .ok then config :: S.published else S.published }
  | (p', ctx) => { S with ctx := ctx, call := some (config, p') }

/-- The next state; a label that does not apply leaves it. -/
def step (S : Race) : RaceLabel → Race
  | .parse u =>
    match S.stage with
    | none => S
    | some stage => S.parse u stage
  | .call session config =>
    match S.call with
    | none => { S with
        call := some (config, .snapshot session (validateRuntimeConfig config) (.ofConfig config)) }
    | some _ => S
  | .publish k =>
    match S.call with
    | none => S
    | some (config, p) => S.publish k config p

/-- The label writes the slot that the parse has captured and is not done with. -/
def overwrites (S : Race) : RaceLabel → Bool
  | .publish _ =>
    match S.call, S.stage with
    | some (_, .slot plan), some stage =>
      stage != .capture && plan.inactive == S.scratch.runtimeConfig
    | _, _ => false
  | .parse _ | .call _ _ => false

end Race

/-! ## A correlated reply -/

/-- A publish call without kernel failures. -/
def publishLabels (config : ReplacementConfig) : List RaceLabel :=
  .call ⟨0, 64, 0⟩ config :: List.replicate 4 (.publish .none)

/-- A reply with status 0 and a 32-byte array. -/
def replyMemory : UserMemory :=
  .ofBytes 0x1000 ([0, 0, 0, 0, 32, 0, 0, 0] ++ List.replicate 32 0xaa)

/-- The reply at `replyMemory` is about to be parsed, correlated with request 1. -/
def replyRace (ctx : KernelCounterContext) : Race :=
  .init ctx (sampleConfig 1) 1 kParcelFlagDeviceUniqueId replyMemory
    { ParserScratch.zero with transaction := ⟨0, 0, 0, 0, 0, 0, 64, 0, 0x1000, 0⟩ }

/-- A config of 32 bytes `0x11` that must not be written to replies. -/
def dryRunConfig : ReplacementConfig := ⟨kDryRun, 32, 3, 1, 1, Vector.replicate 64 0x11⟩

end Drmid
