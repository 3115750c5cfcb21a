import Drmid.Hook.Scratch

/-!
# Parsing and rewriting a correlated reply

`emit_parse_hal_correlated_reply` in five stages, cut where the handler touches memory that others
may write in between: it acquires the active config slot, reads the reply from user memory, reads
the slot's length, reads the slot's mode, and copies the virtual id to user memory. A branch to one
of the labels at the end of the source function is an error value that carries the label and the
state at the branch; `ReplyState.finish` is the code at the labels.
-/

namespace Drmid

/-- The labels of `emit_parse_hal_correlated_reply`. -/
inductive ReplyLabel
  | noPending | headerFault | statusNonzero | arrayInvalid | contentFault | lengthMismatch
  | dryRun | writeFault | done
  deriving DecidableEq, Repr

structure ReplyState where
  user : UserMemory
  scratch : ParserScratch
  ctx : KernelCounterContext

namespace ReplyState

def count (st : ReplyState) (c : Counter) : ReplyState :=
  { st with ctx := st.ctx.emitCounterIncrement c }

/-- `ldr`, `orr`, `str` on the reply flags. -/
def orFlags (st : ReplyState) (flags : UInt32) : ReplyState :=
  { st with scratch := { st.scratch with replyFlags := st.scratch.replyFlags ||| flags } }

/-- The slot whose address was captured. -/
def config (st : ReplyState) : RuntimeConfigSlot := st.ctx.configSlots st.scratch.runtimeConfig

/-- `emit_capture_active_runtime_config`. -/
def emitCaptureActiveRuntimeConfig (st : ReplyState) : ReplyState :=
  { st with scratch := { st.scratch with
      runtimeConfig := KernelCounterContext.slotOf st.ctx.activeConfigSlot } }

/-- `emit_replacement_success_telemetry`. -/
def emitReplacementSuccessTelemetry (requestId : UInt64) (st : ReplyState) : ReplyState :=
  { st with ctx := { st.ctx with
      replacementLastRequestId := requestId
      replacementLastReplyFlags := st.scratch.replyFlags
      replacementLastArrayLength := st.scratch.replyArrayLength } }

/-- The code at a label. -/
def finish (st : ReplyState) : ReplyLabel → ReplyState
  | .dryRun => (st.count .replacementDryRunHits).orFlags kReplyFlagDryRun
  | .lengthMismatch => st.count .replacementLengthMismatch
  | .writeFault => (st.count .replacementCopyToUserFaults).count .replacementWriteFaults
  | .noPending => st.count .replyWithoutPending
  | .headerFault => st.count .replyHeaderCopyFaults
  | .statusNonzero => st.count .replyStatusNonzero
  | .arrayInvalid => st.count .replyArrayInvalid
  | .contentFault => st.count .replyContentCopyFaults
  | .done => st

/-! ## The stages -/

/-- A stage runs on, or branches to a label. -/
abbrev Stage := ReplyState → Except (ReplyLabel × ReplyState) ReplyState

/-- The stores of `w17` and of zeros that open the function. -/
def clearReplyWords (requestFlags : UInt32) (st : ReplyState) : ReplyState :=
  { st with scratch := { st.scratch with
      correlatedRequestFlags := requestFlags
      replyPrefixSize := 0
      replyStatus := 0
      replyArrayLength := 0
      replyArrayOffset := 0
      replyFlags := 0 } }

/-- Up to the capture of the config slot. -/
def captureStage (requestId : UInt64) (requestFlags : UInt32) : Stage := fun st =>
  let st := st.clearReplyWords requestFlags
  if requestId = 0 then .error (.noPending, st)
  else if !deviceUniqueIdFlag requestFlags then .error (.done, st)
  else
    let st := st.emitCaptureActiveRuntimeConfig
    let st := (st.count .replyCandidates).count .correlatedReplyCandidates
    .ok { st with scratch := { st.scratch with
      replyFlags := kReplyFlagCorrelatedDeviceUniqueId ||| kReplyFlagHalCorrelated } }

/-- The copy of the 8-byte AIDL status and byte-array header. -/
def headerStage : Stage := fun st =>
  let td := st.scratch.transaction
  if td.dataSize < 8 then .error (.arrayInvalid, st)
  else if td.buffer = 0 then .error (.headerFault, st)
  else
    match st.user.copyFromUser td.buffer 8 with
    | none => .error (.headerFault, st)
    | some data =>
      let s := st.scratch.fillParcel 0 8 data
      let st := { st with scratch := { s with replyPrefixSize := 8 } }.count .replyHeaderCopyOk
      let status := s.parcelWord 0
      let st := { st with scratch := { st.scratch with replyStatus := status } }
      if status ≠ 0 then .error (.statusNonzero, st)
      else
        let st := st.count .replyStatusOk
        let length := s.parcelWord 4
        let st := { st with scratch := { st.scratch with replyArrayLength := length } }
        if length ≠ kWidevineDeviceUniqueIdBytes then .error (.arrayInvalid, st)
        else if td.dataSize < length.toUInt64 + 8 then .error (.arrayInvalid, st)
        else
          let st := { st with scratch := { st.scratch with replyArrayOffset := 8 } }
          .ok ((st.orFlags (kReplyFlagStatusOk ||| kReplyFlagArrayValid)).count .replyArrayValid)

/-- The copy that proves the 32 content bytes readable. -/
def contentStage : Stage := fun st =>
  match st.user.copyFromUser (st.scratch.transaction.buffer + 8) 32 with
  | none => .error (.contentFault, st)
  | some data =>
    let st := { st with scratch := { st.scratch.fillParcel 16 32 data with
      replyPrefixSize := 8 + kWidevineDeviceUniqueIdBytes } }
    let st := st.orFlags (kReplyFlagContentReadable ||| kReplyFlagReplacementCandidate)
    .ok ((st.count .replyContentCopyOk).count .replacementCandidates)

/-- The test of the captured slot's `virtual_id_length`. -/
def lengthStage : Stage := fun st =>
  if st.config.virtualIdLength ≠ kWidevineDeviceUniqueIdBytes then .error (.lengthMismatch, st)
  else .ok st

/-- The test of the captured slot's `replacement_mode`. -/
def modeStage : Stage := fun st =>
  if st.config.replacementMode = 0 then .error (.dryRun, st) else .ok st

/-- The copy of the captured slot's `virtual_id` to user memory. -/
def copyStage (requestId : UInt64) : Stage := fun st =>
  match st.user.copyToUser (st.scratch.transaction.buffer + 8)
      (st.config.virtualId.toList.take 32) with
  | none => .error (.writeFault, st)
  | some user =>
    let st := ({ st with user := user }.count .replacementWriteOk).orFlags kReplyFlagReplaced
    .ok (st.emitReplacementSuccessTelemetry requestId)

/-- A stage that ends in `done` or at a label. -/
def settle : Except (ReplyLabel × ReplyState) ReplyState → ReplyState
  | .error (label, st) => st.finish label
  | .ok st => st

end ReplyState

open ReplyState in
/-- `emit_parse_hal_correlated_reply`, with the pop's request id in `x21` and its flags in `w17`. -/
def emitParseHalCorrelatedReply (requestId : UInt64) (requestFlags : UInt32) (st : ReplyState) :
    ReplyState :=
  settle do
    let st ← captureStage requestId requestFlags st
    let st ← headerStage st
    let st ← contentStage st
    let st ← lengthStage st
    let st ← modeStage st
    copyStage requestId st

end Drmid
