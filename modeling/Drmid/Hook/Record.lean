import Drmid.Hook.Parcel
import Drmid.Hook.Pending
import Drmid.Hook.Reply

/-!
# Recording one transaction

`emit_record_transaction` handles one transaction command: it recognises a request or pops the
request a reply answers, takes an event id, fills its slot of the event ring, pushes a recognised
request and publishes the event. Between two of these stages other threads run, so each stage is a
function of its own on the registers that live across stages (`Recording`) and the shared context.
`emitRecordTransaction` is their composition; `stepRecord` is what a scheduler runs, one stage at a
time, and `stepRecord_all` says that running every stage in a row gives `emitRecordTransaction`.

The stores to the reserved ring slot are one stage: no modelled stage of another thread reads them.
-/

namespace Drmid

/-! ## Events -/

/-- The `kind` store at the end of `emit_record_transaction`. -/
def eventKind (stream : StreamType) (command : UInt32) : BinderEventKind :=
  match stream with
  | .bc => if command = bcTransaction ∨ command = bcTransactionSg then .bcTransaction else .bcReply
  | .br =>
    if command = brReply then .brReply
    else if command = brTransactionSecCtx then .brTransactionSecCtx
    else .brTransaction

/-- `emit_reserve_event`: the event id, the ring slot and the context after the ticket was taken
and the two words were stored. -/
def emitReserveEvent (ctx : KernelCounterContext) : UInt64 × Fin 256 × KernelCounterContext :=
  let ticket := ctx.eventWriteIndex
  let eventId := ticket + 1
  let slot := Fin.ofNat 256 (ticket &&& 255).toNat
  (eventId, slot, { ctx with
    eventWriteIndex := ticket + 1
    events := Function.update ctx.events slot
      { ctx.events slot with sequence := (eventId <<< 1) - 1, eventId := eventId } })

/-- The ring slot of a ticket. -/
def eventSlot (ticket : UInt64) : Fin 256 := Fin.ofNat 256 (ticket &&& 255).toNat

/-- `emit_publish_event`. -/
def emitPublishEvent (eventId : UInt64) (slot : Fin 256) (ctx : KernelCounterContext) :
    KernelCounterContext :=
  { ctx with
    events := Function.update ctx.events slot { ctx.events slot with sequence := eventId <<< 1 } }

/-! ## Stages -/

/-- The stage a recording runs next. -/
inductive RecordStage
  | pop | parse | reserve | push | publish | done
  deriving DecidableEq, Repr

/-- The registers and scratch of an `emit_record_transaction` under way: `x27` with its two ids,
`w24`, `x21`, `w17`, `x26` and `x28`. -/
structure Recording where
  task : TaskIdentity
  stream : StreamType
  command : UInt32
  stage : RecordStage
  scratch : ParserScratch
  requestId : UInt64
  requestFlags : UInt32
  eventId : UInt64
  slot : Fin 256

/-- The event a recording stores, `sequence` still odd. -/
def Recording.event (r : Recording) : BinderTransactionEvent where
  sequence := (r.eventId <<< 1) - 1
  eventId := r.eventId
  taskKaddr := r.task.kaddr
  target := r.scratch.transaction.target
  cookie := r.scratch.transaction.cookie
  dataSize := r.scratch.transaction.dataSize
  offsetsSize := r.scratch.transaction.offsetsSize
  buffer := r.scratch.transaction.buffer
  offsets := r.scratch.transaction.offsets
  correlatedRequestId := r.requestId
  pid := r.task.pid
  tgid := r.task.tgid
  command := r.command
  code := r.scratch.transaction.code
  flags := r.scratch.transaction.flags
  senderPid := r.scratch.transaction.senderPid
  senderEuid := r.scratch.transaction.senderEuid
  kind := eventKind r.stream r.command
  parcelTokenKind := r.scratch.parcelTokenKind
  parcelTokenOffset := r.scratch.parcelTokenOffset
  parcelPrefixSize := r.scratch.parcelPrefixSize
  parcelFlags := r.scratch.parcelFlags
  correlatedRequestFlags := r.scratch.correlatedRequestFlags
  replyPrefixSize := r.scratch.replyPrefixSize
  replyStatusCode := r.scratch.replyStatus
  replyByteArrayLength := r.scratch.replyArrayLength
  replyByteArrayOffset := r.scratch.replyArrayOffset
  replyFlags := r.scratch.replyFlags

/-- A `'c'` command that pops. -/
def isReply (stream : StreamType) (command : UInt32) : Bool :=
  stream == .bc && isBcReply command

/-- An `'r'` command that may push: every one but `BR_REPLY`. -/
def isRequest (stream : StreamType) (command : UInt32) : Bool :=
  stream == .br && command != brReply

/-- Recognised as a `deviceUniqueId` request. -/
def Recording.recognised (r : Recording) : Bool := deviceUniqueIdFlag r.scratch.parcelFlags

/-- The scratch is reset and, in the `'r'` stream, the parcel looked at. -/
def beginRecord (t : TaskIdentity) (stream : StreamType) (command : UInt32) (u : UserMemory)
    (s : ParserScratch) (ctx : KernelCounterContext) : Recording × KernelCounterContext :=
  let s := s.emitResetTransactionParseScratch
  let (s, ctx) :=
    if stream = .br then emitCaptureParcelPrefix stream command u s ctx else (s, ctx)
  (⟨t, stream, command, if isReply stream command then .pop else .reserve, s, 0, 0, 0, 0⟩, ctx)

/-- `emit_pending_pop(a, context_kaddr, false)`. -/
def popRecord (acquired : Bool) (r : Recording) (ctx : KernelCounterContext) :
    Recording × KernelCounterContext :=
  let p := emitPendingPop r.task.kaddr acquired false r.scratch ctx
  ({ r with stage := .parse, scratch := p.scratch, requestId := p.requestId,
            requestFlags := p.flags }, p.ctx)

/-- `emit_parse_hal_correlated_reply`. -/
def parseRecord (u : UserMemory) (r : Recording) (ctx : KernelCounterContext) :
    Recording × UserMemory × KernelCounterContext :=
  let st := emitParseHalCorrelatedReply r.requestId r.requestFlags ⟨u, r.scratch, ctx⟩
  ({ r with stage := .reserve, scratch := st.scratch }, st.user, st.ctx)

/-- `emit_reserve_event` and the stores of the event's fields. -/
def reserveRecord (r : Recording) (ctx : KernelCounterContext) :
    Recording × KernelCounterContext :=
  let (eventId, slot, ctx) := emitReserveEvent ctx
  let r := { r with
    stage := if isRequest r.stream r.command then .push else .publish
    eventId := eventId
    slot := slot }
  (r, { ctx with events := Function.update ctx.events slot r.event })

/-- The push of a recognised request. -/
def pushRecord (acquired : Bool) (r : Recording) (ctx : KernelCounterContext) :
    Recording × KernelCounterContext :=
  if r.recognised then
    let (s, ctx) := emitPendingPush r.task acquired r.eventId r.scratch
      (ctx.emitCounterIncrement .serverRequestHits)
    ({ r with stage := .publish, scratch := s }, ctx)
  else ({ r with stage := .publish }, ctx)

/-- Label `publish`. -/
def publishRecord (r : Recording) (ctx : KernelCounterContext) :
    Recording × KernelCounterContext :=
  ({ r with stage := .done },
    emitPublishEvent r.eventId r.slot (ctx.emitCounterIncrement .transactionMetadataOk))

/-- `emit_record_transaction`, with the try-lock's answer and the user memory it runs on. -/
def emitRecordTransaction (t : TaskIdentity) (stream : StreamType) (command : UInt32)
    (acquired : Bool) (u : UserMemory) (s : ParserScratch) (ctx : KernelCounterContext) :
    UserMemory × ParserScratch × KernelCounterContext :=
  let (r, ctx) := beginRecord t stream command u s ctx
  let (r, u, ctx) :=
    if isReply stream command then
      let (r, ctx) := popRecord acquired r ctx
      parseRecord u r ctx
    else (r, u, ctx)
  let (r, ctx) := reserveRecord r ctx
  let (r, ctx) := if isRequest stream command then pushRecord acquired r ctx else (r, ctx)
  let (r, ctx) := publishRecord r ctx
  (u, r.scratch, ctx)

/-! ## One stage at a time -/

/-- The stage a recording is at, with the lock's answer and the user memory it meets. -/
def stepRecord (acquired : Bool) (u : UserMemory) (r : Recording) (ctx : KernelCounterContext) :
    Recording × UserMemory × KernelCounterContext :=
  match r.stage with
  | .pop => let (r, ctx) := popRecord acquired r ctx; (r, u, ctx)
  | .parse => parseRecord u r ctx
  | .reserve => let (r, ctx) := reserveRecord r ctx; (r, u, ctx)
  | .push => let (r, ctx) := pushRecord acquired r ctx; (r, u, ctx)
  | .publish => let (r, ctx) := publishRecord r ctx; (r, u, ctx)
  | .done => (r, u, ctx)

/-- The stages run in a row. -/
def stepsRecord (acquired : Bool) :
    Nat → Recording → UserMemory → KernelCounterContext →
      Recording × UserMemory × KernelCounterContext
  | 0, r, u, ctx => (r, u, ctx)
  | n + 1, r, u, ctx =>
    let (r, u, ctx) := stepRecord acquired u r ctx
    stepsRecord acquired n r u ctx

/-- **Stage by stage is the whole function.** No command has more than five stages. -/
theorem stepRecord_all (t : TaskIdentity) (stream : StreamType) (command : UInt32)
    (acquired : Bool) (u : UserMemory) (s : ParserScratch) (ctx : KernelCounterContext) :
    let (r, ctx₀) := beginRecord t stream command u s ctx
    let (r', u', ctx') := stepsRecord acquired 5 r u ctx₀
    r'.stage = .done ∧
      (u', r'.scratch, ctx') = emitRecordTransaction t stream command acquired u s ctx := by
  have hpush : ∀ r ctx, (pushRecord acquired r ctx).1.stage = .publish := by
    intro r ctx
    unfold pushRecord
    split <;> rfl
  have hnot : isReply stream command = true → isRequest stream command = false := by
    cases stream <;> simp [isReply, isRequest]
  unfold emitRecordTransaction beginRecord
  generalize (if stream = .br then emitCaptureParcelPrefix stream command u
    s.emitResetTransactionParseScratch ctx else (s.emitResetTransactionParseScratch, ctx)) = p
  obtain ⟨s₁, ctx₁⟩ := p
  cases hr : isReply stream command with
  | true =>
    have hq := hnot hr
    simp [stepsRecord, stepRecord, popRecord, parseRecord, reserveRecord, hq, publishRecord,
      emitReserveEvent]
  | false =>
    cases hq : isRequest stream command with
    | true =>
      simp [stepsRecord, stepRecord, reserveRecord, hq, publishRecord, emitReserveEvent, hpush]
    | false =>
      simp [stepsRecord, stepRecord, reserveRecord, hq, publishRecord, emitReserveEvent]

end Drmid
