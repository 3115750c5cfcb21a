import Drmid.Lib.Run
import Drmid.Hook.PendingStack
import Drmid.Hook.Record

/-!
# Threads, publishers and the shared context

The handler as a concurrent system. Any number of Binder threads record transactions, one stage of
`emit_record_transaction` at a time and in any order; the daemon may rewrite the identity slots and
the config slots between two stages. Everything a run may choose is in its labels: which thread
moves, what it is handed, what user memory it meets, whether its try-lock succeeded and what a
publisher stores. A label that does not apply leaves the state as it is.

Three components are ghosts. `nest` is the Binder driver's own view, of the commands that are handed
on to a recording: the synchronous requests a thread has been delivered and has not answered,
innermost first. A request or reply that the walk of a stream drops, at its caps or at a copy fault,
has no label here and does not move it. A `Note` keeps what a reply met when it popped and parsed.
`log` keeps every event as its writer stored it, in the order of the tickets, together with that
note.
-/

namespace Drmid

/-- A synchronous request delivered to a thread, handed on to a recording and not yet answered. -/
structure OpenRequest where
  eventId : UInt64
  recognised : Bool
  deriving DecidableEq, Repr

/-- What a reply met: the request it answers, the frame its pop took off the table, the HAL
identity generation active at that moment, and user memory before and after the parse. -/
structure Note where
  answers : Option OpenRequest
  popped : Option BinderPendingFrame
  generation : UInt64
  user : Option (UserMemory × UserMemory)

def Note.empty : Note := ⟨none, none, 0, none⟩

/-- A recording under way. -/
structure Thread where
  recording : Recording
  note : Note

/-- A recorded event. -/
structure Recorded where
  event : BinderTransactionEvent
  note : Note

structure Sys where
  ctx : KernelCounterContext
  thread : UInt64 → Option Thread
  nest : UInt64 → List OpenRequest
  log : List Recorded

/-- What may happen next. The scratch area of `begin` holds the copied transaction data, its other
words being whatever the last command left. -/
inductive Label
  | begin (t : TaskIdentity) (stream : StreamType) (command : UInt32) (u : UserMemory)
      (s : ParserScratch)
  | advance (task : UInt64) (acquired : Bool) (u : UserMemory)
  | publishHal (active : UInt32) (slots : Fin 2 → HalIdentitySet)
  | publishConfig (active : UInt32) (slots : Fin 2 → RuntimeConfigSlot)

namespace Sys

/-- A freshly installed hook: no thread is in the handler. -/
def init (ctx : KernelCounterContext) : Sys := ⟨ctx, fun _ => none, fun _ => [], []⟩

/-- `nest` after a synchronous request was delivered. -/
def opens (nest : UInt64 → List OpenRequest) (r : Recording) : UInt64 → List OpenRequest :=
  if r.scratch.transaction.oneWay then nest
  else Function.update nest r.task.kaddr (⟨r.eventId, r.recognised⟩ :: nest r.task.kaddr)

/-- The note of a pop by `task`. -/
def popNote (S : Sys) (task : UInt64) (acquired : Bool) : Note where
  answers := (S.nest task).head?
  popped := if acquired then (pendingMap S.ctx.pending task).map PendingStack.top else none
  generation := S.ctx.activeHalGeneration
  user := none

/-- One stage of the recording of `task`. -/
def advance (S : Sys) (task : UInt64) (th : Thread) (acquired : Bool) (u : UserMemory) : Sys :=
  let (r, u', ctx) := stepRecord acquired u th.recording S.ctx
  match th.recording.stage with
  | .pop =>
    { S with
      ctx := ctx
      thread := Function.update S.thread task (some ⟨r, S.popNote task acquired⟩)
      nest := Function.update S.nest task (S.nest task).tail }
  | .parse =>
    { S with
      ctx := ctx
      thread := Function.update S.thread task (some ⟨r, { th.note with user := some (u, u') }⟩) }
  | .reserve =>
    { S with
      ctx := ctx
      thread := Function.update S.thread task (some ⟨r, th.note⟩)
      log := S.log ++ [⟨r.event, th.note⟩] }
  | .push =>
    { S with
      ctx := ctx
      thread := Function.update S.thread task (some ⟨r, th.note⟩)
      nest := opens S.nest th.recording }
  | .publish | .done =>
    { S with ctx := ctx, thread := Function.update S.thread task none }

/-- The next state. A thread starts a recording only when it has none under way, for one of the
stream's transaction words. -/
def step (S : Sys) : Label → Sys
  | .begin t stream command u s =>
    if (S.thread t.kaddr).isNone ∧ t.kaddr ≠ 0 ∧ command ∈ stream.transactionCommands then
      let (r, ctx) := beginRecord t stream command u s S.ctx
      { S with ctx := ctx, thread := Function.update S.thread t.kaddr (some ⟨r, .empty⟩) }
    else S
  | .advance task acquired u =>
    match S.thread task with
    | none => S
    | some th => S.advance task th acquired u
  | .publishHal active slots =>
    { S with ctx := { S.ctx with activeHalIdentitySlot := active, halIdentitySlots := slots } }
  | .publishConfig active slots =>
    { S with ctx := { S.ctx with activeConfigSlot := active, configSlots := slots } }

/-- The state after the labels `ls`. -/
def run (S : Sys) (ls : List Label) : Sys := Lib.run step S ls

/-- `task` has the recording `th` under way and is about to run `stage`. -/
def moves (S : Sys) (task : UInt64) (th : Thread) (stage : RecordStage) : Prop :=
  S.thread task = some th ∧ th.recording.stage = stage

/-- Tickets do not run out: the event id about to be reserved is below `2^64 - 1`. -/
def TicketsLeft (S : Sys) : Label → Prop
  | .advance task _ _ => ∀ th, S.moves task th .reserve → S.ctx.eventWriteIndex.toNat + 2 < 2 ^ 64
  | _ => True

theorem ticketsLeft_of_lt {S : Sys} (l : Label) (h : S.ctx.eventWriteIndex.toNat + 2 < 2 ^ 64) :
    S.TicketsLeft l := by
  cases l with
  | advance => exact fun _ _ => h
  | begin | publishHal | publishConfig => trivial

end Sys

/-! ## Uninterrupted recordings -/

/-- The labels of one recording whose try-lock answers `acquired`. A thread that needs fewer than
five stages has left the handler by then. -/
def recordLabels (t : TaskIdentity) (stream : StreamType) (command : UInt32) (acquired : Bool)
    (u : UserMemory) (td : BinderTransactionData) : List Label :=
  .begin t stream command u { ParserScratch.zero with transaction := td } ::
    List.replicate 5 (.advance t.kaddr acquired u)

/-- A recognised `deviceUniqueId` request is delivered to `t`. -/
def deviceUniqueIdRequest (t : TaskIdentity) (acquired : Bool) : List Label :=
  recordLabels t .br brTransaction acquired (.ofBytes 0x1000 deviceUniqueIdParcel) (parcelCall 11)

/-- A request with another code is delivered to `t`. -/
def otherRequest (t : TaskIdentity) : List Label :=
  recordLabels t .br brTransaction true (.ofBytes 0x1000 deviceUniqueIdParcel) (parcelCall 12)

/-- A status word 0, a length word 32 and 32 bytes of content. -/
def arrayReply : List UInt8 := [0, 0, 0, 0, 32, 0, 0, 0] ++ List.replicate 32 0xaa

/-- A successful reply with a 32-byte array is sent by `t`. -/
def replyOf (t : TaskIdentity) (acquired : Bool) : List Label :=
  recordLabels t .bc bcReply acquired (.ofBytes 0x1000 arrayReply) (parcelCall 0)

/-- A context whose active config writes: 32 bytes `0x5a`, mode 1. -/
def writingContext : KernelCounterContext :=
  { KernelCounterContext.zero with
    configSlots := fun _ => ⟨1, 1, 1, kWriteTest, 32, Vector.replicate 64 0x5a⟩ }

end Drmid
