import Drmid.Hook.Interleaving

/-!
# The books of the handler

Every branch of the handler ends in a counter, so the counters balance whenever no tracked call is
under way. `Conserved` is the list of these balances as a reader of the context sees them. While
calls are under way each balance is off by what they still owe: a `Law` is one balance, `Phase` is
how far a call has got in the books, and `owes` is what a call in that phase has put on the left
side of a law and not yet on the right.
-/

namespace Drmid

/-! ## Balances -/

/-- A word of the context that the handler only ever raises. -/
inductive Gauge
  | counter (c : Counter)
  | events
  deriving DecidableEq, Repr

namespace KernelCounterContext

def gauge (ctx : KernelCounterContext) : Gauge → UInt64
  | .counter c => ctx.counter c
  | .events => ctx.eventWriteIndex

/-- A counter as a number. -/
def tally (ctx : KernelCounterContext) (c : Counter) : Nat := (ctx.counter c).toNat

/-- The balances of a context that no tracked call is working on. -/
structure Conserved (ctx : KernelCounterContext) : Prop where
  idle : ctx.tally .activeCalls = 0
  calls : ctx.tally .halGateHits = ctx.tally .preCalls ∧
    ctx.tally .preCalls = ctx.tally .postCalls
  commands : ctx.tally .bcTransactionCommands + ctx.tally .brTransactionCommands =
    ctx.tally .transactionMetadataOk + ctx.tally .transactionMetadataFaults
  events : ctx.eventWriteIndex.toNat = ctx.tally .transactionMetadataOk
  requests : ctx.tally .parcelDeviceUniqueIdHits = ctx.tally .serverRequestHits
  pending : ctx.tally .serverRequestHits + ctx.tally .replyWithoutPending =
    ctx.tally .pendingPushes + ctx.tally .pendingOverflows + ctx.tally .pendingOnewayIgnored +
      ctx.tally .pendingGenerationStale + ctx.tally .pendingMisses + ctx.tally .pendingLockDrops
  pops : ctx.tally .pendingPops = ctx.tally .replyCandidates ∧
    ctx.tally .replyCandidates = ctx.tally .correlatedReplyCandidates
  replies : ctx.tally .correlatedReplyCandidates =
    ctx.tally .replyHeaderCopyFaults + ctx.tally .replyStatusNonzero +
      ctx.tally .replyArrayInvalid + ctx.tally .replyContentCopyFaults +
      ctx.tally .replacementCandidates
  replacements : ctx.tally .replacementCandidates =
    ctx.tally .replacementLengthMismatch + ctx.tally .replacementDryRunHits +
      ctx.tally .replacementWriteOk + ctx.tally .replacementWriteFaults

end KernelCounterContext

/-! ## Laws -/

/-- One balance each. -/
inductive Law
  | entered | left | commands | events | requests | pending | pops | candidates | replies
  | replacements
  deriving DecidableEq, Repr

namespace Law

def lhs : Law → List Gauge
  | entered => [.counter .halGateHits]
  | left => [.counter .preCalls]
  | commands => [.counter .bcTransactionCommands, .counter .brTransactionCommands]
  | events => [.events]
  | requests => [.counter .parcelDeviceUniqueIdHits]
  | pending => [.counter .pendingPushes, .counter .pendingOverflows,
      .counter .pendingOnewayIgnored, .counter .pendingGenerationStale, .counter .pendingMisses,
      .counter .pendingLockDrops]
  | pops => [.counter .pendingPops]
  | candidates => [.counter .replyCandidates]
  | replies => [.counter .correlatedReplyCandidates]
  | replacements => [.counter .replacementCandidates]

def rhs : Law → List Gauge
  | entered => [.counter .preCalls]
  | left => [.counter .postCalls]
  | commands => [.counter .transactionMetadataOk, .counter .transactionMetadataFaults]
  | events => [.counter .transactionMetadataOk]
  | requests => [.counter .serverRequestHits]
  | pending => [.counter .serverRequestHits, .counter .replyWithoutPending]
  | pops => [.counter .replyCandidates]
  | candidates => [.counter .correlatedReplyCandidates]
  | replies => [.counter .replyHeaderCopyFaults, .counter .replyStatusNonzero,
      .counter .replyArrayInvalid, .counter .replyContentCopyFaults,
      .counter .replacementCandidates]
  | replacements => [.counter .replacementLengthMismatch, .counter .replacementDryRunHits,
      .counter .replacementWriteOk, .counter .replacementWriteFaults]

def all : List Law :=
  [entered, left, commands, events, requests, pending, pops, candidates, replies, replacements]

end Law

/-- The gauges some law is about. -/
def lawGauges : List Gauge := Law.all.flatMap fun law => law.lhs ++ law.rhs

/-! ## Phases -/

/-- How far a call has got in the books. `outside` a tracked call owes nothing; `counted` it has
raised `hal_gate_hits`; `inside` it has raised `pre_calls`. With a transaction command at hand it is
`handling` it; `recognised` and then `announced` are a request before and after its event id was
taken, `reserved` is any other command with an event id; `missed` and `popped` are a reply after its
pop, `candidate` and `replacing` one that is parsed. -/
inductive Phase
  | outside | counted | inside | handling | recognised | announced | reserved
  | missed | popped | candidate | replacing
  deriving DecidableEq, Repr

/-- What a call in the phase has put on the left side of the law and not on the right. -/
def Phase.owes (law : Law) (p : Phase) : Nat :=
  match law, p with
  | .entered, .counted => 1
  | .left, .outside | .left, .counted => 0
  | .left, _ => 1
  | .commands, .outside | .commands, .counted | .commands, .inside => 0
  | .commands, _ => 1
  | .events, .announced | .events, .reserved => 1
  | .requests, .recognised | .requests, .announced => 1
  | .pending, .missed => 1
  | .pops, .popped => 1
  | .replies, .candidate => 1
  | .replacements, .replacing => 1
  | _, _ => 0

/-- The phase of a reply parse. -/
def ParseStage.phase (requestId : UInt64) : ParseStage → Phase
  | .capture => if requestId = 0 then .missed else .popped
  | .header | .content => .candidate
  | .length | .mode | .copy => .replacing

/-- The phase of a recording. -/
def Recording.phase (r : Recording) : Phase :=
  match r.stage with
  | .pop => .handling
  | .parse => ParseStage.capture.phase r.requestId
  | .reserve => if r.recognised then .recognised else .handling
  | .push => if r.recognised then .announced else .reserved
  | .publish => .reserved
  | .done => .inside

def WalkStage.phase : WalkStage → Phase
  | .loop _ _ => .inside
  | .metadata _ _ _ _ | .capture _ _ _ => .handling
  | .record _ r => r.phase
  | .reply _ stage r => stage.phase r.requestId

def CallStage.phase : CallStage → Phase
  | .gate | .bypass | .hit | .exit | .returned => .outside
  | .enter | .pre => .counted
  | .header | .original | .postHeader | .post => .inside
  | .walk _ w => w.phase

/-! ## Runs -/

namespace Hook

/-- No gauge wraps in the step. An event id is the raised `event_write_index`, so it is not zero
either. -/
def Unwrapped (installerTgid : UInt32) (S : Hook) (l : HookLabel) : Prop :=
  ∀ q ∈ lawGauges, S.shared.gauge q ≤ (S.step installerTgid l).shared.gauge q

instance (installerTgid : UInt32) (S : Hook) (l : HookLabel) :
    Decidable (S.Unwrapped installerTgid l) :=
  inferInstanceAs (Decidable (∀ q ∈ lawGauges, _))

/-- No tracked call is under way. -/
def Quiet (S : Hook) : Prop := ∀ c ∈ S.procs, c.inFlight = false

instance (S : Hook) : Decidable S.Quiet := inferInstanceAs (Decidable (∀ c ∈ S.procs, _))

end Hook
end Drmid
