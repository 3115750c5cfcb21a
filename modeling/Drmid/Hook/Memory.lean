import Drmid.Hook.Emitted
import Drmid.Hook.PendingStack

/-!
# The words of the pending blocks in memory

`Emitted.lean` leaves open what a load finds. Here a block runs with nobody in between, on a memory
of bytes: `Asm.alone`. The words that the blocks access are listed with their addresses (`Cell`),
and `Shows` says that they hold what the records of `Pending.lean` say.

`Proof/Alone.lean` shows that a block alone does to the records what `emitPendingPush` and
`emitPendingPop` do, and `Proof/Concurrent.lean` that blocks that come between one another do what
they would do one after the other.
-/

namespace Drmid

open Lib

/-! ## Memory -/

abbrev Memory := UInt64 → UInt8

namespace Memory

/-- The word of four or eight bytes at `a`. -/
def load (M : Memory) (a : UInt64) (bytes : Nat) : UInt64 :=
  if bytes = 4 then (le32 fun i => M (a + UInt64.ofNat i)).toUInt64
  else le64 fun i => M (a + UInt64.ofNat i)

/-- The low bytes of `v` at `a`. -/
def store (M : Memory) (v a : UInt64) (bytes : Nat) : Memory := fun x =>
  if (x - a).toNat < bytes then (leBytes bytes v).getD (x - a).toNat 0 else M x

end Memory

/-- An access that nobody comes between; a store-exclusive succeeds. -/
def Access.alone (M : Memory) : Access → UInt64 × Memory
  | .ldr a n => (M.load a n, M)
  | .str v a n => (0, M.store v a n)
  | .ldaxr a => (M.load a 8, M)
  | .stxr v a | .stlr v a => (0, M.store v a 8)
  | .ldaddal v a => (M.load a 8, M.store (M.load a 8 + v) a 8)
  | .clrex => (0, M)

/-- A block that nobody comes between: what it returns, and memory. -/
def Asm.alone {α : Type} (p : Asm α) (M : Memory) : α × Memory :=
  p.eval (fun c (_ : Unit) M => c.alone M) (fun _ => ()) M

/-! ## Words -/

inductive SlotField
  | taskKaddr | pid | tgid | depth
  deriving DecidableEq, Repr

inductive FrameField
  | requestEventId | target | dataSize | halIdentityGeneration | code | flags | parcelFlags
  | reserved
  deriving DecidableEq, Repr

inductive ScratchField
  | target | code | flags | dataSize | parcelFlags | halIdentityGeneration
  deriving DecidableEq, Repr

inductive PendingCounter
  | lockDrops | pushes | pops | terminalPops | misses | overflows | collisions | onewayIgnored
  | generationStale
  deriving DecidableEq, Repr

/-- The words that the blocks access. -/
inductive Cell
  | slot (i : Fin 256) (f : SlotField)
  | frame (i : Fin 256) (k : Fin 4) (f : FrameField)
  | counter (c : PendingCounter)
  | lock
  | activeHalIdentitySlot
  | generation (j : Fin 2)
  | scratch (f : ScratchField)
  | pid
  | tgid
  deriving DecidableEq, Repr

/-! ### Addresses -/

def SlotField.offset : SlotField → UInt64
  | taskKaddr => BinderPendingSlot.offsetofTaskKaddr
  | pid => BinderPendingSlot.offsetofPid
  | tgid => BinderPendingSlot.offsetofTgid
  | depth => BinderPendingSlot.offsetofDepth

def SlotField.bytes : SlotField → Nat
  | taskKaddr => 8
  | pid | tgid | depth => 4

def FrameField.offset : FrameField → UInt64
  | requestEventId => BinderPendingFrame.offsetofRequestEventId
  | target => BinderPendingFrame.offsetofTarget
  | dataSize => BinderPendingFrame.offsetofDataSize
  | halIdentityGeneration => BinderPendingFrame.offsetofHalIdentityGeneration
  | code => BinderPendingFrame.offsetofCode
  | flags => BinderPendingFrame.offsetofFlags
  | parcelFlags => BinderPendingFrame.offsetofParcelFlags
  | reserved => BinderPendingFrame.offsetofReserved

def FrameField.bytes : FrameField → Nat
  | requestEventId | target | dataSize | halIdentityGeneration => 8
  | code | flags | parcelFlags | reserved => 4

def ScratchField.offset : ScratchField → UInt64
  | target => kTransactionScratchOffset
  | code => kTransactionScratchOffset + 16
  | flags => kTransactionScratchOffset + 20
  | dataSize => kTransactionScratchOffset + 32
  | parcelFlags => kParcelFlagsScratchOffset
  | halIdentityGeneration => kHalIdentityGenerationScratchOffset

def ScratchField.bytes : ScratchField → Nat
  | target | dataSize | halIdentityGeneration => 8
  | code | flags | parcelFlags => 4

def PendingCounter.offset : PendingCounter → UInt64
  | lockDrops => offsetofPendingLockDrops
  | pushes => offsetofPendingPushes
  | pops => offsetofPendingPops
  | terminalPops => offsetofPendingTerminalPops
  | misses => offsetofPendingMisses
  | overflows => offsetofPendingOverflows
  | collisions => offsetofPendingCollisions
  | onewayIgnored => offsetofPendingOnewayIgnored
  | generationStale => offsetofPendingGenerationStale

/-- The registers of a block with the two ids of the current task, which are apart from the context
and from the scratch. -/
structure Workspace (K : ContextAddress) extends Registers K where
  offsets : TaskIdentityOffsets
  ids : meets offsets.pid 4 offsets.tgid 4 = false
  pidContext : meets (x27 + offsets.pid) 4 K.kaddr kContextBytes = false
  tgidContext : meets (x27 + offsets.tgid) 4 K.kaddr kContextBytes = false
  pidScratch : meets (x27 + offsets.pid) 4 x23 kParserScratchBytes = false
  tgidScratch : meets (x27 + offsets.tgid) 4 x23 kParserScratchBytes = false

namespace Cell

def addr {K : ContextAddress} (P : Workspace K) : Cell → UInt64
  | slot i f => K.slot i + f.offset
  | frame i k f => Asm.frameAddress (K.slot i) (UInt32.ofNat k) + f.offset
  | counter c => K.kaddr + c.offset
  | lock => K.lock
  | activeHalIdentitySlot => K.kaddr + offsetofActiveHalIdentitySlot
  | generation j => K.kaddr + offsetofHalIdentitySlots + UInt64.ofNat j * sizeofHalIdentitySet
  | scratch f => P.x23 + f.offset
  | pid => P.x27 + P.offsets.pid
  | tgid => P.x27 + P.offsets.tgid

def bytes : Cell → Nat
  | slot _ f => f.bytes
  | frame _ _ f => f.bytes
  | scratch f => f.bytes
  | counter _ | lock | generation _ => 8
  | activeHalIdentitySlot | pid | tgid => 4

/-- The offset in the context, for the words that are there. -/
def member : Cell → Option Nat
  | slot i f => some (41456 + 216 * i + f.offset.toNat)
  | frame i k f => some (41456 + 216 * i + 24 + 48 * k + f.offset.toNat)
  | counter c => some c.offset.toNat
  | lock => some 216
  | activeHalIdentitySlot => some 96968
  | generation j => some (97000 + 32 * j)
  | scratch _ | pid | tgid => none

end Cell

/-- The words in memory. -/
def Memory.view {K : ContextAddress} (P : Workspace K) (M : Memory) (c : Cell) : UInt64 :=
  M.load (c.addr P) c.bytes

/-- No byte outside the words differs. -/
def Memory.SameElsewhere {K : ContextAddress} (P : Workspace K) (M M' : Memory) : Prop :=
  ∀ x, (∀ c : Cell, ¬(x - c.addr P).toNat < c.bytes) → M' x = M x

/-! ## Records -/

/-- What the handler works on: its task, its scratch, the context and the lock word. -/
structure Records where
  task : TaskIdentity
  scratch : ParserScratch
  ctx : KernelCounterContext
  lock : UInt64

def SlotField.value (slot : BinderPendingSlot) : SlotField → UInt64
  | taskKaddr => slot.taskKaddr
  | pid => slot.pid.toUInt64
  | tgid => slot.tgid.toUInt64
  | depth => slot.depth.toUInt64

/-- `reserved` is not in the record. -/
def FrameField.value (f : BinderPendingFrame) : FrameField → Option UInt64
  | requestEventId => some f.requestEventId
  | target => some f.target
  | dataSize => some f.dataSize
  | halIdentityGeneration => some f.halIdentityGeneration
  | code => some f.code.toUInt64
  | flags => some f.flags.toUInt64
  | parcelFlags => some f.parcelFlags.toUInt64
  | reserved => none

def ScratchField.value (s : ParserScratch) : ScratchField → UInt64
  | target => s.transaction.target
  | code => s.transaction.code.toUInt64
  | flags => s.transaction.flags.toUInt64
  | dataSize => s.transaction.dataSize
  | parcelFlags => s.parcelFlags.toUInt64
  | halIdentityGeneration => s.halIdentityGeneration

def PendingCounter.counter : PendingCounter → Counter
  | lockDrops => .pendingLockDrops
  | pushes => .pendingPushes
  | pops => .pendingPops
  | terminalPops => .pendingTerminalPops
  | misses => .pendingMisses
  | overflows => .pendingOverflows
  | collisions => .pendingCollisions
  | onewayIgnored => .pendingOnewayIgnored
  | generationStale => .pendingGenerationStale

/-- What a word is in the records. -/
def Cell.value (R : Records) : Cell → Option UInt64
  | slot i f => some (f.value (R.ctx.pending i))
  | frame i k f => f.value ((R.ctx.pending i).frames.get k)
  | counter c => some (R.ctx.counter c.counter)
  | lock => some R.lock
  | activeHalIdentitySlot => some R.ctx.activeHalIdentitySlot.toUInt64
  | generation j => some (R.ctx.halIdentitySlots j).generation
  | scratch f => some (f.value R.scratch)
  | pid => some R.task.pid.toUInt64
  | tgid => some R.task.tgid.toUInt64

/-- The words are those of the records. -/
def Shows (V : Cell → UInt64) (R : Records) : Prop := ∀ c v, c.value R = some v → V c = v

namespace Records

/-- The records after `emitPendingPush`. -/
def push (R : Records) (acquired : Bool) (eventId : UInt64) : Records :=
  let r := emitPendingPush R.task acquired eventId R.scratch R.ctx
  { R with scratch := r.1, ctx := r.2 }

/-- What is left in the registers by `emitPendingPop`. -/
def popped (R : Records) (acquired terminalReply : Bool) : Asm.Popped :=
  let r := emitPendingPop R.task.kaddr acquired terminalReply R.scratch R.ctx
  ⟨r.requestId, r.flags.toUInt64⟩

/-- The records after `emitPendingPop`. -/
def pop (R : Records) (acquired terminalReply : Bool) : Records :=
  let r := emitPendingPop R.task.kaddr acquired terminalReply R.scratch R.ctx
  { R with scratch := r.scratch, ctx := r.ctx }

end Records

/-! ## Words inside and outside of the context -/

/-- The words of the context are those of `ctx`, and the lock is free. -/
def ContextShows (K : ContextAddress) (M : Memory) (ctx : KernelCounterContext) : Prop :=
  ∀ (c : Cell) o v, c.member = some o → c.value ⟨⟨0, 0, 0⟩, .zero, ctx, 0⟩ = some v →
    M.load (K.kaddr + UInt64.ofNat o) c.bytes = v

/-- The other words are those of the task and of the scratch. -/
def OutsideShows (V : Cell → UInt64) (t : TaskIdentity) (s : ParserScratch) : Prop :=
  ∀ (c : Cell) v, c.member = none → c.value ⟨t, s, .zero, 0⟩ = some v → V c = v

namespace PendingOp

/-- The block of an operation. -/
def block {K : ContextAddress} (P : Workspace K) : PendingOp → Block K
  | push _ _ _ => .push P.offsets P.toRegisters
  | pop _ terminalReply _ => .pop terminalReply P.toRegisters

/-- The registers and the memory that the block is entered with. -/
def Enters {K : ContextAddress} (P : Workspace K) (M : Memory) : PendingOp → Prop
  | push t id s => P.x27 = t.kaddr ∧ P.x26 = id ∧ OutsideShows (M.view P) t s
  | pop task _ s => ∃ t, P.x27 = t.kaddr ∧ t.kaddr = task ∧ OutsideShows (M.view P) t s

end PendingOp

end Drmid
