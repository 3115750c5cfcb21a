import Mathlib.Logic.Relation
import Drmid.Hook.Memory

/-!
# Blocks at once on one memory

Any number of handlers are in pending blocks, and make one access at a time on the bytes of memory.
Here nothing is chosen for them but the order and the store-exclusives that fail for no reason: what
a load finds is what is there.

A block counts where it takes the lock, where it gives up, or where it ignores a one-way
transaction. `history` is a ghost with the blocks that have counted, in that order, and `serial` is
the context that the operations leave in this order, each done at once.
-/

namespace Drmid

open Lib

/-! ## Operations that may fail to take the lock -/

namespace PendingOp

/-- A push that is ignored does not try. -/
def oneWay : PendingOp → Bool
  | push _ _ s => s.transaction.oneWay
  | pop _ _ _ => false

/-- The context after the operation, where the try-lock said `acquired`. -/
def attempt (acquired : Bool) (ctx : KernelCounterContext) : PendingOp → KernelCounterContext
  | push t id s => (emitPendingPush t acquired id s ctx).2
  | pop task terminal s => (emitPendingPop task acquired terminal s ctx).ctx

/-- What its block returns. -/
def answer (acquired : Bool) (ctx : KernelCounterContext) : PendingOp → Option Asm.Popped
  | push _ _ _ => none
  | pop task terminal s =>
    let r := emitPendingPop task acquired terminal s ctx
    some ⟨r.requestId, r.flags.toUInt64⟩

end PendingOp

/-! ## Accesses -/

/-- Memory, and how often the lock word was stored to. -/
structure SharedMemory where
  memory : Memory
  lockStores : Nat

namespace SharedMemory

def lockWord (S : SharedMemory) (lock : UInt64) : ExclusiveWord UInt64 :=
  ⟨S.memory.load lock 8, S.lockStores⟩

/-- An access that is done. -/
def did (S : SharedMemory) (lock : UInt64) (c : Access) : SharedMemory :=
  ⟨(c.alone S.memory).2, S.lockStores + (c.stores && c.touches lock 8).toNat⟩

end SharedMemory

/-- An access of a handler whose monitor is `m`: the value, memory and the monitor. A store-exclusive
is done where the lock word was not stored to since the monitor was closed. -/
def Access.shared (lock : UInt64) (spurious : Bool) (S : SharedMemory) (m : Option Nat)
    (c : Access) : UInt64 × SharedMemory × Option Nat :=
  let done := (c.alone S.memory).1
  match c with
  | .ldaxr a => (done, S.did lock c, if a = lock then some S.lockStores else none)
  | .stxr _ a =>
    if a = lock ∧ m = some S.lockStores ∧ spurious = false then (done, S.did lock c, none)
    else (1, S, none)
  | .clrex => (done, S.did lock c, none)
  | .ldr .. | .str .. | .stlr .. | .ldaddal .. => (done, S.did lock c, m)

/-- What an access that yielded `r` says about its block: it took the lock, or it never will. -/
def Access.settles (K : ContextAddress) (r : UInt64) : Access → Option Bool
  | .stxr _ a => if a = K.lock ∧ r = 0 then some true else none
  | .ldaddal _ a =>
    if a = K.drops ∨ a = K.kaddr + offsetofPendingOnewayIgnored then some false else none
  | .ldr .. | .str .. | .ldaxr .. | .stlr .. | .clrex => none

/-! ## Handlers -/

/-- A handler in the block of an operation: the code it has before it, and its monitor. -/
structure Worker (K : ContextAddress) where
  op : PendingOp
  place : Workspace K
  rest : Asm (Option Asm.Popped)
  monitor : Option Nat

def Worker.Running {K : ContextAddress} (w : Worker K) : Prop := ∀ r, w.rest ≠ .ret r

/-- No word of the scratch is one that the other has outside of the context. -/
structure Workspace.Spares {K : ContextAddress} (P P' : Workspace K) : Prop where
  scratch : meets P.x23 kParserScratchBytes P'.x23 kParserScratchBytes = false
  pid : meets P.x23 kParserScratchBytes (P'.x27 + P'.offsets.pid) 4 = false
  tgid : meets P.x23 kParserScratchBytes (P'.x27 + P'.offsets.tgid) 4 = false

/-- A block that has counted. -/
structure Settled where
  worker : Nat
  op : PendingOp
  acquired : Bool

structure Concurrent (K : ContextAddress) extends SharedMemory where
  workers : List (Worker K)
  history : List Settled

namespace Concurrent

variable {K : ContextAddress}

/-- A handler enters the block of an operation. -/
def enter (S : Concurrent K) (op : PendingOp) (P : Workspace K) : Concurrent K :=
  { S with workers := S.workers ++ [⟨op, P, (op.block P).code, none⟩] }

/-- Handler `i` makes its next access. -/
def act (S : Concurrent K) (i : Nat) (spurious : Bool) : Concurrent K :=
  match S.workers[i]? with
  | none => S
  | some w =>
    match w.rest with
    | .ret _ => S
    | .call c k =>
      let (r, mem, m) := c.shared K.lock spurious S.toSharedMemory w.monitor
      { toSharedMemory := mem
        workers := S.workers.set i { w with rest := k r, monitor := m }
        history := S.history ++ (c.settles K r).toList.map fun acquired => ⟨i, w.op, acquired⟩ }

/-- The words of the context, and those of the handlers that are in a block, are the same in
`M'`. -/
structure Undisturbed (S : Concurrent K) (M' : Memory) : Prop where
  context : ∀ (c : Cell) o, c.member = some o →
    M'.load (K.kaddr + UInt64.ofNat o) c.bytes = S.memory.load (K.kaddr + UInt64.ofNat o) c.bytes
  outside : ∀ w ∈ S.workers, w.Running → ∀ c : Cell, c.member = none →
    M'.view w.place c = S.memory.view w.place c

end Concurrent

/-- The context that the operations of a history leave. -/
def serial (ctx : KernelCounterContext) (history : List Settled) : KernelCounterContext :=
  run (fun ctx e => e.op.attempt e.acquired ctx) ctx history

/-- Handlers enter blocks and make accesses. A handler has its scratch for itself while it is in a
block, and everything else in memory may change at any time. -/
inductive Concurrent.Step {K : ContextAddress} (S : Concurrent K) : Concurrent K → Prop
  | enter {op : PendingOp} {P : Workspace K} (htask : op.task ≠ 0)
      (henters : op.Enters P S.memory)
      (hspares : ∀ w ∈ S.workers, w.Running → w.place.Spares P ∧ P.Spares w.place) :
      Step S (S.enter op P)
  | act (i : Nat) (spurious : Bool) : Step S (S.act i spurious)
  | other {M' : Memory} (hsame : S.Undisturbed M') : Step S { S with memory := M' }

abbrev Concurrent.Steps {K : ContextAddress} : Concurrent K → Concurrent K → Prop :=
  Relation.ReflTransGen Step

/-- The states that handlers reach from a context that is `ctx`. -/
def Concurrent.Reached {K : ContextAddress} (ctx : KernelCounterContext) (S : Concurrent K) : Prop :=
  ∃ M, ContextShows K M ctx ∧ Steps ⟨⟨M, 0⟩, [], []⟩ S

end Drmid
