import Drmid.Lib.Exclusive
import Drmid.Lib.Pool
import Drmid.Lib.Prog
import Drmid.Hook.Pending

/-!
# The pending blocks as they are emitted

`emit_pending_push` and `emit_pending_pop` access by access, with the bounded try-lock that
`Pending.lean` takes as one answer. An emitted block is a program whose calls are its memory
accesses; what it computes in registers between two accesses is a Lean term, and a label that is
only jumped forward to is the code that follows it.

Any number of handlers execute such blocks at once, one access at a time. Only the lock word is
state. What any other load finds is chosen by the label of the step, so is whether a
store-exclusive fails for no reason, and so is what a stray store would leave in the lock word.

The `Tally` of a handler is a ghost: what its block has done to the lock so far.
-/

namespace Drmid

open Lib

/-! ## Addresses -/

def kMapLockTryCount : Nat := 8

def kTransactionScratchOffset : UInt64 := 16
def kParcelFlagsScratchOffset : UInt64 := 348
def kHalIdentityGenerationScratchOffset : UInt64 := 440
def kParserScratchBytes : Nat := 448

/-! The `offsetof` of the members of `KernelCounterContext`. -/

def offsetofPendingLockState : UInt64 := 216
def offsetofPendingLockDrops : UInt64 := 224
def offsetofPendingPushes : UInt64 := 232
def offsetofPendingPops : UInt64 := 240
def offsetofPendingTerminalPops : UInt64 := 248
def offsetofPendingMisses : UInt64 := 256
def offsetofPendingOverflows : UInt64 := 264
def offsetofPendingCollisions : UInt64 := 272
def offsetofPendingOnewayIgnored : UInt64 := 280
def offsetofPendingGenerationStale : UInt64 := 288
def offsetofPending : UInt64 := 41456
def offsetofActiveHalIdentitySlot : UInt64 := 96968
def offsetofHalIdentitySlots : UInt64 := 97000

/-- `sizeof(KernelCounterContext)`. -/
def kContextBytes : Nat := 97064

def sizeofBinderPendingSlot : UInt64 := 216
def sizeofBinderPendingFrame : UInt64 := 48
def sizeofHalIdentitySet : UInt64 := 32

/-- The bytes of `pending`. -/
def kPendingBytes : Nat := 256 * 216

namespace BinderPendingSlot

def offsetofTaskKaddr : UInt64 := 0
def offsetofPid : UInt64 := 8
def offsetofTgid : UInt64 := 12
def offsetofDepth : UInt64 := 16
def offsetofFrames : UInt64 := 24

end BinderPendingSlot

namespace BinderPendingFrame

def offsetofRequestEventId : UInt64 := 0
def offsetofTarget : UInt64 := 8
def offsetofDataSize : UInt64 := 16
def offsetofHalIdentityGeneration : UInt64 := 24
def offsetofCode : UInt64 := 32
def offsetofFlags : UInt64 := 36
def offsetofParcelFlags : UInt64 := 40
def offsetofReserved : UInt64 := 44

end BinderPendingFrame

/-- The `n` bytes from `a` on and the `m` bytes from `b` on have one in common. -/
def meets (a : UInt64) (n : Nat) (b : UInt64) (m : Nat) : Bool :=
  decide ((b - a).toNat < n) || decide ((a - b).toNat < m)

/-- The address of the preallocated context, whose bytes do not wrap around. -/
structure ContextAddress where
  kaddr : UInt64
  fits : kaddr.toNat + kContextBytes ≤ 2 ^ 64

namespace ContextAddress

def lock (K : ContextAddress) : UInt64 := K.kaddr + offsetofPendingLockState

def drops (K : ContextAddress) : UInt64 := K.kaddr + offsetofPendingLockDrops

def pending (K : ContextAddress) : UInt64 := K.kaddr + offsetofPending

/-- Slot `i` of the pending table. -/
def slot (K : ContextAddress) (i : Nat) : UInt64 := K.pending + UInt64.ofNat (216 * i)

end ContextAddress

/-- `TaskIdentityOffsets`. -/
structure TaskIdentityOffsets where
  pid : UInt64
  tgid : UInt64
  deriving DecidableEq, Repr

/-- What a block finds in its registers: the parser scratch, which is on the stack and no part of
the context, the request event id, and the current task. -/
structure Registers (K : ContextAddress) where
  x23 : UInt64
  x26 : UInt64
  x27 : UInt64
  apart : meets x23 kParserScratchBytes K.kaddr kContextBytes = false

/-! ## Accesses -/

/-- A memory access. `ldar` is a load, with acquire. -/
inductive Access
  | ldr (a : UInt64) (bytes : Nat)
  | str (v a : UInt64) (bytes : Nat)
  | ldaxr (a : UInt64)
  | stxr (v a : UInt64)
  | stlr (v a : UInt64)
  | clrex
  | ldaddal (v a : UInt64)
  deriving DecidableEq, Repr

namespace Access

/-- The access touches one of the `m` bytes from `b` on. -/
def touches (b : UInt64) (m : Nat) : Access → Bool
  | ldr a n | str _ a n => meets a n b m
  | ldaxr a | stxr _ a | stlr _ a | ldaddal _ a => meets a 8 b m
  | clrex => false

/-- The access may store. -/
def stores : Access → Bool
  | str .. | stxr .. | stlr .. | ldaddal .. => true
  | ldr .. | ldaxr .. | clrex => false

end Access

/-- What an access meets: the value it loads, a store-exclusive that fails for no reason, and what a
stray store leaves in the lock word. -/
structure Meeting where
  value : UInt64
  spurious : Bool
  left : UInt64
  deriving DecidableEq, Repr

/-- What a store that is not one of the lock's does to the lock word: nothing, unless it touches
it. -/
def Access.stray (c : Access) (lock : UInt64) (o : Meeting) (W : ExclusiveWord UInt64) :
    ExclusiveWord UInt64 :=
  if c.stores && c.touches lock 8 then W.store o.left else W

/-- An access of a handler whose monitor is `m`: the value it yields, the lock word and the
monitor. -/
def Access.exec (lock : UInt64) (o : Meeting) (W : ExclusiveWord UInt64) (m : Option Nat)
    (c : Access) : UInt64 × ExclusiveWord UInt64 × Option Nat :=
  match c with
  | .ldaxr a => if a = lock then (W.word, W, some W.stores) else (o.value, W, none)
  | .stxr v a =>
    if a = lock then
      if m = some W.stores ∧ o.spurious = false then (0, W.store v, none) else (1, W, none)
    else (o.value, c.stray lock o W, none)
  | .stlr v a => if a = lock then (0, W.store v, m) else (0, c.stray lock o W, m)
  | .clrex => (0, W, none)
  | .ldr .. | .str .. | .ldaddal .. => (o.value, c.stray lock o W, m)

/-! ## Blocks -/

/-- Emitted code. -/
abbrev Asm := Prog Access UInt64

namespace Asm

def ldrX (a : UInt64) : Asm UInt64 := Prog.perform (.ldr a 8)

def ldrW (a : UInt64) : Asm UInt32 := do return (← Prog.perform (.ldr a 4)).toUInt32

def strX (v a : UInt64) : Asm Unit := do let _ ← Prog.perform (.str v a 8)

def strW (v : UInt32) (a : UInt64) : Asm Unit := do let _ ← Prog.perform (.str v.toUInt64 a 4)

def ldaxr (a : UInt64) : Asm UInt64 := Prog.perform (.ldaxr a)

def stxr (v a : UInt64) : Asm UInt64 := Prog.perform (.stxr v a)

def stlr (v a : UInt64) : Asm Unit := do let _ ← Prog.perform (.stlr v a)

def clrex : Asm Unit := do let _ ← Prog.perform .clrex

def emitAtomicIncrement (counterKaddr : UInt64) : Asm Unit := do
  let _ ← Prog.perform (.ldaddal 1 counterKaddr)

def emitCounterIncrement (contextKaddr memberOffset : UInt64) : Asm Unit :=
  emitAtomicIncrement (contextKaddr + memberOffset)

def emitCaptureActiveHalGeneration (contextKaddr x23 : UInt64) : Asm Unit := do
  let w10 ← ldrW (contextKaddr + offsetofActiveHalIdentitySlot)
  let x10 := (w10 &&& 1).toUInt64 * sizeofHalIdentitySet
  let x11 ← ldrX (contextKaddr + offsetofHalIdentitySlots + x10)
  strX x11 (x23 + kHalIdentityGenerationScratchOffset)

/-! ### The lock -/

/-- From label `retry` to label `busy` or `acquired`. -/
def tryAcquire (x9 : UInt64) : Asm Bool := do
  let x12 ← ldaxr x9
  if x12 = 0 then
    let w13 ← stxr 1 x9
    return w13 == 0
  else return false

/-- The loop at label `retry`, with `w11` tries left. -/
def retryAcquire (x9 : UInt64) : Nat → Asm Bool
  | 0 => return false
  | w11 + 1 => do
    if ← tryAcquire x9 then return true
    else
      clrex
      retryAcquire x9 w11

/-- Whether the block goes on at label `acquired`; otherwise it goes to `failure`. -/
def emitBoundedLockAcquire (contextKaddr stateOffset dropsOffset : UInt64) : Asm Bool := do
  if ← retryAcquire (contextKaddr + stateOffset) kMapLockTryCount then return true
  else
    emitCounterIncrement contextKaddr dropsOffset
    return false

def emitBoundedLockRelease (contextKaddr stateOffset : UInt64) : Asm Unit :=
  stlr 0 (contextKaddr + stateOffset)

def emitPendingLockAcquire (contextKaddr : UInt64) : Asm Bool :=
  emitBoundedLockAcquire contextKaddr offsetofPendingLockState offsetofPendingLockDrops

def emitPendingLockRelease (contextKaddr : UInt64) : Asm Unit :=
  emitBoundedLockRelease contextKaddr offsetofPendingLockState

/-- `x15` at the first way of the task's bucket. -/
def bucketAddress (contextKaddr x27 : UInt64) : UInt64 :=
  contextKaddr + offsetofPending + ((x27 >>> 6 &&& 31) <<< 3) * sizeofBinderPendingSlot

/-- The address of frame `index` of the slot at `x15`. -/
def frameAddress (x15 : UInt64) (index : UInt32) : UInt64 :=
  x15 + (index.toUInt64 * sizeofBinderPendingFrame + BinderPendingSlot.offsetofFrames)

/-! ### Push -/

/-- Where the scan of the ways ends: at label `found` or `reclaim_identity` with `x15`, or after the
last way with `x14` and `x10`. -/
inductive ScanEnd
  | found (x15 : UInt64)
  | reclaimIdentity (x15 : UInt64)
  | scanned (x14 x10 : UInt64)
  deriving DecidableEq, Repr

/-- `x9` at label `remember_oldest`: the event id of the top frame, or 0 for a slot without
frames. -/
def loadTopEventId (x15 : UInt64) (w11 : UInt32) : Asm UInt64 :=
  if w11 = 0 then return 0
  else ldrX (frameAddress x15 (w11 - 1) + BinderPendingFrame.offsetofRequestEventId)

/-- The unrolled scan with so many ways left. After the last one `x15` is not used again. -/
def pushWays (t : TaskIdentityOffsets) (x27 : UInt64) :
    Nat → (x15 x14 x10 x17 : UInt64) → Asm ScanEnd
  | 0, _, x14, x10, _ => return .scanned x14 x10
  | ways + 1, x15, x14, x10, x17 => do
    let x16 ← ldrX (x15 + BinderPendingSlot.offsetofTaskKaddr)
    if x16 = 0 then
      -- `remember_empty`
      let x14 := if x14 = 0 then x15 else x14
      pushWays t x27 ways (x15 + sizeofBinderPendingSlot) x14 x10 x17
    else if x16 = x27 then
      let w12 ← ldrW (x15 + BinderPendingSlot.offsetofPid)
      let w11 ← ldrW (x27 + t.pid)
      if w12 ≠ w11 then return .reclaimIdentity x15
      else
        let w12 ← ldrW (x15 + BinderPendingSlot.offsetofTgid)
        let w11 ← ldrW (x27 + t.tgid)
        if w12 = w11 then return .found x15 else return .reclaimIdentity x15
    else
      -- `consider_oldest`
      let w11 ← ldrW (x15 + BinderPendingSlot.offsetofDepth)
      let x9 ← loadTopEventId x15 w11
      if w11 = 0 ∨ x10 = 0 ∨ x9 < x17 then
        -- `remember_oldest`
        pushWays t x27 ways (x15 + sizeofBinderPendingSlot) x14 x15 x9
      else pushWays t x27 ways (x15 + sizeofBinderPendingSlot) x14 x10 x17

/-- Label `claim`. -/
def claimSlot (t : TaskIdentityOffsets) (x27 x15 : UInt64) : Asm Unit := do
  strX x27 (x15 + BinderPendingSlot.offsetofTaskKaddr)
  let w11 ← ldrW (x27 + t.pid)
  strW w11 (x15 + BinderPendingSlot.offsetofPid)
  let w12 ← ldrW (x27 + t.tgid)
  strW w12 (x15 + BinderPendingSlot.offsetofTgid)
  strW 0 (x15 + BinderPendingSlot.offsetofDepth)

/-- Labels `found` and `claimed`, up to `release`. -/
def pushFrame (contextKaddr x23 x26 x15 : UInt64) : Asm Unit := do
  let w13 ← ldrW (x15 + BinderPendingSlot.offsetofDepth)
  if kPendingDepth ≤ w13 then
    -- `overflow`
    emitCounterIncrement contextKaddr offsetofPendingOverflows
  else
    let x14 := frameAddress x15 w13
    strX x26 (x14 + BinderPendingFrame.offsetofRequestEventId)
    let x16 ← ldrX (x23 + kTransactionScratchOffset)
    strX x16 (x14 + BinderPendingFrame.offsetofTarget)
    let x16 ← ldrX (x23 + (kTransactionScratchOffset + 32))
    strX x16 (x14 + BinderPendingFrame.offsetofDataSize)
    emitCaptureActiveHalGeneration contextKaddr x23
    let x16 ← ldrX (x23 + kHalIdentityGenerationScratchOffset)
    strX x16 (x14 + BinderPendingFrame.offsetofHalIdentityGeneration)
    let w16 ← ldrW (x23 + (kTransactionScratchOffset + 16))
    strW w16 (x14 + BinderPendingFrame.offsetofCode)
    let w16 ← ldrW (x23 + (kTransactionScratchOffset + 20))
    strW w16 (x14 + BinderPendingFrame.offsetofFlags)
    let w16 ← ldrW (x23 + kParcelFlagsScratchOffset)
    strW w16 (x14 + BinderPendingFrame.offsetofParcelFlags)
    strW 0 (x14 + BinderPendingFrame.offsetofReserved)
    strW (w13 + 1) (x15 + BinderPendingSlot.offsetofDepth)
    emitCounterIncrement contextKaddr offsetofPendingPushes

/-- What a push does between label `acquired` and label `release`. -/
def pushSection (t : TaskIdentityOffsets) (contextKaddr x23 x26 x27 : UInt64) : Asm Unit := do
  let scan ← pushWays t x27 kPendingBucketWays (bucketAddress contextKaddr x27) 0 0
    0xffffffffffffffff
  match scan with
  | .found x15 => pushFrame contextKaddr x23 x26 x15
  | .reclaimIdentity x15 =>
    emitCounterIncrement contextKaddr offsetofPendingCollisions
    claimSlot t x27 x15
    pushFrame contextKaddr x23 x26 x15
  | .scanned x14 x10 =>
    if x14 = 0 then
      emitCounterIncrement contextKaddr offsetofPendingCollisions
      claimSlot t x27 x10
      pushFrame contextKaddr x23 x26 x10
    else
      claimSlot t x27 x14
      pushFrame contextKaddr x23 x26 x14

def emitPendingPush (t : TaskIdentityOffsets) (contextKaddr x23 x26 x27 : UInt64) : Asm Unit := do
  let w11 ← ldrW (x23 + (kTransactionScratchOffset + 20))
  if w11 &&& 1 ≠ 0 then
    -- `ignored_oneway`
    emitCounterIncrement contextKaddr offsetofPendingOnewayIgnored
  else if ← emitPendingLockAcquire contextKaddr then
    pushSection t contextKaddr x23 x26 x27
    emitPendingLockRelease contextKaddr
  else return ()

/-! ### Pop -/

/-- The unrolled scan with so many ways left: `x15` at label `found`. -/
def popWays (x27 : UInt64) : Nat → UInt64 → Asm (Option UInt64)
  | 0, _ => return none
  | ways + 1, x15 => do
    let x16 ← ldrX (x15 + BinderPendingSlot.offsetofTaskKaddr)
    if x16 = x27 then return some x15
    else popWays x27 ways (x15 + sizeofBinderPendingSlot)

/-- What a pop leaves in `x21` and `x17`. -/
structure Popped where
  x21 : UInt64
  x17 : UInt64
  deriving DecidableEq, Repr

/-- Label `miss`. -/
def popMiss (contextKaddr : UInt64) : Asm Popped := do
  emitCounterIncrement contextKaddr offsetofPendingMisses
  return ⟨0, 0⟩

/-- Up to label `generation_ready`: a frame of another generation counts as none. -/
def checkGeneration (contextKaddr x9 x10 : UInt64) (popped : Popped) : Asm Popped := do
  if x9 = x10 then return popped
  else
    emitCounterIncrement contextKaddr offsetofPendingGenerationStale
    return ⟨0, 0⟩

/-- Label `found`, with a depth `w13` that is not zero. -/
def popFrame (contextKaddr x23 x15 : UInt64) (w13 : UInt32) : Asm Popped := do
  let w13 := w13 - 1
  strW w13 (x15 + BinderPendingSlot.offsetofDepth)
  let x14 := frameAddress x15 w13
  let x21 ← ldrX (x14 + BinderPendingFrame.offsetofRequestEventId)
  let w17 ← ldrW (x14 + BinderPendingFrame.offsetofParcelFlags)
  emitCaptureActiveHalGeneration contextKaddr x23
  let x9 ← ldrX (x23 + kHalIdentityGenerationScratchOffset)
  let x10 ← ldrX (x14 + BinderPendingFrame.offsetofHalIdentityGeneration)
  let popped ← checkGeneration contextKaddr x9 x10 ⟨x21, w17.toUInt64⟩
  if w13 = 0 then
    stlr 0 x15
    return popped
  else return popped

/-- What a pop does between label `acquired` and label `release`. -/
def popSection (contextKaddr x23 x27 : UInt64) : Asm Popped := do
  match ← popWays x27 kPendingBucketWays (bucketAddress contextKaddr x27) with
  | none => popMiss contextKaddr
  | some x15 =>
    let w13 ← ldrW (x15 + BinderPendingSlot.offsetofDepth)
    if w13 = 0 then popMiss contextKaddr else popFrame contextKaddr x23 x15 w13

/-- The counter at label `release`. -/
def countPop (terminalReply : Bool) (contextKaddr x21 : UInt64) : Asm Unit :=
  if x21 = 0 then return ()
  else emitCounterIncrement contextKaddr
    (if terminalReply then offsetofPendingTerminalPops else offsetofPendingPops)

def emitPendingPop (terminalReply : Bool) (contextKaddr x23 x27 : UInt64) : Asm Popped := do
  if ← emitPendingLockAcquire contextKaddr then
    let popped ← popSection contextKaddr x23 x27
    countPop terminalReply contextKaddr popped.x21
    emitPendingLockRelease contextKaddr
    return popped
  else return ⟨0, 0⟩

end Asm

/-! ## Handlers -/

/-- A block that is emitted, with the registers it is entered with. -/
inductive Block (K : ContextAddress)
  | push (t : TaskIdentityOffsets) (regs : Registers K)
  | pop (terminalReply : Bool) (regs : Registers K)

/-- The code of a block; a push leaves nothing. -/
def Block.code {K : ContextAddress} : Block K → Asm (Option Asm.Popped)
  | push t r => do
    Asm.emitPendingPush t K.kaddr r.x23 r.x26 r.x27
    return none
  | pop terminalReply r => return some (← Asm.emitPendingPop terminalReply K.kaddr r.x23 r.x27)

/-- What is left by a block that did not take the lock. -/
def Block.nothing {K : ContextAddress} : Block K → Option Asm.Popped
  | push _ _ => none
  | pop _ _ => some ⟨0, 0⟩

/-- What a block has done: what its last load-exclusive of the lock word found, unless a
store-exclusive or a `clrex` came after it; how often it tried to take the lock; its increments of
`pending_lock_drops`; how often it took the lock and gave it back; whether it touched the pending
table; and the address and the value of its last plain load. -/
structure Tally where
  seen : Option UInt64
  attempts : Nat
  drops : Nat
  acquires : Nat
  releases : Nat
  table : Bool
  loaded : Option (UInt64 × UInt64)
  deriving DecidableEq, Repr

namespace Tally

def zero : Tally := ⟨none, 0, 0, 0, 0, false, none⟩

/-- Between a successful acquire and its release. -/
def inside (t : Tally) : Bool := decide (t.releases < t.acquires)

/-- An access that yielded `r`. -/
def note (K : ContextAddress) (c : Access) (r : UInt64) (t : Tally) : Tally :=
  let t := { t with table := t.table || c.touches K.pending kPendingBytes }
  match c with
  | .ldaxr a =>
    if a = K.lock then { t with seen := some r, attempts := t.attempts + 1 }
    else { t with seen := none }
  | .stxr _ a =>
    if a = K.lock ∧ r = 0 then { t with seen := none, acquires := t.acquires + 1 }
    else { t with seen := none }
  | .stlr _ a => if a = K.lock then { t with releases := t.releases + 1 } else t
  | .clrex => { t with seen := none }
  | .ldaddal _ a => if a = K.drops then { t with drops := t.drops + 1 } else t
  | .ldr a _ => { t with loaded := some (a, r) }
  | .str .. => t

/-- The last load was of the transaction's flags and found `TF_ONE_WAY`. -/
def FoundOneWay {K : ContextAddress} (t : Tally) (regs : Registers K) : Prop :=
  ∃ flags, t.loaded = some (regs.x23 + (kTransactionScratchOffset + 20), flags) ∧
    flags.toUInt32 &&& 1 ≠ 0

end Tally

/-- A handler in a block: the code it has before it, its monitor, and its tally. -/
structure Handler (K : ContextAddress) where
  block : Block K
  rest : Asm (Option Asm.Popped)
  monitor : Option Nat
  tally : Tally

/-- The lock word and the handlers, which enter a block and make one access after the other.
Nothing else stores to the lock word. -/
def handlers (K : ContextAddress) :
    PoolMachine (ExclusiveWord UInt64) (Handler K) (Block K) Meeting Empty where
  spawn b := ⟨b, b.code, none, .zero⟩
  act W h o :=
    match h.rest with
    | .ret _ => (W, h)
    | .call c k =>
      let (r, W', m') := c.exec K.lock o W h.monitor
      (W', { h with rest := k r, monitor := m', tally := h.tally.note K c r })
  env _ d := d.elim

/-- Before the first handler. -/
def unlocked (K : ContextAddress) : Pool (ExclusiveWord UInt64) (Handler K) := ⟨⟨0, 0⟩, []⟩

end Drmid
