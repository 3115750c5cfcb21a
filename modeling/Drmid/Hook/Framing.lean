import Drmid.Lib.Greedy
import Drmid.Hook.Stream

/-!
# The framing grammar

What a walk of `n` bytes has to visit, without the walk: commands stand one behind the other from
offset 0 on, each as long as its word says, and `Follows` says when a command may follow those
before it. The walk visits the longest such sequence of at most `kMaxParsedCommands`
(`Lib.Longest`), and `framingEnd` is the error it then ends with, if any.

A reply that is rewritten may change bytes of the stream that are still to be walked, so the
grammar reads the word after the commands `ws` from the memory those commands leave.

`LoggedWalk` runs the walk of `emit_parse_command_stream` with a log of what it reads and visits;
`logCommandStream_walk` says that the log is all it adds.
-/

namespace Drmid

/-! ## The grammar -/

/-- A command with its payload. -/
def commandBytes (command : UInt32) : Nat := 4 + (iocSize command).toNat

/-- The bytes of the commands `ws`, which is the offset of the command after them. -/
def extent (ws : List UInt32) : Nat := ws.foldl (fun off c => off + commandBytes c) 0

/-- The command has the stream's type byte and ends within the `n` bytes. -/
def Fits (stream : StreamType) (n off : Nat) (command : UInt32) : Prop :=
  iocType command = stream.ioctl ∧ off + commandBytes command ≤ n

instance (stream : StreamType) (n off : Nat) (command : UInt32) :
    Decidable (Fits stream n off command) := inferInstanceAs (Decidable (_ ∧ _))

/-- The command word at offset `off`, when it can be read. -/
def UserMemory.commandAt (u : UserMemory) (base : UInt64) (off : Nat) : Option UInt32 :=
  (u.copyFromUser (base + UInt64.ofNat off) 4).map le32

/-- What is recorded for the command at offset `off`: nothing unless its word is a transaction's
and its transaction data can be read. -/
def StreamType.transactionAt (stream : StreamType) (u : UserMemory) (base : UInt64) (off : Nat)
    (command : UInt32) : Option Handed :=
  if stream.transactionCommands.contains command then
    (u.copyFromUser (base + UInt64.ofNat off + 4) 64).map fun data => ⟨command, .ofBytes data⟩
  else none

/-- `command` may follow `ws` in a stream of `n` bytes at `base`, when `mem ws` is the memory that
`ws` leave. -/
def Follows (stream : StreamType) (n : Nat) (base : UInt64) (mem : List UInt32 → UserMemory)
    (ws : List UInt32) (command : UInt32) : Prop :=
  (mem ws).commandAt base (extent ws) = some command ∧ Fits stream n (extent ws) command

/-- The early stops of a walk. -/
inductive StreamEnd
  | boundary | copyFault | capped
  deriving DecidableEq, Repr

def StreamType.errorCounter (stream : StreamType) : StreamEnd → Counter
  | .boundary => stream.counters.boundary
  | .copyFault => stream.counters.copyFault
  | .capped => stream.counters.capped

/-- How a walk of `n` bytes ends that visited `ws`, left memory `u` and can visit no more. -/
def framingEnd (n : Nat) (base : UInt64) (u : UserMemory) (ws : List UInt32) : Option StreamEnd :=
  if kMaxParsedStreamBytes.toNat < n then some .capped
  else if extent ws = n then none
  else if ws.length = kMaxParsedCommands then some .capped
  else if n < extent ws + 4 then some .boundary
  else
    match u.commandAt base (extent ws) with
    | none => some .copyFault
    | some _ => some .boundary

/-- `n` bytes from `a` on lie within the `total` bytes from `base` on. -/
def Within (base : UInt64) (total : Nat) (a : UInt64) (n : Nat) : Prop :=
  (a - base).toNat + n ≤ total

/-! ## The walk with a log -/

/-- The user reads of a walk and the commands it visits. -/
inductive StreamAction
  | read (addr : UInt64) (n : Nat)
  | visit (addr : UInt64) (command : UInt32)
  deriving DecidableEq, Repr

def StreamAction.visited : StreamAction → Option (UInt64 × UInt32)
  | visit addr command => some (addr, command)
  | read .. => none

structure LoggedWalk where
  walk : Walk
  log : List StreamAction

namespace LoggedWalk

/-- The code at one of the three labels. -/
def stop (lw : LoggedWalk) (stream : StreamType) (e : StreamEnd) : LoggedWalk :=
  { lw with walk := lw.walk.count (stream.errorCounter e) }

/-- The copy of a command word. -/
def readWord (lw : LoggedWalk) (addr : UInt64) : LoggedWalk :=
  { lw with log := lw.log ++ [.read addr 4] }

/-- `Walk.processCommand`, which reads transaction data for the transaction words. -/
def command (lw : LoggedWalk) (t : TaskIdentity) (stream : StreamType) (acquired : Bool)
    (command : UInt32) (addr : UInt64) : LoggedWalk :=
  ⟨lw.walk.processCommand t stream acquired command addr,
    lw.log ++ .visit addr command ::
      if stream.transactionCommands.contains command then [.read (addr + 4) 64] else []⟩

end LoggedWalk

/-- `parseLoop` with a log. -/
def logLoop (t : TaskIdentity) (stream : StreamType) (acquired : Nat → Bool) :
    Nat → UInt64 → UInt64 → LoggedWalk → LoggedWalk
  | 0, _, _, lw => lw.stop stream .capped
  | left + 1, addr, remaining, lw =>
    if remaining < 4 then lw.stop stream .boundary
    else
      let lw := lw.readWord addr
      match lw.walk.user.copyFromUser addr 4 with
      | none => lw.stop stream .copyFault
      | some data =>
        let command := le32 data
        let size := (iocSize command).toUInt64 + 4
        if iocType command ≠ stream.ioctl then lw.stop stream .boundary
        else if remaining < size then lw.stop stream .boundary
        else
          let lw := lw.command t stream (acquired left) command addr
          if remaining - size = 0 then lw
          else logLoop t stream acquired left (addr + size) (remaining - size) lw

/-- `emitParseCommandStream` with a log. -/
def logCommandStream (t : TaskIdentity) (stream : StreamType) (acquired : Nat → Bool)
    (userBuffer consumed : UInt64) (w : Walk) : LoggedWalk :=
  if consumed = 0 then ⟨w, []⟩
  else if userBuffer = 0 then (⟨w, []⟩ : LoggedWalk).stop stream .copyFault
  else if kMaxParsedStreamBytes < consumed then (⟨w, []⟩ : LoggedWalk).stop stream .capped
  else
    logLoop t stream acquired kMaxParsedCommands userBuffer consumed
      ⟨w.count stream.counters.stream, []⟩

/-- The walk after the stream was counted and the commands `ws` were processed, each where it
stands. -/
def Walk.processed (w : Walk) (t : TaskIdentity) (stream : StreamType) (acquired : Nat → Bool)
    (base : UInt64) (ws : List UInt32) : Walk :=
  (Lib.history ws).foldl (fun w p =>
    w.processCommand t stream (acquired (kMaxParsedCommands - 1 - p.1.length)) p.2
      (base + UInt64.ofNat (extent p.1))) (w.count stream.counters.stream)

theorem logLoop_walk (t : TaskIdentity) (stream : StreamType) (acquired : Nat → Bool) (left : Nat)
    (addr remaining : UInt64) (lw : LoggedWalk) :
    (logLoop t stream acquired left addr remaining lw).walk =
      parseLoop t stream acquired left addr remaining lw.walk := by
  induction left generalizing addr remaining lw with
  | zero => rfl
  | succ left ih =>
    simp only [logLoop, parseLoop]
    split
    · rfl
    · simp only [LoggedWalk.readWord]
      cases lw.walk.user.copyFromUser addr 4 with
      | none => rfl
      | some data =>
        dsimp only
        split
        · rfl
        · split
          · rfl
          · split
            · rfl
            · exact ih _ _ _

theorem logCommandStream_walk (t : TaskIdentity) (stream : StreamType) (acquired : Nat → Bool)
    (base n : UInt64) (w : Walk) : (logCommandStream t stream acquired base n w).walk =
      emitParseCommandStream t stream acquired base n w := by
  unfold logCommandStream emitParseCommandStream
  split
  · rfl
  · split
    · rfl
    · split
      · rfl
      · exact logLoop_walk ..

/-! ## The walk follows the grammar -/

/-- What the commands `ws` record, each read from the memory those before it leave. -/
def recordedOf (t : TaskIdentity) (stream : StreamType) (acquired : Nat → Bool) (base : UInt64)
    (w : Walk) (ws : List UInt32) : List Handed :=
  (Lib.history ws).filterMap fun p =>
    stream.transactionAt (w.processed t stream acquired base p.1).user base (extent p.1) p.2

/-- What `emit_parse_command_stream` owes on the `n` bytes at `base`: `w` is the walk before it,
`run` the walk after it, `ws` the words of the commands visited. -/
structure WalksFraming (t : TaskIdentity) (stream : StreamType) (acquired : Nat → Bool)
    (base n : UInt64) (w : Walk) (run : LoggedWalk) (ws : List UInt32) : Prop where
  /-- Above the byte cap nothing is visited. -/
  oversized : kMaxParsedStreamBytes < n → ws = []
  /-- Otherwise the visited commands are the longest framed prefix. -/
  framed : n ≤ kMaxParsedStreamBytes →
    Lib.Longest (Follows stream n.toNat base fun ws => (w.processed t stream acquired base ws).user)
      kMaxParsedCommands ws
  /-- They are so in the memory before the walk when no reply's array lies in the stream. -/
  unchanged : n ≤ kMaxParsedStreamBytes →
    (∀ h ∈ recordedOf t stream acquired base w ws, isReply stream h.command = true →
      ∀ i < n.toNat, 32 ≤ (base + UInt64.ofNat i - (h.transaction.buffer + 8)).toNat) →
    Lib.Longest (Follows stream n.toNat base fun _ => w.user) kMaxParsedCommands ws
  /-- They are visited in order, where they stand. -/
  visits : run.log.filterMap StreamAction.visited =
    (Lib.history ws).map fun p => (base + UInt64.ofNat (extent p.1), p.2)
  /-- Exactly those with readable transaction data are recorded. -/
  recorded : run.walk.handed = w.handed ++ recordedOf t stream acquired base w ws
  /-- No read leaves the stream. -/
  reads : ∀ a k, .read a k ∈ run.log → Within base n.toNat a k
  /-- One error counter goes up on an early stop, and none otherwise. -/
  errors : ∀ e, run.walk.ctx.counter (stream.errorCounter e) =
    w.ctx.counter (stream.errorCounter e) +
      if framingEnd n.toNat base (w.processed t stream acquired base ws).user ws = some e
      then 1 else 0

end Drmid
