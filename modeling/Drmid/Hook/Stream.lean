import Drmid.Hook.Record

/-!
# Walking a command stream

`emit_parse_command_stream` walks the top-level framing of a Binder buffer: a 32-bit command word,
then as many payload bytes as the word's size field says. It stops at the end of the stream, at the
first word it cannot read or that does not fit, and after `kMaxParsedCommands` commands. A command
that carries transaction data goes to `emit_record_transaction`.

`handed` is a ghost: the commands `emit_record_transaction` was given, oldest first, each with the
64 bytes it was given.
-/

namespace Drmid

def kMaxParsedStreamBytes : UInt64 := 64 * 1024
def kMaxParsedCommands : Nat := 128

/-- `ubfx x25, x24, 8, 8`. -/
def iocType (command : UInt32) : UInt32 := command >>> 8 &&& 0xff

/-- `ubfx x25, x24, 16, 14`. -/
def iocSize (command : UInt32) : UInt32 := command >>> 16 &&& 0x3fff

/-- The counters `build_readonly_parser_handler` passes for a stream. -/
structure StreamCounters where
  stream : Counter
  command : Counter
  transaction : Counter
  boundary : Counter
  copyFault : Counter
  capped : Counter

def StreamType.counters : StreamType → StreamCounters
  | .bc => ⟨.writeStreams, .bcCommands, .bcTransactionCommands, .writeBoundaryErrors,
      .writeCopyFaults, .writeCapped⟩
  | .br => ⟨.readStreams, .brCommands, .brTransactionCommands, .readBoundaryErrors,
      .readCopyFaults, .readCapped⟩

/-- A command `emit_record_transaction` was given. -/
structure Handed where
  command : UInt32
  transaction : BinderTransactionData
  deriving DecidableEq, Repr

/-- What a walk reads and changes. -/
structure Walk where
  user : UserMemory
  scratch : ParserScratch
  ctx : KernelCounterContext
  handed : List Handed

namespace Walk

def count (w : Walk) (c : Counter) : Walk := { w with ctx := w.ctx.emitCounterIncrement c }

/-- `emit_record_transaction` on the transaction data just copied. -/
def record (w : Walk) (t : TaskIdentity) (stream : StreamType) (acquired : Bool)
    (command : UInt32) (td : BinderTransactionData) : Walk :=
  let (user, scratch, ctx) := emitRecordTransaction t stream command acquired w.user
    { w.scratch with transaction := td } w.ctx
  ⟨user, scratch, ctx, w.handed ++ [⟨command, td⟩]⟩

/-- From label `is_transaction` to `command_processed`, for the command at `addr`. -/
def processTransaction (w : Walk) (t : TaskIdentity) (stream : StreamType) (acquired : Bool)
    (command : UInt32) (addr : UInt64) : Walk :=
  let w := w.count stream.counters.transaction
  match w.user.copyFromUser (addr + 4) 64 with
  | none => w.count .transactionMetadataFaults
  | some data => w.record t stream acquired command (.ofBytes data)

/-- From the increment of the command counter to label `command_processed`. -/
def processCommand (w : Walk) (t : TaskIdentity) (stream : StreamType) (acquired : Bool)
    (command : UInt32) (addr : UInt64) : Walk :=
  let w := w.count stream.counters.command
  if stream.transactionCommands.contains command then
    w.processTransaction t stream acquired command addr
  else w

end Walk

/-- Label `loop`: `x19` is `addr`, `x20` is `remaining`, and the first argument is what `x22` lacks
to `kMaxParsedCommands`. `acquired` answers the try-lock of each command. -/
def parseLoop (t : TaskIdentity) (stream : StreamType) (acquired : Nat → Bool) :
    Nat → UInt64 → UInt64 → Walk → Walk
  | 0, _, _, w => w.count stream.counters.capped
  | left + 1, addr, remaining, w =>
    if remaining < 4 then w.count stream.counters.boundary
    else
      match w.user.copyFromUser addr 4 with
      | none => w.count stream.counters.copyFault
      | some data =>
        let command := le32 data
        let size := (iocSize command).toUInt64 + 4
        if iocType command ≠ stream.ioctl then w.count stream.counters.boundary
        else if remaining < size then w.count stream.counters.boundary
        else
          let w := w.processCommand t stream (acquired left) command addr
          if remaining - size = 0 then w
          else parseLoop t stream acquired left (addr + size) (remaining - size) w

/-- `emit_parse_command_stream` of the `consumed` bytes at `userBuffer`. -/
def emitParseCommandStream (t : TaskIdentity) (stream : StreamType) (acquired : Nat → Bool)
    (userBuffer consumed : UInt64) (w : Walk) : Walk :=
  if consumed = 0 then w
  else if userBuffer = 0 then w.count stream.counters.copyFault
  else if kMaxParsedStreamBytes < consumed then w.count stream.counters.capped
  else
    parseLoop t stream acquired kMaxParsedCommands userBuffer consumed
      (w.count stream.counters.stream)

/-! ## Framed streams -/

/-- A Binder command as its sender laid it out: the command word and the payload. -/
structure Command where
  bytes : List UInt8
  deriving DecidableEq, Repr

namespace Command

def word (c : Command) : UInt32 := le32 fun i => c.bytes.getD i 0

/-- The transaction data of a command that carries one. -/
def transaction (c : Command) : BinderTransactionData :=
  .ofBytes fun i => c.bytes.getD (i + 4) 0

/-- The word is one of the stream's and the payload is as long as it says. -/
def Framed (stream : StreamType) (c : Command) : Prop :=
  iocType c.word = stream.ioctl ∧ c.bytes.length = (iocSize c.word).toNat + 4

instance (stream : StreamType) (c : Command) : Decidable (c.Framed stream) :=
  inferInstanceAs (Decidable (_ ∧ _))

end Command

/-- The bytes of a stream. -/
def streamBytes (cs : List Command) : List UInt8 := cs.flatMap Command.bytes

/-- The commands of a stream that carry transaction data, in order. -/
def StreamType.transactions (stream : StreamType) (cs : List Command) : List Handed :=
  (cs.filter fun c => stream.transactionCommands.contains c.word).map
    fun c => ⟨c.word, c.transaction⟩

/-- The leading commands that lie within the first `n` bytes, and the others. -/
def splitConsumed : Nat → List Command → List Command × List Command
  | _, [] => ([], [])
  | n, c :: cs =>
    if c.bytes.length ≤ n then
      let (consumed, left) := splitConsumed (n - c.bytes.length) cs
      (c :: consumed, left)
    else ([], c :: cs)

/-- The framed stream `cs` lies in user memory from `base` on, readable. No reply in it names a
part of the stream itself as its byte array, so that a rewritten reply leaves the stream as it
is. -/
structure StreamAt (stream : StreamType) (u : UserMemory) (base : UInt64) (cs : List Command) :
    Prop where
  framed : ∀ c ∈ cs, c.Framed stream
  holds : ∀ i < (streamBytes cs).length,
    u.byte (base + UInt64.ofNat i) = (streamBytes cs).getD i 0
  readable : ∀ k n, k + n ≤ (streamBytes cs).length → u.readable (base + UInt64.ofNat k) n = true
  apart : ∀ c ∈ cs, isReply stream c.word = true → ∀ i < (streamBytes cs).length,
    32 ≤ (base + UInt64.ofNat i - (c.transaction.buffer + 8)).toNat

/-- The `n` bytes from `base` on are the framed stream `cs`, within the caps of
`emit_parse_command_stream`. -/
structure StreamIn (stream : StreamType) (u : UserMemory) (base n : UInt64) (cs : List Command) :
    Prop extends StreamAt stream u base cs where
  length : n.toNat = (streamBytes cs).length
  bytes_le : (streamBytes cs).length ≤ kMaxParsedStreamBytes.toNat
  commands_le : cs.length ≤ kMaxParsedCommands
  nonnull : cs ≠ [] → base ≠ 0

end Drmid
