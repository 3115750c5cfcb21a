import Drmid.Kernel.Context
import Drmid.Kernel.UserMemory

/-!
# Binder commands and the parser's scratch area

The command words of the Binder protocol with the asm-generic ioctl encoding (direction in bits
31..30, payload size in 29..16, type in 15..8, number in 7..0), and the 448-byte stack area that
`emit_parse_command_stream` reuses for every command of a stream.

The scratch words sit at fixed, disjoint offsets, so they are fields here. The parcel buffer
(`kParcelPrefixScratchOffset`, 256 bytes) stays a byte array because the descriptor and property
matches read it at computed offsets. `runtimeConfig` is the captured slot's number; the code keeps
its address.
-/

namespace Drmid

/-! ## Command words -/

/-- `_IOC(dir, type, nr, size)`. -/
def ioc (dir type nr size : UInt32) : UInt32 := dir <<< 30 ||| size <<< 16 ||| type <<< 8 ||| nr

def bcTransaction : UInt32 := ioc 1 0x63 0 64
def bcReply : UInt32 := ioc 1 0x63 1 64
def bcTransactionSg : UInt32 := ioc 1 0x63 17 72
def bcReplySg : UInt32 := ioc 1 0x63 18 72
def brTransaction : UInt32 := ioc 2 0x72 2 64
def brTransactionSecCtx : UInt32 := ioc 2 0x72 2 72
def brReply : UInt32 := ioc 2 0x72 3 64
def binderWriteRead : UInt32 := ioc 3 0x62 1 48

/-- `expected_ioc_type`: `'c'` for the BC stream a caller writes, `'r'` for the BR stream the
driver returns. -/
inductive StreamType
  | bc | br
  deriving DecidableEq, Repr

/-- The type byte of a stream's commands. -/
def StreamType.ioctl : StreamType → UInt32
  | .bc => 0x63
  | .br => 0x72

/-- The words `emit_parse_command_stream` hands to `emit_record_transaction`. -/
def StreamType.transactionCommands : StreamType → List UInt32
  | .bc => [bcTransaction, bcReply, bcTransactionSg, bcReplySg]
  | .br => [brTransaction, brTransactionSecCtx, brReply]

def isBcReply (command : UInt32) : Bool := command == bcReply || command == bcReplySg

/-- `TF_ONE_WAY`, bit 0 of the transaction flags. -/
def BinderTransactionData.oneWay (td : BinderTransactionData) : Bool := td.flags &&& 1 != 0

/-- The record that the 64 copied bytes hold. -/
def BinderTransactionData.ofBytes (b : Nat → UInt8) : BinderTransactionData where
  target := le64 b
  cookie := le64 fun i => b (i + 8)
  code := le32 fun i => b (i + 16)
  flags := le32 fun i => b (i + 20)
  senderPid := le32 fun i => b (i + 24)
  senderEuid := le32 fun i => b (i + 28)
  dataSize := le64 fun i => b (i + 32)
  offsetsSize := le64 fun i => b (i + 40)
  buffer := le64 fun i => b (i + 48)
  offsets := le64 fun i => b (i + 56)

/-! ## Scratch -/

structure ParserScratch where
  transaction : BinderTransactionData
  parcelBytes : Nat → UInt8
  parcelTokenKind : ParcelTokenKind
  parcelTokenOffset : UInt32
  parcelPrefixSize : UInt32
  parcelFlags : UInt32
  correlatedRequestFlags : UInt32
  replyPrefixSize : UInt32
  replyStatus : UInt32
  replyArrayLength : UInt32
  replyArrayOffset : UInt32
  replyFlags : UInt32
  parcelTokenHeaderExtra : UInt32
  runtimeConfig : Fin 2
  halIdentityGeneration : UInt64

/-- A scratch area of zero bytes. -/
def ParserScratch.zero : ParserScratch :=
  ⟨⟨0, 0, 0, 0, 0, 0, 0, 0, 0, 0⟩, fun _ => 0, .none, 0, 0, 0, 0, 0, 0, 0, 0, 0, 0, 0, 0⟩

namespace ParserScratch

/-- `ldr w, [x23, kParcelPrefixScratchOffset + off]`. -/
def parcelWord (s : ParserScratch) (off : Nat) : UInt32 := le32 fun i => s.parcelBytes (off + i)

/-- `ldrh w, [x23, kParcelPrefixScratchOffset + off]`. -/
def parcelHalf (s : ParserScratch) (off : Nat) : UInt16 :=
  (s.parcelBytes off).toUInt16 ||| (s.parcelBytes (off + 1)).toUInt16 <<< 8

/-- `n` copied bytes land at offset `off` of the parcel buffer. -/
def fillParcel (s : ParserScratch) (off n : Nat) (data : Nat → UInt8) : ParserScratch :=
  { s with
    parcelBytes := fun i => if off ≤ i ∧ i < off + n then data (i - off) else s.parcelBytes i }

/-- `emit_reset_transaction_parse_scratch`. -/
def emitResetTransactionParseScratch (s : ParserScratch) : ParserScratch :=
  { s with
    parcelTokenKind := .none
    parcelTokenOffset := 0
    parcelPrefixSize := 0
    parcelFlags := 0
    correlatedRequestFlags := 0
    replyPrefixSize := 0
    replyStatus := 0
    replyArrayLength := 0
    replyArrayOffset := 0
    replyFlags := 0
    parcelTokenHeaderExtra := 0 }

theorem parcelWord_fill (s : ParserScratch) (off : Nat) {n k : Nat} (data : Nat → UInt8)
    (h : k + 4 ≤ n) : (s.fillParcel off n data).parcelWord (off + k) = le32 fun i => data (k + i) := by
  simp only [parcelWord, fillParcel, le32]
  repeat rw [if_pos (by omega)]
  simp only [Nat.add_assoc, Nat.add_sub_cancel_left]

end ParserScratch

/-- `parcel_flags` carries `kParcelFlagDeviceUniqueId` (the tested bit 0). -/
def deviceUniqueIdFlag (flags : UInt32) : Bool := flags &&& kParcelFlagDeviceUniqueId != 0

end Drmid
