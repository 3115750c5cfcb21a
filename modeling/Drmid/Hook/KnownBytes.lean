import Drmid.Hook.Record

/-!
# Recording with known bytes only

The parcel buffer is not cleared between commands. Here each command starts with a buffer of which
nothing is known, a copy makes the bytes it wrote known, and a load of a byte that is not known has
no result: every function that loads from the buffer is written again in `Option`, load by load in
the order of the source. That `knownRecord` always has the result of `emitRecordTransaction`
(`Proof.StaleScratch`) therefore says that no load meets a byte of an earlier command.
-/

namespace Drmid

/-- The parcel buffer as far as the current command has written it. -/
abbrev KnownBytes := Nat → Option UInt8

namespace KnownBytes

def unknown : KnownBytes := fun _ => none

/-- `n` copied bytes at offset `off`. -/
def fill (k : KnownBytes) (off n : Nat) (data : Nat → UInt8) : KnownBytes :=
  fun i => if off ≤ i ∧ i < off + n then some (data (i - off)) else k i

/-! ## Loads -/

def byte (k : KnownBytes) (off : Nat) : Option UInt32 := do
  let b ← k off
  return b.toUInt32

def half (k : KnownBytes) (off : Nat) : Option UInt32 := do
  let b₀ ← k off
  let b₁ ← k (off + 1)
  return (b₀.toUInt16 ||| b₁.toUInt16 <<< 8).toUInt32

def word (k : KnownBytes) (off : Nat) : Option UInt32 := do
  let b₀ ← k off
  let b₁ ← k (off + 1)
  let b₂ ← k (off + 2)
  let b₃ ← k (off + 3)
  return b₀.toUInt32 ||| b₁.toUInt32 <<< 8 ||| b₂.toUInt32 <<< 16 ||| b₃.toUInt32 <<< 24

/-! ## Matching -/

/-- A comparison that falls through to the next one: `first`, then `second` on equality. -/
def both (first second : Option Bool) : Option Bool := do
  if ← first then second else return false

/-- `cmp x17, required`, then the comparisons. -/
def guarded (fits : Bool) (x : Option Bool) : Option Bool :=
  if fits then x else some false

def loads (load : Nat → Option UInt32) (off : Nat) (value : UInt32) : Option Bool := do
  return (← load off) == value

/-- `emitMatchContents`. -/
def matchContents (load : Nat → Option UInt32) (stride : Nat) : Nat → List Char → Option Bool
  | off, [] => loads load off 0
  | off, c :: cs => both (loads load off c.val) (matchContents load stride (off + stride) cs)

variable (k : KnownBytes)

def matchUtf16Contents (charsOffset : Nat) (value : String) : Option Bool :=
  matchContents k.half 2 charsOffset value.toList

def matchUtf8Contents (charsOffset : Nat) (value : String) : Option Bool :=
  matchContents k.byte 1 charsOffset value.toList

def matchUtf16String (lengthOffset : Nat) (value : String) : Option Bool :=
  both (loads k.word lengthOffset (UInt32.ofNat value.length))
    (k.matchUtf16Contents (lengthOffset + 4) value)

def matchMagic (off : Nat) : Option Bool := do
  return kDomainMagics.contains (← k.word off)

def matchHeaderedUtf16String (lengthOffset : Nat) (value : String) : Option Bool :=
  both
    (both (loads k.word lengthOffset (UInt32.ofNat value.length)) (k.matchMagic (lengthOffset + 4)))
    (k.matchUtf16Contents (lengthOffset + 8) value)

/-- `descriptorForm`. -/
def descriptorForm (size : Nat) (descriptor : String) (tokenOffset : Nat) :
    Option (Option UInt32) := do
  let required := descriptorEnd tokenOffset descriptor
  if ← guarded (required ≤ size) (k.matchUtf16String tokenOffset descriptor) then
    return some 0
  else if ← guarded (required + 4 ≤ size) (k.matchHeaderedUtf16String tokenOffset descriptor) then
    return some 4
  else if ← guarded (required ≤ size) (k.matchUtf16Contents (tokenOffset + 4) descriptor) then
    return some 0
  else return none

/-- `propertyMatched`, with the header extra of the descriptor. -/
def propertyMatched (extra : UInt32) (size : Nat) (descriptor : String) (tokenOffset : Nat) :
    Option Bool :=
  let propertyOffset := align4 (descriptorEnd tokenOffset descriptor)
  let propertyRequired := propertyOffset + 4 + (kDeviceUniqueId.length + 1) * 2
  if extra = 0 then
    guarded (propertyRequired ≤ size) (k.matchUtf16String propertyOffset kDeviceUniqueId)
  else
    guarded (propertyRequired + 4 ≤ size) (k.matchUtf16String (propertyOffset + 4) kDeviceUniqueId)

/-- The unrolled search of one of the fallback scans. -/
def anyOffset (found : Nat → Option Bool) : List Nat → Option Bool
  | [] => some false
  | off :: offsets => do if ← found off then return true else anyOffset found offsets

/-- `rawPropertyFound`. -/
def rawPropertyFound (size : Nat) : Option Bool := do
  if ← anyOffset (fun off => guarded (off + (kDeviceUniqueId.length + 1) * 2 ≤ size)
      (k.matchUtf16Contents off kDeviceUniqueId)) rawOffsets then
    return true
  else
    anyOffset (fun off => guarded (off + (kDeviceUniqueId.length + 1) ≤ size)
      (k.matchUtf8Contents off kDeviceUniqueId)) rawOffsets

/-! ## The request -/

/-- `matchProperty`. -/
def matchProperty (size : Nat) (descriptor : String) (tokenOffset : Nat) (s : ParserScratch)
    (ctx : KernelCounterContext) : Option (ParserScratch × KernelCounterContext) := do
  let matched ← k.propertyMatched s.parcelTokenHeaderExtra size descriptor tokenOffset
  let (s, ctx) := if matched then markDeviceUniqueId s ctx else (s, ctx)
  if deviceUniqueIdFlag s.parcelFlags then return (s, ctx)
  else if ← k.rawPropertyFound size then return markDeviceUniqueId s ctx
  else return (s, ctx)

/-- `emitTryParcelDescriptor`. -/
def tryParcelDescriptor (size : Nat) (descriptor : String) (tokenKind : ParcelTokenKind)
    (hitCounter : Counter) : List Nat → ParserScratch → KernelCounterContext →
      Option (Bool × ParserScratch × KernelCounterContext)
  | [], s, ctx => some (false, s, ctx)
  | tokenOffset :: offsets, s, ctx => do
    match ← k.descriptorForm size descriptor tokenOffset with
    | none => tryParcelDescriptor size descriptor tokenKind hitCounter offsets s ctx
    | some extra =>
      let s := { s with
        parcelTokenHeaderExtra := extra
        parcelTokenKind := tokenKind
        parcelTokenOffset := UInt32.ofNat tokenOffset }
      let ctx := ctx.emitCounterIncrement hitCounter
      if tokenKind = .drmPlugin then
        if s.transaction.code ≠ kGetPropertyByteArrayTransactionCode then
          tryParcelDescriptor size descriptor tokenKind hitCounter offsets s ctx
        else return (true, ← k.matchProperty size descriptor tokenOffset s ctx)
      else return (true, s, ctx)

/-- `scanParcel`. -/
def scanParcel (size : Nat) (s : ParserScratch) (ctx : KernelCounterContext) :
    Option (ParserScratch × KernelCounterContext) := do
  let (found, s, ctx) ←
    k.tryParcelDescriptor size kDrmPlugin .drmPlugin .parcelPluginHits tokenOffsets s ctx
  if found then return (s, ctx) else return (s, ctx.emitCounterIncrement .parcelUnknownTokens)

end KnownBytes

open KnownBytes

/-- `emitCaptureParcelPrefix`: the scan knows what this call has copied. -/
def knownCapture (stream : StreamType) (command : UInt32) (u : UserMemory) (s : ParserScratch)
    (ctx : KernelCounterContext) : Option (ParserScratch × KernelCounterContext) :=
  if !stream.requestCommands.contains command then some (s, ctx)
  else if s.transaction.dataSize = 0 then unknown.scanParcel 0 s ctx
  else if s.transaction.buffer = 0 then some (s, ctx.emitCounterIncrement .parcelPrefixFaults)
  else
    let size := (min s.transaction.dataSize kParcelPrefixMaxBytes).toNat
    match u.copyFromUser s.transaction.buffer size with
    | none => some (s, ctx.emitCounterIncrement .parcelPrefixFaults)
    | some data =>
      (unknown.fill 0 size data).scanParcel size
        { s.fillParcel 0 size data with parcelPrefixSize := UInt32.ofNat size }
        (ctx.emitCounterIncrement .parcelPrefixOk)

/-! ## The reply -/

open ReplyState

/-- `headerStage`: status and length are the two words this stage has copied. -/
def knownHeader (st : ReplyState) : Option (Except (ReplyLabel × ReplyState) ReplyState) :=
  let td := st.scratch.transaction
  if td.dataSize < 8 then some (.error (.arrayInvalid, st))
  else if td.buffer = 0 then some (.error (.headerFault, st))
  else
    match st.user.copyFromUser td.buffer 8 with
    | none => some <| .error (.headerFault, st)
    | some data => do
      let k := unknown.fill 0 8 data
      let s := st.scratch.fillParcel 0 8 data
      let st := { st with scratch := { s with replyPrefixSize := 8 } }.count .replyHeaderCopyOk
      let status ← k.word 0
      let st := { st with scratch := { st.scratch with replyStatus := status } }
      if status ≠ 0 then return .error (.statusNonzero, st)
      else
        let st := st.count .replyStatusOk
        let length ← k.word 4
        let st := { st with scratch := { st.scratch with replyArrayLength := length } }
        if length ≠ kWidevineDeviceUniqueIdBytes then return .error (.arrayInvalid, st)
        else if td.dataSize < length.toUInt64 + 8 then return .error (.arrayInvalid, st)
        else
          let st := { st with scratch := { st.scratch with replyArrayOffset := 8 } }
          return .ok
            ((st.orFlags (kReplyFlagStatusOk ||| kReplyFlagArrayValid)).count .replyArrayValid)

/-- `emitParseHalCorrelatedReply`: only the header stage loads from the buffer. -/
def knownReply (requestId : UInt64) (requestFlags : UInt32) (st : ReplyState) :
    Option ReplyState :=
  match captureStage requestId requestFlags st with
  | .error e => some (settle (.error e))
  | .ok st =>
    (knownHeader st).map fun header => settle do
      let st ← header
      let st ← contentStage st
      let st ← lengthStage st
      let st ← modeStage st
      copyStage requestId st

/-! ## The whole recording -/

/-- `beginRecord`. -/
def knownBegin (t : TaskIdentity) (stream : StreamType) (command : UInt32) (u : UserMemory)
    (s : ParserScratch) (ctx : KernelCounterContext) :
    Option (Recording × KernelCounterContext) :=
  let s := s.emitResetTransactionParseScratch
  (if stream = .br then knownCapture stream command u s ctx else some (s, ctx)).map
    fun (s, ctx) =>
      (⟨t, stream, command, if isReply stream command then .pop else .reserve, s, 0, 0, 0,
        eventSlot 0⟩, ctx)

/-- `parseRecord`. -/
def knownParse (u : UserMemory) (r : Recording) (ctx : KernelCounterContext) :
    Option (Recording × UserMemory × KernelCounterContext) :=
  (knownReply r.requestId r.requestFlags ⟨u, r.scratch, ctx⟩).map fun st =>
    ({ r with stage := .reserve, scratch := st.scratch }, st.user, st.ctx)

/-- `emitRecordTransaction`. -/
def knownRecord (t : TaskIdentity) (stream : StreamType) (command : UInt32) (acquired : Bool)
    (u : UserMemory) (s : ParserScratch) (ctx : KernelCounterContext) :
    Option (UserMemory × ParserScratch × KernelCounterContext) := do
  let (r, ctx) ← knownBegin t stream command u s ctx
  let (r, u, ctx) ←
    if isReply stream command then
      let (r, ctx) := popRecord acquired r ctx
      knownParse u r ctx
    else some (r, u, ctx)
  let (r, ctx) := reserveRecord r ctx
  let (r, ctx) := if isRequest stream command then pushRecord acquired r ctx else (r, ctx)
  let (r, ctx) := publishRecord r ctx
  return (u, r.scratch, ctx)

end Drmid
