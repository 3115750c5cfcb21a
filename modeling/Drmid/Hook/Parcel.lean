import Drmid.Hook.Scratch

/-!
# Request recognition

`emit_capture_parcel_prefix` copies at most 256 bytes of a request's parcel into the scratch area
and looks there for the `IDrmPlugin` interface token and the property name `deviceUniqueId`. The
unrolled loops over token offsets and raw offsets are recursions over the list of offsets; every
`cmp x17, required` is the comparison with the copied size. Offsets are relative to the parcel
buffer.

`emitCaptureParcelPrefix_frame` says what the capture leaves alone: it changes counters and parcel
scratch words only.
-/

namespace Drmid

def kGetPropertyByteArrayTransactionCode : UInt32 := 11
def kParcelPrefixMaxBytes : UInt64 := 256

/-- The descriptor `kDrmPlugin` of `emit_capture_parcel_prefix`. -/
def kDrmPlugin : String := "android.hardware.drm.IDrmPlugin"

/-- The property name of `emit_try_parcel_descriptor`. -/
def kDeviceUniqueId : String := "deviceUniqueId"

/-- The build-domain words `SYST`, `VNDR`, `RECO`, `UNKN`. -/
def kDomainMagics : List UInt32 := [0x53595354, 0x564e4452, 0x5245434f, 0x554e4b4e]

/-- `align4`. -/
def align4 (value : Nat) : Nat := (value + 3) / 4 * 4

/-! ## Matching -/

/-- The unrolled comparison of a terminated string, one unit every `stride` bytes. -/
def emitMatchContents (read : Nat → UInt32) (stride : Nat) : Nat → List Char → Bool
  | off, [] => read off == 0
  | off, c :: cs => read off == c.val && emitMatchContents read stride (off + stride) cs

/-- `emit_match_utf16_contents`. -/
def emitMatchUtf16Contents (s : ParserScratch) (charsOffset : Nat) (value : String) : Bool :=
  emitMatchContents (fun off => (s.parcelHalf off).toUInt32) 2 charsOffset value.toList

/-- `emit_match_utf8_contents`. -/
def emitMatchUtf8Contents (s : ParserScratch) (charsOffset : Nat) (value : String) : Bool :=
  emitMatchContents (fun off => (s.parcelBytes off).toUInt32) 1 charsOffset value.toList

/-- `emit_match_utf16_string`. -/
def emitMatchUtf16String (s : ParserScratch) (lengthOffset : Nat) (value : String) : Bool :=
  s.parcelWord lengthOffset == UInt32.ofNat value.length &&
    emitMatchUtf16Contents s (lengthOffset + 4) value

/-- `emit_match_headered_utf16_string`: a build-domain word stands between the length and the
characters. -/
def emitMatchHeaderedUtf16String (s : ParserScratch) (lengthOffset : Nat) (value : String) :
    Bool :=
  s.parcelWord lengthOffset == UInt32.ofNat value.length &&
    kDomainMagics.contains (s.parcelWord (lengthOffset + 4)) &&
    emitMatchUtf16Contents s (lengthOffset + 8) value

/-! ## The descriptor and the property -/

/-- The end of a descriptor at `tokenOffset`, which is also what its plain form requires. -/
def descriptorEnd (tokenOffset : Nat) (descriptor : String) : Nat :=
  tokenOffset + 4 + (descriptor.length + 1) * 2

/-- The three forms tried at a token offset, with the header bytes the form adds: the String16,
the String16 with a build-domain word, the bare characters after any word. -/
def descriptorForm (s : ParserScratch) (size : Nat) (descriptor : String) (tokenOffset : Nat) :
    Option UInt32 :=
  let required := descriptorEnd tokenOffset descriptor
  if required ≤ size ∧ emitMatchUtf16String s tokenOffset descriptor then some 0
  else if required + 4 ≤ size ∧ emitMatchHeaderedUtf16String s tokenOffset descriptor then some 4
  else if required ≤ size ∧ emitMatchUtf16Contents s (tokenOffset + 4) descriptor then some 0
  else none

/-- Raw offsets 0, 4, .., 64 of the fallback search. -/
def rawOffsets : List Nat := (List.range 17).map (4 * ·)

/-- The property right after the descriptor, shifted by the header when there is one. -/
def propertyMatched (s : ParserScratch) (size : Nat) (descriptor : String) (tokenOffset : Nat) :
    Bool :=
  let propertyOffset := align4 (descriptorEnd tokenOffset descriptor)
  let propertyRequired := propertyOffset + 4 + (kDeviceUniqueId.length + 1) * 2
  if s.parcelTokenHeaderExtra = 0 then
    decide (propertyRequired ≤ size) && emitMatchUtf16String s propertyOffset kDeviceUniqueId
  else
    decide (propertyRequired + 4 ≤ size) &&
      emitMatchUtf16String s (propertyOffset + 4) kDeviceUniqueId

/-- The two bounded fallback scans for the bare property name. -/
def rawPropertyFound (s : ParserScratch) (size : Nat) : Bool :=
  rawOffsets.any (fun off => decide (off + (kDeviceUniqueId.length + 1) * 2 ≤ size) &&
    emitMatchUtf16Contents s off kDeviceUniqueId) ||
  rawOffsets.any (fun off => decide (off + (kDeviceUniqueId.length + 1) ≤ size) &&
    emitMatchUtf8Contents s off kDeviceUniqueId)

/-- The stores at `property_matched` and `raw_property_found`. -/
def markDeviceUniqueId (s : ParserScratch) (ctx : KernelCounterContext) :
    ParserScratch × KernelCounterContext :=
  ({ s with parcelFlags := kParcelFlagDeviceUniqueId },
    ctx.emitCounterIncrement .parcelDeviceUniqueIdHits)

/-- The property match and, while the flag is still clear, the fallback. -/
def matchProperty (size : Nat) (descriptor : String) (tokenOffset : Nat) (s : ParserScratch)
    (ctx : KernelCounterContext) : ParserScratch × KernelCounterContext :=
  let (s, ctx) :=
    if propertyMatched s size descriptor tokenOffset then markDeviceUniqueId s ctx else (s, ctx)
  if deviceUniqueIdFlag s.parcelFlags then (s, ctx)
  else if rawPropertyFound s size then markDeviceUniqueId s ctx
  else (s, ctx)

/-- Token offsets 0, 4, .., 32. -/
def tokenOffsets : List Nat := (List.range 9).map (4 * ·)

/-- `emit_try_parcel_descriptor`; the Boolean says that label `matched` was reached. A descriptor
found under another transaction code is noted and the search goes on. -/
def emitTryParcelDescriptor (size : Nat) (descriptor : String) (tokenKind : ParcelTokenKind)
    (hitCounter : Counter) :
    List Nat → ParserScratch → KernelCounterContext → Bool × ParserScratch × KernelCounterContext
  | [], s, ctx => (false, s, ctx)
  | tokenOffset :: offsets, s, ctx =>
    match descriptorForm s size descriptor tokenOffset with
    | none => emitTryParcelDescriptor size descriptor tokenKind hitCounter offsets s ctx
    | some extra =>
      let s := { s with
        parcelTokenHeaderExtra := extra
        parcelTokenKind := tokenKind
        parcelTokenOffset := UInt32.ofNat tokenOffset }
      let ctx := ctx.emitCounterIncrement hitCounter
      if tokenKind = .drmPlugin then
        if s.transaction.code ≠ kGetPropertyByteArrayTransactionCode then
          emitTryParcelDescriptor size descriptor tokenKind hitCounter offsets s ctx
        else (true, matchProperty size descriptor tokenOffset s ctx)
      else (true, s, ctx)

/-- Label `scan` of `emit_capture_parcel_prefix`. -/
def scanParcel (size : Nat) (s : ParserScratch) (ctx : KernelCounterContext) :
    ParserScratch × KernelCounterContext :=
  let (found, s, ctx) :=
    emitTryParcelDescriptor size kDrmPlugin .drmPlugin .parcelPluginHits tokenOffsets s ctx
  if found then (s, ctx) else (s, ctx.emitCounterIncrement .parcelUnknownTokens)

/-- The commands whose parcel is looked at. -/
def StreamType.requestCommands : StreamType → List UInt32
  | .bc => [bcTransaction, bcTransactionSg]
  | .br => [brTransaction, brTransactionSecCtx]

/-- `emit_capture_parcel_prefix`. -/
def emitCaptureParcelPrefix (stream : StreamType) (command : UInt32) (u : UserMemory)
    (s : ParserScratch) (ctx : KernelCounterContext) : ParserScratch × KernelCounterContext :=
  if !stream.requestCommands.contains command then (s, ctx)
  else if s.transaction.dataSize = 0 then scanParcel 0 s ctx
  else if s.transaction.buffer = 0 then (s, ctx.emitCounterIncrement .parcelPrefixFaults)
  else
    let size := (min s.transaction.dataSize kParcelPrefixMaxBytes).toNat
    match u.copyFromUser s.transaction.buffer size with
    | none => (s, ctx.emitCounterIncrement .parcelPrefixFaults)
    | some data =>
      scanParcel size
        { s.fillParcel 0 size data with parcelPrefixSize := UInt32.ofNat size }
        (ctx.emitCounterIncrement .parcelPrefixOk)

/-! ## A request parcel -/

/-- The characters of a String16 with their terminator. -/
def utf16 (value : String) : List UInt8 :=
  (value.toList.flatMap fun c => [c.toNat.toUInt8, 0]) ++ [0, 0]

/-- The 102 bytes of a plain `getPropertyByteArray("deviceUniqueId")` parcel. -/
def deviceUniqueIdParcel : List UInt8 :=
  [31, 0, 0, 0] ++ utf16 kDrmPlugin ++ [14, 0, 0, 0] ++ utf16 kDeviceUniqueId

/-- The transaction data of a call with `code` whose parcel lies at `0x1000`. -/
def parcelCall (code : UInt32) : BinderTransactionData :=
  ⟨0, 0, code, 0, 0, 0, 102, 0, 0x1000, 0⟩

example : deviceUniqueIdFlag (emitCaptureParcelPrefix .br brTransaction
    (.ofBytes 0x1000 deviceUniqueIdParcel)
    { ParserScratch.zero with transaction := parcelCall 11 } .zero).1.parcelFlags = true := by
  decide +kernel

/-! ## What the capture leaves alone -/

section
open KernelCounterContext

variable {s s' : ParserScratch} {ctx ctx' ctx₀ : KernelCounterContext} {size : Nat}

theorem matchProperty_frame {descriptor : String} {tokenOffset : Nat}
    (hc : ctx₀.SameButTelemetry ctx) :
    (matchProperty size descriptor tokenOffset s ctx).1.transaction = s.transaction ∧
      ctx₀.SameButTelemetry (matchProperty size descriptor tokenOffset s ctx).2 := by
  -- the first match leaves the context with one hit more, or as it was
  have hfirst : ∃ s₁ ctx₁, s₁.transaction = s.transaction ∧ ctx₀.SameButTelemetry ctx₁ ∧
      (if propertyMatched s size descriptor tokenOffset then markDeviceUniqueId s ctx
        else (s, ctx)) = (s₁, ctx₁) := by
    split
    · exact ⟨{ s with parcelFlags := kParcelFlagDeviceUniqueId }, _, rfl, hc.increment _, rfl⟩
    · exact ⟨s, ctx, rfl, hc, rfl⟩
  obtain ⟨s₁, ctx₁, hs, hc₁, heq⟩ := hfirst
  simp only [matchProperty, heq]
  split
  · exact ⟨hs, hc₁⟩
  · split
    · exact ⟨hs, hc₁.increment _⟩
    · exact ⟨hs, hc₁⟩

theorem emitTryParcelDescriptor_frame (size : Nat) (descriptor : String)
    (tokenKind : ParcelTokenKind) (hit : Counter) (offsets : List Nat) (s : ParserScratch)
    (hc : ctx₀.SameButTelemetry ctx) :
    let r := emitTryParcelDescriptor size descriptor tokenKind hit offsets s ctx
    r.2.1.transaction = s.transaction ∧ ctx₀.SameButTelemetry r.2.2 := by
  induction offsets generalizing s ctx with
  | nil => exact ⟨rfl, hc⟩
  | cons tokenOffset offsets ih =>
    simp only [emitTryParcelDescriptor]
    cases descriptorForm s size descriptor tokenOffset with
    | none => exact ih s hc
    | some extra =>
      dsimp only
      split
      · split
        · exact ih _ (hc.increment hit)
        · exact matchProperty_frame (hc.increment hit)
      · exact ⟨rfl, hc.increment hit⟩

theorem scanParcel_frame (hc : ctx₀.SameButTelemetry ctx) :
    (scanParcel size s ctx).1.transaction = s.transaction ∧
      ctx₀.SameButTelemetry (scanParcel size s ctx).2 := by
  have h := emitTryParcelDescriptor_frame size kDrmPlugin .drmPlugin .parcelPluginHits
    tokenOffsets s hc
  simp only [scanParcel]
  split
  · exact h
  · exact ⟨h.1, h.2.increment _⟩

/-- **The capture changes counters and parcel words only.** -/
theorem emitCaptureParcelPrefix_frame (stream : StreamType) (command : UInt32) (u : UserMemory)
    (s : ParserScratch) (ctx : KernelCounterContext) :
    (emitCaptureParcelPrefix stream command u s ctx).1.transaction = s.transaction ∧
      ctx.SameButTelemetry (emitCaptureParcelPrefix stream command u s ctx).2 := by
  have hc : ctx.SameButTelemetry ctx := .rfl
  unfold emitCaptureParcelPrefix
  split
  · exact ⟨rfl, hc⟩
  · split
    · exact scanParcel_frame hc
    · split
      · exact ⟨rfl, hc.increment _⟩
      · dsimp only
        split
        · exact ⟨rfl, hc.increment _⟩
        · exact scanParcel_frame (hc.increment _)

end
end Drmid
