import Drmid.Hook.KnownBytes
import Drmid.Hook.Proof.Reply

/-!
# Stale scratch bytes are not read

Every load of a match is guarded by a size that covers it, so on a buffer whose copied bytes are
known each function of `KnownBytes` has the result of the one it is written after
(`knownRecord_eq`). The rest of the scratch is reset or stored before it is loaded, so two
recordings that start from different scratch areas do the same (`stale_scratch_unread`).
-/

namespace Drmid

/-! ## Loads from known bytes -/

namespace KnownBytes

/-- The first `size` bytes of the buffer are known. -/
def Agrees (k : KnownBytes) (size : Nat) (s : ParserScratch) : Prop :=
  ∀ i < size, k i = some (s.parcelBytes i)

section
variable {k : KnownBytes} {size off : Nat} {s : ParserScratch}

theorem Agrees.byte (h : k.Agrees size s) (hoff : off + 1 ≤ size) :
    k.byte off = some (s.parcelBytes off).toUInt32 := by
  simp [KnownBytes.byte, h off (by omega)]

theorem Agrees.half (h : k.Agrees size s) (hoff : off + 2 ≤ size) :
    k.half off = some (s.parcelHalf off).toUInt32 := by
  simp [KnownBytes.half, h off (by omega), h (off + 1) (by omega), ParserScratch.parcelHalf]

theorem Agrees.word (h : k.Agrees size s) (hoff : off + 4 ≤ size) :
    k.word off = some (s.parcelWord off) := by
  simp [KnownBytes.word, h off (by omega), h (off + 1) (by omega), h (off + 2) (by omega),
    h (off + 3) (by omega), ParserScratch.parcelWord, le32]

theorem agrees_fill (s : ParserScratch) (size : Nat) (data : Nat → UInt8) :
    (unknown.fill 0 size data).Agrees size (s.fillParcel 0 size data) := by
  intro i hi
  simp [fill, ParserScratch.fillParcel, hi]

/-! ## Matches -/

@[simp] theorem both_some (a b : Bool) : both (some a) (some b) = some (a && b) := by
  cases a <;> rfl

theorem guarded_some {fits b : Bool} {x : Option Bool} (h : fits = true → x = some b) :
    guarded fits x = some (fits && b) := by
  cases fits with
  | true => rw [guarded, if_pos rfl, h rfl, Bool.true_and]
  | false => rfl

theorem matchContents_known {load : Nat → Option UInt32} {read : Nat → UInt32} {stride : Nat}
    {cs : List Char} (h : ∀ i ≤ cs.length, load (off + i * stride) = some (read (off + i * stride))) :
    matchContents load stride off cs = some (emitMatchContents read stride off cs) := by
  have h0 : load off = some (read off) := by simpa using h 0 (Nat.zero_le _)
  induction cs generalizing off with
  | nil => simp [matchContents, emitMatchContents, loads, h0]
  | cons c cs ih =>
    have htail := ih (fun i hi => by
      have := h (i + 1) (by simpa using hi)
      rwa [Nat.add_mul, Nat.one_mul, Nat.add_comm (i * stride), ← Nat.add_assoc] at this) (by
        have := h 1 (by simp)
        rwa [Nat.one_mul] at this)
    rw [matchContents, emitMatchContents, htail, show loads load off c.val =
      some (read off == c.val) by simp [loads, h0], both_some]

theorem Agrees.utf16 (h : k.Agrees size s) {value : String}
    (hoff : off + (value.length + 1) * 2 ≤ size) :
    k.matchUtf16Contents off value = some (emitMatchUtf16Contents s off value) := by
  refine matchContents_known fun i hi => h.half ?_
  rw [String.length_toList] at hi
  omega

theorem Agrees.utf8 (h : k.Agrees size s) {value : String}
    (hoff : off + (value.length + 1) ≤ size) :
    k.matchUtf8Contents off value = some (emitMatchUtf8Contents s off value) := by
  refine matchContents_known fun i hi => h.byte ?_
  rw [String.length_toList] at hi
  omega

theorem Agrees.loads (h : k.Agrees size s) (hoff : off + 4 ≤ size) (value : UInt32) :
    KnownBytes.loads k.word off value = some (s.parcelWord off == value) := by
  simp [KnownBytes.loads, h.word hoff]

theorem Agrees.string (h : k.Agrees size s) {value : String}
    (hoff : off + 4 + (value.length + 1) * 2 ≤ size) :
    k.matchUtf16String off value = some (emitMatchUtf16String s off value) := by
  rw [matchUtf16String, h.loads (by omega), h.utf16 hoff, both_some, emitMatchUtf16String]

theorem Agrees.headered (h : k.Agrees size s) {value : String}
    (hoff : off + 8 + (value.length + 1) * 2 ≤ size) :
    k.matchHeaderedUtf16String off value = some (emitMatchHeaderedUtf16String s off value) := by
  have hmagic : k.matchMagic (off + 4) =
      some (kDomainMagics.contains (s.parcelWord (off + 4))) := by
    simp [matchMagic, h.word (show off + 4 + 4 ≤ size by omega)]
  rw [matchHeaderedUtf16String, h.loads (by omega), hmagic, both_some, h.utf16 hoff, both_some,
    emitMatchHeaderedUtf16String]

/-- The nine token offsets share this: each of the three forms is guarded by the size it reads. -/
theorem Agrees.descriptorForm (h : k.Agrees size s) (descriptor : String) (tokenOffset : Nat) :
    k.descriptorForm size descriptor tokenOffset =
      some (Drmid.descriptorForm s size descriptor tokenOffset) := by
  have hplain : guarded (descriptorEnd tokenOffset descriptor ≤ size)
      (k.matchUtf16String tokenOffset descriptor) = some (_ && _) :=
    guarded_some fun hfits => h.string (of_decide_eq_true hfits)
  have hheadered : guarded (descriptorEnd tokenOffset descriptor + 4 ≤ size)
      (k.matchHeaderedUtf16String tokenOffset descriptor) = some (_ && _) :=
    guarded_some fun hfits => h.headered (by
      have := of_decide_eq_true hfits
      unfold descriptorEnd at this
      omega)
  have hraw : guarded (descriptorEnd tokenOffset descriptor ≤ size)
      (k.matchUtf16Contents (tokenOffset + 4) descriptor) = some (_ && _) :=
    guarded_some fun hfits => h.utf16 (of_decide_eq_true hfits)
  simp [KnownBytes.descriptorForm, hplain, hheadered, hraw, Drmid.descriptorForm, apply_ite some]

theorem Agrees.propertyMatched (h : k.Agrees size s) (descriptor : String) (tokenOffset : Nat) :
    k.propertyMatched s.parcelTokenHeaderExtra size descriptor tokenOffset =
      some (Drmid.propertyMatched s size descriptor tokenOffset) := by
  unfold KnownBytes.propertyMatched Drmid.propertyMatched
  dsimp only
  split
  · exact guarded_some fun hfits => h.string (of_decide_eq_true hfits)
  · refine guarded_some fun hfits => h.string ?_
    have := of_decide_eq_true hfits
    omega

theorem anyOffset_some {found : Nat → Option Bool} {f : Nat → Bool} {offsets : List Nat}
    (h : ∀ off ∈ offsets, found off = some (f off)) :
    anyOffset found offsets = some (offsets.any f) := by
  induction offsets with
  | nil => rfl
  | cons off offsets ih =>
    have hrest := ih fun o ho => h o (List.mem_cons_of_mem _ ho)
    rw [anyOffset, h off List.mem_cons_self, hrest, List.any_cons]
    cases f off <;> rfl

theorem Agrees.rawPropertyFound (h : k.Agrees size s) :
    k.rawPropertyFound size = some (Drmid.rawPropertyFound s size) := by
  have hutf16 : anyOffset (fun off => guarded (off + (kDeviceUniqueId.length + 1) * 2 ≤ size)
      (k.matchUtf16Contents off kDeviceUniqueId)) rawOffsets = some (rawOffsets.any _) :=
    anyOffset_some fun _ _ => guarded_some fun hfits => h.utf16 (of_decide_eq_true hfits)
  have hutf8 : anyOffset (fun off => guarded (off + (kDeviceUniqueId.length + 1) ≤ size)
      (k.matchUtf8Contents off kDeviceUniqueId)) rawOffsets = some (rawOffsets.any _) :=
    anyOffset_some fun _ _ => guarded_some fun hfits => h.utf8 (of_decide_eq_true hfits)
  rw [KnownBytes.rawPropertyFound, hutf16, hutf8, Drmid.rawPropertyFound]
  cases rawOffsets.any _ <;> rfl

/-! ## The scan -/

variable {ctx : KernelCounterContext}

theorem Agrees.matchProperty (h : k.Agrees size s) (descriptor : String) (tokenOffset : Nat) :
    k.matchProperty size descriptor tokenOffset s ctx =
      some (Drmid.matchProperty size descriptor tokenOffset s ctx) := by
  simp only [KnownBytes.matchProperty, Drmid.matchProperty, h.propertyMatched]
  cases Drmid.propertyMatched s size descriptor tokenOffset with
  | true =>
    -- a match sets the flag, and the fallback is skipped
    have hflag : deviceUniqueIdFlag (markDeviceUniqueId s ctx).1.parcelFlags = true := by
      show deviceUniqueIdFlag kParcelFlagDeviceUniqueId = true
      decide
    dsimp only [Option.bind_eq_bind, Option.bind_some]
    simp only [if_true, hflag]
    rfl
  | false =>
    dsimp only [Option.bind_eq_bind, Option.bind_some]
    rw [h.rawPropertyFound]
    simp only [Bool.false_eq_true, if_false]
    split
    · rfl
    · cases Drmid.rawPropertyFound s size <;> rfl

theorem Agrees.tryParcelDescriptor (h : k.Agrees size s) (descriptor : String)
    (tokenKind : ParcelTokenKind) (hit : Counter) (offsets : List Nat) :
    k.tryParcelDescriptor size descriptor tokenKind hit offsets s ctx =
      some (emitTryParcelDescriptor size descriptor tokenKind hit offsets s ctx) := by
  induction offsets generalizing s ctx with
  | nil => rfl
  | cons tokenOffset offsets ih =>
    rw [KnownBytes.tryParcelDescriptor, h.descriptorForm, emitTryParcelDescriptor]
    cases Drmid.descriptorForm s size descriptor tokenOffset with
    | none => exact ih h
    | some extra =>
      have hnoted : k.Agrees size { s with
        parcelTokenHeaderExtra := extra
        parcelTokenKind := tokenKind
        parcelTokenOffset := UInt32.ofNat tokenOffset } := h
      dsimp only [Option.bind_eq_bind, Option.bind_some]
      split
      · split
        · exact ih hnoted
        · rw [hnoted.matchProperty]
          rfl
      · rfl

theorem Agrees.scanParcel (h : k.Agrees size s) :
    k.scanParcel size s ctx = some (Drmid.scanParcel size s ctx) := by
  rw [KnownBytes.scanParcel, h.tryParcelDescriptor, Drmid.scanParcel]
  dsimp only [Option.bind_eq_bind, Option.bind_some]
  split <;> rfl

end
end KnownBytes

open KnownBytes

/-! ## The recording -/

section
variable {ctx : KernelCounterContext}

theorem knownCapture_eq (stream : StreamType) (command : UInt32) (u : UserMemory)
    (s : ParserScratch) : knownCapture stream command u s ctx =
      some (emitCaptureParcelPrefix stream command u s ctx) := by
  unfold knownCapture emitCaptureParcelPrefix
  split
  · rfl
  · split
    · exact Agrees.scanParcel fun i hi => absurd hi (Nat.not_lt_zero i)
    · split
      · rfl
      · dsimp only
        cases u.copyFromUser s.transaction.buffer
          (min s.transaction.dataSize kParcelPrefixMaxBytes).toNat with
        | none => rfl
        | some data => exact Agrees.scanParcel (agrees_fill s _ data)

open ReplyState in
theorem knownHeader_eq (st : ReplyState) : knownHeader st = some (headerStage st) := by
  unfold knownHeader headerStage
  dsimp only
  split
  · rfl
  · split
    · rfl
    · cases st.user.copyFromUser st.scratch.transaction.buffer 8 with
      | none => rfl
      | some data =>
        have hfill := agrees_fill st.scratch 8 data
        dsimp only
        rw [hfill.word (by omega), hfill.word (by omega)]
        dsimp only [Option.bind_eq_bind, Option.bind_some]
        split
        · rfl
        · split
          · rfl
          · split <;> rfl

theorem knownReply_eq (requestId : UInt64) (requestFlags : UInt32) (st : ReplyState) :
    knownReply requestId requestFlags st =
      some (emitParseHalCorrelatedReply requestId requestFlags st) := by
  unfold knownReply emitParseHalCorrelatedReply
  cases ReplyState.captureStage requestId requestFlags st with
  | error e => rfl
  | ok st =>
    dsimp only
    rw [knownHeader_eq]
    rfl

/-- **No load meets a byte of an earlier command.** -/
theorem knownRecord_eq (t : TaskIdentity) (stream : StreamType) (command : UInt32)
    (acquired : Bool) (u : UserMemory) (s : ParserScratch) (ctx : KernelCounterContext) :
    knownRecord t stream command acquired u s ctx =
      some (emitRecordTransaction t stream command acquired u s ctx) := by
  have hbegin : knownBegin t stream command u s ctx =
      some (beginRecord t stream command u s ctx) := by
    unfold knownBegin beginRecord
    dsimp only
    by_cases hstream : stream = .br
    · rw [if_pos hstream, if_pos hstream, knownCapture_eq]
      rfl
    · rw [if_neg hstream, if_neg hstream]
      rfl
  have hparse : ∀ r ctx, knownParse u r ctx = some (parseRecord u r ctx) := by
    intro r ctx
    rw [knownParse, knownReply_eq]
    rfl
  rw [knownRecord, hbegin, emitRecordTransaction]
  dsimp only [Option.bind_eq_bind, Option.bind_some]
  cases isReply stream command with
  | true =>
    simp only [if_true, hparse]
    rfl
  | false => rfl

end

/-! ## Two scratch areas -/

/-- The same words, all but the parcel bytes and the two words that are stored before they are
loaded. -/
def SameWords (s s' : ParserScratch) : Prop :=
  ∃ bytes config generation, s' = { s with
    parcelBytes := bytes
    runtimeConfig := config
    halIdentityGeneration := generation }

theorem sameWords_reset {s s' : ParserScratch} (h : s'.transaction = s.transaction) :
    SameWords s.emitResetTransactionParseScratch s'.emitResetTransactionParseScratch :=
  ⟨s'.parcelBytes, s'.runtimeConfig, s'.halIdentityGeneration, by
    simp only [ParserScratch.emitResetTransactionParseScratch, h]⟩

/-! ### Requests -/

/-- What a scan of `size` bytes can see is the same. -/
structure SameParcel (size : Nat) (s s' : ParserScratch) : Prop where
  words : SameWords s s'
  bytes : ∀ i < size, s'.parcelBytes i = s.parcelBytes i

section
variable {size : Nat} {s s' : ParserScratch} {ctx : KernelCounterContext}

/-- Both areas agree with the bytes of the first. -/
theorem SameParcel.known (h : SameParcel size s s') :
    Agrees (fun i => some (s.parcelBytes i)) size s ∧
      Agrees (fun i => some (s.parcelBytes i)) size s' :=
  ⟨fun _ _ => rfl, fun i hi => congrArg some (h.bytes i hi).symm⟩

theorem SameParcel.descriptorForm (h : SameParcel size s s') (descriptor : String)
    (tokenOffset : Nat) : Drmid.descriptorForm s' size descriptor tokenOffset =
      Drmid.descriptorForm s size descriptor tokenOffset :=
  Option.some.inj ((h.known.2.descriptorForm descriptor tokenOffset).symm.trans
    (h.known.1.descriptorForm descriptor tokenOffset))

theorem SameParcel.rawPropertyFound (h : SameParcel size s s') :
    Drmid.rawPropertyFound s' size = Drmid.rawPropertyFound s size :=
  Option.some.inj (h.known.2.rawPropertyFound.symm.trans h.known.1.rawPropertyFound)

theorem SameParcel.propertyMatched (h : SameParcel size s s') (descriptor : String)
    (tokenOffset : Nat) : Drmid.propertyMatched s' size descriptor tokenOffset =
      Drmid.propertyMatched s size descriptor tokenOffset := by
  have hextra : s'.parcelTokenHeaderExtra = s.parcelTokenHeaderExtra := by
    obtain ⟨_, _, _, rfl⟩ := h.words
    rfl
  have hknown := h.known.2.propertyMatched descriptor tokenOffset
  rw [hextra, h.known.1.propertyMatched descriptor tokenOffset] at hknown
  exact (Option.some.inj hknown).symm

/-- What two scratch areas and the contexts that came with them have in common. -/
def SameOut (r r' : ParserScratch × KernelCounterContext) : Prop := SameWords r.1 r'.1 ∧ r'.2 = r.2

theorem SameWords.mark (h : SameWords s s') :
    SameOut (markDeviceUniqueId s ctx) (markDeviceUniqueId s' ctx) := by
  obtain ⟨bytes, config, generation, rfl⟩ := h
  exact ⟨⟨bytes, config, generation, rfl⟩, rfl⟩

theorem SameParcel.matchProperty (h : SameParcel size s s') (descriptor : String)
    (tokenOffset : Nat) :
    SameOut (Drmid.matchProperty size descriptor tokenOffset s ctx)
      (Drmid.matchProperty size descriptor tokenOffset s' ctx) := by
  have hflags : s'.parcelFlags = s.parcelFlags := by
    obtain ⟨_, _, _, rfl⟩ := h.words
    rfl
  have hmark : SameOut (markDeviceUniqueId s ctx) (markDeviceUniqueId s' ctx) := h.words.mark
  simp only [Drmid.matchProperty, h.propertyMatched]
  cases Drmid.propertyMatched s size descriptor tokenOffset with
  | true =>
    -- a match sets the flag, and the fallback is skipped
    have hflag : ∀ s, deviceUniqueIdFlag (markDeviceUniqueId s ctx).1.parcelFlags = true := by
      intro s
      show deviceUniqueIdFlag kParcelFlagDeviceUniqueId = true
      decide
    simp only [if_true, hflag]
    exact hmark
  | false =>
    simp only [Bool.false_eq_true, if_false, hflags, h.rawPropertyFound]
    split
    · exact ⟨h.words, rfl⟩
    · split
      · exact hmark
      · exact ⟨h.words, rfl⟩

variable (ctx) in
theorem SameParcel.tryParcelDescriptor (h : SameParcel size s s') (descriptor : String)
    (tokenKind : ParcelTokenKind) (hit : Counter) (offsets : List Nat) :
    let r := emitTryParcelDescriptor size descriptor tokenKind hit offsets s ctx
    let r' := emitTryParcelDescriptor size descriptor tokenKind hit offsets s' ctx
    r'.1 = r.1 ∧ SameOut r.2 r'.2 := by
  induction offsets generalizing s s' ctx with
  | nil => exact ⟨rfl, h.words, rfl⟩
  | cons tokenOffset offsets ih =>
    simp only [emitTryParcelDescriptor, h.descriptorForm]
    cases Drmid.descriptorForm s size descriptor tokenOffset with
    | none => exact ih _ h
    | some extra =>
      have hcode : s'.transaction.code = s.transaction.code := by
        obtain ⟨_, _, _, rfl⟩ := h.words
        rfl
      have hnoted : SameParcel size
          { s with
            parcelTokenHeaderExtra := extra
            parcelTokenKind := tokenKind
            parcelTokenOffset := UInt32.ofNat tokenOffset }
          { s' with
            parcelTokenHeaderExtra := extra
            parcelTokenKind := tokenKind
            parcelTokenOffset := UInt32.ofNat tokenOffset } := by
        refine ⟨?_, h.bytes⟩
        obtain ⟨bytes, config, generation, rfl⟩ := h.words
        exact ⟨bytes, config, generation, rfl⟩
      simp only [hcode]
      split
      · split
        · exact ih _ hnoted
        · exact ⟨rfl, hnoted.matchProperty descriptor tokenOffset⟩
      · exact ⟨rfl, hnoted.words, rfl⟩

theorem SameParcel.scanParcel (h : SameParcel size s s') :
    SameOut (Drmid.scanParcel size s ctx) (Drmid.scanParcel size s' ctx) := by
  have htry := h.tryParcelDescriptor ctx kDrmPlugin .drmPlugin .parcelPluginHits tokenOffsets
  simp only [Drmid.scanParcel]
  generalize emitTryParcelDescriptor size kDrmPlugin .drmPlugin .parcelPluginHits tokenOffsets s
    ctx = r at htry ⊢
  generalize emitTryParcelDescriptor size kDrmPlugin .drmPlugin .parcelPluginHits tokenOffsets s'
    ctx = r' at htry ⊢
  obtain ⟨hfound, hwords, hctx⟩ := htry
  rw [hfound, hctx]
  split
  · exact ⟨hwords, rfl⟩
  · exact ⟨hwords, rfl⟩

theorem SameWords.capture (h : SameWords s s') (stream : StreamType) (command : UInt32)
    (u : UserMemory) : SameOut (emitCaptureParcelPrefix stream command u s ctx)
      (emitCaptureParcelPrefix stream command u s' ctx) := by
  have htd : s'.transaction = s.transaction := by
    obtain ⟨_, _, _, rfl⟩ := h
    rfl
  unfold emitCaptureParcelPrefix
  rw [htd]
  split
  · exact ⟨h, rfl⟩
  · split
    · exact SameParcel.scanParcel ⟨h, fun i hi => absurd hi (Nat.not_lt_zero i)⟩
    · split
      · exact ⟨h, rfl⟩
      · dsimp only
        cases u.copyFromUser s.transaction.buffer
          (min s.transaction.dataSize kParcelPrefixMaxBytes).toNat with
        | none => exact ⟨h, rfl⟩
        | some data =>
          refine SameParcel.scanParcel ⟨?_, fun i hi => ?_⟩
          · obtain ⟨_, config, generation, rfl⟩ := h
            exact ⟨_, config, generation, rfl⟩
          · simp [ParserScratch.fillParcel, hi]

end

/-! ### Replies -/

/-- Same memory, context and words. -/
def SameReply (st st' : ReplyState) : Prop :=
  ∃ bytes config generation, st' = { st with scratch := { st.scratch with
    parcelBytes := bytes
    runtimeConfig := config
    halIdentityGeneration := generation } }

/-- The same from the capture of the config slot on: the slot is the same too. -/
def SameParse (st st' : ReplyState) : Prop :=
  ∃ bytes generation, st' = { st with scratch := { st.scratch with
    parcelBytes := bytes
    halIdentityGeneration := generation } }

/-- Two results at one label, or two parses that run on. -/
def SameStage : Except (ReplyLabel × ReplyState) ReplyState →
    Except (ReplyLabel × ReplyState) ReplyState → Prop
  | .ok st, .ok st' => SameParse st st'
  | .error (label, st), .error (label', st') => label' = label ∧ SameReply st st'
  | _, _ => False

section
open ReplyState

variable {st st' : ReplyState}

theorem SameParse.reply (h : SameParse st st') : SameReply st st' := by
  obtain ⟨bytes, generation, rfl⟩ := h
  exact ⟨bytes, _, generation, rfl⟩

theorem SameReply.finish (h : SameReply st st') (label : ReplyLabel) :
    SameReply (st.finish label) (st'.finish label) := by
  obtain ⟨bytes, config, generation, rfl⟩ := h
  cases label <;> exact ⟨bytes, config, generation, rfl⟩

theorem SameStage.bind {x x' : Except (ReplyLabel × ReplyState) ReplyState} {f : Stage}
    (h : SameStage x x') (hf : ∀ st st', SameParse st st' → SameStage (f st) (f st')) :
    SameStage (x >>= f) (x' >>= f) := by
  cases x with
  | ok st =>
    cases x' with
    | ok st' => exact hf st st' h
    | error e => exact h.elim
  | error e =>
    cases x' with
    | ok st' => exact h.elim
    | error e' => exact h

theorem captureStage_same (requestId : UInt64) (requestFlags : UInt32) {s s' : ParserScratch}
    (h : SameWords s s') (u : UserMemory) (ctx : KernelCounterContext) :
    SameStage (captureStage requestId requestFlags ⟨u, s, ctx⟩)
      (captureStage requestId requestFlags ⟨u, s', ctx⟩) := by
  obtain ⟨bytes, config, generation, rfl⟩ := h
  unfold captureStage
  dsimp only
  split
  · exact ⟨rfl, bytes, config, generation, rfl⟩
  · split
    · exact ⟨rfl, bytes, config, generation, rfl⟩
    · exact ⟨bytes, generation, rfl⟩

theorem headerStage_same (h : SameParse st st') :
    SameStage (headerStage st) (headerStage st') := by
  obtain ⟨bytes, generation, rfl⟩ := h
  unfold headerStage
  dsimp only
  split
  · exact ⟨rfl, bytes, _, generation, rfl⟩
  · split
    · exact ⟨rfl, bytes, _, generation, rfl⟩
    · cases st.user.copyFromUser st.scratch.transaction.buffer 8 with
      | none => exact ⟨rfl, bytes, _, generation, rfl⟩
      | some data =>
        -- both areas hold the eight bytes just copied
        have hload : ∀ (s : ParserScratch) (k : Nat), k + 4 ≤ 8 →
            (s.fillParcel 0 8 data).parcelWord k = le32 fun i => data (k + i) := by
          intro s k hk
          have := s.parcelWord_fill 0 data hk
          rwa [Nat.zero_add] at this
        dsimp only
        simp only [hload _ 0 (by omega), hload _ 4 (by omega)]
        split
        · exact ⟨rfl, _, _, generation, rfl⟩
        · split
          · exact ⟨rfl, _, _, generation, rfl⟩
          · split
            · exact ⟨rfl, _, _, generation, rfl⟩
            · exact ⟨_, generation, rfl⟩

theorem contentStage_same (h : SameParse st st') :
    SameStage (contentStage st) (contentStage st') := by
  obtain ⟨bytes, generation, rfl⟩ := h
  unfold contentStage
  dsimp only
  cases st.user.copyFromUser (st.scratch.transaction.buffer + 8) 32 with
  | none => exact ⟨rfl, bytes, _, generation, rfl⟩
  | some data => exact ⟨_, generation, rfl⟩

/-- The captured slot is one and the same. -/
theorem SameParse.config (h : SameParse st st') : st'.config = st.config := by
  obtain ⟨bytes, generation, rfl⟩ := h
  rfl

theorem lengthStage_same (h : SameParse st st') :
    SameStage (lengthStage st) (lengthStage st') := by
  unfold lengthStage
  rw [h.config]
  split
  · exact ⟨rfl, h.reply⟩
  · exact h

theorem modeStage_same (h : SameParse st st') : SameStage (modeStage st) (modeStage st') := by
  unfold modeStage
  rw [h.config]
  split
  · exact ⟨rfl, h.reply⟩
  · exact h

theorem copyStage_same (requestId : UInt64) (h : SameParse st st') :
    SameStage (copyStage requestId st) (copyStage requestId st') := by
  have hconfig := h.config
  unfold copyStage
  rw [hconfig]
  obtain ⟨bytes, generation, rfl⟩ := h
  dsimp only
  cases st.user.copyToUser (st.scratch.transaction.buffer + 8)
      (st.config.virtualId.toList.take 32) with
  | none => exact ⟨rfl, bytes, _, generation, rfl⟩
  | some user => exact ⟨bytes, generation, rfl⟩

/-- What a parse leaves does not depend on what the scratch area held. -/
theorem emitParseHalCorrelatedReply_same (requestId : UInt64) (requestFlags : UInt32)
    {s s' : ParserScratch} (h : SameWords s s') (u : UserMemory) (ctx : KernelCounterContext) :
    SameReply (emitParseHalCorrelatedReply requestId requestFlags ⟨u, s, ctx⟩)
      (emitParseHalCorrelatedReply requestId requestFlags ⟨u, s', ctx⟩) := by
  have hstages := (captureStage_same requestId requestFlags h u ctx).bind fun _ _ h =>
    (headerStage_same h).bind fun _ _ h => (contentStage_same h).bind fun _ _ h =>
      (lengthStage_same h).bind fun _ _ h => (modeStage_same h).bind fun _ _ h =>
        copyStage_same requestId h
  unfold emitParseHalCorrelatedReply
  revert hstages
  generalize (captureStage requestId requestFlags ⟨u, s, ctx⟩ >>= _) = x
  generalize (captureStage requestId requestFlags ⟨u, s', ctx⟩ >>= _) = x'
  intro hx
  cases x with
  | ok st =>
    cases x' with
    | ok st' => exact hx.reply
    | error e => exact hx.elim
  | error e =>
    cases x' with
    | ok st' => exact hx.elim
    | error e' =>
      obtain ⟨label, st⟩ := e
      obtain ⟨label', st'⟩ := e'
      obtain ⟨rfl, hsame⟩ := hx
      exact hsame.finish label'

end

/-! ### The recording -/

/-- Two recordings that differ in scratch words nothing loads. -/
def SameRecording (r r' : Recording) : Prop :=
  ∃ s', SameWords r.scratch s' ∧ r' = { r with scratch := s' }

section
variable {r r' : Recording} {u : UserMemory} (ctx : KernelCounterContext)

theorem SameRecording.words (h : SameRecording r r') : SameWords r.scratch r'.scratch := by
  obtain ⟨s', hwords, rfl⟩ := h
  exact hwords

theorem SameWords.pop {s s' : ParserScratch} (h : SameWords s s') (task : UInt64)
    (acquired : Bool) :
    let p := emitPendingPop task acquired false s ctx
    ∃ s'', SameWords p.scratch s'' ∧
      emitPendingPop task acquired false s' ctx = { p with scratch := s'' } := by
  obtain ⟨bytes, config, generation, rfl⟩ := h
  unfold emitPendingPop popMiss
  cases acquired with
  | false => exact ⟨_, ⟨bytes, config, generation, rfl⟩, rfl⟩
  | true =>
    simp only [Bool.not_true, Bool.false_eq_true, if_false]
    cases popScan ctx.pending task with
    | none => exact ⟨_, ⟨bytes, config, generation, rfl⟩, rfl⟩
    | some w =>
      dsimp only
      split
      · exact ⟨_, ⟨bytes, config, generation, rfl⟩, rfl⟩
      · split
        · split
          · exact ⟨_, ⟨bytes, config, _, rfl⟩, rfl⟩
          · exact ⟨_, ⟨bytes, config, _, rfl⟩, rfl⟩
        · exact ⟨_, ⟨bytes, config, _, rfl⟩, rfl⟩

theorem SameRecording.pop (h : SameRecording r r') (acquired : Bool) :
    SameRecording (popRecord acquired r ctx).1 (popRecord acquired r' ctx).1 ∧
      (popRecord acquired r' ctx).2 = (popRecord acquired r ctx).2 := by
  obtain ⟨s', hwords, rfl⟩ := h
  obtain ⟨s'', hwords', hpop⟩ := hwords.pop ctx r.task.kaddr acquired
  dsimp only [popRecord]
  rw [hpop]
  exact ⟨⟨s'', hwords', rfl⟩, rfl⟩

theorem SameRecording.parse (h : SameRecording r r') :
    SameRecording (parseRecord u r ctx).1 (parseRecord u r' ctx).1 ∧
      (parseRecord u r' ctx).2 = (parseRecord u r ctx).2 := by
  obtain ⟨s', hwords, rfl⟩ := h
  obtain ⟨bytes, config, generation, hreply⟩ :=
    emitParseHalCorrelatedReply_same r.requestId r.requestFlags hwords u ctx
  dsimp only [parseRecord]
  rw [hreply]
  exact ⟨⟨_, ⟨bytes, config, generation, rfl⟩, rfl⟩, rfl⟩

theorem SameRecording.reserve (h : SameRecording r r') :
    SameRecording (reserveRecord r ctx).1 (reserveRecord r' ctx).1 ∧
      (reserveRecord r' ctx).2 = (reserveRecord r ctx).2 := by
  obtain ⟨s', ⟨bytes, config, generation, rfl⟩, rfl⟩ := h
  exact ⟨⟨_, ⟨bytes, config, generation, rfl⟩, rfl⟩, rfl⟩

theorem SameRecording.push (h : SameRecording r r') (acquired : Bool) :
    SameRecording (pushRecord acquired r ctx).1 (pushRecord acquired r' ctx).1 ∧
      (pushRecord acquired r' ctx).2 = (pushRecord acquired r ctx).2 := by
  obtain ⟨s', ⟨bytes, config, generation, rfl⟩, rfl⟩ := h
  unfold pushRecord Recording.recognised emitPendingPush
  dsimp only
  split
  · split
    · exact ⟨⟨_, ⟨bytes, config, generation, rfl⟩, rfl⟩, rfl⟩
    · split
      · exact ⟨⟨_, ⟨bytes, config, generation, rfl⟩, rfl⟩, rfl⟩
      · split
        · exact ⟨⟨_, ⟨bytes, config, generation, rfl⟩, rfl⟩, rfl⟩
        · exact ⟨⟨_, ⟨bytes, config, _, rfl⟩, rfl⟩, rfl⟩
  · exact ⟨⟨_, ⟨bytes, config, generation, rfl⟩, rfl⟩, rfl⟩

theorem SameRecording.publish (h : SameRecording r r') :
    SameRecording (publishRecord r ctx).1 (publishRecord r' ctx).1 ∧
      (publishRecord r' ctx).2 = (publishRecord r ctx).2 := by
  obtain ⟨s', ⟨bytes, config, generation, rfl⟩, rfl⟩ := h
  exact ⟨⟨_, ⟨bytes, config, generation, rfl⟩, rfl⟩, rfl⟩

theorem beginRecord_same {s s' : ParserScratch} (h : s'.transaction = s.transaction)
    (t : TaskIdentity) (stream : StreamType) (command : UInt32) (u : UserMemory) :
    SameRecording (beginRecord t stream command u s ctx).1
        (beginRecord t stream command u s' ctx).1 ∧
      (beginRecord t stream command u s' ctx).2 = (beginRecord t stream command u s ctx).2 := by
  have hwords := sameWords_reset h
  by_cases hstream : stream = .br
  · obtain ⟨hcapture, hctx⟩ := hwords.capture stream command u
    simp only [beginRecord, if_pos hstream]
    exact ⟨⟨_, hcapture, rfl⟩, hctx⟩
  · simp only [beginRecord, if_neg hstream]
    exact ⟨⟨_, hwords, rfl⟩, trivial⟩

/-- The stages from the reservation on. -/
theorem SameRecording.tail (h : SameRecording r r') (acquired request : Bool) :
    let p := reserveRecord r ctx
    let p' := reserveRecord r' ctx
    let q := if request then pushRecord acquired p.1 p.2 else p
    let q' := if request then pushRecord acquired p'.1 p'.2 else p'
    SameRecording (publishRecord q.1 q.2).1 (publishRecord q'.1 q'.2).1 ∧
      (publishRecord q'.1 q'.2).2 = (publishRecord q.1 q.2).2 := by
  have hreserve := h.reserve ctx
  generalize reserveRecord r ctx = p at hreserve ⊢
  generalize reserveRecord r' ctx = p' at hreserve ⊢
  obtain ⟨r₁, ctx₁⟩ := p
  obtain ⟨r₁', ctx₁'⟩ := p'
  obtain ⟨hr, hctx⟩ := hreserve
  dsimp only at hr hctx ⊢
  subst hctx
  cases request with
  | true =>
    have hpush := hr.push ctx₁' acquired
    simp only [if_true]
    rw [hpush.2]
    exact hpush.1.publish _
  | false => exact hr.publish _

end

/-- A recording that starts from another scratch area. -/
theorem emitRecordTransaction_same {s s' : ParserScratch} (h : s'.transaction = s.transaction)
    (t : TaskIdentity) (stream : StreamType) (command : UInt32) (acquired : Bool)
    (u : UserMemory) (ctx : KernelCounterContext) :
    let out := emitRecordTransaction t stream command acquired u s ctx
    let out' := emitRecordTransaction t stream command acquired u s' ctx
    out'.1 = out.1 ∧ SameWords out.2.1 out'.2.1 ∧ out'.2.2 = out.2.2 := by
  have hbegin := beginRecord_same ctx h t stream command u
  unfold emitRecordTransaction
  generalize beginRecord t stream command u s ctx = p at hbegin ⊢
  generalize beginRecord t stream command u s' ctx = p' at hbegin ⊢
  obtain ⟨r, ctx₁⟩ := p
  obtain ⟨r', ctx₁'⟩ := p'
  obtain ⟨hr, hctx⟩ := hbegin
  dsimp only at hr hctx
  subst hctx
  cases isReply stream command with
  | true =>
    have hpop := hr.pop ctx₁' acquired
    simp only [if_true]
    generalize popRecord acquired r ctx₁' = q at hpop ⊢
    generalize popRecord acquired r' ctx₁' = q' at hpop ⊢
    obtain ⟨r₂, ctx₂⟩ := q
    obtain ⟨r₂', ctx₂'⟩ := q'
    obtain ⟨hr₂, hctx⟩ := hpop
    dsimp only at hr₂ hctx
    subst hctx
    have hparse := hr₂.parse (u := u) ctx₂'
    dsimp only
    generalize parseRecord u r₂ ctx₂' = q at hparse ⊢
    generalize parseRecord u r₂' ctx₂' = q' at hparse ⊢
    obtain ⟨r₃, u₃, ctx₃⟩ := q
    obtain ⟨r₃', u₃', ctx₃'⟩ := q'
    obtain ⟨hr₃, hrest⟩ := hparse
    cases hrest
    have htail := hr₃.tail ctx₃ acquired (isRequest stream command)
    exact ⟨rfl, htail.1.words, htail.2⟩
  | false =>
    have htail := hr.tail ctx₁' acquired (isRequest stream command)
    exact ⟨rfl, htail.1.words, htail.2⟩

/-- **Stale scratch bytes do not matter.** A recording leaves the same user memory, the same
context and the same scratch words whatever the scratch area held, and loads no byte of the parcel
buffer but those it has copied. -/
theorem stale_scratch_unread (t : TaskIdentity) (stream : StreamType) (command : UInt32)
    (acquired : Bool) (td : BinderTransactionData) (u : UserMemory) (s s' : ParserScratch)
    (ctx : KernelCounterContext) :
    let out := emitRecordTransaction t stream command acquired u { s with transaction := td } ctx
    let out' := emitRecordTransaction t stream command acquired u { s' with transaction := td } ctx
    (out'.1 = out.1 ∧ SameWords out.2.1 out'.2.1 ∧ out'.2.2 = out.2.2) ∧
      knownRecord t stream command acquired u { s with transaction := td } ctx = some out :=
  ⟨@emitRecordTransaction_same { s with transaction := td } { s' with transaction := td } rfl
    t stream command acquired u ctx, knownRecord_eq ..⟩

end Drmid
