import Mathlib.Data.List.GetD
import Drmid.Hook.RequestParcel

/-!
# Recognition is exact

A match compares one unit after the other (`emitMatchUtf16Contents_iff`), so a window that covers a
unit of another value does not match. In a request parcel every window before the descriptor covers
the length word 31, and no unit of the descriptor begins the property name; so the only match of
the descriptor is where it stands, and the only match of the name is where the argument stands
(`request_recognised_exactly`).
-/

namespace Drmid

/-! ## Matches unit by unit -/

/-- Unit `j` of a string, 0 from its end on. -/
def unitAt (value : String) (j : Nat) : UInt32 := (value.toList.map (·.val)).getD j 0

/-! ### The two strings, computed once -/

theorem toList_drmPlugin : kDrmPlugin.toList =
      ['a', 'n', 'd', 'r', 'o', 'i', 'd', '.', 'h', 'a', 'r', 'd', 'w', 'a', 'r', 'e', '.', 'd',
      'r', 'm', '.', 'I', 'D', 'r', 'm', 'P', 'l', 'u', 'g', 'i', 'n'] :=
  String.toList_ofList

theorem toList_name : kDeviceUniqueId.toList =
      ['d', 'e', 'v', 'i', 'c', 'e', 'U', 'n', 'i', 'q', 'u', 'e', 'I', 'd'] :=
  String.toList_ofList

theorem length_drmPlugin : kDrmPlugin.length = 31 ∧ (units kDrmPlugin).length = 31 := by
  rw [← String.length_toList, units, toList_drmPlugin]
  decide

theorem length_name : kDeviceUniqueId.length = 14 ∧ (units kDeviceUniqueId).length = 14 := by
  rw [← String.length_toList, units, toList_name]
  decide

theorem unitAt_drmPlugin : ∀ j ≤ 31,
    (((units kDrmPlugin).getD j 0).toUInt32 = unitAt kDrmPlugin j) := by
  rw [units, funext (unitAt.eq_1 kDrmPlugin), toList_drmPlugin]
  decide

theorem unitAt_name : ∀ j ≤ 14,
    (((units kDeviceUniqueId).getD j 0).toUInt32 = unitAt kDeviceUniqueId j) := by
  rw [units, funext (unitAt.eq_1 kDeviceUniqueId), toList_name]
  decide

/-- No unit of either string is the descriptor's length. -/
theorem unitAt_ne_31 : (∀ j ≤ 31, unitAt kDrmPlugin j ≠ 31) ∧
    ∀ j ≤ 14, unitAt kDeviceUniqueId j ≠ 31 := by
  simp only [unitAt, toList_drmPlugin, toList_name]
  decide

/-- The descriptor does not start like the third unit of either string. -/
theorem first_unit : ((units kDrmPlugin).getD 0 0).toUInt32 ≠ unitAt kDrmPlugin 2 ∧
    ((units kDrmPlugin).getD 0 0).toUInt32 ≠ unitAt kDeviceUniqueId 2 ∧
    ((units kDrmPlugin).getD 0 0).toUInt8.toUInt32 ≠ unitAt kDeviceUniqueId 4 := by
  simp only [unitAt, units, toList_drmPlugin, toList_name]
  decide

/-- No character of the descriptor starts the property name. -/
theorem name_not_in_descriptor : ∀ j ≤ 30, unitAt kDrmPlugin j = unitAt kDeviceUniqueId 0 →
    unitAt kDrmPlugin (j + 1) ≠ unitAt kDeviceUniqueId 1 := by
  simp only [unitAt, toList_drmPlugin, toList_name]
  decide

/-- High bytes of the descriptor are zero, and the name has no zero for its second byte. -/
theorem high_zero : ∀ j ≤ 31,
    ((units kDrmPlugin).getD j 0 >>> 8).toUInt8.toUInt32 ≠ unitAt kDeviceUniqueId 1 := by
  simp only [unitAt, units, toList_drmPlugin, toList_name]
  decide

/-! ### Matches -/

theorem emitMatchContents_iff {read : Nat → UInt32} {stride off : Nat} {cs : List Char} :
    emitMatchContents read stride off cs = true ↔
      ∀ j ≤ cs.length, read (off + j * stride) = (cs.map (·.val)).getD j 0 := by
  induction cs generalizing off with
  | nil =>
    simp only [emitMatchContents, beq_iff_eq, List.length_nil]
    constructor
    · intro h j hj
      obtain rfl : j = 0 := by omega
      simpa using h
    · intro h
      simpa using h 0 (by omega)
  | cons c cs ih =>
    simp only [emitMatchContents, Bool.and_eq_true, beq_iff_eq, ih]
    constructor
    · rintro ⟨hc, hcs⟩ j hj
      cases j with
      | zero => simpa using hc
      | succ j =>
        have := hcs j (by simpa using hj)
        rw [Nat.add_mul, Nat.one_mul, Nat.add_comm (j * stride), ← Nat.add_assoc, this]
        simp
    · intro h
      refine ⟨by simpa using h 0 (by omega), fun j hj => ?_⟩
      have := h (j + 1) (by simpa using hj)
      rw [Nat.add_mul, Nat.one_mul, Nat.add_comm (j * stride), ← Nat.add_assoc] at this
      simpa using this

section
variable {s : ParserScratch} {off : Nat} {value : String}

theorem emitMatchUtf16Contents_iff : emitMatchUtf16Contents s off value = true ↔
    ∀ j ≤ value.length, (s.parcelHalf (off + j * 2)).toUInt32 = unitAt value j := by
  rw [emitMatchUtf16Contents, emitMatchContents_iff, String.length_toList]
  rfl

theorem emitMatchUtf8Contents_iff : emitMatchUtf8Contents s off value = true ↔
    ∀ j ≤ value.length, (s.parcelBytes (off + j)).toUInt32 = unitAt value j := by
  rw [emitMatchUtf8Contents, emitMatchContents_iff, String.length_toList]
  simp only [Nat.mul_one]
  rfl

/-- One unit that differs is enough. -/
theorem not_match_utf16 (j : Nat) (hj : j ≤ value.length)
    (h : (s.parcelHalf (off + j * 2)).toUInt32 ≠ unitAt value j) :
    emitMatchUtf16Contents s off value = false :=
  Bool.eq_false_iff.2 fun hm => h (emitMatchUtf16Contents_iff.1 hm j hj)

theorem not_match_utf8 (j : Nat) (hj : j ≤ value.length)
    (h : (s.parcelBytes (off + j)).toUInt32 ≠ unitAt value j) :
    emitMatchUtf8Contents s off value = false :=
  Bool.eq_false_iff.2 fun hm => h (emitMatchUtf8Contents_iff.1 hm j hj)

end

/-! ## Bytes in the buffer -/

/-- The buffer holds `l` from `off` on. -/
def Holds (s : ParserScratch) (off : Nat) (l : List UInt8) : Prop :=
  ∀ i < l.length, s.parcelBytes (off + i) = l.getD i 0

section
variable {s : ParserScratch} {off : Nat} {l l' : List UInt8}

theorem holds_append : Holds s off (l ++ l') ↔ Holds s off l ∧ Holds s (off + l.length) l' := by
  constructor
  · intro h
    refine ⟨fun i hi => ?_, fun i hi => ?_⟩
    · rw [h i (by rw [List.length_append]; omega), List.getD_append _ _ _ _ hi]
    · rw [Nat.add_assoc, h _ (by rw [List.length_append]; omega),
        List.getD_append_right _ _ _ _ (by omega), Nat.add_sub_cancel_left]
  · rintro ⟨h, h'⟩ i hi
    rw [List.length_append] at hi
    by_cases hlt : i < l.length
    · rw [h i hlt, List.getD_append _ _ _ _ hlt]
    · rw [List.getD_append_right _ _ _ _ (by omega), ← h' _ (by omega)]
      congr 1
      omega

theorem Holds.of_prefix (h : Holds s off l') (hl : l <+: l') : Holds s off l := by
  obtain ⟨m, rfl⟩ := hl
  exact (holds_append.1 h).1

theorem Holds.word {w : UInt32} (h : Holds s off (wordBytes w)) : s.parcelWord off = w := by
  rw [ParserScratch.parcelWord, ← le32_leBytes w]
  exact le32_congr fun i hi => h i (by simpa [wordBytes] using hi)

/-- Two bytes make a unit. -/
theorem unit_halves (w : BitVec 16) : ((w.setWidth 8).setWidth 16) |||
    ((w >>> 8).setWidth 8 |>.setWidth 16 |>.shiftLeft 8) = w := by
  apply BitVec.eq_of_getLsbD_eq
  intro i hi
  have h0 := getLsbD_chunk w 8 0 0 hi
  rw [BitVec.ushiftRight_zero, shiftLeft_zero'] at h0
  rw [BitVec.getLsbD_or, h0, getLsbD_chunk w 8 8 0 hi, Nat.add_zero]
  cases w.getLsbD i with
  | false => simp
  | true => simp; omega

theorem Holds.unit {unit : UInt16} (h : Holds s off (unitBytes unit)) :
    s.parcelHalf off = unit ∧ s.parcelBytes off = unit.toUInt8 ∧
      s.parcelBytes (off + 1) = (unit >>> 8).toUInt8 := by
  have h0 : s.parcelBytes off = unit.toUInt8 := h 0 (by simp [unitBytes])
  have h1 : s.parcelBytes (off + 1) = (unit >>> 8).toUInt8 := h 1 (by simp [unitBytes])
  refine ⟨?_, h0, h1⟩
  rw [ParserScratch.parcelHalf, h0, h1]
  exact UInt16.eq_of_toBitVec_eq (unit_halves unit.toBitVec)

/-- The units of a terminated string, and the low and high byte of each. -/
theorem Holds.units {us : List UInt16} (h : Holds s off (terminated us)) {j : Nat}
    (hj : j ≤ us.length) : s.parcelHalf (off + j * 2) = us.getD j 0 ∧
      s.parcelBytes (off + j * 2) = (us.getD j 0).toUInt8 ∧
      s.parcelBytes (off + j * 2 + 1) = (us.getD j 0 >>> 8).toUInt8 := by
  induction us generalizing off j with
  | nil =>
    obtain rfl : j = 0 := by simpa using hj
    exact Holds.unit h
  | cons unit us ih =>
    have hsplit : Holds s off (unitBytes unit ++ terminated us) := h
    rw [holds_append] at hsplit
    cases j with
    | zero => simpa using hsplit.1.unit
    | succ j =>
      have := ih hsplit.2 (j := j) (by simpa using hj)
      rwa [show off + (unitBytes unit).length + j * 2 = off + (j + 1) * 2 by
        simp [unitBytes]; omega] at this

end
/-! ## The scan -/

section
variable {s : ParserScratch} {ctx : KernelCounterContext} {size : Nat}

/-- The scratch at label `descriptor_ready`. -/
def ParserScratch.noted (s : ParserScratch) (off : Nat) (extra : UInt32) : ParserScratch :=
  { s with
    parcelTokenHeaderExtra := extra
    parcelTokenKind := .drmPlugin
    parcelTokenOffset := UInt32.ofNat off }

/-- Under the transaction code the search ends at the first token offset with a descriptor. -/
theorem emitTryParcelDescriptor_eq (hit : Counter) (offsets : List Nat)
    (hcode : s.transaction.code = kGetPropertyByteArrayTransactionCode) :
    emitTryParcelDescriptor size kDrmPlugin .drmPlugin hit offsets s ctx =
      match offsets.findSome? fun off =>
        (descriptorForm s size kDrmPlugin off).map fun extra => (off, extra) with
      | none => (false, s, ctx)
      | some (off, extra) => (true, matchProperty size kDrmPlugin off (s.noted off extra)
          (ctx.emitCounterIncrement hit)) := by
  induction offsets with
  | nil => rfl
  | cons off offsets ih =>
    rw [emitTryParcelDescriptor, List.findSome?_cons]
    cases descriptorForm s size kDrmPlugin off with
    | none => exact ih
    | some extra =>
      simp only [if_true, hcode, ne_eq, not_true, if_false, Option.map_some]
      rfl

/-- Under any other code no flag is set. -/
theorem emitTryParcelDescriptor_other (hit : Counter) (offsets : List Nat)
    (hcode : s.transaction.code ≠ kGetPropertyByteArrayTransactionCode) :
    (emitTryParcelDescriptor size kDrmPlugin .drmPlugin hit offsets s ctx).2.1.parcelFlags =
      s.parcelFlags := by
  induction offsets generalizing s ctx with
  | nil => rfl
  | cons off offsets ih =>
    rw [emitTryParcelDescriptor]
    cases descriptorForm s size kDrmPlugin off with
    | none => exact ih hcode
    | some extra =>
      simp only [if_true, if_pos hcode]
      exact ih hcode

/-- The flag is set by the property match or by the fallback. -/
theorem matchProperty_flag {tokenOffset : Nat} (hflags : s.parcelFlags = 0) :
    deviceUniqueIdFlag (matchProperty size kDrmPlugin tokenOffset s ctx).1.parcelFlags = true ↔
      propertyMatched s size kDrmPlugin tokenOffset = true ∨ rawPropertyFound s size = true := by
  have hmark : ∀ s, deviceUniqueIdFlag (markDeviceUniqueId s ctx).1.parcelFlags = true := by
    intro s
    show deviceUniqueIdFlag kParcelFlagDeviceUniqueId = true
    decide
  have hclear : deviceUniqueIdFlag s.parcelFlags = false := by
    rw [hflags]
    decide
  simp only [matchProperty]
  cases propertyMatched s size kDrmPlugin tokenOffset with
  | true => simp only [if_true, hmark, true_or]
  | false =>
    simp only [Bool.false_eq_true, if_false, hclear, false_or]
    split
    · rename_i hraw
      simp only [hmark, hraw]
    · rename_i hraw
      simp only [hclear, hraw, Bool.false_eq_true]

/-- **What a scan recognises.** -/
theorem scanParcel_flag (hflags : s.parcelFlags = 0) :
    deviceUniqueIdFlag (scanParcel size s ctx).1.parcelFlags = true ↔
      s.transaction.code = kGetPropertyByteArrayTransactionCode ∧
        ∃ off extra, recognised s size = some (off, extra) ∧
          (propertyMatched (s.noted off extra) size kDrmPlugin off = true ∨
            rawPropertyFound s size = true) := by
  have hscan : (scanParcel size s ctx).1 = (emitTryParcelDescriptor size kDrmPlugin .drmPlugin
      .parcelPluginHits tokenOffsets s ctx).2.1 := by
    simp only [scanParcel]
    split <;> rfl
  have hclear : deviceUniqueIdFlag s.parcelFlags = false := by
    rw [hflags]
    decide
  rw [hscan]
  by_cases hcode : s.transaction.code = kGetPropertyByteArrayTransactionCode
  · rw [emitTryParcelDescriptor_eq _ _ hcode, ← recognised]
    cases hr : recognised s size with
    | none => simp [hclear]
    | some p =>
      obtain ⟨off, extra⟩ := p
      dsimp only
      rw [matchProperty_flag (s := s.noted off extra) hflags]
      constructor
      · intro h
        exact ⟨hcode, off, extra, rfl, h⟩
      · rintro ⟨-, off', extra', heq, h⟩
        cases heq
        exact h
  · rw [emitTryParcelDescriptor_other _ _ hcode, hclear]
    simp [hcode]

end
theorem descriptorEnd_eq (off : Nat) : descriptorEnd off kDrmPlugin = off + 68 := rfl

/-- The property match looks right behind the descriptor and its header. -/
theorem propertyMatched_noted {s : ParserScratch} {size off : Nat} {extra : UInt32}
    (hoff : off % 4 = 0) : propertyMatched (s.noted off extra) size kDrmPlugin off =
      (decide (off + 68 + (if extra = 0 then 0 else 4) + 34 ≤ size) &&
        emitMatchUtf16String s (off + 68 + if extra = 0 then 0 else 4) kDeviceUniqueId) := by
  have halign : align4 (descriptorEnd off kDrmPlugin) = off + 68 := by
    rw [descriptorEnd_eq, align4]
    omega
  have hextra : (s.noted off extra).parcelTokenHeaderExtra = extra := rfl
  unfold propertyMatched
  rw [hextra, halign, show (kDeviceUniqueId.length + 1) * 2 = 30 by decide]
  split
  · rfl
  · rw [show off + 68 + 4 + 30 + 4 = off + 68 + 4 + 34 by omega]
    rfl

/-! ## Windows of a request parcel -/

/-- The buffer after the prefix of `p` was copied. -/
structure RequestParcel.Copied (p : RequestParcel) (s : ParserScratch) (size : Nat) : Prop where
  size : size = min p.bytes.length 256
  holds : Holds s 0 (p.bytes.take 256)

theorem length_terminated (us : List UInt16) : (terminated us).length = us.length * 2 + 2 := by
  have hunits : (us.flatMap unitBytes).length = us.length * 2 := by
    induction us with
    | nil => rfl
    | cons unit us ih =>
      rw [List.flatMap_cons, List.length_append, ih, List.length_cons]
      simp [unitBytes]
      omega
  rw [terminated, List.length_append, hunits]
  rfl

@[simp] theorem length_wordBytes (w : UInt32) : (wordBytes w).length = 4 := by simp [wordBytes]

theorem RequestParcel.length_token (p : RequestParcel) : p.token.length = p.charsOffset + 64 := by
  have hterm := length_terminated (units kDrmPlugin)
  rw [length_drmPlugin.2] at hterm
  simp only [token, charsOffset, List.length_append, hterm, length_wordBytes]
  cases p.tag with
  | none => simp
  | some w => simp

theorem String16.length_bytes (q : String16) : q.bytes.length = align4 (q.units.length * 2 + 6) := by
  have hterm := length_terminated q.units
  simp only [String16.bytes, List.length_append, List.length_replicate, length_wordBytes, hterm,
    align4]
  omega

theorem RequestParcel.length_bytes (p : RequestParcel) : p.bytes.length =
    p.charsOffset + 64 + align4 (p.property.units.length * 2 + 6) + p.trailing.length := by
  rw [bytes, List.length_append, List.length_append, length_token, String16.length_bytes]

namespace RequestParcel.Copied

variable {p : RequestParcel} {s : ParserScratch} {size : Nat}

/-- The first bytes of the parcel are in the buffer. -/
theorem prefixed (h : p.Copied s size) {l : List UInt8} (hl : l <+: p.bytes)
    (hlen : l.length ≤ 256) : Holds s 0 l :=
  h.holds.of_prefix (List.prefix_take_iff.2 ⟨hl, hlen⟩)

theorem charsOffset_bounds (p : RequestParcel) :
    (4 ≤ p.charsOffset ∧ p.charsOffset ≤ 20) ∧ p.charsOffset % 4 = 0 ∧
    (p.tag = none → p.charsOffset = p.header.length + 4) ∧
    (p.tag ≠ none → p.charsOffset = p.header.length + 8) := by
  have := p.header_words
  have := p.header_le
  unfold charsOffset
  cases p.tag with
  | none => simp; omega
  | some w => simp; omega

/-- The interface token is there as a whole: length word, tag and descriptor. -/
theorem token (h : p.Copied s size) :
    Holds s p.header.length (wordBytes 31) ∧
      (∀ w, p.tag = some w → Holds s (p.header.length + 4) (wordBytes w)) ∧
      Holds s p.charsOffset (terminated (units kDrmPlugin)) := by
  have hle := charsOffset_bounds p
  have hp : p.token <+: p.bytes := ⟨p.property.bytes ++ p.trailing, by
    rw [RequestParcel.bytes, List.append_assoc]⟩
  have htoken := h.prefixed hp (by rw [length_token]; omega)
  rw [RequestParcel.token, holds_append, holds_append, holds_append] at htoken
  obtain ⟨⟨⟨-, hword⟩, htag⟩, hchars⟩ := htoken
  simp only [Nat.zero_add, List.length_append, length_wordBytes] at hword htag hchars
  refine ⟨hword, fun w hw => ?_, ?_⟩
  · rw [hw] at htag
    exact htag
  · have hoff : p.charsOffset = p.header.length + 4 + ((p.tag.map wordBytes).getD []).length := by
      unfold charsOffset
      cases p.tag <;> simp
    rw [hoff]
    exact hchars

/-- Unit 31 of the length word is in every window before the descriptor. -/
theorem lengthUnit (h : p.Copied s size) :
    s.parcelHalf p.header.length = 31 ∧ s.parcelBytes p.header.length = 31 := by
  have hword : wordBytes 31 = unitBytes 31 ++ unitBytes 0 := by decide
  have hunit := h.token.1
  rw [hword, holds_append] at hunit
  exact ⟨hunit.1.unit.1, hunit.1.unit.2.1⟩

theorem descriptor (h : p.Copied s size) {j : Nat} (hj : j ≤ 31) :
    s.parcelHalf (p.charsOffset + j * 2) = (units kDrmPlugin).getD j 0 ∧
      s.parcelBytes (p.charsOffset + j * 2) = ((units kDrmPlugin).getD j 0).toUInt8 ∧
      s.parcelBytes (p.charsOffset + j * 2 + 1) = ((units kDrmPlugin).getD j 0 >>> 8).toUInt8 :=
  h.token.2.2.units (by rw [length_drmPlugin.2]; exact hj)

/-! ### The descriptor -/

/-- The descriptor matches where it stands. -/
theorem descriptor_match (h : p.Copied s size) :
    emitMatchUtf16Contents s p.charsOffset kDrmPlugin = true := by
  refine emitMatchUtf16Contents_iff.2 fun j hj => ?_
  rw [(h.descriptor hj).1]
  exact unitAt_drmPlugin j hj

/-- It matches nowhere before: the window covers the length word, or the tag and the first unit. -/
theorem descriptor_before (h : p.Copied s size) {off : Nat} (hoff : off % 4 = 0)
    (hlt : off < p.charsOffset) : emitMatchUtf16Contents s off kDrmPlugin = false := by
  obtain ⟨-, -, hnone, hsome⟩ := charsOffset_bounds p
  have hwords := p.header_words
  have hheader := p.header_le
  by_cases hle : off ≤ p.header.length
  · refine not_match_utf16 ((p.header.length - off) / 2) (by
      rw [length_drmPlugin.1]; omega) ?_
    rw [show off + (p.header.length - off) / 2 * 2 = p.header.length by omega, h.lengthUnit.1]
    exact (unitAt_ne_31.1 _ (by omega)).symm
  · -- the tag is two units long
    have htag : p.tag ≠ none := fun h => by have := hnone h; omega
    have hchars := hsome htag
    refine not_match_utf16 2 (by rw [length_drmPlugin.1]; omega) ?_
    rw [show off + 2 * 2 = p.charsOffset + 0 * 2 by omega, (h.descriptor (by omega)).1]
    exact first_unit.1

/-! ### The property name -/

/-- None of the raw offsets has the name as UTF-16. -/
theorem no_raw_utf16 (h : p.Copied s size) {off : Nat} (hoff : off % 4 = 0) (hle : off ≤ 64) :
    emitMatchUtf16Contents s off kDeviceUniqueId = false := by
  obtain ⟨hbounds, hmod, hnone, hsome⟩ := charsOffset_bounds p
  have hwords := p.header_words
  have hheader := p.header_le
  have hlen := length_name.1
  by_cases hbefore : off ≤ p.header.length
  · refine not_match_utf16 ((p.header.length - off) / 2) (by omega) ?_
    rw [show off + (p.header.length - off) / 2 * 2 = p.header.length by omega, h.lengthUnit.1]
    exact (unitAt_ne_31.2 _ (by omega)).symm
  · by_cases htag : off < p.charsOffset
    · have hchars := hsome fun h => by have := hnone h; omega
      refine not_match_utf16 2 (by omega) ?_
      rw [show off + 2 * 2 = p.charsOffset + 0 * 2 by omega, (h.descriptor (by omega)).1]
      exact first_unit.2.1
    · -- a window that starts in the descriptor
      obtain ⟨j, rfl⟩ : ∃ j, off = p.charsOffset + j * 2 := ⟨(off - p.charsOffset) / 2, by omega⟩
      have hj : j ≤ 30 := by omega
      by_cases hfirst : unitAt kDrmPlugin j = unitAt kDeviceUniqueId 0
      · refine not_match_utf16 1 (by omega) ?_
        rw [show p.charsOffset + j * 2 + 1 * 2 = p.charsOffset + (j + 1) * 2 by omega,
          (h.descriptor (by omega)).1, unitAt_drmPlugin _ (by omega)]
        exact name_not_in_descriptor j hj hfirst
      · refine not_match_utf16 0 (by omega) ?_
        rw [Nat.zero_mul, Nat.add_zero, (h.descriptor (by omega)).1, unitAt_drmPlugin _ (by omega)]
        exact hfirst

/-- None of the raw offsets has the name as UTF-8. -/
theorem no_raw_utf8 (h : p.Copied s size) {off : Nat} (hoff : off % 4 = 0) (hle : off ≤ 64) :
    emitMatchUtf8Contents s off kDeviceUniqueId = false := by
  obtain ⟨hbounds, hmod, hnone, hsome⟩ := charsOffset_bounds p
  have hwords := p.header_words
  have hheader := p.header_le
  have hlen := length_name.1
  by_cases hbefore : off ≤ p.header.length
  · refine not_match_utf8 (p.header.length - off) (by omega) ?_
    rw [show off + (p.header.length - off) = p.header.length by omega, h.lengthUnit.2]
    exact (unitAt_ne_31.2 _ (by omega)).symm
  · by_cases htag : off < p.charsOffset
    · have hchars := hsome fun h => by have := hnone h; omega
      refine not_match_utf8 4 (by omega) ?_
      rw [show off + 4 = p.charsOffset + 0 * 2 by omega, (h.descriptor (by omega)).2.1]
      exact first_unit.2.2
    · -- the second byte of a window in the descriptor is the high byte of a unit
      obtain ⟨j, rfl⟩ : ∃ j, off = p.charsOffset + j * 2 := ⟨(off - p.charsOffset) / 2, by omega⟩
      refine not_match_utf8 1 (by omega) ?_
      rw [(h.descriptor (by omega)).2.2]
      exact high_zero j (by omega)

theorem rawPropertyFound (h : p.Copied s size) : Drmid.rawPropertyFound s size = false := by
  have hoffsets : ∀ off ∈ rawOffsets, off % 4 = 0 ∧ off ≤ 64 := by decide
  simp only [Drmid.rawPropertyFound, Bool.or_eq_false_iff, List.any_eq_false]
  refine ⟨fun off hmem => ?_, fun off hmem => ?_⟩
  · rw [h.no_raw_utf16 (hoffsets off hmem).1 (hoffsets off hmem).2]
    simp
  · rw [h.no_raw_utf8 (hoffsets off hmem).1 (hoffsets off hmem).2]
    simp

/-! ### Where the scan stops -/

theorem length_le_bytes (p : RequestParcel) : p.charsOffset + 64 + 8 ≤ p.bytes.length := by
  rw [RequestParcel.length_bytes, align4]
  omega

theorem size_ge (h : p.Copied s size) : p.charsOffset + 64 ≤ size := by
  have := length_le_bytes p
  have := (charsOffset_bounds p).1
  rw [h.size]
  omega

/-- Below the length word's successor no form matches. -/
theorem form_before (h : p.Copied s size) {off : Nat} (hoff : off % 4 = 0)
    (hlt : off + 8 < p.charsOffset) : descriptorForm s size kDrmPlugin off = none := by
  have h4 : emitMatchUtf16Contents s (off + 4) kDrmPlugin = false :=
    h.descriptor_before (by omega) (by omega)
  have h8 : emitMatchUtf16Contents s (off + 8) kDrmPlugin = false :=
    h.descriptor_before (by omega) hlt
  simp [descriptorForm, emitMatchUtf16String, emitMatchHeaderedUtf16String, h4, h8]

/-- Eight bytes before the characters only the headered form can match, and it does when the tag is
a build-domain word. -/
theorem form_headered (h : p.Copied s size) {off : Nat} (hoff : off + 8 = p.charsOffset) :
    descriptorForm s size kDrmPlugin off = if p.headered then some 4 else none := by
  obtain ⟨-, hmod, hnone, hsome⟩ := charsOffset_bounds p
  have h4 : emitMatchUtf16Contents s (off + 4) kDrmPlugin = false :=
    h.descriptor_before (by omega) (by omega)
  have h8 := h.descriptor_match
  have hrequired : descriptorEnd off kDrmPlugin + 4 ≤ size := by
    have := h.size_ge
    rw [descriptorEnd_eq]
    omega
  have hmagic : (s.parcelWord off == UInt32.ofNat kDrmPlugin.length &&
      kDomainMagics.contains (s.parcelWord (off + 4))) = p.headered := by
    unfold headered
    cases htag : p.tag with
    | none =>
      -- the word after the header is the length, not a build-domain word
      have hheader : off + 4 = p.header.length := by have := hnone htag; omega
      rw [hheader, h.token.1.word, show kDomainMagics.contains 31 = false by decide, Bool.and_false]
      rfl
    | some w =>
      have hheader : off = p.header.length := by have := hsome (by simp [htag]); omega
      rw [hheader, h.token.1.word, (h.token.2.1 w htag).word]
      rfl
  simp only [descriptorForm, emitMatchUtf16String, emitMatchHeaderedUtf16String, h4, hoff, h8,
    hmagic, hrequired, Bool.and_false, Bool.and_true, and_false, true_and, if_false,
    Bool.false_eq_true]

/-- Four bytes before the characters the descriptor is found. -/
theorem form_plain (h : p.Copied s size) {off : Nat} (hoff : off + 4 = p.charsOffset) :
    descriptorForm s size kDrmPlugin off = some 0 := by
  have h4 := h.descriptor_match
  have hsize := h.size_ge
  have hrequired : descriptorEnd off kDrmPlugin ≤ size := by
    rw [descriptorEnd_eq]
    omega
  simp only [descriptorForm, emitMatchUtf16String, emitMatchHeaderedUtf16String, hoff, h4,
    hrequired, true_and, Bool.and_true, if_true]
  split
  · rfl
  · rename_i hword
    simp [hword]

/-- Token offset `4 * i` is the first with a descriptor. -/
theorem recognised_first {i : Nat} {extra : UInt32} (hi : i < 9)
    (hfound : descriptorForm s size kDrmPlugin (4 * i) = some extra)
    (hbefore : ∀ off, off % 4 = 0 → off < 4 * i → descriptorForm s size kDrmPlugin off = none) :
    recognised s size = some (4 * i, extra) := by
  have hsplit : ∀ i < 9, tokenOffsets = tokenOffsets.take i ++ 4 * i :: tokenOffsets.drop (i + 1) ∧
      ∀ off ∈ tokenOffsets.take i, off % 4 = 0 ∧ off < 4 * i := by decide
  obtain ⟨heq, hlt⟩ := hsplit i hi
  refine List.findSome?_eq_some_iff.2 ⟨_, 4 * i, _, heq, ?_, fun off hoff => ?_⟩
  · rw [hfound]
    rfl
  · rw [hbefore off (hlt off hoff).1 (hlt off hoff).2]
    rfl

/-- **The descriptor is found where it stands**, in its headered form when the tag is a
build-domain word. -/
theorem recognised (h : p.Copied s size) : ∃ off extra,
    Drmid.recognised s size = some (off, extra) ∧
      off + (if extra = 0 then 4 else 8) = p.charsOffset ∧ (extra = 0 ∨ extra = 4) ∧ off % 4 = 0 := by
  obtain ⟨hbounds, hmod, hnone, hsome⟩ := charsOffset_bounds p
  have hwords := p.header_words
  cases hheadered : p.headered with
  | true =>
    have htag : p.tag ≠ none := by
      intro htag
      rw [headered, htag] at hheadered
      cases hheadered
    have hchars := hsome htag
    have hdiv : 4 * (p.header.length / 4) = p.header.length := by omega
    have hfound : descriptorForm s size kDrmPlugin p.header.length =
        if p.headered then some 4 else none := h.form_headered (by omega)
    rw [hheadered, if_pos rfl, ← hdiv] at hfound
    refine ⟨_, 4, recognised_first (by omega) hfound fun off hoff hlt => ?_, ?_, .inr rfl, by omega⟩
    · exact h.form_before hoff (by omega)
    · rw [if_neg (by decide)]
      omega
  | false =>
    have hdiv : 4 * ((p.charsOffset - 4) / 4) = p.charsOffset - 4 := by omega
    have hfound : descriptorForm s size kDrmPlugin (p.charsOffset - 4) = some 0 :=
      h.form_plain (by omega)
    rw [← hdiv] at hfound
    refine ⟨_, 0, recognised_first (by omega) hfound fun off hoff hlt => ?_, ?_, .inl rfl, by omega⟩
    · by_cases height : off + 8 = p.charsOffset
      · rw [h.form_headered height, hheadered]
        rfl
      · exact h.form_before hoff (by omega)
    · rw [if_pos rfl]
      omega

/-! ### The argument -/

/-- The length word of the argument and, when it has the name's length, its units. -/
theorem argument (h : p.Copied s size) :
    Holds s (p.charsOffset + 64) (wordBytes (UInt32.ofNat p.property.units.length)) ∧
      (p.property.units.length = 14 → p.charsOffset + 64 + 34 ≤ size ∧
        Holds s (p.charsOffset + 64 + 4) (terminated p.property.units)) := by
  have hbounds := (charsOffset_bounds p).1
  have hlen := length_token p
  have hterm := length_terminated p.property.units
  obtain ⟨rest, hrest⟩ : ∃ rest, p.bytes = p.token ++
      wordBytes (UInt32.ofNat p.property.units.length) ++ terminated p.property.units ++ rest := by
    simp only [RequestParcel.bytes, String16.bytes, List.append_assoc]
    exact ⟨_, rfl⟩
  constructor
  · have := h.prefixed (l := p.token ++ wordBytes (UInt32.ofNat p.property.units.length))
      ⟨terminated p.property.units ++ rest, by rw [hrest, ← List.append_assoc]⟩
      (by rw [List.length_append, hlen, length_wordBytes]; omega)
    rw [holds_append, hlen, Nat.zero_add] at this
    exact this.2
  · intro h14
    rw [h14] at hterm
    have hpre := h.prefixed ⟨rest, hrest.symm⟩
      (by rw [List.length_append, List.length_append, hlen, length_wordBytes, hterm]; omega)
    rw [holds_append, List.length_append, hlen, length_wordBytes, Nat.zero_add] at hpre
    refine ⟨?_, hpre.2⟩
    have hbytes : p.bytes.length = p.token.length + 4 + 30 + rest.length := by
      rw [hrest]
      simp only [List.length_append, length_wordBytes, hterm]
    rw [h.size, hbytes, hlen]
    omega

/-- The argument matches exactly when it is the name. -/
theorem argument_match (h : p.Copied s size) :
    (p.charsOffset + 64 + 34 ≤ size ∧
        emitMatchUtf16String s (p.charsOffset + 64) kDeviceUniqueId = true) ↔
      p.property.units = units kDeviceUniqueId := by
  obtain ⟨hword, hunits⟩ := h.argument
  rw [emitMatchUtf16String, hword.word, Bool.and_eq_true, beq_iff_eq, length_name.1,
    emitMatchUtf16Contents_iff, length_name.1]
  constructor
  · rintro ⟨-, hlength, hmatch⟩
    have h14 : p.property.units.length = 14 := by
      have := congrArg UInt32.toNat hlength
      rwa [UInt32.toNat_ofNat_of_lt' p.property.length_lt] at this
    have heq : ∀ j ≤ 14, p.property.units.getD j 0 = (units kDeviceUniqueId).getD j 0 := by
      intro j hj
      have := hmatch j hj
      rw [((hunits h14).2.units (j := j) (by omega)).1, ← unitAt_name j hj] at this
      exact UInt16.toUInt32_inj.1 this
    refine List.ext_getElem (h14.trans length_name.2.symm) fun j hj hj' => ?_
    have := heq j (by omega)
    rwa [List.getD_eq_getElem _ _ hj, List.getD_eq_getElem _ _ hj'] at this
  · intro heq
    have h14 : p.property.units.length = 14 := by rw [heq, length_name.2]
    refine ⟨(hunits h14).1, by rw [h14], fun j hj => ?_⟩
    rw [((hunits h14).2.units (j := j) (by omega)).1, heq]
    exact unitAt_name j hj

theorem propertyMatched (h : p.Copied s size) {off : Nat} {extra : UInt32}
    (hoff : off + (if extra = 0 then 4 else 8) = p.charsOffset) (hmod : off % 4 = 0) :
    Drmid.propertyMatched (s.noted off extra) size kDrmPlugin off = true ↔
      p.property.units = units kDeviceUniqueId := by
  rw [← h.argument_match, propertyMatched_noted hmod, Bool.and_eq_true, decide_eq_true_eq]
  by_cases hextra : extra = 0
  · rw [if_pos hextra] at hoff ⊢
    rw [show off + 68 + 0 = p.charsOffset + 64 by omega]
  · rw [if_neg hextra] at hoff ⊢
    rw [show off + 68 + 4 = p.charsOffset + 64 by omega]

end RequestParcel.Copied

/-! ## The capture -/

theorem toNat_prefixSize {td : BinderTransactionData} {bytes : List UInt8}
    (h : td.dataSize.toNat = bytes.length) :
    (min td.dataSize kParcelPrefixMaxBytes).toNat = min bytes.length 256 := by
  have hmax : kParcelPrefixMaxBytes.toNat = 256 := rfl
  show (if td.dataSize ≤ kParcelPrefixMaxBytes then td.dataSize else kParcelPrefixMaxBytes).toNat = _
  split
  · rename_i hle
    rw [UInt64.le_iff_toNat_le] at hle
    omega
  · rename_i hle
    rw [UInt64.le_iff_toNat_le] at hle
    omega

/-- A request whose parcel can be read is scanned with its first bytes in the buffer. -/
theorem emitCaptureParcelPrefix_scan {u : UserMemory} {s : ParserScratch} {bytes : List UInt8}
    (h : ParcelAt u s.transaction bytes) (hne : bytes ≠ []) {command : UInt32}
    (hc : command = brTransaction ∨ command = brTransactionSecCtx) (ctx : KernelCounterContext) :
    ∃ s₁ : ParserScratch, s₁.parcelFlags = s.parcelFlags ∧ s₁.transaction = s.transaction ∧
      Holds s₁ 0 (bytes.take 256) ∧ emitCaptureParcelPrefix .br command u s ctx =
        scanParcel (min bytes.length 256) s₁ (ctx.emitCounterIncrement .parcelPrefixOk) := by
  have hmem : StreamType.br.requestCommands.contains command = true := by
    rcases hc with rfl | rfl <;> decide
  have hnonzero : s.transaction.dataSize ≠ 0 := by
    intro hzero
    have := h.size
    rw [hzero, UInt64.toNat_zero] at this
    exact hne (List.length_eq_zero_iff.1 this.symm)
  have hread := h.readable (min bytes.length 256) (by omega)
  unfold emitCaptureParcelPrefix
  rw [hmem, if_neg (by simp), if_neg hnonzero, if_neg h.nonnull, toNat_prefixSize h.size]
  dsimp only
  rw [UserMemory.copyFromUser_ok hread]
  refine ⟨_, ?_, ?_, ?_, rfl⟩
  · rfl
  · rfl
  · intro i hi
    rw [List.length_take] at hi
    simp only [ParserScratch.fillParcel, Nat.zero_add]
    rw [if_pos (by omega), Nat.sub_zero, h.holds i (by omega)]
    simp only [List.getD_eq_getElem?_getD, List.getElem?_take]
    rw [if_pos (by omega)]

/-- **Exactly the requests for `deviceUniqueId` are recognised**, whatever the header words, the
tag, the name asked for and the bytes behind it. -/
theorem request_recognised_exactly (p : RequestParcel) {u : UserMemory}
    {td : BinderTransactionData} (h : ParcelAt u td p.bytes) {command : UInt32}
    (hc : command = brTransaction ∨ command = brTransactionSecCtx) (s : ParserScratch)
    (ctx : KernelCounterContext) :
    let s₀ := ParserScratch.emitResetTransactionParseScratch { s with transaction := td }
    deviceUniqueIdFlag (emitCaptureParcelPrefix .br command u s₀ ctx).1.parcelFlags = true ↔
      td.code = 11 ∧ p.property.units = units kDeviceUniqueId := by
  intro s₀
  have hne : p.bytes ≠ [] := by
    intro hnil
    have := RequestParcel.Copied.length_le_bytes p
    rw [hnil] at this
    simp at this
  obtain ⟨s₁, hflags, htd, hholds, hscan⟩ :=
    emitCaptureParcelPrefix_scan (s := s₀) h hne hc ctx
  have hcopied : p.Copied s₁ (min p.bytes.length 256) := ⟨rfl, hholds⟩
  obtain ⟨off, extra, hrecognised, hoff, -, hmod⟩ := hcopied.recognised
  have hcode : s₁.transaction.code = td.code := congrArg BinderTransactionData.code htd
  rw [hscan, scanParcel_flag (hflags.trans rfl), hcode]
  constructor
  · rintro ⟨hcode, off', extra', hfound, hmatch⟩
    refine ⟨hcode, ?_⟩
    cases Option.some.inj (hrecognised.symm.trans hfound)
    rcases hmatch with hmatch | hmatch
    · exact (hcopied.propertyMatched hoff hmod).1 hmatch
    · exact absurd (hcopied.rawPropertyFound.symm.trans hmatch) Bool.false_ne_true
  · rintro ⟨hcode, hname⟩
    exact ⟨hcode, off, extra, hrecognised, .inl ((hcopied.propertyMatched hoff hmod).2 hname)⟩

/-! ### A recognised request -/

theorem parcelAt_ofBytes {td : BinderTransactionData} {bytes : List UInt8} (hbuffer : td.buffer ≠ 0)
    (hsize : td.dataSize.toNat = bytes.length) :
    ParcelAt (.ofBytes td.buffer bytes) td bytes := by
  refine ⟨hbuffer, hsize, fun i hi => ?_, fun _ _ => rfl⟩
  have hlt := td.dataSize.toNat_lt
  simp only [UserMemory.ofBytes]
  rw [UInt64.add_comm, UInt64.add_sub_cancel, UInt64.toNat_ofNat', Nat.mod_eq_of_lt (by omega)]

theorem name_lt : (units kDeviceUniqueId).length < UInt32.size := by
  rw [length_name.2]
  decide

/-- A request for `deviceUniqueId` with a tag. -/
def taggedRequest (tag : UInt32) : RequestParcel :=
  ⟨[], some tag, ⟨units kDeviceUniqueId, name_lt⟩, [], rfl, Nat.zero_le 12⟩

theorem length_taggedRequest (tag : UInt32) : (taggedRequest tag).bytes.length = 108 := by
  rw [RequestParcel.length_bytes, show (taggedRequest tag).property.units.length = 14 from
    length_name.2]
  rfl

/-- A tag that is no build-domain word does not hide the request. -/
theorem request_recognised_exactly_tagged :
    let td : BinderTransactionData := { parcelCall 11 with dataSize := 108 }
    let s₀ := ParserScratch.emitResetTransactionParseScratch
      { ParserScratch.zero with transaction := td }
    deviceUniqueIdFlag (emitCaptureParcelPrefix .br brTransaction
      (.ofBytes td.buffer (taggedRequest 7).bytes) s₀ .zero).1.parcelFlags = true :=
  (@request_recognised_exactly (taggedRequest 7) _ { parcelCall 11 with dataSize := 108 }
    (parcelAt_ofBytes (by decide) (length_taggedRequest 7).symm) brTransaction (.inl rfl)
    .zero .zero).2 ⟨rfl, rfl⟩

/-! ## The fallback -/

section
variable {s : ParserScratch} {ctx : KernelCounterContext} {size off : Nat} {extra : UInt32}

theorem utf16NameAt_iff : Utf16NameAt s size off ↔
    off + (kDeviceUniqueId.length + 1) * 2 ≤ size ∧
      emitMatchUtf16Contents s off kDeviceUniqueId = true := by
  rw [Utf16NameAt, emitMatchUtf16Contents_iff]
  refine and_congr_right fun _ => forall₂_congr fun j hj => ?_
  rw [← unitAt_name j (length_name.1 ▸ hj), UInt16.toUInt32_inj, Nat.mul_comm]

theorem utf8NameAt_iff : Utf8NameAt s size off ↔
    off + (kDeviceUniqueId.length + 1) ≤ size ∧
      emitMatchUtf8Contents s off kDeviceUniqueId = true := by
  rw [Utf8NameAt, emitMatchUtf8Contents_iff]
  refine and_congr_right fun _ => forall₂_congr fun j hj => ?_
  rw [← unitAt_name j (length_name.1 ▸ hj), ← UInt16.toUInt32_inj, UInt8.toUInt32_toUInt16]

theorem rawPropertyFound_iff : rawPropertyFound s size = true ↔ NameAtRawOffset s size := by
  simp only [rawPropertyFound, Bool.or_eq_true, List.any_eq_true, Bool.and_eq_true,
    decide_eq_true_eq, ← utf16NameAt_iff, ← utf8NameAt_iff, NameAtRawOffset]
  constructor
  · rintro (⟨off, hmem, h⟩ | ⟨off, hmem, h⟩)
    · exact ⟨off, hmem, .inl h⟩
    · exact ⟨off, hmem, .inr h⟩
  · rintro ⟨off, hmem, h | h⟩
    · exact .inl ⟨off, hmem, h⟩
    · exact .inr ⟨off, hmem, h⟩

theorem recognised_mod (h : recognised s size = some (off, extra)) : off % 4 = 0 := by
  have hmod : ∀ off ∈ tokenOffsets, off % 4 = 0 := by decide
  obtain ⟨o, hmem, ho⟩ := List.exists_of_findSome?_eq_some h
  obtain ⟨_, -, heq⟩ := Option.map_eq_some_iff.1 ho
  cases heq
  exact hmod off hmem

theorem propertyMatched_iff (h : recognised s size = some (off, extra)) :
    propertyMatched (s.noted off extra) size kDrmPlugin off = true ↔
      NameString16At s size (recognisedEnd off extra) := by
  have hend : recognisedEnd off extra = off + 68 + if extra = 0 then 0 else 4 := rfl
  rw [propertyMatched_noted (recognised_mod h), ← hend, NameString16At, utf16NameAt_iff,
    emitMatchUtf16String, Bool.and_eq_true, Bool.and_eq_true, decide_eq_true_eq, beq_iff_eq,
    length_name.1]
  constructor
  · rintro ⟨hsize, hword, hname⟩
    exact ⟨hword, by omega, hname⟩
  · rintro ⟨hword, hsize, hname⟩
    exact ⟨by omega, hword, hname⟩

/-- The flag is set by a String16 behind the descriptor or by a name at a raw offset. -/
theorem fallback_flag_iff (hflags : s.parcelFlags = 0) (hcode : s.transaction.code = 11)
    (h : recognised s size = some (off, extra)) :
    deviceUniqueIdFlag (emitTryParcelDescriptor size kDrmPlugin .drmPlugin .parcelPluginHits
        tokenOffsets s ctx).2.1.parcelFlags = true ↔
      NameString16At s size (recognisedEnd off extra) ∨ NameAtRawOffset s size := by
  rw [emitTryParcelDescriptor_eq _ _ hcode, ← recognised, h]
  dsimp only
  rw [matchProperty_flag (s := s.noted off extra) hflags, propertyMatched_iff h,
    rawPropertyFound_iff]
  rfl

/-- **Exactly when the name behind the descriptor is found**: when it is the String16 right behind
it, or stands at one of the raw offsets as well. The raw offsets end before any descriptor does, so
the fallback alone finds no name behind one. -/
theorem fallback_finds_property_iff (hflags : s.parcelFlags = 0) (hcode : s.transaction.code = 11)
    (h : recognised s size = some (off, extra)) :
    let stop := recognisedEnd off extra
    (NameFrom s size stop → deviceUniqueIdFlag (emitTryParcelDescriptor size kDrmPlugin .drmPlugin
        .parcelPluginHits tokenOffsets s ctx).2.1.parcelFlags = true) ↔
      (¬NameFrom s size stop ∨ NameString16At s size stop ∨ NameAtRawOffset s size) := by
  intro stop
  rw [fallback_flag_iff hflags hcode h]
  exact imp_iff_not_or

end

/-! ### A found and a hidden name -/

/-- The scratch area of a `getPropertyByteArray` call whose parcel `p` was copied as a whole. -/
def RequestParcel.scratch (p : RequestParcel) : ParserScratch :=
  { ParserScratch.zero with
    transaction := parcelCall 11
    parcelBytes := fun i => p.bytes.getD i 0 }

theorem RequestParcel.copied_scratch {p : RequestParcel} (h : p.bytes.length ≤ 256) :
    p.Copied p.scratch p.bytes.length := by
  refine ⟨(Nat.min_eq_left h).symm, fun i _ => ?_⟩
  rw [Nat.zero_add, List.take_of_length_le h]
  rfl

theorem RequestParcel.holds_trailing (p : RequestParcel) : Holds p.scratch
    (p.charsOffset + 64 + align4 (p.property.units.length * 2 + 6)) p.trailing := by
  have hall : Holds p.scratch 0 p.bytes := fun i _ => by
    rw [Nat.zero_add]
    rfl
  rw [bytes, holds_append, List.length_append, length_token, String16.length_bytes,
    Nat.zero_add] at hall
  exact hall.2

/-- Without header words and tag the descriptor is found at token offset 0 and ends at 68. -/
theorem RequestParcel.Copied.recognised_plain {p : RequestParcel} {s : ParserScratch} {size : Nat}
    (h : p.Copied s size) (hchars : p.charsOffset = 4) : Drmid.recognised s size = some (0, 0) := by
  obtain ⟨off, extra, hrecognised, hoff, -, -⟩ := h.recognised
  rw [hchars] at hoff
  by_cases hextra : extra = 0
  · rw [if_pos hextra] at hoff
    rw [hrecognised, hextra, show off = 0 by omega]
  · rw [if_neg hextra] at hoff
    omega

theorem recognisedEnd_plain : recognisedEnd 0 0 = 68 := by
  rw [recognisedEnd, descriptorEnd_eq]
  rfl

/-- The name right behind the descriptor. -/
def plainRequest : RequestParcel :=
  ⟨[], none, ⟨units kDeviceUniqueId, name_lt⟩, [], rfl, Nat.zero_le 12⟩

/-- Two zero words, an empty String16, stand before the name. -/
def prefixedRequest : RequestParcel :=
  ⟨[], none, ⟨[], Nat.zero_lt_succ _⟩, wordBytes 14 ++ terminated (units kDeviceUniqueId), rfl,
    Nat.zero_le 12⟩

theorem length_plainRequest : plainRequest.bytes.length = 104 := by
  rw [RequestParcel.length_bytes, show plainRequest.property.units.length = 14 from length_name.2]
  rfl

theorem length_prefixedRequest : prefixedRequest.bytes.length = 110 := by
  have hterm := length_terminated (units kDeviceUniqueId)
  rw [length_name.2] at hterm
  rw [RequestParcel.length_bytes, show prefixedRequest.trailing.length = 34 by
    simp only [prefixedRequest, List.length_append, length_wordBytes, hterm]]
  rfl

/-- The name as a String16 behind the descriptor is found. -/
theorem fallback_finds_property_iff_plain :
    deviceUniqueIdFlag (emitTryParcelDescriptor plainRequest.bytes.length kDrmPlugin .drmPlugin
      .parcelPluginHits tokenOffsets plainRequest.scratch .zero).2.1.parcelFlags = true := by
  have hcopied : plainRequest.Copied plainRequest.scratch plainRequest.bytes.length :=
    RequestParcel.copied_scratch (by rw [length_plainRequest]; decide)
  have hrecognised := hcopied.recognised_plain rfl
  have hstring := (propertyMatched_iff hrecognised).1 ((hcopied.propertyMatched rfl rfl).2 rfl)
  refine (fallback_finds_property_iff rfl rfl hrecognised).2 (.inr (.inl hstring)) ?_
  exact ⟨68 + 4, rfl, by rw [recognisedEnd_plain]; decide, .inl (recognisedEnd_plain ▸ hstring.2)⟩

/-- The two words before the argument hide the name, at offset 80, from both searches. -/
theorem prefixed_name_hidden :
    let s := prefixedRequest.scratch
    let size := prefixedRequest.bytes.length
    (size ≤ 256 ∧ s.parcelFlags = 0 ∧ s.transaction.code = 11 ∧
      recognised s size = some (0, 0) ∧ NameFrom s size (recognisedEnd 0 0)) ∧
    deviceUniqueIdFlag (emitTryParcelDescriptor size kDrmPlugin .drmPlugin .parcelPluginHits
      tokenOffsets s .zero).2.1.parcelFlags = false := by
  intro s size
  have hsize : size = 110 := length_prefixedRequest
  have hcopied : prefixedRequest.Copied s size :=
    RequestParcel.copied_scratch (by rw [length_prefixedRequest]; decide)
  have hrecognised := hcopied.recognised_plain rfl
  have hname : Utf16NameAt s size 80 := by
    have htrailing := (holds_append.1 prefixedRequest.holds_trailing).2
    have hlen := length_name.1
    refine ⟨by omega, fun j hj => ?_⟩
    rw [Nat.mul_comm]
    exact (htrailing.units (by rw [length_name.2, ← length_name.1]; exact hj)).1
  refine ⟨⟨by omega, rfl, rfl, hrecognised, 80, rfl, ?_, .inl hname⟩, Bool.eq_false_iff.2 ?_⟩
  · rw [recognisedEnd_plain]
    decide
  · intro hflag
    rcases (fallback_flag_iff rfl rfl hrecognised).1 hflag with hstring | hraw
    · have hunits := (hcopied.propertyMatched rfl rfl).1
        ((propertyMatched_iff hrecognised).2 hstring)
      have := congrArg List.length hunits
      rw [length_name.2] at this
      exact absurd this (by decide)
    · exact absurd (rawPropertyFound_iff.2 hraw) (Bool.eq_false_iff.1 hcopied.rawPropertyFound)

end Drmid
