import Drmid.Lib.Crc
import Drmid.Storage.Proof.Upgrade

/-!
# Damage to a control record is detected

`crc32` is the register of `Lib.Crc` run over the bits of the data, each byte from its low end, and
the CRC field behind the data takes the register to one value (`run_validated`). So a record and its
copy with a burst of at most 32 bits are not both valid: `burst_detected`.
-/

namespace Drmid

open Lib

/-! ## Bits -/

/-- The bits of a byte from its low end. -/
def byteBits (b : UInt8) : List Bool := (List.range 8).map b.toBitVec.getLsbD

def dataBits (data : Bytes) : List Bool := data.flatMap byteBits

/-- Bit `n` of the data: bit `n % 8` of byte `n / 8`. -/
def bitAt (data : Bytes) (n : Nat) : Bool := (data.getD (n / 8) 0).toBitVec.getLsbD (n % 8)

theorem dataBits_cons (b : UInt8) (data : Bytes) :
    dataBits (b :: data) = byteBits b ++ dataBits data :=
  List.flatMap_cons

theorem dataBits_append (data data' : Bytes) :
    dataBits (data ++ data') = dataBits data ++ dataBits data' :=
  List.flatMap_append

theorem length_byteBits (b : UInt8) : (byteBits b).length = 8 := by
  simp [byteBits]

theorem length_dataBits (data : Bytes) : (dataBits data).length = 8 * data.length := by
  simp [dataBits, List.length_flatMap, length_byteBits, Nat.mul_comm]

theorem getElem?_byteBits (b : UInt8) {n : Nat} (h : n < 8) :
    (byteBits b)[n]? = some (b.toBitVec.getLsbD n) := by
  simp [byteBits, h]

theorem getElem?_dataBits (data : Bytes) {n : Nat} (h : n < 8 * data.length) :
    (dataBits data)[n]? = some (bitAt data n) := by
  induction data generalizing n with
  | nil => simp at h
  | cons b data ih =>
    rw [dataBits_cons]
    by_cases hn : n < 8
    · rw [List.getElem?_append_left (by rwa [length_byteBits]), getElem?_byteBits b hn, bitAt,
        Nat.div_eq_of_lt hn, Nat.mod_eq_of_lt hn, List.getD_cons_zero]
    · have hdiv : n / 8 = (n - 8) / 8 + 1 := by omega
      have hmod : (n - 8) % 8 = n % 8 := by omega
      have hrest : n - 8 < 8 * data.length := by
        rw [List.length_cons] at h
        omega
      rw [List.getElem?_append_right (by rw [length_byteBits]; omega), length_byteBits,
        ih hrest, bitAt, bitAt, hdiv, hmod, List.getD_cons_succ]

theorem getElem?_dataBits_take {data : Bytes} {k n len : Nat} (hlen : data.length = len)
    (h : n < 8 * k) (hk : k ≤ len) : (dataBits (data.take k))[n]? = some (bitAt data n) := by
  have htaken : (data.take k).length = k := List.length_take_of_le (hlen ▸ hk)
  rw [getElem?_dataBits _ (by rwa [htaken]), bitAt, bitAt, List.getD_eq_getElem?_getD,
    List.getElem?_take_of_lt (by omega), ← List.getD_eq_getElem?_getD]

theorem byteBits_injective : Function.Injective byteBits := by
  intro b b' h
  refine UInt8.eq_of_toBitVec_eq (BitVec.eq_of_getLsbD_eq fun i hi => ?_)
  have hbit := congrArg (·[i]?) h
  simpa only [getElem?_byteBits _ hi, Option.some.injEq] using hbit

theorem dataBits_injective : Function.Injective dataBits := by
  intro data data' h
  induction data generalizing data' with
  | nil =>
    have hlen := congrArg List.length h
    rw [length_dataBits, length_dataBits, List.length_nil] at hlen
    exact (List.length_eq_zero_iff.1 (by omega)).symm
  | cons b data ih =>
    cases data' with
    | nil =>
      have hlen := congrArg List.length h
      simp [length_dataBits] at hlen
    | cons b' data' =>
      rw [dataBits_cons, dataBits_cons] at h
      obtain ⟨hb, hdata⟩ := List.append_inj h (by rw [length_byteBits, length_byteBits])
      rw [byteBits_injective hb, ih hdata]

/-! ## The register -/

/-- The polynomial of `crc32`. -/
def crc32Poly : BitVec 32 := 0xedb88320#32

theorem toBitVec_crc32Bit (v : UInt32) :
    (crc32Bit v).toBitVec = Crc.shift crc32Poly v.toBitVec := by
  have hbits : (crc32Bit v).toBitVec =
      (v.toBitVec >>> 1) ^^^ (crc32Poly &&& (0#32 - (v.toBitVec &&& 1#32))) := rfl
  rw [hbits, Crc.shift, BitVec.and_one_eq_setWidth_ofBool_getLsbD]
  cases v.toBitVec.getLsbD 0 with
  | false => rfl
  | true => rfl

theorem word_byteBits (b : UInt8) : Crc.word 32 (byteBits b) = b.toUInt32.toBitVec := by
  apply BitVec.eq_of_getLsbD_eq
  intro i hi
  show _ = (b.toBitVec.setWidth 32).getLsbD i
  rw [Crc.getLsbD_word _ hi, List.getD_eq_getElem?_getD, BitVec.getLsbD_setWidth]
  by_cases hlt : i < 8
  · simp [getElem?_byteBits b hlt, hi]
  · rw [List.getElem?_eq_none (by rw [length_byteBits]; omega),
      BitVec.getLsbD_of_ge _ _ (by omega)]
    simp

theorem toBitVec_iterate_crc32Bit (n : Nat) (v : UInt32) :
    (crc32Bit^[n] v).toBitVec = (Crc.shift crc32Poly)^[n] v.toBitVec :=
  (Function.Semiconj.iterate_right toBitVec_crc32Bit n).eq v

/-- The loop of `crc32` is the register. -/
theorem toBitVec_foldl_crc32 (data : Bytes) (v : UInt32) :
    (data.foldl (fun v b => crc32Bit^[8] (v ^^^ b.toUInt32)) v).toBitVec =
      Crc.run crc32Poly v.toBitVec (dataBits data) := by
  induction data generalizing v with
  | nil => rfl
  | cons b data ih =>
    have hbyte : Crc.run crc32Poly v.toBitVec (byteBits b) =
        (crc32Bit^[8] (v ^^^ b.toUInt32)).toBitVec := by
      rw [Crc.run_eq_iterate _ _ (by rw [length_byteBits]; decide), length_byteBits,
        word_byteBits, toBitVec_iterate_crc32Bit, UInt32.toBitVec_xor]
    rw [List.foldl_cons, ih, dataBits_cons, Crc.run_append, hbyte]

theorem toBitVec_crc32 (data : Bytes) :
    (crc32 data).toBitVec =
      Crc.run crc32Poly (BitVec.allOnes 32) (dataBits data) ^^^ BitVec.allOnes 32 := by
  rw [crc32, UInt32.toBitVec_xor, toBitVec_foldl_crc32]
  rfl

/-- The bits of a CRC field are those of its word. -/
theorem word_leBytes (w : UInt32) :
    Crc.word 32 (dataBits (leBytes 4 w.toUInt64)) = w.toBitVec := by
  apply BitVec.eq_of_getLsbD_eq
  intro i hi
  have hlen : i < 8 * (leBytes 4 w.toUInt64).length := by
    rw [length_leBytes]
    exact hi
  have hbyte : ((leBytes 4 w.toUInt64).getD (i / 8) 0).toBitVec =
      ((w.toBitVec.setWidth 64) >>> (8 * (i / 8))).setWidth 8 := by
    rw [leBytes_getD _ (by omega)]
    show ((w.toUInt64 >>> UInt64.ofNat (8 * (i / 8))).toBitVec).setWidth 8 = _
    rw [toBitVec_shiftRight_ofNat _ (by omega)]
    rfl
  rw [Crc.getLsbD_word _ hi, List.getD_eq_getElem?_getD, getElem?_dataBits _ hlen,
    Option.getD_some, bitAt, hbyte, BitVec.getLsbD_setWidth, BitVec.getLsbD_ushiftRight,
    Nat.div_add_mod, BitVec.getLsbD_setWidth]
  have h8 : i % 8 < 8 := Nat.mod_lt _ (by decide)
  have h64 : i < 64 := by omega
  simp [h8, h64]

/-- After data and their CRC the register has one value. -/
theorem run_crc32 (data : Bytes) :
    Crc.run crc32Poly (BitVec.allOnes 32)
      (dataBits (data ++ leBytes 4 (crc32 data).toUInt64)) =
        (Crc.shift crc32Poly)^[32] (BitVec.allOnes 32) := by
  have hlen : (dataBits (leBytes 4 (crc32 data).toUInt64)).length = 32 := by
    rw [length_dataBits, length_leBytes]
  rw [dataBits_append, Crc.run_append, Crc.run_eq_iterate _ _ (Nat.le_of_eq hlen), hlen,
    word_leBytes, toBitVec_crc32, ← BitVec.xor_assoc, BitVec.xor_self, BitVec.zero_xor]

/-! ## Records -/

/-- A valid record: the CRC field is that of the bytes before it, and the bytes behind it are 0. -/
theorem covered_of_valid {b : Bytes} (hlen : b.length = kRuntimeControlRecordBytes)
    (h : validateV3Record (.ofBytes b) = true) :
    b.take 124 = b.take 120 ++ leBytes 4 (crc32 (b.take 120)).toUInt64 ∧
      b.drop 124 = leBytes 4 0 := by
  have hcovered := RuntimeControlRecordV3.covered_ofBytes hlen
  simp only [kRuntimeControlRecordBytes] at hlen
  simp only [validateV3Record, Bool.and_eq_true, beq_iff_eq, hcovered] at h
  have htail : at32 b 124 = 0 := h.1.2
  have hcrc : at32 b 120 = crc32 (b.take 120) := h.2
  constructor
  · rw [← hcrc, leBytes_at32 (by omega), ← List.take_add]
  · have hword : leBytes 4 (at32 b 124).toUInt64 = (b.drop 124).take 4 :=
      leBytes_at32 (by omega)
    rw [htail, List.take_of_length_le (by simp [hlen])] at hword
    exact hword.symm

/-- **Main result: bursts are detected.** A valid record that is changed in at most 32 consecutive
bits is rejected. -/
theorem burst_detected (b b' : Bytes) (hlen : b.length = 128) (hlen' : b'.length = 128)
    (hvalid : validateV3Record (.ofBytes b) = true) (hne : b ≠ b') (start : Nat)
    (hburst : ∀ n, bitAt b n ≠ bitAt b' n → start ≤ n ∧ n < start + 32) :
    validateV3Record (.ofBytes b') = false := by
  rw [← Bool.not_eq_true]
  intro hvalid'
  obtain ⟨hdata, htail⟩ := covered_of_valid hlen hvalid
  obtain ⟨hdata', htail'⟩ := covered_of_valid hlen' hvalid'
  refine hne ?_
  have hrun : Crc.run crc32Poly (BitVec.allOnes 32) (dataBits (b.take 124)) =
      Crc.run crc32Poly (BitVec.allOnes 32) (dataBits (b'.take 124)) := by
    rw [hdata, hdata', run_crc32, run_crc32]
  have htaken (l : Bytes) (h : l.length = 128) : (l.take 124).length = 124 :=
    List.length_take_of_le (by omega)
  have hwindow (n : Nat) (hn : (dataBits (b.take 124))[n]? ≠ (dataBits (b'.take 124))[n]?) :
      start ≤ n ∧ n < start + 32 := by
    by_cases hlt : n < 8 * 124
    · rw [getElem?_dataBits_take hlen hlt (by decide),
        getElem?_dataBits_take hlen' hlt (by decide)] at hn
      exact hburst n fun h => hn (congrArg some h)
    · rw [List.getElem?_eq_none (by rw [length_dataBits, htaken b hlen]; omega),
        List.getElem?_eq_none (by rw [length_dataBits, htaken b' hlen']; omega)] at hn
      exact (hn rfl).elim
  have hbits : dataBits (b.take 124) = dataBits (b'.take 124) :=
    Crc.eq_of_burst (by decide)
      (by rw [length_dataBits, length_dataBits, htaken b hlen, htaken b' hlen']) hwindow hrun
  rw [← List.take_append_drop 124 b, ← List.take_append_drop 124 b', dataBits_injective hbits,
    htail, htail']

/-- A change of one byte is a burst. -/
theorem bitAt_set {data : Bytes} {j n : Nat} {b : UInt8}
    (h : bitAt data n ≠ bitAt (data.set j b) n) : 8 * j ≤ n ∧ n < 8 * j + 32 := by
  have hj : n / 8 = j := by
    refine Classical.byContradiction fun hne => h ?_
    rw [bitAt, bitAt, List.getD_eq_getElem?_getD, List.getD_eq_getElem?_getD,
      List.getElem?_set_ne (Ne.symm hne)]
  omega

/-- A bit of the ID is flipped. -/
theorem burst_detected_flipped :
    validateV3Record (.ofBytes ((recordOfConfig sampleControl).toBytes.set 48
      ((recordOfConfig sampleControl).toBytes.getD 48 0 ^^^ 1))) = false := by
  have hlen : (recordOfConfig sampleControl).toBytes.length = 128 :=
    RuntimeControlRecordV3.length_toBytes _
  refine burst_detected (recordOfConfig sampleControl).toBytes _ hlen
    (by rw [List.length_set, hlen]) ?_ ?_ 384 fun n hn => bitAt_set hn
  · rw [RuntimeControlRecordV3.ofBytes_toBytes]
    exact validateV3Record_recordOfConfig (by decide)
  · intro h
    have hbyte := congrArg (·.getD 48 0) h
    simp only [List.getD_eq_getElem?_getD] at hbyte
    rw [List.getElem?_set_self (by rw [hlen]; decide), Option.getD_some] at hbyte
    have hzero : (0 : UInt8) = 1 := (UInt8.xor_right_inj _).1 (UInt8.xor_zero.trans hbyte)
    cases hzero

end Drmid
