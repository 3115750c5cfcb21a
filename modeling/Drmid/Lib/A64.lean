import Mathlib.Data.Nat.Bitwise
import Mathlib.Tactic.Ring
import Drmid.Lib.BitPattern

/-!
# A64 encodings

The instruction classes of the A64 set that a function's entry is made of, written field by field
as the architecture gives them, and the B encoding with its offset. Words are 32-bit.
-/

namespace Lib.A64

open BitPattern

/-- The field `hi .. lo` of a word, read as a signed number. -/
def signedField (w : UInt32) (hi lo : Nat) : Int := (w.toBitVec.extractLsb hi lo).toInt

/-! ## Hints -/

/-- `BTI` with any of its targets. -/
def bti : BitPattern := all [bits 31 8 0xd50324, bits 5 0 0x1f]

/-- `PACIASP` and `PACIBSP`. -/
def pacSp : BitPattern := all [bits 31 7 0x1aa0646, bits 5 0 0x3f]

/-! ## Frames -/

/-- `SUB SP, SP, #imm12`, without the shift by twelve. -/
def subSp : BitPattern := all [bits 31 23 0b110100010, bits 22 22 0, bits 9 5 31, bits 4 0 31]

/-- A store pair on SP with pre-index, of any register class and size. -/
def storePairPreSp : BitPattern :=
  all [bits 29 27 0b101, bits 25 23 0b011, bits 22 22 0, bits 9 5 31]

/-- `STP X29, X30, [SP, #off]` and `STP X29, X30, [SP, #off]!`. -/
def stpFrameLink : BitPattern :=
  all [bits 31 30 0b10, bits 29 27 0b101, bits 26 26 0, bits 25 24 0b01, bits 22 22 0,
    bits 14 10 30, bits 9 5 31, bits 4 0 29]

/-- `STP X29, X30, [SP, #off]!`. -/
def stpFrameLinkPre : BitPattern := all [stpFrameLink, bits 23 23 1]

/-- The offset of a 64-bit STP. -/
def stp64Offset (w : UInt32) : Int := 8 * signedField w 21 15

/-! ## Branches -/

/-- `B` and `BL`. -/
def directBranch : BitPattern := bits 30 26 0b00101

/-- `B`, which does not link. -/
def b : BitPattern := bits 31 26 0b000101

/-- The offset of a `B` or `BL`. -/
def branchOffset (w : UInt32) : Int := 4 * signedField w 25 0

/-- The `B` whose offset is `d`. -/
def encodeB (d : Int) : UInt32 := .ofBitVec (0b000101#6 ++ BitVec.ofInt 26 (d / 4))

/-! ## Signed fields as code reads them -/

variable {w x s : UInt32} {hi lo : Nat}

/-- The top bit of a field tells its upper half. -/
theorem and_pow_eq_zero {n : Nat} (hs : s.toNat = 2 ^ n) (hx : x.toNat < 2 ^ (n + 1)) :
    x &&& s = 0 ↔ x.toNat < 2 ^ n := by
  have hbit : x.toNat.testBit n = decide (2 ^ n ≤ x.toNat) := by
    have hlt : x.toNat / 2 ^ n < 2 := Nat.div_lt_of_lt_mul (by rwa [← Nat.pow_succ])
    have hpos : 1 ≤ x.toNat / 2 ^ n ↔ 2 ^ n ≤ x.toNat :=
      Nat.one_le_div_iff (Nat.two_pow_pos n)
    rw [Nat.testBit_eq_decide_div_mod_eq, Nat.mod_eq_of_lt hlt, decide_eq_decide, ← hpos]
    omega
  rw [← UInt32.toNat_inj, UInt32.toNat_and, hs, Nat.and_two_pow, hbit]
  by_cases h : 2 ^ n ≤ x.toNat
  · simp [h]
  · simp [h, Nat.not_le.1 h]

theorem and_bit_ne_zero {n : Nat} (hs : s.toNat = 2 ^ n) :
    w &&& s ≠ 0 ↔ (⟨s, s⟩ : BitPattern).accepts w = true := by
  rw [accepts_iff, ne_eq, ← UInt32.toNat_inj, ← UInt32.toNat_inj, UInt32.toNat_and, hs,
    Nat.and_two_pow]
  have := Nat.two_pow_pos n
  cases w.toNat.testBit n
  · simp
    omega
  · simp

/-- A field shifted down to `x`, with its sign bit `s` tested and taken off. -/
theorem signedField_eq (hi lo : Nat) (hx : x.toNat = w.toNat >>> lo % 2 ^ (hi - lo + 1))
    (hs : s.toNat = 2 ^ (hi - lo)) :
    signedField w hi lo = if x &&& s ≠ 0 then (x.toNat : Int) - 2 ^ (hi - lo + 1) else x.toNat := by
  have hlt : x.toNat < 2 ^ (hi - lo + 1) := hx ▸ Nat.mod_lt _ (Nat.two_pow_pos _)
  have hzero := and_pow_eq_zero hs hlt
  have hfield : (w.toBitVec.extractLsb hi lo).toNat = x.toNat := by
    rw [BitVec.extractLsb_toNat, hx]
    rfl
  rw [signedField, BitVec.toInt_eq_toNat_cond, hfield, Nat.pow_succ]
  by_cases h : x &&& s = 0
  · have := hzero.1 h
    rw [if_pos (by omega), if_neg (by simpa using h)]
  · have := mt hzero.2 h
    rw [if_neg (by omega), if_pos h]
    push_cast
    ring

/-! ## The B encoding -/

theorem b_encodeB (d : Int) : b.accepts (encodeB d) = true := by
  have hhigh : (encodeB d) >>> 26 = 5 := by
    rw [← UInt32.toNat_inj, UInt32.toNat_shiftRight]
    have : (encodeB d).toNat = 5 <<< 26 ||| (BitVec.ofInt 26 (d / 4)).toNat :=
      BitVec.toNat_append ..
    rw [this, ← Nat.shiftLeft_add_eq_or_of_lt (BitVec.isLt _)]
    have hlow := (BitVec.ofInt 26 (d / 4)).isLt
    show (5 <<< 26 + (BitVec.ofInt 26 (d / 4)).toNat) >>> 26 = 5
    rw [Nat.shiftRight_eq_div_pow, Nat.shiftLeft_eq]
    omega
  have hfield : (encodeB d) >>> 26 &&& 0x3f = 5 := by rw [hhigh]; decide
  exact (accepts_shifted (by decide) (by decide)).2 hfield

theorem branchOffset_encodeB {d : Int} (hd : 4 ∣ d) (hlo : -2 ^ 27 ≤ d) (hhi : d < 2 ^ 27) :
    branchOffset (encodeB d) = d := by
  have himm : (encodeB d).toBitVec.extractLsb 25 0 = BitVec.ofInt 26 (d / 4) :=
    BitVec.extractLsb'_append_eq_right
  have hfield : signedField (encodeB d) 25 0 = d / 4 := by
    rw [signedField, himm, BitVec.toInt_ofInt, Int.bmod_eq_of_le]
    all_goals omega
  rw [branchOffset, hfield, Int.mul_ediv_cancel' hd]
end Lib.A64
