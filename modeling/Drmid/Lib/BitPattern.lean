import Mathlib.Algebra.Ring.Nat
import Mathlib.Data.List.Basic

/-!
# Masked comparisons of 32-bit words

An instruction class is a set of words in which some bits are fixed: a mask and a value. Whether
one class lies inside another (`Refines`) or has no word in common with it (`Excludes`) is a fact
about masks and values only, so it is decided once and holds of every word. `all` puts fields
together to a class (`accepts_all`); `accepts_bits` reads a comparison of a shifted and masked
field as a pattern.
-/

namespace Lib

structure BitPattern where
  mask : UInt32
  value : UInt32
  deriving DecidableEq, Repr

namespace BitPattern

/-- `(word & mask) == value`. -/
def accepts (p : BitPattern) (w : UInt32) : Bool := w &&& p.mask == p.value

/-- The bits `hi .. lo` hold `v`. -/
def bits (hi lo : Nat) (v : UInt32) : BitPattern :=
  ⟨UInt32.ofNat (2 ^ (hi + 1 - lo) - 1) <<< UInt32.ofNat lo, v <<< UInt32.ofNat lo⟩

/-- All the fields of a class. -/
def all : List BitPattern → BitPattern
  | [] => ⟨0, 0⟩
  | p :: ps => ⟨p.mask ||| (all ps).mask, p.value ||| (all ps).value⟩

/-- Every word of `p` is a word of `q`. -/
def Refines (p q : BitPattern) : Prop := p.mask &&& q.mask = q.mask ∧ p.value &&& q.mask = q.value

instance (p q : BitPattern) : Decidable (p.Refines q) := inferInstanceAs (Decidable (_ ∧ _))

/-- A bit that both fix has different values. -/
def Excludes (p q : BitPattern) : Prop := p.value &&& q.mask ≠ q.value &&& p.mask

instance (p q : BitPattern) : Decidable (p.Excludes q) := inferInstanceAs (Decidable (_ ≠ _))

variable {p q : BitPattern} {ps : List BitPattern} {w : UInt32}

theorem accepts_iff : p.accepts w = true ↔ w &&& p.mask = p.value := by simp [BitPattern.accepts]

theorem Refines.accepts (h : p.Refines q) (hw : p.accepts w = true) : q.accepts w = true := by
  rw [accepts_iff] at hw ⊢
  calc w &&& q.mask = w &&& p.mask &&& q.mask := by rw [UInt32.and_assoc, h.1]
    _ = q.value := by rw [hw, h.2]

theorem Excludes.not_accepts (h : p.Excludes q) (hw : p.accepts w = true) :
    q.accepts w = false := by
  rw [accepts_iff] at hw
  refine Bool.eq_false_iff.2 fun hq => h ?_
  rw [accepts_iff] at hq
  rw [← hw, ← hq, UInt32.and_assoc, UInt32.and_assoc, UInt32.and_comm p.mask]

theorem Excludes.any_eq_false (h : ∀ q ∈ ps, p.Excludes q) (hw : p.accepts w = true) :
    ps.any (·.accepts w) = false := by
  simp only [List.any_eq_false]
  intro q hq
  simp [(h q hq).not_accepts hw]

/-- Setting the bits of `x`. -/
theorem accepts_or (x : UInt32) (hw : p.accepts w = true) :
    (⟨p.mask, p.value ||| x &&& p.mask⟩ : BitPattern).accepts (w ||| x) = true := by
  have hor : (w ||| x) &&& p.mask = w &&& p.mask ||| x &&& p.mask :=
    UInt32.toBitVec_inj.1 BitVec.and_or_distrib_right
  rw [accepts_iff] at hw ⊢
  rw [hor, hw]

theorem accepts_all_of (h : ∀ p ∈ ps, p.accepts w = true) : (all ps).accepts w = true := by
  induction ps with
  | nil => simp [all, accepts_iff]
  | cons p ps ih =>
    have hp := accepts_iff.1 (h p List.mem_cons_self)
    have hps := accepts_iff.1 (ih fun q hq => h q (List.mem_cons_of_mem p hq))
    have hor : w &&& (p.mask ||| (all ps).mask) = w &&& p.mask ||| w &&& (all ps).mask :=
      UInt32.toBitVec_inj.1 BitVec.and_or_distrib_left
    rw [accepts_iff, all, hor, hp, hps]

/-- The fields of a class, when no two of them contradict each other. -/
theorem accepts_all (hps : ∀ p ∈ ps, (all ps).Refines p) :
    (all ps).accepts w = true ↔ ∀ p ∈ ps, p.accepts w = true :=
  ⟨fun h p hp => (hps p hp).accepts h, accepts_all_of⟩

/-- A field that is shifted down before it is compared. -/
theorem accepts_shifted {k m v : UInt32} (hm : m <<< k >>> k = m) (hv : v <<< k >>> k = v) :
    (⟨m <<< k, v <<< k⟩ : BitPattern).accepts w = true ↔ w >>> k &&& m = v := by
  rw [accepts_iff]
  constructor
  · intro h
    calc w >>> k &&& m = (w &&& m <<< k) >>> k := by rw [UInt32.shiftRight_and, hm]
      _ = v := by rw [h, hv]
  · intro h
    -- the bits that the two shifts lose lie below the mask
    have hlow : w >>> k <<< k &&& m <<< k = w &&& m <<< k := by
      apply UInt32.toBitVec_inj.1
      simp only [UInt32.toBitVec_and, UInt32.toBitVec_shiftLeft, UInt32.toBitVec_shiftRight,
        BitVec.shiftLeft_eq', BitVec.ushiftRight_eq', BitVec.shiftLeft_ushiftRight,
        BitVec.and_assoc, ← BitVec.shiftLeft_and_distrib, BitVec.allOnes_and]
    rw [← hlow, ← UInt32.shiftLeft_and, h]

/-- A field comparison that code writes as a shift and a mask. -/
theorem accepts_bits {hi lo : Nat} {k m v : UInt32} (hk : UInt32.ofNat lo = k)
    (hm : UInt32.ofNat (2 ^ (hi + 1 - lo) - 1) = m) (hms : m <<< k >>> k = m)
    (hvs : v <<< k >>> k = v) : (bits hi lo v).accepts w = true ↔ w >>> k &&& m = v := by
  subst hk hm
  exact accepts_shifted hms hvs

end BitPattern
end Lib
