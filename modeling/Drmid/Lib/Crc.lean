import Mathlib.Data.List.GetD
import Mathlib.Logic.Function.Iterate

/-!
# Cyclic redundancy checks

A reflected CRC of width `w` as a shift register: `shift` moves the register down by a bit and puts
the polynomial in for a bit that falls out, `feed` does so with one more bit of the message at the
low end, and `run` feeds a message. The polynomial's constant term is its top bit here; where it is
set, a register never forgets (`shift_injective`).

`eq_of_burst`: two messages with one CRC that differ in at most `w` consecutive bits are equal.
-/

namespace Lib.Crc

variable {w : Nat} (poly : BitVec w)

def shift (v : BitVec w) : BitVec w :=
  (v >>> 1) ^^^ (if v.getLsbD 0 then poly else 0#w)

/-- The register with a bit of the message added to its low end. -/
def withBit (v : BitVec w) (bit : Bool) : BitVec w := v ^^^ (BitVec.ofBool bit).setWidth w

def feed (v : BitVec w) (bit : Bool) : BitVec w := shift poly (withBit v bit)

def run (v : BitVec w) (bits : List Bool) : BitVec w := bits.foldl (feed poly) v

/-- The word whose bits from the low end are `bits`. -/
def word (w : Nat) : List Bool → BitVec w
  | [] => 0#w
  | bit :: bits => withBit (word w bits <<< 1) bit

/-! ## The register -/

theorem getLsbD_shift (v : BitVec w) (i : Nat) :
    (shift poly v).getLsbD i = (v.getLsbD (i + 1) ^^ (v.getLsbD 0 && poly.getLsbD i)) := by
  rw [shift, BitVec.getLsbD_xor, BitVec.getLsbD_ushiftRight, Nat.add_comm 1 i]
  cases v.getLsbD 0 with
  | false => simp
  | true => simp

/-- The step is linear. -/
theorem shift_xor (x y : BitVec w) : shift poly (x ^^^ y) = shift poly x ^^^ shift poly y := by
  apply BitVec.eq_of_getLsbD_eq
  intro i _
  simp only [getLsbD_shift, BitVec.getLsbD_xor]
  cases x.getLsbD 0 <;> cases y.getLsbD 0 <;> cases x.getLsbD (i + 1) <;>
    cases y.getLsbD (i + 1) <;> cases poly.getLsbD i <;> rfl

variable {poly}

/-- The bit that falls out can be read off the top of the register. -/
theorem shift_injective (hpoly : poly.getLsbD (w - 1) = true) :
    Function.Injective (shift poly) := by
  intro x y h
  have hw : 0 < w := by
    rcases Nat.eq_zero_or_pos w with rfl | hw
    · rw [BitVec.getLsbD_of_ge _ _ (Nat.le_refl _)] at hpoly
      cases hpoly
    · exact hw
  have hbit (i : Nat) := congrArg (BitVec.getLsbD · i) h
  simp only [getLsbD_shift] at hbit
  have hlow : x.getLsbD 0 = y.getLsbD 0 := by
    have htop := hbit (w - 1)
    rwa [hpoly, Bool.and_true, Bool.and_true, Nat.sub_add_cancel hw,
      BitVec.getLsbD_of_ge x w (Nat.le_refl w), BitVec.getLsbD_of_ge y w (Nat.le_refl w),
      Bool.false_xor, Bool.false_xor] at htop
  apply BitVec.eq_of_getLsbD_eq
  intro i _
  cases i with
  | zero => exact hlow
  | succ i =>
    have hi := hbit i
    rw [hlow] at hi
    exact Bool.xor_left_inj.1 hi

/-- A word that was moved up comes down without loss. -/
theorem shift_shiftLeft {x : BitVec w} (h : x.getLsbD (w - 1) = false) :
    shift poly (x <<< 1) = x := by
  apply BitVec.eq_of_getLsbD_eq
  intro i hi
  have hlow : (x <<< 1).getLsbD 0 = false := by simp
  rw [getLsbD_shift, hlow, Bool.false_and, Bool.xor_false, BitVec.getLsbD_shiftLeft]
  by_cases htop : i + 1 < w
  · simp [htop]
  · obtain rfl : i = w - 1 := by omega
    simp [htop, h]

/-! ## Words -/

theorem getLsbD_withBit (v : BitVec w) (bit : Bool) (i : Nat) (hi : i < w) :
    (withBit v bit).getLsbD i = (v.getLsbD i ^^ (decide (i = 0) && bit)) := by
  rw [withBit, BitVec.getLsbD_xor, BitVec.getLsbD_setWidth, BitVec.getLsbD_ofBool]
  simp [hi]

theorem getLsbD_word (bits : List Bool) {i : Nat} (hi : i < w) :
    (word w bits).getLsbD i = bits.getD i false := by
  induction bits generalizing i with
  | nil => simp [word]
  | cons bit bits ih =>
    rw [word, getLsbD_withBit _ _ _ hi, BitVec.getLsbD_shiftLeft]
    cases i with
    | zero => simp
    | succ i => simp [hi, ih (Nat.lt_of_succ_lt hi)]

/-- No more bits than the width: they can be read off the word. -/
theorem word_inj {bits bits' : List Bool} (hlen : bits.length = bits'.length)
    (hw : bits.length ≤ w) (h : word w bits = word w bits') : bits = bits' := by
  apply List.ext_getElem hlen
  intro i hi hi'
  have hbit := congrArg (BitVec.getLsbD · i) h
  simp only [getLsbD_word _ (Nat.lt_of_lt_of_le hi hw)] at hbit
  rwa [List.getD_eq_getElem _ _ hi, List.getD_eq_getElem _ _ hi'] at hbit

/-! ## Runs -/

theorem run_append (v : BitVec w) (bits bits' : List Bool) :
    run poly v (bits ++ bits') = run poly (run poly v bits) bits' :=
  List.foldl_append

/-- As many bits as fit into the register may as well be added at once. -/
theorem run_eq_iterate (v : BitVec w) (bits : List Bool) (hw : bits.length ≤ w) :
    run poly v bits = (shift poly)^[bits.length] (v ^^^ word w bits) := by
  induction bits generalizing v with
  | nil => simp [run, word]
  | cons bit bits ih =>
    have htop : (word w bits).getLsbD (w - 1) = false := by
      rw [List.length_cons] at hw
      rw [getLsbD_word _ (by omega), List.getD_eq_default _ _ (by omega)]
    have hword : word w bits = shift poly (word w bits <<< 1) := (shift_shiftLeft htop).symm
    calc run poly v (bit :: bits)
        = run poly (shift poly (withBit v bit)) bits := rfl
      _ = (shift poly)^[bits.length] (shift poly (withBit v bit) ^^^ word w bits) :=
        ih _ (Nat.le_of_succ_le hw)
      _ = (shift poly)^[bits.length] (shift poly (withBit v bit ^^^ word w bits <<< 1)) := by
        rw [shift_xor, ← hword]
      _ = (shift poly)^[bits.length + 1] (v ^^^ word w (bit :: bits)) := by
        rw [Function.iterate_succ_apply, word, withBit, withBit, BitVec.xor_assoc,
          BitVec.xor_comm (word w bits <<< 1)]

section
variable (hpoly : poly.getLsbD (w - 1) = true)
include hpoly

theorem feed_injective (bit : Bool) : Function.Injective (feed poly · bit) := by
  intro x y h
  exact (BitVec.xor_left_inj _).1 (shift_injective hpoly h)

theorem run_injective (bits : List Bool) : Function.Injective (run poly · bits) := by
  induction bits with
  | nil => exact fun _ _ h => h
  | cons bit bits ih => exact fun x y h => feed_injective hpoly bit (ih h)

/-- Two messages with one CRC whose difference is in one place of at most `w` bits are equal. -/
theorem eq_of_run_append {v : BitVec w} {a b b' c : List Bool} (hlen : b.length = b'.length)
    (hw : b.length ≤ w) (h : run poly v (a ++ (b ++ c)) = run poly v (a ++ (b' ++ c))) :
    b = b' := by
  rw [run_append, run_append, run_append, run_append] at h
  have hb := run_injective hpoly c h
  rw [run_eq_iterate _ b hw, run_eq_iterate _ b' (hlen ▸ hw), ← hlen] at hb
  exact word_inj hlen hw ((BitVec.xor_right_inj _).1 ((shift_injective hpoly).iterate _ hb))

/-- **Bursts.** Two messages with one CRC that differ in at most `w` consecutive bits only are
equal. -/
theorem eq_of_burst {v : BitVec w} {bits bits' : List Bool} (hlen : bits.length = bits'.length)
    {start : Nat} (hburst : ∀ i, bits[i]? ≠ bits'[i]? → start ≤ i ∧ i < start + w)
    (h : run poly v bits = run poly v bits') : bits = bits' := by
  have hsplit (l : List Bool) :
      l = l.take start ++ ((l.drop start).take w ++ (l.drop start).drop w) := by
    rw [List.take_append_drop, List.take_append_drop]
  have hhead : bits.take start = bits'.take start := by
    apply List.ext_getElem?
    intro i
    by_cases hi : i < start
    · rw [List.getElem?_take_of_lt hi, List.getElem?_take_of_lt hi]
      exact Classical.byContradiction fun hne => Nat.not_le_of_gt hi (hburst i hne).1
    · rw [List.getElem?_take_eq_none (by omega), List.getElem?_take_eq_none (by omega)]
  have htail : (bits.drop start).drop w = (bits'.drop start).drop w := by
    apply List.ext_getElem?
    intro i
    rw [List.drop_drop, List.drop_drop, List.getElem?_drop, List.getElem?_drop]
    exact Classical.byContradiction fun hne => by
      have hlt := (hburst _ hne).2
      omega
  have hmid : (bits.drop start).take w = (bits'.drop start).take w := by
    rw [hsplit bits, hsplit bits', hhead, htail] at h
    refine eq_of_run_append hpoly ?_ (List.length_take_le _ _) h
    simp only [List.length_take, List.length_drop, hlen]
  rw [hsplit bits, hsplit bits', hhead, htail, hmid]

end
end Lib.Crc
