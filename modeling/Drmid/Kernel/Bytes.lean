import Mathlib.Logic.Function.Iterate

/-!
# Little-endian words and `crc32`

The byte-level vocabulary of the records, copies and texts: loads of 32-bit and 64-bit words, the
bytes of a word, decimal digits with the `strtol` and `strtoul` that read them, the search for a
text in another, and the `crc32` that `control_ipc.cpp`, `runtime_control.cpp`,
`runtime_profile.cpp` and `binder_ioctl_resolver.cpp` each define in the same way. `le32_leBytes`
and `le64_leBytes` are the round trips, `leBytes_le32` and `leBytes_le64` those the other way.
-/

namespace Drmid

/-- A `std::string` of bytes. -/
abbrev Bytes := List UInt8

/-- The bytes of a literal. -/
def ascii (s : String) : Bytes := s.toList.map fun c => c.toNat.toUInt8

/-- `'0' .. '9'`. -/
def isDigit (b : UInt8) : Bool := decide (48 ≤ b) && decide (b ≤ 57)

/-- The value of decimal digits. -/
def decimalValue (digits : Bytes) : Nat :=
  digits.foldl (fun value ch => value * 10 + (ch.toNat - 48)) 0

def isSpace (b : UInt8) : Bool := b == 32 || (decide (9 ≤ b) && decide (b ≤ 13))

/-- `std::strtol(text, &end, 10)`: the value and the text from `end` on, if there is a number. -/
def strtol (text : List UInt8) : Option (Int × List UInt8) :=
  let rest := text.dropWhile isSpace
  let (sign, rest) : Int × List UInt8 := match rest with
    | 43 :: r => (1, r)
    | 45 :: r => (-1, r)
    | r => (1, r)
  let digits := rest.takeWhile isDigit
  if digits = [] then none
  else
    let value : Nat := digits.foldl (fun n d => n * 10 + (d.toNat - 48)) 0
    some (sign * value, rest.dropWhile isDigit)

/-- `strtoul(text, &end, 10)`: the value, none with `ERANGE`, and the text from `end` on, if there
is a number. A minus sign negates the value as an unsigned one. -/
def strtoul (text : Bytes) : Option (Option UInt64 × Bytes) :=
  (strtol text).map fun (value, rest) =>
    (if 0xffffffffffffffff < value.natAbs then none else some (.ofInt value), rest)

/-- `text.find(pattern)`: the text from the first occurrence on. -/
def findText (pattern : List UInt8) : List UInt8 → Option (List UInt8)
  | [] => if pattern.isEmpty then some [] else none
  | b :: text =>
    if pattern.isPrefixOf (b :: text) then some (b :: text) else findText pattern text

/-- A little-endian 32-bit load of the bytes `b 0 .. b 3`. -/
def le32 (b : Nat → UInt8) : UInt32 :=
  (b 0).toUInt32 ||| (b 1).toUInt32 <<< 8 ||| (b 2).toUInt32 <<< 16 ||| (b 3).toUInt32 <<< 24

/-- A little-endian 64-bit load of the bytes `b 0 .. b 7`. -/
def le64 (b : Nat → UInt8) : UInt64 :=
  (le32 b).toUInt64 ||| (le32 fun i => b (i + 4)).toUInt64 <<< 32

/-- The `n` low bytes of `w`, lowest first. -/
def leBytes (n : Nat) (w : UInt64) : List UInt8 :=
  (List.range n).map fun i => (w >>> UInt64.ofNat (8 * i)).toUInt8

/-- One bit of `crc32`. -/
def crc32Bit (value : UInt32) : UInt32 :=
  let mask := 0 - (value &&& 1)
  (value >>> 1) ^^^ (0xedb88320 &&& mask)

def crc32 (data : List UInt8) : UInt32 :=
  data.foldl (fun value b => Nat.iterate crc32Bit 8 (value ^^^ b.toUInt32)) 0xffffffff ^^^ 0xffffffff

/-! ## Loads of equal bytes -/

theorem le32_congr {b b' : Nat → UInt8} (h : ∀ i < 4, b i = b' i) : le32 b = le32 b' := by
  simp only [le32, h 0 (by omega), h 1 (by omega), h 2 (by omega), h 3 (by omega)]

theorem le64_congr {b b' : Nat → UInt8} (h : ∀ i < 8, b i = b' i) : le64 b = le64 b' := by
  rw [le64, le64, le32_congr fun i hi => h i (by omega),
    le32_congr fun i hi => h (i + 4) (by omega)]

/-! ## Round trips -/

@[simp] theorem length_leBytes (n : Nat) (w : UInt64) : (leBytes n w).length = n := by
  simp [leBytes]

theorem leBytes_getD {n i : Nat} (w : UInt64) (h : i < n) :
    (leBytes n w).getD i 0 = (w >>> UInt64.ofNat (8 * i)).toUInt8 := by
  simp [leBytes, h]

/-- The bits of `n` bits of a word, cut out at `k + off` and put down at `k`. -/
theorem getLsbD_chunk {v width : Nat} (w : BitVec v) (n k off : Nat) {i : Nat} (hi : i < width) :
    ((w >>> (k + off)).setWidth n |>.setWidth width |>.shiftLeft k).getLsbD i =
      (decide (k ≤ i) && decide (i < k + n) && w.getLsbD (i + off)) := by
  show (((w >>> (k + off)).setWidth n |>.setWidth width) <<< k).getLsbD i = _
  simp only [BitVec.getLsbD_shiftLeft, BitVec.getLsbD_setWidth, BitVec.getLsbD_ushiftRight]
  by_cases hk : k ≤ i
  · rw [show k + off + (i - k) = i + off by omega]
    have hlt : i - k < width := by omega
    by_cases hn : i < k + n
    · have hn' : i - k < n := by omega
      have hk' : ¬i < k := by omega
      simp [hk, hn, hi, hlt, hn', hk']
    · have hn' : ¬i - k < n := by omega
      simp [hn, hn']
  · have hk' : i < k := by omega
    simp [hk, hk']

theorem shiftLeft_zero' {width : Nat} (x : BitVec width) : x.shiftLeft 0 = x :=
  BitVec.shiftLeft_zero x

/-- Four chunks of eight bits make 32. -/
theorem chunks_eight (w : BitVec 64) (off : Nat) :
    ((w >>> off).setWidth 8 |>.setWidth 32) |||
      ((w >>> (8 + off)).setWidth 8 |>.setWidth 32 |>.shiftLeft 8) |||
      ((w >>> (16 + off)).setWidth 8 |>.setWidth 32 |>.shiftLeft 16) |||
      ((w >>> (24 + off)).setWidth 8 |>.setWidth 32 |>.shiftLeft 24) =
        (w >>> off).setWidth 32 := by
  apply BitVec.eq_of_getLsbD_eq
  intro i hi
  have h0 := getLsbD_chunk w 8 0 off hi
  rw [Nat.zero_add, shiftLeft_zero'] at h0
  rw [BitVec.getLsbD_or, BitVec.getLsbD_or, BitVec.getLsbD_or, h0, getLsbD_chunk w 8 8 off hi,
    getLsbD_chunk w 8 16 off hi, getLsbD_chunk w 8 24 off hi, BitVec.getLsbD_setWidth,
    BitVec.getLsbD_ushiftRight, Nat.add_comm off i]
  cases w.getLsbD (i + off) with
  | false => simp
  | true => simp [hi]; omega

/-- Two halves make the word. -/
theorem chunks_thirtyTwo (w : BitVec 64) :
    (w.setWidth 32 |>.setWidth 64) ||| ((w >>> 32).setWidth 32 |>.setWidth 64 |>.shiftLeft 32) =
      w := by
  apply BitVec.eq_of_getLsbD_eq
  intro i hi
  have h0 := getLsbD_chunk w 32 0 0 hi
  rw [BitVec.ushiftRight_zero, shiftLeft_zero'] at h0
  rw [BitVec.getLsbD_or, h0, getLsbD_chunk w 32 32 0 hi, Nat.add_zero]
  cases w.getLsbD i with
  | false => simp
  | true => simp; omega

theorem le32_lo (w : UInt64) : le32 (fun i => (w >>> UInt64.ofNat (8 * i)).toUInt8) =
    w.toUInt32 :=
  UInt32.eq_of_toBitVec_eq (by
    have h := chunks_eight w.toBitVec 0
    exact h)

theorem le32_hi (w : UInt64) : le32 (fun i => (w >>> UInt64.ofNat (8 * (i + 4))).toUInt8) =
    (w >>> 32).toUInt32 :=
  UInt32.eq_of_toBitVec_eq (by
    have h := chunks_eight w.toBitVec 32
    exact h)

theorem le64_leBytes (w : UInt64) : le64 (fun i => (leBytes 8 w).getD i 0) = w := by
  have h : le64 (fun i => (leBytes 8 w).getD i 0) =
      le64 fun i => (w >>> UInt64.ofNat (8 * i)).toUInt8 :=
    le64_congr fun i hi => leBytes_getD w hi
  rw [h, le64, le32_lo, le32_hi]
  exact UInt64.eq_of_toBitVec_eq (chunks_thirtyTwo w.toBitVec)

theorem le32_leBytes (w : UInt32) : le32 (fun i => (leBytes 4 w.toUInt64).getD i 0) = w := by
  have h : le32 (fun i => (leBytes 4 w.toUInt64).getD i 0) =
      le32 fun i => (w.toUInt64 >>> UInt64.ofNat (8 * i)).toUInt8 :=
    le32_congr fun i hi => leBytes_getD w.toUInt64 hi
  rw [h, le32_lo, UInt32.toUInt32_toUInt64]

/-! ## Bytes of a loaded word -/

theorem toBitVec_shiftRight_ofNat (w : UInt64) {n : Nat} (h : n < 64) :
    (w >>> UInt64.ofNat n).toBitVec = w.toBitVec >>> n := by
  have htoNat : ((UInt64.ofNat n).toBitVec % 64).toNat = n := by
    rw [BitVec.toNat_umod, UInt64.toNat_toBitVec,
      UInt64.toNat_ofNat_of_lt' (by rw [UInt64.size]; omega)]
    exact Nat.mod_eq_of_lt h
  rw [UInt64.toBitVec_shiftRight, BitVec.ushiftRight_eq', htoNat]

/-- A chunk of `n` bits put down at `k` and cut out at `j`. -/
theorem chunk_shiftLeft {n width : Nat} (x : BitVec n) {j k : Nat} (hj : j + n ≤ width)
    (h : j = k ∨ j + n ≤ k ∨ k + n ≤ j) :
    ((x.setWidth width <<< k) >>> j).setWidth n = if j = k then x else 0#n := by
  apply BitVec.eq_of_getLsbD_eq
  intro i hi
  rw [BitVec.getLsbD_setWidth, BitVec.getLsbD_ushiftRight, BitVec.getLsbD_shiftLeft,
    BitVec.getLsbD_setWidth]
  by_cases hjk : j = k
  · subst hjk
    have h1 : j + i < width := by omega
    have h2 : i < width := by omega
    simp [hi, h1, h2]
  · rcases h.resolve_left hjk with h | h
    · have hlt : j + i < k := by omega
      simp [hlt, hjk]
    · have hge : x.getLsbD (j + i - k) = false := BitVec.getLsbD_of_ge _ _ (by omega)
      simp [hge, hjk]

/-- Byte `j` of a 32-bit load. -/
theorem chunk_le32 (b : Nat → UInt8) {j : Nat} (hj : j < 4) :
    (((le32 b).toBitVec.setWidth 64) >>> (8 * j)).setWidth 8 = (b j).toBitVec := by
  have hle : (le32 b).toBitVec = (b 0).toBitVec.setWidth 32 |||
      (b 1).toBitVec.setWidth 32 <<< (8 : Nat) ||| (b 2).toBitVec.setWidth 32 <<< (16 : Nat) |||
      (b 3).toBitVec.setWidth 32 <<< (24 : Nat) := rfl
  have hwide : (((le32 b).toBitVec.setWidth 64) >>> (8 * j)).setWidth 8 =
      ((le32 b).toBitVec >>> (8 * j)).setWidth 8 := by
    apply BitVec.eq_of_getLsbD_eq
    intro i hi
    have h : 8 * j + i < 64 := by omega
    simp [hi, h]
  have hchunk (i k : Nat) (hk : 8 * j = k ∨ 8 * j + 8 ≤ k ∨ k + 8 ≤ 8 * j) :=
    @chunk_shiftLeft 8 32 (b i).toBitVec (8 * j) k (by omega) hk
  have h0 := hchunk 0 0 (by omega)
  rw [BitVec.shiftLeft_zero] at h0
  rw [hwide, hle, BitVec.ushiftRight_or_distrib, BitVec.ushiftRight_or_distrib,
    BitVec.ushiftRight_or_distrib, BitVec.setWidth_or, BitVec.setWidth_or, BitVec.setWidth_or, h0,
    hchunk 1 8 (by omega), hchunk 2 16 (by omega), hchunk 3 24 (by omega)]
  have h : j = 0 ∨ j = 1 ∨ j = 2 ∨ j = 3 := by omega
  rcases h with rfl | rfl | rfl | rfl <;> simp

theorem leBytes_le32 (b : Nat → UInt8) : leBytes 4 (le32 b).toUInt64 = (List.range 4).map b := by
  refine List.map_congr_left fun j hj => UInt8.eq_of_toBitVec_eq ?_
  have hj : j < 4 := List.mem_range.1 hj
  show ((le32 b).toUInt64 >>> UInt64.ofNat (8 * j)).toBitVec.setWidth 8 = _
  rw [toBitVec_shiftRight_ofNat _ (by omega)]
  exact chunk_le32 b hj

/-- The upper half of a 64-bit load, moved down by four bytes or more. -/
theorem upperHalf_shiftRight (hi : BitVec 32) {n : Nat} (h : 32 ≤ n) :
    (hi.setWidth 64 <<< (32 : Nat)) >>> n = hi.setWidth 64 >>> (n - 32) := by
  apply BitVec.eq_of_getLsbD_eq
  intro i _
  rw [BitVec.getLsbD_ushiftRight, BitVec.getLsbD_ushiftRight, BitVec.getLsbD_shiftLeft,
    show n + i - 32 = n - 32 + i by omega]
  have hge : ¬n + i < 32 := by omega
  by_cases hlt : n + i < 64
  · simp [hlt, hge]
  · have hzero : hi.getLsbD (n - 32 + i) = false := BitVec.getLsbD_of_ge _ _ (by omega)
    simp [hzero]

theorem leBytes_le64 (b : Nat → UInt8) : leBytes 8 (le64 b) = (List.range 8).map b := by
  refine List.map_congr_left fun j hj => UInt8.eq_of_toBitVec_eq ?_
  have hj : j < 8 := List.mem_range.1 hj
  show (le64 b >>> UInt64.ofNat (8 * j)).toBitVec.setWidth 8 = _
  rw [toBitVec_shiftRight_ofNat _ (by omega)]
  have hle : (le64 b).toBitVec = (le32 b).toBitVec.setWidth 64 |||
      (le32 fun i => b (i + 4)).toBitVec.setWidth 64 <<< (32 : Nat) := rfl
  rw [hle, BitVec.ushiftRight_or_distrib, BitVec.setWidth_or]
  by_cases hlo : j < 4
  · have hzero : (((le32 fun i => b (i + 4)).toBitVec.setWidth 64 <<< (32 : Nat)) >>>
        (8 * j)).setWidth 8 = 0#8 := by
      apply BitVec.eq_of_getLsbD_eq
      intro i hi
      have h : 8 * j + i < 32 := by omega
      simp [h]
    rw [chunk_le32 b hlo, hzero, BitVec.or_zero]
  · have hzero : ((le32 b).toBitVec.setWidth 64 >>> (8 * j)).setWidth 8 = 0#8 := by
      apply BitVec.eq_of_getLsbD_eq
      intro i hi
      have h : (le32 b).toBitVec.getLsbD (8 * j + i) = false := BitVec.getLsbD_of_ge _ _ (by omega)
      simp [h]
    have hhi := chunk_le32 (fun i => b (i + 4)) (show j - 4 < 4 by omega)
    rw [hzero, upperHalf_shiftRight _ (by omega), show 8 * j - 32 = 8 * (j - 4) by omega, hhi,
      BitVec.zero_or, Nat.sub_add_cancel (by omega)]

end Drmid
