import Mathlib.Algebra.Order.Ring.Nat
import Mathlib.Data.Nat.NthRoot.Defs
import Drmid.Lib.Blocks

/-!
# SHA-256

The hash of FIPS 180-4 for messages of whole bytes: the functions, the constants (the first 32 bits
of the fractional parts of roots of primes), the padding and the computation. The standard defines
it for messages of fewer than `2 ^ 61` bytes, whose length in bits fits its 64-bit field.
-/

namespace Lib.Fips180

abbrev Word := BitVec 32

/-! ## Functions -/

def ch (x y z : Word) : Word := (x &&& y) ^^^ (~~~x &&& z)

def maj (x y z : Word) : Word := (x &&& y) ^^^ (x &&& z) ^^^ (y &&& z)

/-- The function `Σ` with index 0. -/
def bigSigma0 (x : Word) : Word := x.rotateRight 2 ^^^ x.rotateRight 13 ^^^ x.rotateRight 22

/-- The function `Σ` with index 1. -/
def bigSigma1 (x : Word) : Word := x.rotateRight 6 ^^^ x.rotateRight 11 ^^^ x.rotateRight 25

/-- The function `σ` with index 0. -/
def smallSigma0 (x : Word) : Word := x.rotateRight 7 ^^^ x.rotateRight 18 ^^^ x >>> 3

/-- The function `σ` with index 1. -/
def smallSigma1 (x : Word) : Word := x.rotateRight 17 ^^^ x.rotateRight 19 ^^^ x >>> 10

/-! ## Constants -/

def primesBelow (n : ℕ) : List ℕ :=
  (List.range n).filter fun p => 2 ≤ p && (List.range p).all fun d => d < 2 || p % d != 0

/-- The first 32 bits of the fractional part of the `k`th root of `p`. -/
def rootFraction (k p : ℕ) : Word := BitVec.ofNat 32 (Nat.nthRoot k (p * 2 ^ (32 * k)))

/-- The constants of the rounds, from the cube roots of the first 64 primes. -/
def roundConstants : List Word := (primesBelow 312).map (rootFraction 3)

/-- The hash value, and the working variables. -/
structure Words where
  a : Word
  b : Word
  c : Word
  d : Word
  e : Word
  f : Word
  g : Word
  h : Word
  deriving DecidableEq

/-- The initial hash value, from the square roots of the first eight primes. -/
def initial : Words where
  a := rootFraction 2 2
  b := rootFraction 2 3
  c := rootFraction 2 5
  d := rootFraction 2 7
  e := rootFraction 2 11
  f := rootFraction 2 13
  g := rootFraction 2 17
  h := rootFraction 2 19

/-! ## Bytes -/

/-- The number that bytes stand for, highest first. -/
def bigEndian (bytes : List UInt8) : ℕ := bytes.foldl (fun n b => n <<< 8 + b.toNat) 0

/-- The low `n` bytes of a number, highest first. -/
def toBigEndian (n v : ℕ) : List UInt8 :=
  (List.range n).map fun i => UInt8.ofNat (v / 2 ^ (8 * (n - 1 - i)))

theorem length_toBigEndian (n v : ℕ) : (toBigEndian n v).length = n := by
  simp [toBigEndian]

/-- Only the low bytes count. -/
theorem toBigEndian_mod (n v : ℕ) : toBigEndian n (v % 2 ^ (8 * n)) = toBigEndian n v := by
  refine List.map_congr_left fun i hi => UInt8.toNat_inj.1 ?_
  have hlt := List.mem_range.1 hi
  obtain ⟨m, hm⟩ : ∃ m, n = (n - 1 - i) + (m + 1) := ⟨i, by omega⟩
  have hpow : 2 ^ (8 * n) = 2 ^ (8 * (n - 1 - i)) * (2 ^ 8 * 2 ^ (8 * m)) := by
    rw [← Nat.pow_add, ← Nat.pow_add]
    congr 1
    omega
  rw [UInt8.toNat_ofNat', UInt8.toNat_ofNat', hpow, Nat.mod_mul_right_div_self,
    Nat.mod_mod_of_dvd _ (Nat.dvd_mul_right _ _)]

/-- What is appended to a message of `n` bytes: a one bit, zeros up to the last eight bytes of a
block, and the length in bits. -/
def padding (n : ℕ) : List UInt8 :=
  0x80 :: List.replicate ((119 - n % 64) % 64) 0 ++ toBigEndian 8 (8 * n)

/-! ## The hash -/

/-- The `t`th word of a block. -/
def messageWord (block : List UInt8) (t : ℕ) : Word :=
  BitVec.ofNat 32 (bigEndian ((block.drop (4 * t)).take 4))

/-- The message schedule. -/
def schedule (block : List UInt8) (t : ℕ) : Word :=
  if t < 16 then messageWord block t
  else smallSigma1 (schedule block (t - 2)) + schedule block (t - 7) +
    smallSigma0 (schedule block (t - 15)) + schedule block (t - 16)

def round (v : Words) (k w : Word) : Words :=
  let t₁ := v.h + bigSigma1 v.e + ch v.e v.f v.g + k + w
  let t₂ := bigSigma0 v.a + maj v.a v.b v.c
  ⟨t₁ + t₂, v.a, v.b, v.c, v.d + t₁, v.e, v.f, v.g⟩

/-- The hash value after one more block. -/
def compress (H : Words) (block : List UInt8) : Words :=
  let v := (List.range 64).foldl
    (fun v t => round v (roundConstants.getD t 0) (schedule block t)) H
  ⟨H.a + v.a, H.b + v.b, H.c + v.c, H.d + v.d, H.e + v.e, H.f + v.f, H.g + v.g, H.h + v.h⟩

/-- The bytes of a hash value. -/
def Words.bytes (H : Words) : List UInt8 :=
  [H.a, H.b, H.c, H.d, H.e, H.f, H.g, H.h].flatMap fun w => toBigEndian 4 w.toNat

def sha256 (message : List UInt8) : List UInt8 :=
  ((blocks 64 (message ++ padding message.length)).foldl compress initial).bytes

theorem length_sha256 (message : List UInt8) : (sha256 message).length = 32 := by
  simp [sha256, Words.bytes, length_toBigEndian]

end Lib.Fips180
