import Mathlib.Data.List.TakeDrop
import Mathlib.Data.List.Range

/-!
# HMAC and HKDF

The constructions of RFC 2104 and RFC 5869, over any hash. A pseudorandom function is a function of
a key and a text; `stream` is the concatenation of the first blocks `T(1)`, `T(2)`, and so on, of
which the output is a prefix.
-/

namespace Lib

/-! ## HMAC -/

section
variable (hash : List UInt8 → List UInt8) (blockSize : ℕ)

/-- The key filled up with zeros to a block, after it has been hashed if it is longer. -/
def hmacKey (key : List UInt8) : List UInt8 :=
  let key := if blockSize < key.length then hash key else key
  key ++ List.replicate (blockSize - key.length) 0

/-- The key of a block, with a byte added to each of its bytes. -/
def hmacPad (key : List UInt8) (byte : UInt8) : List UInt8 :=
  List.zipWith (· ^^^ ·) (hmacKey hash blockSize key) (List.replicate blockSize byte)

def hmac (key text : List UInt8) : List UInt8 :=
  hash (hmacPad hash blockSize key 0x5c ++ hash (hmacPad hash blockSize key 0x36 ++ text))

end

/-- Adding a byte to each byte of a block. -/
theorem zipWith_replicate_self {α β γ : Type*} (f : α → β → γ) (l : List α) (b : β) {n : ℕ}
    (h : l.length = n) : List.zipWith f l (List.replicate n b) = l.map (f · b) := by
  induction l generalizing n with
  | nil => rfl
  | cons a l ih =>
    subst h
    rw [List.length_cons, List.replicate_succ, List.zipWith_cons_cons, List.map_cons, ih rfl]

/-! ## HKDF -/

namespace Hkdf

variable (prf : List UInt8 → List UInt8 → List UInt8) (prk info : List UInt8)

/-- The block `T(i)`. -/
def block : ℕ → List UInt8
  | 0 => []
  | i + 1 => prf prk (block i ++ info ++ [UInt8.ofNat (i + 1)])

/-- The blocks `T(1)` to `T(n)`, one after the other. -/
def stream (n : ℕ) : List UInt8 := (List.range n).flatMap fun i => block prf prk info (i + 1)

/-- The output of `length` bytes, for a function whose values have `size` bytes. -/
def expand (size length : ℕ) : List UInt8 :=
  (stream prf prk info ((length + size - 1) / size)).take length

/-- Extract and expand; at most 255 blocks can be asked for. -/
def derive (size : ℕ) (ikm salt info : List UInt8) (length : ℕ) : Option (List UInt8) :=
  if length ≤ 255 * size then some (expand prf (prf salt ikm) info size length) else none

variable {prf prk info} {size i n m : ℕ}

theorem stream_succ (n : ℕ) :
    stream prf prk info (n + 1) = stream prf prk info n ++ block prf prk info (n + 1) := by
  simp [stream, List.range_succ]

theorem length_stream (hsize : ∀ key text, (prf key text).length = size) (n : ℕ) :
    (stream prf prk info n).length = size * n := by
  induction n with
  | zero => rfl
  | succ n ih => rw [stream_succ, List.length_append, ih, block, hsize, Nat.mul_succ]

/-- More blocks than needed do not change the output. -/
theorem take_stream (hsize : ∀ key text, (prf key text).length = size) (hn : n ≤ size * i)
    (hi : i ≤ m) : (stream prf prk info m).take n = (stream prf prk info i).take n := by
  induction m, hi using Nat.le_induction with
  | base => rfl
  | succ m hi ih =>
    have hle : n ≤ (stream prf prk info m).length := by
      rw [length_stream hsize]
      exact hn.trans (Nat.mul_le_mul_left _ hi)
    rw [stream_succ, List.take_append_of_le_length hle, ih]

theorem length_expand (hpos : 0 < size) (hsize : ∀ key text, (prf key text).length = size)
    (length : ℕ) : (expand prf prk info size length).length = length := by
  have hblocks : length ≤ size * ((length + size - 1) / size) := by
    have := Nat.div_add_mod (length + size - 1) size
    have := Nat.mod_lt (length + size - 1) hpos
    omega
  rw [expand, List.length_take, length_stream hsize, Nat.min_eq_left hblocks]

/-- The output is what any number of blocks that suffices starts with. -/
theorem expand_eq (hpos : 0 < size) (hsize : ∀ key text, (prf key text).length = size) {length : ℕ}
    (h : length ≤ size * n) :
    expand prf prk info size length = (stream prf prk info n).take length := by
  have hblocks : length ≤ size * ((length + size - 1) / size) := by
    have := Nat.div_add_mod (length + size - 1) size
    have := Nat.mod_lt (length + size - 1) hpos
    omega
  rcases Nat.le_total ((length + size - 1) / size) n with hle | hle
  · exact (take_stream hsize hblocks hle).symm
  · exact take_stream hsize h hle

/-- A shorter output is a prefix of a longer one. -/
theorem expand_prefix (hpos : 0 < size) (hsize : ∀ key text, (prf key text).length = size)
    (h : n ≤ m) : expand prf prk info size n <+: expand prf prk info size m := by
  have hm : m ≤ size * m := Nat.le_mul_of_pos_left m hpos
  rw [expand_eq hpos hsize (h.trans hm), expand_eq hpos hsize hm]
  exact List.take_prefix_take_left h

end Hkdf
end Lib
