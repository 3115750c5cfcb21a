import Drmid.Kernel.Bytes

/-!
# `sha256` and the fingerprint of a virtual ID

The hash of `runtime_profile.cpp`, with its buffered `update`, and `virtual_id_fingerprint`. The
array `buffer_` is the list of the bytes buffered so far, whose length is `buffered_`: no byte of
the array past them is read before it has been written.
-/

namespace Drmid

def rotr (value bits : UInt32) : UInt32 := (value >>> bits) ||| (value <<< (32 - bits))

/-- The words `state_[0] .. state_[7]`, and the variables `a .. h` of `transform`. -/
structure Sha256State where
  a : UInt32
  b : UInt32
  c : UInt32
  d : UInt32
  e : UInt32
  f : UInt32
  g : UInt32
  h : UInt32
  deriving DecidableEq, Repr

/-- The table `k` of `transform`. -/
def sha256K : List UInt32 := [
  0x428a2f98, 0x71374491, 0xb5c0fbcf, 0xe9b5dba5, 0x3956c25b, 0x59f111f1, 0x923f82a4, 0xab1c5ed5,
  0xd807aa98, 0x12835b01, 0x243185be, 0x550c7dc3, 0x72be5d74, 0x80deb1fe, 0x9bdc06a7, 0xc19bf174,
  0xe49b69c1, 0xefbe4786, 0x0fc19dc6, 0x240ca1cc, 0x2de92c6f, 0x4a7484aa, 0x5cb0a9dc, 0x76f988da,
  0x983e5152, 0xa831c66d, 0xb00327c8, 0xbf597fc7, 0xc6e00bf3, 0xd5a79147, 0x06ca6351, 0x14292967,
  0x27b70a85, 0x2e1b2138, 0x4d2c6dfc, 0x53380d13, 0x650a7354, 0x766a0abb, 0x81c2c92e, 0x92722c85,
  0xa2bfe8a1, 0xa81a664b, 0xc24b8b70, 0xc76c51a3, 0xd192e819, 0xd6990624, 0xf40e3585, 0x106aa070,
  0x19a4c116, 0x1e376c08, 0x2748774c, 0x34b0bcb5, 0x391c0cb3, 0x4ed8aa4a, 0x5b9cca4f, 0x682e6ff3,
  0x748f82ee, 0x78a5636f, 0x84c87814, 0x8cc70208, 0x90befffa, 0xa4506ceb, 0xbef9a3f7, 0xc67178f2]

/-- A big-endian word of a block. -/
def be32 (block : Bytes) (i : Nat) : UInt32 :=
  (block.getD (i * 4) 0).toUInt32 <<< 24 ||| (block.getD (i * 4 + 1) 0).toUInt32 <<< 16 |||
    (block.getD (i * 4 + 2) 0).toUInt32 <<< 8 ||| (block.getD (i * 4 + 3) 0).toUInt32

/-- `w[i]` for `16 ≤ i`, from the `i` words before it. -/
def scheduleWord (w : List UInt32) : UInt32 :=
  let i := w.length
  let w15 := w.getD (i - 15) 0
  let w2 := w.getD (i - 2) 0
  let s0 := rotr w15 7 ^^^ rotr w15 18 ^^^ (w15 >>> 3)
  let s1 := rotr w2 17 ^^^ rotr w2 19 ^^^ (w2 >>> 10)
  w.getD (i - 16) 0 + s0 + w.getD (i - 7) 0 + s1

/-- The array `w` of `transform`. -/
def schedule (block : Bytes) : List UInt32 :=
  Nat.iterate (fun w => w ++ [scheduleWord w]) 48 ((List.range 16).map (be32 block))

namespace Sha256State

/-- One pass of the last loop of `transform`. -/
def round (s : Sha256State) (k w : UInt32) : Sha256State :=
  let s1 := rotr s.e 6 ^^^ rotr s.e 11 ^^^ rotr s.e 25
  let ch := (s.e &&& s.f) ^^^ (~~~s.e &&& s.g)
  let t1 := s.h + s1 + ch + k + w
  let s0 := rotr s.a 2 ^^^ rotr s.a 13 ^^^ rotr s.a 22
  let maj := (s.a &&& s.b) ^^^ (s.a &&& s.c) ^^^ (s.b &&& s.c)
  let t2 := s0 + maj
  ⟨t1 + t2, s.a, s.b, s.c, s.d + t1, s.e, s.f, s.g⟩

def transform (s : Sha256State) (block : Bytes) : Sha256State :=
  let v := (sha256K.zip (schedule block)).foldl (fun v kw => v.round kw.1 kw.2) s
  ⟨s.a + v.a, s.b + v.b, s.c + v.c, s.d + v.d, s.e + v.e, s.f + v.f, s.g + v.g, s.h + v.h⟩

/-- The words in the order of `state_`. -/
def words (s : Sha256State) : List UInt32 := [s.a, s.b, s.c, s.d, s.e, s.f, s.g, s.h]

end Sha256State

structure Sha256 where
  state : Sha256State
  buffer : Bytes
  totalBytes : UInt64
  deriving DecidableEq, Repr

namespace Sha256

def reset : Sha256 where
  state := ⟨0x6a09e667, 0xbb67ae85, 0x3c6ef372, 0xa54ff53a, 0x510e527f, 0x9b05688c, 0x1f83d9ab,
    0x5be0cd19⟩
  buffer := []
  totalBytes := 0

/-- The loop of `update`, for at most `passes` passes. A pass takes at least one byte. -/
def absorb : Nat → Sha256 → Bytes → Sha256
  | 0, hash, _ => hash
  | passes + 1, hash, data =>
    if data.isEmpty then hash
    else
      let take := min data.length (64 - hash.buffer.length)
      let buffer := hash.buffer ++ data.take take
      let hash :=
        if buffer.length = 64 then { hash with state := hash.state.transform buffer, buffer := [] }
        else { hash with buffer := buffer }
      absorb passes hash (data.drop take)

def update (hash : Sha256) (data : Bytes) : Sha256 :=
  absorb data.length { hash with totalBytes := hash.totalBytes + UInt64.ofNat data.length } data

/-- The blocks that `finish` transforms: the padding, and a block of its own for the length where
it does not fit behind it. -/
def finalBlocks (hash : Sha256) : List Bytes :=
  let totalBits := hash.totalBytes * 8
  let lengthBytes := (leBytes 8 totalBits).reverse
  let buffer := hash.buffer ++ [0x80]
  if 56 < buffer.length then
    [buffer ++ List.replicate (64 - buffer.length) 0, List.replicate 56 0 ++ lengthBytes]
  else [buffer ++ List.replicate (56 - buffer.length) 0 ++ lengthBytes]

def finish (hash : Sha256) : Bytes :=
  let state := hash.finalBlocks.foldl Sha256State.transform hash.state
  state.words.flatMap fun w : UInt32 =>
    [(w >>> 24).toUInt8, (w >>> 16).toUInt8, (w >>> 8).toUInt8, w.toUInt8]

end Sha256

def sha256 (data : Bytes) : Bytes := (Sha256.reset.update data).finish

/-- The first eight bytes of the hash as a little-endian word; 0 for no data. -/
def virtualIdFingerprint (data : Bytes) : UInt64 :=
  if data.isEmpty then 0 else le64 fun i => (sha256 data).getD i 0

end Drmid
