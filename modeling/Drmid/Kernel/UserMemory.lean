import Drmid.Kernel.Bytes

/-!
# User memory as the handler sees it

The handler reaches user space only through the SDK's `copy_from_user` and `copy_to_user`
wrappers. A copy moves every byte and returns 0, or moves none and returns non-zero; which of the
two happens is a property of the range (`readable`, `writable`), arbitrary in every theorem. Both
wrappers keep every register but `x0`, as the code around them relies on. Addresses are 64-bit and
wrap.

`stores` is a ghost: the successful `copy_to_user` calls, oldest first. It tells a write of bytes
that were there already from no write at all.
-/

namespace Drmid

structure UserMemory where
  byte : UInt64 → UInt8
  readable : UInt64 → Nat → Bool
  writable : UInt64 → Nat → Bool
  stores : List (UInt64 × List UInt8)

namespace UserMemory

/-- A memory that holds `bytes` from `base` on and zeros elsewhere, all of it accessible. -/
def ofBytes (base : UInt64) (bytes : List UInt8) : UserMemory where
  byte a := bytes.getD (a - base).toNat 0
  readable _ _ := true
  writable _ _ := true
  stores := []

/-- The 32-bit word at a user address. -/
def word32 (u : UserMemory) (addr : UInt64) : UInt32 :=
  le32 fun i => u.byte (addr + UInt64.ofNat i)

/-- `copy_from_user` of `n` bytes: the bytes by their index, or a fault. -/
def copyFromUser (u : UserMemory) (src : UInt64) (n : Nat) : Option (Nat → UInt8) :=
  if u.readable src n then some fun i => u.byte (src + UInt64.ofNat i) else none

/-- The bytes after `data` has been stored from `dst` on. -/
def store (u : UserMemory) (dst : UInt64) (data : List UInt8) : UserMemory :=
  { u with
    byte := fun a => data.getD (a - dst).toNat (u.byte a)
    stores := u.stores ++ [(dst, data)] }

/-- `copy_to_user`: the memory after the copy, or a fault. -/
def copyToUser (u : UserMemory) (dst : UInt64) (data : List UInt8) : Option UserMemory :=
  if u.writable dst data.length then some (u.store dst data) else none

theorem copyFromUser_ok {u : UserMemory} {src : UInt64} {n : Nat} (h : u.readable src n = true) :
    u.copyFromUser src n = some fun i => u.byte (src + UInt64.ofNat i) := by
  simp [copyFromUser, h]

theorem copyFromUser_fault {u : UserMemory} {src : UInt64} {n : Nat}
    (h : u.readable src n = false) : u.copyFromUser src n = none := by
  simp [copyFromUser, h]

theorem store_byte_inside {u : UserMemory} {dst a : UInt64} {data : List UInt8}
    (h : (a - dst).toNat < data.length) : (u.store dst data).byte a = data[(a - dst).toNat] := by
  simp [store, List.getD_eq_getElem?_getD, h]

theorem store_byte_outside {u : UserMemory} {dst a : UInt64} {data : List UInt8}
    (h : data.length ≤ (a - dst).toNat) : (u.store dst data).byte a = u.byte a := by
  simp [store, List.getD_eq_getElem?_getD, List.getElem?_eq_none h]

end UserMemory
end Drmid
