import Drmid.Hook.Parcel

/-!
# Request parcels

What a client writes for `getPropertyByteArray`: some interface-token header words, the descriptor
`kDrmPlugin` as a String16 (with a build-domain word between length and characters on some
platforms), the property name as a String16, and whatever follows. `ParcelAt` puts the parcel where
a transaction's data says it is.
-/

namespace Drmid

/-! ## Strings -/

/-- A UTF-16 string whose length fits its length word. -/
structure String16 where
  units : List UInt16
  length_lt : units.length < UInt32.size

/-- A UTF-16 unit in memory. -/
def unitBytes (unit : UInt16) : List UInt8 := [unit.toUInt8, (unit >>> 8).toUInt8]

/-- A 32-bit word in memory. -/
def wordBytes (word : UInt32) : List UInt8 := leBytes 4 word.toUInt64

/-- Characters with their terminator. -/
def terminated (units : List UInt16) : List UInt8 := units.flatMap unitBytes ++ [0, 0]

/-- The units of a string of 16-bit characters. -/
def units (value : String) : List UInt16 := value.toList.map fun c => c.val.toUInt16

/-- Length word, characters, terminator and padding. -/
def String16.bytes (q : String16) : List UInt8 :=
  let raw := wordBytes (UInt32.ofNat q.units.length) ++ terminated q.units
  raw ++ List.replicate (align4 raw.length - raw.length) 0

/-! ## Parcels -/

/-- A request parcel: at most three header words, the descriptor with or without a build-domain
word `tag`, the property name and the rest. -/
structure RequestParcel where
  header : List UInt8
  tag : Option UInt32
  property : String16
  trailing : List UInt8
  header_words : header.length % 4 = 0
  header_le : header.length ≤ 12

namespace RequestParcel

/-- The interface token: header, length word, tag and descriptor. -/
def token (p : RequestParcel) : List UInt8 :=
  p.header ++ wordBytes 31 ++ (p.tag.map wordBytes).getD [] ++ terminated (units kDrmPlugin)

def bytes (p : RequestParcel) : List UInt8 := p.token ++ p.property.bytes ++ p.trailing

/-- The tag is one of the build-domain words. -/
def headered (p : RequestParcel) : Bool := p.tag.any fun w => kDomainMagics.contains w

/-- Where the characters of the descriptor start. -/
def charsOffset (p : RequestParcel) : Nat := p.header.length + if p.tag.isSome then 8 else 4

end RequestParcel

/-- The data of a transaction is `bytes`, in a buffer that can be read. -/
structure ParcelAt (u : UserMemory) (td : BinderTransactionData) (bytes : List UInt8) : Prop where
  nonnull : td.buffer ≠ 0
  size : td.dataSize.toNat = bytes.length
  holds : ∀ i < bytes.length, u.byte (td.buffer + UInt64.ofNat i) = bytes.getD i 0
  readable : ∀ n ≤ bytes.length, u.readable td.buffer n = true

/-! ## Recognition -/

/-- The token offset at which the scan finds the descriptor, with the header extra of its form. -/
def recognised (s : ParserScratch) (size : Nat) : Option (Nat × UInt32) :=
  tokenOffsets.findSome? fun off =>
    (descriptorForm s size kDrmPlugin off).map fun extra => (off, extra)

/-- The name `deviceUniqueId` with its terminator at `off` of the copied bytes, as UTF-16. -/
def Utf16NameAt (s : ParserScratch) (size off : Nat) : Prop :=
  off + (kDeviceUniqueId.length + 1) * 2 ≤ size ∧
    ∀ j ≤ kDeviceUniqueId.length, s.parcelHalf (off + 2 * j) = (units kDeviceUniqueId).getD j 0

/-- The same as UTF-8. -/
def Utf8NameAt (s : ParserScratch) (size off : Nat) : Prop :=
  off + (kDeviceUniqueId.length + 1) ≤ size ∧
    ∀ j ≤ kDeviceUniqueId.length,
      (s.parcelBytes (off + j)).toUInt16 = (units kDeviceUniqueId).getD j 0

/-- The name stands at a word-aligned offset from `stop` on. -/
def NameFrom (s : ParserScratch) (size stop : Nat) : Prop :=
  ∃ off, off % 4 = 0 ∧ stop ≤ off ∧ (Utf16NameAt s size off ∨ Utf8NameAt s size off)

/-- The name stands at one of the raw offsets of the fallback. -/
def NameAtRawOffset (s : ParserScratch) (size : Nat) : Prop :=
  ∃ off ∈ rawOffsets, Utf16NameAt s size off ∨ Utf8NameAt s size off

/-- The name stands at `off` as a String16, behind its own length word. -/
def NameString16At (s : ParserScratch) (size off : Nat) : Prop :=
  s.parcelWord off = UInt32.ofNat kDeviceUniqueId.length ∧ Utf16NameAt s size (off + 4)

/-- Where a descriptor found at `off` with header extra `extra` ends. -/
def recognisedEnd (off : Nat) (extra : UInt32) : Nat :=
  descriptorEnd off kDrmPlugin + if extra = 0 then 0 else 4

end Drmid
