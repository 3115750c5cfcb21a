import Drmid.Storage.RuntimeControl

/-!
# The control record in Python

The tools that write a v3 control record outside the daemon: `build_record` of
`tools/write_runtime_control.py` and `transform` of `tools/transform_runtime_control.py`; and
`valid_v3`, the reference validator of the tests. Python integers are unbounded; `struct` refuses
those that do not fit their field, and its format `<` packs without padding. `binascii.crc32` is the
checksum that the bitwise `crc32` of the C++ code computes.
-/

namespace Drmid

/-- What the tools raise. -/
inductive PyError
  | valueError (text : String)
  | structError
  deriving DecidableEq, Repr

/-- The largest value of a `Q` field. -/
def pyMaxQ : Int := 0xffffffffffffffff

/-- The largest value of an `I` field. -/
def pyMaxI : Int := 0xffffffff

/-- `struct.pack("<Q", value)`. -/
def packQ (value : Int) : Except PyError Bytes :=
  if 0 ≤ value ∧ value ≤ pyMaxQ then .ok (leBytes 8 (UInt64.ofNat value.toNat))
  else .error .structError

/-- `struct.pack("<I", value)`. -/
def packI (value : Int) : Except PyError Bytes :=
  if 0 ≤ value ∧ value ≤ pyMaxI then .ok (leBytes 4 (UInt64.ofNat value.toNat))
  else .error .structError

/-- `struct.unpack_from("<Q", record, off)`. -/
def unpackQ (record : Bytes) (off : Nat) : Int := (at64 record off).toNat

/-- `struct.unpack_from("<I", record, off)`. -/
def unpackI (record : Bytes) (off : Nat) : Int := (at32 record off).toNat

/-- `struct.pack_into`, of bytes that fit behind `off`. -/
def packInto (record : Bytes) (off : Nat) (field : Bytes) : Bytes :=
  record.take off ++ field ++ record.drop (off + field.length)

/-- `binascii.crc32(data) & 0xFFFFFFFF`. -/
def binasciiCrc32 (data : Bytes) : Int := (crc32 data).toNat

def pyMagic : Int := 0x38314c54434d5244
def pyVersion : Int := 3
def pySize : Int := 128
def pyIdBytes : Nat := 32

/-! ## `write_runtime_control.py` -/

/-- `struct.pack(PREFIX_FORMAT, ..)`. -/
def packPrefix (generation seedGeneration fingerprint mode length : Int) (virtualId : Bytes) :
    Except PyError Bytes := do
  let magic ← packQ pyMagic
  let version ← packI pyVersion
  let size ← packI pySize
  let generation ← packQ generation
  let seedGeneration ← packQ seedGeneration
  let fingerprint ← packQ fingerprint
  let mode ← packI mode
  let length ← packI length
  let reserved ← packQ 0
  return magic ++ (version ++ (size ++ (generation ++ (seedGeneration ++ (fingerprint ++
    (mode ++ (length ++ (virtualId ++ reserved))))))))

def buildRecord (generation seedGeneration fingerprint mode : Int) (virtualId : Bytes) :
    Except PyError Bytes := do
  if ¬(1 ≤ generation ∧ generation ≤ pyMaxQ) then throw (.valueError "generation")
  if ¬(1 ≤ seedGeneration ∧ seedGeneration ≤ pyMaxQ) then throw (.valueError "seed_generation")
  if ¬(1 ≤ fingerprint ∧ fingerprint ≤ pyMaxQ) then throw (.valueError "fingerprint")
  if ¬(mode = 0 ∨ mode = 1) then throw (.valueError "mode")
  if virtualId.length ≠ pyIdBytes then throw (.valueError "virtual_id length")
  let covered ← packPrefix generation seedGeneration fingerprint mode virtualId.length
    (virtualId ++ List.replicate (64 - virtualId.length) 0)
  let crc ← packI (binasciiCrc32 covered)
  let tail ← packI 0
  return covered ++ (crc ++ tail)

/-! ## `transform_runtime_control.py` -/

/-- The condition under which `transform` raises `record validation`. -/
def transformRejects (record : Bytes) : Bool :=
  let generation := unpackQ record 16
  let currentMode := unpackI record 40
  unpackQ record 0 != pyMagic || unpackI record 8 != pyVersion || unpackI record 12 != pySize ||
    generation == 0 || generation == pyMaxQ || unpackQ record 32 == 0 ||
    !(currentMode == 0 || currentMode == 1) || unpackI record 44 != 32 ||
    unpackQ record 112 != 0 || unpackI record 124 != 0 ||
    unpackI record 120 != binasciiCrc32 (record.take 120)

/-- `transform`: the record, and its generation. -/
def transform (record : Bytes) (mode : Int) : Except PyError (Bytes × Int) := do
  if (record.length : Int) ≠ pySize then throw (.valueError "record size")
  if transformRejects record then throw (.valueError "record validation")
  let nextGeneration := unpackQ record 16 + 1
  let transformed := packInto record 16 (← packQ nextGeneration)
  let transformed := packInto transformed 40 (← packI mode)
  let transformed := packInto transformed 120 (← packI (binasciiCrc32 (transformed.take 120)))
  return (transformed, nextGeneration)

/-! ## `valid_v3` -/

def validV3 (record : Bytes) : Bool :=
  let length := unpackI record 44
  let virtualId := (record.drop 48).take 64
  record.length == 128 && unpackQ record 0 == pyMagic && unpackI record 8 == 3 &&
    unpackI record 12 == 128 && decide (0 < unpackQ record 16) && decide (0 < unpackQ record 24) &&
    decide (0 < unpackQ record 32) && (unpackI record 40 == 0 || unpackI record 40 == 1) &&
    length == 32 && !(virtualId.drop length.toNat).any (· != 0) && unpackQ record 112 == 0 &&
    unpackI record 124 == 0 && unpackI record 120 == binasciiCrc32 (record.take 120)

end Drmid
