import Drmid.Lib.Files
import Drmid.Storage.RuntimeControl

/-!
# The seed and the runtime profile

`runtime_profile.cpp`: HMAC and HKDF over its `sha256`, the seed record with its check, and
`load_or_create_runtime_profile`, which reads the seed file, creates or regenerates it, and derives
the profile. The file is a regular one where it is there; its temporary one has the process's pid
in its name and is made with `O_EXCL`. The directory's name is neither null nor empty.
-/

namespace Drmid

open Lib

/-! ## HMAC and HKDF -/

def hmacSha256 (key data : Bytes) : Bytes :=
  let key := if 64 < key.length then sha256 key else key
  let normalized := key ++ List.replicate (64 - key.length) 0
  let innerDigest := sha256 (normalized.map (· ^^^ 0x36) ++ data)
  sha256 (normalized.map (· ^^^ 0x5c) ++ innerDigest)

/-- `hmac_sha256` as the source feeds its two hashes, part by part. -/
def hmacSha256Updates (key data : Bytes) : Bytes :=
  let key := if 64 < key.length then sha256 key else key
  let normalized := key ++ List.replicate (64 - key.length) 0
  let inner := (Sha256.reset.update (normalized.map (· ^^^ 0x36))).update data
  let outer := (Sha256.reset.update (normalized.map (· ^^^ 0x5c))).update inner.finish
  outer.finish

/-- The loop of `hkdf_sha256`, for at most `passes` passes. A pass produces at least one byte. -/
def hkdfExpand (prk info : Bytes) (outputSize : Nat) : Nat → Bytes → UInt8 → Bytes → Bytes
  | 0, _, _, output => output
  | passes + 1, previous, counter, output =>
    if output.length < outputSize then
      let previous := hmacSha256 prk (previous ++ info ++ [counter])
      hkdfExpand prk info outputSize passes previous (counter + 1)
        (output ++ previous.take (outputSize - output.length))
    else output

def hkdfSha256 (ikm salt info : Bytes) (outputSize : Nat) : Option Bytes :=
  if 255 * 32 < outputSize then none
  else some (hkdfExpand (hmacSha256 salt ikm) info outputSize outputSize [] 1 [])

/-- `kShaExpected`. -/
def kShaExpected : Bytes := [
  0xba, 0x78, 0x16, 0xbf, 0x8f, 0x01, 0xcf, 0xea, 0x41, 0x41, 0x40, 0xde, 0x5d, 0xae, 0x22, 0x23,
  0xb0, 0x03, 0x61, 0xa3, 0x96, 0x17, 0x7a, 0x9c, 0xb4, 0x10, 0xff, 0x61, 0xf2, 0x00, 0x15, 0xad]

/-- `expected` of `runtime_crypto_self_test`. -/
def kHkdfExpected : Bytes := [
  0x3c, 0xb2, 0x5f, 0x25, 0xfa, 0xac, 0xd5, 0x7a, 0x90, 0x43, 0x4f, 0x64, 0xd0, 0x36, 0x2f, 0x2a,
  0x2d, 0x2d, 0x0a, 0x90, 0xcf, 0x1a, 0x5a, 0x4c, 0x5d, 0xb0, 0x2d, 0x56, 0xec, 0xc4, 0xc5, 0xbf,
  0x34, 0x00, 0x72, 0x08, 0xd5, 0xb8, 0x87, 0x18, 0x58, 0x65]

@[irreducible] def runtimeCryptoSelfTest : Bool :=
  sha256 [97, 98, 99] == kShaExpected &&
    hkdfSha256 (List.replicate 22 0x0b)
      [0x00, 0x01, 0x02, 0x03, 0x04, 0x05, 0x06, 0x07, 0x08, 0x09, 0x0a, 0x0b, 0x0c]
      [0xf0, 0xf1, 0xf2, 0xf3, 0xf4, 0xf5, 0xf6, 0xf7, 0xf8, 0xf9] 42 == some kHkdfExpected

/-- The known answers are met. -/
theorem runtimeCryptoSelfTest_eq : runtimeCryptoSelfTest = true := by
  unfold runtimeCryptoSelfTest
  decide +kernel

/-! ## The seed record -/

def kSeedMagic : UInt64 := 0x30354445534d5244
def kSeedVersion : UInt32 := 1
def kSeedBytes : Nat := 32
def kSeedRecordBytes : Nat := 64

structure SeedRecord where
  magic : UInt64
  version : UInt32
  seedSize : UInt32
  generation : UInt64
  seed : Vector UInt8 32
  crc32 : UInt32
  reserved : UInt32
  deriving DecidableEq, Repr

namespace SeedRecord

/-- The record that the bytes read into. -/
def ofBytes (b : Bytes) : SeedRecord where
  magic := at64 b 0
  version := at32 b 8
  seedSize := at32 b 12
  generation := at64 b 16
  seed := .ofFn fun i => b.getD (24 + i.val) 0
  crc32 := at32 b 56
  reserved := at32 b 60

/-- The bytes before `crc32`. -/
def covered (r : SeedRecord) : Bytes :=
  leBytes 8 r.magic ++ (leBytes 4 r.version.toUInt64 ++ (leBytes 4 r.seedSize.toUInt64 ++
    (leBytes 8 r.generation ++ r.seed.toList)))

/-- The bytes of the record. -/
def toBytes (r : SeedRecord) : Bytes :=
  r.covered ++ (leBytes 4 r.crc32.toUInt64 ++ leBytes 4 r.reserved.toUInt64)

end SeedRecord

def validateSeedRecord (record : SeedRecord) : Bool :=
  record.magic == kSeedMagic && record.version == kSeedVersion &&
    record.seedSize.toNat == kSeedBytes && record.generation != 0 &&
    record.crc32 == crc32 record.covered

/-- The record that `load_or_create_runtime_profile` fills. -/
def newSeedRecord (generation : UInt64) (seed : Vector UInt8 32) : SeedRecord :=
  let record : SeedRecord :=
    { magic := kSeedMagic
      version := kSeedVersion
      seedSize := UInt32.ofNat kSeedBytes
      generation := generation
      seed := seed
      crc32 := 0
      reserved := 0 }
  { record with crc32 := crc32 record.covered }

/-! ## The files -/

/-- The seed file and the one it is renamed from. -/
inductive SeedFile
  | record | temporary
  deriving DecidableEq, Repr

def readSeedFile : Files.Program SeedFile (Except KModErr SeedRecord) := do
  match ← Prog.perform (.openRead .record) with
  | .notFound => return .error .errModuleStorageNotFound
  | .done =>
    -- a byte more than the record has is asked for
    let raw ← Files.readLoop .record (kSeedRecordBytes + 1) (kSeedRecordBytes + 1) []
    let _ ← Prog.perform (.close .record)
    if raw.length ≠ kSeedRecordBytes then return .error .errModuleStorageType
    else return .ok (.ofBytes raw)
  | _ => return .error .errModuleStorageRead

/-- The end of `write_seed_file`, from its loop on. -/
def replaceSeedFile (record : Bytes) : Files.Program SeedFile KModErr := do
  if ← Files.writeLoop .temporary record.length record then
    let fileOk ← Files.succeeded (.fsync .temporary)
    let _ ← Prog.perform (.close .temporary)
    Files.renameInto .temporary .record fileOk .ok .errModuleStorageWrite
  else
    let _ ← Prog.perform (.close .temporary)
    let _ ← Prog.perform (.unlink .temporary)
    return .errModuleStorageWrite

def writeSeedFile (record : SeedRecord) : Files.Program SeedFile KModErr := do
  if ← Files.succeeded .makeDirectory then
    if ← Files.succeeded (.openExcl .temporary) then replaceSeedFile record.toBytes
    else return .errModuleStorageWrite
  else return .errModuleCreateDir

/-- The bytes that `fill_random` fills in, if it succeeds: those of `getrandom`, or where it gives
too few, of `/dev/urandom`. -/
def fillRandom (size : Nat) : Files.Program SeedFile (Option Bytes) := do
  let output ← Files.drawLoop .getRandom size size []
  if output.length = size then return some output
  else if ← Files.succeeded .openRandom then
    let output ← Files.drawLoop .readRandom size size []
    let _ ← Prog.perform .closeRandom
    if output.length = size then return some output else return none
  else return none

/-! ## The profile -/

/-- What `handle_apply` uses of the profile. -/
structure RuntimeProfile where
  virtualStream : Vector UInt8 64
  seedGeneration : UInt64
  deriving DecidableEq, Repr

/-- The profile with its other fields. -/
structure LoadedProfile extends RuntimeProfile where
  profileFingerprint : UInt64
  seedCreated : Bool
  deriving DecidableEq, Repr

/-- `SKP-DRMID-SALT-v1`. -/
def kProfileSalt : Bytes :=
  [83, 75, 80, 45, 68, 82, 77, 73, 68, 45, 83, 65, 76, 84, 45, 118, 49]

/-- `global-widevine-v1`. -/
def kProfileInfo : Bytes :=
  [103, 108, 111, 98, 97, 108, 45, 119, 105, 100, 101, 118, 105, 110, 101, 45, 118, 49]

/-- `virtual_stream` of a seed. -/
def virtualStreamOf (seed : Vector UInt8 32) : Option (Vector UInt8 64) :=
  (hkdfSha256 seed.toList kProfileSalt kProfileInfo 64).map fun output =>
    .ofFn fun i => output.getD i.val 0

/-- The end of `load_or_create_runtime_profile`: the profile of a record. -/
def deriveProfile (record : SeedRecord) (seedCreated : Bool) : Except KModErr LoadedProfile :=
  match virtualStreamOf record.seed with
  | none => .error .errModuleTestChannel
  | some virtualStream => .ok {
      virtualStream := virtualStream
      seedGeneration := record.generation
      profileFingerprint := virtualIdFingerprint (virtualStream.toList.take 32)
      seedCreated := seedCreated }

/-- The part of `load_or_create_runtime_profile` under `if (create)`, and what follows it. -/
def createSeed (record : SeedRecord) :
    Files.Program SeedFile (Except KModErr LoadedProfile) := do
  let previousGeneration := if validateSeedRecord record then record.generation else 0
  match ← fillRandom kSeedBytes with
  | none => return .error .errModuleStorageRead
  | some output =>
    let record := newSeedRecord (previousGeneration + 1) (.ofFn fun i => output.getD i.val 0)
    let err ← writeSeedFile record
    if err ≠ .ok then return .error err
    else match ← readSeedFile with
      | .error err => return .error err
      | .ok verified =>
        if record.toBytes ≠ verified.toBytes ∨ !validateSeedRecord verified then
          return .error .errModuleStorageRead
        else return deriveProfile record true

/-- The record before anything is read. -/
def emptySeedRecord : SeedRecord := ⟨0, 0, 0, 0, .replicate 32 0, 0, 0⟩

def loadOrCreateRuntimeProfile (regenerateSeed : Bool) :
    Files.Program SeedFile (Except KModErr LoadedProfile) := do
  if !runtimeCryptoSelfTest then return .error .errModuleTestChannel
  else match ← readSeedFile with
    | .ok record =>
      if !validateSeedRecord record then return .error .errModuleStorageType
      else if regenerateSeed then createSeed record
      else return deriveProfile record false
    | .error readErr =>
      if readErr = .errModuleStorageNotFound then createSeed emptySeedRecord
      else return .error readErr

end Drmid
