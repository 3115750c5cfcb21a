import Drmid.Lib.Files
import Drmid.Resolver.Release
import Drmid.Resolver.Resolve
import Drmid.Storage.RuntimeControl

/-!
# The capability record

What `binder_ioctl_resolver.cpp` keeps of a resolution in a file of the private directory, for the
WebUI to read: the record and its check `valid_record`, and the programs that write and read the
file. The file is a regular one where it is there; the checks of the path are left out.
-/

namespace Drmid

open Lib

/-! ## The record -/

def kCapabilityRecordMagic : UInt64 := 0x31325041434d5244
def kCapabilityRecordVersion : UInt32 := 1
def kCapabilityRecordBytes : Nat := 160

structure BinderCapabilityRecordV1 where
  magic : UInt64
  version : UInt32
  recordSize : UInt32
  capabilities : UInt64
  entryFingerprint : UInt64
  backend : UInt32
  fileFOpSource : UInt32
  fopsUnlockedIoctlSource : UInt32
  symbolValidations : UInt32
  entrySemantics : UInt32
  reserved0 : UInt32
  kernelRelease : Vector UInt8 64
  resolverSource : Vector UInt8 32
  crc32 : UInt32
  reserved1 : UInt32
  deriving DecidableEq, Repr

namespace BinderCapabilityRecordV1

/-- The record that the bytes read into. -/
def ofBytes (b : Bytes) : BinderCapabilityRecordV1 where
  magic := at64 b 0
  version := at32 b 8
  recordSize := at32 b 12
  capabilities := at64 b 16
  entryFingerprint := at64 b 24
  backend := at32 b 32
  fileFOpSource := at32 b 36
  fopsUnlockedIoctlSource := at32 b 40
  symbolValidations := at32 b 44
  entrySemantics := at32 b 48
  reserved0 := at32 b 52
  kernelRelease := .ofFn fun i => b.getD (56 + i.val) 0
  resolverSource := .ofFn fun i => b.getD (120 + i.val) 0
  crc32 := at32 b 152
  reserved1 := at32 b 156

/-- The bytes before `crc32`. -/
def covered (r : BinderCapabilityRecordV1) : Bytes :=
  leBytes 8 r.magic ++ (leBytes 4 r.version.toUInt64 ++ (leBytes 4 r.recordSize.toUInt64 ++
    (leBytes 8 r.capabilities ++ (leBytes 8 r.entryFingerprint ++ (leBytes 4 r.backend.toUInt64 ++
    (leBytes 4 r.fileFOpSource.toUInt64 ++ (leBytes 4 r.fopsUnlockedIoctlSource.toUInt64 ++
    (leBytes 4 r.symbolValidations.toUInt64 ++ (leBytes 4 r.entrySemantics.toUInt64 ++
    (leBytes 4 r.reserved0.toUInt64 ++
      (r.kernelRelease.toList ++ r.resolverSource.toList)))))))))))

/-- The bytes of the record. -/
def toBytes (r : BinderCapabilityRecordV1) : Bytes :=
  r.covered ++ (leBytes 4 r.crc32.toUInt64 ++ leBytes 4 r.reserved1.toUInt64)

end BinderCapabilityRecordV1

/-- The value of a backend in a record. -/
def BinderBackend.code : BinderBackend → UInt32
  | .unknown => 0
  | .classic => 1
  | .rust => 2

/-- The backend of a value that is in range. -/
def BinderBackend.ofCode (code : UInt32) : BinderBackend :=
  if code = 1 then .classic else if code = 2 then .rust else .unknown

/-- The value of an offset's source in a record. -/
def BinderOffsetSource.code : BinderOffsetSource → UInt32
  | .unknown => 0
  | .sdk => 1
  | .symbolScan => 2

/-- The source of a value that is in range. -/
def BinderOffsetSource.ofCode (code : UInt32) : BinderOffsetSource :=
  if code = 1 then .sdk else if code = 2 then .symbolScan else .unknown

/-- `valid_record`. -/
def validCapabilityRecord (record : BinderCapabilityRecordV1) : Bool :=
  record.magic == kCapabilityRecordMagic && record.version == kCapabilityRecordVersion &&
    record.recordSize.toNat == kCapabilityRecordBytes &&
    record.backend != BinderBackend.unknown.code &&
    decide (record.backend ≤ BinderBackend.rust.code) &&
    record.fileFOpSource != BinderOffsetSource.unknown.code &&
    decide (record.fileFOpSource ≤ BinderOffsetSource.symbolScan.code) &&
    record.fopsUnlockedIoctlSource != BinderOffsetSource.unknown.code &&
    decide (record.fopsUnlockedIoctlSource ≤ BinderOffsetSource.symbolScan.code) &&
    record.entryFingerprint != 0 &&
    record.capabilities &&& kRequiredBinderCapabilities == kRequiredBinderCapabilities &&
    record.reserved0 == 0 && record.reserved1 == 0 &&
    validKernelReleaseText record.kernelRelease.toList &&
    record.crc32 == crc32 record.covered

/-! ## Writing -/

/-- `binder_resolution_source_name`. -/
def binderResolutionSourceName (resolution : BinderIoctlResolution) : String :=
  if resolution.fileFOpSource = .symbolScan ∨ resolution.fopsUnlockedIoctlSource = .symbolScan then
    "fd+sdk+symbol-scan"
  else "fd+sdk+symbol-check"

/-- The bytes of a C string without its NUL. -/
def stringBytes (s : String) : Bytes := s.toList.map fun c => UInt8.ofNat c.toNat

/-- The record that `write_binder_capability_status` fills. -/
def capabilityRecord (kernelRelease : Bytes) (resolution : BinderIoctlResolution) :
    BinderCapabilityRecordV1 :=
  let source := stringBytes (binderResolutionSourceName resolution)
  let record : BinderCapabilityRecordV1 :=
    { magic := kCapabilityRecordMagic
      version := kCapabilityRecordVersion
      recordSize := UInt32.ofNat kCapabilityRecordBytes
      capabilities := resolution.capabilities
      entryFingerprint := resolution.entryFingerprint
      backend := resolution.backend.code
      fileFOpSource := resolution.fileFOpSource.code
      fopsUnlockedIoctlSource := resolution.fopsUnlockedIoctlSource.code
      symbolValidations := resolution.symbolValidations
      entrySemantics := resolution.entrySemantics
      reserved0 := 0
      kernelRelease := .ofFn fun i => kernelRelease.getD i.val 0
      -- `strncpy` of 31 bytes
      resolverSource := .ofFn fun i => if i.val < 31 then source.getD i.val 0 else 0
      crc32 := 0
      reserved1 := 0 }
  { record with crc32 := crc32 record.covered }

/-- The file and the one it is renamed from. -/
inductive CapabilityFile
  | status | temporary
  deriving DecidableEq, Repr

/-- The end of `write_binder_capability_status`, from `write_all` on. -/
def replaceCapabilityFile (record : Bytes) : Files.Program CapabilityFile KModErr := do
  let written ← Files.writeLoop .temporary record.length record
  let chmodOk ← if written then Files.succeeded (.fchmod .temporary) else pure false
  let syncOk ← if chmodOk then Files.succeeded (.fsync .temporary) else pure false
  let closed ← Files.succeeded (.close .temporary)
  Files.renameInto .temporary .status (syncOk && closed) .ok .errModuleStorageWrite

/-- `write_binder_capability_status`. -/
def writeBinderCapabilityStatus (kernelRelease : Bytes) (resolution : BinderIoctlResolution) :
    Files.Program CapabilityFile KModErr := do
  if kernelRelease.isEmpty || decide (64 ≤ kernelRelease.length) ||
      !hasRequiredBinderCapabilities resolution then return .errModuleParam
  else if ← Files.succeeded (.openTrunc .temporary) then
    replaceCapabilityFile (capabilityRecord kernelRelease resolution).toBytes
  else return .errModuleStorageWrite

/-! ## Reading -/

structure BinderCapabilityStatus where
  kernelRelease : Bytes
  backend : BinderBackend
  fileFOpSource : BinderOffsetSource
  fopsUnlockedIoctlSource : BinderOffsetSource
  capabilities : UInt64
  entryFingerprint : UInt64
  entrySemantics : UInt32
  symbolValidations : UInt32
  deriving DecidableEq, Repr

/-- The status that a valid record holds. The release ends at its NUL. -/
def statusOfRecord (record : BinderCapabilityRecordV1) : BinderCapabilityStatus where
  kernelRelease := record.kernelRelease.toList.takeWhile (· != 0)
  backend := .ofCode record.backend
  fileFOpSource := .ofCode record.fileFOpSource
  fopsUnlockedIoctlSource := .ofCode record.fopsUnlockedIoctlSource
  capabilities := record.capabilities
  entryFingerprint := record.entryFingerprint
  entrySemantics := record.entrySemantics
  symbolValidations := record.symbolValidations

/-- `read_all_exact`: the bytes, if there are `size` of them and no more. -/
def readAllExact (f : CapabilityFile) (size : Nat) :
    Files.Program CapabilityFile (Option Bytes) :=
  Files.readExact f size

/-- `read_binder_capability_status`. -/
def readBinderCapabilityStatus :
    Files.Program CapabilityFile (Except KModErr BinderCapabilityStatus) := do
  match ← Prog.perform (.openRead .status) with
  | .notFound => return .error .errModuleStorageNotFound
  | .done =>
    let regular ← Files.succeeded (.fstat .status)
    let data ← if regular then readAllExact .status kCapabilityRecordBytes else pure none
    let _ ← Prog.perform (.close .status)
    match data with
    | none => return .error .errModuleStorageRead
    | some bytes =>
      let record := BinderCapabilityRecordV1.ofBytes bytes
      if validCapabilityRecord record then return .ok (statusOfRecord record)
      else return .error .errModuleStorageType
  | _ => return .error .errModuleStorageRead

/-- What `read_binder_capability_status` returns for a file when no call fails. -/
def statusOf : Option Bytes → Except KModErr BinderCapabilityStatus
  | none => .error .errModuleStorageNotFound
  | some content =>
    if content.length = kCapabilityRecordBytes then
      let record := BinderCapabilityRecordV1.ofBytes content
      if validCapabilityRecord record then .ok (statusOfRecord record)
      else .error .errModuleStorageType
    else .error .errModuleStorageRead

end Drmid
