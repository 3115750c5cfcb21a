import Drmid.Lib.Files
import Drmid.Storage.RuntimeControl

/-!
# The fingerprint of the original ID

`device_id_fingerprint.cpp`: a record of the ID that Widevine shows before anything is hooked. Each
start of the daemon captures it if it is missing, and the WebUI reads it. The files are regular ones
where they are there; the checks of the path are left out, and so is the size that `fstat` shows,
since `read_exact` refuses every other size with the same error.
-/

namespace Drmid

open Lib

/-! ## The record -/

def kFingerprintRecordMagic : UInt64 := 0x3147504644495244
def kFingerprintRecordVersion : UInt32 := 1
def kOriginalWidevineIdBytes : Nat := 32
def kFingerprintRecordBytes : Nat := 32

structure OriginalFingerprintRecord where
  magic : UInt64
  version : UInt32
  idLength : UInt32
  fingerprint : UInt64
  crc32 : UInt32
  reserved : UInt32
  deriving DecidableEq, Repr

namespace OriginalFingerprintRecord

/-- The record that the bytes read into. -/
def ofBytes (b : Bytes) : OriginalFingerprintRecord where
  magic := at64 b 0
  version := at32 b 8
  idLength := at32 b 12
  fingerprint := at64 b 16
  crc32 := at32 b 24
  reserved := at32 b 28

/-- The bytes before `crc32`. -/
def covered (r : OriginalFingerprintRecord) : Bytes :=
  leBytes 8 r.magic ++ (leBytes 4 r.version.toUInt64 ++ (leBytes 4 r.idLength.toUInt64 ++
    leBytes 8 r.fingerprint))

/-- The bytes of the record. -/
def toBytes (r : OriginalFingerprintRecord) : Bytes :=
  r.covered ++ (leBytes 4 r.crc32.toUInt64 ++ leBytes 4 r.reserved.toUInt64)

def withCrc (r : OriginalFingerprintRecord) : OriginalFingerprintRecord :=
  { r with crc32 := Drmid.crc32 r.covered }

end OriginalFingerprintRecord

/-- `valid_record`. -/
def validFingerprintRecord (record : OriginalFingerprintRecord) : Bool :=
  record.magic == kFingerprintRecordMagic && record.version == kFingerprintRecordVersion &&
    record.idLength.toNat == kOriginalWidevineIdBytes && record.fingerprint != 0 &&
    record.reserved == 0 && record.crc32 == crc32 record.covered

/-- The record that is filled for a fingerprint. -/
def newFingerprintRecord (fingerprint : UInt64) : OriginalFingerprintRecord where
  magic := kFingerprintRecordMagic
  version := kFingerprintRecordVersion
  idLength := UInt32.ofNat kOriginalWidevineIdBytes
  fingerprint := fingerprint
  crc32 := 0
  reserved := 0

/-! ## The files -/

/-- The file and the one it is renamed from. -/
inductive FingerprintFile
  | record | temporary
  deriving DecidableEq, Repr

def readRecordAt : Files.Program FingerprintFile (Except KModErr OriginalFingerprintRecord) := do
  match ← Prog.perform (.openRead .record) with
  | .notFound => return .error .errModuleStorageNotFound
  | .done =>
    let regular ← Files.succeeded (.fstat .record)
    let data ← if regular then Files.readExact .record kFingerprintRecordBytes else pure none
    let _ ← Prog.perform (.close .record)
    match data with
    | none => return .error .errModuleStorageType
    | some bytes =>
      let record := OriginalFingerprintRecord.ofBytes bytes
      if validFingerprintRecord record then return .ok record
      else return .error .errModuleStorageType
  | _ => return .error .errModuleStorageRead

/-- The end of `write_record_at`, from `close` on. The rename stays where the directory cannot be
synced. -/
def putRecordAt (fileOk : Bool) : Files.Program FingerprintFile KModErr := do
  let _ ← Prog.perform (.close .temporary)
  let renamed ← if fileOk then Files.succeeded (.rename .temporary .record) else pure false
  if renamed then
    if ← Files.succeeded .fsyncDirectory then return .ok else return .errModuleStorageWrite
  else
    let _ ← Prog.perform (.unlink .temporary)
    return .errModuleStorageWrite

/-- The part of `write_record_at` behind its `openat`. -/
def replaceRecordAt (record : Bytes) : Files.Program FingerprintFile KModErr := do
  let regular ← Files.succeeded (.fstat .temporary)
  let written ← if regular then Files.writeLoop .temporary record.length record else pure false
  let fileOk ← if written then Files.succeeded (.fsync .temporary) else pure false
  putRecordAt fileOk

def writeRecordAt (record : OriginalFingerprintRecord) :
    Files.Program FingerprintFile KModErr := do
  let record := record.withCrc
  if !validFingerprintRecord record then return .errModuleParam
  else if ← Files.succeeded (.openTrunc .temporary) then replaceRecordAt record.toBytes
  else return .errModuleStorageWrite

/-! ## Capturing and reading -/

/-- What Widevine answers: whether `AMediaDrm_createByUUID` gives a plugin, and the property
`deviceUniqueId` where it can be got. -/
structure WidevineAnswer where
  created : Bool
  deviceUniqueId : Option Bytes

/-- The `fingerprint` of an answer. -/
def WidevineAnswer.fingerprint (widevine : WidevineAnswer) : UInt64 :=
  match widevine.deviceUniqueId with
  | none => 0
  | some value => if value.length = kOriginalWidevineIdBytes then virtualIdFingerprint value else 0

def queryOriginalWidevineFingerprint (widevine : WidevineAnswer) : Except KModErr UInt64 :=
  if !widevine.created then .error .errModuleStorageRead
  else if widevine.fingerprint ≠ 0 then .ok widevine.fingerprint
  else .error .errModuleStorageRead

/-- The part of `capture_original_id_fingerprint_if_missing` behind the read. -/
def captureMissing (widevine : WidevineAnswer) :
    Files.Program FingerprintFile (Except KModErr UInt64) := do
  match queryOriginalWidevineFingerprint widevine with
  | .error queryErr =>
    let _ ← Prog.perform .closeDirectory
    return .error queryErr
  | .ok observed =>
    let writeErr ← writeRecordAt (newFingerprintRecord observed)
    let _ ← Prog.perform .closeDirectory
    if writeErr = .ok then return .ok observed else return .error writeErr

def captureOriginalIdFingerprintIfMissing (widevine : WidevineAnswer) :
    Files.Program FingerprintFile (Except KModErr UInt64) := do
  if ← Files.succeeded .openDirectory then
    match ← readRecordAt with
    | .ok record =>
      let _ ← Prog.perform .closeDirectory
      return .ok record.fingerprint
    | .error readErr =>
      if readErr = .errModuleStorageNotFound then captureMissing widevine
      else
        let _ ← Prog.perform .closeDirectory
        return .error readErr
  else return .error .errModuleStorageRead

def readOriginalIdFingerprint : Files.Program FingerprintFile (Except KModErr UInt64) := do
  if ← Files.succeeded .openDirectory then
    let read ← readRecordAt
    let _ ← Prog.perform .closeDirectory
    return read.map (·.fingerprint)
  else return .error .errModuleStorageRead

/-! ## The life of the file -/

/-- A start of the daemon, with what Widevine answers it, or a look of the WebUI. -/
inductive FingerprintUse
  | capture (widevine : WidevineAnswer)
  | read

def FingerprintUse.program :
    FingerprintUse → Files.Program FingerprintFile (Except KModErr UInt64)
  | capture widevine => captureOriginalIdFingerprintIfMissing widevine
  | read => readOriginalIdFingerprint

/-- A use and what its calls meet. It is cut off where the script ends: the process was killed
there. -/
structure FingerprintSession where
  use : FingerprintUse
  script : List (Option Files.Outcome)

/-- What a session returns, unless it was cut off, and the files that it leaves. -/
def FingerprintSession.run (s : FingerprintSession) (fs : Files.Store FingerprintFile) :
    Option (Except KModErr UInt64) × Files.Store FingerprintFile :=
  s.use.program.runAttempts Files.exec Files.Call.retried .fails s.script fs

/-- The files after the sessions, one after the other. -/
def fingerprintFiles (fs : Files.Store FingerprintFile) (sessions : List FingerprintSession) :
    Files.Store FingerprintFile :=
  Lib.run (fun fs s => (s.run fs).2) fs sessions

/-- What a file says. -/
def recordedFingerprint : Option Bytes → Except KModErr UInt64
  | none => .error .errModuleStorageNotFound
  | some content =>
    if content.length = kFingerprintRecordBytes then
      let record := OriginalFingerprintRecord.ofBytes content
      if validFingerprintRecord record then .ok record.fingerprint
      else .error .errModuleStorageType
    else .error .errModuleStorageType

/-- What a use returns for a file when no call fails. -/
def FingerprintUse.answer (file : Option Bytes) : FingerprintUse → Except KModErr UInt64
  | capture widevine =>
    if file.isSome then recordedFingerprint file else queryOriginalWidevineFingerprint widevine
  | read => recordedFingerprint file

end Drmid
