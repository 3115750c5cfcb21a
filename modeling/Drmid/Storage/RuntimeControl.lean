import Drmid.Hook.Publish
import Drmid.Lib.Prog
import Drmid.Storage.Sha256

/-!
# The runtime control file

`runtime_control.cpp`: the two record formats with their checks, and the functions that read, write
and migrate the file, as programs that make file-system calls. With them the clean-up of
`file_lifecycle.cpp` that removes the old files, and the part of `run_readonly_parser_probe` that
runs all of these when the daemon starts.

The files are those of the private directory under their default names, regular files only. A call
fails or succeeds; a failed call has changed nothing, and `ENOENT` is the answer for absent files
only. An interrupted call is made again and has changed nothing either, so a call here is the last
of its attempts. Reads and writes may move fewer bytes than asked for. Left out: the paths' own
checks (they are neither null nor empty), the descriptors' numbers and the log lines.
-/

namespace Drmid

open Lib

/-! ## Records -/

def kRuntimeControlV2Magic : UInt64 := 0x36314c54434d5244
def kRuntimeControlV2Version : UInt32 := 2
def kRuntimeControlV2Bytes : Nat := 256
def kLegacyTargetLimit : Nat := 32
def kRuntimeControlMagic : UInt64 := 0x38314c54434d5244
def kRuntimeControlVersion : UInt32 := 3
def kRuntimeControlRecordBytes : Nat := 128

/-- The 32-bit word at an offset of a record's bytes. -/
def at32 (b : Bytes) (off : Nat) : UInt32 := le32 fun i => b.getD (off + i) 0

/-- The 64-bit word at an offset of a record's bytes. -/
def at64 (b : Bytes) (off : Nat) : UInt64 := le64 fun i => b.getD (off + i) 0

structure RuntimeControlRecordV2 where
  magic : UInt64
  version : UInt32
  recordSize : UInt32
  configGeneration : UInt64
  seedGeneration : UInt64
  profileFingerprint : UInt64
  replacementMode : UInt32
  ruleMode : UInt32
  targetCount : UInt32
  virtualIdLength : UInt32
  targetEuids : Vector UInt32 32
  virtualId : Vector UInt8 64
  crc32 : UInt32
  tailReserved : UInt32
  deriving DecidableEq, Repr

namespace RuntimeControlRecordV2

/-- The record that the bytes read into. -/
def ofBytes (b : Bytes) : RuntimeControlRecordV2 where
  magic := at64 b 0
  version := at32 b 8
  recordSize := at32 b 12
  configGeneration := at64 b 16
  seedGeneration := at64 b 24
  profileFingerprint := at64 b 32
  replacementMode := at32 b 40
  ruleMode := at32 b 44
  targetCount := at32 b 48
  virtualIdLength := at32 b 52
  targetEuids := .ofFn fun i => at32 b (56 + 4 * i.val)
  virtualId := .ofFn fun i => b.getD (184 + i.val) 0
  crc32 := at32 b 248
  tailReserved := at32 b 252

/-- The bytes before `crc32`. -/
def covered (r : RuntimeControlRecordV2) : Bytes :=
  leBytes 8 r.magic ++ (leBytes 4 r.version.toUInt64 ++ (leBytes 4 r.recordSize.toUInt64 ++
    (leBytes 8 r.configGeneration ++ (leBytes 8 r.seedGeneration ++
    (leBytes 8 r.profileFingerprint ++ (leBytes 4 r.replacementMode.toUInt64 ++
    (leBytes 4 r.ruleMode.toUInt64 ++ (leBytes 4 r.targetCount.toUInt64 ++
    (leBytes 4 r.virtualIdLength.toUInt64 ++
    (r.targetEuids.toList.flatMap (fun euid => leBytes 4 euid.toUInt64) ++
      r.virtualId.toList))))))))))

end RuntimeControlRecordV2

structure RuntimeControlRecordV3 where
  magic : UInt64
  version : UInt32
  recordSize : UInt32
  configGeneration : UInt64
  seedGeneration : UInt64
  profileFingerprint : UInt64
  replacementMode : UInt32
  virtualIdLength : UInt32
  virtualId : Vector UInt8 64
  reserved : UInt64
  crc32 : UInt32
  tailReserved : UInt32
  deriving DecidableEq, Repr

namespace RuntimeControlRecordV3

/-- The record that the bytes read into. -/
def ofBytes (b : Bytes) : RuntimeControlRecordV3 where
  magic := at64 b 0
  version := at32 b 8
  recordSize := at32 b 12
  configGeneration := at64 b 16
  seedGeneration := at64 b 24
  profileFingerprint := at64 b 32
  replacementMode := at32 b 40
  virtualIdLength := at32 b 44
  virtualId := .ofFn fun i => b.getD (48 + i.val) 0
  reserved := at64 b 112
  crc32 := at32 b 120
  tailReserved := at32 b 124

/-- The bytes before `crc32`. -/
def covered (r : RuntimeControlRecordV3) : Bytes :=
  leBytes 8 r.magic ++ (leBytes 4 r.version.toUInt64 ++ (leBytes 4 r.recordSize.toUInt64 ++
    (leBytes 8 r.configGeneration ++ (leBytes 8 r.seedGeneration ++
    (leBytes 8 r.profileFingerprint ++ (leBytes 4 r.replacementMode.toUInt64 ++
    (leBytes 4 r.virtualIdLength.toUInt64 ++ (r.virtualId.toList ++ leBytes 8 r.reserved))))))))

/-- The bytes of the record. -/
def toBytes (r : RuntimeControlRecordV3) : Bytes :=
  r.covered ++ (leBytes 4 r.crc32.toUInt64 ++ leBytes 4 r.tailReserved.toUInt64)

end RuntimeControlRecordV3

/-! ## Checks -/

/-- The body of the loop of `valid_legacy_target_set` at `index`. -/
def validLegacyTargetAt (targetCount : UInt32) (targetEuids : Vector UInt32 32) (index : Nat) :
    Bool :=
  let euid (i : Nat) : UInt32 := targetEuids.toList.getD i 0
  if index < targetCount.toNat then
    euid index != 0 && (index == 0 || decide (euid (index - 1) < euid index))
  else euid index == 0

def validLegacyTargetSet (ruleMode targetCount : UInt32) (targetEuids : Vector UInt32 32) : Bool :=
  if 2 < ruleMode ∨ kLegacyTargetLimit < targetCount.toNat then false
  else if (ruleMode = 0 ∧ targetCount ≠ 0) ∨ (ruleMode ≠ 0 ∧ targetCount = 0) then false
  else (List.range kLegacyTargetLimit).all (validLegacyTargetAt targetCount targetEuids)

def validateV2Record (record : RuntimeControlRecordV2) : Bool :=
  record.magic == kRuntimeControlV2Magic && record.version == kRuntimeControlV2Version &&
    record.recordSize.toNat == kRuntimeControlV2Bytes &&
    record.configGeneration != 0 && record.seedGeneration != 0 &&
    decide (record.replacementMode ≤ kWriteTest) &&
    validLegacyTargetSet record.ruleMode record.targetCount record.targetEuids &&
    record.virtualIdLength == kWidevineDeviceUniqueIdBytes && record.tailReserved == 0 &&
    record.crc32 == crc32 record.covered

def validateV3Record (record : RuntimeControlRecordV3) : Bool :=
  record.magic == kRuntimeControlMagic && record.version == kRuntimeControlVersion &&
    record.recordSize.toNat == kRuntimeControlRecordBytes &&
    record.configGeneration != 0 && record.seedGeneration != 0 &&
    decide (record.replacementMode ≤ kWriteTest) &&
    record.virtualIdLength == kWidevineDeviceUniqueIdBytes &&
    record.profileFingerprint != 0 && record.reserved == 0 && record.tailReserved == 0 &&
    record.crc32 == crc32 record.covered

def validateConfig (config : ReplacementConfig) : Bool :=
  config.configGeneration != 0 && config.seedGeneration != 0 && config.profileFingerprint != 0 &&
    decide (config.mode ≤ kWriteTest) && config.virtualIdLength == kWidevineDeviceUniqueIdBytes

/-! ## Records and configs -/

/-- `memcpy` of the first `length` bytes of an ID into a zeroed one. -/
def copyId (id : Vector UInt8 64) (length : UInt32) : Vector UInt8 64 :=
  .ofFn fun i => if i.val < length.toNat then id.get i else 0

def fillConfigFromV3 (record : RuntimeControlRecordV3) : ReplacementConfig where
  mode := record.replacementMode
  virtualIdLength := record.virtualIdLength
  configGeneration := record.configGeneration
  seedGeneration := record.seedGeneration
  profileFingerprint := record.profileFingerprint
  virtualId := copyId record.virtualId record.virtualIdLength

/-- The `converted` of `migrate_runtime_control_v2`. -/
def configOfV2 (legacy : RuntimeControlRecordV2) : ReplacementConfig where
  mode := legacy.replacementMode
  virtualIdLength := legacy.virtualIdLength
  configGeneration := legacy.configGeneration
  seedGeneration := legacy.seedGeneration
  profileFingerprint := legacy.profileFingerprint
  virtualId := copyId legacy.virtualId legacy.virtualIdLength

/-- The record that `write_runtime_control_file` fills, after `write_record` has completed it. -/
def recordOfConfig (config : ReplacementConfig) : RuntimeControlRecordV3 :=
  let record : RuntimeControlRecordV3 :=
    { magic := kRuntimeControlMagic
      version := kRuntimeControlVersion
      recordSize := UInt32.ofNat kRuntimeControlRecordBytes
      configGeneration := config.configGeneration
      seedGeneration := config.seedGeneration
      profileFingerprint := config.profileFingerprint
      replacementMode := config.mode
      virtualIdLength := config.virtualIdLength
      virtualId := copyId config.virtualId config.virtualIdLength
      reserved := 0
      crc32 := 0
      tailReserved := 0 }
  { record with crc32 := crc32 record.covered }

/-! ## Files -/

/-- The files of the private directory that the start of the daemon touches. -/
inductive StateFile
  | controlV1 | controlV1Tmp | controlV2 | controlV2Tmp | controlV3 | controlV3Tmp
  | targetConfigV1 | targetConfigV1Tmp | targetConfigV2 | targetConfigV2Tmp | labelHelper
  deriving DecidableEq, Repr

/-- The contents of the files that are there. -/
abbrev FileSystem := StateFile → Option Bytes

inductive FsCall
  | openRead (f : StateFile)
  | read (f : StateFile) (off n : Nat)
  | openTrunc (f : StateFile)
  | write (f : StateFile) (data : Bytes)
  | fchmod (f : StateFile)
  | fsync (f : StateFile)
  | close (f : StateFile)
  | rename (src dst : StateFile)
  | unlink (f : StateFile)
  | fstatat (f : StateFile)
  | openDirectory
  | fsyncDirectory
  | closeDirectory
  deriving DecidableEq, Repr

/-- The calls that are made again when they are interrupted. -/
def FsCall.retried : FsCall → Bool
  | .read _ _ _ | .write _ _ => true
  | _ => false

/-- `notFound` is a failure with `ENOENT`. -/
inductive FsReply
  | done
  | bytes (b : Bytes)
  | count (n : Nat)
  | notFound
  | failed
  deriving DecidableEq, Repr

/-- What the environment picks for a call. A call that succeeds moves `moved` bytes if it can, and
at least one. -/
inductive FsOutcome
  | fails
  | succeeds (moved : Nat)
  deriving DecidableEq, Repr

theorem FsOutcome.succeeds_ne_fails (moved : Nat) : succeeds moved ≠ .fails := fun h => by cases h

/-- The number of bytes that a call on `n` of them moves. -/
def transfer (moved n : Nat) : Nat := min n (max 1 moved)

namespace FileSystem

/-- A call that succeeds. -/
def perform (fs : FileSystem) (moved : Nat) : FsCall → FsReply × FileSystem
  | .openRead f | .fstatat f => (if (fs f).isSome then .done else .notFound, fs)
  | .read f off n => (.bytes ((((fs f).getD []).drop off).take (transfer moved n)), fs)
  | .openTrunc f => (.done, Function.update fs f (some []))
  | .write f data =>
    let n := transfer moved data.length
    (.count n, Function.update fs f (some ((fs f).getD [] ++ data.take n)))
  | .rename src dst =>
    if (fs src).isSome then (.done, Function.update (Function.update fs dst (fs src)) src none)
    else (.notFound, fs)
  | .unlink f => if (fs f).isSome then (.done, Function.update fs f none) else (.notFound, fs)
  | .fchmod _ | .fsync _ | .close _ | .openDirectory | .fsyncDirectory | .closeDirectory =>
    (.done, fs)

/-- A call with its outcome. -/
def exec (c : FsCall) (o : FsOutcome) (fs : FileSystem) : FsReply × FileSystem :=
  match o with
  | .fails => (.failed, fs)
  | .succeeds moved => fs.perform moved c

end FileSystem

abbrev FsProg := Prog FsCall FsReply

/-- The call succeeded. -/
def succeeded (c : FsCall) : FsProg Bool := do
  return (← Prog.perform c) == .done

/-! ## Reading and writing -/

/-- The loop of `read_exact_record`, for at most `passes` passes. A pass that goes on has read at
least one byte. -/
def readLoop (f : StateFile) (size : Nat) : Nat → Bytes → FsProg Bytes
  | 0, used => return used
  | passes + 1, used => do
    if used.length < size then
      match ← Prog.perform (.read f used.length (size - used.length)) with
      | .bytes b => if b.isEmpty then return used else readLoop f size passes (used ++ b)
      | _ => return used
    else return used

def readExactRecord (f : StateFile) (size : Nat) : FsProg (Except KModErr Bytes) := do
  match ← Prog.perform (.openRead f) with
  | .notFound => return .error .errModuleStorageNotFound
  | .done =>
    let record ← readLoop f size size []
    let tail ← Prog.perform (.read f record.length 1)
    let _ ← Prog.perform (.close f)
    if record.length ≠ size ∨ tail ≠ .bytes [] then return .error .errModuleStorageRead
    else return .ok record
  | _ => return .error .errModuleStorageRead

/-- The loop of `write_record`, for at most `passes` passes: whether everything was written. -/
def writeLoop (f : StateFile) : Nat → Bytes → FsProg Bool
  | 0, data => return data.isEmpty
  | passes + 1, data => do
    if data.isEmpty then return true
    else match ← Prog.perform (.write f data) with
      | .count n => if n = 0 then return false else writeLoop f passes (data.drop n)
      | _ => return false

/-- The directory is synced, if it can be opened. -/
def syncDirectory : FsProg Unit := do
  if ← succeeded .openDirectory then
    let _ ← Prog.perform .fsyncDirectory
    let _ ← Prog.perform .closeDirectory
    return ()
  else return ()

/-- `fchmod(fd, 0600) == 0 && fsync(fd) == 0`. -/
def syncFile (f : StateFile) : FsProg Bool := do
  if ← succeeded (.fchmod f) then succeeded (.fsync f) else return false

/-- The end of `write_record`: the temporary file is complete. -/
def renameRecord : FsProg KModErr := do
  let syncOk ← syncFile .controlV3Tmp
  let closeOk ← succeeded (.close .controlV3Tmp)
  let renamed ← if syncOk && closeOk then succeeded (.rename .controlV3Tmp .controlV3)
    else pure false
  if renamed then
    syncDirectory
    return .ok
  else
    let _ ← Prog.perform (.unlink .controlV3Tmp)
    return .errModuleStorageWrite

def writeRecord (record : Bytes) : FsProg KModErr := do
  if ← succeeded (.openTrunc .controlV3Tmp) then
    if ← writeLoop .controlV3Tmp record.length record then renameRecord
    else
      let _ ← Prog.perform (.close .controlV3Tmp)
      let _ ← Prog.perform (.unlink .controlV3Tmp)
      return .errModuleStorageWrite
  else return .errModuleStorageWrite

def readRuntimeControlFile : FsProg (Except KModErr ReplacementConfig) := do
  match ← readExactRecord .controlV3 kRuntimeControlRecordBytes with
  | .error err => return .error err
  | .ok bytes =>
    let record := RuntimeControlRecordV3.ofBytes bytes
    if validateV3Record record then return .ok (fillConfigFromV3 record)
    else return .error .errModuleStorageType

def writeRuntimeControlFile (config : ReplacementConfig) : FsProg KModErr :=
  if validateConfig config then writeRecord (recordOfConfig config).toBytes
  else return .errModuleParam

/-! ## What a file holds -/

/-- What `read_exact_record` returns for a file when no call fails. -/
def recordOf (size : Nat) : Option Bytes → Except KModErr Bytes
  | none => .error .errModuleStorageNotFound
  | some content =>
    if content.length = size then .ok content else .error .errModuleStorageRead

/-- What `read_runtime_control_file` returns for a v3 file when no call fails. -/
def controlOf (file : Option Bytes) : Except KModErr ReplacementConfig :=
  match recordOf kRuntimeControlRecordBytes file with
  | .error err => .error err
  | .ok bytes =>
    let record := RuntimeControlRecordV3.ofBytes bytes
    if validateV3Record record then .ok (fillConfigFromV3 record) else .error .errModuleStorageType

/-- What `migrate_runtime_control_v2` makes of a v2 file when no call fails. -/
def legacyControlOf (file : Option Bytes) : Except KModErr ReplacementConfig :=
  match recordOf kRuntimeControlV2Bytes file with
  | .error err => .error err
  | .ok bytes =>
    let record := RuntimeControlRecordV2.ofBytes bytes
    if validateV2Record record then .ok (configOfV2 record) else .error .errModuleStorageType

/-- The config that the files hold: the one of the v3 file, or where there is none, of the v2
file. -/
def FileSystem.stored (fs : FileSystem) : Option ReplacementConfig :=
  if (fs .controlV3).isSome then (controlOf (fs .controlV3)).toOption
  else (legacyControlOf (fs .controlV2)).toOption

/-! ## Migration and clean-up -/

/-- The end of `migrate_runtime_control_v2`: the v2 record is written as v3 and read back. -/
def convertV2 (converted : ReplacementConfig) : FsProg (Except KModErr Bool) := do
  let err ← writeRuntimeControlFile converted
  if err ≠ .ok then return .error err
  else match ← readRuntimeControlFile with
    | .error err => return .error err
    | .ok verified =>
      if verified ≠ converted then return .error .errModuleStorageRead else return .ok true

/-- The value returned is `migrated`. -/
def migrateRuntimeControlV2 : FsProg (Except KModErr Bool) := do
  match ← readExactRecord .controlV3 kRuntimeControlRecordBytes with
  | .ok current =>
    if validateV3Record (.ofBytes current) then return .ok false
    else return .error .errModuleStorageType
  | .error v3Err =>
    if v3Err ≠ .errModuleStorageNotFound then return .error v3Err
    else match ← readExactRecord .controlV2 kRuntimeControlV2Bytes with
      | .error legacyErr =>
        if legacyErr = .errModuleStorageNotFound then return .ok false
        else return .error legacyErr
      | .ok legacy =>
        if validateV2Record (.ofBytes legacy) then convertV2 (configOfV2 (.ofBytes legacy))
        else return .error .errModuleStorageType

def kLegacyTargetFiles : List StateFile :=
  [.controlV1, .controlV1Tmp, .controlV2, .controlV2Tmp, .targetConfigV1, .targetConfigV1Tmp,
    .targetConfigV2, .targetConfigV2Tmp, .labelHelper]

/-- The loop of `cleanup_legacy_target_state_after_global_migration`, with the number of files
removed so far. -/
def removeFiles : List StateFile → Nat → FsProg Nat
  | [], removed => return removed
  | f :: fs, removed => do
    let isRegular ← succeeded (.fstatat f)
    let unlinked ← if isRegular then succeeded (.unlink f) else pure false
    removeFiles fs (if unlinked then removed + 1 else removed)

def cleanupLegacyTargetStateAfterGlobalMigration : FsProg Nat := do
  if ← succeeded .openDirectory then
    let removed ← removeFiles kLegacyTargetFiles 0
    if removed ≠ 0 then
      let _ ← Prog.perform .fsyncDirectory
    let _ ← Prog.perform .closeDirectory
    return removed
  else return 0

/-! ## The start of the daemon -/

/-- The `virtual_id_length` bytes of a config's ID. -/
def ReplacementConfig.idBytes (config : ReplacementConfig) : Bytes :=
  config.virtualId.toList.take config.virtualIdLength.toNat

/-- The check of a config that has been read: its fingerprint is the one of its ID. -/
def restorable (persisted : ReplacementConfig) : Bool :=
  let actualFingerprint := virtualIdFingerprint persisted.idBytes
  actualFingerprint != 0 && actualFingerprint == persisted.profileFingerprint

/-- The control file is restored, or the initial config is written: the config that is to be
installed. -/
def restoreOrInitialize (initial : ReplacementConfig) :
    FsProg (Except KModErr ReplacementConfig) := do
  match ← readRuntimeControlFile with
  | .ok persisted =>
    if restorable persisted then return .ok persisted else return .error .errModuleStorageType
  | .error persistedErr =>
    if persistedErr = .errModuleStorageNotFound then
      let err ← writeRuntimeControlFile initial
      if err ≠ .ok then return .error err else return .ok initial
    else return .error persistedErr

/-- The part of `run_readonly_parser_probe` that finds the config to be installed, `initial` being
the one of the profile. -/
def restoreRuntimeControl (initial : ReplacementConfig) :
    FsProg (Except KModErr ReplacementConfig) := do
  match ← migrateRuntimeControlV2 with
  | .error err => return .error err
  | .ok _ =>
    let _ ← cleanupLegacyTargetStateAfterGlobalMigration
    restoreOrInitialize initial

/-- One start of the daemon: the config of its profile, and the outcomes of its calls until it is
done or cut off. -/
structure DaemonStart where
  initial : ReplacementConfig
  script : List FsOutcome

/-- The files after a start. -/
def DaemonStart.step (fs : FileSystem) (start : DaemonStart) : FileSystem :=
  ((restoreRuntimeControl start.initial).run FileSystem.exec start.script fs).2

end Drmid
