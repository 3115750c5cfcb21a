import Drmid.Storage.ControlTools
import Drmid.Storage.Proof.RuntimeControl

/-!
# The control record and its Python twins

`control_codec_agrees`: what the daemon writes it reads back, and the Python writer builds the same
bytes; what `transform` makes of a record that the daemon accepts is accepted too.
`canonical_iff_zero_tail`: a record is the one its config is written as, and the reference validator
takes it, iff nothing is behind the 32 bytes of its ID, which the reader does not check.
-/

namespace Drmid

open Lib

/-! ## Reading and writing without failures -/

theorem eval_readRuntimeControlFile (fs : FileSystem) {os : Nat → FsOutcome}
    (hos : ∀ n, os n ≠ .fails) :
    (readRuntimeControlFile.eval FileSystem.exec os fs).1 = controlOf (fs .controlV3) := by
  have hsafe : readRuntimeControlFile.Safe FileSystem.exec (· ≠ .fails) (fun _ => True) _ fs :=
    safe_readRuntimeControlFile trivial
  exact (hsafe.eval os hos).2.resolve_right fun h => h.1 rfl

theorem eval_writeRuntimeControlFile (fs : FileSystem) {config : ReplacementConfig}
    (hvalid : validateConfig config = true) {os : Nat → FsOutcome} (hos : ∀ n, os n ≠ .fails) :
    (writeRuntimeControlFile config).eval FileSystem.exec os fs =
      (.ok, fs.written (recordOfConfig config).toBytes) := by
  have hsafe : (writeRuntimeControlFile config).Safe FileSystem.exec (· ≠ .fails) (fun _ => True)
      _ fs := safe_writeRuntimeControlFile (fun _ => trivial) fun _ => trivial
  have h := hsafe.eval os hos
  rw [hvalid] at h
  rcases h with ⟨herr, hs⟩ | ⟨-, hfails, -⟩
  · exact Prod.ext herr hs
  · exact (hfails rfl).elim

/-- `read_runtime_control_file` accepts a file with these bytes, as this config, when no call
fails. -/
def ReadsAs (r : Bytes) (config : ReplacementConfig) : Prop :=
  ∀ (fs : FileSystem) (os : Nat → FsOutcome), fs .controlV3 = some r → (∀ n, os n ≠ .fails) →
    (readRuntimeControlFile.eval FileSystem.exec os fs).1 = .ok config

/-- `write_runtime_control_file` writes the config as these bytes when no call fails. -/
def WrittenAs (config : ReplacementConfig) (r : Bytes) : Prop :=
  ∀ (fs : FileSystem) (os : Nat → FsOutcome), (∀ n, os n ≠ .fails) →
    ((writeRuntimeControlFile config).eval FileSystem.exec os fs).1 = .ok ∧
      ((writeRuntimeControlFile config).eval FileSystem.exec os fs).2 .controlV3 = some r

theorem readsAs_iff {r : Bytes} {config : ReplacementConfig} :
    ReadsAs r config ↔ controlOf (some r) = .ok config := by
  constructor
  · intro h
    have hos (_ : Nat) := FsOutcome.succeeds_ne_fails 1
    have heq := h (fun _ => some r) (fun _ => .succeeds 1) rfl hos
    rwa [eval_readRuntimeControlFile _ hos] at heq
  · intro h fs os hfile hos
    rw [eval_readRuntimeControlFile fs hos, hfile, h]

/-- What a reader that accepts has checked. -/
theorem readsAs_iff_valid {r : Bytes} {config : ReplacementConfig} :
    ReadsAs r config ↔ r.length = kRuntimeControlRecordBytes ∧
      validateV3Record (.ofBytes r) = true ∧ config = fillConfigFromV3 (.ofBytes r) := by
  rw [readsAs_iff]
  constructor
  · intro h
    obtain ⟨content, hfile, hlen, hvalid, hconfig⟩ := controlOf_eq_ok h
    cases hfile
    exact ⟨hlen, hvalid, hconfig⟩
  · rintro ⟨hlen, hvalid, rfl⟩
    simp only [controlOf, recordOf, hlen, if_true, hvalid]

theorem written_controlV3 (fs : FileSystem) (record : Bytes) :
    fs.written record .controlV3 = some record := by
  rw [FileSystem.written, FileSystem.withTmp, Function.update_of_ne (by decide),
    Function.update_self]

theorem writtenAs_iff {config : ReplacementConfig} (hvalid : validateConfig config = true)
    {r : Bytes} : WrittenAs config r ↔ (recordOfConfig config).toBytes = r := by
  have heval (fs : FileSystem) {os : Nat → FsOutcome} (hos : ∀ n, os n ≠ .fails) :=
    eval_writeRuntimeControlFile fs hvalid hos
  constructor
  · intro h
    have hos (_ : Nat) := FsOutcome.succeeds_ne_fails 1
    let fs : FileSystem := fun _ => none
    have hr := (h fs (fun _ => .succeeds 1) hos).2
    rw [heval fs hos] at hr
    exact Option.some.inj ((written_controlV3 fs _).symm.trans hr)
  · rintro rfl fs os hos
    rw [heval fs hos]
    exact ⟨rfl, written_controlV3 fs _⟩

/-! ## The Python writer -/

theorem packQ_toNat (w : UInt64) : packQ w.toNat = .ok (leBytes 8 w) := by
  have h : (0 : Int) ≤ w.toNat ∧ (w.toNat : Int) ≤ pyMaxQ := by
    have hlt := w.toNat_lt
    simp only [pyMaxQ]
    omega
  rw [packQ, if_pos h, Int.toNat_natCast, UInt64.ofNat_toNat]

theorem packI_toNat (w : UInt32) : packI w.toNat = .ok (leBytes 4 w.toUInt64) := by
  have h : (0 : Int) ≤ w.toNat ∧ (w.toNat : Int) ≤ pyMaxI := by
    have hlt := w.toNat_lt
    simp only [pyMaxI]
    omega
  rw [packI, if_pos h, Int.toNat_natCast, UInt64.ofNat_uInt32ToNat]

theorem pyMagic_eq : pyMagic = (kRuntimeControlMagic.toNat : Int) := by decide

theorem pyVersion_eq : pyVersion = (kRuntimeControlVersion.toNat : Int) := by decide

theorem pySize_eq : pySize = ((UInt32.ofNat kRuntimeControlRecordBytes).toNat : Int) := by decide

theorem packQ_zero : packQ 0 = .ok (leBytes 8 0) := packQ_toNat 0

theorem packI_zero : packI 0 = .ok (leBytes 4 0) := packI_toNat 0

/-- The bytes of a record before its CRC. -/
theorem packPrefix_eq (record : RuntimeControlRecordV3)
    (hmagic : record.magic = kRuntimeControlMagic)
    (hversion : record.version = kRuntimeControlVersion)
    (hsize : record.recordSize = UInt32.ofNat kRuntimeControlRecordBytes)
    (hreserved : record.reserved = 0) :
    packPrefix record.configGeneration.toNat record.seedGeneration.toNat
      record.profileFingerprint.toNat record.replacementMode.toNat record.virtualIdLength.toNat
      record.virtualId.toList = .ok record.covered := by
  simp only [packPrefix, pyMagic_eq, pyVersion_eq, pySize_eq, packQ_toNat, packI_toNat, packQ_zero,
    RuntimeControlRecordV3.covered, hmagic, hversion, hsize, hreserved]
  rfl

/-- The 32 bytes of an ID and what follows them in the record. -/
theorem copyId_toList (id : Vector UInt8 64) :
    (copyId id kWidevineDeviceUniqueIdBytes).toList =
      id.toList.take 32 ++ List.replicate 32 0 := by
  apply List.ext_getElem
  · simp
  · intro i hi _
    have hi : i < 64 := by simpa using hi
    rw [Vector.getElem_toList, getElem_copyId _ _ hi]
    show (if i < 32 then id[i] else 0) = _
    by_cases h : i < 32
    · rw [List.getElem_append_left (by simpa using h), List.getElem_take, Vector.getElem_toList,
        if_pos h]
    · rw [List.getElem_append_right (by simpa using h), List.getElem_replicate, if_neg h]

/-- **`build_record`** builds the record that the daemon writes. -/
theorem buildRecord_eq {config : ReplacementConfig} (h : validateConfig config = true) :
    buildRecord config.configGeneration.toNat config.seedGeneration.toNat
      config.profileFingerprint.toNat config.mode.toNat (config.virtualId.toList.take 32) =
        .ok (recordOfConfig config).toBytes := by
  simp only [validateConfig, Bool.and_eq_true, bne_iff_ne, decide_eq_true_eq, beq_iff_eq] at h
  obtain ⟨⟨⟨⟨hgen, hseed⟩, hprint⟩, hmode⟩, hlen⟩ := h
  have hQ {w : UInt64} (hw : w ≠ 0) : (1 : Int) ≤ w.toNat ∧ (w.toNat : Int) ≤ pyMaxQ := by
    have hlt := w.toNat_lt
    have hne : w.toNat ≠ 0 := fun h => hw (UInt64.toNat_inj.1 h)
    simp only [pyMaxQ]
    omega
  have hM : (config.mode.toNat : Int) = 0 ∨ (config.mode.toNat : Int) = 1 := by
    have hle : config.mode.toNat ≤ 1 := UInt32.le_iff_toNat_le.1 hmode
    omega
  have hid : (config.virtualId.toList.take 32).length = pyIdBytes := by simp [pyIdBytes]
  have hcopy : config.virtualId.toList.take 32 ++ List.replicate (64 - pyIdBytes) 0 =
      (recordOfConfig config).virtualId.toList := by
    show _ = (copyId config.virtualId config.virtualIdLength).toList
    rw [hlen, copyId_toList]
    rfl
  have hpyLen : (pyIdBytes : Int) = ((recordOfConfig config).virtualIdLength.toNat : Int) := by
    show _ = (config.virtualIdLength.toNat : Int)
    rw [hlen]
    rfl
  have hpack : packPrefix config.configGeneration.toNat config.seedGeneration.toNat
      config.profileFingerprint.toNat config.mode.toNat
      (recordOfConfig config).virtualIdLength.toNat (recordOfConfig config).virtualId.toList =
        .ok (recordOfConfig config).covered := packPrefix_eq (recordOfConfig config) rfl rfl rfl rfl
  simp only [buildRecord, hQ hgen, hQ hseed, hQ hprint, hM, hid, not_true_eq_false, ne_eq, if_false,
    hcopy, hpyLen, hpack, binasciiCrc32]
  show (packI (crc32 (recordOfConfig config).covered).toNat >>= _) = _
  rw [packI_toNat, packI_zero]
  rfl

/-! ## `transform` -/

/-- A field behind others is replaced where it stands. -/
theorem packInto_append {a b f : Bytes} {off : Nat} (h : a.length ≤ off) :
    packInto (a ++ b) off f = a ++ packInto b (off - a.length) f := by
  have hdrop : (a ++ b).drop (off + f.length) = b.drop (off - a.length + f.length) := by
    rw [List.drop_append, List.drop_eq_nil_of_le (by omega), List.nil_append,
      Nat.sub_add_comm h]
  rw [packInto, packInto, List.take_append, List.take_of_length_le h, hdrop]
  simp only [List.append_assoc]

theorem packInto_field {f g b : Bytes} (h : g.length = f.length) :
    packInto (g ++ b) 0 f = f ++ b := by
  rw [packInto, Nat.zero_add, ← h, List.drop_left]
  rfl

section
variable (record : RuntimeControlRecordV3)

theorem packInto_configGeneration (g : UInt64) :
    packInto record.toBytes 16 (leBytes 8 g) = { record with configGeneration := g }.toBytes := by
  simp (disch := simp) only [RuntimeControlRecordV3.toBytes, RuntimeControlRecordV3.covered,
    List.append_assoc, packInto_append, packInto_field, length_leBytes, Nat.reduceSub]

theorem packInto_replacementMode (m : UInt32) :
    packInto record.toBytes 40 (leBytes 4 m.toUInt64) =
      { record with replacementMode := m }.toBytes := by
  simp (disch := simp) only [RuntimeControlRecordV3.toBytes, RuntimeControlRecordV3.covered,
    List.append_assoc, packInto_append, packInto_field, length_leBytes, Nat.reduceSub]

theorem packInto_crc32 (c : UInt32) :
    packInto record.toBytes 120 (leBytes 4 c.toUInt64) = { record with crc32 := c }.toBytes := by
  have hlen := record.length_covered
  rw [RuntimeControlRecordV3.toBytes, packInto_append (by omega), hlen, packInto_field (by simp)]
  rfl

theorem take_toBytes : record.toBytes.take 120 = record.covered := by
  rw [RuntimeControlRecordV3.toBytes, ← record.length_covered, List.take_left]

end

/-- The record that `transform` makes of one. -/
def transformedRecord (record : RuntimeControlRecordV3) (mode : UInt32) : RuntimeControlRecordV3 :=
  let record := { record with
    configGeneration := record.configGeneration + 1, replacementMode := mode }
  { record with crc32 := crc32 record.covered }

/-! ## Conditions -/

theorem toNat_eq_iff64 {w k : UInt64} : (w.toNat : Int) = (k.toNat : Int) ↔ w = k :=
  Int.natCast_inj.trans UInt64.toNat_inj

theorem toNat_eq_iff32 {w k : UInt32} : (w.toNat : Int) = (k.toNat : Int) ↔ w = k :=
  Int.natCast_inj.trans UInt32.toNat_inj

theorem toNat_pos_iff {w : UInt64} : 0 < (w.toNat : Int) ↔ w ≠ 0 := by
  rw [ne_eq, ← toNat_eq_iff64]
  show _ ↔ ¬(w.toNat : Int) = 0
  omega

theorem toNat_mode_iff {w : UInt32} :
    (w.toNat : Int) = 0 ∨ (w.toNat : Int) = 1 ↔ w ≤ kWriteTest := by
  rw [UInt32.le_iff_toNat_le]
  show _ ↔ w.toNat ≤ 1
  omega

/-- The conditions of `validate_v3_record` in Python's words. -/
structure PyValid (r : Bytes) : Prop where
  magic : unpackQ r 0 = pyMagic
  version : unpackI r 8 = 3
  recordSize : unpackI r 12 = 128
  configGeneration : 0 < unpackQ r 16
  seedGeneration : 0 < unpackQ r 24
  profileFingerprint : 0 < unpackQ r 32
  replacementMode : unpackI r 40 = 0 ∨ unpackI r 40 = 1
  virtualIdLength : unpackI r 44 = 32
  reserved : unpackQ r 112 = 0
  tailReserved : unpackI r 124 = 0
  crc32 : unpackI r 120 = binasciiCrc32 (r.take 120)

theorem pyValid_iff {r : Bytes} (hlen : r.length = kRuntimeControlRecordBytes) :
    PyValid r ↔ validateV3Record (.ofBytes r) = true := by
  have hcovered := RuntimeControlRecordV3.covered_ofBytes hlen
  simp only [validateV3Record, Bool.and_eq_true, beq_iff_eq, bne_iff_ne, decide_eq_true_eq,
    hcovered]
  constructor
  · intro h
    exact ⟨⟨⟨⟨⟨⟨⟨⟨⟨⟨toNat_eq_iff64.1 h.magic, toNat_eq_iff32.1 h.version⟩,
      Int.natCast_inj.1 h.recordSize⟩, toNat_pos_iff.1 h.configGeneration⟩,
      toNat_pos_iff.1 h.seedGeneration⟩, toNat_mode_iff.1 h.replacementMode⟩,
      toNat_eq_iff32.1 h.virtualIdLength⟩, toNat_pos_iff.1 h.profileFingerprint⟩,
      toNat_eq_iff64.1 h.reserved⟩, toNat_eq_iff32.1 h.tailReserved⟩, toNat_eq_iff32.1 h.crc32⟩
  · rintro ⟨⟨⟨⟨⟨⟨⟨⟨⟨⟨h1, h2⟩, h3⟩, h4⟩, h5⟩, h6⟩, h7⟩, h8⟩, h9⟩, h10⟩, h11⟩
    exact {
      magic := toNat_eq_iff64.2 h1
      version := toNat_eq_iff32.2 h2
      recordSize := Int.natCast_inj.2 h3
      configGeneration := toNat_pos_iff.2 h4
      seedGeneration := toNat_pos_iff.2 h5
      profileFingerprint := toNat_pos_iff.2 h8
      replacementMode := toNat_mode_iff.2 h6
      virtualIdLength := toNat_eq_iff32.2 h7
      reserved := toNat_eq_iff64.2 h9
      tailReserved := toNat_eq_iff32.2 h10
      crc32 := toNat_eq_iff32.2 h11 }

/-- A record that the daemon accepts is not rejected, but for the last generation. -/
theorem transformRejects_eq_false {r : Bytes} (h : PyValid r) (hlast : unpackQ r 16 ≠ pyMaxQ) :
    transformRejects r = false := by
  have hmode : (!(unpackI r 40 == 0 || unpackI r 40 == 1)) = false := by
    rcases h.replacementMode with h | h <;> simp [h]
  have hgen : unpackQ r 16 ≠ 0 := Int.ne_of_gt h.configGeneration
  have hprint : unpackQ r 32 ≠ 0 := Int.ne_of_gt h.profileFingerprint
  simp [transformRejects, h.magic, h.version, h.recordSize, hgen, hlast, hprint, hmode,
    h.virtualIdLength, h.reserved, h.tailReserved, h.crc32, pyVersion, pySize]

/-! ## Agreement -/

section
variable {r : Bytes} {mode : UInt32}

/-- **`transform`** of a record that the daemon accepts. -/
theorem transform_eq (hlen : r.length = kRuntimeControlRecordBytes)
    (h : validateV3Record (.ofBytes r) = true)
    (hlast : (RuntimeControlRecordV3.ofBytes r).configGeneration ≠ 0xffffffffffffffff)
    (mode : UInt32) :
    transform r mode.toNat = .ok ((transformedRecord (.ofBytes r) mode).toBytes,
      (RuntimeControlRecordV3.ofBytes r).configGeneration.toNat + 1) := by
  have hrejects : transformRejects r = false :=
    transformRejects_eq_false ((pyValid_iff hlen).2 h) fun heq => hlast (toNat_eq_iff64.1 heq)
  have hsize : (r.length : Int) = pySize := by rw [hlen]; rfl
  have hbytes := RuntimeControlRecordV3.toBytes_ofBytes hlen
  obtain ⟨record, hrecord⟩ : ∃ record, RuntimeControlRecordV3.ofBytes r = record := ⟨_, rfl⟩
  have hgen : unpackQ r 16 = (record.configGeneration.toNat : Int) := hrecord ▸ rfl
  rw [hrecord] at hlast hbytes ⊢
  have hnext : (record.configGeneration.toNat : Int) + 1 =
      ((record.configGeneration + 1).toNat : Int) := by
    rw [toNat_succ_of_ne_max hlast]
    rfl
  simp only [transform, hsize, hrejects, ne_eq, not_true_eq_false, Bool.false_eq_true, if_false,
    hgen, hnext, packQ_toNat, packI_toNat, binasciiCrc32]
  show Except.ok (packInto (packInto (packInto r 16 _) 40 _) 120
    (leBytes 4 (crc32 ((packInto (packInto r 16 _) 40 _).take 120)).toUInt64), _) = _
  rw [← hbytes, packInto_configGeneration, packInto_replacementMode, take_toBytes, packInto_crc32]
  rfl

/-- The record that `transform` makes is valid, and holds the next generation and the mode. -/
theorem validateV3Record_transformedRecord {record : RuntimeControlRecordV3}
    (h : validateV3Record record = true) (hlast : record.configGeneration ≠ 0xffffffffffffffff)
    (hmode : mode = 0 ∨ mode = 1) : validateV3Record (transformedRecord record mode) = true := by
  simp only [validateV3Record, Bool.and_eq_true, bne_iff_ne, decide_eq_true_eq] at h ⊢
  obtain ⟨⟨⟨⟨⟨⟨⟨⟨⟨⟨hmagic, hversion⟩, hsize⟩, -⟩, hseed⟩, -⟩, hidLen⟩, hprint⟩, hreserved⟩,
    htail⟩, -⟩ := h
  have hnext : record.configGeneration + 1 ≠ 0 := by
    intro heq
    have htoNat := toNat_succ_of_ne_max hlast
    rw [heq] at htoNat
    cases htoNat
  have hmode : mode ≤ kWriteTest := by
    rcases hmode with rfl | rfl <;> decide
  exact ⟨⟨⟨⟨⟨⟨⟨⟨⟨⟨hmagic, hversion⟩, hsize⟩, hnext⟩, hseed⟩, hmode⟩, hidLen⟩, hprint⟩, hreserved⟩,
    htail⟩, beq_self_eq_true _⟩

/-- What is written is read back without what is behind the ID. -/
theorem readsAs_recordOfConfig {config : ReplacementConfig} (h : validateConfig config = true) :
    ReadsAs (recordOfConfig config).toBytes config.trim :=
  readsAs_iff.2 (controlOf_write h)

theorem trim_of_valid {config : ReplacementConfig} (h : validateConfig config = true) :
    config.trim = { config with
      virtualId := .ofFn fun i => if i.val < 32 then config.virtualId.get i else 0 } := by
  have hlen : config.virtualIdLength = kWidevineDeviceUniqueIdBytes := by
    simp only [validateConfig, Bool.and_eq_true, beq_iff_eq] at h
    exact h.2
  rw [ReplacementConfig.trim, hlen]
  rfl

end

/-- **Main result: the codec and its Python twins.** What the daemon writes it reads back without
the bytes behind the ID, and `build_record` builds the same bytes; a file of any other length is not
accepted; and `transform` takes an accepted record to an accepted one with the next generation and
the mode. -/
theorem control_codec_agrees :
    (∀ config, validateConfig config = true → ∃ r,
      WrittenAs config r ∧ r.length = 128 ∧
      ReadsAs r { config with
        virtualId := .ofFn fun i => if i.val < 32 then config.virtualId.get i else 0 } ∧
      buildRecord config.configGeneration.toNat config.seedGeneration.toNat
        config.profileFingerprint.toNat config.mode.toNat (config.virtualId.toList.take 32) =
          .ok r) ∧
    (∀ (fs : FileSystem) (os : Nat → FsOutcome) (config : ReplacementConfig),
      (readRuntimeControlFile.eval FileSystem.exec os fs).1 = .ok config →
      ∃ r, fs .controlV3 = some r ∧ r.length = 128) ∧
    (∀ (r : Bytes) (config : ReplacementConfig) (mode : UInt32), ReadsAs r config →
      config.configGeneration ≠ 0xffffffffffffffff → mode = 0 ∨ mode = 1 →
      ∃ r', transform r mode.toNat = .ok (r', config.configGeneration.toNat + 1) ∧
        ReadsAs r'
          { config with configGeneration := config.configGeneration + 1, mode := mode }) := by
  refine ⟨fun config h => ?_, fun fs os config h => ?_, fun r config mode h hlast hmode => ?_⟩
  · refine ⟨(recordOfConfig config).toBytes, (writtenAs_iff h).2 rfl,
      RuntimeControlRecordV3.length_toBytes _, ?_, buildRecord_eq h⟩
    rw [← trim_of_valid h]
    exact readsAs_recordOfConfig h
  · have hsafe : readRuntimeControlFile.Safe FileSystem.exec (fun _ => True) (fun _ => True) _ fs :=
      safe_readRuntimeControlFile trivial
    rcases (hsafe.eval os fun _ => trivial).2 with hr | ⟨-, hr⟩
    · obtain ⟨r, hfile, hlen, -⟩ := controlOf_eq_ok (hr.symm.trans h)
      exact ⟨r, hfile, hlen⟩
    · rw [h] at hr
      cases hr
  · obtain ⟨hlen, hvalid, rfl⟩ := readsAs_iff_valid.1 h
    refine ⟨(transformedRecord (.ofBytes r) mode).toBytes, transform_eq hlen hvalid hlast mode, ?_⟩
    refine readsAs_iff_valid.2 ⟨RuntimeControlRecordV3.length_toBytes _, ?_, ?_⟩
    · rw [RuntimeControlRecordV3.ofBytes_toBytes]
      exact validateV3Record_transformedRecord hvalid hlast hmode
    · rw [RuntimeControlRecordV3.ofBytes_toBytes]
      rfl

/-- A config with something behind its ID. -/
def tailedConfig : ReplacementConfig where
  mode := 1
  virtualIdLength := 32
  configGeneration := 4
  seedGeneration := 1
  profileFingerprint := 0x77bd62f8ad7a6866
  virtualId := Vector.replicate 64 7

/-- Written, read and transformed. -/
theorem control_codec_agrees_tailed :
    ∃ r r', WrittenAs tailedConfig r ∧ transform r 0 = .ok (r', 5) ∧
      (∃ file, (fun _ => some r : FileSystem) .controlV3 = some file ∧ file.length = 128) ∧
      ReadsAs r' { tailedConfig with
        virtualId := .ofFn fun i => if i.val < 32 then tailedConfig.virtualId.get i else 0
        configGeneration := 5
        mode := 0 } := by
  obtain ⟨r, hwritten, -, hreads, -⟩ := control_codec_agrees.1 tailedConfig (by decide)
  have hfile := control_codec_agrees.2.1 (fun _ => some r) (fun _ => .succeeds 128) _
    (hreads _ _ rfl fun n h => (by cases h))
  obtain ⟨r', htransform, hreads'⟩ :=
    control_codec_agrees.2.2 r _ 0 hreads (show (4 : UInt64) ≠ _ by decide) (.inl rfl)
  exact ⟨r, r', hwritten, htransform, hfile, hreads'⟩

/-! ## Canonical records -/

/-- The bytes behind the ID are zero. -/
def ZeroTail (r : Bytes) : Prop := ∀ i, 80 ≤ i → i < 112 → r.getD i 0 = 0

theorem getElem_ofBytes_virtualId (r : Bytes) {i : Nat} (hi : i < 64) :
    (RuntimeControlRecordV3.ofBytes r).virtualId[i] = r.getD (48 + i) 0 := by
  simp only [RuntimeControlRecordV3.ofBytes, Vector.getElem_ofFn]

theorem zeroTail_iff_copyId {r : Bytes} :
    ZeroTail r ↔ copyId (RuntimeControlRecordV3.ofBytes r).virtualId kWidevineDeviceUniqueIdBytes =
      (RuntimeControlRecordV3.ofBytes r).virtualId := by
  constructor
  · intro h
    refine Vector.ext fun i hi => ?_
    rw [getElem_copyId _ _ hi, getElem_ofBytes_virtualId r hi]
    by_cases hlt : i < 32
    · exact if_pos hlt
    · exact (if_neg hlt).trans (h (48 + i) (by omega) (by omega)).symm
  · intro h i hlo hhi
    have hi : i - 48 < 64 := by omega
    have hbyte := congrArg (fun id : Vector UInt8 64 => id[i - 48]) h
    simp only [getElem_copyId _ _ hi, getElem_ofBytes_virtualId r hi] at hbyte
    rw [show 48 + (i - 48) = i by omega] at hbyte
    rw [← hbyte]
    exact if_neg (show ¬i - 48 < 32 by omega)

/-- A valid record is the one that its config is written as iff nothing is behind its ID. -/
theorem recordOfConfig_fillConfigFromV3 {record : RuntimeControlRecordV3}
    (h : validateV3Record record = true) :
    recordOfConfig (fillConfigFromV3 record) = record ↔
      copyId record.virtualId kWidevineDeviceUniqueIdBytes = record.virtualId := by
  simp only [validateV3Record, Bool.and_eq_true, beq_iff_eq] at h
  obtain ⟨⟨⟨⟨⟨⟨⟨⟨⟨⟨hmagic, hversion⟩, hsize⟩, -⟩, -⟩, -⟩, hlen⟩, -⟩, hreserved⟩, htail⟩, hcrc⟩ := h
  replace hsize : record.recordSize = UInt32.ofNat kRuntimeControlRecordBytes :=
    UInt32.toNat_inj.1 hsize
  constructor
  · intro heq
    have hid := congrArg RuntimeControlRecordV3.virtualId heq
    rw [← hlen, ← copyId_copyId]
    exact hid
  · intro hid
    have hid' : copyId (copyId record.virtualId record.virtualIdLength) record.virtualIdLength =
        record.virtualId := by rw [copyId_copyId, hlen, hid]
    -- the CRC does not cover itself
    have hcovered : { record with crc32 := 0 }.covered = record.covered := rfl
    calc recordOfConfig (fillConfigFromV3 record)
        = { record with crc32 := crc32 { record with crc32 := 0 }.covered } := by
          simp only [recordOfConfig, fillConfigFromV3, hid', hmagic, hversion, hsize, hreserved,
            htail]
      _ = record := by rw [hcovered, ← hcrc]

theorem toBytes_injective {record record' : RuntimeControlRecordV3}
    (h : record.toBytes = record'.toBytes) : record = record' := by
  rw [← record.ofBytes_toBytes, h, record'.ofBytes_toBytes]

theorem writtenAs_iff_zeroTail {r : Bytes} {config : ReplacementConfig} (h : ReadsAs r config) :
    WrittenAs config r ↔ ZeroTail r := by
  obtain ⟨hlen, hvalid, rfl⟩ := readsAs_iff_valid.1 h
  rw [writtenAs_iff (validateConfig_fillConfigFromV3 hvalid), zeroTail_iff_copyId,
    ← recordOfConfig_fillConfigFromV3 hvalid]
  constructor
  · intro heq
    refine toBytes_injective ?_
    rw [heq, RuntimeControlRecordV3.toBytes_ofBytes hlen]
  · intro heq
    rw [heq, RuntimeControlRecordV3.toBytes_ofBytes hlen]

theorem any_tail_eq_false {r : Bytes} (hlen : r.length = 128) :
    (((r.drop 48).take 64).drop 32).any (· != 0) = false ↔ ZeroTail r := by
  rw [List.any_eq_false]
  constructor
  · intro h i hlo hhi
    have hi : i - 80 < (((r.drop 48).take 64).drop 32).length := by
      simp only [List.length_drop, List.length_take]
      omega
    have hbyte := h _ (List.getElem_mem hi)
    simp only [List.getElem_drop, List.getElem_take] at hbyte
    rw [List.getD_eq_getElem _ _ (by omega)]
    have hidx : 48 + (32 + (i - 80)) = i := by omega
    simpa [hidx] using hbyte
  · intro h b hb
    obtain ⟨j, hj, rfl⟩ := List.getElem_of_mem hb
    have hj' : j < 32 := by
      simp only [List.length_drop, List.length_take] at hj
      omega
    have hbyte := h (48 + (32 + j)) (by omega) (by omega)
    rw [List.getD_eq_getElem _ _ (by omega)] at hbyte
    simp only [List.getElem_drop, List.getElem_take, hbyte]
    decide

/-- The reference validator is the daemon's check and the one of the bytes behind the ID. -/
theorem validV3_iff {r : Bytes} :
    validV3 r = true ↔ r.length = kRuntimeControlRecordBytes ∧ PyValid r ∧ ZeroTail r := by
  constructor
  · intro h
    simp only [validV3, Bool.and_eq_true, Bool.or_eq_true, beq_iff_eq, decide_eq_true_eq,
      Bool.not_eq_true'] at h
    obtain ⟨⟨⟨⟨⟨⟨⟨⟨⟨⟨⟨⟨hlen, h1⟩, h2⟩, h3⟩, h4⟩, h5⟩, h6⟩, h7⟩, h8⟩, hany⟩, h9⟩, h10⟩, h11⟩ := h
    rw [h8] at hany
    exact ⟨hlen, ⟨h1, h2, h3, h4, h5, h6, h7, h8, h9, h10, h11⟩, (any_tail_eq_false hlen).1 hany⟩
  · rintro ⟨hlen, h, htail⟩
    have hany := (any_tail_eq_false hlen).2 htail
    simp only [validV3, Bool.and_eq_true, Bool.or_eq_true, beq_iff_eq, decide_eq_true_eq,
      Bool.not_eq_true']
    rw [h.virtualIdLength]
    exact ⟨⟨⟨⟨⟨⟨⟨⟨⟨⟨⟨⟨hlen, h.magic⟩, h.version⟩, h.recordSize⟩, h.configGeneration⟩,
      h.seedGeneration⟩, h.profileFingerprint⟩, h.replacementMode⟩, rfl⟩, hany⟩, h.reserved⟩,
      h.tailReserved⟩, h.crc32⟩

/-- **Main result: canonical records.** An accepted record is the one that its config is written
as, and one that the reference validator takes, exactly if nothing is behind its ID. The validator
takes no others, and of those no two hold the same config. -/
theorem canonical_iff_zero_tail (r : Bytes) :
    (∀ config, ReadsAs r config →
      (WrittenAs config r ↔ ZeroTail r) ∧ (validV3 r = true ↔ ZeroTail r)) ∧
    (validV3 r = true → ∃ config, ReadsAs r config) ∧
    (∀ r' config, ReadsAs r config → ReadsAs r' config → ZeroTail r → ZeroTail r' → r = r') := by
  refine ⟨fun config h => ⟨writtenAs_iff_zeroTail h, ?_⟩, fun h => ?_,
    fun r' config h h' htail htail' => ?_⟩
  · obtain ⟨hlen, hvalid, -⟩ := readsAs_iff_valid.1 h
    rw [validV3_iff]
    exact ⟨fun h => h.2.2, fun htail => ⟨hlen, (pyValid_iff hlen).2 hvalid, htail⟩⟩
  · obtain ⟨hlen, hvalid, -⟩ := validV3_iff.1 h
    exact ⟨_, readsAs_iff_valid.2 ⟨hlen, (pyValid_iff hlen).1 hvalid, rfl⟩⟩
  · obtain ⟨-, hvalid, rfl⟩ := readsAs_iff_valid.1 h
    have hconfig := validateConfig_fillConfigFromV3 hvalid
    have hr := (writtenAs_iff hconfig).1 ((writtenAs_iff_zeroTail h).2 htail)
    have hr' := (writtenAs_iff hconfig).1 ((writtenAs_iff_zeroTail h').2 htail')
    exact hr.symm.trans hr'

/-- The record of a config with all 64 bytes of its ID field. -/
def recordWithTail (config : ReplacementConfig) : RuntimeControlRecordV3 :=
  let record := { recordOfConfig config with virtualId := config.virtualId }
  { record with crc32 := crc32 record.covered }

theorem recordWithTail_crc32 (config : ReplacementConfig) :
    (recordWithTail config).crc32 = crc32 (recordWithTail config).covered := by
  simp only [recordWithTail, RuntimeControlRecordV3.covered]

theorem readsAs_recordWithTail {config : ReplacementConfig} (h : validateConfig config = true) :
    ReadsAs (recordWithTail config).toBytes config.trim := by
  refine readsAs_iff_valid.2 ⟨RuntimeControlRecordV3.length_toBytes _, ?_, ?_⟩
  · rw [RuntimeControlRecordV3.ofBytes_toBytes]
    simp only [validateConfig, Bool.and_eq_true] at h
    obtain ⟨⟨⟨⟨hgen, hseed⟩, hprint⟩, hmode⟩, hlen⟩ := h
    simp only [validateV3Record, Bool.and_eq_true]
    exact ⟨⟨⟨⟨⟨⟨⟨⟨⟨⟨rfl, rfl⟩, rfl⟩, hgen⟩, hseed⟩, hmode⟩, hlen⟩, hprint⟩, rfl⟩, rfl⟩,
      beq_iff_eq.2 (recordWithTail_crc32 config)⟩
  · rw [RuntimeControlRecordV3.ofBytes_toBytes]
    rfl

theorem recordWithTail_not_zeroTail : ¬ZeroTail (recordWithTail tailedConfig).toBytes := by
  intro h
  have hid := zeroTail_iff_copyId.1 h
  rw [RuntimeControlRecordV3.ofBytes_toBytes] at hid
  have hbyte := congrArg (fun id : Vector UInt8 64 => id[32]) hid
  revert hbyte
  decide

theorem recordOfConfig_zeroTail {config : ReplacementConfig} (h : validateConfig config = true) :
    ZeroTail (recordOfConfig config).toBytes := by
  have hlen : config.virtualIdLength = kWidevineDeviceUniqueIdBytes := by
    simp only [validateConfig, Bool.and_eq_true, beq_iff_eq] at h
    exact h.2
  rw [zeroTail_iff_copyId, RuntimeControlRecordV3.ofBytes_toBytes, ← hlen]
  exact copyId_copyId _ _

/-- A record with a tail, and the two that are one. -/
theorem canonical_iff_zero_tail_tailed :
    ¬WrittenAs tailedConfig.trim (recordWithTail tailedConfig).toBytes ∧
      (∃ config, ReadsAs (recordOfConfig tailedConfig).toBytes config) ∧
      (recordOfConfig tailedConfig).toBytes = (recordOfConfig tailedConfig.trim).toBytes := by
  have hvalid : validateConfig tailedConfig = true := by decide
  have hvalid' : validateConfig tailedConfig.trim = true := by decide
  have hreads := readsAs_recordOfConfig hvalid
  have hreads' : ReadsAs (recordOfConfig tailedConfig.trim).toBytes tailedConfig.trim := by
    have h := readsAs_recordOfConfig hvalid'
    rwa [trim_trim] at h
  have hzero := recordOfConfig_zeroTail hvalid
  refine ⟨fun h => ?_, ?_, ?_⟩
  · have hiff := (canonical_iff_zero_tail _).1 _ (readsAs_recordWithTail hvalid)
    exact recordWithTail_not_zeroTail (hiff.1.1 h)
  · exact (canonical_iff_zero_tail _).2.1 (((canonical_iff_zero_tail _).1 _ hreads).2.2 hzero)
  · exact (canonical_iff_zero_tail _).2.2 _ _ hreads hreads' hzero (recordOfConfig_zeroTail hvalid')

/-- Two records of one config, one of which the reference validator refuses. -/
theorem tailed_record_not_canonical :
    ReadsAs (recordWithTail tailedConfig).toBytes tailedConfig.trim ∧
      ReadsAs (recordOfConfig tailedConfig).toBytes tailedConfig.trim ∧
      (recordWithTail tailedConfig).toBytes ≠ (recordOfConfig tailedConfig).toBytes ∧
      validV3 (recordWithTail tailedConfig).toBytes = false := by
  refine ⟨readsAs_recordWithTail (by decide), readsAs_recordOfConfig (by decide), fun heq => ?_, ?_⟩
  · have hid := congrArg (fun record : RuntimeControlRecordV3 => record.virtualId[32])
      (toBytes_injective heq)
    revert hid
    decide
  · rw [Bool.eq_false_iff]
    exact fun h => recordWithTail_not_zeroTail (validV3_iff.1 h).2.2

end Drmid
