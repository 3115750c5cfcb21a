import Drmid.Storage.Proof.RuntimeControl

/-!
# The start of the daemon: upgrade and restore

What a start may do to the files, from the specifications of its parts. Three kinds of files are
told apart: those that hold a config (`safe_restoreRuntimeControl` keeps it), those with a v3 file
that holds none (`safe_restoreRuntimeControl_invalid` changes nothing), and those whose v3 file
holds one (`safe_restoreRuntimeControl_present` says what is returned). `upgrade_crash_safe` carries
the first two over any number of starts.
-/

namespace Drmid

open Lib

/-! ## The config that the files hold -/

section
variable {fs : FileSystem} {config : ReplacementConfig} {ok : FsOutcome → Prop}

theorem controlOf_written (fs : FileSystem) (h : validateConfig config = true) :
    controlOf (fs.written (recordOfConfig config).toBytes .controlV3) = .ok config.trim :=
  controlOf_write h

theorem stored_of_controlOf (h : controlOf (fs .controlV3) = .ok config) :
    fs.stored = some config := by
  obtain ⟨content, hfile, -⟩ := controlOf_eq_ok h
  unfold FileSystem.stored
  rw [h, hfile]
  rfl

/-- The v2 file holds a record that `validate_v2_record` accepts. -/
def LegacyAccepted (b : Bytes) : Prop :=
  b.length = kRuntimeControlV2Bytes ∧ validateV2Record (.ofBytes b) = true

instance (b : Bytes) : Decidable (LegacyAccepted b) :=
  inferInstanceAs (Decidable (_ ∧ _))

theorem stored_of_legacyAccepted {b : Bytes} (hv3 : fs .controlV3 = none)
    (hv2 : fs .controlV2 = some b) (hb : LegacyAccepted b) :
    fs.stored = some (configOfV2 (.ofBytes b)) := by
  have hlegacy : legacyControlOf (some b) = .ok (configOfV2 (.ofBytes b)) := by
    rw [legacyControlOf, recordOf, if_pos hb.1]
    exact if_pos hb.2
  unfold FileSystem.stored
  rw [hv3, hv2, hlegacy]
  rfl

theorem controlOf_of_stored (h : fs.stored = some config) {content : Bytes}
    (hfile : fs .controlV3 = some content) : controlOf (fs .controlV3) = .ok config := by
  unfold FileSystem.stored at h
  rw [hfile] at h ⊢
  cases hc : controlOf (some content) with
  | error err =>
    rw [hc] at h
    cases h
  | ok c =>
    rw [hc] at h
    cases h
    rfl

/-- Where there is no v3 file, the config is the one of a valid v2 record. -/
theorem legacy_of_stored (h : fs.stored = some config) (hfile : fs .controlV3 = none) :
    ∃ legacy, recordOf kRuntimeControlV2Bytes (fs .controlV2) = .ok legacy ∧
      validateV2Record (.ofBytes legacy) = true ∧ configOfV2 (.ofBytes legacy) = config := by
  unfold FileSystem.stored at h
  rw [hfile] at h
  simp only [Option.isSome_none, Bool.false_eq_true, if_false, legacyControlOf] at h
  cases hrec : recordOf kRuntimeControlV2Bytes (fs .controlV2) with
  | error err =>
    rw [hrec] at h
    cases h
  | ok legacy =>
    simp only [hrec] at h
    split at h
    next hvalid =>
      cases h
      exact ⟨legacy, rfl, hvalid, rfl⟩
    next => cases h

/-- What a function of the start keeps: the files hold the config, and after a success the v3 file
does. -/
def Migrated {α : Type} (config : ReplacementConfig) (r : Except KModErr α) (s : FileSystem) :
    Prop :=
  s.stored = some config ∧ (r.isOk = true → controlOf (s .controlV3) = .ok config)

theorem Migrated.of_controlOf {α : Type} {r : Except KModErr α} {s : FileSystem}
    (h : controlOf (s .controlV3) = .ok config) : Migrated config r s :=
  ⟨stored_of_controlOf h, fun _ => h⟩

theorem Migrated.of_error {α : Type} {err : KModErr} {s : FileSystem}
    (h : s.stored = some config) : Migrated config (.error err : Except KModErr α) s :=
  ⟨h, fun h => (by cases h)⟩

/-- The end of the migration keeps the config of the v2 file. -/
theorem safe_convertV2 (hstored : fs.stored = some config) (htrim : config.trim = config) :
    (convertV2 config).Safe FileSystem.exec ok (fun s => s.stored = some config)
      (Migrated config) fs := by
  have hwritten (hvalid : validateConfig config = true) :
      controlOf (fs.written (recordOfConfig config).toBytes .controlV3) = .ok config := by
    rw [controlOf_written _ hvalid, htrim]
  unfold convertV2
  rw [Prog.safe_bind]
  refine (safe_writeRuntimeControlFile (fun _ => hstored)
    fun hvalid => stored_of_controlOf (hwritten hvalid)).mono ?_
  intro err s hwrite
  cases hvalid : validateConfig config with
  | false =>
    rw [hvalid] at hwrite
    obtain ⟨rfl, rfl⟩ := hwrite
    exact .of_error hstored
  | true =>
    rw [hvalid] at hwrite
    rcases hwrite with ⟨rfl, rfl⟩ | ⟨rfl, -, x, rfl⟩
    · have hc := hwritten hvalid
      simp only [ne_eq, not_true_eq_false, if_false]
      rw [Prog.safe_bind]
      refine (safe_readRuntimeControlFile (stored_of_controlOf hc)).mono ?_
      rintro r s ⟨rfl, -⟩
      cases r with
      | error err => exact .of_controlOf hc
      | ok verified =>
        by_cases hv : verified = config
        · simp only [hv, not_true_eq_false, if_false]
          exact .of_controlOf hc
        · simp only [hv, not_false_eq_true, if_true]
          exact .of_controlOf hc
    · exact .of_error hstored

/-- **The migration** keeps the config, and after it has succeeded the v3 file holds it. -/
theorem safe_migrateRuntimeControlV2 (hstored : fs.stored = some config) :
    migrateRuntimeControlV2.Safe FileSystem.exec ok (fun s => s.stored = some config)
      (Migrated config) fs := by
  unfold migrateRuntimeControlV2
  rw [Prog.safe_bind]
  refine (safe_readExactRecord hstored _ _).mono ?_
  rintro r s ⟨rfl, hr⟩
  cases r with
  | ok current =>
    have hrec : recordOf kRuntimeControlRecordBytes (s .controlV3) = .ok current := by
      rcases hr with hr | ⟨-, hr⟩
      · exact hr.symm
      · cases hr
    have hc := controlOf_of_stored hstored (recordOf_eq_ok.1 hrec).1
    by_cases hvalid : validateV3Record (.ofBytes current) = true
    · simp only [hvalid, if_true]
      exact .of_controlOf hc
    · simp only [hvalid]
      exact .of_error hstored
  | error v3Err =>
    by_cases hnone : v3Err = .errModuleStorageNotFound
    · subst hnone
      have hfile : s .controlV3 = none := by
        rcases hr with hr | ⟨-, hr⟩
        · exact recordOf_eq_notFound.1 hr.symm
        · cases hr
      obtain ⟨legacy, hrec, hvalid, hconfig⟩ := legacy_of_stored hstored hfile
      simp only [ne_eq, not_true_eq_false, if_false]
      rw [Prog.safe_bind]
      refine (safe_readExactRecord hstored _ _).mono ?_
      rintro r s' ⟨rfl, hr⟩
      rw [hrec] at hr
      rcases hr with rfl | ⟨-, rfl⟩
      · simp only [hvalid, if_true, hconfig]
        exact safe_convertV2 hstored (hconfig ▸ configOfV2_trim _)
      · exact .of_error hstored
    · simp only [ne_eq, hnone, not_false_eq_true, if_true]
      exact .of_error hstored

/-- The files but for the old ones are as in `fs`. -/
def CleanupFrame (fs s : FileSystem) : Prop := ∀ f, f ∉ kLegacyTargetFiles → s f = fs f

theorem CleanupFrame.update {s : FileSystem} (h : CleanupFrame fs s) {f : StateFile}
    (hf : f ∈ kLegacyTargetFiles) (x : Option Bytes) : CleanupFrame fs (Function.update s f x) := by
  intro g hg
  have hne : g ≠ f := fun heq => hg (heq ▸ hf)
  rw [Function.update_of_ne hne]
  exact h g hg

theorem CleanupFrame.unlink {s : FileSystem} (h : CleanupFrame fs s) {f : StateFile}
    (hf : f ∈ kLegacyTargetFiles) (o : FsOutcome) :
    CleanupFrame fs (FileSystem.exec (.unlink f) o s).2 := by
  cases o with
  | fails => exact h
  | succeeds moved =>
    simp only [FileSystem.exec, FileSystem.perform]
    split
    · exact h.update hf none
    · exact h

theorem safe_removeFiles {files : List StateFile} (hfiles : ∀ f ∈ files, f ∈ kLegacyTargetFiles)
    {s : FileSystem} (hs : CleanupFrame fs s) (removed : Nat) :
    (removeFiles files removed).Safe FileSystem.exec ok (CleanupFrame fs)
      (fun _ => CleanupFrame fs) s := by
  induction files generalizing s removed with
  | nil => exact hs
  | cons f files ih =>
    obtain ⟨hf, hfiles⟩ := List.forall_mem_cons.1 hfiles
    unfold removeFiles
    rw [safe_succeeded_bind]
    intro o _
    rw [FsCall.Quiet.exec (c := .fstatat f) trivial]
    refine ⟨hs, ?_⟩
    cases (FileSystem.exec (.fstatat f) o s).1 == .done with
    | false => exact ih hfiles hs removed
    | true =>
      simp only [if_true]
      rw [safe_succeeded_bind]
      intro o' _
      exact ⟨hs.unlink hf o', ih hfiles (hs.unlink hf o') _⟩

/-- The clean-up touches the old files only. -/
theorem safe_cleanup (fs : FileSystem) :
    cleanupLegacyTargetStateAfterGlobalMigration.Safe FileSystem.exec ok (CleanupFrame fs)
      (fun _ => CleanupFrame fs) fs := by
  have hself : CleanupFrame fs fs := fun _ _ => rfl
  refine safe_plain (fun _ => rfl) hself fun opened _ => ?_
  cases opened with
  | false => exact hself
  | true =>
    simp only [if_true]
    rw [Prog.safe_bind]
    refine (safe_removeFiles (fun _ h => h) hself 0).mono ?_
    intro removed s hs
    split
    · exact safe_quiet trivial hs fun _ _ => safe_quiet trivial hs fun _ _ => hs
    · exact safe_quiet trivial hs fun _ _ => hs

/-- What the start returns for a config that it has read. -/
def restoreResult (config : ReplacementConfig) : Except KModErr ReplacementConfig :=
  if restorable config then .ok config else .error .errModuleStorageType

/-- A v3 file that holds a config is restored as it is, and nothing is written. -/
theorem safe_restoreOrInitialize (initial : ReplacementConfig)
    (hc : controlOf (fs .controlV3) = .ok config) :
    (restoreOrInitialize initial).Safe FileSystem.exec ok (fun s => s = fs)
      (fun r s => s = fs ∧ (r = restoreResult config ∨ ok .fails)) fs := by
  unfold restoreOrInitialize
  rw [Prog.safe_bind]
  refine (safe_readRuntimeControlFile (I := fun s => s = fs) rfl).mono ?_
  rintro r s ⟨rfl, hr⟩
  rw [hc] at hr
  rcases hr with rfl | ⟨hfails, rfl⟩
  · unfold restoreResult
    cases hres : restorable config with
    | false =>
      simp only [hres, Bool.false_eq_true, if_false]
      exact ⟨rfl, .inl rfl⟩
    | true =>
      simp only [hres, if_true]
      exact ⟨rfl, .inl rfl⟩
  · exact ⟨rfl, .inr hfails⟩

/-- The same after the clean-up. -/
theorem safe_cleanup_restore (initial : ReplacementConfig)
    (hc : controlOf (fs .controlV3) = .ok config) :
    (cleanupLegacyTargetStateAfterGlobalMigration >>= fun _ => restoreOrInitialize initial).Safe
      FileSystem.exec ok (CleanupFrame fs)
      (fun r s => CleanupFrame fs s ∧ (r = restoreResult config ∨ ok .fails)) fs := by
  rw [Prog.safe_bind]
  refine (safe_cleanup fs).mono ?_
  intro _ s hs
  have hc' : controlOf (s .controlV3) = .ok config := by rw [hs .controlV3 (by decide), hc]
  refine ((safe_restoreOrInitialize initial hc').mono_inv ?_).mono ?_
  · rintro _ rfl
    exact hs
  · rintro r _ ⟨rfl, hr⟩
    exact ⟨hs, hr⟩

/-- The files keep the config that they hold. -/
theorem safe_restoreRuntimeControl (initial : ReplacementConfig)
    (hstored : fs.stored = some config) :
    (restoreRuntimeControl initial).Safe FileSystem.exec ok (fun s => s.stored = some config)
      (fun _ s => s.stored = some config) fs := by
  have hframe {s s' : FileSystem} (hc : controlOf (s .controlV3) = .ok config)
      (hs : CleanupFrame s s') : s'.stored = some config :=
    stored_of_controlOf (by rw [hs .controlV3 (by decide), hc])
  unfold restoreRuntimeControl
  rw [Prog.safe_bind]
  refine (safe_migrateRuntimeControlV2 hstored).mono ?_
  rintro r s ⟨hs, hr⟩
  cases r with
  | error err => exact hs
  | ok migrated =>
    have hc := hr rfl
    exact ((safe_cleanup_restore initial hc).mono_inv fun _ => hframe hc).mono
      fun _ _ h => hframe hc h.1

/-- With a v3 file the migration only reads it: it succeeds iff the record is valid, unless a call
fails. -/
theorem safe_migrateRuntimeControlV2_present {content : Bytes}
    (hfile : fs .controlV3 = some content) :
    migrateRuntimeControlV2.Safe FileSystem.exec ok (fun s => s = fs)
      (fun r s => s = fs ∧
        if (controlOf (some content)).isOk then r = .ok false ∨ ok .fails
        else r.isOk = false) fs := by
  unfold migrateRuntimeControlV2
  rw [Prog.safe_bind]
  refine (safe_readExactRecord (I := fun s => s = fs) rfl _ _).mono ?_
  rintro r s ⟨rfl, hr⟩
  rw [hfile] at hr
  by_cases hlen : content.length = kRuntimeControlRecordBytes
  · simp only [recordOf, hlen, if_true] at hr
    have hok : (controlOf (some content)).isOk = validateV3Record (.ofBytes content) := by
      simp only [controlOf, recordOf, hlen, if_true]
      cases validateV3Record (.ofBytes content) <;> rfl
    rw [hok]
    rcases hr with rfl | ⟨hfails, rfl⟩
    · cases hvalid : validateV3Record (.ofBytes content) with
      | false =>
        simp only [hvalid, Bool.false_eq_true, if_false]
        exact ⟨rfl, rfl⟩
      | true =>
        simp only [hvalid, if_true]
        exact ⟨rfl, .inl rfl⟩
    · refine ⟨rfl, ?_⟩
      cases validateV3Record (.ofBytes content) with
      | false => rfl
      | true => exact .inr hfails
  · have hr : r = .error .errModuleStorageRead := by
      simp only [recordOf, hlen, if_false] at hr
      exact hr.elim id fun h => h.2
    have hok : (controlOf (some content)).isOk = false := by
      simp only [controlOf, recordOf, hlen, if_false]
      rfl
    subst hr
    rw [hok]
    exact ⟨rfl, rfl⟩

/-- A v3 file that is there and holds no config stops the start before it has changed anything. -/
theorem safe_restoreRuntimeControl_invalid (initial : ReplacementConfig) {content : Bytes}
    (hfile : fs .controlV3 = some content) (hbad : (controlOf (some content)).isOk = false) :
    (restoreRuntimeControl initial).Safe FileSystem.exec ok (fun s => s = fs)
      (fun _ s => s = fs) fs := by
  unfold restoreRuntimeControl
  rw [Prog.safe_bind]
  refine (safe_migrateRuntimeControlV2_present hfile).mono ?_
  rintro r s ⟨rfl, hr⟩
  rw [hbad] at hr
  cases r with
  | error err => exact rfl
  | ok migrated => cases hr

/-- A start that finds a v3 file with a config returns it if it can be restored, unless a call
fails. -/
theorem safe_restoreRuntimeControl_present (initial : ReplacementConfig)
    (hc : controlOf (fs .controlV3) = .ok config) :
    (restoreRuntimeControl initial).Safe FileSystem.exec ok (CleanupFrame fs)
      (fun r s => CleanupFrame fs s ∧ (r = restoreResult config ∨ ok .fails)) fs := by
  have hself : CleanupFrame fs fs := fun _ _ => rfl
  obtain ⟨content, hfile, -⟩ := controlOf_eq_ok hc
  have hok : (controlOf (some content)).isOk = true := by
    rw [← hfile, hc]
    rfl
  unfold restoreRuntimeControl
  rw [Prog.safe_bind]
  refine ((safe_migrateRuntimeControlV2_present hfile).mono_inv fun s hs => hs ▸ hself).mono ?_
  rintro r s ⟨rfl, hr⟩
  rw [hok, if_pos rfl] at hr
  rcases hr with rfl | hfails
  · exact safe_cleanup_restore initial hc
  · cases r with
    | error err => exact ⟨hself, .inr hfails⟩
    | ok migrated => exact safe_cleanup_restore initial hc

/-! ## Upgrade -/

theorem step_stored (start : DaemonStart) (h : fs.stored = some config) :
    (DaemonStart.step fs start).stored = some config := by
  have hsafe : (restoreRuntimeControl start.initial).Safe FileSystem.exec (fun _ => True)
      (fun s => s.stored = some config) _ fs := safe_restoreRuntimeControl start.initial h
  exact hsafe.run h fun _ _ => trivial

theorem step_invalid (start : DaemonStart) {content : Bytes}
    (hfile : fs .controlV3 = some content) (hbad : (controlOf (some content)).isOk = false) :
    DaemonStart.step fs start = fs := by
  have hsafe : (restoreRuntimeControl start.initial).Safe FileSystem.exec (fun _ => True)
      (fun s => s = fs) _ fs := safe_restoreRuntimeControl_invalid start.initial hfile hbad
  exact hsafe.run rfl fun _ _ => trivial

end

/-- **The upgrade is crash-safe.** Through any number of starts, each failing and cut off anywhere,
the config that the files hold stays what it was; and while the v3 file is there but is no valid
record, the v2 file stays as it was. -/
theorem upgrade_crash_safe (fs : FileSystem) (starts : List DaemonStart) :
    let fs' := run DaemonStart.step fs starts
    (∀ config, fs.stored = some config → fs'.stored = some config) ∧
      (∀ content, fs .controlV3 = some content → (controlOf (some content)).isOk = false →
        fs' .controlV2 = fs .controlV2) := by
  induction starts generalizing fs with
  | nil => exact ⟨fun _ h => h, fun _ _ _ => rfl⟩
  | cons start starts ih =>
    obtain ⟨hkeep, hinvalid⟩ := ih (DaemonStart.step fs start)
    refine ⟨fun config h => hkeep config (step_stored start h), fun content hfile hbad => ?_⟩
    have hstep := step_invalid start hfile hbad
    rw [hstep] at hinvalid
    show run DaemonStart.step (DaemonStart.step fs start) starts .controlV2 = _
    rw [hstep]
    exact hinvalid content hfile hbad

/-- A config with its own fingerprint, as the daemon writes it. -/
def sampleControl : ReplacementConfig where
  mode := 1
  virtualIdLength := 32
  configGeneration := 4
  seedGeneration := 1
  profileFingerprint := 0x77bd62f8ad7a6866
  virtualId := Vector.replicate 64 0

/-- A v2 record for two targets, with this fingerprint and CRC. -/
def legacyBytes (fingerprint : UInt64) (crc : UInt32) : Bytes :=
  leBytes 8 kRuntimeControlV2Magic ++ leBytes 4 2 ++ leBytes 4 256 ++ leBytes 8 7 ++ leBytes 8 2 ++
    leBytes 8 fingerprint ++ leBytes 4 1 ++ leBytes 4 2 ++ leBytes 4 2 ++ leBytes 4 32 ++
    leBytes 4 10373 ++ leBytes 4 10455 ++ List.replicate 120 0 ++
    (List.range 32).map UInt8.ofNat ++ List.replicate 32 0 ++ leBytes 4 crc.toUInt64 ++ leBytes 4 0

theorem legacyAccepted_printed : LegacyAccepted (legacyBytes 0xa150911f32649cf3 0x442d7c5b) := by
  decide +kernel

/-- A private directory with that v2 file alone. -/
def legacyFiles : FileSystem := fun f =>
  if f = .controlV2 then some (legacyBytes 0xa150911f32649cf3 0x442d7c5b) else none

/-- A start that is cut off when the v3 record has been written and not yet renamed, one whose
rename fails, and one that is left alone and migrates the v2 file. -/
theorem upgrade_crash_safe_sample :
    (run DaemonStart.step legacyFiles
      [⟨sampleControl, List.replicate 7 (.succeeds 256)⟩,
        ⟨sampleControl, List.replicate 10 (.succeeds 256) ++ [.fails]⟩,
        ⟨sampleControl, List.replicate 40 (.succeeds 256)⟩]).stored =
      some (configOfV2 (.ofBytes (legacyBytes 0xa150911f32649cf3 0x442d7c5b))) :=
  (upgrade_crash_safe legacyFiles _).1 _ (stored_of_legacyAccepted rfl rfl legacyAccepted_printed)

end Drmid
