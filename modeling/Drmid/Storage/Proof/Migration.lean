import Drmid.Storage.Proof.Codec
import Drmid.Storage.Proof.Upgrade

/-!
# The migration of a v2 record

`migration_exact_iff`: a record that `validate_v2_record` accepts is migrated exactly, once, iff it
has a fingerprint: `validate_config` asks for one and `validate_v2_record` does not. In every other
state of the two files the migration changes none.
-/

namespace Drmid

open Lib

/-- The calls succeed. -/
abbrev NoFailure (o : FsOutcome) : Prop := o ≠ .fails

theorem not_noFailure : ¬NoFailure .fails := fun h => h rfl

/-! ## The end of the migration -/

section
variable {ok : FsOutcome → Prop} {I : FileSystem → Prop} {fs : FileSystem}
  {config : ReplacementConfig}

/-- A config that may not be written stops the migration before it has changed anything. -/
theorem safe_convertV2_invalid (h : validateConfig config = false) :
    (convertV2 config).Safe FileSystem.exec ok I
      (fun r s => r = .error .errModuleParam ∧ s = fs) fs := by
  unfold convertV2 writeRuntimeControlFile
  simp only [h, Bool.false_eq_true, if_false]
  exact ⟨rfl, rfl⟩

/-- Without failures a config that may be written is written and verified. -/
theorem safe_convertV2_valid (h : validateConfig config = true) (htrim : config.trim = config)
    (hfails : ¬ok .fails) :
    (convertV2 config).Safe FileSystem.exec ok (fun _ => True)
      (fun r s => r = .ok true ∧ s = fs.written (recordOfConfig config).toBytes) fs := by
  unfold convertV2
  rw [Prog.safe_bind]
  refine (safe_writeRuntimeControlFile (fun _ => trivial) fun _ => trivial).mono ?_
  intro err s hwrite
  rw [h] at hwrite
  rcases hwrite with ⟨rfl, rfl⟩ | ⟨-, hf, -⟩
  · simp only [ne_eq, not_true_eq_false, if_false]
    rw [Prog.safe_bind]
    refine (safe_readRuntimeControlFile trivial).mono ?_
    rintro r s ⟨rfl, hr⟩
    rw [controlOf_written fs h, htrim] at hr
    rcases hr with rfl | ⟨hf, -⟩
    · simp only [not_true_eq_false, if_false]
      exact ⟨rfl, rfl⟩
    · exact (hfails hf).elim
  · exact (hfails hf).elim

/-! ## The migration -/

/-- With no v3 file and an accepted v2 record the migration is its end. -/
theorem safe_migrate_accepted {Q : Except KModErr Bool → FileSystem → Prop} {b : Bytes}
    (hI : I fs) (hv3 : fs .controlV3 = none) (hv2 : fs .controlV2 = some b) (hb : LegacyAccepted b)
    (hfails : ¬ok .fails)
    (hend : (convertV2 (configOfV2 (.ofBytes b))).Safe FileSystem.exec ok I Q fs) :
    migrateRuntimeControlV2.Safe FileSystem.exec ok I Q fs := by
  unfold migrateRuntimeControlV2
  rw [Prog.safe_bind]
  refine (safe_readExactRecord hI _ _).mono ?_
  rintro r s ⟨rfl, hr⟩
  rw [hv3] at hr
  rcases hr with rfl | ⟨hf, -⟩
  · simp only [recordOf, ne_eq, not_true_eq_false, if_false]
    rw [Prog.safe_bind]
    refine (safe_readExactRecord hI _ _).mono ?_
    rintro r s ⟨rfl, hr⟩
    rw [hv2] at hr
    rcases hr with rfl | ⟨hf, -⟩
    · simp only [recordOf, hb.1, if_true, hb.2]
      exact hend
    · exact (hfails hf).elim
  · exact (hfails hf).elim

/-- With no v3 file and no accepted v2 record the migration only reads. -/
theorem safe_migrate_refused (hv3 : fs .controlV3 = none)
    (hv2 : ∀ b, fs .controlV2 = some b → ¬LegacyAccepted b) :
    migrateRuntimeControlV2.Safe FileSystem.exec ok (fun s => s = fs) (fun _ s => s = fs) fs := by
  unfold migrateRuntimeControlV2
  rw [Prog.safe_bind]
  refine (safe_readExactRecord (I := fun s => s = fs) rfl _ _).mono ?_
  rintro r s ⟨rfl, hr⟩
  rw [hv3] at hr
  rcases hr with rfl | ⟨-, rfl⟩
  · simp only [recordOf, ne_eq, not_true_eq_false, if_false]
    rw [Prog.safe_bind]
    refine (safe_readExactRecord (I := fun s' => s' = s) rfl _ _).mono ?_
    rintro r s' ⟨rfl, hr⟩
    cases r with
    | error err =>
      dsimp only
      split
      · exact rfl
      · exact rfl
    | ok legacy =>
      have hrec : recordOf kRuntimeControlV2Bytes (s' .controlV2) = .ok legacy := by
        rcases hr with hr | ⟨-, hr⟩
        · exact hr.symm
        · cases hr
      obtain ⟨hfile, hlen⟩ := recordOf_eq_ok.1 hrec
      have hinvalid : ¬validateV2Record (.ofBytes legacy) = true :=
        fun hvalid => hv2 legacy hfile ⟨hlen, hvalid⟩
      simp only [hinvalid]
      exact rfl
  · exact rfl

end

/-- The migration of an accepted record `b`, with the v3 file absent and no failing call: the v3
file then holds the fields of `b`, the v2 file is as it was, and a second call changes nothing. -/
def MigratesExactly (b : Bytes) : Prop :=
  ∀ (fs : FileSystem) (os os' : Nat → FsOutcome), fs .controlV3 = none → fs .controlV2 = some b →
    (∀ n, os n ≠ .fails) → (∀ n, os' n ≠ .fails) →
    let legacy := RuntimeControlRecordV2.ofBytes b
    let first := migrateRuntimeControlV2.eval FileSystem.exec os fs
    let second := migrateRuntimeControlV2.eval FileSystem.exec os' first.2
    first.1 = .ok true ∧ first.2 .controlV2 = some b ∧
      (∃ r config, first.2 .controlV3 = some r ∧ ReadsAs r config ∧
        config.configGeneration = legacy.configGeneration ∧
        config.seedGeneration = legacy.seedGeneration ∧
        config.profileFingerprint = legacy.profileFingerprint ∧
        config.mode = legacy.replacementMode ∧
        config.idBytes = legacy.virtualId.toList.take 32) ∧
      second.1 = .ok false ∧ second.2 = first.2

section
variable {b : Bytes}

theorem validateConfig_configOfV2 (hb : LegacyAccepted b) :
    validateConfig (configOfV2 (.ofBytes b)) =
      ((RuntimeControlRecordV2.ofBytes b).profileFingerprint != 0) := by
  have h := hb.2
  simp only [validateV2Record, Bool.and_eq_true] at h
  obtain ⟨⟨⟨⟨⟨⟨⟨-, hgen⟩, hseed⟩, hmode⟩, -⟩, hlen⟩, -⟩, -⟩ := h
  simp only [validateConfig, configOfV2, hgen, hseed, hlen, Bool.true_and, Bool.and_true]
  exact (congrArg _ hmode).trans (Bool.and_true _)

theorem idBytes_configOfV2 (hb : LegacyAccepted b) :
    (configOfV2 (.ofBytes b)).idBytes =
      (RuntimeControlRecordV2.ofBytes b).virtualId.toList.take 32 := by
  have hlen :
      (RuntimeControlRecordV2.ofBytes b).virtualIdLength = kWidevineDeviceUniqueIdBytes := by
    have h := hb.2
    simp only [validateV2Record, Bool.and_eq_true, beq_iff_eq] at h
    exact h.1.1.2
  simp only [ReplacementConfig.idBytes, configOfV2, hlen, copyId_toList]
  show ((_ : Bytes) ++ _).take 32 = _
  rw [List.take_append_of_le_length (by simp), List.take_take]
  rfl

/-- A record with a fingerprint is migrated exactly. -/
theorem migratesExactly_of_fingerprint (hb : LegacyAccepted b)
    (hprint : (RuntimeControlRecordV2.ofBytes b).profileFingerprint ≠ 0) : MigratesExactly b := by
  intro fs os os' hv3 hv2 hos hos' legacy first second
  have hvalid : validateConfig (configOfV2 legacy) = true := by
    rw [validateConfig_configOfV2 hb]
    exact bne_iff_ne.2 hprint
  have hreads := readsAs_recordOfConfig hvalid
  rw [configOfV2_trim] at hreads
  obtain ⟨r, hr⟩ : ∃ r, (recordOfConfig (configOfV2 legacy)).toBytes = r := ⟨_, rfl⟩
  rw [hr] at hreads
  have hfirst : first = (.ok true, fs.written r) := by
    have hend : (convertV2 (configOfV2 legacy)).Safe FileSystem.exec NoFailure _ _ fs :=
      safe_convertV2_valid hvalid (configOfV2_trim _) not_noFailure
    have h := (safe_migrate_accepted trivial hv3 hv2 hb not_noFailure hend).eval os hos
    rw [hr] at h
    exact Prod.ext h.1 h.2
  have hcontrol : fs.written r .controlV3 = some r := written_controlV3 fs r
  have hsecond : second = (.ok false, fs.written r) := by
    have hsafe : migrateRuntimeControlV2.Safe FileSystem.exec NoFailure _ _ (fs.written r) :=
      safe_migrateRuntimeControlV2_present hcontrol
    have h := hsafe.eval os' hos'
    have hok : (controlOf (some r)).isOk = true := by
      rw [readsAs_iff.1 hreads]
      rfl
    rw [hok, if_pos rfl] at h
    have heq : second = migrateRuntimeControlV2.eval FileSystem.exec os' (fs.written r) := by
      show migrateRuntimeControlV2.eval FileSystem.exec os' first.2 = _
      rw [hfirst]
    rw [heq]
    exact Prod.ext (h.2.resolve_right not_noFailure) h.1
  rw [hsecond, hfirst]
  refine ⟨rfl, ?_, ⟨r, configOfV2 legacy, hcontrol, hreads, rfl, rfl, rfl, rfl,
    idBytes_configOfV2 hb⟩, rfl, rfl⟩
  exact hv2

/-- A record without one is refused. -/
theorem eval_migrate_of_no_fingerprint (hb : LegacyAccepted b)
    (hprint : (RuntimeControlRecordV2.ofBytes b).profileFingerprint = 0) {fs : FileSystem}
    (hv3 : fs .controlV3 = none) (hv2 : fs .controlV2 = some b) {os : Nat → FsOutcome}
    (hos : ∀ n, os n ≠ .fails) :
    migrateRuntimeControlV2.eval FileSystem.exec os fs = (.error .errModuleParam, fs) := by
  have hinvalid : validateConfig (configOfV2 (.ofBytes b)) = false := by
    rw [validateConfig_configOfV2 hb, hprint]
    rfl
  have hend : (convertV2 (configOfV2 (.ofBytes b))).Safe FileSystem.exec NoFailure (fun _ => True)
      _ fs := safe_convertV2_invalid hinvalid
  have h := (safe_migrate_accepted trivial hv3 hv2 hb not_noFailure hend).eval os hos
  exact Prod.ext h.1 h.2

end

/-- **Main result: the migration.** An accepted v2 record is migrated exactly iff it has a
fingerprint, and in every other state of the two files the migration changes none. -/
theorem migration_exact_iff (b : Bytes) :
    (LegacyAccepted b →
      (MigratesExactly b ↔ (RuntimeControlRecordV2.ofBytes b).profileFingerprint ≠ 0)) ∧
    (∀ (fs : FileSystem) (os : Nat → FsOutcome),
      (fs .controlV3 ≠ none ∨ ∀ b, fs .controlV2 = some b → ¬LegacyAccepted b) →
      (migrateRuntimeControlV2.eval FileSystem.exec os fs).2 = fs) := by
  refine ⟨fun hb => ⟨fun h hprint => ?_, migratesExactly_of_fingerprint hb⟩, fun fs os h => ?_⟩
  · let fs : FileSystem := fun f => if f = .controlV2 then some b else none
    have hos (_ : Nat) := FsOutcome.succeeds_ne_fails 256
    have hfirst := (h fs (fun _ => .succeeds 256) (fun _ => .succeeds 256) rfl rfl hos hos).1
    rw [eval_migrate_of_no_fingerprint hb hprint rfl rfl hos] at hfirst
    cases hfirst
  · cases hv3 : fs .controlV3 with
    | some content =>
      have hsafe : migrateRuntimeControlV2.Safe FileSystem.exec (fun _ => True) (fun s => s = fs) _
          fs := safe_migrateRuntimeControlV2_present hv3
      exact (hsafe.eval os fun _ => trivial).1
    | none =>
      have hv2 := h.resolve_left fun hne => hne hv3
      have hsafe : migrateRuntimeControlV2.Safe FileSystem.exec (fun _ => True) (fun s => s = fs) _
          fs := safe_migrate_refused hv3 hv2
      exact hsafe.eval os fun _ => trivial

theorem legacyAccepted_zero : LegacyAccepted (legacyBytes 0 0xd072bf7f) := by
  decide +kernel

/-- It is accepted without a fingerprint, and not migrated. -/
theorem fingerprintless_record_not_migrated :
    LegacyAccepted (legacyBytes 0 0xd072bf7f) ∧
      (migrateRuntimeControlV2.eval FileSystem.exec (fun _ => .succeeds 256) fun f =>
        if f = .controlV2 then some (legacyBytes 0 0xd072bf7f) else none).1 =
          .error .errModuleParam ∧
      ¬MigratesExactly (legacyBytes 0 0xd072bf7f) := by
  have hprint :
      (RuntimeControlRecordV2.ofBytes (legacyBytes 0 0xd072bf7f)).profileFingerprint = 0 := by
    decide +kernel
  have hos (_ : Nat) := FsOutcome.succeeds_ne_fails 256
  let fs : FileSystem := fun f => if f = .controlV2 then some (legacyBytes 0 0xd072bf7f) else none
  have heval : migrateRuntimeControlV2.eval FileSystem.exec (fun _ => .succeeds 256) fs =
      (.error .errModuleParam, fs) :=
    eval_migrate_of_no_fingerprint legacyAccepted_zero hprint rfl rfl hos
  refine ⟨legacyAccepted_zero, congrArg Prod.fst heval, fun h => ?_⟩
  have hfirst := (h fs _ _ rfl rfl hos hos).1
  rw [heval] at hfirst
  cases hfirst

/-- One with a fingerprint is; and where there is nothing, nothing changes. -/
theorem migration_exact_iff_printed :
    MigratesExactly (legacyBytes 0xa150911f32649cf3 0x442d7c5b) ∧
      (migrateRuntimeControlV2.eval FileSystem.exec (fun _ => .succeeds 256) fun _ => none).2 =
        fun _ => none := by
  refine ⟨((migration_exact_iff _).1 legacyAccepted_printed).2 (by decide +kernel), ?_⟩
  exact (migration_exact_iff []).2 _ _ (.inr fun b h => (by cases h))

end Drmid
