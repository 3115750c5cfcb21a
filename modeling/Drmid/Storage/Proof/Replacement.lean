import Drmid.Storage.Proof.Capability
import Drmid.Storage.Proof.RuntimeProfile

/-!
# Records are replaced as a whole

The three writers of `runtime_control.cpp`, `runtime_profile.cpp` and `binder_ioctl_resolver.cpp`
have loops and clean-ups of their own. `records_replaced` is what they have in common: the
specifications of the three, read at the file that is replaced.
-/

namespace Drmid

open Lib

/-- `write_record`. -/
theorem replaces_writeRecord (record : Bytes) :
    (writeRecord record).Replaces FileSystem.exec FsCall.retried .fails
      (fun fs => fs .controlV3) (some record) .ok := by
  have hne : StateFile.controlV3 ≠ .controlV3Tmp := by decide
  refine Prog.replaces_of_safe (fun fs => ?_) _ _
  have htmp (x : Option Bytes) : fs.withTmp x .controlV3 = fs .controlV3 :=
    Function.update_of_ne hne _ _
  have hnew : fs.written record .controlV3 = some record := by
    rw [FileSystem.written, FileSystem.withTmp, Function.update_of_ne hne, Function.update_self]
  refine (safe_writeRecord (fun x => .inl (htmp x)) (.inr hnew)).mono ?_
  rintro err s (⟨rfl, rfl⟩ | ⟨rfl, -, x, rfl⟩)
  · exact .inl ⟨rfl, hnew⟩
  · exact .inr ⟨by decide, htmp x⟩

theorem replaces_writeSeedFile (record : SeedRecord) :
    (writeSeedFile record).Replaces Files.exec Files.Call.retried .fails
      (fun fs => fs .record) (some record.toBytes) .ok := by
  have hne : SeedFile.record ≠ .temporary := by decide
  refine Prog.replaces_of_safe (fun fs => ?_) _ _
  have hnew := written_record fs record.toBytes
  refine (safe_writeSeedFile (fun x => .inl (Files.withTmp_apply_of_ne hne x))
    fun _ => .inr hnew).mono ?_
  rintro err s (⟨rfl, -, rfl⟩ | ⟨herr, -, x, rfl⟩)
  · exact .inl ⟨rfl, hnew⟩
  · exact .inr ⟨herr, Files.withTmp_apply_of_ne hne x⟩

theorem replaces_writeBinderCapabilityStatus (release : Bytes)
    (resolution : BinderIoctlResolution) :
    (writeBinderCapabilityStatus release resolution).Replaces Files.exec Files.Call.retried .fails
      (fun fs => fs .status) (some (capabilityRecord release resolution).toBytes) .ok := by
  have hne : CapabilityFile.status ≠ .temporary := by decide
  refine Prog.replaces_of_safe (fun fs => ?_) _ _
  have hnew : fs.written .temporary .status (capabilityRecord release resolution).toBytes .status =
      some (capabilityRecord release resolution).toBytes := Files.written_dst hne.symm _
  cases hparam : release.isEmpty || decide (64 ≤ release.length) ||
      !hasRequiredBinderCapabilities resolution with
  | true =>
    unfold writeBinderCapabilityStatus
    rw [if_pos hparam]
    exact .inr ⟨by decide, rfl⟩
  | false =>
    refine (safe_writeBinderCapabilityStatus hparam
      (fun x => .inl (Files.withTmp_apply_of_ne hne x)) (.inr hnew)).mono ?_
    rintro err s (⟨rfl, rfl⟩ | ⟨rfl, -, x, rfl⟩)
    · exact .inl ⟨rfl, hnew⟩
    · exact .inr ⟨by decide, Files.withTmp_apply_of_ne hne x⟩

/-- **Main result: the three records are replaced as a whole.** -/
theorem records_replaced :
    (∀ record : Bytes,
      (writeRecord record).Replaces FileSystem.exec FsCall.retried .fails
        (fun fs => fs .controlV3) (some record) .ok) ∧
    (∀ record : SeedRecord,
      (writeSeedFile record).Replaces Files.exec Files.Call.retried .fails
        (fun fs => fs .record) (some record.toBytes) .ok) ∧
    (∀ (release : Bytes) (resolution : BinderIoctlResolution),
      (writeBinderCapabilityStatus release resolution).Replaces Files.exec Files.Call.retried
        .fails (fun fs => fs .status) (some (capabilityRecord release resolution).toBytes) .ok) :=
  ⟨replaces_writeRecord, replaces_writeSeedFile, replaces_writeBinderCapabilityStatus⟩

end Drmid
