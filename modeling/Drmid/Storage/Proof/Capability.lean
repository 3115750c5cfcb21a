import Drmid.Resolver.Proof.Release
import Drmid.Resolver.Proof.Resolve
import Drmid.Storage.Capability
import Drmid.Storage.Proof.RuntimeControl

/-!
# The capability record: round trip

`capability_round_trip`: what is written of a resolution is what is read. The reader's conditions
that the writer does not check come from elsewhere: a resolution has a backend, two known sources
and all capabilities (`validCapabilityRecord_capabilityRecord`), and a release that passed the gate
has no odd character.
-/

namespace Drmid

open Lib

/-! ## Records -/

namespace BinderCapabilityRecordV1

theorem length_covered (r : BinderCapabilityRecordV1) : r.covered.length = 152 := by
  simp [covered]

theorem length_toBytes (r : BinderCapabilityRecordV1) :
    r.toBytes.length = kCapabilityRecordBytes := by
  simp [toBytes, length_covered, kCapabilityRecordBytes]

/-- The round trip of a record. -/
theorem ofBytes_toBytes (r : BinderCapabilityRecordV1) : ofBytes r.toBytes = r := by
  have htail := at32_leBytes r.reserved1 []
  rw [List.append_nil] at htail
  simp only [ofBytes, toBytes, covered, List.append_assoc, at32_skip, at64_skip, ofFn_skip,
    length_leBytes, Vector.length_toList, at32_leBytes, at64_leBytes, ofFn_toList, htail,
    Nat.reduceLeDiff, Nat.reduceSub, Nat.le_refl]

theorem covered_ofBytes {b : Bytes} (h : b.length = kCapabilityRecordBytes) :
    (ofBytes b).covered = b.take 152 := by
  simp only [kCapabilityRecordBytes] at h
  simp (disch := omega) only [covered, ofBytes, leBytes_at64, leBytes_at32, toList_ofFn_bytes,
    take_drop_append, Nat.reduceAdd]
  rfl

end BinderCapabilityRecordV1

/-- A file that holds a status is a record whose bytes match its CRC. -/
theorem statusOf_eq_ok {file : Option Bytes} {status : BinderCapabilityStatus}
    (h : statusOf file = .ok status) :
    ∃ content, file = some content ∧ content.length = kCapabilityRecordBytes ∧
      at32 content 152 = crc32 (content.take 152) := by
  cases file with
  | none => cases h
  | some content =>
    by_cases hlen : content.length = kCapabilityRecordBytes
    · by_cases hvalid : validCapabilityRecord (.ofBytes content) = true
      · simp only [validCapabilityRecord, Bool.and_eq_true, beq_iff_eq] at hvalid
        refine ⟨content, rfl, hlen, ?_⟩
        rw [← BinderCapabilityRecordV1.covered_ofBytes hlen]
        exact hvalid.2
      · simp only [statusOf, hlen, if_true, hvalid] at h
        cases h
    · simp only [statusOf, hlen, if_false] at h
      cases h

/-! ## What is written is valid -/

/-- A text in its zeroed field. -/
theorem toList_ofFn_getD {n : Nat} {text : Bytes} (h : text.length ≤ n) :
    (Vector.ofFn fun i : Fin n => text.getD i.val 0).toList =
      text ++ List.replicate (n - text.length) 0 := by
  apply List.ext_getElem
  · simp only [Vector.length_toList, List.length_append, List.length_replicate]
    omega
  · intro i hi _
    rw [Vector.getElem_toList, Vector.getElem_ofFn, List.getD_eq_getElem?_getD]
    show text[i]?.getD 0 = _
    by_cases hlt : i < text.length
    · rw [List.getElem_append_left hlt, List.getElem?_eq_getElem hlt]
      rfl
    · rw [List.getElem_append_right (by omega), List.getElem_replicate,
        List.getElem?_eq_none (by omega)]
      rfl

/-- A release of fewer than 64 characters has a NUL behind it. -/
theorem kernelRelease_toList {release : Bytes} (h : release.length < 64)
    (resolution : BinderIoctlResolution) :
    ∃ rest, (capabilityRecord release resolution).kernelRelease.toList = release ++ 0 :: rest := by
  refine ⟨List.replicate (63 - release.length) 0, ?_⟩
  have hsucc : 64 - release.length = (63 - release.length) + 1 := by omega
  rw [← List.replicate_succ, ← hsucc]
  exact toList_ofFn_getD (Nat.le_of_lt h)

theorem takeWhile_append_zero {text : Bytes} (h : ∀ ch ∈ text, ch ≠ 0) (rest : Bytes) :
    (text ++ 0 :: rest).takeWhile (· != 0) = text := by
  rw [List.takeWhile_append_of_pos fun ch hch => bne_iff_ne.2 (h ch hch),
    List.takeWhile_cons_of_neg (by simp), List.append_nil]

/-- What is kept of a resolution. -/
def statusOfResolution (release : Bytes) (resolution : BinderIoctlResolution) :
    BinderCapabilityStatus where
  kernelRelease := release
  backend := resolution.backend
  fileFOpSource := resolution.fileFOpSource
  fopsUnlockedIoctlSource := resolution.fopsUnlockedIoctlSource
  capabilities := resolution.capabilities
  entryFingerprint := resolution.entryFingerprint
  entrySemantics := resolution.entrySemantics
  symbolValidations := resolution.symbolValidations

theorem ofCode_backend (b : BinderBackend) : BinderBackend.ofCode b.code = b := by
  cases b <;> rfl

theorem ofCode_source (s : BinderOffsetSource) : BinderOffsetSource.ofCode s.code = s := by
  cases s <;> rfl

theorem code_backend_valid {b : BinderBackend} (h : b ≠ .unknown) :
    (b.code != BinderBackend.unknown.code) = true ∧ b.code ≤ BinderBackend.rust.code := by
  cases b
  · exact (h rfl).elim
  · decide
  · decide

theorem code_source_valid {s : BinderOffsetSource} (h : s = .sdk ∨ s = .symbolScan) :
    (s.code != BinderOffsetSource.unknown.code) = true ∧
      s.code ≤ BinderOffsetSource.symbolScan.code := by
  rcases h with rfl | rfl <;> decide

section
variable {k : KernelModule} {fd : Int} {out : BinderIoctlResolution} {release : Bytes}

/-- The record of a resolution is valid. -/
theorem validCapabilityRecord_capabilityRecord (h : resolveBinderIoctlFromFd k fd = .ok out)
    (hprint : out.entryFingerprint ≠ 0) (hrelease : SupportedRelease release)
    (hlen : release.length < 64) :
    validCapabilityRecord (capabilityRecord release out) = true := by
  obtain ⟨offsets, fileSource, ioctlSource, fops, ioctl, r⟩ := resolveBinderIoctlFromFd_cases h
  have hbackend := code_backend_valid r.backend_ne
  have hfile := code_source_valid (r.fopsFrom ▸ r.fops_sound.1)
  have hioctl := code_source_valid (r.ioctlFrom ▸ r.ioctl_sound.1)
  have hcapable : (out.capabilities &&& kRequiredBinderCapabilities ==
      kRequiredBinderCapabilities) = true := by
    rw [r.capabilities]
    decide
  have htext : validKernelReleaseText (capabilityRecord release out).kernelRelease.toList =
      true := by
    obtain ⟨rest, hrest⟩ := kernelRelease_toList hlen out
    rw [hrest]
    exact validKernelReleaseText_append hrelease.text.1 hrelease.text.2 rest
  simp only [validCapabilityRecord, Bool.and_eq_true, decide_eq_true_eq]
  exact ⟨⟨⟨⟨⟨⟨⟨⟨⟨⟨⟨⟨⟨⟨rfl, rfl⟩, rfl⟩, hbackend.1⟩, hbackend.2⟩, hfile.1⟩, hfile.2⟩, hioctl.1⟩,
    hioctl.2⟩, bne_iff_ne.2 hprint⟩, hcapable⟩, rfl⟩, rfl⟩, htext⟩, beq_self_eq_true _⟩

theorem statusOfRecord_capabilityRecord (hrelease : SupportedRelease release)
    (hlen : release.length < 64) :
    statusOfRecord (capabilityRecord release out) = statusOfResolution release out := by
  have htext : (capabilityRecord release out).kernelRelease.toList.takeWhile (· != 0) =
      release := by
    obtain ⟨rest, hrest⟩ := kernelRelease_toList hlen out
    rw [hrest]
    exact takeWhile_append_zero (fun ch hch => isReleaseChar_ne_zero (hrelease.text.2 ch hch)) rest
  simp only [statusOfRecord, htext, statusOfResolution, BinderCapabilityStatus.mk.injEq]
  exact ⟨trivial, ofCode_backend _, ofCode_source _, ofCode_source _, rfl, rfl, rfl, rfl⟩

/-- The file that is written holds the status. -/
theorem statusOf_capabilityRecord (h : resolveBinderIoctlFromFd k fd = .ok out)
    (hprint : out.entryFingerprint ≠ 0) (hrelease : SupportedRelease release)
    (hlen : release.length < 64) :
    statusOf (some (capabilityRecord release out).toBytes) =
      .ok (statusOfResolution release out) := by
  simp only [statusOf, BinderCapabilityRecordV1.length_toBytes, if_true,
    BinderCapabilityRecordV1.ofBytes_toBytes,
    validCapabilityRecord_capabilityRecord h hprint hrelease hlen,
    statusOfRecord_capabilityRecord hrelease hlen]

end

/-! ## Programs -/

section
variable {ok : Files.Outcome → Prop} {I : Files.Store CapabilityFile → Prop}
  {fs : Files.Store CapabilityFile}

/-- The end of the writer: the record replaces the file in one step. -/
theorem safe_replaceCapabilityFile {record : Bytes} (hI : ∀ x, I (fs.withTmp .temporary x))
    (hwritten : I (fs.written .temporary .status record)) :
    (replaceCapabilityFile record).Safe Files.exec ok I
      (Files.Replaced ok fs .temporary .status record .ok .errModuleStorageWrite)
      (fs.withTmp .temporary (some [])) := by
  unfold replaceCapabilityFile
  rw [Prog.safe_bind]
  refine (Files.safe_writeLoop hI record.length [] (Nat.le_refl _)).mono ?_
  rintro written s ⟨x, rfl, hx⟩
  -- what `ok` and `closed` stand for is that the record is complete, or a call has failed
  have hend (complete : Bool) (h : complete = true → x = record)
      (hfails : complete = false → ok .fails) :
      (Files.renameInto CapabilityFile.temporary .status complete KModErr.ok
        .errModuleStorageWrite).Safe Files.exec ok I
          (Files.Replaced ok fs .temporary .status record .ok .errModuleStorageWrite)
          (fs.withTmp .temporary (some x)) := by
    refine Files.safe_renameInto (by decide) hI hwritten ?_
    cases complete with
    | false => exact hfails rfl
    | true => exact h rfl
  cases written with
  | false =>
    have hfails : ok .fails := hx
    refine Files.safe_plain (fun _ _ => rfl) (hI _) fun closed _ => ?_
    exact hend _ (fun h => (by cases h)) fun _ => hfails
  | true =>
    have hx : x = record := hx
    refine Files.safe_plain (fun _ _ => rfl) (hI _) fun chmodOk hchmod => ?_
    cases chmodOk with
    | false =>
      refine Files.safe_plain (fun _ _ => rfl) (hI _) fun closed _ => ?_
      exact hend _ (fun h => (by cases h)) fun _ => hchmod rfl
    | true =>
      refine Files.safe_plain (fun _ _ => rfl) (hI _) fun syncOk hsync => ?_
      refine Files.safe_plain (fun _ _ => rfl) (hI _) fun closed hclose => ?_
      refine hend _ (fun _ => hx) fun h => ?_
      exact (Bool.and_eq_false_iff.1 h).elim hsync hclose

/-- **`write_binder_capability_status`** with parameters that it takes. -/
theorem safe_writeBinderCapabilityStatus {release : Bytes} {resolution : BinderIoctlResolution}
    (hparam : (release.isEmpty || decide (64 ≤ release.length) ||
      !hasRequiredBinderCapabilities resolution) = false)
    (hI : ∀ x, I (fs.withTmp .temporary x))
    (hwritten : I (fs.written .temporary .status (capabilityRecord release resolution).toBytes)) :
    (writeBinderCapabilityStatus release resolution).Safe Files.exec ok I
      (Files.Replaced ok fs .temporary .status (capabilityRecord release resolution).toBytes .ok
        .errModuleStorageWrite) fs := by
  have hself := Files.withTmp_self fs .temporary
  unfold writeBinderCapabilityStatus
  simp only [hparam, Bool.false_eq_true, if_false]
  rw [Files.safe_succeeded_bind]
  intro o ho
  cases o with
  | fails => exact ⟨hself ▸ hI _, .inr ⟨rfl, ho, _, hself.symm⟩⟩
  | succeeds moved entropy => exact ⟨hI _, safe_replaceCapabilityFile hI hwritten⟩

/-- `read_all_exact` changes nothing, and returns the file's bytes if they are as many as asked for,
unless a call fails. -/
theorem safe_readAllExact {f : CapabilityFile} {content : Bytes} {size : Nat} (hI : I fs)
    (hf : fs f = some content) :
    (readAllExact f size).Safe Files.exec ok I
      (fun r s => s = fs ∧ (r = (if content.length = size then some content else none) ∨
        (ok .fails ∧ r = none))) fs :=
  Files.safe_readExact hI hf

/-- **`read_binder_capability_status`** changes nothing, and returns what the file holds unless a
call fails. -/
theorem safe_readBinderCapabilityStatus (hI : I fs) :
    readBinderCapabilityStatus.Safe Files.exec ok I
      (fun r s => s = fs ∧ (r = statusOf (fs .status) ∨
        (ok .fails ∧ r = .error .errModuleStorageRead))) fs := by
  refine Files.safe_quiet trivial hI fun o ho => ?_
  cases o with
  | fails => exact ⟨rfl, .inr ⟨ho, rfl⟩⟩
  | succeeds moved entropy =>
    cases hf : fs .status with
    | none =>
      simp only [Files.exec, Files.perform, hf]
      exact ⟨rfl, .inl rfl⟩
    | some content =>
      simp only [Files.exec, Files.perform, hf, Option.isSome_some, if_true]
      refine Files.safe_plain (fun _ _ => ?_) hI fun regular hregular => ?_
      · simp only [Files.perform, hf, Option.isSome_some, if_true]
      cases regular with
      | false => exact Files.safe_quiet trivial hI fun _ _ => ⟨rfl, .inr ⟨hregular rfl, rfl⟩⟩
      | true =>
        simp only [if_true]
        rw [Prog.safe_bind]
        refine (safe_readAllExact hI hf).mono ?_
        rintro data s ⟨rfl, hdata⟩
        refine Files.safe_quiet trivial hI fun _ _ => ?_
        rcases hdata with rfl | ⟨hfails, rfl⟩
        · unfold statusOf
          by_cases hlen : content.length = kCapabilityRecordBytes
          · simp only [hlen, if_true]
            by_cases hvalid : validCapabilityRecord (.ofBytes content) = true
            · simp only [hvalid, if_true]
              exact ⟨rfl, .inl rfl⟩
            · simp only [hvalid]
              exact ⟨rfl, .inl rfl⟩
          · simp only [hlen, if_false]
            exact ⟨rfl, .inl rfl⟩
        · exact ⟨rfl, .inr ⟨hfails, rfl⟩⟩

end

/-! ## Round trip -/

/-- A resolution is written, and the file is read. -/
def writeThenRead (release : Bytes) (resolution : BinderIoctlResolution) :
    Files.Program CapabilityFile (KModErr × Except KModErr BinderCapabilityStatus) := do
  let err ← writeBinderCapabilityStatus release resolution
  let status ← readBinderCapabilityStatus
  return (err, status)

theorem writable_of_resolved {k : KernelModule} {fd : Int} {out : BinderIoctlResolution}
    {release : Bytes} (h : resolveBinderIoctlFromFd k fd = .ok out)
    (hrelease : SupportedRelease release) (hlen : release.length < 64) :
    (release.isEmpty || decide (64 ≤ release.length) || !hasRequiredBinderCapabilities out) =
      false := by
  obtain ⟨offsets, fileSource, ioctlSource, fops, ioctl, r⟩ := resolveBinderIoctlFromFd_cases h
  have hempty : release.isEmpty = false := List.isEmpty_eq_false_iff.2 hrelease.text.1
  have hle : ¬64 ≤ release.length := by omega
  simp [hempty, hle, r.capable]

section
variable {k : KernelModule} {fd : Int} {out : BinderIoctlResolution} {release : Bytes}

theorem eval_writeThenRead (h : resolveBinderIoctlFromFd k fd = .ok out)
    (hprint : out.entryFingerprint ≠ 0) (hrelease : SupportedRelease release)
    (hlen : release.length < 64) (fs : Files.Store CapabilityFile) {os : Nat → Files.Outcome}
    (hos : ∀ n, os n ≠ .fails) :
    ((writeThenRead release out).eval Files.exec os fs).1 =
      (.ok, .ok (statusOfResolution release out)) := by
  have hsafe : (writeThenRead release out).Safe Files.exec (· ≠ .fails) (fun _ => True)
      (fun r _ => r = (.ok, .ok (statusOfResolution release out))) fs := by
    unfold writeThenRead
    rw [Prog.safe_bind]
    refine (safe_writeBinderCapabilityStatus (writable_of_resolved h hrelease hlen)
      (fun _ => trivial) trivial).mono ?_
    intro err s hwrite
    rcases hwrite with ⟨herr, hs⟩ | ⟨-, hfails, -⟩
    · have hfile : s .status = some (capabilityRecord release out).toBytes := by
        rw [hs]
        exact Files.written_dst (by decide) _
      rw [Prog.safe_bind]
      refine (safe_readBinderCapabilityStatus trivial).mono ?_
      intro r s' hread
      rcases hread.2 with hr | ⟨hfails, -⟩
      · rw [hfile, statusOf_capabilityRecord h hprint hrelease hlen] at hr
        rw [herr, hr]
        rfl
      · exact (hfails rfl).elim
    · exact (hfails rfl).elim
  exact hsafe.eval os hos

theorem eval_readBinderCapabilityStatus (fs : Files.Store CapabilityFile)
    (os : Nat → Files.Outcome) :
    (readBinderCapabilityStatus.eval Files.exec os fs).1 = statusOf (fs .status) ∨
      (readBinderCapabilityStatus.eval Files.exec os fs).1 = .error .errModuleStorageRead := by
  have hsafe : readBinderCapabilityStatus.Safe Files.exec (fun _ => True) (fun _ => True) _ fs :=
    safe_readBinderCapabilityStatus trivial
  exact (hsafe.eval os fun _ => trivial).2.imp_right And.right

end

/-- **Main result: the round trip of the capability record.** What is written of a resolution is
what is read when no call fails; and whatever the calls do, a file is accepted only if it is a
record whose bytes match its CRC. -/
theorem capability_round_trip :
    (∀ (k : KernelModule) (fd : Int) (out : BinderIoctlResolution) (release : Bytes)
        (fs : Files.Store CapabilityFile) (os : Nat → Files.Outcome),
      resolveBinderIoctlFromFd k fd = .ok out → out.entryFingerprint ≠ 0 →
      isSupportedLinux61OrNewer release = true → release.length < 64 → (∀ n, os n ≠ .fails) →
      ((writeThenRead release out).eval Files.exec os fs).1 =
        (.ok, .ok (statusOfResolution release out))) ∧
    (∀ (fs : Files.Store CapabilityFile) (os : Nat → Files.Outcome)
        (status : BinderCapabilityStatus),
      (readBinderCapabilityStatus.eval Files.exec os fs).1 = .ok status →
      ∃ content, fs .status = some content ∧ content.length = 160 ∧
        at32 content 152 = crc32 (content.take 152)) := by
  constructor
  · intro k fd out release fs os h hprint hgate hlen hos
    exact eval_writeThenRead h hprint (supportedRelease_of_gate hgate) hlen fs hos
  · intro fs os status h
    rcases eval_readBinderCapabilityStatus fs os with hr | hr
    · exact statusOf_eq_ok (hr.symm.trans h)
    · rw [h] at hr
      cases hr

/-- `6.1.25-android14`. -/
def sampleRelease : Bytes :=
  [54, 46, 49, 46, 50, 53, 45, 97, 110, 100, 114, 111, 105, 100, 49, 52]

theorem classicKernel_fingerprint :
    ((resolveBinderIoctlFromFd classicKernel 5).toOption.map (·.entryFingerprint != 0)) =
      some true := by
  decide +kernel

/-- Written one byte at a time, and read again. -/
theorem capability_round_trip_classic :
    ∃ out, resolveBinderIoctlFromFd classicKernel 5 = .ok out ∧
      ((writeThenRead sampleRelease out).eval Files.exec (fun _ => .succeeds 1 fun _ => 0)
        fun _ => none).1 = (.ok, .ok (statusOfResolution sampleRelease out)) := by
  obtain ⟨out, hout, hprint⟩ := Option.map_eq_some_iff.1 classicKernel_fingerprint
  refine ⟨out, toOption_eq_some.1 hout, ?_⟩
  exact capability_round_trip.1 classicKernel 5 out sampleRelease _ _ (toOption_eq_some.1 hout)
    (bne_iff_ne.1 hprint) (by decide) (by decide) fun n h => (by cases h)

end Drmid
