import Drmid.Storage.Fingerprint
import Drmid.Storage.Proof.RuntimeControl

/-!
# The original fingerprint is captured once

A record file is never written again, whatever it holds (`Captured.kept`), so what a session says is
what every later one says: `original_fingerprint_kept`. The order of the calls carries this: the
record is complete in the temporary file before it has its name, and a capture that was cut off or
failed behind the rename has captured.
-/

namespace Drmid

open Lib

/-! ## Records -/

namespace OriginalFingerprintRecord

theorem length_covered (r : OriginalFingerprintRecord) : r.covered.length = 24 := by
  simp [covered]

theorem length_toBytes (r : OriginalFingerprintRecord) :
    r.toBytes.length = kFingerprintRecordBytes := by
  simp [toBytes, length_covered, kFingerprintRecordBytes]

/-- The round trip of a record. -/
theorem ofBytes_toBytes (r : OriginalFingerprintRecord) : ofBytes r.toBytes = r := by
  have htail := at32_leBytes r.reserved []
  rw [List.append_nil] at htail
  simp only [ofBytes, toBytes, covered, List.append_assoc, at32_skip, at64_skip, length_leBytes,
    at32_leBytes, at64_leBytes, htail, Nat.reduceLeDiff, Nat.reduceSub, Nat.le_refl]

end OriginalFingerprintRecord

/-- A new record is valid with its CRC. -/
theorem validFingerprintRecord_new {fingerprint : UInt64} (h : fingerprint ≠ 0) :
    validFingerprintRecord (newFingerprintRecord fingerprint).withCrc = true := by
  simp only [validFingerprintRecord, Bool.and_eq_true]
  exact ⟨⟨⟨⟨⟨rfl, rfl⟩, rfl⟩, bne_iff_ne.2 h⟩, rfl⟩, beq_self_eq_true _⟩

theorem recordedFingerprint_new {fingerprint : UInt64} (h : fingerprint ≠ 0) :
    recordedFingerprint (some (newFingerprintRecord fingerprint).withCrc.toBytes) =
      .ok fingerprint := by
  simp only [recordedFingerprint, OriginalFingerprintRecord.length_toBytes, if_true,
    OriginalFingerprintRecord.ofBytes_toBytes, validFingerprintRecord_new h]
  rfl

theorem recordedFingerprint_eq_notFound {file : Option Bytes} :
    recordedFingerprint file = .error .errModuleStorageNotFound ↔ file = none := by
  cases file with
  | none => exact ⟨fun _ => rfl, fun _ => rfl⟩
  | some content =>
    simp only [recordedFingerprint, reduceCtorEq, iff_false]
    split
    · split <;> simp
    · simp

theorem query_ne_zero {widevine : WidevineAnswer} {f : UInt64}
    (h : queryOriginalWidevineFingerprint widevine = .ok f) : f ≠ 0 := by
  unfold queryOriginalWidevineFingerprint at h
  split at h
  · cases h
  · split at h
    · next hne =>
      obtain rfl := Except.ok.inj h
      exact hne
    · cases h

/-! ## Reading -/

section
variable {ok : Files.Outcome → Prop} {I : Files.Store FingerprintFile → Prop}
  {fs : Files.Store FingerprintFile}

/-- `read_record_at` changes nothing, and says what the file says unless a call fails. A failure is
never taken for a file that is not there. -/
theorem safe_readRecordAt (hI : I fs) :
    readRecordAt.Safe Files.exec ok I
      (fun r s => s = fs ∧ (r.map (·.fingerprint) = recordedFingerprint (fs .record) ∨
        (ok .fails ∧ ∃ err, err ≠ .errModuleStorageNotFound ∧ r = .error err))) fs := by
  refine Files.safe_quiet trivial hI fun o ho => ?_
  cases o with
  | fails => exact ⟨rfl, .inr ⟨ho, _, by decide, rfl⟩⟩
  | succeeds moved entropy =>
    cases hf : fs .record with
    | none =>
      simp only [Files.exec, Files.perform, hf]
      exact ⟨rfl, .inl rfl⟩
    | some content =>
      simp only [Files.exec, Files.perform, hf, Option.isSome_some, if_true]
      refine Files.safe_plain (fun _ _ => ?_) hI fun regular hregular => ?_
      · simp only [Files.perform, hf, Option.isSome_some, if_true]
      cases regular with
      | false =>
        exact Files.safe_quiet trivial hI fun _ _ =>
          ⟨rfl, .inr ⟨hregular rfl, _, by decide, rfl⟩⟩
      | true =>
        simp only [if_true]
        rw [Prog.safe_bind]
        refine (Files.safe_readExact hI hf).mono ?_
        rintro data s ⟨rfl, hdata⟩
        refine Files.safe_quiet trivial hI fun _ _ => ?_
        rcases hdata with rfl | ⟨hfails, rfl⟩
        · unfold recordedFingerprint
          by_cases hlen : content.length = kFingerprintRecordBytes
          · simp only [hlen, if_true]
            by_cases hvalid : validFingerprintRecord (.ofBytes content) = true
            · simp only [hvalid, if_true]
              exact ⟨rfl, .inl rfl⟩
            · simp only [hvalid]
              exact ⟨rfl, .inl rfl⟩
          · simp only [hlen, if_false]
            exact ⟨rfl, .inl rfl⟩
        · exact ⟨rfl, .inr ⟨hfails, _, by decide, rfl⟩⟩

/-! ## Writing -/

/-- What `write_record_at` leaves: the record in its place, also where the directory could not be
synced, or the files but for the temporary one as they were. -/
def FingerprintWritten (ok : Files.Outcome → Prop) (fs : Files.Store FingerprintFile)
    (record : Bytes) (err : KModErr) (s : Files.Store FingerprintFile) : Prop :=
  (err = .ok ∧ s = fs.written .temporary .record record) ∨
    (err = .errModuleStorageWrite ∧ ok .fails ∧
      (s = fs.written .temporary .record record ∨ ∃ x, s = fs.withTmp .temporary x))

theorem safe_putRecordAt {record x : Bytes} (hI : ∀ x, I (fs.withTmp .temporary x))
    (hwritten : I (fs.written .temporary .record record)) {fileOk : Bool}
    (hx : if fileOk then x = record else ok .fails) :
    (putRecordAt fileOk).Safe Files.exec ok I (FingerprintWritten ok fs record)
      (fs.withTmp .temporary (some x)) := by
  have hgive (hfails : ok .fails) : (Prog.perform (.unlink .temporary) >>= fun _ =>
      (pure .errModuleStorageWrite : Files.Program FingerprintFile KModErr)).Safe Files.exec ok I
        (FingerprintWritten ok fs record) (fs.withTmp .temporary (some x)) := by
    rw [Prog.safe_perform_bind]
    intro o _
    obtain ⟨y, hy⟩ := Files.exec_unlink_withTmp fs o (some x)
    rw [hy]
    exact ⟨hI y, .inr ⟨rfl, hfails, .inr ⟨y, rfl⟩⟩⟩
  unfold putRecordAt
  refine Files.safe_quiet trivial (hI _) fun _ _ => ?_
  cases fileOk with
  | false => exact hgive hx
  | true =>
    obtain rfl : x = record := hx
    show (Files.succeeded (.rename .temporary .record) >>= _).Safe Files.exec ok I _ _
    rw [Files.safe_succeeded_bind]
    intro o ho
    cases o with
    | fails => exact ⟨hI _, hgive ho⟩
    | succeeds moved entropy =>
      rw [Files.exec_rename_withTmp (by decide)]
      refine ⟨hwritten, Files.safe_plain (fun _ _ => rfl) hwritten fun synced hsynced => ?_⟩
      cases synced with
      | true => exact .inl ⟨rfl, rfl⟩
      | false => exact .inr ⟨rfl, hsynced rfl, .inl rfl⟩

theorem safe_replaceRecordAt {record : Bytes} (hI : ∀ x, I (fs.withTmp .temporary x))
    (hwritten : I (fs.written .temporary .record record)) :
    (replaceRecordAt record).Safe Files.exec ok I (FingerprintWritten ok fs record)
      (fs.withTmp .temporary (some [])) := by
  unfold replaceRecordAt
  refine Files.safe_plain (fun _ _ => ?_) (hI _) fun regular hregular => ?_
  · simp only [Files.perform, Files.Store.withTmp, Function.update_self, Option.isSome_some,
      if_true]
  cases regular with
  | false => exact safe_putRecordAt hI hwritten (hregular rfl)
  | true =>
    simp only [if_true]
    rw [Prog.safe_bind]
    refine (Files.safe_writeLoop hI record.length [] (Nat.le_refl _)).mono ?_
    rintro written s ⟨x, rfl, hx⟩
    cases written with
    | false => exact safe_putRecordAt hI hwritten hx
    | true =>
      have hx : x = record := hx
      refine Files.safe_plain (fun _ _ => rfl) (hI _) fun fileOk hsync => ?_
      refine safe_putRecordAt hI hwritten ?_
      cases fileOk with
      | false => exact hsync rfl
      | true => exact hx

/-- **`write_record_at`** of a record that it takes. -/
theorem safe_writeRecordAt {f : UInt64} (hf : f ≠ 0) (hI : ∀ x, I (fs.withTmp .temporary x))
    (hwritten : I (fs.written .temporary .record (newFingerprintRecord f).withCrc.toBytes)) :
    (writeRecordAt (newFingerprintRecord f)).Safe Files.exec ok I
      (FingerprintWritten ok fs (newFingerprintRecord f).withCrc.toBytes) fs := by
  have hself := Files.withTmp_self fs .temporary
  unfold writeRecordAt
  simp only [validFingerprintRecord_new hf, Bool.not_true, Bool.false_eq_true, if_false]
  rw [Files.safe_succeeded_bind]
  intro o ho
  cases o with
  | fails => exact ⟨hself ▸ hI _, .inr ⟨rfl, ho, .inr ⟨_, hself.symm⟩⟩⟩
  | succeeds moved entropy => exact ⟨hI _, safe_replaceRecordAt hI hwritten⟩

end

/-! ## One session -/

/-- What a session that has returned `r`, or nothing yet, may have left of the record file. -/
structure Captured (ok : Files.Outcome → Prop) (use : FingerprintUse)
    (fs : Files.Store FingerprintFile) (r : Option (Except KModErr UInt64))
    (fs' : Files.Store FingerprintFile) : Prop where
  kept : ∀ content, fs .record = some content → fs' .record = some content
  fresh : fs .record = none → fs' .record = none ∨
    ∃ widevine f, use = .capture widevine ∧ queryOriginalWidevineFingerprint widevine = .ok f ∧
      fs' .record = some (newFingerprintRecord f).withCrc.toBytes
  told : ∀ f, r = some (.ok f) → recordedFingerprint (fs' .record) = .ok f
  answered : ∀ a, r = some a → ¬ok .fails → a = use.answer (fs .record)

section
variable {ok : Files.Outcome → Prop} {use : FingerprintUse} {fs s : Files.Store FingerprintFile}
  {r : Option (Except KModErr UInt64)}

/-- Nothing has happened to the record file. -/
theorem Captured.same (hs : s .record = fs .record)
    (htold : ∀ f, r = some (.ok f) → recordedFingerprint (fs .record) = .ok f)
    (hanswered : ∀ a, r = some a → ¬ok .fails → a = use.answer (fs .record)) :
    Captured ok use fs r s where
  kept _ h := hs.trans h
  fresh h := .inl (hs.trans h)
  told f hf := hs ▸ htold f hf
  answered := hanswered

/-- And nothing has been returned. -/
theorem Captured.quiet (hs : s .record = fs .record) : Captured ok use fs none s :=
  .same hs (fun _ h => (by cases h)) fun _ h => (by cases h)

/-- Or an error, after a failure. -/
theorem Captured.failed (hs : s .record = fs .record) (hfails : ok .fails) (err : KModErr) :
    Captured ok use fs (some (.error err)) s :=
  .same hs (fun _ h => (by cases h)) fun _ _ h => (h hfails).elim

/-- The record of what Widevine answered was put in its place. -/
theorem Captured.put {widevine : WidevineAnswer} {f : UInt64}
    (hquery : queryOriginalWidevineFingerprint widevine = .ok f) (hnone : fs .record = none)
    (hs : s .record = some (newFingerprintRecord f).withCrc.toBytes)
    (hr : ∀ a, r = some a → a = .ok f ∨ (ok .fails ∧ ∃ err, a = .error err)) :
    Captured ok (.capture widevine) fs r s where
  kept _ h := absurd (h.symm.trans hnone) (Option.some_ne_none _)
  fresh _ := .inr ⟨widevine, f, rfl, hquery, hs⟩
  told g hg := by
    rcases hr _ hg with h | ⟨-, err, h⟩
    · rw [h, hs]
      exact recordedFingerprint_new (query_ne_zero hquery)
    · cases h
  answered a ha hok := by
    rcases hr a ha with rfl | ⟨hfails, -⟩
    · simp only [FingerprintUse.answer, hnone, Option.isSome_none, Bool.false_eq_true, if_false,
        hquery]
    · exact (hok hfails).elim

theorem safe_captureMissing {widevine : WidevineAnswer} (hnone : fs .record = none) :
    (captureMissing widevine).Safe Files.exec ok
      (fun s => Captured ok (.capture widevine) fs none s)
      (fun r s => Captured ok (.capture widevine) fs (some r) s) fs := by
  have hne : FingerprintFile.record ≠ .temporary := by decide
  have htmp (x : Option Bytes) : fs.withTmp .temporary x .record = fs .record :=
    Files.withTmp_apply_of_ne hne x
  unfold captureMissing
  cases hquery : queryOriginalWidevineFingerprint widevine with
  | error err =>
    refine Files.safe_quiet trivial (.quiet rfl) fun _ _ => ?_
    refine .same rfl (fun _ h => (by cases h)) fun a ha _ => ?_
    obtain rfl := Option.some.inj ha
    simp only [FingerprintUse.answer, hnone, Option.isSome_none, Bool.false_eq_true, if_false,
      hquery]
  | ok f =>
    have hnew : fs.written .temporary .record (newFingerprintRecord f).withCrc.toBytes .record =
        some (newFingerprintRecord f).withCrc.toBytes := Files.written_dst hne.symm _
    dsimp only
    rw [Prog.safe_bind]
    refine (safe_writeRecordAt (query_ne_zero hquery) (fun x => .quiet (htmp x))
      (.put hquery hnone hnew fun _ h => (by cases h))).mono ?_
    rintro err s (⟨rfl, rfl⟩ | ⟨rfl, hfails, rfl | ⟨x, rfl⟩⟩)
    · refine Files.safe_quiet trivial ?_ fun _ _ => ?_
      · exact .put hquery hnone hnew fun _ h => (by cases h)
      · exact .put hquery hnone hnew fun _ h => .inl (Option.some.inj h).symm
    · refine Files.safe_quiet trivial ?_ fun _ _ => ?_
      · exact .put hquery hnone hnew fun _ h => (by cases h)
      · exact .put hquery hnone hnew fun _ h => .inr ⟨hfails, _, (Option.some.inj h).symm⟩
    · exact Files.safe_quiet trivial (.quiet (htmp x)) fun _ _ => .failed (htmp x) hfails _

/-- **`capture_original_id_fingerprint_if_missing`.** -/
theorem safe_capture (widevine : WidevineAnswer) :
    (captureOriginalIdFingerprintIfMissing widevine).Safe Files.exec ok
      (fun s => Captured ok (.capture widevine) fs none s)
      (fun r s => Captured ok (.capture widevine) fs (some r) s) fs := by
  unfold captureOriginalIdFingerprintIfMissing
  refine Files.safe_plain (fun _ _ => rfl) (.quiet rfl) fun opened hopened => ?_
  cases opened with
  | false => exact .failed rfl (hopened rfl) _
  | true =>
    simp only [if_true]
    rw [Prog.safe_bind]
    refine (safe_readRecordAt (.quiet rfl)).mono ?_
    rintro r s ⟨rfl, hread⟩
    cases r with
    | ok record =>
      have hfile : recordedFingerprint (s .record) = .ok record.fingerprint := by
        rcases hread with h | ⟨-, err, -, h⟩
        · exact h.symm
        · cases h
      have hsome : (s .record).isSome = true := by
        cases hs : s .record with
        | none =>
          rw [hs] at hfile
          cases hfile
        | some content => rfl
      refine Files.safe_quiet trivial (.quiet rfl) fun _ _ => ?_
      refine .same rfl (fun f h => ?_) fun a h _ => ?_
      · obtain rfl := Except.ok.inj (Option.some.inj h)
        exact hfile
      · rw [← Option.some.inj h, FingerprintUse.answer, if_pos hsome, hfile]
    | error err =>
      by_cases herr : err = .errModuleStorageNotFound
      · have hnone : s .record = none := by
          rcases hread with h | ⟨-, err', hne, h⟩
          · exact recordedFingerprint_eq_notFound.1 (h.symm.trans (congrArg Except.error herr))
          · exact (hne ((Except.error.inj h).symm.trans herr)).elim
        simp only [herr, if_true]
        exact safe_captureMissing hnone
      · simp only [herr, if_false]
        refine Files.safe_quiet trivial (.quiet rfl) fun _ _ => ?_
        rcases hread with h | ⟨hfails, -⟩
        · have hsome : (s .record).isSome = true := by
            rw [Option.isSome_iff_ne_none]
            intro hnone
            rw [recordedFingerprint_eq_notFound.2 hnone] at h
            exact herr (Except.error.inj h)
          refine .same rfl (fun _ h => (by cases h)) fun a ha _ => ?_
          rw [← Option.some.inj ha, FingerprintUse.answer, if_pos hsome]
          exact h
        · exact .failed rfl hfails err

/-- **`read_original_id_fingerprint`.** -/
theorem safe_readOriginal : readOriginalIdFingerprint.Safe Files.exec ok
    (fun s => Captured ok .read fs none s) (fun r s => Captured ok .read fs (some r) s) fs := by
  unfold readOriginalIdFingerprint
  refine Files.safe_plain (fun _ _ => rfl) (.quiet rfl) fun opened hopened => ?_
  cases opened with
  | false => exact .failed rfl (hopened rfl) _
  | true =>
    simp only [if_true]
    rw [Prog.safe_bind]
    refine (safe_readRecordAt (.quiet rfl)).mono ?_
    rintro r s ⟨rfl, hread⟩
    refine Files.safe_quiet trivial (.quiet rfl) fun _ _ => ?_
    rcases hread with h | ⟨hfails, err, -, rfl⟩
    · refine .same rfl (fun f hf => ?_) fun a ha _ => ?_
      · rw [← h]
        exact Option.some.inj hf
      · rw [← Option.some.inj ha]
        exact h
    · exact .failed rfl hfails err

end

/-! ## Sessions -/

/-- The outcomes that a script lets calls have. -/
def FingerprintSession.allows (s : FingerprintSession) (o : Files.Outcome) : Prop :=
  some o ∈ s.script ∨ (none ∈ s.script ∧ o = .fails)

/-- What a session does to the record file. -/
theorem FingerprintSession.captured (s : FingerprintSession) (fs : Files.Store FingerprintFile) :
    Captured s.allows s.use fs (s.run fs).1 (s.run fs).2 := by
  have hsafe : s.use.program.Safe Files.exec s.allows
      (fun fs' => Captured s.allows s.use fs none fs')
      (fun r fs' => Captured s.allows s.use fs (some r) fs') fs := by
    cases s.use with
    | capture widevine => exact safe_capture widevine
    | read => exact safe_readOriginal
  obtain ⟨os, hrun, hos⟩ :=
    Prog.runAttempts_eq_run Files.exec Files.Call.retried .fails s.use.program s.script fs
  rw [run, hrun]
  rcases hsafe.run_cases (.quiet rfl) hos with ⟨hr, h⟩ | ⟨a, hr, h⟩
  · rw [hr]
    exact h
  · rw [hr]
    exact h

section
variable {fs : Files.Store FingerprintFile} {sessions : List FingerprintSession}

theorem fingerprintFiles_append {before after : List FingerprintSession} :
    fingerprintFiles fs (before ++ after) =
      fingerprintFiles (fingerprintFiles fs before) after :=
  List.foldl_append

/-- What is recorded stays. -/
theorem fingerprintFiles_kept {content : Bytes} (h : fs .record = some content) :
    fingerprintFiles fs sessions .record = some content := by
  induction sessions using List.reverseRecOn with
  | nil => exact h
  | append_singleton before s ih =>
    rw [fingerprintFiles, run_concat]
    exact (s.captured _).kept content ih

/-- What is recorded where nothing was is what a start of the daemon was answered. -/
theorem fingerprintFiles_fresh (h : fs .record = none) :
    fingerprintFiles fs sessions .record = none ∨
      ∃ s ∈ sessions, ∃ widevine f, s.use = .capture widevine ∧
        queryOriginalWidevineFingerprint widevine = .ok f ∧
        fingerprintFiles fs sessions .record =
          some (newFingerprintRecord f).withCrc.toBytes := by
  induction sessions using List.reverseRecOn with
  | nil => exact .inl h
  | append_singleton before s ih =>
    rw [fingerprintFiles, run_concat]
    rcases ih with hnone | ⟨s', hs', widevine, f, huse, hquery, hfile⟩
    · refine ((s.captured _).fresh hnone).imp id ?_
      rintro ⟨widevine, f, huse, hquery, hfile⟩
      exact ⟨s, by simp, widevine, f, huse, hquery, hfile⟩
    · refine .inr ⟨s', by simp [hs'], widevine, f, huse, hquery, ?_⟩
      exact (s.captured _).kept _ hfile

end

/-- **Main result: the original fingerprint is captured once.** Over any sequence of starts of the
daemon and looks of the WebUI, each of which may meet any failures and may be killed anywhere: a
record file that is there is never changed. One that appears is the whole record of what a start was
answered by Widevine. What a session returns is what the file says from then on; every session that
meets no failure returns what the file says, and asks Widevine only where there is no file. -/
theorem original_fingerprint_captured_once (fs : Files.Store FingerprintFile)
    (sessions : List FingerprintSession) :
    (∀ content, fs .record = some content →
      fingerprintFiles fs sessions .record = some content) ∧
    (fs .record = none → fingerprintFiles fs sessions .record = none ∨
      ∃ s ∈ sessions, ∃ widevine f, s.use = .capture widevine ∧
        queryOriginalWidevineFingerprint widevine = .ok f ∧
        fingerprintFiles fs sessions .record =
          some (newFingerprintRecord f).withCrc.toBytes) ∧
    (∀ before s after f, sessions = before ++ s :: after →
      (s.run (fingerprintFiles fs before)).1 = some (.ok f) →
      recordedFingerprint (fingerprintFiles fs sessions .record) = .ok f) ∧
    ∀ s : FingerprintSession, (∀ o ∈ s.script, o ≠ none ∧ o ≠ some .fails) →
      ∀ a, (s.run (fingerprintFiles fs sessions)).1 = some a →
        a = s.use.answer (fingerprintFiles fs sessions .record) := by
  refine ⟨fun _ => fingerprintFiles_kept, fingerprintFiles_fresh, ?_, fun s hs a ha => ?_⟩
  · rintro before s after f rfl hf
    have htold := (s.captured _).told f hf
    rw [fingerprintFiles_append, fingerprintFiles, Lib.run_cons, ← fingerprintFiles]
    cases hrecord : (s.run (fingerprintFiles fs before)).2 .record with
    | none =>
      rw [hrecord] at htold
      cases htold
    | some content =>
      rw [fingerprintFiles_kept hrecord, ← hrecord]
      exact htold
  · refine (s.captured _).answered a ha ?_
    rintro (h | ⟨h, -⟩)
    · exact (hs _ h).2 rfl
    · exact (hs _ h).1 rfl

end Drmid
