import Drmid.Storage.RuntimeProfile
import Drmid.Storage.Proof.RuntimeControl

/-!
# The seed file is kept

What each function of `runtime_profile.cpp` leaves in the seed file: `safe_readSeedFile`,
`safe_writeSeedFile`, `safe_createSeed`, `safe_loadOrCreateRuntimeProfile`. A valid record is kept
unless it has the last generation, and a file that is no record is refused unless it begins with a
valid record and the read behind it fails: `seed_kept_iff`.
-/

namespace Drmid

open Lib

/-! ## Records -/

namespace SeedRecord

theorem length_covered (r : SeedRecord) : r.covered.length = 56 := by
  simp [covered]

theorem length_toBytes (r : SeedRecord) : r.toBytes.length = kSeedRecordBytes := by
  simp [toBytes, length_covered, kSeedRecordBytes]

/-- The round trip of a record. -/
theorem ofBytes_toBytes (r : SeedRecord) : ofBytes r.toBytes = r := by
  have htail := at32_leBytes r.reserved []
  rw [List.append_nil] at htail
  simp only [ofBytes, toBytes, covered, List.append_assoc, at32_skip, at64_skip, ofFn_skip,
    length_leBytes, Vector.length_toList, at32_leBytes, at64_leBytes, ofFn_toList, htail,
    Nat.reduceLeDiff, Nat.reduceSub, Nat.le_refl]

end SeedRecord

/-- The file holds a record that `validate_seed_record` accepts. -/
def ValidSeed (content : Bytes) : Prop :=
  content.length = kSeedRecordBytes ∧ validateSeedRecord (.ofBytes content) = true

/-- A new record is valid unless its generation has wrapped. -/
theorem validateSeedRecord_newSeedRecord (generation : UInt64) (seed : Vector UInt8 32) :
    validateSeedRecord (newSeedRecord generation seed) = true ↔ generation ≠ 0 := by
  have hcrc : (newSeedRecord generation seed).crc32 =
      crc32 (newSeedRecord generation seed).covered := rfl
  have hgeneration : (newSeedRecord generation seed).generation = generation := rfl
  simp only [validateSeedRecord, Bool.and_eq_true, beq_iff_eq, bne_iff_ne, hgeneration]
  exact ⟨fun h => h.1.2, fun h => ⟨⟨⟨⟨rfl, rfl⟩, rfl⟩, h⟩, hcrc⟩⟩

theorem validSeed_newSeedRecord (generation : UInt64) (seed : Vector UInt8 32) :
    ValidSeed (newSeedRecord generation seed).toBytes ↔ generation ≠ 0 := by
  rw [ValidSeed, SeedRecord.ofBytes_toBytes, validateSeedRecord_newSeedRecord]
  exact and_iff_right (SeedRecord.length_toBytes _)

/-! ## Reading -/

/-- What `read_seed_file` may return for a file. It reads the first bytes of a longer file where
the read behind them fails. -/
def SeedRead (ok : Files.Outcome → Prop) (file : Option Bytes) : Except KModErr SeedRecord → Prop
  | .ok record =>
    ∃ content, file = some content ∧ kSeedRecordBytes ≤ content.length ∧
      record = .ofBytes (content.take kSeedRecordBytes)
  | .error err =>
    err ≠ .ok ∧ (err = .errModuleStorageNotFound → file = none) ∧
      ∀ content, file = some content → content.length = kSeedRecordBytes → ok .fails

theorem written_record (fs : Files.Store SeedFile) (record : Bytes) :
    fs.written .temporary .record record .record = some record :=
  Files.written_dst (by decide) record

section
variable {ok : Files.Outcome → Prop} {I : Files.Store SeedFile → Prop}
  {fs : Files.Store SeedFile}

theorem safe_readSeedFile (hI : I fs) :
    readSeedFile.Safe Files.exec ok I (fun r s => s = fs ∧ SeedRead ok (fs .record) r) fs := by
  refine Files.safe_quiet trivial hI fun o ho => ?_
  cases o with
  | fails => exact ⟨rfl, by decide, fun h => (by cases h), fun _ _ _ => ho⟩
  | succeeds moved entropy =>
    cases hf : fs .record with
    | none =>
      simp only [Files.exec, Files.perform, hf]
      exact ⟨rfl, by decide, fun _ => rfl, fun _ h => (by cases h)⟩
    | some content =>
      simp only [Files.exec, Files.perform, hf, Option.isSome_some, if_true]
      rw [Prog.safe_bind]
      refine (Files.safe_readLoop hI hf _ List.nil_prefix (Nat.zero_le _) (by simp)).mono ?_
      rintro raw s ⟨rfl, hpart, hle, hread⟩
      refine Files.safe_quiet trivial hI fun _ _ => ?_
      by_cases hlen : raw.length = kSeedRecordBytes
      · simp only [hlen]
        have htake : raw = content.take kSeedRecordBytes := by
          rw [List.prefix_iff_eq_take.1 hpart, hlen]
        exact ⟨rfl, content, rfl, hlen ▸ hpart.length_le, congrArg SeedRecord.ofBytes htake⟩
      · simp only [ne_eq, hlen, not_false_eq_true, if_true]
        refine ⟨rfl, by decide, fun h => (by cases h), fun content' hcontent h => ?_⟩
        obtain rfl := Option.some.inj hcontent
        have hpartLen := hpart.length_le
        rcases hread with hread | rfl | hfails
        · omega
        · exact (hlen h).elim
        · exact hfails

/-! ## Writing -/

variable {record : SeedRecord}

/-- The end of the writer: the record replaces the file in one step. -/
theorem safe_replaceSeedFile {record : Bytes} (hI : ∀ x, I (fs.withTmp .temporary x))
    (hwritten : I (fs.written .temporary .record record)) :
    (replaceSeedFile record).Safe Files.exec ok I
      (Files.Replaced ok fs .temporary .record record .ok .errModuleStorageWrite)
      (fs.withTmp .temporary (some [])) := by
  unfold replaceSeedFile
  rw [Prog.safe_bind]
  refine (Files.safe_writeLoop hI record.length [] (Nat.le_refl _)).mono ?_
  rintro complete s ⟨x, rfl, hx⟩
  cases complete with
  | false => exact Files.safe_quiet trivial (hI _) fun _ _ => Files.safe_unlink_withTmp hI hx _
  | true =>
    have hx : x = record := hx
    refine Files.safe_plain (fun _ _ => rfl) (hI _) fun fileOk hsync => ?_
    refine Files.safe_quiet trivial (hI _) fun _ _ => ?_
    refine Files.safe_renameInto (by decide) hI hwritten ?_
    cases fileOk with
    | false => exact hsync rfl
    | true => exact hx

/-- What `write_seed_file` leaves: the record in its place, which it takes a free temporary name
for, or after an error the files but for the temporary one as they were. -/
def SeedWritten (ok : Files.Outcome → Prop) (fs : Files.Store SeedFile) (record : SeedRecord)
    (err : KModErr) (s : Files.Store SeedFile) : Prop :=
  (err = .ok ∧ fs .temporary = none ∧ s = fs.written .temporary .record record.toBytes) ∨
    (err ≠ .ok ∧ (fs .temporary = none → ok .fails) ∧ ∃ x, s = fs.withTmp .temporary x)

theorem safe_writeSeedFile (hI : ∀ x, I (fs.withTmp .temporary x))
    (hwritten : fs .temporary = none → I (fs.written .temporary .record record.toBytes)) :
    (writeSeedFile record).Safe Files.exec ok I (SeedWritten ok fs record) fs := by
  have hself := Files.withTmp_self fs .temporary
  have hfs : I fs := hself ▸ hI (fs .temporary)
  unfold writeSeedFile
  refine Files.safe_plain (fun _ _ => rfl) hfs fun made hmade => ?_
  cases made with
  | false => exact .inr ⟨by decide, fun _ => hmade rfl, _, hself.symm⟩
  | true =>
    simp only [if_true]
    rw [Files.safe_succeeded_bind]
    intro o ho
    cases o with
    | fails => exact ⟨hfs, .inr ⟨by decide, fun _ => ho, _, hself.symm⟩⟩
    | succeeds moved entropy =>
      cases htmp : fs .temporary with
      | some x =>
        -- the name is taken
        simp only [Files.exec, Files.perform, htmp, Option.isSome_some, if_true]
        refine ⟨hfs, .inr ⟨by decide, fun h => ?_, _, hself.symm⟩⟩
        rw [htmp] at h
        cases h
      | none =>
        simp only [Files.exec, Files.perform, htmp, Option.isSome_none, Bool.false_eq_true,
          if_false]
        refine ⟨hI (some []), (safe_replaceSeedFile hI (hwritten htmp)).mono ?_⟩
        rintro err s (⟨rfl, rfl⟩ | ⟨rfl, hfails, hs⟩)
        · exact .inl ⟨rfl, htmp, rfl⟩
        · exact .inr ⟨by decide, fun _ => hfails, hs⟩

theorem safe_fillRandom {size : Nat} (hI : I fs) :
    (fillRandom size).Safe Files.exec ok I (fun r s => s = fs ∧ (r = none → ok .fails)) fs := by
  unfold fillRandom
  rw [Prog.safe_bind]
  refine (Files.safe_drawLoop hI (fun _ _ _ => rfl) size (by simp) (Nat.zero_le _)).mono ?_
  rintro output s ⟨rfl, -, hdrawn⟩
  by_cases hlen : output.length = size
  · simp only [hlen, if_true]
    exact ⟨rfl, fun h => (by cases h)⟩
  · simp only [hlen, if_false]
    have hfails : ok .fails := hdrawn.resolve_left hlen
    refine Files.safe_plain (fun _ _ => rfl) hI fun opened _ => ?_
    cases opened with
    | false => exact ⟨rfl, fun _ => hfails⟩
    | true =>
      simp only [if_true]
      rw [Prog.safe_bind]
      refine (Files.safe_drawLoop hI (fun _ _ _ => rfl) size (by simp) (Nat.zero_le _)).mono ?_
      rintro output s ⟨rfl, -, hdrawn⟩
      refine Files.safe_quiet trivial hI fun _ _ => ?_
      split
      · exact ⟨rfl, fun h => (by cases h)⟩
      · exact ⟨rfl, fun _ => hfails⟩

/-- What `createSeed` leaves: the file as it was and an error, or a new record; a profile is
returned for a valid one only. -/
def SeedCreated (ok : Files.Outcome → Prop) (fs : Files.Store SeedFile) (generation : UInt64)
    (r : Except KModErr LoadedProfile) (s : Files.Store SeedFile) : Prop :=
  ((∃ err, err ≠ .ok ∧ r = .error err) ∧ (fs .temporary = none → ok .fails) ∧
      s .record = fs .record) ∨
    (fs .temporary = none ∧ ∃ seed, s .record = some (newSeedRecord generation seed).toBytes ∧
      ∀ profile, r = .ok profile →
        generation ≠ 0 ∧ deriveProfile (newSeedRecord generation seed) true = .ok profile)

/-- The end of `createSeed`: the new record is read again. -/
theorem safe_verifySeed {generation : UInt64} {seed : Vector UInt8 32} (hI : I fs)
    (hfile : fs .record = some (newSeedRecord generation seed).toBytes) :
    (readSeedFile >>= fun verified =>
      (match verified with
        | .error err => return .error err
        | .ok verified =>
          if (newSeedRecord generation seed).toBytes ≠ verified.toBytes ∨
              !validateSeedRecord verified then
            return .error .errModuleStorageRead
          else return deriveProfile (newSeedRecord generation seed) true :
        Files.Program SeedFile (Except KModErr LoadedProfile))).Safe Files.exec ok I
      (fun r s => s = fs ∧ ∀ profile, r = .ok profile →
        generation ≠ 0 ∧ deriveProfile (newSeedRecord generation seed) true = .ok profile) fs := by
  rw [Prog.safe_bind]
  refine (safe_readSeedFile hI).mono ?_
  rintro (err | verified) s ⟨rfl, hread⟩
  · exact ⟨rfl, fun _ h => (by cases h)⟩
  · obtain ⟨content, hcontent, hlen, rfl⟩ := hread
    obtain rfl := Option.some.inj (hcontent.symm.trans hfile)
    rw [List.take_of_length_le (Nat.le_of_eq (SeedRecord.length_toBytes _)),
      SeedRecord.ofBytes_toBytes]
    dsimp only
    split
    · exact ⟨rfl, fun _ h => (by cases h)⟩
    · next h =>
      refine ⟨rfl, fun profile hprofile => ⟨?_, hprofile⟩⟩
      rw [not_or, Bool.not_eq_true', Bool.not_eq_false] at h
      exact (validateSeedRecord_newSeedRecord generation seed).1 h.2

/-- `createSeed` after what was read: the next generation is that of a valid record and one. -/
theorem safe_createSeed {generation : UInt64}
    (hgeneration : (if validateSeedRecord record then record.generation else 0) + 1 = generation)
    (hI : ∀ s, s .record = fs .record → I s)
    (hnew : fs .temporary = none → ∀ seed s,
      s .record = some (newSeedRecord generation seed).toBytes → I s) :
    (createSeed record).Safe Files.exec ok I (SeedCreated ok fs generation) fs := by
  have hrecord : SeedFile.record ≠ .temporary := by decide
  unfold createSeed
  simp only [hgeneration]
  rw [Prog.safe_bind]
  refine (safe_fillRandom (hI fs rfl)).mono ?_
  rintro (- | output) s ⟨rfl, hdrawn⟩
  · exact .inl ⟨⟨_, by decide, rfl⟩, fun _ => hdrawn rfl, rfl⟩
  · dsimp only
    rw [Prog.safe_bind]
    refine (safe_writeSeedFile (fun x => hI _ (Files.withTmp_apply_of_ne hrecord x))
      fun htmp => hnew htmp _ _ (written_record s _)).mono ?_
    rintro err s' (⟨rfl, htmp, rfl⟩ | ⟨herr, hfails, x, rfl⟩)
    · simp only [ne_eq, not_true_eq_false, if_false]
      have hfile := written_record s
        (newSeedRecord generation (.ofFn fun i => output.getD i.val 0)).toBytes
      refine (safe_verifySeed (hnew htmp _ _ hfile) hfile).mono ?_
      rintro r s' ⟨rfl, hr⟩
      exact .inr ⟨htmp, _, hfile, hr⟩
    · simp only [ne_eq, herr, not_false_eq_true, if_true]
      exact .inl ⟨⟨err, herr, rfl⟩, hfails, Files.withTmp_apply_of_ne hrecord x⟩

end

/-! ## What is kept -/

/-- A profile whose stream and fingerprint come from the seed of the record alone. -/
structure ProfileOf (record : SeedRecord) (profile : LoadedProfile) : Prop where
  stream : virtualStreamOf record.seed = some profile.virtualStream
  fingerprint :
    profile.profileFingerprint = virtualIdFingerprint (profile.virtualStream.toList.take 32)
  generation : profile.seedGeneration = record.generation
  created : profile.seedCreated = false

/-- What a run from the files `fs` leaves in the files `fs'`, and what it returns, if it does. -/
structure SeedKept (regenerate : Bool) (fs fs' : Files.Store SeedFile)
    (r : Option (Except KModErr LoadedProfile)) : Prop where
  valid : ∀ content, fs .record = some content → ValidSeed content →
    ∃ content', fs' .record = some content' ∧ ValidSeed content'
  loaded : regenerate = false → ∀ content, fs .record = some content → ValidSeed content →
    fs' .record = some content ∧
      ∀ profile, r = some (.ok profile) → ProfileOf (.ofBytes content) profile
  regenerated : regenerate = true → ∀ content, fs .record = some content → ValidSeed content →
    ∀ profile, r = some (.ok profile) →
      ∃ content', fs' .record = some content' ∧
        (SeedRecord.ofBytes content').generation.toNat =
          (SeedRecord.ofBytes content).generation.toNat + 1 ∧
        profile.seedGeneration = (SeedRecord.ofBytes content').generation
  refused : ∀ content, fs .record = some content → ¬ValidSeed content →
    fs' .record = some content ∧ ∀ res, r = some res → ∃ err, err ≠ .ok ∧ res = .error err

/-- The states in which the seed file is at risk: a valid record of the last generation is about to
be replaced, or a longer file begins with a valid record. It can only be replaced if the temporary
name is free. -/
def SeedEndangered (regenerate : Bool) (fs : Files.Store SeedFile) : Prop :=
  (regenerate = true ∧ fs .temporary = none ∧ ∃ content, fs .record = some content ∧
      ValidSeed content ∧ (SeedRecord.ofBytes content).generation.toNat = 0xffffffffffffffff) ∨
    ((regenerate = true → fs .temporary = none) ∧ ∃ content, fs .record = some content ∧
      kSeedRecordBytes < content.length ∧
      validateSeedRecord (.ofBytes (content.take kSeedRecordBytes)) = true)

theorem deriveProfile_eq_ok {record : SeedRecord} {created : Bool} {profile : LoadedProfile}
    (h : deriveProfile record created = .ok profile) :
    virtualStreamOf record.seed = some profile.virtualStream ∧
      profile.profileFingerprint = virtualIdFingerprint (profile.virtualStream.toList.take 32) ∧
      profile.seedGeneration = record.generation ∧ profile.seedCreated = created := by
  unfold deriveProfile at h
  cases hstream : virtualStreamOf record.seed with
  | none => simp [hstream] at h
  | some stream =>
    rw [hstream] at h
    obtain rfl := Except.ok.inj h
    exact ⟨rfl, rfl, rfl, rfl⟩

section
variable {regenerate : Bool} {fs fs' : Files.Store SeedFile}
  {r : Option (Except KModErr LoadedProfile)}

/-- Nothing is owed where there was no file. -/
theorem SeedKept.of_absent (h : fs .record = none) : SeedKept regenerate fs fs' r where
  valid _ hfile := nomatch h.symm.trans hfile
  loaded _ _ hfile := nomatch h.symm.trans hfile
  regenerated _ _ hfile := nomatch h.symm.trans hfile
  refused _ hfile := nomatch h.symm.trans hfile

/-- The file is as it was, and no profile was returned. -/
theorem SeedKept.of_error (h : fs' .record = fs .record)
    (hr : ∀ res, r = some res → ∃ err, err ≠ .ok ∧ res = .error err) :
    SeedKept regenerate fs fs' r where
  valid content hfile hvalid := ⟨content, h.trans hfile, hvalid⟩
  loaded _ content hfile _ := by
    refine ⟨h.trans hfile, fun profile hprofile => ?_⟩
    obtain ⟨err, -, herr⟩ := hr _ hprofile
    cases herr
  regenerated _ content hfile _ profile hprofile := by
    obtain ⟨err, -, herr⟩ := hr _ hprofile
    cases herr
  refused content hfile _ := ⟨h.trans hfile, hr⟩

/-- A valid record was replaced by the next one. -/
theorem SeedKept.of_created {content : Bytes} {generation : UInt64} {seed : Vector UInt8 32}
    (hfile : fs .record = some content) (hvalid : ValidSeed content)
    (hgeneration : (SeedRecord.ofBytes content).generation + 1 = generation)
    (hne : generation ≠ 0) (hnew : fs' .record = some (newSeedRecord generation seed).toBytes)
    (hr : ∀ profile, r = some (.ok profile) →
      deriveProfile (newSeedRecord generation seed) true = .ok profile) :
    SeedKept true fs fs' r where
  valid _ _ _ := ⟨_, hnew, (validSeed_newSeedRecord generation seed).2 hne⟩
  loaded h := nomatch h
  regenerated _ content' hfile' _ profile hprofile := by
    obtain rfl := Option.some.inj (hfile.symm.trans hfile')
    refine ⟨_, hnew, ?_⟩
    rw [SeedRecord.ofBytes_toBytes]
    have hsucc : generation.toNat = (SeedRecord.ofBytes content).generation.toNat + 1 := by
      subst hgeneration
      have hne := mt UInt64.toNat_inj.1 hne
      rw [UInt64.toNat_add] at hne ⊢
      simp only [UInt64.toNat_one, UInt64.toNat_zero] at hne ⊢
      have hlt := (SeedRecord.ofBytes content).generation.toNat_lt
      omega
    exact ⟨hsucc, (deriveProfile_eq_ok (hr profile hprofile)).2.2.1⟩
  refused content' hfile' hinvalid := by
    obtain rfl := Option.some.inj (hfile.symm.trans hfile')
    exact (hinvalid hvalid).elim

end

section
variable {regenerate : Bool} {fs : Files.Store SeedFile} {content : Bytes}

/-- A valid record is loaded, or replaced by the next one. -/
theorem safe_afterValid (hsafe : ¬SeedEndangered regenerate fs) (hfile : fs .record = some content)
    (hvalid : ValidSeed content) :
    (if regenerate then createSeed (.ofBytes content)
      else (return deriveProfile (.ofBytes content) false :
        Files.Program SeedFile (Except KModErr LoadedProfile))).Safe Files.exec (fun _ => True)
      (fun s => SeedKept regenerate fs s none)
      (fun r s => SeedKept regenerate fs s (some r)) fs := by
  cases regenerate with
  | false =>
    refine ⟨fun content' h' hvalid' => ⟨content', h', hvalid'⟩, fun _ content' h' _ => ?_,
      fun h => (by cases h), fun content' h' hinvalid => ?_⟩
    · obtain rfl := Option.some.inj (hfile.symm.trans h')
      refine ⟨h', fun profile hprofile => ?_⟩
      obtain ⟨hstream, hprint, hgeneration, hcreated⟩ :=
        deriveProfile_eq_ok (Option.some.inj hprofile)
      exact ⟨hstream, hprint, hgeneration, hcreated⟩
    · obtain rfl := Option.some.inj (hfile.symm.trans h')
      exact (hinvalid hvalid).elim
  | true =>
    obtain ⟨generation, hgeneration⟩ :
        ∃ generation, (SeedRecord.ofBytes content).generation + 1 = generation := ⟨_, rfl⟩
    have hnext : (if validateSeedRecord (.ofBytes content) then
        (SeedRecord.ofBytes content).generation else 0) + 1 = generation := by
      rw [if_pos hvalid.2, hgeneration]
    -- the generation does not wrap where the record can be written
    have hne (htmp : fs .temporary = none) : generation ≠ 0 := by
      rintro rfl
      refine hsafe (.inl ⟨rfl, htmp, content, hfile, hvalid, ?_⟩)
      have hzero := congrArg UInt64.toNat hgeneration
      rw [UInt64.toNat_add] at hzero
      simp only [UInt64.toNat_one, UInt64.toNat_zero] at hzero
      have hlt := (SeedRecord.ofBytes content).generation.toNat_lt
      omega
    refine (safe_createSeed hnext (fun s h => .of_error h fun _ h => (by cases h))
      fun htmp seed s hnew => ?_).mono ?_
    · exact .of_created hfile hvalid hgeneration (hne htmp) hnew fun _ h => (by cases h)
    · rintro r s (⟨herr, -, hs⟩ | ⟨htmp, seed, hnew, hr⟩)
      · exact .of_error hs fun res hres => Option.some.inj hres ▸ herr
      · exact .of_created hfile hvalid hgeneration (hne htmp) hnew fun profile hprofile =>
          (hr profile (Option.some.inj hprofile)).2

/-- A longer file is refused, or cannot be replaced. -/
theorem safe_afterLong (hsafe : ¬SeedEndangered regenerate fs) (hfile : fs .record = some content)
    (hlong : kSeedRecordBytes < content.length)
    (hvalid : validateSeedRecord (.ofBytes (content.take kSeedRecordBytes)) = true) :
    (if regenerate then createSeed (.ofBytes (content.take kSeedRecordBytes))
      else (return deriveProfile (.ofBytes (content.take kSeedRecordBytes)) false :
        Files.Program SeedFile (Except KModErr LoadedProfile))).Safe Files.exec (fun _ => True)
      (fun s => SeedKept regenerate fs s none)
      (fun r s => SeedKept regenerate fs s (some r)) fs := by
  have htaken : ¬(regenerate = true → fs .temporary = none) := fun h =>
    hsafe (.inr ⟨h, content, hfile, hlong, hvalid⟩)
  rw [Classical.not_imp] at htaken
  obtain ⟨rfl, htmp⟩ := htaken
  refine (safe_createSeed rfl (fun s h => .of_error h fun _ h => (by cases h))
    fun h => (htmp h).elim).mono ?_
  rintro r s (⟨herr, -, hs⟩ | ⟨h, -⟩)
  · exact .of_error hs fun res hres => Option.some.inj hres ▸ herr
  · exact (htmp h).elim

theorem safe_loadOrCreateRuntimeProfile (hsafe : ¬SeedEndangered regenerate fs) :
    (loadOrCreateRuntimeProfile regenerate).Safe Files.exec (fun _ => True)
      (fun s => SeedKept regenerate fs s none)
      (fun r s => SeedKept regenerate fs s (some r)) fs := by
  have hsame : SeedKept regenerate fs fs none := .of_error rfl fun _ h => (by cases h)
  have hrefused (err : KModErr) (herr : err ≠ .ok) :
      SeedKept regenerate fs fs (some (.error err)) :=
    .of_error rfl fun res hres => ⟨err, herr, (Option.some.inj hres).symm⟩
  unfold loadOrCreateRuntimeProfile
  cases runtimeCryptoSelfTest with
  | false => exact hrefused _ (by decide)
  | true =>
    simp only [Bool.not_true, Bool.false_eq_true, if_false]
    rw [Prog.safe_bind]
    refine (safe_readSeedFile hsame).mono ?_
    rintro (err | record) s ⟨rfl, hread⟩
    · obtain ⟨herr, habsent, -⟩ := hread
      dsimp only
      split
      · next h =>
        have hnone := habsent h
        exact (safe_createSeed rfl (fun _ _ => .of_absent hnone) fun _ _ _ _ =>
          .of_absent hnone).mono fun _ _ _ => .of_absent hnone
      · exact hrefused err herr
    · obtain ⟨content, hfile, hlen, rfl⟩ := hread
      dsimp only
      split
      · exact hrefused _ (by decide)
      · next h =>
        rw [Bool.not_eq_true', Bool.not_eq_false] at h
        rcases Nat.lt_or_eq_of_le hlen with hlong | hexact
        · exact safe_afterLong hsafe hfile hlong h
        · rw [List.take_of_length_le (Nat.le_of_eq hexact.symm)] at h ⊢
          exact safe_afterValid hsafe hfile ⟨hexact.symm, h⟩

/-- A run keeps the seed file that is not at risk. -/
theorem seedKept_of_not_endangered (hsafe : ¬SeedEndangered regenerate fs)
    (os : List (Option Files.Outcome)) :
    SeedKept regenerate fs
      ((loadOrCreateRuntimeProfile regenerate).runAttempts Files.exec Files.Call.retried .fails os
        fs).2
      ((loadOrCreateRuntimeProfile regenerate).runAttempts Files.exec Files.Call.retried .fails os
        fs).1 := by
  have hsame : SeedKept regenerate fs fs none := .of_error rfl fun _ h => (by cases h)
  rcases (safe_loadOrCreateRuntimeProfile hsafe).runAttempts_cases hsame _ _ os with
    ⟨hr, hkept⟩ | ⟨r, hr, hkept⟩
  · rw [hr]
    exact hkept
  · rw [hr]
    exact hkept

/-! ## What is lost -/

/-- A record that is read where no call fails. -/
theorem canReturn_readSeedFile (hfile : fs .record = some content)
    (hlen : content.length = kSeedRecordBytes) :
    readSeedFile.CanReturn Files.exec (fun r s => s = fs ∧ r = .ok (.ofBytes content)) fs := by
  have hsafe : readSeedFile.Safe Files.exec (· ≠ .fails) (fun _ => True) _ fs :=
    safe_readSeedFile trivial
  refine (hsafe.mono ?_).canReturn (o := .succeeds 0 fun _ => 0) (by simp)
  rintro (err | record) s ⟨rfl, hread⟩
  · exact (hread.2.2 content hfile hlen rfl).elim
  · obtain ⟨content', hfile', -, rfl⟩ := hread
    obtain rfl := Option.some.inj (hfile.symm.trans hfile')
    rw [List.take_of_length_le (Nat.le_of_eq hlen)]
    exact ⟨rfl, rfl⟩

/-- The first bytes of a longer file are read for a record if the read behind them fails. -/
theorem canReturn_readSeedFile_long (hfile : fs .record = some content)
    (hlong : kSeedRecordBytes < content.length) :
    readSeedFile.CanReturn Files.exec
      (fun r s => s = fs ∧ r = .ok (.ofBytes (content.take kSeedRecordBytes))) fs := by
  have htaken : (content.take kSeedRecordBytes).length = kSeedRecordBytes :=
    List.length_take_of_le (Nat.le_of_lt hlong)
  unfold readSeedFile
  rw [Prog.canReturn_perform_bind]
  refine ⟨.succeeds 0 fun _ => 0, ?_⟩
  simp only [Files.exec, Files.perform, hfile, Option.isSome_some, if_true]
  rw [Prog.canReturn_bind]
  refine (Files.canReturn_readLoop hfile (by decide) (Nat.le_of_lt hlong) (by decide) _).mono ?_
  rintro raw s ⟨rfl, rfl⟩
  rw [Prog.canReturn_perform_bind]
  refine ⟨.fails, ?_⟩
  simp only [htaken, ne_eq, not_true_eq_false, if_false]
  exact ⟨rfl, rfl⟩

/-- A free temporary name is enough for the next record to be written. -/
theorem canReturn_createSeed {record : SeedRecord} (htmp : fs .temporary = none) :
    (createSeed record).CanReturn Files.exec
      (fun _ s => ∃ seed, s .record = some (newSeedRecord
        ((if validateSeedRecord record then record.generation else 0) + 1) seed).toBytes) fs := by
  have hsafe : (createSeed record).Safe Files.exec (· ≠ .fails) (fun _ => True) _ fs :=
    safe_createSeed rfl (fun _ _ => trivial) fun _ _ _ _ => trivial
  refine (hsafe.mono ?_).canReturn (o := .succeeds 0 fun _ => 0) (by simp)
  rintro r s (⟨-, hfails, -⟩ | ⟨-, seed, hnew, -⟩)
  · exact (hfails htmp rfl).elim
  · exact ⟨seed, hnew⟩

/-- What follows the reading of a record that is valid. -/
theorem canReturn_load {Q : Except KModErr LoadedProfile → Files.Store SeedFile → Prop}
    {record : SeedRecord}
    (hread : readSeedFile.CanReturn Files.exec (fun r s => s = fs ∧ r = .ok record) fs)
    (hvalid : validateSeedRecord record = true)
    (hnext : (if regenerate then createSeed record
      else (return deriveProfile record false :
        Files.Program SeedFile (Except KModErr LoadedProfile))).CanReturn Files.exec Q fs) :
    (loadOrCreateRuntimeProfile regenerate).CanReturn Files.exec Q fs := by
  unfold loadOrCreateRuntimeProfile
  simp only [runtimeCryptoSelfTest_eq, Bool.not_true, Bool.false_eq_true, if_false]
  rw [Prog.canReturn_bind]
  refine hread.mono ?_
  rintro r s ⟨rfl, rfl⟩
  simpa only [hvalid, Bool.not_true, Bool.false_eq_true, if_false] using hnext

/-- A seed file at risk is lost in some run. -/
theorem canReturn_not_seedKept (h : SeedEndangered regenerate fs) :
    (loadOrCreateRuntimeProfile regenerate).CanReturn Files.exec
      (fun r s => ¬SeedKept regenerate fs s (some r)) fs := by
  obtain ⟨rfl, htmp, content, hfile, hvalid, hmax⟩ | ⟨htmp, content, hfile, hlong, hvalid⟩ := h
  · refine canReturn_load (canReturn_readSeedFile hfile hvalid.1) hvalid.2 ?_
    have hwrap : (SeedRecord.ofBytes content).generation + 1 = 0 := by
      rw [← UInt64.toNat_inj, UInt64.toNat_add, hmax]
      rfl
    refine (canReturn_createSeed htmp).mono ?_
    rintro r s ⟨seed, hnew⟩ hkept
    rw [if_pos hvalid.2, hwrap] at hnew
    -- the new record has no generation
    obtain ⟨content', hfile', hvalid'⟩ := hkept.valid content hfile hvalid
    obtain rfl := Option.some.inj (hnew.symm.trans hfile')
    exact (validSeed_newSeedRecord 0 seed).1 hvalid' rfl
  · have hinvalid : ¬ValidSeed content := fun h => Nat.ne_of_gt hlong h.1
    refine canReturn_load (canReturn_readSeedFile_long hfile hlong) hvalid ?_
    cases regenerate with
    | false =>
      intro hkept
      obtain ⟨err, -, herr⟩ := (hkept.refused content hfile hinvalid).2 _ rfl
      cases herr
    | true =>
      refine (canReturn_createSeed (htmp rfl)).mono ?_
      rintro r s ⟨seed, hnew⟩ hkept
      -- the new record is shorter than the file
      have hsame := Option.some.inj (hnew.symm.trans (hkept.refused content hfile hinvalid).1)
      exact Nat.ne_of_gt hlong (hsame ▸ SeedRecord.length_toBytes _)

end

/-- **Main result: when the seed file is kept.** In every run, cut off anywhere or not, a valid
record stays one, is loaded as it is or replaced by the next one, and a file that is no record is
refused: exactly if the file is not at risk. -/
theorem seed_kept_iff (regenerate : Bool) (fs : Files.Store SeedFile) :
    (∀ os : List (Option Files.Outcome), SeedKept regenerate fs
      ((loadOrCreateRuntimeProfile regenerate).runAttempts Files.exec Files.Call.retried .fails os
        fs).2
      ((loadOrCreateRuntimeProfile regenerate).runAttempts Files.exec Files.Call.retried .fails os
        fs).1) ↔
      ¬SeedEndangered regenerate fs := by
  refine ⟨fun h hrisk => ?_, seedKept_of_not_endangered⟩
  obtain ⟨os, r, s, heq, hlost⟩ :=
    (canReturn_not_seedKept hrisk).runAttempts Files.Call.retried .fails
  have hkept := h os
  rw [heq] at hkept
  exact hlost hkept

/-- A record of the last generation. -/
def lastSeedRecord : SeedRecord := newSeedRecord 0xffffffffffffffff (.replicate 32 1)

/-- The seed file with the record of the last generation. -/
def lastSeedFiles : Files.Store SeedFile
  | .record => some lastSeedRecord.toBytes
  | .temporary => none

theorem last_seed_lost :
    ¬∀ (regenerate : Bool) (fs : Files.Store SeedFile) (os : List (Option Files.Outcome)),
      SeedKept regenerate fs
        ((loadOrCreateRuntimeProfile regenerate).runAttempts Files.exec Files.Call.retried .fails
          os fs).2
        ((loadOrCreateRuntimeProfile regenerate).runAttempts Files.exec Files.Call.retried .fails
          os fs).1 := by
  intro h
  have hvalid : ValidSeed lastSeedRecord.toBytes := (validSeed_newSeedRecord _ _).2 (by decide)
  have hrisk : SeedEndangered true lastSeedFiles := by
    refine .inl ⟨rfl, rfl, _, rfl, hvalid, ?_⟩
    rw [SeedRecord.ofBytes_toBytes]
    rfl
  obtain ⟨os, r, s, heq, hlost⟩ :=
    (canReturn_not_seedKept hrisk).runAttempts Files.Call.retried .fails
  have hkept := h true lastSeedFiles os
  rw [heq] at hkept
  exact hlost hkept

end Drmid
