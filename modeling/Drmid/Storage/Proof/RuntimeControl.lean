import Mathlib.Data.List.GetD
import Drmid.Storage.RuntimeControl

/-!
# The runtime control file: records and programs

The round trip of a record (`controlOf_write`), and for each program on the files what it may do to
them and what it may return, for any set of outcomes of its calls: `safe_readExactRecord`,
`safe_readRuntimeControlFile`, `safe_writeRecord`, `safe_writeRuntimeControlFile`. The invariant of
these lemmas is any that the states in between have; what is returned is exact where no call may
fail.
-/

namespace Drmid

open Lib

/-! ## Words of a record -/

theorem getD_append_skip {xs ys : Bytes} {off i : Nat} (h : xs.length ≤ off) :
    (xs ++ ys).getD (off + i) 0 = ys.getD (off - xs.length + i) 0 := by
  simp only [List.getD_eq_getElem?_getD]
  rw [List.getElem?_append_right (by omega), Nat.sub_add_comm h]

theorem at32_skip {xs ys : Bytes} {off : Nat} (h : xs.length ≤ off) :
    at32 (xs ++ ys) off = at32 ys (off - xs.length) :=
  le32_congr fun _ _ => getD_append_skip h

theorem at64_skip {xs ys : Bytes} {off : Nat} (h : xs.length ≤ off) :
    at64 (xs ++ ys) off = at64 ys (off - xs.length) :=
  le64_congr fun _ _ => getD_append_skip h

theorem at32_leBytes (w : UInt32) (ys : Bytes) : at32 (leBytes 4 w.toUInt64 ++ ys) 0 = w := by
  have h : at32 (leBytes 4 w.toUInt64 ++ ys) 0 =
      le32 fun i => (leBytes 4 w.toUInt64).getD i 0 := by
    refine le32_congr fun i hi => ?_
    rw [Nat.zero_add, List.getD_append _ _ _ _ (by simpa using hi)]
  rw [h, le32_leBytes]

theorem at64_leBytes (w : UInt64) (ys : Bytes) : at64 (leBytes 8 w ++ ys) 0 = w := by
  have h : at64 (leBytes 8 w ++ ys) 0 = le64 fun i => (leBytes 8 w).getD i 0 := by
    refine le64_congr fun i hi => ?_
    rw [Nat.zero_add, List.getD_append _ _ _ _ (by simpa using hi)]
  rw [h, le64_leBytes]

theorem ofFn_skip {n : Nat} {xs ys : Bytes} {off : Nat} (h : xs.length ≤ off) :
    (Vector.ofFn fun i : Fin n => (xs ++ ys).getD (off + i.val) 0) =
      .ofFn fun i : Fin n => ys.getD (off - xs.length + i.val) 0 := by
  simp only [getD_append_skip h]

theorem ofFn_toList {n : Nat} (v : Vector UInt8 n) (ys : Bytes) :
    (Vector.ofFn fun i : Fin n => (v.toList ++ ys).getD (0 + i.val) 0) = v := by
  refine Vector.ext fun i hi => ?_
  have hlen : i < v.toList.length := by simpa using hi
  rw [Vector.getElem_ofFn, Nat.zero_add, List.getD_append _ _ _ _ hlen,
    List.getD_eq_getElem _ _ hlen, Vector.getElem_toList]

theorem map_range_getD {b : Bytes} {n off : Nat} (h : off + n ≤ b.length) :
    (List.range n).map (fun i => b.getD (off + i) 0) = (b.drop off).take n := by
  apply List.ext_getElem
  · simp only [List.length_map, List.length_range, List.length_take, List.length_drop]
    omega
  · intro i hi _
    have hi : i < n := by simpa using hi
    rw [List.getElem_map, List.getElem_range, List.getElem_take, List.getElem_drop,
      List.getD_eq_getElem _ _ (by omega)]

theorem leBytes_at32 {b : Bytes} {off : Nat} (h : off + 4 ≤ b.length) :
    leBytes 4 (at32 b off).toUInt64 = (b.drop off).take 4 := by
  rw [at32, leBytes_le32, map_range_getD h]

theorem leBytes_at64 {b : Bytes} {off : Nat} (h : off + 8 ≤ b.length) :
    leBytes 8 (at64 b off) = (b.drop off).take 8 := by
  rw [at64, leBytes_le64, map_range_getD h]

theorem toList_ofFn_bytes {b : Bytes} {n off : Nat} (h : off + n ≤ b.length) :
    (Vector.ofFn fun i : Fin n => b.getD (off + i.val) 0).toList = (b.drop off).take n := by
  rw [← map_range_getD h]
  apply List.ext_getElem (by simp)
  intro i _ _
  simp

/-- Consecutive parts of the bytes. -/
theorem take_drop_append {b : Bytes} {n m off off' : Nat} (h : off + n = off') :
    (b.drop off).take n ++ (b.drop off').take m = (b.drop off).take (n + m) := by
  rw [List.take_add, List.drop_drop, h]

namespace RuntimeControlRecordV3

theorem length_covered (r : RuntimeControlRecordV3) : r.covered.length = 120 := by
  simp [covered]

theorem length_toBytes (r : RuntimeControlRecordV3) :
    r.toBytes.length = kRuntimeControlRecordBytes := by
  simp [toBytes, length_covered, kRuntimeControlRecordBytes]

/-- The round trip of a record. -/
theorem ofBytes_toBytes (r : RuntimeControlRecordV3) : ofBytes r.toBytes = r := by
  have htail := at32_leBytes r.tailReserved []
  rw [List.append_nil] at htail
  simp only [ofBytes, toBytes, covered, List.append_assoc, at32_skip, at64_skip, ofFn_skip,
    length_leBytes, Vector.length_toList, at32_leBytes, at64_leBytes, ofFn_toList, htail,
    Nat.reduceLeDiff, Nat.reduceSub, Nat.le_refl]

theorem covered_ofBytes {b : Bytes} (h : b.length = kRuntimeControlRecordBytes) :
    (ofBytes b).covered = b.take 120 := by
  simp only [kRuntimeControlRecordBytes] at h
  simp (disch := omega) only [covered, ofBytes, leBytes_at64, leBytes_at32, toList_ofFn_bytes,
    take_drop_append, Nat.reduceAdd]
  rfl

/-- The round trip of the bytes. -/
theorem toBytes_ofBytes {b : Bytes} (h : b.length = kRuntimeControlRecordBytes) :
    (ofBytes b).toBytes = b := by
  rw [toBytes, covered_ofBytes h]
  simp only [kRuntimeControlRecordBytes] at h
  have hrest : (b.drop 120).take 8 = b.drop 120 := List.take_of_length_le (by simp [h])
  simp (disch := omega) only [ofBytes, leBytes_at32, take_drop_append, Nat.reduceAdd, hrest,
    List.take_append_drop]

end RuntimeControlRecordV3

/-! ## Generations -/

theorem toNat_succ_of_ne_max {w : UInt64} (h : w ≠ 0xffffffffffffffff) :
    (w + 1).toNat = w.toNat + 1 := by
  have hlt := w.toNat_lt
  have hne : w.toNat ≠ 0xffffffffffffffff := fun heq => h (UInt64.toNat_inj.1 heq)
  rw [UInt64.toNat_add, Nat.mod_eq_of_lt]
  · rfl
  · show w.toNat + 1 < _
    omega

theorem lt_succ_of_ne_max {w : UInt64} (h : w ≠ 0xffffffffffffffff) : w < w + 1 := by
  rw [UInt64.lt_iff_toNat_lt, toNat_succ_of_ne_max h]
  exact Nat.lt_succ_self _

/-! ## Configs and their records -/

theorem getElem_copyId (id : Vector UInt8 64) (n : UInt32) {i : Nat} (hi : i < 64) :
    (copyId id n)[i] = if i < n.toNat then id[i] else 0 := by
  simp only [copyId, Vector.getElem_ofFn]
  rfl

theorem copyId_copyId (id : Vector UInt8 64) (n : UInt32) :
    copyId (copyId id n) n = copyId id n := by
  ext i hi
  rw [getElem_copyId, getElem_copyId]
  split <;> rfl

/-- The config with nothing behind the `virtual_id_length` bytes of its ID. -/
def ReplacementConfig.trim (config : ReplacementConfig) : ReplacementConfig :=
  { config with virtualId := copyId config.virtualId config.virtualIdLength }

section
variable (config : ReplacementConfig)

@[simp] theorem trim_trim : config.trim.trim = config.trim := by
  simp only [ReplacementConfig.trim, copyId_copyId]

@[simp] theorem trim_mode : config.trim.mode = config.mode := by
  simp only [ReplacementConfig.trim]

@[simp] theorem trim_virtualIdLength : config.trim.virtualIdLength = config.virtualIdLength := by
  simp only [ReplacementConfig.trim]

@[simp] theorem trim_configGeneration :
    config.trim.configGeneration = config.configGeneration := by
  simp only [ReplacementConfig.trim]

@[simp] theorem trim_profileFingerprint :
    config.trim.profileFingerprint = config.profileFingerprint := by
  simp only [ReplacementConfig.trim]

theorem trim_virtualId :
    config.trim.virtualId = copyId config.virtualId config.virtualIdLength := rfl

end

theorem copyId_zero (n : UInt32) : copyId (Vector.replicate 64 0) n = Vector.replicate 64 0 := by
  ext i hi
  simp [getElem_copyId]

/-- Nothing is behind an ID of zeros. -/
theorem trim_of_zero {config : ReplacementConfig} (h : config.virtualId = Vector.replicate 64 0) :
    config.trim = config := by
  cases config
  subst h
  simp only [ReplacementConfig.trim, copyId_zero]

theorem fillConfigFromV3_trim (record : RuntimeControlRecordV3) :
    (fillConfigFromV3 record).trim = fillConfigFromV3 record := by
  simp only [ReplacementConfig.trim, fillConfigFromV3, copyId_copyId]

theorem configOfV2_trim (legacy : RuntimeControlRecordV2) :
    (configOfV2 legacy).trim = configOfV2 legacy := by
  simp only [ReplacementConfig.trim, configOfV2, copyId_copyId]

theorem fillConfigFromV3_recordOfConfig (config : ReplacementConfig) :
    fillConfigFromV3 (recordOfConfig config) = config.trim := by
  simp only [fillConfigFromV3, recordOfConfig, ReplacementConfig.trim, copyId_copyId]

/-- A config that may be written makes a valid record. -/
theorem validateV3Record_recordOfConfig {config : ReplacementConfig}
    (h : validateConfig config = true) : validateV3Record (recordOfConfig config) = true := by
  simp only [validateConfig, Bool.and_eq_true] at h
  obtain ⟨⟨⟨⟨hgen, hseed⟩, hprint⟩, hmode⟩, hlen⟩ := h
  simp only [validateV3Record, Bool.and_eq_true]
  exact ⟨⟨⟨⟨⟨⟨⟨⟨⟨⟨rfl, rfl⟩, rfl⟩, hgen⟩, hseed⟩, hmode⟩, hlen⟩, hprint⟩, rfl⟩, rfl⟩,
    beq_self_eq_true _⟩

/-- A valid record makes a config that may be written. -/
theorem validateConfig_fillConfigFromV3 {record : RuntimeControlRecordV3}
    (h : validateV3Record record = true) : validateConfig (fillConfigFromV3 record) = true := by
  simp only [validateV3Record, Bool.and_eq_true] at h
  obtain ⟨⟨⟨⟨⟨⟨⟨⟨-, hgen⟩, hseed⟩, hmode⟩, hlen⟩, hprint⟩, -⟩, -⟩, -⟩ := h
  simp only [validateConfig, Bool.and_eq_true]
  exact ⟨⟨⟨⟨hgen, hseed⟩, hprint⟩, hmode⟩, hlen⟩

/-- **Round trip.** What is written is what a read finds. -/
theorem controlOf_write {config : ReplacementConfig} (h : validateConfig config = true) :
    controlOf (some (recordOfConfig config).toBytes) = .ok config.trim := by
  simp only [controlOf, recordOf, RuntimeControlRecordV3.length_toBytes, if_true,
    RuntimeControlRecordV3.ofBytes_toBytes, validateV3Record_recordOfConfig h,
    fillConfigFromV3_recordOfConfig]

theorem recordOf_eq_ok {size : Nat} {file : Option Bytes} {b : Bytes} :
    recordOf size file = .ok b ↔ file = some b ∧ b.length = size := by
  cases file with
  | none => simp [recordOf]
  | some content =>
    by_cases h : content.length = size
    · simp only [recordOf, h, if_true, Except.ok.injEq, Option.some.injEq]
      exact ⟨fun heq => ⟨heq, heq ▸ h⟩, fun heq => heq.1⟩
    · simp only [recordOf, h, if_false, Option.some.injEq]
      exact ⟨fun heq => (by cases heq), fun heq => (h (heq.1 ▸ heq.2)).elim⟩

theorem recordOf_eq_notFound {size : Nat} {file : Option Bytes} :
    recordOf size file = .error .errModuleStorageNotFound ↔ file = none := by
  cases file with
  | none => simp [recordOf]
  | some content => by_cases h : content.length = size <;> simp [recordOf, h]

/-- A file that holds a config is a valid record of it. -/
theorem controlOf_eq_ok {file : Option Bytes} {config : ReplacementConfig}
    (h : controlOf file = .ok config) :
    ∃ content, file = some content ∧ content.length = kRuntimeControlRecordBytes ∧
      validateV3Record (.ofBytes content) = true ∧
        config = fillConfigFromV3 (.ofBytes content) := by
  unfold controlOf at h
  cases hrec : recordOf kRuntimeControlRecordBytes file with
  | error err =>
    rw [hrec] at h
    cases h
  | ok bytes =>
    obtain ⟨hfile, hlen⟩ := recordOf_eq_ok.1 hrec
    simp only [hrec] at h
    split at h
    next hvalid =>
      cases h
      exact ⟨bytes, hfile, hlen, hvalid, rfl⟩
    next => cases h

/-! ## Reading -/

section
variable {ok : FsOutcome → Prop} {I : FileSystem → Prop} {fs : FileSystem} {f : StateFile}
  {size : Nat}

/-- The calls that change no file. -/
def FsCall.Quiet : FsCall → Prop
  | .openRead _ | .read _ _ _ | .fchmod _ | .fsync _ | .close _ | .fstatat _ | .openDirectory
  | .fsyncDirectory | .closeDirectory => True
  | .openTrunc _ | .write _ _ | .rename _ _ | .unlink _ => False

theorem FsCall.Quiet.exec {c : FsCall} (hc : c.Quiet) (fs : FileSystem) (o : FsOutcome) :
    (FileSystem.exec c o fs).2 = fs := by
  cases o with
  | fails => rfl
  | succeeds moved => cases c <;> first | rfl | exact hc.elim

theorem safe_quiet {α : Type} {Q : α → FileSystem → Prop} {c : FsCall} {k : FsReply → FsProg α}
    (hc : c.Quiet) (hI : I fs)
    (hk : ∀ o, ok o → (k (FileSystem.exec c o fs).1).Safe FileSystem.exec ok I Q fs) :
    (Prog.perform c >>= k).Safe FileSystem.exec ok I Q fs :=
  Prog.safe_quiet_bind (hc.exec fs) hI hk

theorem transfer_pos (moved : Nat) {n : Nat} (h : 0 < n) : 0 < transfer moved n := by
  simp only [transfer]
  omega

/-- The bytes that a read moves continue what has been read. -/
theorem isPrefix_append_read {content used : Bytes} (h : used <+: content) (n : Nat) :
    used ++ (content.drop used.length).take n <+: content := by
  obtain ⟨rest, rfl⟩ := h
  rw [List.drop_left, List.prefix_append_right_inj]
  exact List.take_prefix n rest

/-- The loop reads a part of the file from its start, and stops early only at the end of the file
or at a failure. -/
theorem safe_readLoop {content : Bytes} (hI : I fs) (hf : fs f = some content) (passes : Nat)
    {used : Bytes} (hused : used <+: content) (hpasses : size ≤ used.length + passes) :
    (readLoop f size passes used).Safe FileSystem.exec ok I
      (fun r s => s = fs ∧ r <+: content ∧ (size ≤ r.length ∨ r = content ∨ ok .fails)) fs := by
  induction passes generalizing used with
  | zero => exact ⟨rfl, hused, .inl hpasses⟩
  | succ passes ih =>
    by_cases hlt : used.length < size
    · simp only [readLoop, hlt, if_true]
      refine safe_quiet trivial hI fun o ho => ?_
      cases o with
      | fails => exact ⟨rfl, hused, .inr (.inr ho)⟩
      | succeeds moved =>
        have hpos := transfer_pos moved (Nat.sub_pos_of_lt hlt)
        simp only [FileSystem.exec, FileSystem.perform, hf, Option.getD_some]
        cases hb : (content.drop used.length).take (transfer moved (size - used.length)) with
        | nil =>
          -- at least one byte was asked for, so nothing is left
          have hdrop : content.drop used.length = [] := by
            rcases List.take_eq_nil_iff.1 hb with h | h
            · omega
            · exact h
          have heq : used = content := by
            obtain ⟨rest, rfl⟩ := hused
            rw [List.drop_left] at hdrop
            rw [hdrop, List.append_nil]
          exact ⟨rfl, hused, .inr (.inl heq)⟩
        | cons x xs =>
          have hnext := isPrefix_append_read hused (transfer moved (size - used.length))
          rw [hb] at hnext
          exact ih hnext (by simp only [List.length_append, List.length_cons]; omega)
    · simp only [readLoop, hlt, if_false]
      exact ⟨rfl, hused, .inl (by omega)⟩

/-- Nothing follows what has been read. -/
theorem read_tail_eq_nil {content record : Bytes} {o : FsOutcome} (hf : fs f = some content)
    (hpart : record <+: content)
    (h : (FileSystem.exec (.read f record.length 1) o fs).1 = .bytes []) : record = content := by
  obtain ⟨rest, rfl⟩ := hpart
  cases o with
  | fails => cases h
  | succeeds moved =>
    simp only [FileSystem.exec, FileSystem.perform, hf, Option.getD_some, List.drop_left,
      FsReply.bytes.injEq] at h
    rcases List.take_eq_nil_iff.1 h with h | h
    · exact absurd h (Nat.ne_of_gt (transfer_pos _ Nat.one_pos))
    · rw [h, List.append_nil]

/-- Without failures a file of the size of the record is read to its end. -/
theorem read_tail_of_length {content record : Bytes} {o : FsOutcome} (hf : fs f = some content)
    (hpart : record <+: content) (hread : size ≤ record.length ∨ record = content ∨ ok .fails)
    (hfails : ¬ok .fails) (ho : ok o) (hlen : content.length = size) :
    record.length = size ∧ (FileSystem.exec (.read f record.length 1) o fs).1 = .bytes [] := by
  have heq : record = content := by
    rcases hread with hread | hread | hread
    · exact hpart.eq_of_length_le (by omega)
    · exact hread
    · exact (hfails hread).elim
  subst heq
  refine ⟨hlen, ?_⟩
  cases o with
  | fails => exact (hfails ho).elim
  | succeeds moved =>
    simp only [FileSystem.exec, FileSystem.perform, hf, Option.getD_some, List.drop_length,
      List.take_nil]

/-- `read_exact_record` changes nothing, and returns what the file holds unless a call fails. -/
theorem safe_readExactRecord (hI : I fs) (f : StateFile) (size : Nat) :
    (readExactRecord f size).Safe FileSystem.exec ok I
      (fun r s => s = fs ∧
        (r = recordOf size (fs f) ∨ (ok .fails ∧ r = .error .errModuleStorageRead))) fs := by
  refine safe_quiet trivial hI fun o ho => ?_
  cases o with
  | fails => exact ⟨rfl, .inr ⟨ho, rfl⟩⟩
  | succeeds moved =>
    cases hf : fs f with
    | none =>
      simp only [FileSystem.exec, FileSystem.perform, hf]
      exact ⟨rfl, .inl rfl⟩
    | some content =>
      simp only [FileSystem.exec, FileSystem.perform, hf, Option.isSome_some, if_true]
      rw [Prog.safe_bind]
      refine (safe_readLoop hI hf size List.nil_prefix (by simp)).mono ?_
      rintro record s ⟨rfl, hpart, hread⟩
      refine safe_quiet trivial hI fun o ho => ?_
      refine safe_quiet trivial hI fun _ _ => ?_
      split
      next hbad =>
        refine ⟨rfl, ?_⟩
        by_cases hfails : ok .fails
        · exact .inr ⟨hfails, rfl⟩
        · left
          have hlen : content.length ≠ size := by
            intro hlen
            obtain ⟨h1, h2⟩ := read_tail_of_length hf hpart hread hfails ho hlen
            exact hbad.elim (fun h => h h1) fun h => h h2
          simp only [recordOf, hlen, if_false]
      next hgood =>
        push Not at hgood
        have heq := read_tail_eq_nil hf hpart hgood.2
        subst heq
        refine ⟨rfl, .inl ?_⟩
        simp only [recordOf, hgood.1, if_true]

/-- `read_runtime_control_file` changes nothing, and returns what the file holds unless a call
fails. -/
theorem safe_readRuntimeControlFile (hI : I fs) :
    readRuntimeControlFile.Safe FileSystem.exec ok I
      (fun r s => s = fs ∧
        (r = controlOf (fs .controlV3) ∨ (ok .fails ∧ r = .error .errModuleStorageRead))) fs := by
  unfold readRuntimeControlFile
  rw [Prog.safe_bind]
  refine (safe_readExactRecord hI _ _).mono ?_
  rintro r s ⟨rfl, rfl | ⟨hfails, rfl⟩⟩
  · unfold controlOf
    cases recordOf kRuntimeControlRecordBytes (s .controlV3) with
    | error err => exact ⟨rfl, .inl rfl⟩
    | ok bytes =>
      by_cases hvalid : validateV3Record (.ofBytes bytes) = true
      · simp only [hvalid, if_true]
        exact ⟨rfl, .inl rfl⟩
      · simp only [hvalid]
        exact ⟨rfl, .inl rfl⟩
  · exact ⟨rfl, .inr ⟨hfails, rfl⟩⟩

/-! ## Writing -/

theorem safe_succeeded_bind {α : Type} {Q : α → FileSystem → Prop} {c : FsCall}
    {k : Bool → FsProg α} :
    (succeeded c >>= k).Safe FileSystem.exec ok I Q fs ↔
      ∀ o, ok o → I (FileSystem.exec c o fs).2 ∧
        (k ((FileSystem.exec c o fs).1 == .done)).Safe FileSystem.exec ok I Q
          (FileSystem.exec c o fs).2 :=
  Iff.rfl

/-- A call that changes nothing and is refused only if calls may fail. -/
theorem safe_plain {α : Type} {Q : α → FileSystem → Prop} {c : FsCall} {k : Bool → FsProg α}
    (hc : ∀ moved, fs.perform moved c = (.done, fs)) (hI : I fs)
    (hk : ∀ b, (b = false → ok .fails) → (k b).Safe FileSystem.exec ok I Q fs) :
    (succeeded c >>= k).Safe FileSystem.exec ok I Q fs := by
  rw [safe_succeeded_bind]
  intro o ho
  cases o with
  | fails => exact ⟨hI, hk false fun _ => ho⟩
  | succeeds moved =>
    simp only [FileSystem.exec, hc]
    exact ⟨hI, hk true nofun⟩

/-- The files with other contents of the temporary one. -/
def FileSystem.withTmp (fs : FileSystem) (x : Option Bytes) : FileSystem :=
  Function.update fs .controlV3Tmp x

/-- The files after a record has been written. -/
def FileSystem.written (fs : FileSystem) (record : Bytes) : FileSystem :=
  FileSystem.withTmp (Function.update fs .controlV3 (some record)) none

/-- The loop appends to the temporary file; it stops early only at a failure. -/
theorem safe_writeLoop (hI : ∀ x, I (fs.withTmp x)) (passes : Nat) (pre : Bytes) {data : Bytes}
    (hpasses : data.length ≤ passes) :
    (writeLoop .controlV3Tmp passes data).Safe FileSystem.exec ok I
      (fun written s => ∃ x, s = fs.withTmp (some x) ∧
        (if written then x = pre ++ data else ok .fails)) (fs.withTmp (some pre)) := by
  induction passes generalizing pre data with
  | zero =>
    obtain rfl := List.length_eq_zero_iff.1 (Nat.le_zero.1 hpasses)
    exact ⟨pre, rfl, (List.append_nil pre).symm⟩
  | succ passes ih =>
    cases data with
    | nil => exact ⟨pre, rfl, (List.append_nil pre).symm⟩
    | cons b data =>
      simp only [writeLoop, List.isEmpty_cons, Bool.false_eq_true, if_false]
      rw [Prog.safe_perform_bind]
      intro o ho
      cases o with
      | fails => exact ⟨hI _, pre, rfl, ho⟩
      | succeeds moved =>
        have hpos := transfer_pos moved (List.length_pos_of_ne_nil (List.cons_ne_nil b data))
        obtain ⟨n, hn⟩ : ∃ n, transfer moved (b :: data).length = n := ⟨_, rfl⟩
        have hstate : (FileSystem.exec (.write .controlV3Tmp (b :: data)) (.succeeds moved)
            (fs.withTmp (some pre))) =
              (.count n, fs.withTmp (some (pre ++ (b :: data).take n))) := by
          simp only [FileSystem.exec, FileSystem.perform, hn, FileSystem.withTmp,
            Function.update_self, Option.getD_some, Function.update_idem]
        rw [hn] at hpos
        rw [hstate]
        refine ⟨hI _, ?_⟩
        simp only [Nat.ne_of_gt hpos, if_false]
        refine (ih (pre ++ (b :: data).take n) ?_).mono ?_
        · simp only [List.length_drop]
          omega
        · rintro written s ⟨x, rfl, hx⟩
          refine ⟨x, rfl, ?_⟩
          rwa [List.append_assoc, List.take_append_drop] at hx

theorem perform_unlink_tmp (fs : FileSystem) (o : FsOutcome) (x : Option Bytes) :
    ∃ y, (FileSystem.exec (.unlink .controlV3Tmp) o (fs.withTmp x)).2 = fs.withTmp y := by
  cases o with
  | fails => exact ⟨x, rfl⟩
  | succeeds moved =>
    cases x with
    | none => exact ⟨none, by simp [FileSystem.exec, FileSystem.perform, FileSystem.withTmp]⟩
    | some b => exact ⟨none, by simp [FileSystem.exec, FileSystem.perform, FileSystem.withTmp]⟩

theorem perform_rename_tmp (moved : Nat) (record : Bytes) :
    (FileSystem.exec (.rename .controlV3Tmp .controlV3) (.succeeds moved)
      (fs.withTmp (some record))) = (.done, fs.written record) := by
  simp only [FileSystem.exec, FileSystem.perform, FileSystem.withTmp, FileSystem.written,
    Function.update_self, Option.isSome_some, if_true]
  rw [Function.update_comm (show StateFile.controlV3Tmp ≠ .controlV3 by decide),
    Function.update_idem]

/-- What `write_record` leaves: the record and `OK`, or the files but for the temporary one as they
were. -/
def WriteResult (ok : FsOutcome → Prop) (fs : FileSystem) (record : Bytes) (err : KModErr)
    (s : FileSystem) : Prop :=
  (err = .ok ∧ s = fs.written record) ∨
    (err = .errModuleStorageWrite ∧ ok .fails ∧ ∃ x, s = fs.withTmp x)

/-- The temporary file is given up. -/
theorem safe_unlinkTmp {record : Bytes} (hI : ∀ x, I (fs.withTmp x)) (hfails : ok .fails)
    (x : Option Bytes) :
    (Prog.perform (.unlink .controlV3Tmp) >>= fun _ =>
      (pure .errModuleStorageWrite : FsProg KModErr)).Safe FileSystem.exec ok I
        (WriteResult ok fs record) (fs.withTmp x) := by
  rw [Prog.safe_perform_bind]
  intro o _
  obtain ⟨y, hy⟩ := perform_unlink_tmp fs o x
  rw [hy]
  exact ⟨hI y, .inr ⟨rfl, hfails, y, rfl⟩⟩

theorem safe_syncDirectory {Q : KModErr → FileSystem → Prop} (hI : I fs) (hQ : Q .ok fs) :
    (syncDirectory >>= fun _ => (pure .ok : FsProg KModErr)).Safe FileSystem.exec ok I Q fs := by
  rw [Prog.safe_bind]
  refine safe_plain (fun _ => rfl) hI fun opened _ => ?_
  cases opened with
  | false => exact hQ
  | true => exact safe_quiet trivial hI fun _ _ => safe_quiet trivial hI fun _ _ => hQ

theorem safe_syncFile (hI : I fs) :
    (syncFile f).Safe FileSystem.exec ok I (fun synced s => s = fs ∧ (synced = false → ok .fails))
      fs := by
  refine safe_plain (fun _ => rfl) hI fun chmodOk hchmod => ?_
  cases chmodOk with
  | false => exact ⟨rfl, hchmod⟩
  | true =>
    intro o ho
    cases o with
    | fails => exact ⟨hI, rfl, fun _ => ho⟩
    | succeeds moved => exact ⟨hI, rfl, nofun⟩

/-- The temporary file holds the record. -/
theorem safe_renameRecord {record : Bytes} (hI : ∀ x, I (fs.withTmp x))
    (hwritten : I (fs.written record)) :
    renameRecord.Safe FileSystem.exec ok I (WriteResult ok fs record)
      (fs.withTmp (some record)) := by
  unfold renameRecord
  rw [Prog.safe_bind]
  refine (safe_syncFile (hI _)).mono ?_
  rintro syncOk s ⟨rfl, hsync⟩
  refine safe_plain (fun _ => rfl) (hI _) fun closeOk hclose => ?_
  cases hboth : syncOk && closeOk with
  | false =>
    have hfails : ok .fails := (Bool.and_eq_false_iff.1 hboth).elim hsync hclose
    exact safe_unlinkTmp hI hfails _
  | true =>
    simp only [if_true]
    rw [safe_succeeded_bind]
    intro o ho
    cases o with
    | fails => exact ⟨hI _, safe_unlinkTmp hI ho _⟩
    | succeeds moved =>
      rw [perform_rename_tmp]
      exact ⟨hwritten, safe_syncDirectory hwritten (.inl ⟨rfl, rfl⟩)⟩

/-- **`write_record`.** The record replaces the file in one step, and an error leaves every file
but the temporary one as it was. -/
theorem safe_writeRecord {record : Bytes} (hI : ∀ x, I (fs.withTmp x))
    (hwritten : I (fs.written record)) :
    (writeRecord record).Safe FileSystem.exec ok I (WriteResult ok fs record) fs := by
  have hfs : fs.withTmp (fs .controlV3Tmp) = fs := Function.update_eq_self _ _
  have hself : I fs := hfs ▸ hI (fs .controlV3Tmp)
  unfold writeRecord
  rw [safe_succeeded_bind]
  intro o ho
  cases o with
  | fails => exact ⟨hself, .inr ⟨rfl, ho, _, hfs.symm⟩⟩
  | succeeds moved =>
    refine ⟨hI (some []), ?_⟩
    show Prog.Safe _ _ _ _ (writeLoop .controlV3Tmp record.length record >>= _)
      (fs.withTmp (some []))
    rw [Prog.safe_bind]
    refine (safe_writeLoop hI record.length [] (Nat.le_refl _)).mono ?_
    rintro written s ⟨x, rfl, hx⟩
    cases written with
    | true =>
      obtain rfl : x = record := hx
      exact safe_renameRecord hI hwritten
    | false => exact safe_quiet trivial (hI _) fun _ _ => safe_unlinkTmp hI hx _

theorem safe_writeRuntimeControlFile {config : ReplacementConfig} (hI : ∀ x, I (fs.withTmp x))
    (hwritten : validateConfig config = true → I (fs.written (recordOfConfig config).toBytes)) :
    (writeRuntimeControlFile config).Safe FileSystem.exec ok I
      (fun err s => if validateConfig config then
          WriteResult ok fs (recordOfConfig config).toBytes err s
        else err = .errModuleParam ∧ s = fs) fs := by
  unfold writeRuntimeControlFile
  cases hvalid : validateConfig config with
  | false => exact ⟨rfl, rfl⟩
  | true => exact safe_writeRecord hI (hwritten hvalid)

end

end Drmid
