import Mathlib.Algebra.Order.BigOperators.Group.List
import Mathlib.Data.List.Forall2
import Drmid.Control.Answers
import Drmid.Control.Proof.Undisturbed
import Drmid.Storage.Proof.Capability

/-!
# The answers are JSON

A text of the WebUI is put together from pieces. `Renders` says that the fields in it are the
members of an object as `Json.text` writes them, so that `Json.parse_text` reads it; the one thing
that has to be known of a piece is that it needs no escapes (`Plain`). The kernel release, which
comes from a file, needs none because of the characters that a valid record may have.
-/

namespace Drmid

open Lib

/-! ## Pieces -/

/-- The characters are written as they are. -/
def Plain (cs : List Char) : Prop := ∀ c ∈ cs, Json.charText c = [c]

instance (cs : List Char) : Decidable (Plain cs) := List.decidableBAll _ cs

theorem Plain.flatMap {cs : List Char} (h : Plain cs) : cs.flatMap Json.charText = cs := by
  induction cs with
  | nil => rfl
  | cons c cs ih =>
    rw [List.flatMap_cons, h c List.mem_cons_self, ih fun d hd => h d (List.mem_cons_of_mem c hd)]
    rfl

theorem toList_jsonString {text : String} (h : Plain text.toList) :
    (jsonString text).toList = (Json.str text.toList).text := by
  rw [Json.text, Json.quoted, h.flatMap]
  simp [jsonString]

theorem toList_int (n : Int) : (toString n).toList = (Json.int n).text := by
  have hdecimal : (Json.int n).text = Json.intText n := by
    rw [Json.int, Json.text, Json.decimalText, if_pos rfl, List.append_nil]
  rw [hdecimal, Int.toString_eq_repr, Int.repr_eq_if, Json.intText]
  by_cases h : n < 0
  · have habs : (-n).toNat = n.natAbs := by omega
    simp [if_neg (not_le.2 h), if_pos h, habs]
  · have habs : n.toNat = n.natAbs := by omega
    simp [if_pos (not_lt.1 h), if_neg h, habs]

theorem toList_nat (n : Nat) : (toString n).toList = (Json.int n).text := by
  rw [← toList_int, Int.toString_eq_repr, Nat.toString_eq_repr]
  rfl

theorem plain_hex16 (value : UInt64) : Plain (hex16 value).toList := by
  have hdigits : ∀ k < 16, Json.charText (Nat.digitChar k) = [Nat.digitChar k] := by decide
  intro c hc
  rw [hex16, String.toList_ofList, List.mem_map] at hc
  obtain ⟨i, -, rfl⟩ := hc
  exact hdigits _ (Nat.mod_lt _ (by decide))

theorem length_hex16 (value : UInt64) : (hex16 value).length = 16 := by
  simp [hex16]

/-! ## Fields -/

/-- The field is the member, and its name needs no escapes. -/
structure Renders (field : String × String) (member : List Char × Json) : Prop where
  plain : Plain field.1.toList
  name : field.1.toList = member.1
  value : field.2.toList = member.2.text

theorem Renders.text {field : String × String} {member : List Char × Json}
    (h : Renders field member) : (jsonField field.1 field.2).toList = Json.memberText member := by
  obtain ⟨key, v⟩ := member
  have hname := h.name
  have hvalue := h.value
  dsimp only at hname hvalue
  rw [Json.memberText, Json.quoted, ← hname, h.plain.flatMap, ← hvalue]
  simp [jsonField]

theorem Renders.names {fields : List (String × String)} {members : List (List Char × Json)}
    (h : List.Forall₂ Renders fields members) :
    members.map Prod.fst = (fields.map Prod.fst).map String.toList := by
  induction h with
  | nil => rfl
  | cons hfield _ ih => rw [List.map_cons, List.map_cons, List.map_cons, ih, hfield.name]

theorem toList_jsonFields {fields : List (String × String)} {members : List (List Char × Json)}
    (h : List.Forall₂ Renders fields members) :
    (jsonFields fields).toList = [','].intercalate (members.map Json.memberText) := by
  have hmap : (fields.map fun field => (jsonField field.1 field.2).toList) =
      members.map Json.memberText := by
    induction h with
    | nil => rfl
    | cons hfield _ ih => rw [List.map_cons, List.map_cons, hfield.text, ih]
  rw [jsonFields, String.toList_intercalate, List.map_map, ← hmap]
  rfl

/-- Two runs of fields, with a comma between them. -/
theorem intercalate_append {as bs : List (List Char)} (ha : as ≠ []) (hb : bs ≠ []) :
    [','].intercalate (as ++ bs) = [','].intercalate as ++ ',' :: [','].intercalate bs := by
  induction as with
  | nil => exact absurd rfl ha
  | cons a as ih =>
    cases as with
    | nil => rw [List.singleton_append, List.intercalate_cons_of_ne_nil hb]; simp
    | cons a' as =>
      rw [List.cons_append, List.cons_append, List.intercalate_cons_cons,
        List.intercalate_cons_cons, ← List.cons_append, ih (List.cons_ne_nil _ _)]
      simp

theorem length_intercalate (ls : List (List Char)) :
    ([','].intercalate ls).length ≤ (ls.map fun l => l.length + 1).sum := by
  induction ls with
  | nil => exact Nat.le_refl 0
  | cons l ls ih =>
    rw [List.map_cons, List.sum_cons]
    cases ls with
    | nil =>
      rw [List.intercalate_singleton]
      omega
    | cons l' ls =>
      rw [List.intercalate_cons_cons, List.length_append, List.length_append,
        List.length_singleton]
      omega

/-- Fields whose values have at most `b` characters. -/
theorem length_jsonFields {fields : List (String × String)} {b : Nat}
    (h : ∀ field ∈ fields, field.2.length ≤ b) :
    (jsonFields fields).length ≤ (fields.map fun field => field.1.length + (b + 4)).sum := by
  rw [jsonFields, ← String.length_toList, String.toList_intercalate, List.map_map]
  refine (length_intercalate _).trans ?_
  rw [List.map_map]
  refine List.sum_le_sum fun field hfield => ?_
  have hvalue := h field hfield
  have hquote : "\"".length = 1 := rfl
  have hcolon : "\":".length = 2 := rfl
  simp only [Function.comp_apply, jsonField, String.length_toList, String.length_append]
  omega

/-! ## The response -/

section
variable {toNum : ToNum} {response : ControlIpcResponse}

/-- What the text of a response says. -/
def responseMembers (toNum : ToNum) (response : ControlIpcResponse) : List (List Char × Json) :=
  [("result".toList, .int (toNum response.result).toInt32.toInt),
    ("daemon_pid".toList, .int response.daemonPid.toNat),
    ("backend".toList, .str "hal-outbound-binder-global".toList),
    ("active_calls".toList, .int response.activeCalls.toNat),
    ("generation".toList, .int response.configGeneration.toNat),
    ("seed_generation".toList, .int response.seedGeneration.toNat),
    ("fingerprint".toList, .str (hex16 response.profileFingerprint).toList),
    ("switches".toList, .int response.switches.toNat),
    ("rejections".toList, .int response.rejections.toNat),
    ("server_request_hits".toList, .int response.serverRequestHits.toNat),
    ("correlated_reply_candidates".toList, .int response.correlatedReplyCandidates.toNat),
    ("replacement_candidates".toList, .int response.replacementCandidates.toNat),
    ("dry_run_hits".toList, .int response.replacementDryRunHits.toNat),
    ("write_ok".toList, .int response.replacementWriteOk.toNat),
    ("write_faults".toList, .int response.replacementWriteFaults.toNat),
    ("hal_identity_generation".toList, .int response.halIdentityGeneration.toNat),
    ("hal_identity_switches".toList, .int response.halIdentitySwitches.toNat),
    ("hal_gate_hits".toList, .int response.halGateHits.toNat),
    ("hal_state".toList, .int response.halState.toNat),
    ("hal_count".toList, .int response.halCount.toNat),
    ("hal_monitor_backend".toList, .int response.halMonitorBackend.word.toNat),
    ("hal_monitor_wakeups".toList, .int response.halMonitorWakeups.toNat),
    ("slot".toList, .int response.activeSlot.toNat),
    ("mode".toList, .int response.replacementMode.toNat),
    ("length".toList, .int response.virtualIdLength.toNat)]

theorem Renders.int {name : String} (h : Plain name.toList) (n : Int) :
    Renders (name, toString n) (name.toList, .int n) := ⟨h, rfl, toList_int n⟩

theorem Renders.nat {name : String} (h : Plain name.toList) (n : Nat) :
    Renders (name, toString n) (name.toList, .int n) := ⟨h, rfl, toList_nat n⟩

theorem Renders.string {name text : String} (h : Plain name.toList) (ht : Plain text.toList) :
    Renders (name, jsonString text) (name.toList, .str text.toList) :=
  ⟨h, rfl, toList_jsonString ht⟩

theorem responseFields_render (toNum : ToNum) (response : ControlIpcResponse) :
    List.Forall₂ Renders (responseFields toNum response) (responseMembers toNum response) := by
  unfold responseFields responseMembers
  refine .cons (.int (by decide) _) ?_
  refine .cons (.nat (by decide) _) ?_
  refine .cons (.string (by decide) (by decide)) ?_
  refine .cons (.nat (by decide) _) (.cons (.nat (by decide) _) (.cons (.nat (by decide) _) ?_))
  refine .cons (.string (by decide) (plain_hex16 _)) ?_
  iterate 18 refine .cons (.nat (by decide) _) ?_
  exact .nil

theorem length_nat {n k : Nat} (h : n < 10 ^ k) (hk : 0 < k) : (toString n).length ≤ k := by
  rw [Nat.toString_eq_repr]
  exact (Nat.length_repr_le_iff hk).2 h

theorem length_word64 (x : UInt64) : (toString x.toNat).length ≤ 28 :=
  length_nat (Nat.lt_trans x.toNat_lt (by decide)) (by decide)

theorem length_word32 (x : UInt32) : (toString x.toNat).length ≤ 28 :=
  length_nat (Nat.lt_trans x.toNat_lt (by decide)) (by decide)

theorem length_int32 (x : Int32) : (toString x.toInt).length ≤ 28 := by
  have hlt := x.toInt_lt
  have hle := x.le_toInt
  rw [Int.toString_eq_repr, Int.repr_eq_if]
  split
  · exact (Nat.length_repr_le_iff (by decide)).2 (by omega)
  · have hdigits : (-x.toInt).toNat.repr.length ≤ 27 :=
      (Nat.length_repr_le_iff (by decide)).2 (by omega)
    have hsign : "-".length = 1 := rfl
    rw [String.length_append]
    omega

theorem length_jsonString_hex16 (value : UInt64) : (jsonString (hex16 value)).length ≤ 28 := by
  have hquote : "\"".length = 1 := rfl
  simp only [jsonString, String.length_append, length_hex16]
  omega

/-- No value is longer than the name of the backend. -/
theorem responseFields_short (toNum : ToNum) (response : ControlIpcResponse) :
    ∀ field ∈ responseFields toNum response, field.2.length ≤ 28 := by
  unfold responseFields
  refine List.forall_mem_cons.2 ⟨length_int32 _, List.forall_mem_cons.2 ⟨length_word64 _,
    List.forall_mem_cons.2 ⟨by decide, ?_⟩⟩⟩
  iterate 3 refine List.forall_mem_cons.2 ⟨length_word64 _, ?_⟩
  refine List.forall_mem_cons.2 ⟨length_jsonString_hex16 _, ?_⟩
  iterate 11 refine List.forall_mem_cons.2 ⟨length_word64 _, ?_⟩
  iterate 7 refine List.forall_mem_cons.2 ⟨length_word32 _, ?_⟩
  exact List.forall_mem_nil _

/-- The names of the fields. -/
def responseNames : List String :=
  ["result", "daemon_pid", "backend", "active_calls", "generation", "seed_generation",
    "fingerprint", "switches", "rejections", "server_request_hits", "correlated_reply_candidates",
    "replacement_candidates", "dry_run_hits", "write_ok", "write_faults",
    "hal_identity_generation", "hal_identity_switches", "hal_gate_hits", "hal_state", "hal_count",
    "hal_monitor_backend", "hal_monitor_wakeups", "slot", "mode", "length"]

/-- The text that is printed into the buffer. -/
def printedResponse (toNum : ToNum) (response : ControlIpcResponse) : String :=
  "\x7b" ++ jsonFields (responseFields toNum response) ++ ",\"hal_tgids\":["

/-- The buffer is large enough for every response. -/
theorem length_printedResponse (toNum : ToNum) (response : ControlIpcResponse) :
    (printedResponse toNum response).length < kControlResponseTextBytes := by
  have hfields := length_jsonFields (responseFields_short toNum response)
  have hsum : ((responseFields toNum response).map fun field => field.1.length + (28 + 4)).sum ≤
      1200 := by
    have hnames : (responseFields toNum response).map (·.1) = responseNames := rfl
    have hlengths : (responseFields toNum response).map (fun field => field.1.length + (28 + 4)) =
        responseNames.map (·.length + (28 + 4)) := by
      rw [← hnames, List.map_map]
      rfl
    rw [hlengths]
    decide
  have hopen : "\x7b".length = 1 := rfl
  have htgids : ",\"hal_tgids\":[".length = 14 := rfl
  simp only [printedResponse, String.length_append, kControlResponseTextBytes]
  omega

theorem snprintfText_eq {size : Nat} {text : String} (h : text.length < size) :
    snprintfText size text = text := by
  rw [snprintfText, List.take_of_length_le, String.ofList_toList]
  rw [String.length_toList]
  omega

/-- All members of the text of a response. -/
def plainMembers (toNum : ToNum) (response : ControlIpcResponse) : List (List Char × Json) :=
  responseMembers toNum response ++
    [("hal_tgids".toList, .arr (response.listedTgids.map fun tgid => .int tgid.toNat))]

theorem toList_tgids (tgids : List UInt32) :
    (String.intercalate "," (tgids.map fun tgid => toString tgid.toNat)).toList =
      [','].intercalate ((tgids.map fun tgid => Json.int tgid.toNat).map Json.text) := by
  rw [String.toList_intercalate, List.map_map, List.map_map]
  congr 1
  exact List.map_congr_left fun tgid _ => toList_nat tgid.toNat

/-- The text of a response is the object. -/
theorem toList_controlResponseJson (toNum : ToNum) (response : ControlIpcResponse) :
    (controlResponseJson toNum response).toList =
      (Json.obj (plainMembers toNum response)).text := by
  have hprinted : snprintfText kControlResponseTextBytes
      ("\x7b" ++ jsonFields (responseFields toNum response) ++ ",\"hal_tgids\":[") =
      printedResponse toNum response := snprintfText_eq (length_printedResponse toNum response)
  have hkey : ",\"hal_tgids\":[".toList =
      ',' :: (Json.quoted "hal_tgids".toList ++ [':', '[']) := by
    decide
  rw [controlResponseJson, hprinted, printedResponse, Json.text_obj, plainMembers, List.map_append,
    intercalate_append (by simp [responseMembers]) (by simp), List.map_singleton,
    List.intercalate_singleton, Json.memberText, Json.text_arr]
  simp only [String.toList_append, toList_jsonFields (responseFields_render toNum response), hkey,
    toList_tgids]
  simp

end

/-! ## The status -/

section
variable {toNum : ToNum} {response : ControlIpcResponse}

/-- What a status says of the fingerprint record. -/
def fingerprintMembers (fingerprint : Except KModErr UInt64) : List (List Char × Json) :=
  match fingerprint with
  | .ok deviceFingerprint =>
    [("device_fingerprint".toList,
      .str (if deviceFingerprint ≠ 0 then hex16 deviceFingerprint else "").toList)]
  | .error _ => [("device_fingerprint".toList, .str [])]

/-- What a status says of the capability record. -/
def capabilityMembers (capability : Except KModErr BinderCapabilityStatus) :
    List (List Char × Json) :=
  match capability with
  | .ok status =>
    [("kernel_release".toList, .str (bytesText status.kernelRelease).toList),
      ("binder_driver_backend".toList, .str (binderBackendName status.backend).toList),
      ("binder_resolution_source".toList,
        .str (if status.fileFOpSource == .symbolScan ||
            status.fopsUnlockedIoctlSource == .symbolScan then "fd+sdk+symbol-scan"
          else "fd+sdk+symbol-check").toList),
      ("binder_file_offset_source".toList,
        .str (binderOffsetSourceName status.fileFOpSource).toList),
      ("binder_ioctl_offset_source".toList,
        .str (binderOffsetSourceName status.fopsUnlockedIoctlSource).toList),
      ("binder_capabilities".toList, .str (hex16 status.capabilities).toList),
      ("binder_entry_fingerprint".toList, .str (hex16 status.entryFingerprint).toList),
      ("binder_entry_semantics".toList, .int status.entrySemantics.toNat),
      ("binder_symbol_validations".toList, .int status.symbolValidations.toNat)]
  | .error _ =>
    [("kernel_release".toList, .str []), ("binder_driver_backend".toList, .str "unknown".toList),
      ("binder_resolution_source".toList, .str "unavailable".toList),
      ("binder_file_offset_source".toList, .str "unknown".toList),
      ("binder_ioctl_offset_source".toList, .str "unknown".toList),
      ("binder_capabilities".toList, .str "0000000000000000".toList),
      ("binder_entry_fingerprint".toList, .str []), ("binder_entry_semantics".toList, .int 0),
      ("binder_symbol_validations".toList, .int 0)]

def statusMembers (toNum : ToNum) (response : ControlIpcResponse)
    (fingerprint : Except KModErr UInt64) (capability : Except KModErr BinderCapabilityStatus) :
    List (List Char × Json) :=
  plainMembers toNum response ++ (fingerprintMembers fingerprint ++ capabilityMembers capability)

theorem fingerprintFields_render (fingerprint : Except KModErr UInt64) :
    List.Forall₂ Renders (fingerprintFields fingerprint) (fingerprintMembers fingerprint) := by
  cases fingerprint with
  | error err => exact .cons (.string (by decide) (by decide)) .nil
  | ok deviceFingerprint =>
    refine .cons (.string (by decide) ?_) .nil
    split
    · exact plain_hex16 _
    · decide

theorem plain_backendName (backend : BinderBackend) : Plain (binderBackendName backend).toList := by
  cases backend <;> decide

theorem plain_sourceName (source : BinderOffsetSource) :
    Plain (binderOffsetSourceName source).toList := by
  cases source <;> decide

theorem capabilityFields_render {capability : Except KModErr BinderCapabilityStatus}
    (h : ∀ status, capability = .ok status → Plain (bytesText status.kernelRelease).toList) :
    List.Forall₂ Renders (capabilityFields capability) (capabilityMembers capability) := by
  cases capability with
  | error err =>
    iterate 7 refine .cons (.string (by decide) (by decide)) ?_
    exact .cons (.nat (by decide) 0) (.cons (.nat (by decide) 0) .nil)
  | ok status =>
    refine .cons (.string (by decide) (h status rfl)) ?_
    refine .cons (.string (by decide) (plain_backendName _)) ?_
    refine .cons (.string (by decide) ?_) ?_
    · split <;> decide
    refine .cons (.string (by decide) (plain_sourceName _)) ?_
    refine .cons (.string (by decide) (plain_sourceName _)) ?_
    refine .cons (.string (by decide) (plain_hex16 _)) ?_
    refine .cons (.string (by decide) (plain_hex16 _)) ?_
    exact .cons (.nat (by decide) _) (.cons (.nat (by decide) _) .nil)

theorem popBrace_object {json : String} {ms : List (List Char × Json)}
    (h : json.toList = (Json.obj ms).text) :
    (popBrace json).toList = '\x7b' :: [','].intercalate (ms.map Json.memberText) := by
  have hlast : json.toList =
      ('\x7b' :: [','].intercalate (ms.map Json.memberText)) ++ ['\x7d'] := by
    rw [h, Json.text_obj]
    rfl
  rw [popBrace, hlast, List.getLast?_concat, if_pos rfl, List.dropLast_concat, String.toList_ofList]

theorem toList_statusJson (fingerprint : Except KModErr UInt64)
    {capability : Except KModErr BinderCapabilityStatus}
    (h : ∀ status, capability = .ok status → Plain (bytesText status.kernelRelease).toList) :
    (statusJson toNum response fingerprint capability).toList =
      (Json.obj (statusMembers toNum response fingerprint capability)).text := by
  have hfingerprint : fingerprintMembers fingerprint ≠ [] := by
    cases fingerprint <;> exact List.cons_ne_nil _ _
  have hcapability : capabilityMembers capability ≠ [] := by
    cases capability <;> exact List.cons_ne_nil _ _
  have hplain : plainMembers toNum response ≠ [] := by simp [plainMembers]
  rw [Json.text_obj, statusMembers, List.map_append, List.map_append,
    intercalate_append (by simpa using hplain) (by simp [hfingerprint]),
    intercalate_append (by simpa using hfingerprint) (by simpa using hcapability), statusJson]
  simp only [String.toList_append, popBrace_object (toList_controlResponseJson toNum response),
    toList_jsonFields (fingerprintFields_render fingerprint),
    toList_jsonFields (capabilityFields_render h)]
  simp

theorem charText_of_plain {c : Char} (hquote : c.toNat ≠ 34) (hslash : c.toNat ≠ 92)
    (hcontrol : 32 ≤ c.toNat) : Json.charText c = [c] := by
  rw [Json.charText, if_neg, if_neg, if_neg (by omega)]
  · rintro rfl
    exact hslash rfl
  · rintro rfl
    exact hquote rfl

/-- The characters of a kernel release need no escapes. -/
theorem plain_release {release : Bytes} (h : ∀ ch ∈ release, isReleaseChar ch = true) :
    Plain (bytesText release).toList := by
  intro c hc
  rw [bytesText, String.toList_ofList, List.mem_map] at hc
  obtain ⟨b, hb, rfl⟩ := hc
  have hvalid : b.toNat.isValidChar := .inl (Nat.lt_trans b.toNat_lt (by decide))
  have hnat : (Char.ofNat b.toNat).toNat = b.toNat := by
    rw [Char.ofNat, dif_pos hvalid]
    rfl
  have hrange := h b hb
  simp only [isReleaseChar, isDigit, Bool.or_eq_true, Bool.and_eq_true, decide_eq_true_eq,
    beq_iff_eq, UInt8.le_iff_toNat_le, ← UInt8.toNat_inj, UInt8.reduceToNat] at hrange
  exact charText_of_plain (by omega) (by omega) (by omega)

/-- The release of a terminated field. -/
theorem isReleaseChar_of_terminated {text : Bytes} (h : releaseTerminated text = true) :
    ∀ ch ∈ text.takeWhile (· != 0), isReleaseChar ch = true := by
  induction text with
  | nil => exact fun ch hch => absurd hch List.not_mem_nil
  | cons b text ih =>
    by_cases hb : b = 0
    · rw [List.takeWhile_cons_of_neg (by simp [hb])]
      exact fun ch hch => absurd hch List.not_mem_nil
    · rw [releaseTerminated, Bool.or_eq_true, beq_iff_eq, or_iff_right hb, Bool.and_eq_true] at h
      rw [List.takeWhile_cons_of_pos (by simpa using hb)]
      exact List.forall_mem_cons.2 ⟨h.1, ih h.2⟩

theorem plain_statusOf {file : Option Bytes} {status : BinderCapabilityStatus}
    (h : statusOf file = .ok status) : Plain (bytesText status.kernelRelease).toList := by
  cases file with
  | none => cases h
  | some content =>
    by_cases hlen : content.length = kCapabilityRecordBytes
    · by_cases hvalid : validCapabilityRecord (.ofBytes content) = true
      · have hfile : statusOf (some content) = .ok (statusOfRecord (.ofBytes content)) := by
          simp only [statusOf, hlen, if_true, hvalid]
        have hstatus : statusOfRecord (.ofBytes content) = status := by
          rw [hfile] at h
          injection h
        generalize BinderCapabilityRecordV1.ofBytes content = record at hvalid hstatus
        subst hstatus
        simp only [validCapabilityRecord, validKernelReleaseText, Bool.and_eq_true] at hvalid
        exact plain_release (isReleaseChar_of_terminated hvalid.1.2.1)
      · simp only [statusOf, hlen, if_true, hvalid] at h
        cases h
    · simp only [statusOf, hlen, if_false] at h
      cases h

/-- What is read of the capability record, whatever the calls do. -/
theorem plain_readBinderCapabilityStatus {fs : Files.Store CapabilityFile}
    {script : Nat → Files.Outcome} {status : BinderCapabilityStatus}
    (h : (readBinderCapabilityStatus.eval Files.exec script fs).1 = .ok status) :
    Plain (bytesText status.kernelRelease).toList := by
  rcases eval_readBinderCapabilityStatus fs script with hread | hread
  · exact plain_statusOf (hread.symm.trans h)
  · rw [hread] at h
    cases h

/-- **What the page reads of a status.** Whatever the daemon's response holds, and whatever there is
in the files of the private directory and becomes of the calls that read them, `JSON.parse` accepts
the texts, which the buffer does not cut; the members are those of the response, and of the records
if they are valid. -/
theorem status_read_back (toNum : ToNum) (response : ControlIpcResponse) (files : StatusFiles) :
    Json.parse (controlResponseJson toNum response).toList =
        some (.obj (plainMembers toNum response)) ∧
      Json.parse (files.json toNum response).toList = some (.obj (statusMembers toNum response
        (readOriginalIdFingerprint.eval Files.exec files.fingerprintScript files.fingerprint).1
        (readBinderCapabilityStatus.eval Files.exec files.capabilityScript
          files.capability).1)) := by
  constructor
  · rw [toList_controlResponseJson, Json.parse_text]
  · rw [StatusFiles.json, toList_statusJson _ fun _ => plain_readBinderCapabilityStatus,
      Json.parse_text]

end

/-! ## Every answer -/

/-- An object of fields. -/
def jsonObject (fields : List (String × String)) : String := "\x7b" ++ jsonFields fields ++ "\x7d"

namespace Answer

/-- The text is an object, and its `result` is zero exactly where the HTTP status is 200. -/
def Agrees (answer : Answer) : Prop :=
  ∃ ms n, answer.text.toList = (Json.obj ms).text ∧
    (Json.obj ms).get? "result".toList = some (.int n) ∧ (n = 0 ↔ answer.status = 200)

/-- An answer that is put together from fields, the first of which is its `result`. -/
theorem agrees_fields {status : Nat} {n : Int} {fields : List (String × String)}
    {members : List (List Char × Json)} (h : List.Forall₂ Renders fields members)
    (hkeys : "result" ∉ fields.map Prod.fst) (hstatus : n = 0 ↔ status = 200) :
    Agrees ⟨status, jsonObject (("result", toString n) :: fields)⟩ := by
  have hall : List.Forall₂ Renders (("result", toString n) :: fields)
      (("result".toList, .int n) :: members) := .cons (.int (by decide) n) h
  refine ⟨("result".toList, .int n) :: members, n, ?_, Json.get?_head ?_, hstatus⟩
  · rw [Json.text_obj, ← toList_jsonFields hall]
    simp [jsonObject]
  · rw [Renders.names h, List.mem_map]
    rintro ⟨name, hname, heq⟩
    exact hkeys (String.toList_inj.1 heq ▸ hname)

section
variable {toNum : ToNum} {status : Nat} {response : ControlIpcResponse} {err : KModErr}
  (hnum : ∀ err, (toNum err).toInt32 = 0 ↔ err = .ok)
include hnum

theorem result_iff (err : KModErr) : (toNum err).toInt32.toInt = 0 ↔ err = .ok := by
  rw [← hnum err, ← Int32.toInt_inj]
  rfl

theorem error_ne_zero (h : err ≠ .ok) : (toNum err).toInt ≠ 0 := by
  intro hzero
  refine h ((hnum err).1 ?_)
  have hword : toNum err = 0 := Int64.toInt_inj.1 hzero
  rw [hword]
  rfl

theorem agrees_plain (h : status = 200 ↔ response.result = .ok) :
    Agrees ⟨status, controlResponseJson toNum response⟩ := by
  refine ⟨_, (toNum response.result).toInt32.toInt, toList_controlResponseJson toNum response,
    Json.get?_head ?_, (result_iff hnum _).trans h.symm⟩
  have hkeys : (plainMembers toNum response).tail.map Prod.fst =
      (responseNames.tail ++ ["hal_tgids"]).map String.toList := rfl
  change _ ∉ (plainMembers toNum response).tail.map Prod.fst
  rw [hkeys]
  decide

theorem agrees_status (files : StatusFiles) (h : status = 200 ↔ response.result = .ok) :
    Agrees ⟨status, files.json toNum response⟩ := by
  refine ⟨_, (toNum response.result).toInt32.toInt,
    toList_statusJson _ fun _ => plain_readBinderCapabilityStatus,
    Json.get?_head ?_, (result_iff hnum _).trans h.symm⟩
  generalize (readOriginalIdFingerprint.eval Files.exec files.fingerprintScript
    files.fingerprint).1 = fingerprint
  generalize (readBinderCapabilityStatus.eval Files.exec files.capabilityScript
    files.capability).1 = capability
  have hkeys : (statusMembers toNum response fingerprint capability).tail.map Prod.fst =
      (responseNames.tail ++ ["hal_tgids", "device_fingerprint", "kernel_release",
        "binder_driver_backend", "binder_resolution_source", "binder_file_offset_source",
        "binder_ioctl_offset_source", "binder_capabilities", "binder_entry_fingerprint",
        "binder_entry_semantics", "binder_symbol_validations"]).map String.toList := by
    cases fingerprint <;> cases capability <;> rfl
  change _ ∉ (statusMembers toNum response fingerprint capability).tail.map Prod.fst
  rw [hkeys]
  decide

/-- An error with its stage. -/
theorem agrees_error {stage : String} (hstage : Plain stage.toList) (herr : err ≠ .ok)
    (h : status ≠ 200) : Agrees ⟨status, errorJson toNum err stage⟩ := by
  have htext : errorJson toNum err stage = jsonObject
      [("result", toString (toNum err).toInt), ("stage", jsonString stage)] := by
    apply String.toList_inj.1
    simp [errorJson, jsonObject, jsonFields, jsonField, jsonString]
  rw [htext]
  exact agrees_fields (.cons (.string (by decide) hstage) .nil) (by simp)
    (iff_of_false (error_ne_zero hnum herr) h)

/-- The answer where the daemon is on its way. -/
theorem agrees_starting (herr : err ≠ .ok) (daemonPid : Int) :
    Agrees ⟨425, "\x7b\"result\":" ++ toString (toNum err).toInt ++
      ",\"stage\":\"daemon-starting\",\"daemon_pid\":" ++ toString daemonPid ++ "\x7d"⟩ := by
  have htext : "\x7b\"result\":" ++ toString (toNum err).toInt ++
      ",\"stage\":\"daemon-starting\",\"daemon_pid\":" ++ toString daemonPid ++ "\x7d" =
      jsonObject [("result", toString (toNum err).toInt), ("stage", jsonString "daemon-starting"),
        ("daemon_pid", toString daemonPid)] := by
    apply String.toList_inj.1
    simp [jsonObject, jsonFields, jsonField, jsonString]
  rw [htext]
  exact agrees_fields (.cons (.string (by decide) (by decide)) (.cons (.int (by decide) _) .nil))
    (by simp) (iff_of_false (error_ne_zero hnum herr) (by decide))

end

end Answer

section
variable {mg : MgGetVar} {H H' : DrmidWebHandler} {cfg : ServerConfig} {toNum : ToNum}
  {S S' : ControlState} {post : Post}

theorem plain_newSessionToken (random : Option (Vector UInt8 16)) :
    Plain (DrmidWebHandler.tokenText (newSessionToken random)).toList := by
  refine plain_release fun ch hch => ?_
  have hdigit (n : UInt8) : isReleaseChar (hexDigit n) = true := by
    have hall : ∀ i : Fin 16, isReleaseChar kHex[i] = true := by decide
    exact hall ⟨n.toNat % 16, Nat.mod_lt _ (by decide)⟩
  cases random with
  | none => exact absurd hch List.not_mem_nil
  | some bytes =>
    rw [newSessionToken, List.mem_flatMap] at hch
    obtain ⟨b, -, hb⟩ := hch
    rcases List.mem_pair.1 hb with rfl | rfl <;> exact hdigit _

/-- What is answered before the routes that need a session. -/
theorem handlePost_agrees {path : String} {body : Bytes} {random : Option (Vector UInt8 16)}
    {now status : Nat} {json : String}
    (h : (H.handlePost mg path body random now).2 = .sent status json) :
    Answer.Agrees ⟨status, json⟩ := by
  have hsession : Answer.Agrees ⟨401, "\x7b\"result\":-1,\"stage\":\"session\"\x7d"⟩ :=
    ⟨[("result".toList, .int (-1)), ("stage".toList, .str "session".toList)], -1, by decide, rfl,
      by decide⟩
  have hserver : Answer.Agrees ⟨503, "\x7b\"result\":-1,\"stage\":\"server\"\x7d"⟩ :=
    ⟨[("result".toList, .int (-1)), ("stage".toList, .str "server".toList)], -1, by decide, rfl,
      by decide⟩
  have hrandom : Answer.Agrees ⟨500, "\x7b\"result\":-1,\"stage\":\"random\"\x7d"⟩ :=
    ⟨[("result".toList, .int (-1)), ("stage".toList, .str "random".toList)], -1, by decide, rfl,
      by decide⟩
  have hping : Answer.Agrees ⟨200, "\x7b\"result\":0,\"heartbeat_ms\":4000\x7d"⟩ :=
    ⟨[("result".toList, .int 0), ("heartbeat_ms".toList, .int 4000)], 0, by decide, rfl, by decide⟩
  have hclose : Answer.Agrees ⟨200, "\x7b\"result\":0,\"closed\":true\x7d"⟩ :=
    ⟨[("result".toList, .int 0), ("closed".toList, .bool true)], 0, by decide, rfl, by decide⟩
  have hopen (token : Bytes) (htoken : Plain (DrmidWebHandler.tokenText token).toList) :
      Answer.Agrees ⟨200, "\x7b\"result\":0,\"session_token\":\"" ++
        DrmidWebHandler.tokenText token ++ "\",\"heartbeat_ms\":4000\x7d"⟩ := by
    have htext : "\x7b\"result\":0,\"session_token\":\"" ++ DrmidWebHandler.tokenText token ++
        "\",\"heartbeat_ms\":4000\x7d" = jsonObject [("result", toString (0 : Int)),
          ("session_token", jsonString (DrmidWebHandler.tokenText token)),
          ("heartbeat_ms", toString (4000 : Nat))] := by
      have hzero : toString (0 : Int) = "0" := by decide
      have hbeat : toString (4000 : Nat) = "4000" := by decide
      rw [hzero, hbeat]
      apply String.toList_inj.1
      simp [jsonObject, jsonFields, jsonField, jsonString]
    rw [htext]
    exact Answer.agrees_fields
      (.cons (.string (by decide) htoken) (.cons (.nat (by decide) _) .nil)) (by simp) (by decide)
  unfold DrmidWebHandler.handlePost at h
  by_cases h₁ : path = "/api/session/open"
  · rw [if_pos h₁] at h
    unfold DrmidWebHandler.handleSessionOpen at h
    by_cases hready : (!H.ready || H.serverExiting) = true
    · rw [if_pos hready] at h
      cases h
      exact hserver
    rw [if_neg hready] at h
    by_cases hlen : (newSessionToken random).length = kSessionTokenHexBytes
    · rw [if_neg (not_not.2 hlen)] at h
      cases h
      exact hopen _ (plain_newSessionToken random)
    · rw [if_pos hlen] at h
      cases h
      exact hrandom
  rw [if_neg h₁] at h
  by_cases h₂ : path = "/api/session/ping"
  · rw [if_pos h₂] at h
    unfold DrmidWebHandler.handleSessionPing at h
    cases hauth : H.authenticateSession mg body now <;> rw [hauth] at h <;> cases h
    · exact hsession
    · exact hping
  rw [if_neg h₂] at h
  by_cases h₃ : path = "/api/session/close"
  · rw [if_pos h₃] at h
    unfold DrmidWebHandler.handleSessionClose at h
    cases hauth : H.authenticateSession mg body now <;> rw [hauth] at h <;> cases h
    · exact hsession
    · exact hclose
  rw [if_neg h₃] at h
  cases hauth : H.authenticateSession mg body now <;> rw [hauth] at h <;> cases h
  exact hsession

/-! ## Answers of the routes -/

/-- An answer whose error is one, or whose status says what the daemon's response says. -/
def ApplyReply.Sound : ApplyReply → Prop
  | .failed status err stage => status ≠ 200 ∧ err ≠ .ok ∧ Plain stage.toList
  | .response status answered => status = 200 ↔ answered.result = .ok

theorem send_error {operation : ControlIpcOperation} {ex : IpcExchange} {err : KModErr}
    (h : (sendControlIpcRequest cfg operation ex S).1 = .error err) : err ≠ .ok := by
  have hsocket : KModErr.errModuleSocket ≠ .ok := by decide
  unfold sendControlIpcRequest at h
  cases htransport : ex.transport with
  | refused =>
    rw [htransport] at h
    cases h
    exact hsocket
  | unanswered =>
    rw [htransport] at h
    cases h
    exact hsocket
  | answered =>
    rcases hserve : serveRequest cfg operation ex S with ⟨resp, S'⟩
    rw [htransport, hserve] at h
    cases resp with
    | none =>
      cases h
      exact hsocket
    | some response =>
      dsimp only at h
      split at h <;> cases h
      exact hsocket

/-- What a daemon's response is answered with. -/
theorem sound_response (response : ControlIpcResponse) :
    (ApplyReply.response (if response.result = .ok then 200 else 409) response).Sound := by
  by_cases h : response.result = .ok
  · rw [if_pos h]
    exact iff_of_true rfl h
  · rw [if_neg h]
    exact iff_of_false (by decide) h

theorem statusStage_sound (cfg : ServerConfig) (ex : IpcExchange) (S : ControlState) :
    match (statusStage cfg ex S).1 with
    | .error reply => reply.Sound
    | .ok current => current.result = .ok := by
  unfold statusStage
  rcases hsend : sendControlIpcRequest cfg .status ex S with ⟨res, S'⟩
  cases res with
  | error err => exact ⟨by decide, send_error (congrArg Prod.fst hsend), by decide⟩
  | ok current =>
    by_cases hresult : current.result = .ok
    · simp only [hresult, ne_eq, not_true_eq_false, if_false]
    · simp only [hresult, ne_eq, not_false_eq_true, if_true]
      exact iff_of_false (by decide) hresult

theorem chooseId_sound {form : ApplyForm} {req : ApplyRequest} {config : ReplacementConfig}
    {reply : ApplyReply} (h : chooseId form req config = .error reply) : reply.Sound := by
  unfold chooseId at h
  cases haction : form.action with
  | keep =>
    rw [haction] at h
    cases h
  | derive =>
    rw [haction] at h
    cases hprofile : req.profile with
    | error err =>
      rw [hprofile] at h
      cases h
      exact ⟨by decide, err.2, by decide⟩
    | ok profile =>
      rw [hprofile] at h
      cases h
  | random =>
    simp only [haction] at h
    split at h <;> cases h
    exact ⟨by decide, by decide, by decide⟩
  | custom =>
    simp only [haction] at h
    split at h <;> cases h
    exact ⟨by decide, by decide, by decide⟩

/-- The answers that end a request before it writes. -/
theorem prepareConfig_sound {form : ApplyForm} {req : ApplyRequest} {current : ControlIpcResponse}
    {persisted : ReplacementConfig} {reply : ApplyReply} (hcurrent : current.result = .ok)
    (h : prepareConfig form req current persisted = .error reply) : reply.Sound := by
  unfold prepareConfig at h
  cases hreq : requestedConfig form req persisted with
  | error reply' =>
    rw [hreq] at h
    cases h
    unfold requestedConfig at hreq
    split at hreq
    next hchoose =>
      cases hreq
      exact chooseId_sound hchoose
    next => cases hreq
  | ok config =>
    rw [hreq] at h
    dsimp only at h
    split at h
    · cases h
      exact iff_of_true rfl hcurrent
    · split at h <;> cases h
      exact ⟨by decide, by decide, by decide⟩

theorem controlOf_error {file : Option Bytes} {err : KModErr} (h : controlOf file = .error err) :
    err ≠ .ok := by
  unfold controlOf recordOf at h
  cases file with
  | none =>
    cases h
    decide
  | some content =>
    by_cases hlen : content.length = kRuntimeControlRecordBytes
    · simp only [hlen, if_true] at h
      split at h <;> cases h
      decide
    · simp only [hlen, if_false] at h
      cases h
      decide

theorem prepareStage_sound {form : ApplyForm} {req : ApplyRequest} {current : ControlIpcResponse}
    {reply : ApplyReply} (hcurrent : current.result = .ok)
    (h : (prepareStage form req current S).1 = .error reply) : reply.Sound := by
  obtain ⟨-, hread⟩ := read_files req.readScript S.files
  unfold prepareStage at h
  rcases hr : readRuntimeControlFile.eval FileSystem.exec req.readScript S.files with ⟨res, files⟩
  rw [hr] at h hread
  cases res with
  | ok persisted => exact prepareConfig_sound hcurrent h
  | error err =>
    cases h
    refine ⟨by decide, ?_, by decide⟩
    rcases hread with hread | hread
    · exact controlOf_error hread.symm
    · cases hread
      decide

theorem persistStage_sound {script : Nat → FsOutcome} {config : ReplacementConfig}
    {reply : ApplyReply} (h : (persistStage script config S).1 = some reply) : reply.Sound := by
  unfold persistStage at h
  rcases hw : (writeRuntimeControlFile config).eval FileSystem.exec script S.files with ⟨err, files⟩
  rw [hw] at h
  by_cases herr : err = .ok
  · simp only [herr, ne_eq, not_true_eq_false, if_false] at h
    cases h
  · simp only [herr, ne_eq, not_false_eq_true, if_true] at h
    cases h
    exact ⟨by decide, herr, by decide⟩

theorem applyStage_sound (cfg : ServerConfig) (ex : IpcExchange) (S : ControlState) :
    (applyStage cfg ex S).1.Sound := by
  unfold applyStage
  rcases hsend : sendControlIpcRequest cfg .apply ex S with ⟨res, S'⟩
  cases res with
  | error err => exact ⟨by decide, send_error (congrArg Prod.fst hsend), by decide⟩
  | ok applied => exact sound_response applied

theorem applyForm_sound (form : ApplyForm) (req : ApplyRequest) (S : ControlState) :
    (applyForm cfg form req S).1.Sound := by
  have hstatus := statusStage_sound cfg req.status S
  unfold applyForm
  rcases hs : statusStage cfg req.status S with ⟨res, S₁⟩
  rw [hs] at hstatus
  cases res with
  | error reply => exact hstatus
  | ok current =>
    rcases hp : prepareStage form req current S₁ with ⟨res, S₂⟩
    simp only [hp]
    cases res with
    | error reply => exact prepareStage_sound hstatus (congrArg Prod.fst hp)
    | ok config =>
      rcases hw : persistStage req.writeScript config S₂ with ⟨res, S₃⟩
      simp only [hw]
      cases res with
      | some reply => exact persistStage_sound (congrArg Prod.fst hw)
      | none => exact applyStage_sound cfg req.apply S₃

theorem handleApply_sound (H : DrmidWebHandler) (mg : MgGetVar) (cfg : ServerConfig)
    (req : ApplyRequest) (S : ControlState) : (H.handleApply mg cfg req S).1.Sound := by
  have herr : KModErr.errModuleParam ≠ .ok := by decide
  unfold DrmidWebHandler.handleApply
  split
  · exact ⟨by decide, herr, by decide⟩
  · split
    · exact ⟨by decide, herr, by decide⟩
    · split
      · exact ⟨by decide, herr, by decide⟩
      · exact applyForm_sound _ req S

end

namespace Answer

section
variable {toNum : ToNum} (cfg : ServerConfig)
  (hnum : ∀ err, (toNum err).toInt32 = 0 ↔ err = .ok)
include hnum

theorem agrees_apply (files : StatusFiles) {reply : ApplyReply} (h : reply.Sound) :
    Agrees (DrmidWebHandler.applyAnswer toNum files reply) := by
  cases reply with
  | failed status err stage => exact agrees_error hnum h.2.2 h.2.1 h.1
  | response status response =>
    show Agrees ⟨status, if status = 503 then controlResponseJson toNum response
      else files.json toNum response⟩
    by_cases h503 : status = 503
    · rw [if_pos h503]
      exact agrees_plain hnum h
    · rw [if_neg h503]
      exact agrees_status hnum files h

theorem agrees_handleStatus (H : DrmidWebHandler) (post : Post) (S : ControlState) :
    Agrees (H.handleStatus toNum cfg post S).1 := by
  unfold DrmidWebHandler.handleStatus
  split
  · exact agrees_error hnum (by decide) (by decide) (by decide)
  rcases hsend : sendControlIpcRequest cfg .status post.exchange S with ⟨res, S'⟩
  cases res with
  | error err =>
    have herr : err ≠ .ok := send_error (congrArg Prod.fst hsend)
    cases post.owner with
    | none => exact agrees_error hnum (by decide) herr (by decide)
    | some daemonPid => exact agrees_starting hnum herr daemonPid
  | ok response => exact agrees_status hnum post.files (sound_response response)

theorem agrees_handleStop (H : DrmidWebHandler) (post : Post) (S : ControlState) :
    Agrees (H.handleStop toNum cfg post S).1 := by
  unfold DrmidWebHandler.handleStop
  split
  · rcases hsend : sendControlIpcRequest cfg .stop post.exchange S with ⟨res, S'⟩
    cases res with
    | error err =>
      exact agrees_error hnum (by decide) (send_error (congrArg Prod.fst hsend)) (by decide)
    | ok response => exact agrees_plain hnum (sound_response response)
  · exact agrees_error hnum (by decide) (by decide) (by decide)

end
end Answer

/-- **The status and the text of an answer agree.** Whatever is posted to whichever path, whatever
the handler, the daemon and the files hold and becomes of every call, the text of the answer is a
JSON object whose `result` is zero exactly where the HTTP status is 200. -/
theorem web_answers_agree (mg : MgGetVar) (cfg : ServerConfig) {toNum : ToNum}
    (hnum : ∀ err, (toNum err).toInt32 = 0 ↔ err = .ok) (H : DrmidWebHandler) (post : Post)
    (S : ControlState) :
    ∃ ms n, Json.parse (H.answerPost toNum cfg mg post S).1.text.toList = some (.obj ms) ∧
      (Json.obj ms).get? "result".toList = some (.int n) ∧
      (n = 0 ↔ (H.answerPost toNum cfg mg post S).1.status = 200) := by
  suffices hagrees : (H.answerPost toNum cfg mg post S).1.Agrees by
    obtain ⟨ms, n, htext, hn⟩ := hagrees
    exact ⟨ms, n, by rw [htext, Json.parse_text], hn⟩
  have hroute : Answer.Agrees ⟨404, "\x7b\"result\":-1,\"stage\":\"route\"\x7d"⟩ :=
    ⟨[("result".toList, .int (-1)), ("stage".toList, .str "route".toList)], -1, by decide, rfl,
      by decide⟩
  unfold DrmidWebHandler.answerPost
  rcases hpost : H.handlePost mg post.path post.apply.body post.token post.now with ⟨H', reply⟩
  have hstatus := Answer.agrees_handleStatus cfg hnum H' post S
  have happly := Answer.agrees_apply hnum post.files (handleApply_sound H' mg cfg post.apply S)
  have hstop := Answer.agrees_handleStop cfg hnum H' post S
  cases reply with
  | sent status json => exact handlePost_agrees (congrArg Prod.snd hpost)
  | routed | none =>
    dsimp only
    generalize H'.handleStatus toNum cfg post S = status at hstatus ⊢
    generalize H'.handleApply mg cfg post.apply S = applied at happly ⊢
    generalize H'.handleStop toNum cfg post S = stopped at hstop ⊢
    split
    · exact hstatus
    split
    · exact happly
    split
    · exact hstop
    · exact hroute

/-- Numbers of the errors. -/
def sampleNum : ToNum := fun err => if err = .ok then 0 else -1

/-- A handler with an open session. -/
def sampleOpened : DrmidWebHandler :=
  { sampleHandler with sessionToken := List.replicate 32 48, sessionOpen := true }

/-- A request for the status, in a directory without records. -/
def samplePost : Post where
  path := "/api/status"
  now := 1000
  token := none
  exchange := .smooth
  apply := sampleRequest "session_token=00000000000000000000000000000000" .smooth
  owner := none
  files := ⟨fun _ => none, fun _ => .fails, fun _ => none, fun _ => .fails⟩

theorem sampleNum_eq_zero (err : KModErr) : (sampleNum err).toInt32 = 0 ↔ err = .ok := by
  unfold sampleNum
  by_cases h : err = .ok
  · rw [if_pos h]
    exact iff_of_true rfl h
  · rw [if_neg h]
    exact iff_of_false (by decide) h

theorem web_answers_agree_status :
    ∃ ms n, Json.parse (sampleOpened.answerPost sampleNum sampleDaemon plainVar samplePost
        sampleAgreed).1.text.toList = some (.obj ms) ∧
      (Json.obj ms).get? "result".toList = some (.int n) ∧
      (n = 0 ↔ (sampleOpened.answerPost sampleNum sampleDaemon plainVar samplePost
        sampleAgreed).1.status = 200) :=
  web_answers_agree plainVar sampleDaemon sampleNum_eq_zero sampleOpened samplePost
    sampleAgreed

end Drmid
