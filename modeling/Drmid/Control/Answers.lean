import Drmid.Control.Apply
import Drmid.Lib.Json
import Drmid.Storage.Capability
import Drmid.Storage.Fingerprint

/-!
# What the WebUI answers

The texts that `web_ui.cpp` and `control_ipc.cpp` answer requests with, and the routes that need a
session: `handle_status`, `handle_stop`, and `handle_apply` with the text of its answer.
`answerPost` is `handlePost` as a whole.

The SDK's `to_num` is a parameter. What `daemon_lock_owner_alive` finds is given with the request,
as are the outcomes of the file-system calls.
-/

namespace Drmid

open Lib

/-- `to_num`: the number of an error. -/
abbrev ToNum := KModErr → Int64

/-! ## Texts -/

/-- `"name":value`. -/
def jsonField (name value : String) : String := "\"" ++ name ++ "\":" ++ value

def jsonString (text : String) : String := "\"" ++ text ++ "\""

def jsonFields (fields : List (String × String)) : String :=
  String.intercalate "," (fields.map fun field => jsonField field.1 field.2)

/-- `%016" PRIx64`. -/
def hex16 (value : UInt64) : String :=
  String.ofList ((List.range 16).map fun i => Nat.digitChar (value.toNat / 16 ^ (15 - i) % 16))

/-- Bytes as characters. -/
def bytesText (bytes : Bytes) : String := String.ofList (bytes.map fun b => Char.ofNat b.toNat)

def HalMonitorBackend.word : HalMonitorBackend → UInt32
  | .waiting => 0
  | .pidfd => 1
  | .procfsFallback => 2

/-- The fields of `control_response_json` before its list of TGIDs. -/
def responseFields (toNum : ToNum) (response : ControlIpcResponse) : List (String × String) :=
  [("result", toString (toNum response.result).toInt32.toInt),
    ("daemon_pid", toString response.daemonPid.toNat),
    ("backend", jsonString "hal-outbound-binder-global"),
    ("active_calls", toString response.activeCalls.toNat),
    ("generation", toString response.configGeneration.toNat),
    ("seed_generation", toString response.seedGeneration.toNat),
    ("fingerprint", jsonString (hex16 response.profileFingerprint)),
    ("switches", toString response.switches.toNat),
    ("rejections", toString response.rejections.toNat),
    ("server_request_hits", toString response.serverRequestHits.toNat),
    ("correlated_reply_candidates", toString response.correlatedReplyCandidates.toNat),
    ("replacement_candidates", toString response.replacementCandidates.toNat),
    ("dry_run_hits", toString response.replacementDryRunHits.toNat),
    ("write_ok", toString response.replacementWriteOk.toNat),
    ("write_faults", toString response.replacementWriteFaults.toNat),
    ("hal_identity_generation", toString response.halIdentityGeneration.toNat),
    ("hal_identity_switches", toString response.halIdentitySwitches.toNat),
    ("hal_gate_hits", toString response.halGateHits.toNat),
    ("hal_state", toString response.halState.toNat),
    ("hal_count", toString response.halCount.toNat),
    ("hal_monitor_backend", toString response.halMonitorBackend.word.toNat),
    ("hal_monitor_wakeups", toString response.halMonitorWakeups.toNat),
    ("slot", toString response.activeSlot.toNat),
    ("mode", toString response.replacementMode.toNat),
    ("length", toString response.virtualIdLength.toNat)]

/-- The size of `text`. -/
def kControlResponseTextBytes : Nat := 2048

/-- What `snprintf` leaves in a buffer of `size` bytes. -/
def snprintfText (size : Nat) (text : String) : String :=
  String.ofList (text.toList.take (size - 1))

/-- The TGIDs that are listed. -/
def ControlIpcResponse.listedTgids (response : ControlIpcResponse) : List UInt32 :=
  response.halTgids.toList.take (if response.halCount ≤ 4 then response.halCount.toNat else 0)

def controlResponseJson (toNum : ToNum) (response : ControlIpcResponse) : String :=
  snprintfText kControlResponseTextBytes
      ("\x7b" ++ jsonFields (responseFields toNum response) ++ ",\"hal_tgids\":[") ++
    String.intercalate "," (response.listedTgids.map fun tgid => toString tgid.toNat) ++ "]\x7d"

def errorJson (toNum : ToNum) (err : KModErr) (stage : String) : String :=
  "\x7b\"result\":" ++ toString (toNum err).toInt ++ ",\"stage\":\"" ++ stage ++ "\"\x7d"

def binderBackendName : BinderBackend → String
  | .classic => "classic"
  | .rust => "rust"
  | .unknown => "unknown"

def binderOffsetSourceName : BinderOffsetSource → String
  | .sdk => "sdk"
  | .symbolScan => "symbol-scan"
  | .unknown => "unknown"

/-- The fields that `status_json` adds of the fingerprint record. -/
def fingerprintFields (fingerprint : Except KModErr UInt64) : List (String × String) :=
  match fingerprint with
  | .ok deviceFingerprint =>
    [("device_fingerprint",
      jsonString (if deviceFingerprint ≠ 0 then hex16 deviceFingerprint else ""))]
  | .error _ => [("device_fingerprint", jsonString "")]

/-- The fields that `status_json` adds of the capability record. -/
def capabilityFields (capability : Except KModErr BinderCapabilityStatus) :
    List (String × String) :=
  match capability with
  | .ok status =>
    let symbolScan := status.fileFOpSource == .symbolScan ||
      status.fopsUnlockedIoctlSource == .symbolScan
    [("kernel_release", jsonString (bytesText status.kernelRelease)),
      ("binder_driver_backend", jsonString (binderBackendName status.backend)),
      ("binder_resolution_source",
        jsonString (if symbolScan then "fd+sdk+symbol-scan" else "fd+sdk+symbol-check")),
      ("binder_file_offset_source", jsonString (binderOffsetSourceName status.fileFOpSource)),
      ("binder_ioctl_offset_source",
        jsonString (binderOffsetSourceName status.fopsUnlockedIoctlSource)),
      ("binder_capabilities", jsonString (hex16 status.capabilities)),
      ("binder_entry_fingerprint", jsonString (hex16 status.entryFingerprint)),
      ("binder_entry_semantics", toString status.entrySemantics.toNat),
      ("binder_symbol_validations", toString status.symbolValidations.toNat)]
  | .error _ =>
    [("kernel_release", jsonString ""), ("binder_driver_backend", jsonString "unknown"),
      ("binder_resolution_source", jsonString "unavailable"),
      ("binder_file_offset_source", jsonString "unknown"),
      ("binder_ioctl_offset_source", jsonString "unknown"),
      ("binder_capabilities", jsonString "0000000000000000"),
      ("binder_entry_fingerprint", jsonString ""), ("binder_entry_semantics", "0"),
      ("binder_symbol_validations", "0")]

/-- `pop_back` of a closing brace. -/
def popBrace (json : String) : String :=
  if json.toList.getLast? = some '\x7d' then String.ofList json.toList.dropLast else json

def statusJson (toNum : ToNum) (response : ControlIpcResponse) (fingerprint : Except KModErr UInt64)
    (capability : Except KModErr BinderCapabilityStatus) : String :=
  popBrace (controlResponseJson toNum response) ++ "," ++
    jsonFields (fingerprintFields fingerprint) ++ "," ++
    jsonFields (capabilityFields capability) ++ "\x7d"

/-! ## Routes -/

/-- The files that a status is read from, with the outcomes of the calls that read them. -/
structure StatusFiles where
  fingerprint : Files.Store FingerprintFile
  fingerprintScript : Nat → Files.Outcome
  capability : Files.Store CapabilityFile
  capabilityScript : Nat → Files.Outcome

/-- `status_json` of these files. -/
def StatusFiles.json (files : StatusFiles) (toNum : ToNum) (response : ControlIpcResponse) :
    String :=
  statusJson toNum response
    (readOriginalIdFingerprint.eval Files.exec files.fingerprintScript files.fingerprint).1
    (readBinderCapabilityStatus.eval Files.exec files.capabilityScript files.capability).1

/-- A request and what it meets. `owner` is the pid that `daemon_lock_owner_alive` finds. -/
structure Post where
  path : String
  now : Nat
  token : Option (Vector UInt8 16)
  exchange : IpcExchange
  apply : ApplyRequest
  owner : Option Int
  files : StatusFiles

/-- The HTTP status and the text of an answer. -/
structure Answer where
  status : Nat
  text : String
  deriving DecidableEq, Repr

namespace DrmidWebHandler

variable (H : DrmidWebHandler) (toNum : ToNum) (cfg : ServerConfig)

def handleStatus (post : Post) (S : ControlState) : Answer × ControlState :=
  if !H.ready then (⟨500, errorJson toNum .errModuleParam "prepare"⟩, S)
  else match sendControlIpcRequest cfg .status post.exchange S with
    | (.error err, S) =>
      match post.owner with
      | some daemonPid =>
        (⟨425, "\x7b\"result\":" ++ toString (toNum err).toInt ++
          ",\"stage\":\"daemon-starting\",\"daemon_pid\":" ++ toString daemonPid ++ "\x7d"⟩, S)
      | none => (⟨503, errorJson toNum err "status-connect"⟩, S)
    | (.ok response, S) =>
      (⟨if response.result = .ok then 200 else 409, post.files.json toNum response⟩, S)

def handleStop (post : Post) (S : ControlState) : Answer × ControlState :=
  if H.ready then
    match sendControlIpcRequest cfg .stop post.exchange S with
    | (.error err, S) => (⟨503, errorJson toNum err "stop-connect"⟩, S)
    | (.ok response, S) =>
      (⟨if response.result = .ok then 200 else 409, controlResponseJson toNum response⟩, S)
  else (⟨503, errorJson toNum .errModuleParam "stop-connect"⟩, S)

/-- The text of an answer of `handle_apply`: of a daemon's response, the plain one where the daemon
could not say its status, and the status text else. -/
def applyAnswer (files : StatusFiles) : ApplyReply → Answer
  | .failed status err stage => ⟨status, errorJson toNum err stage⟩
  | .response status response =>
    ⟨status, if status = 503 then controlResponseJson toNum response
      else files.json toNum response⟩

/-- `handlePost`. -/
def answerPost (mg : MgGetVar) (post : Post) (S : ControlState) :
    Answer × DrmidWebHandler × ControlState :=
  match H.handlePost mg post.path post.apply.body post.token post.now with
  | (H, .sent status json) => (⟨status, json⟩, H, S)
  | (H, _) =>
    if post.path = "/api/status" then
      let (answer, S) := H.handleStatus toNum cfg post S
      (answer, H, S)
    else if post.path = "/api/apply" then
      let (reply, S) := H.handleApply mg cfg post.apply S
      (applyAnswer toNum post.files reply, H, S)
    else if post.path = "/api/stop" then
      let (answer, S) := H.handleStop toNum cfg post S
      (answer, H, S)
    else (⟨404, "\x7b\"result\":-1,\"stage\":\"route\"\x7d"⟩, H, S)

end DrmidWebHandler
end Drmid
