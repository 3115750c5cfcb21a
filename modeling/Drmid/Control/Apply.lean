import Drmid.Control.Server
import Drmid.Control.Session
import Drmid.Storage.RuntimeControl
import Drmid.Storage.RuntimeProfile

/-!
# Applying a config from the WebUI

`DrmidWebHandler::handle_apply` of `web_ui.cpp` with `send_control_ipc_request`: the form of a
request, the exchange that asks the daemon for its status, the control file read and written, and
the exchange that makes the daemon apply it. The daemon's part of an exchange is a client pass of
its server. The function is cut into the stages that touch something shared, so that clients can
also be run one stage at a time (`Clients`).

What a request meets is in its `ApplyRequest`: the body, the two exchanges with everything in them
that may fail, the outcomes of the file-system calls, and what the seed profile and the random
source deliver. Of an answer the model keeps the HTTP status and what its text is made from.
-/

namespace Drmid

open Lib

/-! ## Exchanges with the daemon -/

/-- What becomes of a request on the socket: it is answered, it never arrives, or it is served and
its response is lost. -/
inductive Transport
  | answered | refused | unanswered
  deriving DecidableEq, Repr

/-- One exchange: the socket, and what the daemon meets while it serves the request. -/
structure IpcExchange where
  transport : Transport
  requestId : UInt64
  controlScript : Nat → FsOutcome
  read : Option KModFailure
  publish : KernelFaults RuntimeConfigSlot
  rejection : CounterFaults
  snapshot : Option KModFailure

/-- The files and the daemon. -/
structure ControlState where
  files : FileSystem
  server : Server

/-- The `uint32_t` of an operation. -/
def ControlIpcOperation.word : ControlIpcOperation → UInt32
  | .status => 1
  | .apply => 2
  | .stop => 3

/-- The request that `send_control_ipc_request` sends. -/
def controlRequest (operation : ControlIpcOperation) (requestId : UInt64) : ControlIpcRequest :=
  let request : ControlIpcRequest :=
    { magic := kControlIpcMagic
      version := kControlIpcVersion
      operation := operation.word
      requestId := requestId
      crc32 := 0
      reserved := 0 }
  { request with crc32 := crc32 request.covered }

/-- An error of a function as a failure; `OK` is none. -/
def asFailure {α : Type} : Except KModErr α → Except KModFailure α
  | .ok a => .ok a
  | .error err => .error (if h : err ≠ .ok then ⟨err, h⟩ else ⟨.errModuleStorageRead, by decide⟩)

/-- The daemon serves a request: the response it sends. Only an apply reads the control file. -/
def serveRequest (cfg : ServerConfig) (operation : ControlIpcOperation) (ex : IpcExchange)
    (S : ControlState) : Option ControlIpcResponse × ControlState :=
  let (file, files) := readRuntimeControlFile.eval FileSystem.exec ex.controlScript S.files
  let server := S.server.clientPass cfg (.accepted (some (controlRequest operation ex.requestId))
    ⟨asFailure file, ex.read, ex.publish, ex.rejection⟩ ex.snapshot)
  (server.sent.getLast?, ⟨if operation = .apply then files else S.files, server⟩)

def sendControlIpcRequest (cfg : ServerConfig) (operation : ControlIpcOperation) (ex : IpcExchange)
    (S : ControlState) : Except KModErr ControlIpcResponse × ControlState :=
  match ex.transport with
  | .refused => (.error .errModuleSocket, S)
  | .unanswered => (.error .errModuleSocket, (serveRequest cfg operation ex S).2)
  | .answered =>
    match serveRequest cfg operation ex S with
    | (none, S) => (.error .errModuleSocket, S)
    | (some response, S) =>
      if response.magic ≠ kControlIpcMagic ∨ response.version ≠ kControlIpcVersion ∨
          response.requestId ≠ ex.requestId then (.error .errModuleSocket, S)
      else (.ok response, S)

/-! ## The form -/

/-- `id_action`. -/
inductive IdAction
  | keep | derive | random | custom
  deriving DecidableEq, Repr

structure ApplyForm where
  mode : UInt32
  action : IdAction
  idHex : Bytes
  deriving DecidableEq, Repr

def parseMode (mode : Bytes) : Option UInt32 :=
  if mode = ascii "write" then some kWriteTest
  else if mode = ascii "dry" then some kDryRun
  else none

def parseIdAction (idAction : Bytes) : Option IdAction :=
  if idAction = ascii "keep" then some .keep
  else if idAction = ascii "derive" then some .derive
  else if idAction = ascii "random" then some .random
  else if idAction = ascii "custom" then some .custom
  else none

/-- `kWidevineIdBytes`. -/
def kWidevineIdBytes : Nat := kWidevineDeviceUniqueIdBytes.toNat

def parseApplyForm (mg : MgGetVar) (body : Bytes) : Option ApplyForm := do
  let mode ← formValue mg body "mode" 8
  let idAction ← formValue mg body "id_action" 8
  let idHex ← formValue mg body "id_hex" (kWidevineIdBytes * 2)
  return ⟨← parseMode mode, ← parseIdAction idAction, idHex⟩

def hexNibble (ch : UInt8) : Option UInt8 :=
  if 48 ≤ ch ∧ ch ≤ 57 then some (ch - 48)
  else if 97 ≤ ch ∧ ch ≤ 102 then some (ch - 97 + 10)
  else if 65 ≤ ch ∧ ch ≤ 70 then some (ch - 65 + 10)
  else none

def decodeVirtualId (text : Bytes) : Option (Vector UInt8 64) :=
  if text.length ≠ kWidevineIdBytes * 2 then none
  else do
    let nibbles ← text.mapM hexNibble
    return .ofFn fun i =>
      if i.val < kWidevineIdBytes then
        (nibbles.getD (i.val * 2) 0 <<< 4) ||| nibbles.getD (i.val * 2 + 1) 0
      else 0

/-- `fill_random_id`, `random` being what was read from the random source, if it could be. -/
def fillRandomId (random : Option (Vector UInt8 32)) : Option (Vector UInt8 64) :=
  random.map fun bytes => .ofFn fun i => bytes.toList.getD i.val 0

/-- A request and what it meets. -/
structure ApplyRequest where
  body : Bytes
  status : IpcExchange
  readScript : Nat → FsOutcome
  profile : Except KModFailure RuntimeProfile
  random : Option (Vector UInt8 32)
  writeScript : Nat → FsOutcome
  apply : IpcExchange

/-! ## Stages -/

/-- An answer: an error with its stage, or a text made from a response. -/
inductive ApplyReply
  | failed (status : Nat) (err : KModErr) (stage : String)
  | response (status : Nat) (response : ControlIpcResponse)
  deriving DecidableEq, Repr

def ApplyReply.status : ApplyReply → Nat
  | .failed status _ _ | .response status _ => status

def statusStage (cfg : ServerConfig) (ex : IpcExchange) (S : ControlState) :
    Except ApplyReply ControlIpcResponse × ControlState :=
  match sendControlIpcRequest cfg .status ex S with
  | (.error err, S) => (.error (.failed 503 err "status-connect"), S)
  | (.ok current, S) =>
    if current.result ≠ .ok then (.error (.response 503 current), S) else (.ok current, S)

/-- The ID that the form asks for. -/
def chooseId (form : ApplyForm) (req : ApplyRequest) (config : ReplacementConfig) :
    Except ApplyReply ReplacementConfig :=
  match form.action with
  | .keep => .ok config
  | .derive =>
    match req.profile with
    | .error err => .error (.failed 500 err "profile")
    | .ok profile =>
      .ok { config with
        virtualId := profile.virtualStream
        seedGeneration := profile.seedGeneration }
  | .random =>
    match fillRandomId req.random with
    | none => .error (.failed 500 .errModuleStorageRead "random")
    | some id => .ok { config with virtualId := id }
  | .custom =>
    match decodeVirtualId form.idHex with
    | none => .error (.failed 422 .errModuleParam "id-hex")
    | some id => .ok { config with virtualId := id }

/-- The config that the form asks for, with the generation of the control file. -/
def requestedConfig (form : ApplyForm) (req : ApplyRequest) (persisted : ReplacementConfig) :
    Except ApplyReply ReplacementConfig :=
  match chooseId form req
      { persisted with mode := form.mode, virtualIdLength := kWidevineDeviceUniqueIdBytes } with
  | .error reply => .error reply
  | .ok config => .ok { config with profileFingerprint := virtualIdFingerprint config.idBytes }

/-- `no_op`. -/
def isNoOp (current : ControlIpcResponse) (config : ReplacementConfig) : Bool :=
  current.replacementMode == config.mode &&
    current.profileFingerprint == config.profileFingerprint &&
    current.virtualIdLength == config.virtualIdLength

/-- The config that is to be written, or the answer that ends the request before. -/
def prepareConfig (form : ApplyForm) (req : ApplyRequest) (current : ControlIpcResponse)
    (persisted : ReplacementConfig) : Except ApplyReply ReplacementConfig :=
  match requestedConfig form req persisted with
  | .error reply => .error reply
  | .ok config =>
    if isNoOp current config then .error (.response 200 current)
    else if current.configGeneration = 0xffffffffffffffff then
      .error (.failed 409 .errModuleParam "generation")
    else .ok { config with configGeneration := current.configGeneration + 1 }

def prepareStage (form : ApplyForm) (req : ApplyRequest) (current : ControlIpcResponse)
    (S : ControlState) : Except ApplyReply ReplacementConfig × ControlState :=
  let (persisted, files) := readRuntimeControlFile.eval FileSystem.exec req.readScript S.files
  let S := { S with files := files }
  match persisted with
  | .error err => (.error (.failed 409 err "control-read"), S)
  | .ok persisted => (prepareConfig form req current persisted, S)

def persistStage (script : Nat → FsOutcome) (config : ReplacementConfig) (S : ControlState) :
    Option ApplyReply × ControlState :=
  let (err, files) := (writeRuntimeControlFile config).eval FileSystem.exec script S.files
  (if err ≠ .ok then some (.failed 500 err "persist") else none, { S with files := files })

def applyStage (cfg : ServerConfig) (ex : IpcExchange) (S : ControlState) :
    ApplyReply × ControlState :=
  match sendControlIpcRequest cfg .apply ex S with
  | (.error err, S) => (.failed 503 err "apply-connect", S)
  | (.ok applied, S) => (.response (if applied.result = .ok then 200 else 409) applied, S)

/-! ## The request -/

/-- The part of `handle_apply` that holds the handler's lock. -/
def applyForm (cfg : ServerConfig) (form : ApplyForm) (req : ApplyRequest) (S : ControlState) :
    ApplyReply × ControlState :=
  match statusStage cfg req.status S with
  | (.error reply, S) => (reply, S)
  | (.ok current, S) =>
    match prepareStage form req current S with
    | (.error reply, S) => (reply, S)
    | (.ok config, S) =>
      match persistStage req.writeScript config S with
      | (some reply, S) => (reply, S)
      | (none, S) => applyStage cfg req.apply S

def DrmidWebHandler.handleApply (H : DrmidWebHandler) (mg : MgGetVar) (cfg : ServerConfig)
    (req : ApplyRequest) (S : ControlState) : ApplyReply × ControlState :=
  if 4096 < req.body.length then (.failed 413 .errModuleParam "body-size", S)
  else match parseApplyForm mg req.body with
    | none => (.failed 422 .errModuleParam "form", S)
    | some form =>
      if !H.ready then (.failed 500 .errModuleParam "prepare", S) else applyForm cfg form req S

/-- The files and the daemon after a request. -/
def DrmidWebHandler.applyStep (H : DrmidWebHandler) (mg : MgGetVar) (cfg : ServerConfig)
    (S : ControlState) (req : ApplyRequest) : ControlState :=
  (H.handleApply mg cfg req S).2

/-! ## File and kernel -/

namespace RuntimeConfigSlot

/-- The `virtual_id_length` bytes of a slot's ID. -/
def idBytes (slot : RuntimeConfigSlot) : Bytes :=
  slot.virtualId.toList.take slot.virtualIdLength.toNat

/-- The slot has what the no-op test compares. -/
def Shows (slot : RuntimeConfigSlot) (config : ReplacementConfig) : Prop :=
  slot.replacementMode = config.mode ∧ slot.profileFingerprint = config.profileFingerprint ∧
    slot.virtualIdLength = config.virtualIdLength

/-- At most the mode and the generation have changed. -/
def Keeps (after before : RuntimeConfigSlot) : Prop :=
  after = { before with
    replacementMode := after.replacementMode
    configGeneration := after.configGeneration }

end RuntimeConfigSlot

namespace ControlState

/-- The config that is active in the kernel. -/
def active (S : ControlState) : RuntimeConfigSlot := S.server.daemon.ctx.activeConfig

/-- What the control file holds. -/
def control (S : ControlState) : Except KModErr ReplacementConfig := controlOf (S.files .controlV3)

/-- The control file and the kernel have the same mode and ID. -/
def Agrees (S : ControlState) : Prop :=
  ∃ config, S.control = .ok config ∧ config.mode = S.active.replacementMode ∧
    config.idBytes = S.active.idBytes

/-- The generation of the control file is the active one. -/
def Published (S : ControlState) : Prop :=
  ∃ config, S.control = .ok config ∧ config.configGeneration = S.active.configGeneration

/-- The ID of the control file is the active one, with the active seed generation, fingerprint and
length. -/
def HoldsActiveId (S : ControlState) : Prop :=
  ∃ config, S.control = .ok config ∧ config.virtualId = S.active.virtualId ∧
    config.seedGeneration = S.active.seedGeneration ∧
    virtualIdFingerprint config.idBytes = S.active.profileFingerprint ∧
    S.active.virtualIdLength = kWidevineDeviceUniqueIdBytes

/-- The request asks for what the kernel shows already. -/
def AsksNoOp (mg : MgGetVar) (S : ControlState) (req : ApplyRequest) : Prop :=
  ∃ form persisted config, parseApplyForm mg req.body = some form ∧ S.control = .ok persisted ∧
    requestedConfig form req persisted = .ok config ∧ S.active.Shows config

end ControlState

/-- The request has `id_action=keep`. -/
def ApplyRequest.Keep (mg : MgGetVar) (req : ApplyRequest) : Prop :=
  ∃ form, parseApplyForm mg req.body = some form ∧ form.action = .keep

/-! ## Apply and restart -/

/-- The daemon has accepted the control file with this content and made it the active config. -/
def Applied (cfg : ServerConfig) (ex : IpcExchange) (S : ControlState) (content : Bytes) : Prop :=
  S.files .controlV3 = some content ∧
    (∃ response, (serveRequest cfg .apply ex S).1 = some response ∧ response.result = .ok) ∧
    ∃ config, controlOf (some content) = .ok config ∧
      (serveRequest cfg .apply ex S).2.active = .ofConfig config

/-- A start of the daemon on these files, with these outcomes of its calls, installs the slot as the
active config. -/
def StartsWith (initial : ReplacementConfig) (identities : HalIdentityConfig)
    (script : Nat → FsOutcome) (files : FileSystem) (slot : RuntimeConfigSlot) : Prop :=
  ∃ config ctx, ((restoreRuntimeControl initial).eval FileSystem.exec script files).1 = .ok config ∧
    installReadonlyParserHook config identities = some ctx ∧ ctx.activeConfig = slot

/-- The same config, up to the seed generation. -/
structure RuntimeConfigSlot.Restates (slot active : RuntimeConfigSlot) : Prop where
  mode : slot.replacementMode = active.replacementMode
  id : slot.idBytes = active.idBytes
  generation : slot.configGeneration = active.configGeneration
  fingerprint : slot.profileFingerprint = active.profileFingerprint
  length : slot.virtualIdLength = active.virtualIdLength

/-- What a response says of the active config. -/
def ControlIpcResponse.Shows (response : ControlIpcResponse) (slot : RuntimeConfigSlot) : Prop :=
  response.configGeneration = slot.configGeneration ∧
    response.replacementMode = slot.replacementMode ∧
    response.profileFingerprint = slot.profileFingerprint ∧
    response.virtualIdLength = slot.virtualIdLength

/-- The answer is a 200 that reports the slot. -/
def ApplyReply.Reports (reply : ApplyReply) (slot : RuntimeConfigSlot) : Prop :=
  ∃ response, reply = .response 200 response ∧ response.Shows slot

namespace ControlState

/-- The fingerprints of the control file and of the kernel are the ones of their IDs. -/
def Labelled (S : ControlState) : Prop :=
  (∃ config, S.control = .ok config ∧
    virtualIdFingerprint config.idBytes = config.profileFingerprint) ∧
  virtualIdFingerprint S.active.idBytes = S.active.profileFingerprint

/-- A start of the daemon, of whose calls none fails, installs the config that is active now. -/
def RestoredAtStart (S : ControlState) : Prop :=
  ∀ (initial : ReplacementConfig) (identities : HalIdentityConfig) (script : Nat → FsOutcome),
    validateHalIdentities identities = true → (∀ n, script n ≠ .fails) →
      ∃ slot, StartsWith initial identities script S.files slot ∧ slot.Restates S.active

end ControlState

/-- What a 200 promises: the control file and the kernel agree, and the config that the answer
reports is the one that a start restores. -/
def DrmidWebHandler.KeepsPromise (H : DrmidWebHandler) (mg : MgGetVar) (cfg : ServerConfig)
    (S : ControlState) (req : ApplyRequest) : Prop :=
  (H.handleApply mg cfg req S).1.status = 200 →
    (H.applyStep mg cfg S req).Agrees ∧
      (H.handleApply mg cfg req S).1.Reports (H.applyStep mg cfg S req).active ∧
      (H.applyStep mg cfg S req).RestoredAtStart

end Drmid
