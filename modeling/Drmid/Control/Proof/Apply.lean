import Drmid.Control.Apply
import Drmid.Control.Proof.Server
import Drmid.Storage.Proof.Upgrade

/-!
# Applying a config: file and kernel
-/

namespace Drmid

open Lib

/-! ## Exchanges -/

theorem validateRequest_controlRequest (operation : ControlIpcOperation) (requestId : UInt64) :
    validateRequest (controlRequest operation requestId) = some operation := by
  have hvalid : (controlRequest operation requestId).crc32 =
      crc32 (controlRequest operation requestId).covered := rfl
  unfold validateRequest
  rw [if_pos ⟨rfl, rfl, rfl, hvalid⟩]
  cases operation <;> rfl

/-- The configs of control files have IDs of 32 bytes and nothing behind them. -/
theorem controlOf_shape {file : Option Bytes} {config : ReplacementConfig}
    (h : controlOf file = .ok config) :
    config.virtualIdLength = kWidevineDeviceUniqueIdBytes ∧ config.trim = config ∧
      validateConfig config = true := by
  obtain ⟨content, -, -, hvalid, rfl⟩ := controlOf_eq_ok h
  have hconfig := validateConfig_fillConfigFromV3 hvalid
  refine ⟨?_, fillConfigFromV3_trim _, hconfig⟩
  simp only [validateConfig, Bool.and_eq_true, beq_iff_eq] at hconfig
  exact hconfig.2

/-- What the daemon answers when the operation has returned `result` and left `ctx`. -/
def answered (cfg : ServerConfig) (ex : IpcExchange) (monitor : HalMonitorState) (result : KModErr)
    (ctx : KernelCounterContext) : ControlIpcResponse :=
  let result := match readCounterSnapshot cfg.session ex.snapshot ctx with
    | .error err => if result = .ok then err else result
    | .ok _ => result
  fillResponse (snapshotContents cfg.session ex.snapshot ctx) cfg.pid ex.requestId result monitor

/-- The daemon's own response passes the checks of its client. -/
theorem answered_checks (cfg : ServerConfig) (ex : IpcExchange) (monitor : HalMonitorState)
    (result : KModErr) (ctx : KernelCounterContext) :
    ¬((answered cfg ex monitor result ctx).magic ≠ kControlIpcMagic ∨
      (answered cfg ex monitor result ctx).version ≠ kControlIpcVersion ∨
      (answered cfg ex monitor result ctx).requestId ≠ ex.requestId) := by
  simp [answered, fillResponse]

theorem snapshotContents_of_ok {session : CounterHookSession} {fault : Option KModFailure}
    {ctx snapshot : KernelCounterContext} (h : readCounterSnapshot session fault ctx = .ok snapshot) :
    snapshotContents session fault ctx = ctx := by
  have hs := (readCounterSnapshot_eq_ok h).1
  have hfault : fault.isSome = false := by
    cases fault with
    | none => rfl
    | some f =>
      rw [readCounterSnapshot, if_neg hs] at h
      cases h
  rw [snapshotContents, if_neg (by simp [hs, hfault])]

/-- A response that reports success was filled from the context. -/
theorem answered_ok {cfg : ServerConfig} {ex : IpcExchange} {monitor : HalMonitorState}
    {result : KModErr} {ctx : KernelCounterContext}
    (h : (answered cfg ex monitor result ctx).result = .ok) :
    result = .ok ∧ answered cfg ex monitor result ctx =
      fillResponse ctx cfg.pid ex.requestId .ok monitor := by
  cases hsnap : readCounterSnapshot cfg.session ex.snapshot ctx with
  | error err =>
    have herr := readCounterSnapshot_ne_ok hsnap
    simp only [answered, hsnap, fillResponse] at h
    split at h
    · exact absurd h herr
    · contradiction
  | ok snapshot =>
    simp only [answered, hsnap, fillResponse] at h
    subst h
    refine ⟨rfl, ?_⟩
    simp only [answered, hsnap, snapshotContents_of_ok hsnap]

section
variable {cfg : ServerConfig} {ex : IpcExchange} {S : ControlState}

/-- The event of an apply. -/
def IpcExchange.applyEvent (ex : IpcExchange) (S : ControlState) : ApplyEvent :=
  ⟨asFailure (readRuntimeControlFile.eval FileSystem.exec ex.controlScript S.files).1, ex.read,
    ex.publish, ex.rejection⟩

theorem read_files (script : Nat → FsOutcome) (files : FileSystem) :
    (readRuntimeControlFile.eval FileSystem.exec script files).2 = files ∧
      ((readRuntimeControlFile.eval FileSystem.exec script files).1 = controlOf (files .controlV3) ∨
        (readRuntimeControlFile.eval FileSystem.exec script files).1 =
          .error .errModuleStorageRead) := by
  have hsafe : readRuntimeControlFile.Safe FileSystem.exec (fun _ => True) (fun _ => True) _ files :=
    safe_readRuntimeControlFile trivial
  have h := hsafe.eval script fun _ => trivial
  exact ⟨h.1, h.2.imp_right And.right⟩

theorem control_of_applyEvent {config : ReplacementConfig}
    (h : (ex.applyEvent S).file = .ok config) : S.control = .ok config := by
  unfold IpcExchange.applyEvent at h
  cases hread : (readRuntimeControlFile.eval FileSystem.exec ex.controlScript S.files).1 with
  | error err =>
    simp only [hread, asFailure] at h
    cases h
  | ok c =>
    simp only [hread, asFailure, Except.ok.injEq] at h
    subst h
    rcases (read_files ex.controlScript S.files).2 with hr | hr
    · exact hr.symm.trans hread
    · rw [hread] at hr
      cases hr

/-- The daemon's part of an exchange. -/
theorem serveRequest_eq (cfg : ServerConfig) (operation : ControlIpcOperation) (ex : IpcExchange)
    (S : ControlState) :
    let r := handleOperation cfg.session (some operation) (ex.applyEvent S) S.server.daemon.ctx
    (serveRequest cfg operation ex S).1 =
        some (answered cfg ex S.server.daemon.monitor r.1 r.2) ∧
      (serveRequest cfg operation ex S).2.files = S.files ∧
      (serveRequest cfg operation ex S).2.server.daemon.ctx = r.2 := by
  intro r
  have hop : (some (controlRequest operation ex.requestId)).bind validateRequest =
      some operation := validateRequest_controlRequest operation ex.requestId
  refine ⟨?_, ?_, ?_⟩
  · simp only [serveRequest, Server.clientPass, hop, List.getLast?_concat]
    rfl
  · simp only [serveRequest, (read_files ex.controlScript S.files).1, ite_self]
  · simp only [serveRequest, Server.clientPass, hop]
    rfl

/-- What an exchange leaves, and what it returns when it reports success. -/
theorem send_spec (cfg : ServerConfig) (operation : ControlIpcOperation) (ex : IpcExchange)
    (S : ControlState) :
    let r := handleOperation cfg.session (some operation) (ex.applyEvent S) S.server.daemon.ctx
    let res := sendControlIpcRequest cfg operation ex S
    res.2.files = S.files ∧
      (res.2.server.daemon.ctx = S.server.daemon.ctx ∨ res.2.server.daemon.ctx = r.2) ∧
      (∀ response, res.1 = .ok response → response.result = .ok →
        res.2.server.daemon.ctx = r.2 ∧ r.1 = .ok ∧
          response = fillResponse r.2 cfg.pid ex.requestId .ok S.server.daemon.monitor) := by
  intro r res
  obtain ⟨hresp, hfiles, hctx⟩ := serveRequest_eq cfg operation ex S
  simp only [res, sendControlIpcRequest]
  cases ex.transport with
  | refused => exact ⟨rfl, .inl rfl, fun _ h => (by cases h)⟩
  | unanswered => exact ⟨hfiles, .inr hctx, fun _ h => (by cases h)⟩
  | answered =>
    rcases hserve : serveRequest cfg operation ex S with ⟨resp, S'⟩
    rw [hserve] at hresp hfiles hctx
    obtain rfl : resp = _ := hresp
    simp only [answered_checks, if_false]
    refine ⟨hfiles, .inr hctx, fun response h hok => ?_⟩
    cases h
    obtain ⟨hr, hfill⟩ := answered_ok hok
    exact ⟨hctx, hr, hfill⟩

/-! ## Stages -/

/-- The status of the daemon changes nothing and tells what is active. -/
theorem statusStage_spec (cfg : ServerConfig) (ex : IpcExchange) (S : ControlState) :
    (statusStage cfg ex S).2.files = S.files ∧
      (statusStage cfg ex S).2.server.daemon.ctx = S.server.daemon.ctx ∧
      (∀ reply, (statusStage cfg ex S).1 = .error reply → reply.status ≠ 200) ∧
      (∀ current, (statusStage cfg ex S).1 = .ok current →
        current.configGeneration = S.active.configGeneration ∧
        current.replacementMode = S.active.replacementMode ∧
        current.profileFingerprint = S.active.profileFingerprint ∧
        current.virtualIdLength = S.active.virtualIdLength) := by
  obtain ⟨hfiles, hctx, hok⟩ := send_spec cfg .status ex S
  unfold statusStage
  rcases hsend : sendControlIpcRequest cfg .status ex S with ⟨res, S'⟩
  rw [hsend] at hfiles hctx hok
  have hsame : S'.server.daemon.ctx = S.server.daemon.ctx := hctx.elim id id
  have h503 : (503 : Nat) ≠ 200 := by decide
  cases res with
  | error err =>
    refine ⟨hfiles, hsame, fun reply h => ?_, fun _ h => (by cases h)⟩
    cases h
    exact h503
  | ok current =>
    by_cases hresult : current.result = .ok
    · simp only [hresult, ne_eq, not_true_eq_false, if_false]
      refine ⟨hfiles, hsame, fun _ h => (by cases h), fun c h => ?_⟩
      cases h
      obtain ⟨-, -, rfl⟩ := hok _ rfl hresult
      exact ⟨rfl, rfl, rfl, rfl⟩
    · simp only [hresult, ne_eq, not_false_eq_true, if_true]
      refine ⟨hfiles, hsame, fun reply h => ?_, fun _ h => (by cases h)⟩
      cases h
      exact h503

/-- The control file is read and left alone. -/
theorem prepareStage_spec (form : ApplyForm) (req : ApplyRequest) (current : ControlIpcResponse) :
    (prepareStage form req current S).2 = S ∧
      ((∃ persisted, S.control = .ok persisted ∧
        (prepareStage form req current S).1 = prepareConfig form req current persisted) ∨
      ∃ err, (prepareStage form req current S).1 = .error (.failed 409 err "control-read")) := by
  obtain ⟨hfiles, hread⟩ := read_files req.readScript S.files
  unfold prepareStage
  rcases hr : readRuntimeControlFile.eval FileSystem.exec req.readScript S.files with ⟨res, files⟩
  rw [hr] at hfiles hread
  obtain rfl : files = S.files := hfiles
  cases res with
  | error err => exact ⟨rfl, .inr ⟨err, rfl⟩⟩
  | ok persisted =>
    refine ⟨rfl, .inl ⟨persisted, ?_, rfl⟩⟩
    rcases hread with hread | hread
    · exact hread.symm
    · cases hread

/-- The control file is replaced by the config, or left alone. -/
theorem persistStage_spec (script : Nat → FsOutcome) (config : ReplacementConfig) :
    (persistStage script config S).2.server = S.server ∧
      match (persistStage script config S).1 with
      | none => (persistStage script config S).2.control = .ok config.trim
      | some reply => reply.status ≠ 200 ∧ (persistStage script config S).2.control = S.control := by
  have hsafe : (writeRuntimeControlFile config).Safe FileSystem.exec (fun _ => True) (fun _ => True)
      _ S.files := safe_writeRuntimeControlFile (fun _ => trivial) fun _ => trivial
  have h := hsafe.eval script fun _ => trivial
  unfold persistStage ControlState.control
  rcases hw : (writeRuntimeControlFile config).eval FileSystem.exec script S.files with ⟨err, files⟩
  rw [hw] at h
  cases hvalid : validateConfig config with
  | false =>
    rw [hvalid] at h
    obtain ⟨rfl, rfl⟩ := h
    exact ⟨rfl, by decide, rfl⟩
  | true =>
    rw [hvalid] at h
    rcases h with ⟨rfl, rfl⟩ | ⟨rfl, -, x, rfl⟩
    · exact ⟨rfl, controlOf_written S.files hvalid⟩
    · exact ⟨rfl, by decide, rfl⟩

/-- What an apply does: it publishes the config of the control file, or leaves the active config,
and then it reports success only if that generation is active already. -/
def ApplyEnd (config : Except KModErr ReplacementConfig) (before after : RuntimeConfigSlot)
    (success : Prop) : Prop :=
  (∃ c, config = .ok c ∧ before.configGeneration < c.configGeneration ∧ after = .ofConfig c) ∨
    (after = before ∧
      (success → ∃ c, config = .ok c ∧ c.configGeneration = before.configGeneration))

theorem ApplyEnd.mono {config : Except KModErr ReplacementConfig} {before after : RuntimeConfigSlot}
    {success success' : Prop} (h : ApplyEnd config before after success)
    (himp : success' → success) : ApplyEnd config before after success' :=
  h.imp_right fun h => ⟨h.1, fun hs => h.2 (himp hs)⟩

theorem applyControlFile_end (session : CounterHookSession) (e : ApplyEvent)
    (ctx : KernelCounterContext) {config : Except KModErr ReplacementConfig}
    (hconfig : ∀ c, e.file = .ok c → config = .ok c) :
    ApplyEnd config ctx.activeConfig (applyControlFile session e ctx).2.activeConfig
      ((applyControlFile session e ctx).1 = .ok) := by
  unfold applyControlFile
  cases hfile : e.file with
  | error err => exact .inr ⟨rfl, fun h => absurd h err.2⟩
  | ok c =>
    cases hsnap : readCounterSnapshot session e.read ctx with
    | error err => exact .inr ⟨rfl, fun h => absurd h (readCounterSnapshot_ne_ok hsnap)⟩
    | ok current =>
      obtain ⟨-, -, rfl⟩ := readCounterSnapshot_eq_ok hsnap
      by_cases hgen : c.configGeneration = current.activeConfig.configGeneration
      · simp only [hgen, if_true]
        exact .inr ⟨rfl, fun _ => ⟨c, hconfig c hfile, hgen⟩⟩
      · simp only [hgen, if_false]
        by_cases hpub : (publish configRegister session (validateRuntimeConfig c) (.ofConfig c)
            e.publish current).err = .ok
        · exact .inl ⟨c, hconfig c hfile, (acceptable_of_publish_ok hpub).newer,
            (publish_attempt_ok hpub).succeeded⟩
        · exact .inr ⟨(publish_attempt_failed hpub).failed.2, fun h => absurd h hpub⟩

theorem handleApply_end (session : CounterHookSession) (e : ApplyEvent)
    (ctx : KernelCounterContext) {config : Except KModErr ReplacementConfig}
    (hconfig : ∀ c, e.file = .ok c → config = .ok c) :
    ApplyEnd config ctx.activeConfig (handleApply session e ctx).2.activeConfig
      ((handleApply session e ctx).1 = .ok) := by
  have hend := applyControlFile_end session e ctx hconfig
  unfold handleApply
  by_cases herr : (applyControlFile session e ctx).1 = .ok
  · simp only [herr, ne_eq, not_true_eq_false, if_false]
    exact hend.mono fun _ => herr
  · simp only [herr, ne_eq, not_false_eq_true, if_true]
    obtain ⟨hslots, hindex⟩ :=
      (incrementRejections_ctx session e.rejection (applyControlFile session e ctx).2).configs
    have hactive : (incrementRejections session e.rejection
        (applyControlFile session e ctx).2).2.activeConfig =
          (applyControlFile session e ctx).2.activeConfig := by
      unfold KernelCounterContext.activeConfig
      rw [hslots, hindex]
    rw [hactive]
    exact hend.mono False.elim

/-- An apply leaves the files; a 200 is a success. -/
theorem applyStage_spec (cfg : ServerConfig) (ex : IpcExchange) (S : ControlState) :
    (applyStage cfg ex S).2.files = S.files ∧
      ApplyEnd S.control S.active (applyStage cfg ex S).2.active
        ((applyStage cfg ex S).1.status = 200) := by
  obtain ⟨hfiles, hctx, hok⟩ := send_spec cfg .apply ex S
  have hend := handleApply_end cfg.session (ex.applyEvent S) S.server.daemon.ctx
    fun _ => control_of_applyEvent
  unfold applyStage
  rcases hsend : sendControlIpcRequest cfg .apply ex S with ⟨res, S'⟩
  rw [hsend] at hfiles hctx hok
  have hserved (success : Prop) (hs : success → (handleApply cfg.session (ex.applyEvent S)
      S.server.daemon.ctx).1 = .ok) (h : S'.server.daemon.ctx =
        (handleApply cfg.session (ex.applyEvent S) S.server.daemon.ctx).2) :
      ApplyEnd S.control S.active S'.active success := by
    rw [ControlState.active, ControlState.active, h]
    exact hend.mono hs
  have hfailed (success : Prop) (hs : ¬success) : ApplyEnd S.control S.active S'.active success := by
    rcases hctx with hctx | hctx
    · exact .inr ⟨congrArg KernelCounterContext.activeConfig hctx, fun h => absurd h hs⟩
    · exact hserved success (fun h => absurd h hs) hctx
  cases res with
  | error err => exact ⟨hfiles, hfailed _ (by decide : ¬(503 : Nat) = 200)⟩
  | ok applied =>
    refine ⟨hfiles, ?_⟩
    by_cases hresult : applied.result = .ok
    · obtain ⟨hctx', hr, -⟩ := hok applied rfl hresult
      exact hserved _ (fun _ => hr) hctx'
    · refine hfailed _ ?_
      show ¬(if applied.result = .ok then 200 else 409 : Nat) = 200
      rw [if_neg hresult]
      decide

/-- A 200 reports what is active then. -/
theorem applyStage_reports (h200 : (applyStage cfg ex S).1.status = 200) :
    (applyStage cfg ex S).1.Reports (applyStage cfg ex S).2.active := by
  obtain ⟨-, -, hok⟩ := send_spec cfg .apply ex S
  unfold applyStage at h200 ⊢
  rcases hsend : sendControlIpcRequest cfg .apply ex S with ⟨res, S'⟩
  rw [hsend] at hok
  simp only [hsend] at h200 ⊢
  cases res with
  | error err => exact absurd h200 (by decide : ¬(503 : Nat) = 200)
  | ok applied =>
    by_cases hresult : applied.result = .ok
    · obtain ⟨hctx, -, hresponse⟩ := hok applied rfl hresult
      have hactive : S'.active = _ := congrArg KernelCounterContext.activeConfig hctx
      rw [hactive]
      refine ⟨applied, congrArg (ApplyReply.response · applied) (if_pos hresult), ?_⟩
      rw [hresponse]
      exact ⟨rfl, rfl, rfl, rfl⟩
    · have h409 : (if applied.result = .ok then 200 else 409 : Nat) = 200 := h200
      rw [if_neg hresult] at h409
      exact absurd h409 (by decide)

/-! ## A request -/

/-- **What a request can do**: nothing, with an error or because the kernel shows what is asked
for; or write the config with the next generation, which then is or is not published. A 200 reports
what is active then. -/
inductive ApplyEffect (form : ApplyForm) (req : ApplyRequest) (S : ControlState) :
    ApplyReply × ControlState → Prop
  | refused {r : ApplyReply × ControlState} (status : r.1.status ≠ 200)
      (control : r.2.control = S.control) (active : r.2.active = S.active) :
      ApplyEffect form req S r
  | noOp {r : ApplyReply × ControlState} {persisted config : ReplacementConfig}
      (file : S.control = .ok persisted) (asked : requestedConfig form req persisted = .ok config)
      (shows : S.active.Shows config)
      (control : r.2.control = S.control) (active : r.2.active = S.active)
      (reports : r.1.Reports S.active) :
      ApplyEffect form req S r
  | written {r : ApplyReply × ControlState} {persisted config next : ReplacementConfig}
      (file : S.control = .ok persisted) (asked : requestedConfig form req persisted = .ok config)
      (shows : ¬S.active.Shows config)
      (next_eq : next = { config with configGeneration := S.active.configGeneration + 1 })
      (control : r.2.control = .ok next.trim)
      (active : (r.1.status ≠ 200 ∧ r.2.active = S.active) ∨ r.2.active = .ofConfig next)
      (reports : r.1.status = 200 → r.1.Reports r.2.active) :
      ApplyEffect form req S r

theorem ofConfig_virtualId (config : ReplacementConfig) :
    (RuntimeConfigSlot.ofConfig config).virtualId =
      copyId config.virtualId config.virtualIdLength := by
  unfold RuntimeConfigSlot.ofConfig copyId
  rfl

theorem ofConfig_trim (config : ReplacementConfig) :
    RuntimeConfigSlot.ofConfig config.trim = .ofConfig config := by
  have hid : (RuntimeConfigSlot.ofConfig config.trim).virtualId =
      (RuntimeConfigSlot.ofConfig config).virtualId := by
    rw [ofConfig_virtualId, ofConfig_virtualId, trim_virtualId, trim_virtualIdLength, copyId_copyId]
  calc RuntimeConfigSlot.ofConfig config.trim
      = { RuntimeConfigSlot.ofConfig config with
          virtualId := (RuntimeConfigSlot.ofConfig config.trim).virtualId } := rfl
    _ = .ofConfig config := by rw [hid]

theorem isNoOp_iff {current : ControlIpcResponse} {config : ReplacementConfig}
    {slot : RuntimeConfigSlot} (hmode : current.replacementMode = slot.replacementMode)
    (hprint : current.profileFingerprint = slot.profileFingerprint)
    (hlen : current.virtualIdLength = slot.virtualIdLength) :
    isNoOp current config = true ↔ slot.Shows config := by
  simp only [isNoOp, hmode, hprint, hlen, Bool.and_eq_true, beq_iff_eq, and_assoc,
    RuntimeConfigSlot.Shows]

theorem succ_ne_self (w : UInt64) : w + 1 ≠ w := by
  intro h
  have := congrArg UInt64.toNat h
  rw [UInt64.toNat_add] at this
  have hlt := w.toNat_lt
  have h1 : (1 : UInt64).toNat = 1 := rfl
  omega

theorem chooseId_error {form : ApplyForm} {req : ApplyRequest} {config : ReplacementConfig}
    {reply : ApplyReply} (h : chooseId form req config = .error reply) : reply.status ≠ 200 := by
  have h500 : (500 : Nat) ≠ 200 := by decide
  unfold chooseId at h
  cases haction : form.action with
  | keep =>
    rw [haction] at h
    cases h
  | derive =>
    rw [haction] at h
    cases hprofile : req.profile with
    | error err =>
      rw [hprofile] at h
      cases h
      exact h500
    | ok profile =>
      rw [hprofile] at h
      cases h
  | random =>
    simp only [haction] at h
    split at h
    · cases h
      exact h500
    · cases h
  | custom =>
    simp only [haction] at h
    split at h
    · cases h
      exact (by decide : (422 : Nat) ≠ 200)
    · cases h

/-- How the preparation ends. -/
theorem prepareConfig_cases (form : ApplyForm) (req : ApplyRequest) (current : ControlIpcResponse)
    (persisted : ReplacementConfig) :
    (∃ reply, prepareConfig form req current persisted = .error reply ∧ reply.status ≠ 200) ∨
    ∃ config, requestedConfig form req persisted = .ok config ∧
      ((isNoOp current config = true ∧
          prepareConfig form req current persisted = .error (.response 200 current)) ∨
        (isNoOp current config = false ∧ current.configGeneration ≠ 0xffffffffffffffff ∧
          prepareConfig form req current persisted =
            .ok { config with configGeneration := current.configGeneration + 1 })) := by
  unfold prepareConfig
  cases hreq : requestedConfig form req persisted with
  | error reply =>
    refine .inl ⟨reply, rfl, ?_⟩
    unfold requestedConfig at hreq
    split at hreq
    next hchoose =>
      cases hreq
      exact chooseId_error hchoose
    next => cases hreq
  | ok config =>
    cases hnoop : isNoOp current config with
    | true =>
      simp only [hnoop, if_true]
      exact .inr ⟨config, rfl, .inl ⟨hnoop, trivial⟩⟩
    | false =>
      by_cases hmax : current.configGeneration = 0xffffffffffffffff
      · simp only [hnoop, hmax, Bool.false_eq_true, if_false, if_true]
        exact .inl ⟨_, rfl, (by decide : (409 : Nat) ≠ 200)⟩
      · simp only [hnoop, hmax, Bool.false_eq_true, if_false]
        exact .inr ⟨config, rfl, .inr ⟨hnoop, hmax, rfl⟩⟩

/-- The end of a request whose config has to be written. -/
theorem writeAndApply_spec (cfg : ServerConfig) (req : ApplyRequest) {config : ReplacementConfig}
    (hgen : config.configGeneration = S.active.configGeneration + 1)
    {r : ApplyReply × ControlState}
    (hr : r = match persistStage req.writeScript config S with
      | (some reply, S) => (reply, S)
      | (none, S) => applyStage cfg req.apply S) :
    (r.1.status ≠ 200 ∧ r.2.control = S.control ∧ r.2.active = S.active) ∨
      (r.2.control = .ok config.trim ∧
        ((r.1.status ≠ 200 ∧ r.2.active = S.active) ∨ r.2.active = .ofConfig config) ∧
        (r.1.status = 200 → r.1.Reports r.2.active)) := by
  obtain ⟨hserver, hwrite⟩ := persistStage_spec (S := S) req.writeScript config
  rcases hp : persistStage req.writeScript config S with ⟨res, S'⟩
  rw [hp] at hserver hwrite hr
  have hactive : S'.active = S.active :=
    congrArg (fun server : Server => server.daemon.ctx.activeConfig) hserver
  cases res with
  | some reply =>
    subst hr
    exact .inl ⟨hwrite.1, hwrite.2, hactive⟩
  | none =>
    obtain ⟨hfiles, hend⟩ := applyStage_spec cfg req.apply S'
    subst hr
    have hwrite : S'.control = .ok config.trim := hwrite
    have hcontrol : (applyStage cfg req.apply S').2.control = .ok config.trim :=
      (congrArg (fun files : FileSystem => controlOf (files .controlV3)) hfiles).trans hwrite
    rw [hwrite, hactive] at hend
    refine .inr ⟨hcontrol, ?_, applyStage_reports⟩
    rcases hend with ⟨c, hc, -, hpub⟩ | ⟨hsame, hok⟩
    · cases hc
      exact .inr (hpub.trans (ofConfig_trim config))
    · refine .inl ⟨fun h => ?_, hsame⟩
      obtain ⟨c, hc, heq⟩ := hok h
      cases hc
      rw [trim_configGeneration, hgen] at heq
      exact succ_ne_self _ heq

theorem applyForm_effect (form : ApplyForm) (req : ApplyRequest) :
    ApplyEffect form req S (applyForm cfg form req S) := by
  unfold applyForm
  obtain ⟨hfiles, hctx, hbad, hcur⟩ := statusStage_spec cfg req.status S
  rcases hs : statusStage cfg req.status S with ⟨res, S₁⟩
  rw [hs] at hfiles hctx hbad hcur
  have hcontrol : S₁.control = S.control :=
    congrArg (fun files : FileSystem => controlOf (files .controlV3)) hfiles
  have hactive : S₁.active = S.active := congrArg KernelCounterContext.activeConfig hctx
  cases res with
  | error reply => exact .refused (hbad reply rfl) hcontrol hactive
  | ok current =>
    obtain ⟨hgen, hmode, hprint, hlen⟩ := hcur current rfl
    have hreports : (ApplyReply.response 200 current).Reports S.active :=
      ⟨current, rfl, hcur current rfl⟩
    obtain ⟨hsame, hprep⟩ := prepareStage_spec (S := S₁) form req current
    rcases hp : prepareStage form req current S₁ with ⟨res, S₂⟩
    rw [hp] at hsame hprep
    obtain rfl : S₂ = S₁ := hsame
    simp only [hp]
    rcases hprep with ⟨persisted, hpersisted, hprep⟩ | ⟨err, rfl⟩
    · obtain rfl : res = prepareConfig form req current persisted := hprep
      rw [hcontrol] at hpersisted
      rcases prepareConfig_cases form req current persisted with
        ⟨reply, hreply, hne⟩ | ⟨config, hreq, ⟨hnoop, hreply⟩ | ⟨hnoop, -, hnext⟩⟩
      · rw [hreply]
        exact .refused hne hcontrol hactive
      · rw [hreply]
        exact .noOp hpersisted hreq ((isNoOp_iff hmode hprint hlen).1 hnoop) hcontrol hactive
          hreports
      · have hshows : ¬S.active.Shows config := by
          rw [← isNoOp_iff hmode hprint hlen, hnoop]
          decide
        rw [hnext, hgen]
        have hend := writeAndApply_spec cfg req
          (show { config with configGeneration := S.active.configGeneration + 1 }.configGeneration =
            S₂.active.configGeneration + 1 by rw [hactive]) rfl
        rw [hcontrol, hactive] at hend
        rcases hend with ⟨hne, hc, ha⟩ | ⟨hc, ha, htold⟩
        · exact .refused hne hc ha
        · exact .written hpersisted hreq hshows rfl hc ha htold
    · exact .refused (by decide : (409 : Nat) ≠ 200) hcontrol hactive

/-- A request to the handler: an answer other than 200 that changes nothing, or the effect of its
form. -/
theorem handleApply_effect (H : DrmidWebHandler) (mg : MgGetVar) (cfg : ServerConfig)
    (req : ApplyRequest) (S : ControlState) :
    ((H.handleApply mg cfg req S).1.status ≠ 200 ∧ (H.handleApply mg cfg req S).2 = S) ∨
      ∃ form, parseApplyForm mg req.body = some form ∧
        ApplyEffect form req S (H.handleApply mg cfg req S) := by
  unfold DrmidWebHandler.handleApply
  split
  · exact .inl ⟨(by decide : (413 : Nat) ≠ 200), rfl⟩
  · cases hparse : parseApplyForm mg req.body with
    | none => exact .inl ⟨(by decide : (422 : Nat) ≠ 200), rfl⟩
    | some form =>
      cases H.ready with
      | false => exact .inl ⟨(by decide : (500 : Nat) ≠ 200), rfl⟩
      | true => exact .inr ⟨form, rfl, applyForm_effect form req⟩

/-- The answer of a request that succeeds reports the config that is active then. -/
theorem handleApply_reports {H : DrmidWebHandler} {mg : MgGetVar} {req : ApplyRequest}
    (h200 : (H.handleApply mg cfg req S).1.status = 200) :
    (H.handleApply mg cfg req S).1.Reports (H.applyStep mg cfg S req).active := by
  unfold DrmidWebHandler.applyStep
  rcases handleApply_effect H mg cfg req S with ⟨hne, -⟩ | ⟨form, -, heffect⟩
  · exact absurd h200 hne
  · cases heffect with
    | refused hne _ _ => exact absurd h200 hne
    | noOp _ _ _ _ hactive hreports =>
      rw [hactive]
      exact hreports
    | written _ _ _ _ _ _ hreports => exact hreports h200

end
end Drmid
