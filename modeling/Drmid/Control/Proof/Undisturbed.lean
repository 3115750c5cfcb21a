import Drmid.Control.Proof.Apply

/-!
# Requests that nothing disturbs

What the stages of a request do when no call of theirs fails: the daemon answers with its status,
the control file is read and written, and its config is published if it is newer than the active
one. The requests of the examples are made from these.
-/

namespace Drmid

open Lib

/-- Every call succeeds and moves a whole record. -/
def smoothScript : Nat → FsOutcome := fun _ => .succeeds kRuntimeControlRecordBytes

/-- An exchange in which nothing fails. -/
def IpcExchange.smooth : IpcExchange where
  transport := .answered
  requestId := 7
  controlScript := smoothScript
  read := none
  publish := .none
  rejection := ⟨none, none⟩
  snapshot := none

/-- An exchange whose request does not arrive. -/
def IpcExchange.lost : IpcExchange := { IpcExchange.smooth with transport := .refused }

/-- The daemon has a context that it may read. -/
structure ControlState.Serving (cfg : ServerConfig) (S : ControlState) : Prop where
  session : cfg.session.contextKaddr ≠ 0
  stamped : S.server.daemon.ctx.Stamped

theorem smoothScript_ne_fails (n : Nat) : smoothScript n ≠ .fails :=
  FsOutcome.succeeds_ne_fails _

section
variable {cfg : ServerConfig} {S : ControlState}

/-- The daemon's answer, of a context that it may read. -/
theorem answered_smooth (hsession : cfg.session.contextKaddr ≠ 0) (monitor : HalMonitorState)
    (result : KModErr) {ctx : KernelCounterContext} (hstamped : ctx.Stamped) :
    answered cfg .smooth monitor result ctx = fillResponse ctx cfg.pid 7 result monitor := by
  have hread : readCounterSnapshot cfg.session IpcExchange.smooth.snapshot ctx = .ok ctx :=
    readCounterSnapshot_of_stamped hsession hstamped
  unfold answered
  rw [hread, snapshotContents_of_ok hread]
  rfl

theorem read_smooth (files : FileSystem) :
    (readRuntimeControlFile.eval FileSystem.exec smoothScript files).1 =
      controlOf (files .controlV3) := by
  have hsafe : readRuntimeControlFile.Safe FileSystem.exec (fun o => o ≠ .fails) (fun _ => True) _
      files := safe_readRuntimeControlFile trivial
  exact (hsafe.eval smoothScript smoothScript_ne_fails).2.resolve_right fun h => h.1 rfl

/-- The daemon's answer reports what the operation returned. -/
theorem send_smooth (h : S.Serving cfg) (operation : ControlIpcOperation)
    (hstamped : (handleOperation cfg.session (some operation) (IpcExchange.smooth.applyEvent S)
      S.server.daemon.ctx).2.Stamped) :
    let r := handleOperation cfg.session (some operation) (IpcExchange.smooth.applyEvent S)
      S.server.daemon.ctx
    (sendControlIpcRequest cfg operation .smooth S).1 =
        .ok (fillResponse r.2 cfg.pid 7 r.1 S.server.daemon.monitor) ∧
      (sendControlIpcRequest cfg operation .smooth S).2.server.daemon.ctx = r.2 := by
  intro r
  obtain ⟨hresp, -, hctx⟩ := serveRequest_eq cfg operation .smooth S
  have hanswer := answered_smooth h.session S.server.daemon.monitor r.1 hstamped
  have htransport : IpcExchange.smooth.transport = .answered := rfl
  unfold sendControlIpcRequest
  rcases hserve : serveRequest cfg operation .smooth S with ⟨resp, S'⟩
  rw [hserve] at hresp hctx
  obtain rfl : resp = _ := hresp
  simp only [htransport, answered_checks, if_false]
  exact ⟨congrArg Except.ok hanswer, hctx⟩

/-- The status is answered. -/
theorem statusStage_smooth (h : S.Serving cfg) :
    ∃ current, (statusStage cfg .smooth S).1 = .ok current := by
  obtain ⟨hsend, -⟩ := send_smooth h .status h.stamped
  unfold statusStage
  rcases hres : sendControlIpcRequest cfg .status .smooth S with ⟨res, S'⟩
  rw [hres] at hsend
  obtain rfl : res = _ := hsend
  exact ⟨_, rfl⟩

/-- The control file is read. -/
theorem prepareStage_smooth (form : ApplyForm) {req : ApplyRequest} (current : ControlIpcResponse)
    {persisted : ReplacementConfig} (hread : req.readScript = smoothScript)
    (hfile : S.control = .ok persisted) :
    (prepareStage form req current S).1 = prepareConfig form req current persisted := by
  have hr := (read_smooth S.files).trans hfile
  unfold prepareStage
  rw [hread]
  rcases hres : readRuntimeControlFile.eval FileSystem.exec smoothScript S.files with ⟨res, files⟩
  rw [hres] at hr
  obtain rfl : res = _ := hr
  rfl

/-- A config that may be written is written. -/
theorem persistStage_smooth {config : ReplacementConfig} (hvalid : validateConfig config = true) :
    (persistStage smoothScript config S).1 = none := by
  have hsafe : (writeRuntimeControlFile config).Safe FileSystem.exec (fun o => o ≠ .fails)
      (fun _ => True) _ S.files := safe_writeRuntimeControlFile (fun _ => trivial) fun _ => trivial
  have h := hsafe.eval smoothScript smoothScript_ne_fails
  unfold persistStage
  rcases hw : (writeRuntimeControlFile config).eval FileSystem.exec smoothScript S.files with
    ⟨err, files⟩
  rw [hw, if_pos hvalid] at h
  rcases h with ⟨rfl, -⟩ | ⟨-, hfails, -⟩
  · rfl
  · exact absurd rfl hfails

theorem handleApply_smooth (h : S.Serving cfg) {config : ReplacementConfig}
    (hevent : (IpcExchange.smooth.applyEvent S).file = .ok config)
    (hvalid : validateRuntimeConfig config = true)
    (hgen : S.active.configGeneration ≤ config.configGeneration) :
    let r := handleApply cfg.session (IpcExchange.smooth.applyEvent S) S.server.daemon.ctx
    r.1 = .ok ∧ r.2.Stamped := by
  intro r
  have hread : readCounterSnapshot cfg.session (IpcExchange.smooth.applyEvent S).read
      S.server.daemon.ctx = .ok S.server.daemon.ctx :=
    readCounterSnapshot_of_stamped h.session h.stamped
  have happly : (applyControlFile cfg.session (IpcExchange.smooth.applyEvent S)
        S.server.daemon.ctx).1 = .ok ∧
      (applyControlFile cfg.session (IpcExchange.smooth.applyEvent S)
        S.server.daemon.ctx).2.Stamped := by
    simp only [applyControlFile, hevent, hread]
    by_cases heq : config.configGeneration = S.server.daemon.ctx.activeConfig.configGeneration
    · simp only [heq, if_true]
      exact ⟨trivial, h.stamped⟩
    · simp only [heq, if_false]
      have hlt : S.active.configGeneration < config.configGeneration :=
        UInt64.lt_of_le_of_ne hgen (Ne.symm heq)
      exact ⟨publish_ok_of_acceptable ⟨h.session, hvalid, h.stamped, hlt⟩,
        Stamped.publish h.stamped configRegister_keeps_stamp _ _ _ _⟩
  simp only [r, handleApply, happly.1, ne_eq, not_true_eq_false, if_false]
  exact ⟨trivial, happly.2⟩

theorem applyEvent_smooth {config : ReplacementConfig} (hfile : S.control = .ok config) :
    (IpcExchange.smooth.applyEvent S).file = .ok config := by
  have hread := (read_smooth S.files).trans hfile
  have hscript : IpcExchange.smooth.controlScript = smoothScript := rfl
  unfold IpcExchange.applyEvent
  rw [hscript, hread]
  rfl

/-- The config of the control file is applied: it is published, or its generation is active. -/
theorem applyStage_smooth (h : S.Serving cfg) {config : ReplacementConfig}
    (hfile : S.control = .ok config)
    (hgen : S.active.configGeneration ≤ config.configGeneration) :
    (applyStage cfg .smooth S).1.status = 200 := by
  have hok := handleApply_smooth h (applyEvent_smooth hfile) (controlOf_shape hfile).2.2 hgen
  obtain ⟨hsend, -⟩ := send_smooth h .apply hok.2
  unfold applyStage
  rcases hres : sendControlIpcRequest cfg .apply .smooth S with ⟨res, S'⟩
  rw [hres] at hsend
  obtain rfl : res = _ := hsend
  show (if (fillResponse _ _ _ (handleApply _ _ _).1 _).result = .ok then 200 else 409 : Nat) = 200
  exact if_pos hok.1

theorem applyStage_smooth_serving (h : S.Serving cfg) {config : ReplacementConfig}
    (hfile : S.control = .ok config)
    (hgen : S.active.configGeneration ≤ config.configGeneration) :
    (applyStage cfg .smooth S).2.Serving cfg := by
  have hok := handleApply_smooth h (applyEvent_smooth hfile) (controlOf_shape hfile).2.2 hgen
  obtain ⟨hsend, hctx⟩ := send_smooth h .apply hok.2
  unfold applyStage
  rcases hres : sendControlIpcRequest cfg .apply .smooth S with ⟨res, S'⟩
  rw [hres] at hsend hctx
  obtain rfl : res = _ := hsend
  have hS' : S'.server.daemon.ctx = _ := hctx
  exact ⟨h.session, hS' ▸ hok.2⟩

/-- A config of the control file that is newer than the active one is published. -/
theorem applyStage_smooth_active (h : S.Serving cfg) {config : ReplacementConfig}
    (hfile : S.control = .ok config)
    (hgen : S.active.configGeneration < config.configGeneration) :
    (applyStage cfg .smooth S).2.active = .ofConfig config := by
  have hok := applyStage_smooth h hfile (UInt64.le_of_lt hgen)
  rcases (applyStage_spec cfg .smooth S).2 with ⟨c, hc, -, hactive⟩ | ⟨-, hsame⟩
  · obtain rfl : config = c := Except.ok.inj (hfile.symm.trans hc)
    exact hactive
  · obtain ⟨c, hc, heq⟩ := hsame hok
    obtain rfl : config = c := Except.ok.inj (hfile.symm.trans hc)
    exact absurd heq.symm (UInt64.ne_of_lt hgen)

/-- The daemon accepts a control file that is newer than the active config. -/
theorem applied_smooth (h : S.Serving cfg) {content : Bytes} {config : ReplacementConfig}
    (hfile : S.files .controlV3 = some content) (hconfig : controlOf (some content) = .ok config)
    (hgen : S.active.configGeneration < config.configGeneration) :
    Applied cfg .smooth S content := by
  have hcontrol : S.control = .ok config := by rw [ControlState.control, hfile, hconfig]
  obtain ⟨hok, hstamped⟩ := handleApply_smooth h (applyEvent_smooth hcontrol)
    (controlOf_shape hconfig).2.2 (UInt64.le_of_lt hgen)
  obtain ⟨hresp, -, hctx⟩ := serveRequest_eq cfg .apply .smooth S
  refine ⟨hfile, ⟨_, hresp, ?_⟩, config, hconfig, ?_⟩
  · have hresult := congrArg ControlIpcResponse.result
      (answered_smooth h.session S.server.daemon.monitor .ok hstamped)
    rw [← hok] at hresult
    exact hresult.trans hok
  · rw [ControlState.active, hctx]
    rcases handleApply_end cfg.session (IpcExchange.smooth.applyEvent S) S.server.daemon.ctx
        (fun _ => control_of_applyEvent) with ⟨c, hc, -, hactive⟩ | ⟨-, hsame⟩
    · obtain rfl : config = c := Except.ok.inj (hcontrol.symm.trans hc)
      exact hactive
    · obtain ⟨c, hc, heq⟩ := hsame hok
      obtain rfl : config = c := Except.ok.inj (hcontrol.symm.trans hc)
      exact absurd heq.symm (UInt64.ne_of_lt hgen)

theorem applyStage_lost :
    applyStage cfg .lost S = (.failed 503 .errModuleSocket "apply-connect", S) := rfl

/-! ## Requests -/

/-- Nothing disturbs the request before its last exchange. -/
structure ApplyRequest.Smooth (req : ApplyRequest) : Prop where
  status : req.status = .smooth
  read : req.readScript = smoothScript
  write : req.writeScript = smoothScript

variable {form : ApplyForm} {req : ApplyRequest} {persisted config : ReplacementConfig}

/-- A request for what the kernel shows is answered at once. -/
theorem applyForm_smooth_noOp (h : S.Serving cfg) (hreq : req.Smooth)
    (hfile : S.control = .ok persisted) (hasked : requestedConfig form req persisted = .ok config)
    (hshows : S.active.Shows config) :
    (applyForm cfg form req S).1.status = 200 ∧
      (applyForm cfg form req S).2.control = S.control ∧
      (applyForm cfg form req S).2.active = S.active := by
  obtain ⟨current, hcurrent⟩ := statusStage_smooth h
  obtain ⟨hfiles, hctx, -, hcur⟩ := statusStage_spec cfg .smooth S
  obtain ⟨-, hmode, hprint, hlen⟩ := hcur current hcurrent
  rcases hs : statusStage cfg .smooth S with ⟨res, S₁⟩
  rw [hs] at hfiles hctx hcurrent
  obtain rfl : res = .ok current := hcurrent
  have hcontrol : S₁.control = S.control :=
    congrArg (fun files : FileSystem => controlOf (files .controlV3)) hfiles
  have hprep : prepareStage form req current S₁ = (.error (.response 200 current), S₁) := by
    refine Prod.ext ?_ (prepareStage_spec form req current).1
    rw [prepareStage_smooth form current hreq.read (hcontrol.trans hfile), prepareConfig, hasked]
    exact if_pos ((isNoOp_iff hmode hprint hlen).2 hshows)
  unfold applyForm
  rw [hreq.status, hs]
  simp only [hprep]
  exact ⟨rfl, hcontrol, congrArg KernelCounterContext.activeConfig hctx⟩

/-- A request for something else writes it with the next generation, and then asks the daemon to
apply it. -/
theorem applyForm_smooth_written (h : S.Serving cfg) (hreq : req.Smooth)
    (hfile : S.control = .ok persisted) (hasked : requestedConfig form req persisted = .ok config)
    (hshows : ¬S.active.Shows config) (hmax : S.active.configGeneration ≠ 0xffffffffffffffff)
    {next : ReplacementConfig}
    (hnext : next = { config with configGeneration := S.active.configGeneration + 1 })
    (hvalid : validateConfig next = true) :
    ∃ S', applyForm cfg form req S = applyStage cfg req.apply S' ∧ S'.Serving cfg ∧
      S'.control = .ok next.trim ∧ S'.active = S.active := by
  obtain ⟨current, hcurrent⟩ := statusStage_smooth h
  obtain ⟨hfiles, hctx, -, hcur⟩ := statusStage_spec cfg .smooth S
  obtain ⟨hgen, hmode, hprint, hlen⟩ := hcur current hcurrent
  rcases hs : statusStage cfg .smooth S with ⟨res, S₁⟩
  rw [hs] at hfiles hctx hcurrent
  obtain rfl : res = .ok current := hcurrent
  have hcontrol : S₁.control = S.control :=
    congrArg (fun files : FileSystem => controlOf (files .controlV3)) hfiles
  have hprep : prepareStage form req current S₁ = (.ok next, S₁) := by
    refine Prod.ext ?_ (prepareStage_spec form req current).1
    have hnoop : ¬isNoOp current config = true := fun hno =>
      hshows ((isNoOp_iff hmode hprint hlen).1 hno)
    rw [prepareStage_smooth form current hreq.read (hcontrol.trans hfile), prepareConfig, hasked]
    simp only [hnoop, hgen, hmax, if_false, hnext]
    rfl
  obtain ⟨hserver, hwritten⟩ := persistStage_spec (S := S₁) smoothScript next
  have hnone := persistStage_smooth (S := S₁) hvalid
  rcases hp : persistStage smoothScript next S₁ with ⟨res, S₂⟩
  rw [hp] at hserver hwritten hnone
  obtain rfl : res = none := hnone
  refine ⟨S₂, ?_, ⟨h.session, ?_⟩, hwritten, ?_⟩
  · unfold applyForm
    rw [hreq.status, hs]
    simp only [hprep, hreq.write, hp]
  · have hstamped := h.stamped
    rwa [← hctx, ← hserver] at hstamped
  · show S₂.server.daemon.ctx.activeConfig = _
    rw [hserver, hctx]
    rfl

end

/-! ## Samples -/

/-- `mg_get_var` on bodies without escapes. -/
def plainVar : MgGetVar := fun body name dstLen =>
  match (body.splitOn 38).find? (ascii (name ++ "=")).isPrefixOf with
  | none => none
  | some field =>
    let value := field.drop (name.length + 1)
    if value.length < dstLen then some value else none

def sampleSession : CounterHookSession := ⟨0, 1, 0⟩

def sampleDaemon : ServerConfig := ⟨sampleSession, 0, 321⟩

/-- A handler whose server is up. -/
def sampleHandler : DrmidWebHandler :=
  { DrmidWebHandler.init with
    privateDir := "/data/drmid/"
    controlPath := "/data/drmid/drmid_runtime_control_v3.bin"
    socketPath := "/data/drmid/drmid_control_v5.sock"
    server := some 1 }

/-- A request that is not disturbed before its last exchange. -/
def sampleRequest (body : String) (apply : IpcExchange) : ApplyRequest where
  body := ascii body
  status := .smooth
  readScript := smoothScript
  profile := .ok ⟨Vector.replicate 64 0, 1⟩
  random := some (Vector.replicate 32 1)
  writeScript := smoothScript
  apply := apply

theorem sampleRequest_smooth (body : String) (apply : IpcExchange) :
    (sampleRequest body apply).Smooth := ⟨rfl, rfl, rfl⟩

/-- The control file holds one config and the kernel was installed with another. -/
def sampleState (file installed : ReplacementConfig) : ControlState where
  files := fun f => if f = .controlV3 then some (recordOfConfig file).toBytes else none
  server :=
    { daemon :=
        { ctx := { KernelCounterContext.zero with
            magic := kCounterContextMagic
            abiVersion := kCounterContextAbi
            configSlots := fun _ => .ofConfig installed }
          monitor := .zero
          history := [] }
      stop := false
      elapsedMs := 0
      sent := []
      result := none }

section
variable (file installed : ReplacementConfig)

theorem sampleState_serving : (sampleState file installed).Serving sampleDaemon where
  session := by decide
  stamped := ⟨rfl, rfl⟩

theorem sampleState_control {file : ReplacementConfig} (h : validateConfig file = true) :
    (sampleState file installed).control = .ok file.trim :=
  controlOf_write h

end

/-- What the kernel was installed with is in the control file, in write mode. -/
def sampleAgreed : ControlState := sampleState sampleControl sampleControl

/-- The form of a request that keeps the ID. -/
def keepForm (mode : UInt32) : ApplyForm := ⟨mode, .keep, []⟩

theorem sampleControl_fingerprint :
    virtualIdFingerprint sampleControl.idBytes = sampleControl.profileFingerprint := by
  decide +kernel

theorem sampleAgreed_control : sampleAgreed.control = .ok sampleControl := by
  have htrim : sampleControl.trim = sampleControl := trim_of_zero rfl
  exact (sampleState_control sampleControl (by decide)).trans (congrArg _ htrim)

theorem sampleHandler_handleApply {form : ApplyForm} {body : String}
    (hform : parseApplyForm plainVar (ascii body) = some form)
    (hlen : ¬4096 < (ascii body).length) (apply : IpcExchange) (S : ControlState) :
    sampleHandler.handleApply plainVar sampleDaemon (sampleRequest body apply) S =
      applyForm sampleDaemon form (sampleRequest body apply) S := by
  have hready : sampleHandler.ready = true := by decide
  unfold DrmidWebHandler.handleApply
  rw [if_neg (show ¬4096 < (sampleRequest body apply).body.length from hlen)]
  simp only [show (sampleRequest body apply).body = ascii body from rfl, hform, hready,
    Bool.not_true, Bool.false_eq_true, if_false]

end Drmid
