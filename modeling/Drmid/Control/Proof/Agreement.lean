import Drmid.Control.Proof.Undisturbed

/-!
# File and kernel after a request

A request persists its config before it is published, and nothing takes the record back when the
last exchange fails. So the control file may be one generation ahead of the kernel, and what a
request promises depends on that: `persisted_agrees_with_active` and `keep_keeps_id` say on what
exactly. `applied_can_be_restored` compares what the daemon accepts from the file while it runs with
what it accepts when it starts.
-/

namespace Drmid

open Lib

/-! ## Configs and slots -/

theorem toList_copyId_take (id : Vector UInt8 64) (n : UInt32) :
    (copyId id n).toList.take n.toNat = id.toList.take n.toNat := by
  apply List.ext_getElem
  · simp
  · intro i hi _
    have hlt : i < n.toNat := by
      simp only [List.length_take] at hi
      omega
    simp [getElem_copyId, hlt]

theorem idBytes_trim (config : ReplacementConfig) :
    config.trim.idBytes = (RuntimeConfigSlot.ofConfig config).idBytes := by
  have hlen : (RuntimeConfigSlot.ofConfig config).virtualIdLength = config.virtualIdLength := rfl
  rw [ReplacementConfig.idBytes, RuntimeConfigSlot.idBytes, ofConfig_virtualId, trim_virtualId,
    trim_virtualIdLength, hlen]

/-- What a form with `id_action=keep` asks for. -/
theorem requestedConfig_keep {form : ApplyForm} (h : form.action = .keep) (req : ApplyRequest)
    {persisted : ReplacementConfig}
    (hlen : persisted.virtualIdLength = kWidevineDeviceUniqueIdBytes) :
    requestedConfig form req persisted = .ok { persisted with
      mode := form.mode
      profileFingerprint := virtualIdFingerprint persisted.idBytes } := by
  unfold requestedConfig chooseId
  rw [h]
  cases persisted
  cases hlen
  rfl

/-- Slots with the same ID were filled with the same bytes. -/
theorem idBytes_of_ofConfig {config config' : ReplacementConfig}
    (hlen : config.virtualIdLength = config'.virtualIdLength)
    (h : (RuntimeConfigSlot.ofConfig config).virtualId =
      (RuntimeConfigSlot.ofConfig config').virtualId) : config.idBytes = config'.idBytes := by
  rw [ofConfig_virtualId, ofConfig_virtualId] at h
  rw [ReplacementConfig.idBytes, ReplacementConfig.idBytes, ← toList_copyId_take, h, hlen,
    toList_copyId_take]

theorem trim_idBytes (config : ReplacementConfig) : config.trim.idBytes = config.idBytes := by
  rw [ReplacementConfig.idBytes, trim_virtualId, trim_virtualIdLength, toList_copyId_take]
  rfl

/-- A requested config has the fingerprint of its ID. -/
theorem requestedConfig_fingerprint {form : ApplyForm} {req : ApplyRequest}
    {persisted config : ReplacementConfig} (h : requestedConfig form req persisted = .ok config) :
    virtualIdFingerprint config.idBytes = config.profileFingerprint := by
  unfold requestedConfig at h
  split at h
  next => cases h
  next =>
    cases h
    rfl

/-- Slots with the same ID of 32 bytes have the same length of it. -/
theorem virtualIdLength_of_idBytes {slot slot' : RuntimeConfigSlot}
    (h : slot.idBytes = slot'.idBytes)
    (hlen : slot.virtualIdLength = kWidevineDeviceUniqueIdBytes) :
    slot.virtualIdLength = slot'.virtualIdLength := by
  have hlength := congrArg List.length h
  have h32 : kWidevineDeviceUniqueIdBytes.toNat = 32 := rfl
  simp only [RuntimeConfigSlot.idBytes, List.length_take, Vector.length_toList, hlen, h32]
    at hlength
  rw [hlen, ← UInt32.toNat_inj, h32]
  omega

/-! ## Restoring -/

/-- A valid config can be restored iff its fingerprint is the one of its ID. -/
theorem restorable_iff {config : ReplacementConfig} (hvalid : validateConfig config = true) :
    restorable config = true ↔ virtualIdFingerprint config.idBytes = config.profileFingerprint := by
  simp only [validateConfig, Bool.and_eq_true, bne_iff_ne] at hvalid
  simp only [restorable, Bool.and_eq_true, bne_iff_ne, beq_iff_eq]
  refine ⟨And.right, fun h => ⟨?_, h⟩⟩
  rw [h]
  exact hvalid.1.1.2

theorem installReadonlyParserHook_active {config : ReplacementConfig}
    {identities : HalIdentityConfig} (hconfig : validateConfig config = true)
    (hids : validateHalIdentities identities = true) :
    ∃ ctx, installReadonlyParserHook config identities = some ctx ∧
      ctx.activeConfig = .ofConfig config := by
  have hvalid : (validateRuntimeConfig config && validateHalIdentities identities) = true := by
    rw [Bool.and_eq_true]
    exact ⟨hconfig, hids⟩
  refine ⟨_, if_pos hvalid, rfl⟩

/-- What a start returns of whose calls none fails, where there is a control file. -/
theorem restore_present {files : FileSystem} (initial : ReplacementConfig)
    {config : ReplacementConfig} (hconfig : controlOf (files .controlV3) = .ok config)
    {script : Nat → FsOutcome} (hscript : ∀ n, script n ≠ .fails) :
    ((restoreRuntimeControl initial).eval FileSystem.exec script files).1 =
      restoreResult config := by
  have hsafe : (restoreRuntimeControl initial).Safe FileSystem.exec (fun o => o ≠ .fails) _ _
      files := safe_restoreRuntimeControl_present initial hconfig
  exact (hsafe.eval script hscript).2.resolve_right fun h => h rfl

/-! ## Agreement -/

namespace ControlState

variable {H : DrmidWebHandler} {mg : MgGetVar} {cfg : ServerConfig} {S S' : ControlState}
  {req : ApplyRequest}

theorem Agrees.congr (h : S.Agrees) (hcontrol : S'.control = S.control)
    (hactive : S'.active = S.active) : S'.Agrees := by
  unfold Agrees
  rw [hcontrol, hactive]
  exact h

/-- A config that was written and published is in both places. -/
theorem agrees_of_published {next : ReplacementConfig} (hcontrol : S'.control = .ok next.trim)
    (hactive : S'.active = .ofConfig next) : S'.Agrees := by
  refine ⟨next.trim, hcontrol, ?_, ?_⟩
  · rw [hactive, trim_mode]
    rfl
  · rw [hactive, idBytes_trim]

theorem Published.congr (h : S.Published) (hcontrol : S'.control = S.control)
    (hactive : S'.active = S.active) : S'.Published := by
  unfold Published
  rw [hcontrol, hactive]
  exact h

theorem Labelled.congr (h : S.Labelled) (hcontrol : S'.control = S.control)
    (hactive : S'.active = S.active) : S'.Labelled := by
  unfold Labelled
  rw [hcontrol, hactive]
  exact h

theorem published_of_written {next : ReplacementConfig} (hcontrol : S'.control = .ok next.trim)
    (hactive : S'.active = .ofConfig next) : S'.Published := by
  refine ⟨next.trim, hcontrol, ?_⟩
  rw [hactive, trim_configGeneration]
  rfl

theorem labelled_of_written {next : ReplacementConfig} (hcontrol : S'.control = .ok next.trim)
    (hactive : S'.active = .ofConfig next)
    (hprint : virtualIdFingerprint next.idBytes = next.profileFingerprint) : S'.Labelled := by
  refine ⟨⟨next.trim, hcontrol, ?_⟩, ?_⟩
  · rw [trim_idBytes, hprint, trim_profileFingerprint]
  · have hslot : (RuntimeConfigSlot.ofConfig next).profileFingerprint = next.profileFingerprint :=
      rfl
    rw [hactive, ← idBytes_trim, trim_idBytes, hprint, hslot]

/-- Where the control file holds the active config, a start restores it iff the fingerprints are the
ones of the IDs. -/
theorem restoredAtStart_iff (hagrees : S.Agrees) (hpub : S.Published) :
    S.RestoredAtStart ↔ S.Labelled := by
  obtain ⟨config, hconfig, hmode, hid⟩ := hagrees
  obtain ⟨c, hc, hgen⟩ := hpub
  obtain rfl : config = c := Except.ok.inj (hconfig.symm.trans hc)
  obtain ⟨hlen, htrim, hvalid⟩ := controlOf_shape hconfig
  constructor
  · intro h
    obtain ⟨slot, ⟨c, ctx, hres, hctx, hslot⟩, hsame⟩ :=
      h config sampleIdentities smoothScript (by decide) smoothScript_ne_fails
    rw [restore_present config hconfig smoothScript_ne_fails, restoreResult] at hres
    have hok : restorable config = true := by
      by_contra hno
      rw [if_neg hno] at hres
      cases hres
    rw [if_pos hok] at hres
    obtain rfl : config = c := Except.ok.inj hres
    have hids : validateHalIdentities sampleIdentities = true := by decide
    obtain ⟨ctx', hctx', hslot'⟩ := installReadonlyParserHook_active hvalid hids
    obtain rfl : ctx = ctx' := Option.some.inj (hctx.symm.trans hctx')
    have hprint := (restorable_iff hvalid).1 hok
    refine ⟨⟨config, hconfig, hprint⟩, ?_⟩
    rw [← hid, hprint, ← hsame.fingerprint, ← hslot, hslot']
    rfl
  · rintro ⟨⟨c, hc, hprint⟩, hactive⟩ initial identities script hids hscript
    obtain rfl : config = c := Except.ok.inj (hconfig.symm.trans hc)
    obtain ⟨ctx, hctx, hslot⟩ := installReadonlyParserHook_active hvalid hids
    have hrestored := (restore_present initial hconfig hscript).trans
      (if_pos ((restorable_iff hvalid).2 hprint))
    have hslotId : (RuntimeConfigSlot.ofConfig config).idBytes = S.active.idBytes := by
      rw [← idBytes_trim, htrim, hid]
    refine ⟨_, ⟨config, ctx, hrestored, hctx, hslot⟩, hmode, hslotId, hgen, ?_, ?_⟩
    · show config.profileFingerprint = _
      rw [← hprint, hid, hactive]
    · exact virtualIdLength_of_idBytes hslotId hlen

/-- A published generation is agreed on. -/
def PublishedAgrees (S : ControlState) : Prop := S.Published → S.Agrees

theorem PublishedAgrees.step (h : S.PublishedAgrees) (req : ApplyRequest) :
    (H.applyStep mg cfg S req).PublishedAgrees := by
  have hsame {S' : ControlState} (hcontrol : S'.control = S.control)
      (hactive : S'.active = S.active) : S'.PublishedAgrees := by
    intro hpub
    refine (h ?_).congr hcontrol hactive
    unfold Published at hpub ⊢
    rwa [hcontrol, hactive] at hpub
  unfold DrmidWebHandler.applyStep
  rcases handleApply_effect H mg cfg req S with ⟨-, heq⟩ | ⟨form, -, heffect⟩
  · rwa [heq]
  · cases heffect with
    | refused _ hcontrol hactive => exact hsame hcontrol hactive
    | noOp _ _ _ hcontrol hactive _ => exact hsame hcontrol hactive
    | written _ _ _ hnext hcontrol hactive _ =>
      rcases hactive with ⟨-, hactive⟩ | hactive
      · -- the generation that was written is not active
        rintro ⟨c, hc, hgen⟩
        rw [hcontrol] at hc
        cases hc
        rw [trim_configGeneration, hnext, hactive] at hgen
        exact (succ_ne_self _ hgen).elim
      · exact fun _ => agrees_of_published hcontrol hactive

end ControlState

/-- A request that succeeds leaves both places agreeing, the generation published and the
fingerprints right, if the no-op answer was given in such a state. -/
theorem handleApply_agrees {H : DrmidWebHandler} {mg : MgGetVar} {cfg : ServerConfig}
    {S : ControlState} {req : ApplyRequest} (hinv : S.PublishedAgrees)
    (hnoop : S.AsksNoOp mg req → S.Published ∧ S.Labelled)
    (h200 : (H.handleApply mg cfg req S).1.status = 200) :
    (H.applyStep mg cfg S req).Agrees ∧ (H.applyStep mg cfg S req).Published ∧
      (H.applyStep mg cfg S req).Labelled := by
  unfold DrmidWebHandler.applyStep
  rcases handleApply_effect H mg cfg req S with ⟨hne, -⟩ | ⟨form, hform, heffect⟩
  · exact absurd h200 hne
  · cases heffect with
    | refused hne _ _ => exact absurd h200 hne
    | noOp hfile hasked hshows hcontrol hactive _ =>
      obtain ⟨hpub, hlabelled⟩ := hnoop ⟨form, _, _, hform, hfile, hasked, hshows⟩
      exact ⟨(hinv hpub).congr hcontrol hactive, hpub.congr hcontrol hactive,
        hlabelled.congr hcontrol hactive⟩
    | @written persisted config next _ hasked _ hnext hcontrol hactive _ =>
      rcases hactive with ⟨hne, -⟩ | hactive
      · exact absurd h200 hne
      have hprint : virtualIdFingerprint next.idBytes = next.profileFingerprint := by
        have hasked := requestedConfig_fingerprint hasked
        subst hnext
        exact hasked
      exact ⟨ControlState.agrees_of_published hcontrol hactive,
        ControlState.published_of_written hcontrol hactive,
        ControlState.labelled_of_written hcontrol hactive hprint⟩

/-- **Persisted and active state agree after success**, and a start restores what was reported, in
every run of requests from a state where the two agree, as long as the no-op answer is given over a
control file whose generation is active, the fingerprints of both being the ones of their IDs. -/
theorem persisted_agrees_with_active (H : DrmidWebHandler) (mg : MgGetVar) (cfg : ServerConfig)
    (S₀ : ControlState) (reqs : List ApplyRequest) (hstart : S₀.Agrees)
    (hnoop : Along (H.applyStep mg cfg)
      (fun S req => S.AsksNoOp mg req → S.Published ∧ S.Labelled) S₀ reqs) :
    Along (H.applyStep mg cfg) (H.KeepsPromise mg cfg) S₀ reqs := by
  intro pre req post heq h200
  have hinv : (run (H.applyStep mg cfg) S₀ pre).PublishedAgrees :=
    run_induct (P := ControlState.PublishedAgrees) (fun _ => hstart) fun _ e h => h.step e
  obtain ⟨hagrees, hpub, hlabelled⟩ := handleApply_agrees hinv (hnoop pre req post heq) h200
  exact ⟨hagrees, handleApply_reports h200,
    (ControlState.restoredAtStart_iff hagrees hpub).2 hlabelled⟩

/-- The config that the sample request for dry mode writes. -/
def sampleDry : ReplacementConfig :=
  { sampleControl with mode := kDryRun, configGeneration := 5 }

/-- A request for the other mode, the ID being kept. -/
def sampleDryRequest (apply : IpcExchange) : ApplyRequest :=
  sampleRequest "mode=dry&id_action=keep&id_hex=" apply

theorem parse_sampleDry :
    parseApplyForm plainVar (ascii "mode=dry&id_action=keep&id_hex=") =
      some (keepForm kDryRun) := by
  decide

theorem sampleDryRequest_asked (apply : IpcExchange) :
    requestedConfig (keepForm kDryRun) (sampleDryRequest apply) sampleControl =
      .ok { sampleControl with mode := kDryRun } := by
  rw [requestedConfig_keep rfl _ rfl, sampleControl_fingerprint]
  rfl

/-- The request for dry mode writes its config, whatever becomes of its last exchange. -/
theorem sampleDryRequest_written (apply : IpcExchange) :
    ∃ S, sampleHandler.handleApply plainVar sampleDaemon (sampleDryRequest apply) sampleAgreed =
        applyStage sampleDaemon apply S ∧ S.Serving sampleDaemon ∧
      S.control = .ok sampleDry ∧ S.active = .ofConfig sampleControl := by
  have hshows : ¬sampleAgreed.active.Shows { sampleControl with mode := kDryRun } := fun h =>
    absurd h.1 (by decide : ¬kWriteTest = kDryRun)
  have htrim : sampleDry.trim = sampleDry := trim_of_zero rfl
  obtain ⟨S, hS, hserving, hcontrol, hactive⟩ := applyForm_smooth_written
    (sampleState_serving sampleControl sampleControl) (sampleRequest_smooth _ apply)
    sampleAgreed_control (sampleDryRequest_asked apply) hshows (by decide) (rfl : sampleDry = _)
    (by decide)
  refine ⟨S, ?_, hserving, hcontrol.trans (congrArg _ htrim), hactive⟩
  exact (sampleHandler_handleApply parse_sampleDry (by decide) apply sampleAgreed).trans hS

theorem sampleAgreed_agrees : sampleAgreed.Agrees := by
  have hid := idBytes_trim sampleControl
  rw [trim_of_zero rfl] at hid
  exact ⟨sampleControl, sampleAgreed_control, rfl, hid⟩

/-- The request for dry mode is answered 200 where nothing disturbs it. -/
theorem sampleDryRequest_ok :
    (sampleHandler.handleApply plainVar sampleDaemon (sampleDryRequest .smooth)
      sampleAgreed).1.status = 200 := by
  obtain ⟨S, hS, hserving, hcontrol, hactive⟩ := sampleDryRequest_written .smooth
  rw [hS]
  exact applyStage_smooth hserving hcontrol (by rw [hactive]; decide)

theorem sampleAgreed_labelled : sampleAgreed.Labelled := by
  have hid := idBytes_trim sampleControl
  rw [trim_idBytes] at hid
  refine ⟨⟨sampleControl, sampleAgreed_control, sampleControl_fingerprint⟩, ?_⟩
  show virtualIdFingerprint (RuntimeConfigSlot.ofConfig sampleControl).idBytes = _
  rw [← hid, sampleControl_fingerprint]
  rfl

/-- The state after the request for dry mode. -/
theorem sampleDryRequest_applied {S : ControlState}
    (hS : S = sampleHandler.applyStep plainVar sampleDaemon sampleAgreed
      (sampleDryRequest .smooth)) :
    S.Serving sampleDaemon ∧ S.control = .ok sampleDry ∧ S.active = .ofConfig sampleDry := by
  obtain ⟨S', hS', hserving, hcontrol, hactive⟩ := sampleDryRequest_written .smooth
  have hgen : S'.active.configGeneration < sampleDry.configGeneration := by
    rw [hactive]
    decide
  have hfiles := (applyStage_spec sampleDaemon .smooth S').1
  rw [hS, DrmidWebHandler.applyStep, hS']
  refine ⟨applyStage_smooth_serving hserving hcontrol (UInt64.le_of_lt hgen), ?_,
    applyStage_smooth_active hserving hcontrol hgen⟩
  exact (congrArg (fun files : FileSystem => controlOf (files .controlV3)) hfiles).trans hcontrol

/-- The request for dry mode again. -/
theorem sampleDryRequest_noOp {S : ControlState} (hserving : S.Serving sampleDaemon)
    (hcontrol : S.control = .ok sampleDry) (hactive : S.active = .ofConfig sampleDry) :
    (sampleHandler.handleApply plainVar sampleDaemon (sampleDryRequest .smooth) S).1.status =
      200 := by
  have hasked : requestedConfig (keepForm kDryRun) (sampleDryRequest .smooth) sampleDry =
      .ok sampleDry := by
    have hid : sampleDry.idBytes = sampleControl.idBytes := rfl
    rw [requestedConfig_keep rfl _ rfl, hid, sampleControl_fingerprint]
    rfl
  have hshows : S.active.Shows sampleDry := by
    rw [hactive]
    exact ⟨rfl, rfl, rfl⟩
  have hreq : (sampleDryRequest .smooth).Smooth := sampleRequest_smooth _ .smooth
  rw [show sampleHandler.handleApply plainVar sampleDaemon (sampleDryRequest .smooth) S = _ from
    sampleHandler_handleApply parse_sampleDry (by decide) .smooth S]
  exact (applyForm_smooth_noOp hserving hreq hcontrol hasked hshows).1

/-- The request for the other mode, twice: the second one is a no-op. -/
theorem persisted_agrees_with_active_dry :
    let S := sampleHandler.applyStep plainVar sampleDaemon sampleAgreed (sampleDryRequest .smooth)
    (sampleHandler.handleApply plainVar sampleDaemon (sampleDryRequest .smooth) S).1.status = 200 ∧
      (sampleHandler.applyStep plainVar sampleDaemon S (sampleDryRequest .smooth)).Agrees ∧
      (sampleHandler.applyStep plainVar sampleDaemon S
        (sampleDryRequest .smooth)).RestoredAtStart := by
  intro S
  have hpub : sampleAgreed.Published := ⟨sampleControl, sampleAgreed_control, rfl⟩
  have hfirst : S.Agrees ∧ S.Published ∧ S.Labelled :=
    handleApply_agrees (fun _ => sampleAgreed_agrees) (fun _ => ⟨hpub, sampleAgreed_labelled⟩)
      sampleDryRequest_ok
  have hnoop : Along (sampleHandler.applyStep plainVar sampleDaemon)
      (fun S req => S.AsksNoOp plainVar req → S.Published ∧ S.Labelled) sampleAgreed
      [sampleDryRequest .smooth, sampleDryRequest .smooth] :=
    along_cons.2 ⟨fun _ => ⟨hpub, sampleAgreed_labelled⟩, along_cons.2 ⟨fun _ => hfirst.2, .nil⟩⟩
  have hkept := persisted_agrees_with_active sampleHandler plainVar sampleDaemon sampleAgreed
    [sampleDryRequest .smooth, sampleDryRequest .smooth] sampleAgreed_agrees hnoop
    [sampleDryRequest .smooth] (sampleDryRequest .smooth) [] rfl
  rw [run_cons, run_nil] at hkept
  obtain ⟨hserving, hcontrol, hactive⟩ := sampleDryRequest_applied (S := S) rfl
  have hok := sampleDryRequest_noOp hserving hcontrol hactive
  obtain ⟨hagrees, -, hrestored⟩ := hkept hok
  exact ⟨hok, hagrees, hrestored⟩

/-- A request for write mode. -/
def sampleWriteRequest : ApplyRequest :=
  sampleRequest "mode=write&id_action=keep&id_hex=" .smooth

theorem sampleWriteRequest_asked :
    requestedConfig (keepForm kWriteTest) sampleWriteRequest sampleDry =
      .ok { sampleControl with configGeneration := 5 } := by
  have hid : sampleDry.idBytes = sampleControl.idBytes := rfl
  rw [requestedConfig_keep rfl _ rfl, hid, sampleControl_fingerprint]
  rfl

/-- The request for write mode is answered at once where the kernel is in that mode, though the
control file is in dry mode. -/
theorem sampleWriteRequest_noOp {S : ControlState} (hserving : S.Serving sampleDaemon)
    (hcontrol : S.control = .ok sampleDry) (hactive : S.active = .ofConfig sampleControl) :
    let r := sampleHandler.handleApply plainVar sampleDaemon sampleWriteRequest S
    r.1.status = 200 ∧ r.2.control = .ok sampleDry ∧ r.2.active = .ofConfig sampleControl := by
  have hshows : S.active.Shows { sampleControl with configGeneration := 5 } := by
    rw [hactive]
    exact ⟨rfl, rfl, rfl⟩
  have hreq : sampleWriteRequest.Smooth := sampleRequest_smooth _ .smooth
  obtain ⟨hok, hcontrol', hactive'⟩ := applyForm_smooth_noOp hserving hreq hcontrol
    sampleWriteRequest_asked hshows
  have happly : sampleHandler.handleApply plainVar sampleDaemon sampleWriteRequest S =
      applyForm sampleDaemon (keepForm kWriteTest) sampleWriteRequest S :=
    sampleHandler_handleApply (by decide) (by decide) .smooth S
  intro r
  rw [show r = _ from happly]
  exact ⟨hok, hcontrol'.trans hcontrol, hactive'.trans hactive⟩

/-- A request for dry mode is persisted and its last exchange fails. The next one asks for write
mode, which the kernel shows already, and is answered 200 over a file in dry mode. -/
theorem noop_over_unpublished_record :
    sampleAgreed.Agrees ∧
      ¬Along (sampleHandler.applyStep plainVar sampleDaemon)
        (fun S req => (sampleHandler.handleApply plainVar sampleDaemon req S).1.status = 200 →
          (sampleHandler.applyStep plainVar sampleDaemon S req).Agrees)
        sampleAgreed [sampleDryRequest .lost, sampleWriteRequest] := by
  refine ⟨sampleAgreed_agrees, fun h => ?_⟩
  obtain ⟨S, hS, hserving, hcontrol, hactive⟩ := sampleDryRequest_written .lost
  have hstep : sampleHandler.applyStep plainVar sampleDaemon sampleAgreed (sampleDryRequest .lost) =
      S := by
    rw [DrmidWebHandler.applyStep, hS, applyStage_lost]
  have hlast := (along_cons.1 (along_cons.1 h).2).1
  rw [hstep] at hlast
  obtain ⟨hok, hcontrol, hactive⟩ := sampleWriteRequest_noOp hserving hcontrol hactive
  obtain ⟨config, hconfig, hmode, -⟩ := hlast hok
  obtain rfl : sampleDry = config := Except.ok.inj (hcontrol.symm.trans hconfig)
  have hwrite : kDryRun = kWriteTest := hmode.trans (congrArg _ hactive)
  exact absurd hwrite (by decide)

/-- A record in write mode whose fingerprint is not the one of its ID. -/
def sampleUnlabelled : ReplacementConfig := { sampleControl with profileFingerprint := 1 }

/-- A request for what the kernel shows is answered 200, but a start refuses the record that the
control file has held all along. -/
theorem noop_over_mislabelled_record :
    let S := sampleState sampleUnlabelled sampleControl
    S.Agrees ∧ S.Published ∧
      (sampleHandler.handleApply plainVar sampleDaemon sampleWriteRequest S).1.status = 200 ∧
      ¬(sampleHandler.applyStep plainVar sampleDaemon S sampleWriteRequest).RestoredAtStart := by
  intro S
  have hfile : S.control = .ok sampleUnlabelled :=
    (sampleState_control sampleControl (by decide)).trans (congrArg _ (trim_of_zero rfl))
  have hid : sampleUnlabelled.idBytes = S.active.idBytes := by
    have hslot := idBytes_trim sampleControl
    rw [trim_idBytes] at hslot
    exact hslot
  have hagrees : S.Agrees := ⟨sampleUnlabelled, hfile, rfl, hid⟩
  have hpub : S.Published := ⟨sampleUnlabelled, hfile, rfl⟩
  have hasked : requestedConfig (keepForm kWriteTest) sampleWriteRequest sampleUnlabelled =
      .ok sampleControl := by
    have hzero : sampleUnlabelled.idBytes = sampleControl.idBytes := rfl
    rw [requestedConfig_keep rfl _ rfl, hzero, sampleControl_fingerprint]
    rfl
  obtain ⟨hok, hcontrol, hactive⟩ := applyForm_smooth_noOp
    (sampleState_serving sampleUnlabelled sampleControl) (sampleRequest_smooth _ .smooth) hfile
    hasked ⟨rfl, rfl, rfl⟩
  have happly : sampleHandler.handleApply plainVar sampleDaemon sampleWriteRequest S =
      applyForm sampleDaemon (keepForm kWriteTest) sampleWriteRequest S :=
    sampleHandler_handleApply (by decide) (by decide) .smooth S
  refine ⟨hagrees, hpub, by rw [happly]; exact hok, fun hrestored => ?_⟩
  rw [DrmidWebHandler.applyStep, happly] at hrestored
  obtain ⟨⟨c, hc, hprint⟩, -⟩ := (ControlState.restoredAtStart_iff
    (hagrees.congr hcontrol hactive) (hpub.congr hcontrol hactive)).1 hrestored
  obtain rfl : sampleUnlabelled = c := Except.ok.inj ((hcontrol.trans hfile).symm.trans hc)
  have hzero : sampleUnlabelled.idBytes = sampleControl.idBytes := rfl
  rw [hzero, sampleControl_fingerprint] at hprint
  exact absurd hprint (by decide)

/-! ## Keeping the ID -/

theorem keeps_iff {after before : RuntimeConfigSlot} :
    after.Keeps before ↔
      after.seedGeneration = before.seedGeneration ∧
      after.profileFingerprint = before.profileFingerprint ∧
      after.virtualIdLength = before.virtualIdLength ∧ after.virtualId = before.virtualId := by
  cases after
  cases before
  simp only [RuntimeConfigSlot.Keeps, RuntimeConfigSlot.mk.injEq, true_and]

/-- A config with the ID of the control file, published, keeps the active ID iff the file holds
it. -/
theorem keeps_published_iff {S : ControlState} {persisted next : ReplacementConfig}
    (hfile : S.control = .ok persisted)
    (hseed : next.seedGeneration = persisted.seedGeneration)
    (hprint : next.profileFingerprint = virtualIdFingerprint persisted.idBytes)
    (hlen : next.virtualIdLength = persisted.virtualIdLength)
    (hid : next.virtualId = persisted.virtualId) :
    (RuntimeConfigSlot.ofConfig next).Keeps S.active ↔ S.HoldsActiveId := by
  obtain ⟨hlength, htrim, -⟩ := controlOf_shape hfile
  have hvirtualId : (RuntimeConfigSlot.ofConfig next).virtualId = persisted.virtualId := by
    rw [ofConfig_virtualId, hid, hlen, ← trim_virtualId, htrim]
  have hfields : (RuntimeConfigSlot.ofConfig next).seedGeneration = next.seedGeneration ∧
      (RuntimeConfigSlot.ofConfig next).profileFingerprint = next.profileFingerprint ∧
      (RuntimeConfigSlot.ofConfig next).virtualIdLength = next.virtualIdLength := ⟨rfl, rfl, rfl⟩
  rw [keeps_iff, hfields.1, hfields.2.1, hfields.2.2, hvirtualId, hseed, hprint, hlen, hlength]
  constructor
  · rintro ⟨hs, hp, hl, hv⟩
    exact ⟨persisted, hfile, hv, hs, hp, hl.symm⟩
  · rintro ⟨c, hc, hv, hs, hp, hl⟩
    obtain rfl : persisted = c := Except.ok.inj (hfile.symm.trans hc)
    exact ⟨hs, hp, hl.symm, hv⟩

/-- **`keep` keeps the current ID**: after any run of requests, a request with `id_action=keep` that
is answered 200 changes at most the mode and the generation of the active config iff it is a no-op
or the control file holds the active ID. -/
theorem keep_keeps_id (H : DrmidWebHandler) (mg : MgGetVar) (cfg : ServerConfig)
    (S₀ : ControlState) (reqs : List ApplyRequest) (req : ApplyRequest) (hkeep : req.Keep mg) :
    let S := run (H.applyStep mg cfg) S₀ reqs
    (H.handleApply mg cfg req S).1.status = 200 →
      ((H.applyStep mg cfg S req).active.Keeps S.active ↔ S.AsksNoOp mg req ∨ S.HoldsActiveId) := by
  intro S hok
  obtain ⟨form, hform, haction⟩ := hkeep
  rcases handleApply_effect H mg cfg req S with ⟨hne, -⟩ | ⟨form', hform', heffect⟩
  · exact absurd hok hne
  obtain rfl : form = form' := Option.some.inj (hform.symm.trans hform')
  unfold DrmidWebHandler.applyStep
  cases heffect with
  | refused hne _ _ => exact absurd hok hne
  | noOp hfile hasked hshows hcontrol hactive _ =>
    refine ⟨fun _ => .inl ⟨form, _, _, hform, hfile, hasked, hshows⟩, fun _ => ?_⟩
    rw [hactive]
    rfl
  | @written persisted config next hfile hasked hshows hnext _ hactive _ =>
    rcases hactive with ⟨hne, -⟩ | hactive
    · exact absurd hok hne
    have hlen := (controlOf_shape hfile).1
    rw [requestedConfig_keep haction req hlen] at hasked
    have hconfig := (Except.ok.inj hasked).symm
    -- the no-op test has failed for this very config
    have hno : ¬S.AsksNoOp mg req := by
      rintro ⟨form', persisted', config', hform', hfile', hasked', hshows'⟩
      obtain rfl : form = form' := Option.some.inj (hform.symm.trans hform')
      obtain rfl : persisted = persisted' := Except.ok.inj (hfile.symm.trans hfile')
      rw [requestedConfig_keep haction req hlen] at hasked'
      obtain rfl : config = config' := hconfig.trans (Except.ok.inj hasked')
      exact hshows hshows'
    rw [hactive, or_iff_right hno]
    refine keeps_published_iff hfile ?_ ?_ ?_ ?_ <;> rw [hnext, hconfig]

theorem sampleDryRequest_keep (apply : IpcExchange) : (sampleDryRequest apply).Keep plainVar :=
  ⟨keepForm kDryRun, parse_sampleDry, rfl⟩

/-- One request for the other mode, of a file that holds the active ID. -/
theorem keep_keeps_id_dry :
    (sampleHandler.handleApply plainVar sampleDaemon (sampleDryRequest .smooth)
        sampleAgreed).1.status = 200 ∧
      (sampleHandler.applyStep plainVar sampleDaemon sampleAgreed
        (sampleDryRequest .smooth)).active.Keeps sampleAgreed.active := by
  have hok := sampleDryRequest_ok
  have hid : sampleControl.virtualId = sampleAgreed.active.virtualId :=
    ((ofConfig_virtualId sampleControl).trans (copyId_zero _)).symm
  have hholds : sampleAgreed.HoldsActiveId :=
    ⟨sampleControl, sampleAgreed_control, hid, rfl, sampleControl_fingerprint, rfl⟩
  exact ⟨hok, (keep_keeps_id sampleHandler plainVar sampleDaemon sampleAgreed []
    (sampleDryRequest .smooth) (sampleDryRequest_keep .smooth) hok).2 (.inr hholds)⟩

/-- The form of a request for a random ID, in dry mode. -/
def randomForm : ApplyForm := ⟨kDryRun, .random, []⟩

/-- The request that sends it. -/
def sampleRandomRequest (apply : IpcExchange) : ApplyRequest :=
  sampleRequest "mode=dry&id_action=random&id_hex=" apply

/-- The config that it writes, the random source having given ones. -/
def sampleRandom : ReplacementConfig :=
  { sampleDry with
    profileFingerprint := 18088642080886672754
    virtualId := .ofFn fun i => (Vector.replicate 32 1).toList.getD i.val 0 }

theorem sampleRandom_fingerprint :
    virtualIdFingerprint sampleRandom.idBytes = sampleRandom.profileFingerprint := by
  decide +kernel

/-- The two sample IDs are told apart by their fingerprints. -/
theorem sampleRandom_idBytes : sampleRandom.idBytes ≠ sampleControl.idBytes := by
  intro h
  have hprint := sampleRandom_fingerprint
  rw [h, sampleControl_fingerprint] at hprint
  exact absurd hprint (by decide)

theorem sampleRandom_trim : sampleRandom.trim = sampleRandom := by
  have hid : copyId sampleRandom.virtualId sampleRandom.virtualIdLength =
      sampleRandom.virtualId := by
    have hlen : sampleRandom.virtualIdLength.toNat = 32 := rfl
    ext i hi
    rw [getElem_copyId, hlen]
    split
    · rfl
    · simp [sampleRandom, *]
  calc sampleRandom.trim
      = { sampleRandom with
          virtualId := copyId sampleRandom.virtualId sampleRandom.virtualIdLength } := rfl
    _ = sampleRandom := by rw [hid]

theorem sampleRandomRequest_asked (apply : IpcExchange) :
    requestedConfig randomForm (sampleRandomRequest apply) sampleControl =
      .ok { sampleRandom with configGeneration := 4 } := by
  have hfill : fillRandomId (sampleRandomRequest apply).random = some sampleRandom.virtualId := rfl
  simp only [requestedConfig, chooseId, show randomForm.action = .random from rfl, hfill]
  rw [← sampleRandom_fingerprint]
  rfl

/-- The request for a random ID writes its config, whatever becomes of its last exchange. -/
theorem sampleRandomRequest_written (apply : IpcExchange) :
    ∃ S, sampleHandler.handleApply plainVar sampleDaemon (sampleRandomRequest apply) sampleAgreed =
        applyStage sampleDaemon apply S ∧ S.Serving sampleDaemon ∧
      S.control = .ok sampleRandom ∧ S.active = .ofConfig sampleControl := by
  have hshows : ¬sampleAgreed.active.Shows { sampleRandom with configGeneration := 4 } := fun h =>
    absurd h.1 (by decide : ¬kWriteTest = kDryRun)
  obtain ⟨S, hS, hserving, hcontrol, hactive⟩ := applyForm_smooth_written
    (sampleState_serving sampleControl sampleControl) (sampleRequest_smooth _ apply)
    sampleAgreed_control (sampleRandomRequest_asked apply) hshows (by decide)
    (rfl : sampleRandom = _) (by decide)
  refine ⟨S, ?_, hserving, hcontrol.trans (congrArg _ sampleRandom_trim), hactive⟩
  exact (sampleHandler_handleApply (by decide) (by decide) apply sampleAgreed).trans hS

/-- The request for dry mode publishes the ID of the control file. -/
theorem sampleDryRequest_publishes {S : ControlState} (hserving : S.Serving sampleDaemon)
    (hcontrol : S.control = .ok sampleRandom) (hactive : S.active = .ofConfig sampleControl) :
    let r := sampleHandler.handleApply plainVar sampleDaemon (sampleDryRequest .smooth) S
    r.1.status = 200 ∧ r.2.active = .ofConfig sampleRandom := by
  have hasked : requestedConfig (keepForm kDryRun) (sampleDryRequest .smooth) sampleRandom =
      .ok sampleRandom := by
    rw [requestedConfig_keep rfl _ rfl, sampleRandom_fingerprint]
    rfl
  have hshows : ¬S.active.Shows sampleRandom := fun h => by
    have hmode : kWriteTest = kDryRun := (congrArg _ hactive).symm.trans h.1
    exact absurd hmode (by decide)
  have hgen : S.active.configGeneration = 4 := congrArg _ hactive
  have hreq : (sampleDryRequest .smooth).Smooth := sampleRequest_smooth _ .smooth
  have hnext : sampleRandom =
      { sampleRandom with configGeneration := S.active.configGeneration + 1 } := by
    rw [hgen]
    rfl
  obtain ⟨S', hS', hserving', hcontrol', hactive'⟩ := applyForm_smooth_written hserving hreq hcontrol
    hasked hshows (by rw [hgen]; decide) hnext (by decide)
  have happly : sampleHandler.handleApply plainVar sampleDaemon (sampleDryRequest .smooth) S =
      applyStage sampleDaemon .smooth S' :=
    (sampleHandler_handleApply parse_sampleDry (by decide) .smooth S).trans hS'
  have hlt : S'.active.configGeneration < sampleRandom.trim.configGeneration := by
    rw [hactive', hgen, trim_configGeneration]
    decide
  intro r
  rw [show r = _ from happly]
  exact ⟨applyStage_smooth hserving' hcontrol' (UInt64.le_of_lt hlt),
    (applyStage_smooth_active hserving' hcontrol' hlt).trans (ofConfig_trim _)⟩

/-- A request for a random ID is persisted and its last exchange fails. The next one keeps the ID
and asks for dry mode: it is answered 200 and has published the random ID. -/
theorem keep_publishes_unpublished_id :
    let S := run (sampleHandler.applyStep plainVar sampleDaemon) sampleAgreed
      [sampleRandomRequest .lost]
    (sampleDryRequest .smooth).Keep plainVar ∧
      (sampleHandler.handleApply plainVar sampleDaemon (sampleDryRequest .smooth) S).1.status =
        200 ∧
      (sampleHandler.applyStep plainVar sampleDaemon S (sampleDryRequest .smooth)).active.virtualId ≠
        S.active.virtualId := by
  intro S
  obtain ⟨S', hS', hserving, hcontrol, hactive⟩ := sampleRandomRequest_written .lost
  have hS : S = S' := by
    refine run_cons.trans ?_
    rw [run_nil, DrmidWebHandler.applyStep, hS', applyStage_lost]
  rw [hS]
  obtain ⟨hok, hpub⟩ := sampleDryRequest_publishes hserving hcontrol hactive
  refine ⟨sampleDryRequest_keep .smooth, hok, ?_⟩
  rw [DrmidWebHandler.applyStep, hpub, hactive]
  exact fun h => sampleRandom_idBytes (idBytes_of_ofConfig rfl h)

/-! ## Apply and restart -/

/-- The bytes of the ID in a record. -/
def recordId (content : Bytes) : Bytes := (content.drop 48).take 32

/-- The fingerprint in a record. -/
def recordFingerprint (content : Bytes) : UInt64 := at64 content 32

theorem idBytes_fillConfigFromV3 {content : Bytes}
    (hlen : content.length = kRuntimeControlRecordBytes)
    (hid : (RuntimeControlRecordV3.ofBytes content).virtualIdLength = kWidevineDeviceUniqueIdBytes) :
    (fillConfigFromV3 (.ofBytes content)).idBytes = recordId content := by
  simp only [ReplacementConfig.idBytes, fillConfigFromV3, toList_copyId_take, hid]
  have h128 : content.length = 128 := hlen
  have h32 : kWidevineDeviceUniqueIdBytes.toNat = 32 := rfl
  apply List.ext_getElem
  · simp [recordId, h128, h32]
  · intro i hi _
    have hlt : i < 32 := by
      rw [h32, List.length_take] at hi
      omega
    have hin : 48 + i < content.length := by omega
    simp [recordId, RuntimeControlRecordV3.ofBytes, hin]

theorem recordId_recordOfConfig {config : ReplacementConfig}
    (hlen : config.virtualIdLength = kWidevineDeviceUniqueIdBytes) :
    recordId (recordOfConfig config).toBytes = config.trim.idBytes := by
  rw [← idBytes_fillConfigFromV3 (RuntimeControlRecordV3.length_toBytes _)
    (by rw [RuntimeControlRecordV3.ofBytes_toBytes]; exact hlen),
    RuntimeControlRecordV3.ofBytes_toBytes, fillConfigFromV3_recordOfConfig]

theorem recordFingerprint_recordOfConfig (config : ReplacementConfig) :
    recordFingerprint (recordOfConfig config).toBytes = config.profileFingerprint :=
  congrArg RuntimeControlRecordV3.profileFingerprint (RuntimeControlRecordV3.ofBytes_toBytes _)

/-- **What can be applied can be restored**, exactly when the fingerprint of the record is the one
of its ID: a later start of the daemon, of whose calls none fails, then installs the config that was
active. -/
theorem applied_can_be_restored {cfg : ServerConfig} {ex : IpcExchange} {S : ControlState}
    {content : Bytes} (happlied : Applied cfg ex S content) {files : FileSystem}
    (hfiles : files .controlV3 = some content) (initial : ReplacementConfig)
    {identities : HalIdentityConfig} (hids : validateHalIdentities identities = true)
    {script : Nat → FsOutcome} (hscript : ∀ n, script n ≠ .fails) :
    StartsWith initial identities script files (serveRequest cfg .apply ex S).2.active ↔
      virtualIdFingerprint (recordId content) = recordFingerprint content := by
  obtain ⟨-, -, config, hconfig, hactive⟩ := happlied
  obtain ⟨hlen, -, hvalid⟩ := controlOf_shape hconfig
  obtain ⟨_, hcontent, hsize, -, rfl⟩ := controlOf_eq_ok hconfig
  cases hcontent
  have hresult := restore_present initial (hfiles ▸ hconfig) hscript
  have hiff : restorable (fillConfigFromV3 (.ofBytes content)) = true ↔
      virtualIdFingerprint (recordId content) = recordFingerprint content := by
    rw [restorable_iff hvalid, idBytes_fillConfigFromV3 hsize hlen]
    rfl
  rw [← hiff, StartsWith, hresult, restoreResult, hactive]
  constructor
  · rintro ⟨c, ctx, hc, -⟩
    by_contra hno
    rw [if_neg hno] at hc
    cases hc
  · intro hok
    obtain ⟨ctx, hctx, hslot⟩ := installReadonlyParserHook_active hvalid hids
    exact ⟨_, ctx, if_pos hok, hctx, hslot⟩

/-- A control file that is newer than the installed config. -/
theorem sampleState_applied {file : ReplacementConfig} (hvalid : validateConfig file = true)
    (hgen : 4 < file.configGeneration) :
    Applied sampleDaemon .smooth (sampleState file sampleControl) (recordOfConfig file).toBytes :=
  applied_smooth (sampleState_serving file sampleControl) rfl (controlOf_write hvalid)
    (by rwa [trim_configGeneration])

/-- The record of dry mode is applied, and restored by the next start. -/
theorem applied_can_be_restored_dry :
    Applied sampleDaemon .smooth (sampleState sampleDry sampleControl)
        (recordOfConfig sampleDry).toBytes ∧
      StartsWith sampleControl sampleIdentities smoothScript
        (sampleState sampleDry sampleControl).files
        (serveRequest sampleDaemon .apply .smooth (sampleState sampleDry sampleControl)).2.active := by
  have happlied := sampleState_applied (by decide : validateConfig sampleDry = true) (by decide)
  have hprint : virtualIdFingerprint (recordId (recordOfConfig sampleDry).toBytes) =
      recordFingerprint (recordOfConfig sampleDry).toBytes := by
    rw [recordId_recordOfConfig rfl, recordFingerprint_recordOfConfig, trim_of_zero rfl]
    exact sampleControl_fingerprint
  exact ⟨happlied, (applied_can_be_restored happlied rfl sampleControl (by decide)
    smoothScript_ne_fails).2 hprint⟩

/-- A config whose fingerprint is not the one of its ID. -/
def sampleMislabelled : ReplacementConfig := { sampleDry with profileFingerprint := 1 }

/-- A record with a wrong fingerprint is applied, and refused by the next start. -/
theorem applied_is_refused_at_start :
    Applied sampleDaemon .smooth (sampleState sampleMislabelled sampleControl)
        (recordOfConfig sampleMislabelled).toBytes ∧
      ((restoreRuntimeControl sampleControl).eval FileSystem.exec smoothScript
        (sampleState sampleMislabelled sampleControl).files).1 = .error .errModuleStorageType := by
  have hvalid : validateConfig sampleMislabelled = true := by decide
  have hconfig : controlOf ((sampleState sampleMislabelled sampleControl).files .controlV3) =
      .ok sampleMislabelled.trim := controlOf_write hvalid
  have hid : sampleMislabelled.trim.idBytes = sampleControl.idBytes := by
    rw [trim_of_zero rfl]
    rfl
  have hbad : ¬restorable sampleMislabelled.trim = true := by
    rw [restorable_iff (controlOf_shape hconfig).2.2, hid, sampleControl_fingerprint]
    decide
  refine ⟨sampleState_applied hvalid (by decide), ?_⟩
  rw [restore_present sampleControl hconfig smoothScript_ne_fails]
  exact if_neg hbad

end Drmid
