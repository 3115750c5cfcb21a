import Drmid.Control.Monitor
import Drmid.Hook.Proof.Publish

/-!
# What the monitor's functions preserve

`Synced` holds between any two of them: the monitor's identity set is the kernel's, and the sets
published so far have growing generations and never replace one non-empty set by another
(`Daemon.Alternates`). `Settled` adds what holds at the head of the server's loop, where backend,
pidfds and set agree and the retry delay is in its bounds. Each function keeps `Synced` whatever
fails and ends `Settled` when it reports success (`clear_spec`, `adopt_spec`, `rediscover_spec`,
`initialize_spec`).
-/

namespace Drmid

open KernelCounterContext Lib

/-! ## Counters -/

theorem incrementKernelCounter_ctx (session : CounterHookSession) (c : Counter) (f : CounterFaults)
    (ctx : KernelCounterContext) :
    ctx.SameButTelemetry (incrementKernelCounter session c f ctx).2 := by
  unfold incrementKernelCounter
  cases readCounterSnapshot session f.read ctx with
  | error err => exact .rfl
  | ok snapshot =>
    dsimp only
    split
    · exact .rfl
    · rcases f.write with _ | ⟨err, dirt⟩
      · exact ⟨_, _, _, _, rfl⟩
      · exact ⟨_, _, _, _, rfl⟩

/-- The identity register does not read telemetry. -/
theorem identityView_telemetry {ctx ctx' : KernelCounterContext} (h : ctx.SameButTelemetry ctx') :
    identityRegister.view ctx' = identityRegister.view ctx := by
  obtain ⟨_, _, _, _, rfl⟩ := h
  rfl

/-! ## Pidfds -/

theorem openPidfdsFrom_spec (answers : Nat → Except Errno Nat) (tgids : List UInt32) (index : Nat)
    (opened : List Pidfd) :
    let r := openPidfdsFrom answers tgids index opened
    (r.1 = .ready → r.2.map Pidfd.tgid = opened.map Pidfd.tgid ++ tgids) ∧
      (r.1 ≠ .ready → r.2 = []) := by
  induction tgids generalizing index opened with
  | nil => exact ⟨fun _ => by simp [openPidfdsFrom], fun h => absurd rfl h⟩
  | cons tgid rest ih =>
    simp only [openPidfdsFrom]
    cases openHalPidfd tgid (answers index) with
    | ok fd =>
      obtain ⟨hready, hother⟩ := ih (index + 1) (opened ++ [⟨fd, tgid⟩])
      refine ⟨fun h => ?_, hother⟩
      rw [hready h]
      simp
    | error e =>
      refine ⟨fun h => ?_, fun _ => rfl⟩
      dsimp only at h
      split at h <;> cases h

namespace Daemon

variable {session : CounterHookSession} {d d' : Daemon} {err : KModErr}

/-- `open_identity_pidfds` opens one pidfd for each TGID, or leaves none open. -/
theorem openIdentityPidfds_spec (identities : HalIdentityConfig)
    (answers : Nat → Except Errno Nat) (d : Daemon) :
    ∃ result pidfds, d.openIdentityPidfds identities answers = (result, d.setPidfds pidfds) ∧
      (result = .ready → pidfds.map Pidfd.tgid = identities.tgidList) ∧
      (result ≠ .ready → pidfds = []) := by
  obtain ⟨hready, hother⟩ := openPidfdsFrom_spec answers identities.tgidList 0 []
  exact ⟨_, _, rfl, hready, hother⟩

/-! ## The invariants -/

/-- No two non-empty sets were published one after the other. -/
def Alternates (history : List HalIdentitySet) : Prop :=
  history.IsChain fun later earlier => earlier.count ≠ 0 → later.count = 0

/-- The daemon's and the kernel's view of the identities agree. -/
structure Synced (d : Daemon) : Prop where
  kernel : d.ctx.activeIdentities = .ofConfig d.monitor.active
  valid : validateHalIdentities d.monitor.active = true
  chain : DoubleSlot.Chain HalIdentitySet.WellFormed (fun s => s.generation.toNat)
    (identityRegister.view d.ctx) d.history
  alternates : Alternates d.history

end Daemon

/-- The backend, the pidfds and the active set agree. -/
def HalMonitorState.Consistent (m : HalMonitorState) : Prop :=
  match m.backend with
  | .pidfd => m.pidfds.map Pidfd.tgid = m.active.tgidList ∧ m.active.count ≠ 0
  | .procfsFallback => m.pidfds = [] ∧ m.active.count ≠ 0
  | .waiting => m.pidfds = [] ∧ m.active.count = 0

/-- The retry delay is in its bounds. -/
def HalMonitorState.Bounded (m : HalMonitorState) : Prop := 50 ≤ m.retryMs ∧ m.retryMs ≤ 2000

namespace Daemon

variable {session : CounterHookSession} {d d' : Daemon} {err : KModErr}

/-- What holds at the head of the loop. -/
structure Settled (d : Daemon) : Prop extends Synced d where
  consistent : d.monitor.Consistent
  bounded : d.monitor.Bounded

/-- `d'` is what a function that reported `err` made of `d`: in step with the kernel, settled if
`err` is success, and with the configs untouched. -/
structure Kept (d : Daemon) (r : KModErr × Daemon) : Prop where
  synced : r.2.Synced
  settled : r.1 = .ok → r.2.Settled
  configs : d.ctx.SameConfigs r.2.ctx

theorem Synced.of_monitor (h : d.Synced) {m : HalMonitorState} (hm : m.active = d.monitor.active) :
    Synced { d with monitor := m } :=
  ⟨h.kernel.trans (by rw [hm]), by rw [hm]; exact h.valid, h.chain, h.alternates⟩

theorem Synced.telemetry (h : d.Synced) {ctx : KernelCounterContext}
    (hctx : d.ctx.SameButTelemetry ctx) : Synced { d with ctx := ctx } := by
  have hview := identityView_telemetry hctx
  refine ⟨?_, h.valid, ?_, h.alternates⟩
  · exact (congrArg DoubleSlot.current hview).trans h.kernel
  · change DoubleSlot.Chain _ _ (identityRegister.view ctx) _
    rw [hview]
    exact h.chain

theorem count_eq_zero_of_waiting (h : d.monitor.Consistent) (hb : d.monitor.backend = .waiting) :
    d.monitor.pidfds = [] ∧ d.monitor.active.count = 0 := by
  rwa [HalMonitorState.Consistent, hb] at h

/-- An empty set is only there while the monitor waits. -/
theorem waiting_of_count (h : d.monitor.Consistent) (hc : d.monitor.active.count = 0) :
    d.monitor.backend = .waiting ∧ d.monitor.pidfds = [] := by
  unfold HalMonitorState.Consistent at h
  split at h
  · exact absurd hc h.2
  · exact absurd hc h.2
  · rename_i hb
    exact ⟨hb, h.1⟩

/-! ## Publication -/

/-- The two ways `publish_monitored_identities` ends. -/
inductive PublishStep (d : Daemon) (identities : HalIdentityConfig) : KModErr × Daemon → Prop
  | failed (err : KModFailure) (ctx : KernelCounterContext)
      (hview : DoubleSlot.Attempt (HalIdentitySet.ofConfig identities)
        (identityRegister.view d.ctx) (identityRegister.view ctx) false)
      (hctx : d.ctx.SameConfigs ctx) : PublishStep d identities (err, { d with ctx := ctx })
  | published (ctx : KernelCounterContext) (next : HalIdentityConfig)
      (hnext : next.count = identities.count ∧ next.tgids = identities.tgids)
      (hvalid : validateHalIdentities next = true)
      (hnewer : d.ctx.activeIdentities.generation < next.generation)
      (hview : DoubleSlot.Attempt (HalIdentitySet.ofConfig next)
        (identityRegister.view d.ctx) (identityRegister.view ctx) true)
      (hctx : d.ctx.SameConfigs ctx) :
      PublishStep d identities (.ok, { d with
        ctx := ctx
        monitor := { d.monitor with active := next }
        history := .ofConfig next :: d.history })

theorem publishMonitoredIdentities_step (session : CounterHookSession)
    (identities : HalIdentityConfig) (f : MonitorFaults) (d : Daemon) :
    PublishStep d identities (d.publishMonitoredIdentities session identities f) := by
  unfold publishMonitoredIdentities
  split
  · exact .failed ⟨.errModuleParam, by decide⟩ d.ctx .refused ⟨rfl, rfl⟩
  dsimp only
  generalize hn : ({ identities with generation := d.monitor.active.generation + 1 } :
    HalIdentityConfig) = next
  have hkeep := publish_keeps identityRegister_keeps_configs session (validateHalIdentities next)
    (.ofConfig next) f.publish d.ctx
  have hconf : d.ctx.SameConfigs (publishHalIdentities session next f.publish d.ctx).ctx :=
    (Prod.mk.inj hkeep).symm
  split
  · rename_i hres
    have hctx := incrementKernelCounter_ctx session .halIdentityRejections f.rejection
      (publishHalIdentities session next f.publish d.ctx).ctx
    have ha := publish_attempt_failed (r := identityRegister) hres
    refine .failed ⟨_, hres⟩ _ ?_ (hconf.trans hctx.configs)
    rw [identityView_telemetry hctx]
    exact ha.of_failed
  · rename_i hres
    have hok := Decidable.not_not.1 hres
    have hacc := acceptable_of_publish_ok (r := identityRegister) hok
    exact .published _ next ⟨by rw [← hn], by rw [← hn]⟩ hacc.valid hacc.newer
      (publish_attempt_ok (r := identityRegister) hok) hconf

/-- A publication keeps the two views in step, if it does not follow a non-empty set by
another. -/
theorem PublishStep.synced {identities : HalIdentityConfig} {r : KModErr × Daemon}
    (hstep : PublishStep d identities r) (h : d.Synced)
    (hempty : d.monitor.active.count ≠ 0 → identities.count = 0) : r.2.Synced := by
  cases hstep with
  | failed err ctx hview hctx =>
    refine ⟨?_, h.valid, h.chain.attempt hview (fun hf => by cases hf), h.alternates⟩
    exact hview.failed.2.trans h.kernel
  | published ctx next hnext hvalid hnewer hview hctx =>
    have hchain := h.chain.attempt hview fun _ =>
      ⟨⟨next, hvalid, HalIdentitySet.ofConfig_holds next⟩, UInt64.lt_iff_toNat_lt.1 hnewer⟩
    refine ⟨hview.succeeded, hvalid, hchain, ?_⟩
    refine List.isChain_cons.2 ⟨fun earlier hearlier hc => ?_, h.alternates⟩
    -- the set published before is the one the monitor held
    have hactive : earlier = .ofConfig d.monitor.active := by
      have hhead := h.chain.head.symm.trans hearlier
      exact (Option.some.inj hhead).symm.trans h.kernel
    rw [hactive] at hc
    exact hnext.1.trans (hempty hc)

theorem PublishStep.configs {identities : HalIdentityConfig} {r : KModErr × Daemon}
    (hstep : PublishStep d identities r) : d.ctx.SameConfigs r.2.ctx := by
  cases hstep with
  | failed err ctx hview hctx => exact hctx
  | published ctx next hnext hvalid hnewer hview hctx => exact hctx

/-! ## Clearing -/

/-- No process is monitored and the monitor waits. -/
structure Cleared (d : Daemon) : Prop extends Settled d where
  empty : d.monitor.active.count = 0

theorem Synced.wait (h : d.Synced) (hp : d.monitor.pidfds = []) (hc : d.monitor.active.count = 0) :
    d.wait.Cleared :=
  have hbounds : 50 ≤ kHalRediscoveryInitialMs ∧ kHalRediscoveryInitialMs ≤ 2000 := by decide
  ⟨⟨h.of_monitor rfl, ⟨hp, hc⟩, hbounds⟩, hc⟩

theorem clear_spec (session : CounterHookSession) (countRestart : Bool) (f : ClearFaults)
    (h : d.Synced) :
    let r := d.clearMonitoredIdentities session countRestart f
    r.2.Synced ∧ (r.1 = .ok → r.2.Cleared) ∧ d.ctx.SameConfigs r.2.ctx := by
  have hclosed : d.closePidfds.Synced := h.of_monitor rfl
  unfold clearMonitoredIdentities
  dsimp only
  split
  · rename_i hc
    have hw := hclosed.wait rfl hc
    exact ⟨hw.toSynced, fun _ => hw, rfl, rfl⟩
  have hstep := publishMonitoredIdentities_step session .zero f.toMonitorFaults d.closePidfds
  have hsync := hstep.synced hclosed fun _ => rfl
  revert hstep hsync
  generalize d.closePidfds.publishMonitoredIdentities session .zero f.toMonitorFaults = r
  intro hstep hsync
  cases hstep with
  | failed err ctx hview hctx =>
    dsimp only
    rw [if_pos err.2]
    exact ⟨hsync, fun hok => absurd hok err.2, hctx⟩
  | published ctx next hnext hvalid hnewer hview hctx =>
    simp only [ne_eq, not_true_eq_false, if_false]
    have hcount : next.count = 0 := hnext.1
    split
    · have htel := incrementKernelCounter_ctx session .halIdentityRestarts f.restart ctx
      have hw := (hsync.telemetry htel).wait rfl hcount
      exact ⟨hw.toSynced, fun _ => hw, hctx.trans htel.configs⟩
    · have hw := hsync.wait rfl hcount
      exact ⟨hw.toSynced, fun _ => hw, hctx⟩

/-! ## Adopting -/

theorem bounded_doubleRetry (h : d.monitor.Bounded) : d.doubleRetry.monitor.Bounded := by
  obtain ⟨hlo, hhi⟩ := h
  rw [UInt32.le_iff_toNat_le] at hlo hhi
  have htwo : (d.monitor.retryMs * 2).toNat = d.monitor.retryMs.toNat * 2 := by
    rw [UInt32.toNat_mul]
    simp at hhi ⊢
    omega
  unfold HalMonitorState.Bounded doubleRetry
  dsimp only
  by_cases hle : kHalRediscoveryMaximumMs < d.monitor.retryMs * 2
  · rw [if_pos hle]
    decide
  · rw [if_neg hle]
    rw [UInt32.not_lt, UInt32.le_iff_toNat_le] at hle
    refine ⟨?_, UInt32.le_iff_toNat_le.2 hle⟩
    rw [UInt32.le_iff_toNat_le, htwo]
    simp at hlo ⊢
    omega

theorem Cleared.backOff (h : d.Cleared) : d.backOff.Cleared :=
  ⟨⟨h.toSynced.of_monitor rfl, ⟨(waiting_of_count h.consistent h.empty).2, h.empty⟩,
    bounded_doubleRetry (d := { d with monitor := { d.monitor with backend := .waiting } })
      h.bounded⟩, h.empty⟩

theorem Cleared.doubleRetry (h : d.Cleared) : d.doubleRetry.Cleared :=
  ⟨⟨h.toSynced.of_monitor rfl, h.consistent, bounded_doubleRetry h.bounded⟩, h.empty⟩

theorem count_eq_of_same {left right : HalIdentityConfig} (h : sameHalTgids left right = true) :
    left.count = right.count := by
  simp only [sameHalTgids, Bool.and_eq_true, beq_iff_eq] at h
  exact h.1

/-- A monitor that watches the set through one pidfd for each process, or through none. -/
theorem Synced.watch (h : d.Synced) (result : PidfdOpenResult)
    (hready : result = .ready → d.monitor.pidfds.map Pidfd.tgid = d.monitor.active.tgidList)
    (hother : result ≠ .ready → d.monitor.pidfds = []) (hc : d.monitor.active.count ≠ 0) :
    (d.watch result).Settled := by
  have hbounds : 50 ≤ kHalRediscoveryInitialMs ∧ kHalRediscoveryInitialMs ≤ 2000 := by decide
  refine ⟨h.of_monitor rfl, ?_, hbounds⟩
  unfold Daemon.watch HalMonitorState.Consistent
  by_cases hr : result = .ready
  · rw [if_pos hr]
    exact ⟨hready hr, hc⟩
  · rw [if_neg hr]
    exact ⟨hother hr, hc⟩

/-- The discovered set is published after an empty one and watched. -/
theorem publishAndWatch_new (session : CounterHookSession) {discovered : HalIdentityConfig}
    {result : PidfdOpenResult} (f : MonitorFaults) (h : d.Synced)
    (hempty : d.monitor.active.count = 0) (hc : discovered.count ≠ 0)
    (hready : result = .ready → d.monitor.pidfds.map Pidfd.tgid = discovered.tgidList)
    (hother : result ≠ .ready → d.monitor.pidfds = []) :
    Kept d (d.publishAndWatch session discovered result f) := by
  have hdiff : sameHalTgids d.monitor.active discovered = false := by
    by_contra hsame
    exact hc ((count_eq_of_same (by simpa using hsame)).symm.trans hempty)
  have hstep := publishMonitoredIdentities_step session discovered f d
  have hsync := hstep.synced h fun hne => absurd hempty hne
  simp only [publishAndWatch, hdiff, Bool.not_false, if_true]
  revert hstep hsync
  generalize d.publishMonitoredIdentities session discovered f = r
  intro hstep hsync
  cases hstep with
  | failed err ctx hview hctx =>
    rw [if_pos err.2]
    exact ⟨hsync, fun hok => absurd hok err.2, hctx⟩
  | published ctx next hnext hvalid hnewer hview hctx =>
    simp only [ne_eq, not_true_eq_false, if_false]
    have htgids : next.tgidList = discovered.tgidList := by
      rw [HalIdentityConfig.tgidList, hnext.1, hnext.2]
      rfl
    have hs := hsync.watch result (fun hr => (hready hr).trans htgids.symm) hother
      (fun h0 => hc (hnext.1.symm.trans h0))
    exact ⟨hs.toSynced, fun _ => hs, hctx⟩

/-- Adopting what was discovered, when nothing is monitored. -/
theorem adopt_cleared (session : CounterHookSession) (discovered : HalIdentityConfig)
    (answers : Nat → Except Errno Nat) (f : MonitorFaults) (h : d.Cleared) :
    Kept d (d.adoptDiscoveredIdentities session discovered answers f) := by
  have hb := (waiting_of_count h.consistent h.empty).1
  unfold adoptDiscoveredIdentities
  by_cases hc : discovered.count = 0
  · rw [if_pos hc]
    exact ⟨h.backOff.toSynced, fun _ => h.backOff.toSettled, rfl, rfl⟩
  rw [if_neg hc]
  obtain ⟨result, pidfds, hopen, hready, hother⟩ :=
    openIdentityPidfds_spec discovered answers d
  have hsync : (d.setPidfds pidfds).Synced := h.toSynced.of_monitor rfl
  rw [if_neg (by rw [hb]; decide), hopen]
  by_cases hgone : result = .processGone
  · simp only [if_pos hgone]
    have hp : pidfds = [] := hother (by rw [hgone]; decide)
    have hcons : (d.setPidfds pidfds).monitor.Consistent := by
      rw [HalMonitorState.Consistent, show (d.setPidfds pidfds).monitor.backend = _ from hb]
      exact ⟨hp, h.empty⟩
    have hback := Cleared.backOff ⟨⟨hsync, hcons, h.bounded⟩, h.empty⟩
    exact ⟨hback.toSynced, fun _ => hback.toSettled, rfl, rfl⟩
  · simp only [if_neg hgone]
    have hk := publishAndWatch_new session f hsync h.empty hc hready hother
    exact ⟨hk.synced, hk.settled, hk.configs⟩

/-- Finding the processes that are monitored without pidfds again. -/
theorem adopt_same (session : CounterHookSession) {discovered : HalIdentityConfig}
    (answers : Nat → Except Errno Nat) (f : MonitorFaults) (h : d.Settled)
    (hb : d.monitor.backend = .procfsFallback)
    (hsame : sameHalTgids d.monitor.active discovered = true) :
    Kept d (d.adoptDiscoveredIdentities session discovered answers f) := by
  have hcons := h.consistent
  rw [HalMonitorState.Consistent, hb] at hcons
  have hs := h.toSynced.watch .unsupported (fun hr => by cases hr) (fun _ => hcons.1) hcons.2
  unfold adoptDiscoveredIdentities
  rw [if_neg (by rw [← count_eq_of_same hsame]; exact hcons.2), if_pos hb]
  simp only [publishAndWatch, hsame, reduceCtorEq, if_false, Bool.not_true, Bool.false_eq_true,
    ne_eq, not_true_eq_false]
  exact ⟨hs.toSynced, fun _ => hs, rfl, rfl⟩

/-! ## Rediscovery -/

theorem Synced.wake (h : d.Synced) : d.wake.Synced := h.of_monitor rfl

theorem Settled.wake (h : d.Settled) : d.wake.Settled :=
  ⟨h.toSynced.wake, h.consistent, h.bounded⟩

/-- What a settled monitor without pidfds watches, it either keeps or clears. -/
theorem rediscover_spec (session : CounterHookSession) (e : HalScan) (h : d.Settled)
    (hb : d.monitor.backend ≠ .pidfd) : Kept d (d.rediscoverHalIdentities session e) := by
  have hw := h.wake
  unfold rediscoverHalIdentities
  dsimp only
  cases hdisc : discoverWidevineHalIdentities _ e.scan with
  | error err =>
    refine ⟨hw.toSynced, fun _ => hw, rfl, rfl⟩
  | ok discovered =>
    dsimp only
    by_cases hc : d.wake.monitor.active.count = 0
    · have hk := adopt_cleared session discovered e.answers e.publish ⟨hw, hc⟩
      simp only [hc, ne_eq, not_true_eq_false, false_and, if_false]
      exact ⟨hk.synced, hk.settled, hk.configs⟩
    by_cases hsame : sameHalTgids d.wake.monitor.active discovered = true
    · have hproc : d.wake.monitor.backend = .procfsFallback := by
        cases hbk : d.monitor.backend with
        | pidfd => exact absurd hbk hb
        | procfsFallback => exact hbk
        | waiting => exact absurd (count_eq_zero_of_waiting h.consistent hbk).2 hc
      have hk := adopt_same session e.answers e.publish hw hproc hsame
      simp only [hsame, Bool.true_eq_false, and_false, if_false, ne_eq, not_true_eq_false]
      exact ⟨hk.synced, hk.settled, hk.configs⟩
    · obtain ⟨hsync, hcleared, hconf⟩ := clear_spec session true e.clear hw.toSynced
      simp only [ne_eq, hc, not_false_eq_true, hsame, true_and, if_true]
      by_cases hok : (d.wake.clearMonitoredIdentities session true e.clear).1 = .ok
      · have hk := adopt_cleared session discovered e.answers e.publish (hcleared hok)
        simp only [hok, not_true_eq_false, if_false]
        exact ⟨hk.synced, hk.settled, hconf.trans hk.configs⟩
      · simp only [hok, not_false_eq_true, if_true]
        exact ⟨hsync, fun h => absurd h hok, hconf⟩

/-! ## The first look -/

/-- The copy of a well-formed set is accepted, and stands for the set. -/
theorem monitoredOf_spec {set : HalIdentitySet} (h : set.WellFormed) :
    set = .ofConfig (monitoredOf set) ∧ validateHalIdentities (monitoredOf set) = true := by
  obtain ⟨identities, hvalid, hg, hc, ht⟩ := h
  have heq : monitoredOf set = identities := by
    rw [monitoredOf, hg, hc, ht]
  exact ⟨rfl, heq ▸ hvalid⟩

theorem initialize_spec (session : CounterHookSession) (fault : Option KModFailure)
    (answers : Nat → Except Errno Nat) (f : ClearFaults) {ctx : KernelCounterContext}
    (h : ctx.activeIdentities.WellFormed) :
    let r := initializeHalMonitor session fault answers f ctx
    (r.2.history = [] ∨ r.2.Synced) ∧ (r.1 = .ok → r.2.Settled) ∧ ctx.SameConfigs r.2.ctx := by
  unfold initializeHalMonitor
  cases hread : readCounterSnapshot session fault ctx with
  | error err =>
    exact ⟨.inl rfl, fun hok => absurd hok (readCounterSnapshot_ne_ok hread), rfl, rfl⟩
  | ok snapshot =>
    obtain ⟨-, -, rfl⟩ := readCounterSnapshot_eq_ok hread
    obtain ⟨hset, hvalid⟩ := monitoredOf_spec h
    dsimp only
    generalize hd : (⟨snapshot, { HalMonitorState.zero with
      active := monitoredOf snapshot.activeIdentities }, [snapshot.activeIdentities]⟩ : Daemon) = d
    have hsync : d.Synced := by
      subst hd
      exact ⟨hset, hvalid, ⟨rfl, by simpa using h, by simp⟩, List.isChain_singleton _⟩
    have hctx : d.ctx = snapshot := by rw [← hd]
    have hactive : d.monitor.active = monitoredOf snapshot.activeIdentities := by rw [← hd]
    have hbounds : d.monitor.Bounded := by
      subst hd
      exact (by decide : 50 ≤ kHalRediscoveryInitialMs ∧ kHalRediscoveryInitialMs ≤ 2000)
    rw [← hctx, ← hactive] at *
    by_cases hc : d.monitor.active.count = 0
    · rw [if_pos hc]
      have hcons : d.monitor.Consistent := by
        rw [HalMonitorState.Consistent, show d.monitor.backend = .waiting by rw [← hd]; rfl]
        exact ⟨by rw [← hd]; rfl, hc⟩
      exact ⟨.inr hsync, fun _ => ⟨hsync, hcons, hbounds⟩, rfl, rfl⟩
    rw [if_neg hc]
    obtain ⟨result, pidfds, hopen, hready, hother⟩ :=
      openIdentityPidfds_spec d.monitor.active answers d
    have hsync' : (d.setPidfds pidfds).Synced := hsync.of_monitor rfl
    rw [hopen]
    cases result with
    | ready | unsupported =>
      have hs := hsync'.watch _ hready hother hc
      exact ⟨.inr hs.toSynced, fun _ => hs, rfl, rfl⟩
    | processGone =>
      obtain ⟨hs, hcleared, hconf⟩ := clear_spec session true f hsync'
      exact ⟨.inr hs, fun hok => (hcleared hok).toSettled, hconf⟩

end Daemon
end Drmid
