import Drmid.Control.Proof.Server

/-!
# How long the server waits for a HAL process

While no HAL process is known, a pass whose `poll` times out looks for one (`Server.rediscovers`).
The wait is meant to double with every attempt that finds none, and does where nothing or a process
already gone was found. An attempt that ends with an error (`RediscoveryError`) goes through
`clear_monitored_identities`, which sets the wait to 50 before it is doubled, so that the next wait
is 100 whatever it was before. `rediscovery_backs_off`: the waits double in exactly the runs in
which no such error is met after a wait other than 50, and they are then
`min (50 * 2 ^ failures) 2000`.
-/

namespace Drmid

open KernelCounterContext Lib

/-! ## One attempt -/

/-- The generation that the next set would get. -/
def HalMonitorState.nextGeneration (m : HalMonitorState) : UInt64 :=
  if m.active.generation = 0xffffffffffffffff then 0xffffffffffffffff else m.active.generation + 1

/-- The error that an attempt with no process known ends with: `/proc` cannot be opened, more than
four processes pass, or the processes found are there and cannot be published. -/
inductive RediscoveryError (session : CounterHookSession) (d : Daemon) (e : HalScan) : Prop
  | undiscovered {err : KModErr}
      (h : discoverWidevineHalIdentities d.monitor.nextGeneration e.scan = .error err)
  | unpublished {found : HalIdentityConfig}
      (h : discoverWidevineHalIdentities d.monitor.nextGeneration e.scan = .ok found)
      (hsome : found.count ≠ 0)
      (halive : (openPidfdsFrom e.answers found.tgidList 0 []).1 ≠ .processGone)
      (hfail : d.monitor.active.generation = 0xffffffffffffffff ∨
        (publishHalIdentities session { found with generation := d.monitor.active.generation + 1 }
          e.publish.publish d.ctx).err ≠ .ok)

namespace Daemon

variable {d : Daemon}

theorem discover_ne_ok {generation : UInt64} {scan : Option (List UInt32)} {err : KModErr}
    (h : discoverWidevineHalIdentities generation scan = .error err) : err ≠ .ok := by
  rintro rfl
  unfold discoverWidevineHalIdentities at h
  split at h
  · cases h
  cases scan with
  | none => cases h
  | some found =>
    dsimp only at h
    split at h <;> cases h

/-- The publication of found processes fails for the reasons of `RediscoveryError.unpublished`, and
else leaves their set. -/
theorem publishMonitored_result (session : CounterHookSession) (found : HalIdentityConfig)
    (f : MonitorFaults) (d : Daemon) :
    let r := d.publishMonitoredIdentities session found f
    (r.1 ≠ .ok ↔ d.monitor.active.generation = 0xffffffffffffffff ∨
      (publishHalIdentities session { found with generation := d.monitor.active.generation + 1 }
        f.publish d.ctx).err ≠ .ok) ∧
      (r.1 ≠ .ok → r.2.monitor = d.monitor) ∧
      (r.1 = .ok → r.2.monitor.active.count = found.count) := by
  unfold publishMonitoredIdentities
  by_cases hmax : d.monitor.active.generation = 0xffffffffffffffff
  · rw [if_pos hmax]
    exact ⟨⟨fun _ => .inl hmax, fun _ h => by cases h⟩, fun _ => rfl, fun h => by cases h⟩
  rw [if_neg hmax]
  dsimp only
  generalize publishHalIdentities session { found with
    generation := d.monitor.active.generation + 1 } f.publish d.ctx = res
  by_cases hres : res.err = .ok
  · simp [hres, hmax]
  · simp [hres]

/-- How an attempt can end that starts with no process known and the wait `retry`. -/
inductive Attempt (retry : UInt32) (failed : Prop) (r : KModErr × Daemon) : Prop
  | missed (hok : r.1 = .ok) (hempty : r.2.monitor.active.count = 0) (hfine : ¬failed)
      (hretry : r.2.monitor.retryMs =
        if kHalRediscoveryMaximumMs < retry * 2 then kHalRediscoveryMaximumMs else retry * 2)
  | found (hok : r.1 = .ok) (hsome : r.2.monitor.active.count ≠ 0) (hfine : ¬failed)
      (hretry : r.2.monitor.retryMs = kHalRediscoveryInitialMs)
  | failed (herr : r.1 ≠ .ok) (hempty : r.2.monitor.active.count = 0) (hfailed : failed)

/-- An attempt to adopt what was discovered, with no process known. -/
theorem adopt_attempt (session : CounterHookSession) (found : HalIdentityConfig)
    (answers : Nat → Except Errno Nat) (f : MonitorFaults)
    (hempty : d.monitor.active.count = 0) (hb : d.monitor.backend = .waiting) :
    Attempt d.monitor.retryMs (found.count ≠ 0 ∧
        (openPidfdsFrom answers found.tgidList 0 []).1 ≠ .processGone ∧
        (d.monitor.active.generation = 0xffffffffffffffff ∨ (publishHalIdentities session
          { found with generation := d.monitor.active.generation + 1 } f.publish d.ctx).err ≠ .ok))
      (d.adoptDiscoveredIdentities session found answers f) := by
  unfold adoptDiscoveredIdentities
  by_cases hc : found.count = 0
  · rw [if_pos hc]
    exact .missed rfl hempty (fun h => h.1 hc) rfl
  rw [if_neg hc, if_neg (by rw [hb]; decide)]
  dsimp only [openIdentityPidfds]
  by_cases hgone : (openPidfdsFrom answers found.tgidList 0 []).1 = .processGone
  · rw [if_pos hgone]
    exact .missed rfl hempty (fun h => h.2.1 hgone) rfl
  rw [if_neg hgone]
  have hdiff : sameHalTgids (d.setPidfds (openPidfdsFrom answers found.tgidList 0 []).2).monitor.active
      found = false := by
    by_contra hsame
    rw [Bool.not_eq_false] at hsame
    exact hc ((count_eq_of_same hsame).symm.trans hempty)
  obtain ⟨hfail, hkept, hcount⟩ := publishMonitored_result session found f
    (d.setPidfds (openPidfdsFrom answers found.tgidList 0 []).2)
  unfold publishAndWatch
  rw [hdiff]
  simp only [Bool.not_false, if_true]
  revert hfail hkept hcount
  generalize publishMonitoredIdentities session found f
    (d.setPidfds (openPidfdsFrom answers found.tgidList 0 []).2) = r
  intro hfail hkept hcount
  by_cases hok : r.1 = .ok
  · rw [if_neg (not_not.2 hok)]
    refine .found rfl ?_ (fun h => hfail.2 h.2.2 hok) rfl
    exact fun h0 => hc ((hcount hok).symm.trans h0)
  · rw [if_pos hok]
    have hactive := congrArg (fun m => m.active.count) (hkept hok)
    exact .failed hok (hactive.trans hempty) ⟨hc, hgone, hfail.1 hok⟩

theorem Attempt.congr {retry : UInt32} {failed failed' : Prop} {r : KModErr × Daemon}
    (h : Attempt retry failed r) (hiff : failed ↔ failed') : Attempt retry failed' r :=
  propext hiff ▸ h

/-- An attempt with no process known. -/
theorem rediscover_attempt (session : CounterHookSession) (e : HalScan)
    (hempty : d.monitor.active.count = 0) (hb : d.monitor.backend = .waiting) :
    Attempt d.monitor.retryMs (RediscoveryError session d e)
      (d.rediscoverHalIdentities session e) := by
  unfold rediscoverHalIdentities
  dsimp only
  have hgen : (if d.wake.monitor.active.generation = 0xffffffffffffffff then 0xffffffffffffffff
      else d.wake.monitor.active.generation + 1) = d.monitor.nextGeneration := rfl
  rw [hgen]
  cases hdisc : discoverWidevineHalIdentities d.monitor.nextGeneration e.scan with
  | error err =>
    refine .failed ?_ hempty (.undiscovered hdisc)
    exact discover_ne_ok hdisc
  | ok found =>
    dsimp only
    have hempty' : d.wake.monitor.active.count = 0 := hempty
    have hattempt := adopt_attempt (d := d.wake) session found e.answers e.publish hempty' hb
    simp only [hempty', ne_eq, not_true_eq_false, false_and, if_false]
    refine hattempt.congr ?_
    constructor
    · rintro ⟨hsome, halive, hfail⟩
      exact .unpublished hdisc hsome halive hfail
    · intro h
      cases h with
      | undiscovered h => rw [hdisc] at h; cases h
      | unpublished h hsome halive hfail =>
        rw [hdisc] at h
        cases h
        exact ⟨hsome, halive, hfail⟩

/-- A clear that succeeds leaves the monitor waiting with the first delay. -/
theorem clear_waits {session : CounterHookSession} {countRestart : Bool} {f : ClearFaults}
    (hok : (d.clearMonitoredIdentities session countRestart f).1 = .ok) :
    let d' := (d.clearMonitoredIdentities session countRestart f).2
    d'.monitor.active.count = 0 ∧ d'.monitor.backend = .waiting ∧
      d'.monitor.retryMs = kHalRediscoveryInitialMs := by
  unfold clearMonitoredIdentities at hok ⊢
  dsimp only at hok ⊢
  by_cases hempty : d.closePidfds.monitor.active.count = 0
  · rw [if_pos hempty]
    exact ⟨hempty, rfl, rfl⟩
  rw [if_neg hempty] at hok ⊢
  obtain ⟨-, -, hcount⟩ :=
    publishMonitored_result session .zero f.toMonitorFaults d.closePidfds
  by_cases hpub : (d.closePidfds.publishMonitoredIdentities session .zero f.toMonitorFaults).1 = .ok
  · rw [if_neg (not_not.2 hpub)]
    cases countRestart <;> exact ⟨hcount hpub, rfl, rfl⟩
  · rw [if_pos hpub] at hok
    exact absurd hok hpub

/-- An attempt that leaves the set empty after it was not leaves the second delay. -/
theorem rediscover_known (session : CounterHookSession) (e : HalScan) (h : d.Settled)
    (hsome : d.monitor.active.count ≠ 0) (hb : d.monitor.backend ≠ .pidfd)
    (hok : (d.rediscoverHalIdentities session e).1 = .ok) :
    let m := (d.rediscoverHalIdentities session e).2.monitor
    (m.active.count ≠ 0 ∧ m.retryMs = 50) ∨ (m.active.count = 0 ∧ m.retryMs = 100) := by
  unfold rediscoverHalIdentities at hok ⊢
  dsimp only at hok ⊢
  cases hdisc : discoverWidevineHalIdentities _ e.scan with
  | error err =>
    rw [hdisc] at hok
    exact absurd hok (discover_ne_ok hdisc)
  | ok found =>
    rw [hdisc] at hok
    dsimp only at hok ⊢
    have hsome' : d.wake.monitor.active.count ≠ 0 := hsome
    by_cases hsame : sameHalTgids d.wake.monitor.active found = true
    · have hproc : d.wake.monitor.backend = .procfsFallback := by
        cases hbk : d.monitor.backend with
        | pidfd => exact absurd hbk hb
        | procfsFallback => exact hbk
        | waiting => exact absurd (count_eq_zero_of_waiting h.consistent hbk).2 hsome
      simp only [hsame, Bool.true_eq_false, and_false, if_false, ne_eq, not_true_eq_false]
      unfold adoptDiscoveredIdentities
      rw [if_neg (by rw [← count_eq_of_same hsame]; exact hsome), if_pos hproc]
      simp only [publishAndWatch, hsame, reduceCtorEq, if_false, Bool.not_true, Bool.false_eq_true,
        ne_eq, not_true_eq_false]
      exact .inl ⟨hsome, rfl⟩
    · simp only [ne_eq, hsome', not_false_eq_true, hsame, true_and, if_true] at hok ⊢
      by_cases hclear : (d.wake.clearMonitoredIdentities session true e.clear).1 = .ok
      · obtain ⟨hempty, hwaiting, hretry⟩ := clear_waits hclear
        simp only [hclear, not_true_eq_false, if_false] at hok ⊢
        cases adopt_attempt session found e.answers e.publish hempty hwaiting with
        | missed _ hempty' _ hretry' =>
          rw [hretry] at hretry'
          exact .inr ⟨hempty', hretry'⟩
        | found _ hsome _ hretry' => exact .inl ⟨hsome, hretry'⟩
        | failed herr _ _ => exact absurd hok herr
      · rw [if_pos hclear] at hok
        exact absurd hok hclear

theorem initialize_retry (session : CounterHookSession) (fault : Option KModFailure)
    (answers : Nat → Except Errno Nat) (f : ClearFaults) (ctx : KernelCounterContext)
    (hok : (initializeHalMonitor session fault answers f ctx).1 = .ok) :
    (initializeHalMonitor session fault answers f ctx).2.monitor.retryMs = 50 := by
  unfold initializeHalMonitor at hok ⊢
  cases hread : readCounterSnapshot session fault ctx with
  | error err =>
    rw [hread] at hok
    exact absurd hok (readCounterSnapshot_ne_ok hread)
  | ok snapshot =>
    rw [hread] at hok
    dsimp only at hok ⊢
    split
    · rfl
    rename_i hsome
    rw [if_neg hsome] at hok
    generalize openIdentityPidfds _ answers _ = opened at hok ⊢
    obtain ⟨result, d⟩ := opened
    cases result with
    | ready | unsupported => rfl
    | processGone => exact (clear_waits hok).2.2

end Daemon

/-! ## One pass -/

/-- The doubled wait. -/
theorem toNat_doubled {retry : UInt32} (h : retry ≤ 2000) :
    (if kHalRediscoveryMaximumMs < retry * 2 then kHalRediscoveryMaximumMs else retry * 2).toNat =
      min (2 * retry.toNat) 2000 := by
  rw [UInt32.le_iff_toNat_le] at h
  have htwo : (retry * 2).toNat = 2 * retry.toNat := by
    rw [UInt32.toNat_mul]
    simp at h ⊢
    omega
  have hmax : kHalRediscoveryMaximumMs.toNat = 2000 := rfl
  split_ifs with hlt
  · rw [UInt32.lt_iff_toNat_lt, htwo] at hlt
    omega
  · rw [UInt32.not_lt, UInt32.le_iff_toNat_le, htwo] at hlt
    omega

section
variable {session : CounterHookSession} {e : LoopEvent} {d : Daemon}

/-- An elapsed wait, with no process known: the wait is doubled, unless the attempt ends with an
error. -/
theorem halPass_waiting (session : CounterHookSession) (e : LoopEvent)
    (hempty : d.monitor.active.count = 0)
    (hb : d.monitor.backend = .waiting) (hmax : d.monitor.retryMs ≤ 2000) :
    let r := halPass session e false true d
    r.1 = .ok ∧ ((¬RediscoveryError session d e.hal ∧
        (r.2.monitor.active.count = 0 →
          r.2.monitor.retryMs.toNat = min (2 * d.monitor.retryMs.toNat) 2000) ∧
        (r.2.monitor.active.count ≠ 0 → r.2.monitor.retryMs = 50)) ∨
      (RediscoveryError session d e.hal ∧ r.2.monitor.active.count = 0 ∧
        r.2.monitor.retryMs = 100)) := by
  simp only [halPass, Bool.false_eq_true, if_false, if_true]
  cases Daemon.rediscover_attempt session e.hal hempty hb with
  | missed hok hempty' hfine hretry =>
    rw [if_neg (not_not.2 hok)]
    exact ⟨rfl, .inl ⟨hfine, fun _ => hretry ▸ toNat_doubled hmax, fun h => absurd hempty' h⟩⟩
  | found hok hsome hfine hretry =>
    rw [if_neg (not_not.2 hok)]
    exact ⟨rfl, .inl ⟨hfine, fun h => absurd h hsome, fun _ => hretry⟩⟩
  | failed herr hempty' hfailed =>
    rw [if_pos herr]
    have hclear : ((d.rediscoverHalIdentities session e.hal).2.clearMonitoredIdentities session true
        e.clear).1 = .ok := by
      unfold Daemon.clearMonitoredIdentities
      exact congrArg Prod.fst (if_pos hempty')
    obtain ⟨hempty'', -, hretry⟩ := Daemon.clear_waits hclear
    rw [if_neg (not_not.2 hclear)]
    refine ⟨rfl, .inr ⟨hfailed, hempty'', ?_⟩⟩
    simp only [Daemon.doubleRetry, hretry]
    rfl

/-- An elapsed poll of a known set. -/
theorem halPass_known (h : d.Settled) (hsome : d.monitor.active.count ≠ 0)
    (hb : d.monitor.backend ≠ .pidfd) (hok : (halPass session e false true d).1 = .ok) :
    let m := (halPass session e false true d).2.monitor
    (m.active.count ≠ 0 ∧ m.retryMs = 50) ∨ (m.active.count = 0 ∧ m.retryMs = 100) := by
  simp only [halPass, Bool.false_eq_true, if_false, if_true] at hok ⊢
  by_cases hre : (d.rediscoverHalIdentities session e.hal).1 = .ok
  · rw [if_neg (not_not.2 hre)]
    exact Daemon.rediscover_known session e.hal h hsome hb hre
  rw [if_pos hre] at hok ⊢
  by_cases hclear : ((d.rediscoverHalIdentities session e.hal).2.clearMonitoredIdentities session
      true e.clear).1 = .ok
  · obtain ⟨hempty, -, hretry⟩ := Daemon.clear_waits hclear
    rw [if_neg (not_not.2 hclear)]
    refine .inr ⟨hempty, ?_⟩
    simp only [Daemon.doubleRetry, hretry]
    rfl
  · rw [if_pos hclear] at hok
    exact absurd hok hclear

end

namespace Server

variable {cfg : ServerConfig} {S : Server} {e : LoopEvent}

/-- The pass looks for HAL processes. -/
def rediscovers (cfg : ServerConfig) (S : Server) (e : LoopEvent) : Bool :=
  S.result.isNone && S.continues cfg e && !(S.tick cfg e.elapsedBefore).expired cfg &&
    (S.tick cfg e.elapsedBefore).lifecycleElapsed cfg e

/-- No HAL process is known. -/
def SetEmpty (S : Server) : Prop := S.daemon.monitor.active.count = 0

instance (S : Server) : Decidable S.SetEmpty := inferInstanceAs (Decidable (_ = _))

/-- The wait before the next attempt. -/
def waitMs (S : Server) : ℕ := S.daemon.monitor.retryMs.toNat

/-- The two parts of a polled pass. -/
theorem polled_eq (cfg : ServerConfig) (S : Server) (e : LoopEvent) :
    let r := halPass cfg.session e (e.poll.pidfdEvent S.daemon.monitor) (S.lifecycleElapsed cfg e)
      S.daemon
    S.polled cfg e = afterHal cfg { S.tick cfg e.elapsedAfter with daemon := r.2 } e r.1 := rfl

theorem step_rediscovers (h : S.rediscovers cfg e = true) :
    let r := halPass cfg.session e false true S.daemon
    (r.1 = .ok → (S.step cfg e).result = none ∧ (S.step cfg e).daemon = r.2) ∧
      (r.1 ≠ .ok → (S.step cfg e).result ≠ none) := by
  simp only [rediscovers, Bool.and_eq_true, Bool.not_eq_true', Option.isNone_iff_eq_none] at h
  obtain ⟨⟨⟨hnone, hcont⟩, hexp⟩, helapsed⟩ := h
  have hpoll : e.poll = .timeout := by
    have htimed : e.poll.timedOut = true := by
      simp only [lifecycleElapsed, Bool.and_eq_true] at helapsed
      exact helapsed.1.1
    cases hp : e.poll <;> rw [hp] at htimed <;> first | rfl | cases htimed
  have hstep : S.step cfg e = (S.tick cfg e.elapsedBefore).polled cfg e := by
    unfold Server.step
    rw [if_neg (by simp [hnone]), hcont]
    simp only [Bool.not_true, Bool.false_eq_true, if_false, hexp, hpoll]
  rw [hstep, polled_eq, helapsed, hpoll]
  change let r := halPass cfg.session e false true S.daemon; _
  intro r
  constructor
  · intro hok
    change (afterHal cfg _ e r.1).result = none ∧ (afterHal cfg _ e r.1).daemon = r.2
    rw [hok]
    simp only [afterHal, hpoll, PollOutcome.hasClient]
    exact ⟨hnone, rfl⟩
  · intro herr
    change (afterHal cfg _ e r.1).result ≠ none
    rw [afterHal, if_pos herr]
    simp [shutdown]

/-- The rest of a pass after which the server goes on. -/
theorem afterHal_running {err : KModErr} (hrun : (S.afterHal cfg e err).result = none) :
    err = .ok ∧ (S.afterHal cfg e err).daemon.monitor = S.daemon.monitor := by
  unfold afterHal at hrun ⊢
  by_cases herr : err = .ok
  · refine ⟨herr, ?_⟩
    rw [if_neg (not_not.2 herr)]
    split
    · obtain ⟨ctx, stop, sent, heq, -⟩ := clientPass_spec cfg S e.client
      rw [heq]
    · rfl
  · rw [if_pos herr] at hrun
    cases hrun

theorem polled_quiet (h : S.daemon.Settled) (helapsed : S.lifecycleElapsed cfg e = false)
    (hrun : (S.polled cfg e).result = none) :
    (S.polled cfg e).daemon.monitor = S.daemon.monitor ∨
      (¬S.SetEmpty ∧ (S.polled cfg e).SetEmpty ∧ (S.polled cfg e).waitMs = 50) := by
  rw [polled_eq, helapsed] at hrun ⊢
  obtain ⟨hok, hmonitor⟩ := afterHal_running hrun
  simp only [SetEmpty, waitMs, hmonitor]
  cases hexit : e.poll.pidfdEvent S.daemon.monitor with
  | false => exact .inl rfl
  | true =>
    rw [hexit] at hok
    obtain ⟨hempty, -, hretry⟩ := Daemon.clear_waits (d := S.daemon.wake) hok
    refine .inr ⟨fun h0 => ?_, hempty, congrArg UInt32.toNat hretry⟩
    -- there is no pidfd of an empty set
    have hp := (Daemon.waiting_of_count h.consistent h0).2
    unfold PollOutcome.pidfdEvent at hexit
    rw [hp] at hexit
    cases hpoll : e.poll <;> rw [hpoll] at hexit <;> cases hexit

/-- What the other passes do to the monitor: nothing, unless a monitored process exits. -/
theorem step_quiet (h : S.Inv) (hquiet : S.rediscovers cfg e = false)
    (hrun : (S.step cfg e).result = none) :
    (S.step cfg e).daemon.monitor = S.daemon.monitor ∨
      (¬S.SetEmpty ∧ (S.step cfg e).SetEmpty ∧ (S.step cfg e).waitMs = 50) := by
  unfold Server.step at hrun ⊢
  by_cases hnone : S.result = none
  swap
  · rw [if_pos (Option.isSome_iff_ne_none.2 hnone)] at hrun
    exact absurd hrun hnone
  rw [if_neg (by simp [hnone])] at hrun ⊢
  by_cases hcont : S.continues cfg e = true
  swap
  · rw [if_pos (by simpa using hcont)] at hrun
    cases hrun
  rw [if_neg (by simp [hcont])] at hrun ⊢
  by_cases hexp : (S.tick cfg e.elapsedBefore).expired cfg = true
  · simp only [hexp, if_true] at hrun
    cases hrun
  simp only [hexp, if_false, Bool.false_eq_true] at hrun ⊢
  have helapsed : (S.tick cfg e.elapsedBefore).lifecycleElapsed cfg e = false := by
    simpa [rediscovers, hnone, hcont, hexp] using hquiet
  have hpolled := polled_quiet (S := S.tick cfg e.elapsedBefore) (h.running hnone) helapsed
  cases hp : e.poll with
  | interrupted => exact .inl rfl
  | failed => rw [hp] at hrun; cases hrun
  | timeout => rw [hp] at hrun; exact hpolled hrun
  | ready pidfd client => rw [hp] at hrun; exact hpolled hrun

/-! ## The schedule -/

/-- From the empty set to the empty set: an attempt doubles the wait, and no pass shortens it. -/
structure BacksOff (cfg : ServerConfig) (S : Server) (e : LoopEvent) : Prop where
  doubles : S.rediscovers cfg e = true → S.SetEmpty → (S.step cfg e).SetEmpty →
    (S.step cfg e).result = none ∧ (S.step cfg e).waitMs = min (2 * S.waitMs) 2000
  grows : (S.step cfg e).result = none → S.SetEmpty → (S.step cfg e).SetEmpty →
    S.waitMs ≤ (S.step cfg e).waitMs

/-- After a wait other than the first no attempt meets an error. -/
def KeepsDelay (cfg : ServerConfig) (S : Server) (e : LoopEvent) : Prop :=
  S.rediscovers cfg e = true → S.SetEmpty → S.waitMs ≠ 50 →
    ¬RediscoveryError cfg.session S.daemon e.hal

/-- The attempts since the set became empty, after one more pass. -/
def failuresAfter (cfg : ServerConfig) (S : Server) (e : LoopEvent) (n : ℕ) : ℕ :=
  if (S.step cfg e).SetEmpty then if S.rediscovers cfg e then n + 1 else n else 0

/-- The unsuccessful attempts since the set became empty, `n` being those before. -/
def failures (cfg : ServerConfig) : Server → ℕ → List LoopEvent → ℕ
  | _, n, [] => n
  | S, n, e :: es => failures cfg (S.step cfg e) (S.failuresAfter cfg e n) es

/-- The wait is the one that `n` failures lead to. -/
def OnSchedule (S : Server) (n : ℕ) : Prop :=
  S.result = none → S.waitMs = min (50 * 2 ^ n) 2000 ∧ (¬S.SetEmpty → n = 0)

theorem waitMs_bounds (h : S.Inv) (hrun : S.result = none) : 50 ≤ S.waitMs ∧ S.waitMs ≤ 2000 := by
  obtain ⟨hlo, hhi⟩ := (h.running hrun).bounded
  exact ⟨UInt32.le_iff_toNat_le.1 hlo, UInt32.le_iff_toNat_le.1 hhi⟩

theorem running_of_rediscovers (h : S.rediscovers cfg e = true) : S.result = none := by
  simp only [rediscovers, Bool.and_eq_true, Option.isNone_iff_eq_none] at h
  exact h.1.1.1

/-- An attempt with no process known. -/
theorem step_waiting (h : S.Inv) (hre : S.rediscovers cfg e = true) (hempty : S.SetEmpty) :
    (S.step cfg e).result = none ∧
      ((¬RediscoveryError cfg.session S.daemon e.hal ∧
        ((S.step cfg e).SetEmpty → (S.step cfg e).waitMs = min (2 * S.waitMs) 2000) ∧
        (¬(S.step cfg e).SetEmpty → (S.step cfg e).waitMs = 50)) ∨
      (RediscoveryError cfg.session S.daemon e.hal ∧ (S.step cfg e).SetEmpty ∧
        (S.step cfg e).waitMs = 100)) := by
  have hs := h.running (running_of_rediscovers hre)
  obtain ⟨hok, hcases⟩ := halPass_waiting cfg.session e hempty
    (Daemon.waiting_of_count hs.consistent hempty).1 hs.bounded.2
  obtain ⟨hrun, hdaemon⟩ := (step_rediscovers hre).1 hok
  simp only [SetEmpty, waitMs, hdaemon]
  refine ⟨hrun, hcases.imp ?_ ?_⟩
  · rintro ⟨hfine, hmissed, hfound⟩
    exact ⟨hfine, hmissed, fun h => congrArg UInt32.toNat (hfound h)⟩
  · rintro ⟨herr, hempty', hretry⟩
    exact ⟨herr, hempty', congrArg UInt32.toNat hretry⟩

/-- An attempt with a known set. -/
theorem step_known (h : S.Inv) (hre : S.rediscovers cfg e = true) (hsome : ¬S.SetEmpty)
    (hrun : (S.step cfg e).result = none) :
    (¬(S.step cfg e).SetEmpty ∧ (S.step cfg e).waitMs = 50) ∨
      ((S.step cfg e).SetEmpty ∧ (S.step cfg e).waitMs = 100) := by
  have hs := h.running (running_of_rediscovers hre)
  have hb : S.daemon.monitor.backend ≠ .pidfd := by
    simp only [rediscovers, Bool.and_eq_true] at hre
    exact lifecycleElapsed_backend (S := S.tick cfg e.elapsedBefore) hre.2
  obtain ⟨hdaemon, hfail⟩ := step_rediscovers hre
  have hok : (halPass cfg.session e false true S.daemon).1 = .ok := by
    by_contra herr
    exact hfail herr hrun
  simp only [SetEmpty, waitMs, (hdaemon hok).2]
  exact (halPass_known hs hsome hb hok).imp (And.imp_right (congrArg UInt32.toNat))
    (And.imp_right (congrArg UInt32.toNat))

/-- A pass backs off iff it meets no error after a wait other than the first. -/
theorem backsOff_iff (h : S.Inv) : BacksOff cfg S e ↔ KeepsDelay cfg S e := by
  constructor
  · intro hback hre hempty hwait herr
    obtain ⟨hlo, hhi⟩ := waitMs_bounds h (running_of_rediscovers hre)
    rcases (step_waiting h hre hempty).2 with ⟨hfine, -⟩ | ⟨-, hempty', h100⟩
    · exact hfine herr
    · have hdouble := (hback.doubles hre hempty hempty').2
      omega
  · intro hkeep
    have hdouble (hre : S.rediscovers cfg e = true) (hempty : S.SetEmpty)
        (hempty' : (S.step cfg e).SetEmpty) : (S.step cfg e).waitMs = min (2 * S.waitMs) 2000 := by
      rcases (step_waiting h hre hempty).2 with ⟨-, hmissed, -⟩ | ⟨herr, -, h100⟩
      · exact hmissed hempty'
      · have h50 : S.waitMs = 50 := by
          by_contra hwait
          exact hkeep hre hempty hwait herr
        omega
    refine ⟨fun hre hempty hempty' => ⟨(step_waiting h hre hempty).1, hdouble hre hempty hempty'⟩,
      fun hrun hempty hempty' => ?_⟩
    cases hre : S.rediscovers cfg e with
    | true =>
      obtain ⟨-, hhi⟩ := waitMs_bounds h (running_of_rediscovers hre)
      have hwait := hdouble hre hempty hempty'
      omega
    | false =>
      rcases step_quiet h hre hrun with hsame | ⟨hsome, -⟩
      · rw [waitMs, waitMs, hsame]
      · exact absurd hempty hsome

/-- The schedule is kept. -/
theorem OnSchedule.step {n : ℕ} (hn : S.OnSchedule n) (h : S.Inv) (hkeep : KeepsDelay cfg S e) :
    (S.step cfg e).OnSchedule (S.failuresAfter cfg e n) := by
  intro hrun
  have hwas : S.result = none := by
    by_contra hnone
    rw [Server.step, if_pos (Option.isSome_iff_ne_none.2 hnone)] at hrun
    exact hnone hrun
  obtain ⟨hwait, hzero⟩ := hn hwas
  have hback := (backsOff_iff h).2 hkeep
  unfold failuresAfter
  cases hre : S.rediscovers cfg e with
  | true =>
    by_cases hempty : S.SetEmpty
    · by_cases hempty' : (S.step cfg e).SetEmpty
      · rw [if_pos hempty', if_pos rfl, (hback.doubles hre hempty hempty').2, hwait, pow_succ]
        exact ⟨by omega, fun h => absurd hempty' h⟩
      · rw [if_neg hempty']
        refine ⟨?_, fun _ => rfl⟩
        rcases (step_waiting h hre hempty).2 with ⟨-, -, hfound⟩ | ⟨-, hempty'', -⟩
        · exact hfound hempty'
        · exact absurd hempty'' hempty'
    · rw [hzero hempty]
      rcases step_known h hre hempty hrun with ⟨hsome, h50⟩ | ⟨hempty', h100⟩
      · rw [if_neg hsome]
        exact ⟨h50, fun _ => rfl⟩
      · rw [if_pos hempty']
        exact ⟨h100, fun h => absurd hempty' h⟩
  | false =>
    rcases step_quiet h hre hrun with hsame | ⟨hsome, hempty', h50⟩
    · have hset : (S.step cfg e).SetEmpty ↔ S.SetEmpty := by rw [SetEmpty, SetEmpty, hsame]
      rw [waitMs, hsame]
      by_cases hempty : S.SetEmpty
      · rw [if_pos (hset.2 hempty)]
        exact ⟨hwait, fun h => absurd (hset.2 hempty) h⟩
      · rw [if_neg (mt hset.1 hempty)]
        exact ⟨hzero hempty ▸ hwait, fun _ => rfl⟩
    · rw [hzero hsome, if_pos hempty']
      exact ⟨h50, fun h => absurd hempty' h⟩

theorem OnSchedule.run {n : ℕ} {es : List LoopEvent} (hn : S.OnSchedule n) (h : S.Inv)
    (hkeep : Along (Server.step cfg) (KeepsDelay cfg) S es) :
    (Lib.run (Server.step cfg) S es).OnSchedule (failures cfg S n es) := by
  induction es generalizing S n with
  | nil => exact hn
  | cons e es ih =>
    obtain ⟨hfirst, hrest⟩ := along_cons.1 hkeep
    exact ih (hn.step h hfirst) (h.step cfg e).inv hrest

/-- The server starts with the first wait. -/
theorem start_onSchedule (cfg : ServerConfig) (setup fault : Option KModFailure)
    (answers : Nat → Except Errno Nat) (f : ClearFaults) (ctx : KernelCounterContext) :
    (start cfg setup fault answers f ctx).OnSchedule 0 := by
  intro hrun
  refine ⟨?_, fun _ => rfl⟩
  unfold start at hrun ⊢
  dsimp only at hrun ⊢
  split at hrun
  · cases hrun
  rename_i hkaddr
  rw [if_neg hkaddr]
  cases setup with
  | some err => cases hrun
  | none =>
    dsimp only at hrun ⊢
    split at hrun
    · cases hrun
    rename_i herr
    rw [if_neg herr]
    have hretry := Daemon.initialize_retry cfg.session fault answers f ctx (not_not.1 herr)
    exact congrArg UInt32.toNat hretry

end Server

/-- **Main result: how long the server waits.** The server is started on an installed context, after
any publish calls, and makes any number of passes. Its passes all back off iff no attempt meets an
error after a wait other than 50. Where none does, the wait at every head of the loop with no
process known is 50 doubled once for each failure, up to 2000, which the sixth reaches. -/
theorem rediscovery_backs_off {config : ReplacementConfig} {identities : HalIdentityConfig}
    {ctx0 : KernelCounterContext} (h : installReadonlyParserHook config identities = some ctx0)
    (calls : List PublishCall) (cfg : ServerConfig) (setup fault : Option KModFailure)
    (answers : Nat → Except Errno Nat) (f : ClearFaults) (es : List LoopEvent) :
    let S₀ := Server.start cfg setup fault answers f (publishRun ctx0 calls)
    (Along (Server.step cfg) (Server.BacksOff cfg) S₀ es ↔
      Along (Server.step cfg) (Server.KeepsDelay cfg) S₀ es) ∧
    (Along (Server.step cfg) (Server.KeepsDelay cfg) S₀ es → ∀ pre post, es = pre ++ post →
      let S := run (Server.step cfg) S₀ pre
      S.result = none → S.SetEmpty →
        S.waitMs = min (50 * 2 ^ Server.failures cfg S₀ 0 pre) 2000 ∧
          (6 ≤ Server.failures cfg S₀ 0 pre → S.waitMs = 2000)) := by
  intro S₀
  obtain ⟨_, hchain, -⟩ := (publishInv_run (publishInv_install h) calls).identities
  have hinv : S₀.Inv := (Server.start_spec cfg setup fault answers f hchain.current_valid).1
  constructor
  · constructor <;> intro halong
    · exact halong.of_inv hinv (fun S e hS _ => (hS.step cfg e).inv)
        fun S e hS hback => (Server.backsOff_iff hS).1 hback
    · exact halong.of_inv hinv (fun S e hS _ => (hS.step cfg e).inv)
        fun S e hS hkeep => (Server.backsOff_iff hS).2 hkeep
  · intro halong pre post heq S hrun hempty
    have hpre : Along (Server.step cfg) (Server.KeepsDelay cfg) S₀ pre := fun a e b hpre =>
      halong a e (b ++ post) (by rw [heq, hpre, List.append_assoc, List.cons_append])
    have hwait : S.waitMs = min (50 * 2 ^ Server.failures cfg S₀ 0 pre) 2000 :=
      ((Server.start_onSchedule cfg setup fault answers f _).run hinv hpre hrun).1
    refine ⟨hwait, fun hmany => ?_⟩
    have hpow : 2 ^ 6 ≤ 2 ^ Server.failures cfg S₀ 0 pre := Nat.pow_le_pow_right (by decide) hmany
    omega

/-- An attempt that ends without an error meets none. -/
theorem Server.KeepsDelay.of_ok {cfg : ServerConfig} {S : Server} {e : LoopEvent}
    (hb : S.SetEmpty → S.daemon.monitor.backend = .waiting)
    (hok : (S.daemon.rediscoverHalIdentities cfg.session e.hal).1 = .ok) : S.KeepsDelay cfg e := by
  intro _ hempty _
  cases Daemon.rediscover_attempt cfg.session e.hal hempty (hb hempty) with
  | missed _ _ hfine _ => exact hfine
  | found _ _ hfine _ => exact hfine
  | failed herr _ _ => exact absurd hok herr

/-- The server of the samples, over one HAL process. -/
def sampleServer : Server :=
  Server.start ⟨⟨0, 64, 0⟩, 0, 1⟩ none none (fun _ => .ok 8) noClearFaults
    (publishRun ((installReadonlyParserHook (sampleConfig 1) sampleIdentities).getD .zero) [])

/-- The process exits and does not come back. -/
theorem rediscovery_backs_off_after_exit :
    ∃ ctx0, installReadonlyParserHook (sampleConfig 1) sampleIdentities = some ctx0 ∧
      let cfg : ServerConfig := ⟨⟨0, 64, 0⟩, 0, 1⟩
      let S₀ := Server.start cfg none none (fun _ => .ok 8) noClearFaults (publishRun ctx0 [])
      let es := halEvent (.ready (fun _ => true) false) [] false ::
        List.replicate 7 (halEvent .timeout [] false)
      Along (Server.step cfg) (Server.BacksOff cfg) S₀ es ∧
        (run (Server.step cfg) S₀ es).waitMs = 2000 := by
  refine ⟨_, rfl, ?_⟩
  intro cfg S₀ es
  obtain ⟨hiff, hwaits⟩ := rediscovery_backs_off
    (h := (rfl : installReadonlyParserHook (sampleConfig 1) sampleIdentities = some _)) [] cfg none
    none (fun _ => .ok 8) noClearFaults es
  have hkeep : Along (Server.step cfg) (Server.KeepsDelay cfg) S₀ es := by
    have hok : Along (Server.step cfg) (fun S e =>
        (S.SetEmpty → S.daemon.monitor.backend = .waiting) ∧
          (S.daemon.rediscoverHalIdentities cfg.session e.hal).1 = .ok) S₀ es := by
      decide +kernel
    exact hok.mono fun S e h => .of_ok h.1 h.2
  refine ⟨hiff.2 hkeep, ?_⟩
  exact (hwaits hkeep es [] (List.append_nil _).symm (by decide +kernel) (by decide +kernel)).2
    (by decide +kernel)

/-- The process exits, and five processes pass at each attempt from then on: the second failure
leaves the wait that the first has left. -/
theorem error_wait_stays :
    let cfg : ServerConfig := ⟨⟨0, 64, 0⟩, 0, 1⟩
    let crowd := halEvent .timeout [7, 8, 9, 10, 11] false
    let S := run (Server.step cfg) sampleServer [halEvent (.ready (fun _ => true) false) [] false, crowd]
    S.rediscovers cfg crowd = true ∧ S.SetEmpty ∧ (S.step cfg crowd).SetEmpty ∧ S.waitMs = 100 ∧
      (S.step cfg crowd).result = none ∧ (S.step cfg crowd).waitMs = 100 := by
  decide +kernel

end Drmid
