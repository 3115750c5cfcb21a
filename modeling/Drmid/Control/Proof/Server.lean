import Drmid.Lib.Run
import Drmid.Control.Server
import Drmid.Control.Proof.Monitor

/-!
# The life cycle of the HAL identities

`hal_lifecycle`: at every head of the server's loop the monitor and the kernel agree on the
identity set, backend and pidfds agree with the set and the retry delay is in its bounds; a
reported exit leaves the empty set behind; sets follow each other through the empty set; only an
apply request touches the configs; and a server that returns `OK` leaves the empty set.

The invariant is `Server.Inv`. One pass of the loop is the HAL part (`halPass_spec`), then the
client (`clientPass_spec`), then perhaps the shutdown (`shutdown_inv`).
-/

namespace Drmid

open KernelCounterContext Lib

/-! ## Histories -/

namespace Daemon

/-- Generations grow, and a non-empty set is only ever followed by an empty one. -/
structure Orderly (history : List HalIdentitySet) : Prop where
  growing : history.Pairwise fun later earlier => earlier.generation < later.generation
  alternates : Alternates history

theorem Synced.orderly {d : Daemon} (h : d.Synced) : Orderly d.history :=
  ⟨h.chain.growing.imp fun hlt => UInt64.lt_iff_toNat_lt.2 hlt, h.alternates⟩

theorem Orderly.nil : Orderly [] := ⟨List.Pairwise.nil, List.isChain_nil⟩

/-- Between two non-empty sets an empty one was published. -/
theorem Orderly.through_empty {history h₁ h₂ h₃ : List HalIdentitySet}
    {later earlier : HalIdentitySet} (h : Orderly history)
    (heq : history = h₁ ++ later :: h₂ ++ earlier :: h₃) (hl : later.count ≠ 0)
    (he : earlier.count ≠ 0) :
    ∃ set ∈ h₂, set.count = 0 ∧ earlier.generation < set.generation ∧
      set.generation < later.generation := by
  obtain ⟨hgrow, halt⟩ := h
  subst heq
  rcases List.eq_nil_or_concat h₂ with rfl | ⟨h₂', set, rfl⟩
  · have hlast : (h₁ ++ [later]).getLast? = some later := List.getLast?_concat
    exact absurd ((List.isChain_append.1 halt).2.2 later hlast earlier rfl he) hl
  · refine ⟨set, by simp, ?_, ?_, ?_⟩
    · have hlast : (h₁ ++ later :: h₂'.concat set).getLast? = some set := by
        rw [List.concat_eq_append, ← List.cons_append, ← List.append_assoc]
        exact List.getLast?_concat
      exact (List.isChain_append.1 halt).2.2 set hlast earlier rfl he
    · exact (List.pairwise_append.1 hgrow).2.2 set (by simp) earlier (by simp)
    · have hpre := (List.pairwise_append.1 hgrow).1
      have htail := (List.pairwise_append.1 hpre).2.1
      exact (List.pairwise_cons.1 htail).1 set (by simp)

end Daemon

/-! ## One pass -/

/-- The HAL part of a pass: in step with the kernel whatever happens, settled on success, and
cleared after a reported exit. -/
theorem halPass_spec (session : CounterHookSession) (e : LoopEvent) (exit elapsed : Bool)
    {d : Daemon} (h : d.Settled) (hb : elapsed = true → d.monitor.backend ≠ .pidfd) :
    let r := halPass session e exit elapsed d
    Daemon.Kept d r ∧ (exit = true → r.1 = .ok → r.2.Cleared) := by
  unfold halPass
  cases exit with
  | true =>
    obtain ⟨hs, hcleared, hconf⟩ := Daemon.clear_spec session true e.clear h.wake.toSynced
    exact ⟨⟨hs, fun hok => (hcleared hok).toSettled, hconf⟩, fun _ => hcleared⟩
  | false =>
    simp only [Bool.false_eq_true, if_false, false_implies, and_true]
    cases elapsed with
    | false => exact ⟨h.toSynced, fun _ => h, rfl, rfl⟩
    | true =>
      simp only [if_true]
      have hk := Daemon.rediscover_spec session e.hal h (hb rfl)
      by_cases hok : (d.rediscoverHalIdentities session e.hal).1 = .ok
      · simp only [hok, ne_eq, not_true_eq_false, if_false]
        exact ⟨hk.synced, fun _ => hk.settled hok, hk.configs⟩
      simp only [ne_eq, hok, not_false_eq_true, if_true]
      have hspec := Daemon.clear_spec session true e.clear hk.synced
      generalize (d.rediscoverHalIdentities session e.hal).2.clearMonitoredIdentities session true
        e.clear = cleared at hspec ⊢
      obtain ⟨hs, hcleared, hconf⟩ := hspec
      by_cases hclear : cleared.1 = .ok
      · simp only [hclear, not_true_eq_false, if_false]
        have hretry := (hcleared hclear).doubleRetry
        exact ⟨hretry.toSynced, fun _ => hretry.toSettled, hk.configs.trans hconf⟩
      · simp only [hclear, not_false_eq_true, if_true]
        exact ⟨hs, fun h => absurd h hclear, hk.configs.trans hconf⟩

/-! ### The client -/

theorem incrementRejections_ctx (session : CounterHookSession) (f : CounterFaults)
    (ctx : KernelCounterContext) :
    ctx.SameButTelemetry (incrementRejections session f ctx).2 := by
  unfold incrementRejections
  cases readCounterSnapshot session f.read ctx with
  | error err => exact .rfl
  | ok snapshot =>
    rcases f.write with _ | ⟨err, dirt⟩
    · exact ⟨_, _, _, _, rfl⟩
    · exact ⟨_, _, _, _, rfl⟩

theorem applyControlFile_identities (session : CounterHookSession) (e : ApplyEvent)
    (ctx : KernelCounterContext) :
    identityRegister.view (applyControlFile session e ctx).2 = identityRegister.view ctx := by
  unfold applyControlFile
  cases e.file with
  | error err => rfl
  | ok config =>
    cases readCounterSnapshot session e.read ctx with
    | error err => rfl
    | ok current =>
      dsimp only
      split
      · rfl
      · obtain ⟨hi, hs⟩ := Prod.mk.inj (publish_keeps configRegister_keeps_identities session
          (validateRuntimeConfig config) (.ofConfig config) e.publish ctx)
        exact identityRegister.view_congr hi hs

/-- No operation of a client touches the identities, and only apply touches the configs. -/
theorem handleOperation_spec (session : CounterHookSession)
    (operation : Option ControlIpcOperation) (apply : ApplyEvent) (ctx : KernelCounterContext) :
    let ctx' := (handleOperation session operation apply ctx).2
    identityRegister.view ctx' = identityRegister.view ctx ∧
      (operation ≠ some .apply → ctx' = ctx) := by
  cases operation with
  | none => exact ⟨rfl, fun _ => rfl⟩
  | some op =>
    cases op with
    | status => exact ⟨rfl, fun _ => rfl⟩
    | stop => exact ⟨rfl, fun _ => rfl⟩
    | apply =>
      refine ⟨?_, fun h => absurd rfl h⟩
      have happly := applyControlFile_identities session apply ctx
      simp only [handleOperation, handleApply]
      split
      · exact (identityView_telemetry (incrementRejections_ctx _ _ _)).trans happly
      · exact happly

theorem Daemon.Synced.of_view {d : Daemon} (h : d.Synced) {ctx : KernelCounterContext}
    (hview : identityRegister.view ctx = identityRegister.view d.ctx) :
    Synced { d with ctx := ctx } := by
  refine ⟨(congrArg DoubleSlot.current hview).trans h.kernel, h.valid, ?_, h.alternates⟩
  change DoubleSlot.Chain _ _ (identityRegister.view ctx) _
  rw [hview]
  exact h.chain

namespace Server

variable {cfg : ServerConfig} {S : Server} {e : LoopEvent}

theorem clientPass_spec (cfg : ServerConfig) (S : Server) (client : ClientEvent) :
    ∃ ctx stop sent, S.clientPass cfg client =
        { S with daemon := { S.daemon with ctx := ctx }, stop := stop, sent := sent } ∧
      identityRegister.view ctx = identityRegister.view S.daemon.ctx ∧
      (client.operation ≠ some .apply → ctx = S.daemon.ctx) := by
  cases client with
  | acceptFailed => exact ⟨_, _, _, rfl, rfl, fun _ => rfl⟩
  | accepted request apply fault =>
    obtain ⟨hid, hconf⟩ := handleOperation_spec cfg.session (request.bind validateRequest) apply
      S.daemon.ctx
    exact ⟨_, _, _, rfl, hid, hconf⟩

/-! ## The invariant -/

/-- What holds after any number of passes. -/
structure Inv (S : Server) : Prop where
  running : S.result = none → S.daemon.Settled
  orderly : Daemon.Orderly S.daemon.history
  stopped : S.result = some .ok → S.daemon.ctx.activeIdentities.count = 0

theorem Inv.of_settled (hr : S.result = none) (h : S.daemon.Settled) : S.Inv :=
  ⟨fun _ => h, h.toSynced.orderly, fun hok => by rw [hr] at hok; cases hok⟩

/-- The shutdown reports success only over the empty set. -/
theorem shutdown_spec (cfg : ServerConfig) (e : LoopEvent) (result : KModErr)
    (h : S.daemon.Synced) :
    (S.shutdown cfg e result).Inv ∧ S.daemon.ctx.SameConfigs (S.shutdown cfg e result).daemon.ctx ∧
      ∃ err, (S.shutdown cfg e result).result = some err ∧ (result ≠ .ok → err ≠ .ok) := by
  obtain ⟨hs, hcleared, hconf⟩ := Daemon.clear_spec cfg.session false e.shutdown h
  refine ⟨⟨fun hnone => (by cases hnone), hs.orderly, fun hok => ?_⟩, hconf, _, rfl, ?_⟩
  · have hclear : (S.daemon.clearMonitoredIdentities cfg.session false e.shutdown).1 = .ok := by
      by_contra hne
      simp only [shutdown, Option.some.injEq] at hok
      split at hok
      · exact hne hok
      · rename_i hcond
        exact hcond ⟨hne, hok⟩
    have hc := hcleared hclear
    change (S.daemon.clearMonitoredIdentities cfg.session false e.shutdown).2.ctx.activeIdentities.count
      = 0
    rw [hs.kernel]
    exact hc.empty
  · intro hne
    rw [if_neg (fun hcond => hne hcond.2)]
    exact hne

/-- Pidfds are polled without a lifecycle timeout. -/
theorem lifecycleElapsed_backend (h : S.lifecycleElapsed cfg e = true) :
    S.daemon.monitor.backend ≠ .pidfd := by
  intro hb
  simp [lifecycleElapsed, lifecycleTimeoutMs, hb] at h

/-- What a pass from `S` guarantees; `exit` says whether it reported an exit. -/
structure Pass (S : Server) (e : LoopEvent) (exit : Bool) (S' : Server) : Prop where
  inv : S'.Inv
  configs : e.client.operation ≠ some .apply → S.daemon.ctx.SameConfigs S'.daemon.ctx
  exits : exit = true → (S'.result = none ∧ S'.daemon.ctx.activeIdentities.count = 0) ∨
    ∃ err, S'.result = some err ∧ err ≠ .ok

/-- A pass that ends in the shutdown and reported no exit, or an error. -/
theorem Pass.shutdown {exit : Bool} {result : KModErr} (h : S.daemon.Synced)
    (hexit : exit = true → result ≠ .ok) : Pass S e exit (S.shutdown cfg e result) := by
  obtain ⟨hinv, hconf, err, hres, herr⟩ := shutdown_spec cfg e result h
  exact ⟨hinv, fun _ => hconf, fun ht => .inr ⟨err, hres, herr (hexit ht)⟩⟩

theorem Pass.of_configs {S₀ : Server} {exit : Bool} {S' : Server} (h : Pass S e exit S')
    (hconf : S₀.daemon.ctx.SameConfigs S.daemon.ctx) : Pass S₀ e exit S' :=
  ⟨h.inv, fun hop => hconf.trans (h.configs hop), h.exits⟩

/-- The rest of the body, after a HAL part that kept its promises. -/
theorem afterHal_pass {exit : Bool} {err : KModErr} (hr : S.result = none)
    (hsync : S.daemon.Synced) (hsettled : err = .ok → S.daemon.Settled)
    (hexit : exit = true → err = .ok → S.daemon.Cleared) :
    Pass S e exit (S.afterHal cfg e err) := by
  unfold afterHal
  by_cases herr : err = .ok
  · rw [if_neg (not_not.2 herr)]
    have hs := hsettled herr
    have hempty : exit = true → S.daemon.ctx.activeIdentities.count = 0 := fun ht => by
      rw [hsync.kernel]
      exact (hexit ht herr).empty
    split
    · obtain ⟨ctx, stop, sent, heq, hid, hconf⟩ := clientPass_spec cfg S e.client
      rw [heq]
      have hs' : Daemon.Settled { S.daemon with ctx := ctx } :=
        ⟨hs.toSynced.of_view hid, hs.consistent, hs.bounded⟩
      refine ⟨.of_settled hr hs', fun hop => ?_, fun ht => .inl ⟨hr, ?_⟩⟩
      · rw [hconf hop]
        exact ⟨rfl, rfl⟩
      · have hcur : ctx.activeIdentities = S.daemon.ctx.activeIdentities :=
          congrArg DoubleSlot.current hid
        exact (congrArg HalIdentitySet.count hcur).trans (hempty ht)
    · exact ⟨.of_settled hr hs, fun _ => ⟨rfl, rfl⟩, fun ht => .inl ⟨hr, hempty ht⟩⟩
  · rw [if_pos herr]
    exact .shutdown hsync fun _ => herr

theorem polled_pass (cfg : ServerConfig) (e : LoopEvent) (hr : S.result = none)
    (h : S.daemon.Settled) :
    Pass S e (e.poll.pidfdEvent S.daemon.monitor) (S.polled cfg e) := by
  obtain ⟨hk, hexit⟩ := halPass_spec cfg.session e (e.poll.pidfdEvent S.daemon.monitor)
    (S.lifecycleElapsed cfg e) h lifecycleElapsed_backend
  unfold polled
  refine Pass.of_configs (afterHal_pass ?_ hk.synced hk.settled hexit) hk.configs
  exact hr

/-- The pass polls, and `poll` reports that a monitored process has exited. -/
def reportsExit (cfg : ServerConfig) (S : Server) (e : LoopEvent) : Bool :=
  S.result.isNone && S.continues cfg e && !(S.tick cfg e.elapsedBefore).expired cfg &&
    e.poll.pidfdEvent S.daemon.monitor

/-- **One pass** keeps the invariant, leaves the configs to apply requests, and answers a reported
exit with the empty set or an error. -/
theorem Inv.step (cfg : ServerConfig) (h : S.Inv) (e : LoopEvent) :
    Pass S e (S.reportsExit cfg e) (S.step cfg e) := by
  unfold Server.step
  by_cases hr : S.result.isSome
  · rw [if_pos hr]
    refine ⟨h, fun _ => ⟨rfl, rfl⟩, fun ht => ?_⟩
    simp [reportsExit, Option.isNone_iff_eq_none, Option.isSome_iff_ne_none.1 hr] at ht
  rw [if_neg hr]
  have hnone : S.result = none := by simpa using hr
  have hs := h.running hnone
  by_cases hcont : S.continues cfg e = true
  · simp only [hcont, Bool.not_true, Bool.false_eq_true, if_false]
    have hs' : (S.tick cfg e.elapsedBefore).daemon.Settled := hs
    by_cases hexp : (S.tick cfg e.elapsedBefore).expired cfg = true
    · rw [if_pos hexp]
      refine Pass.of_configs (.shutdown hs'.toSynced fun ht => ?_) ⟨rfl, rfl⟩
      simp [reportsExit, hexp] at ht
    rw [if_neg hexp]
    have hpoll : ∀ {S' exit}, Pass (S.tick cfg e.elapsedBefore) e exit S' →
        (e.poll.pidfdEvent S.daemon.monitor = true → exit = true) →
        Pass S e (S.reportsExit cfg e) S' := by
      intro S' exit hp himp
      refine ⟨hp.inv, hp.configs, fun ht => hp.exits (himp ?_)⟩
      simp only [reportsExit, Bool.and_eq_true] at ht
      exact ht.2
    cases hp : e.poll with
    | interrupted =>
      have hpass : Pass (S.tick cfg e.elapsedBefore) e false (S.tick cfg e.elapsedBefore) :=
        ⟨.of_settled hnone hs', fun _ => ⟨rfl, rfl⟩, fun ht => by cases ht⟩
      exact hpoll hpass fun ht => by rw [hp] at ht; cases ht
    | failed =>
      have hpass : Pass (S.tick cfg e.elapsedBefore) e false
          ((S.tick cfg e.elapsedBefore).shutdown cfg e .errModuleSocket) :=
        .shutdown hs'.toSynced fun ht => by cases ht
      exact hpoll hpass fun ht => by rw [hp] at ht; cases ht
    | timeout | ready _ _ =>
      exact hpoll (polled_pass cfg e hnone hs') id
  · have hcont' : S.continues cfg e = false := by simpa using hcont
    simp only [hcont', Bool.not_false, if_true]
    refine .shutdown hs.toSynced fun ht => ?_
    simp [reportsExit, hcont'] at ht

theorem start_spec (cfg : ServerConfig) (setup fault : Option KModFailure)
    (answers : Nat → Except Errno Nat) (f : ClearFaults) {ctx : KernelCounterContext}
    (h : ctx.activeIdentities.WellFormed) :
    (start cfg setup fault answers f ctx).Inv ∧
      ctx.SameConfigs (start cfg setup fault answers f ctx).daemon.ctx := by
  have hearly : ∀ {err : KModErr}, err ≠ .ok →
      Inv ⟨⟨ctx, .zero, []⟩, false, 0, [], some err⟩ := fun herr =>
    ⟨fun hn => (by cases hn), .nil, fun hok => absurd (Option.some.inj hok) herr⟩
  unfold start
  dsimp only
  split
  · exact ⟨hearly (by decide), rfl, rfl⟩
  cases setup with
  | some err => exact ⟨hearly err.2, rfl, rfl⟩
  | none =>
    obtain ⟨hhist, hsettled, hconf⟩ := Daemon.initialize_spec cfg.session fault answers f h
    dsimp only
    generalize Daemon.initializeHalMonitor cfg.session fault answers f ctx = r at hhist hsettled hconf ⊢
    split
    · rename_i herr
      refine ⟨⟨fun hn => (by cases hn), ?_, fun hok => absurd (Option.some.inj hok) herr⟩, hconf⟩
      rcases hhist with hnil | hs
      · change Daemon.Orderly r.2.history
        rw [hnil]
        exact .nil
      · exact hs.orderly
    · rename_i herr
      exact ⟨.of_settled rfl (hsettled (not_not.1 herr)), hconf⟩

theorem Inv.run {S : Server} (h : S.Inv) (cfg : ServerConfig) (es : List LoopEvent) :
    (Lib.run (Server.step cfg) S es).Inv := by
  induction es using List.reverseRecOn with
  | nil => exact h
  | append_singleton es e ih =>
    rw [run_concat]
    exact (ih.step cfg e).inv

end Server

/-- **The life cycle of the HAL identities.** The server is started on an installed context, after
any publish calls, and makes any number of passes. At every head of its loop the monitor's set is
the kernel's, backend and pidfds agree with it (`Consistent`) and the retry delay lies between 50
and 2000 (`Bounded`). Generations grow from set to set, and two non-empty sets have an empty one
between them. A pass in which `poll` reports an exit leaves the empty set at the next head, or the
server returns an error. Without an apply request no pass touches the configs, nor does the start.
A server that has returned `OK` has left the empty set. -/
theorem hal_lifecycle {config : ReplacementConfig} {identities : HalIdentityConfig}
    {ctx0 : KernelCounterContext} (h : installReadonlyParserHook config identities = some ctx0)
    (calls : List PublishCall) (cfg : ServerConfig) (setup fault : Option KModFailure)
    (answers : Nat → Except Errno Nat) (f : ClearFaults) (es : List LoopEvent) :
    let S₀ := Server.start cfg setup fault answers f (publishRun ctx0 calls)
    let S := run (Server.step cfg) S₀ es
    (S.result = none →
      S.daemon.ctx.activeIdentities = .ofConfig S.daemon.monitor.active ∧
      S.daemon.history.head? = some S.daemon.ctx.activeIdentities ∧
      S.daemon.monitor.Consistent ∧ S.daemon.monitor.Bounded) ∧
    S.daemon.history.Pairwise (fun later earlier => earlier.generation < later.generation) ∧
    (∀ h₁ h₂ h₃ later earlier, S.daemon.history = h₁ ++ later :: h₂ ++ earlier :: h₃ →
      later.count ≠ 0 → earlier.count ≠ 0 →
      ∃ set ∈ h₂, set.count = 0 ∧ earlier.generation < set.generation ∧
        set.generation < later.generation) ∧
    (∀ e, S.reportsExit cfg e = true →
      ((S.step cfg e).result = none ∧ (S.step cfg e).daemon.ctx.activeIdentities.count = 0) ∨
        ∃ err, (S.step cfg e).result = some err ∧ err ≠ .ok) ∧
    (publishRun ctx0 calls).SameConfigs S₀.daemon.ctx ∧
    (∀ e, e.client.operation ≠ some .apply →
      S.daemon.ctx.SameConfigs (S.step cfg e).daemon.ctx) ∧
    (S.result = some .ok → S.daemon.ctx.activeIdentities.count = 0) := by
  intro S₀ S
  obtain ⟨_, hchain, -⟩ := (publishInv_run (publishInv_install h) calls).identities
  obtain ⟨hstart, hconf⟩ := Server.start_spec cfg setup fault answers f hchain.current_valid
  have hinv : S.Inv := hstart.run cfg es
  refine ⟨fun hr => ?_, hinv.orderly.growing, ?_, ?_, hconf, ?_, hinv.stopped⟩
  · have hs := hinv.running hr
    exact ⟨hs.kernel, hs.chain.head, hs.consistent, hs.bounded⟩
  · intro h₁ h₂ h₃ later earlier heq hl he
    exact hinv.orderly.through_empty heq hl he
  · intro e hexit
    exact (hinv.step cfg e).exits hexit
  · intro e hop
    exact (hinv.step cfg e).configs hop

/-- No kernel operation of a clear fails. -/
def noClearFaults : ClearFaults := ⟨⟨.none, ⟨none, none⟩⟩, ⟨none, none⟩⟩

/-- A pass that meets no client; the processes in `found` are there. -/
def halEvent (poll : PollOutcome) (found : List UInt32) (stop : Bool) : LoopEvent where
  stopRequested := stop
  elapsedBefore := 0
  poll := poll
  elapsedAfter := 0
  hal := ⟨some found, fun _ => .ok 9, noClearFaults, noClearFaults.toMonitorFaults⟩
  clear := noClearFaults
  client := .acceptFailed
  shutdown := noClearFaults

/-- The HAL exits, comes back under another TGID, and the daemon is stopped. -/
theorem hal_lifecycle_restart :
    ∃ ctx0, installReadonlyParserHook (sampleConfig 1) sampleIdentities = some ctx0 ∧
      let S := run (Server.step ⟨⟨0, 64, 0⟩, 0, 1⟩)
        (Server.start ⟨⟨0, 64, 0⟩, 0, 1⟩ none none (fun _ => .ok 8) noClearFaults
          (publishRun ctx0 []))
        [halEvent (.ready (fun _ => true) false) [] false, halEvent .timeout [7] false,
          halEvent .timeout [7] true]
      S.daemon.history.map HalIdentitySet.count = [0, 1, 0, 1] ∧ S.result = some .ok ∧
        S.daemon.ctx.activeIdentities.count = 0 := by
  refine ⟨_, rfl, by decide +kernel, by decide +kernel, ?_⟩
  obtain ⟨-, -, -, -, -, -, hstopped⟩ := hal_lifecycle
    (h := (rfl : installReadonlyParserHook (sampleConfig 1) sampleIdentities = some _)) []
    ⟨⟨0, 64, 0⟩, 0, 1⟩ none none (fun _ => .ok 8) noClearFaults
    [halEvent (.ready (fun _ => true) false) [] false, halEvent .timeout [7] false,
      halEvent .timeout [7] true]
  exact hstopped (by decide +kernel)

end Drmid
