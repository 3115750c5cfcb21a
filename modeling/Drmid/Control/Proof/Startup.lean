import Drmid.Control.Startup

/-!
# The start of the daemon keeps its order

Each function is followed through the ghost state of its calls: what it needs to be there, and what
it leaves. `startup_protocol` puts them together for every run of `skroot_module_main`, cut off
anywhere.
-/

namespace Drmid

open Lib

namespace Startup

/-- The program obeys from `s`, and returns with `Q` only. -/
abbrev Follows {α : Type} (env : StartupEnv) (Q : α → Started → Prop) (p : Startup α)
    (s : Started) : Prop :=
  p.Obeys Started.note (fun c s => s.Permits env c) Q s

/-- Only what is observed may differ. -/
def Observes (s s' : Started) : Prop :=
  ∃ stored ioctls snapshots,
    s' = { s with stored := stored, ioctls := ioctls, snapshots := snapshots }

section
variable {env : StartupEnv} {s s' s'' : Started} {session : HookSession}

theorem Observes.refl : Observes s s := ⟨_, _, _, rfl⟩

theorem Observes.trans (h : Observes s s') (h' : Observes s' s'') : Observes s s'' := by
  obtain ⟨_, _, _, rfl⟩ := h
  obtain ⟨_, _, _, rfl⟩ := h'
  exact ⟨_, _, _, rfl⟩

theorem Observes.memory (h : Observes s s') : s'.memory = s.memory := by
  obtain ⟨_, _, _, rfl⟩ := h
  rfl

theorem Observes.opened (h : Observes s s') : s'.opened = s.opened := by
  obtain ⟨_, _, _, rfl⟩ := h
  rfl

/-- A snapshot that is returned is the last one that was read. -/
theorem readSnapshot_follows (hmem : s.memory = some session.contextKaddr) :
    (readSnapshot session).Follows env (fun r s' =>
      Observes s s' ∧ s'.ioctls = s.ioctls ∧ r ≠ .error .ok ∧
        ∀ snapshot, r = .ok snapshot → s'.snapshots = s.snapshots ++ [snapshot]) s := by
  unfold readSnapshot
  split
  · exact ⟨.refl, rfl, by simp, fun _ h => (by cases h)⟩
  · refine Agent.obeys_ask_bind.2 ⟨hmem, fun r => ?_⟩
    cases r with
    | error err => exact ⟨.refl, rfl, by simpa using err.property, fun _ h => (by cases h)⟩
    | ok ctx =>
      refine ⟨⟨_, _, _, rfl⟩, rfl, ?_⟩
      simp only [readCounterSnapshot]
      split
      · exact ⟨by simp, fun _ h => (by cases h)⟩
      · split
        · exact ⟨by simp, fun _ h => (by cases h)⟩
        · refine ⟨by simp, fun _ h => ?_⟩
          rw [← Except.ok.inj h]
          rfl

/-! ## Observing -/

theorem noteRuntimeControlRejection_follows (hmem : s.memory = some session.contextKaddr) :
    (noteRuntimeControlRejection session).Follows env (fun _ s' => Observes s s') s := by
  refine Agent.obeys_bind.2 ((readSnapshot_follows hmem).mono ?_)
  rintro r s' ⟨hobserves, -⟩
  cases r with
  | error err => exact hobserves
  | ok snapshot => exact ⟨hobserves.memory.trans hmem, fun _ => hobserves⟩

theorem pollRuntimeControl_follows (hmem : s.memory = some session.contextKaddr) (passes : Nat)
    (generation : UInt64) (lastErr : KModErr) :
    (pollRuntimeControl session passes generation lastErr).Follows env
      (fun _ s' => Observes s s') s := by
  induction passes generalizing s generation lastErr with
  | zero => exact .refl
  | succ passes ih =>
    -- the pause and the passes that are left
    have hnext {s' : Started} (h : Observes s s') (generation : UInt64) (lastErr : KModErr) :
        (Agent.ask .usleep >>= fun _ => pollRuntimeControl session passes generation
          lastErr : Startup Unit).Follows env (fun _ s' => Observes s s') s' :=
      ⟨trivial, fun _ => (ih (h.memory.trans hmem) generation lastErr).mono fun _ _ => h.trans⟩
    have hnote {s' : Started} (h : Observes s s') (generation : UInt64) (lastErr : KModErr) :
        (noteRuntimeControlRejection session >>= fun _ => Agent.ask .usleep >>= fun _ =>
          pollRuntimeControl session passes generation lastErr : Startup Unit).Follows env
            (fun _ s' => Observes s s') s' := by
      refine Agent.obeys_bind.2
        ((noteRuntimeControlRejection_follows (h.memory.trans hmem)).mono ?_)
      exact fun _ _ h' => hnext (h.trans h') generation lastErr
    refine Agent.obeys_ask_bind.2 ⟨trivial, fun r => ?_⟩
    cases r with
    | ok config =>
      have hread : Observes s (s.note ⟨.readRuntimeControl, .ok config⟩) := ⟨_, _, _, rfl⟩
      dsimp only
      split
      · refine Agent.obeys_ask_bind.2 ⟨hmem, fun r => ?_⟩
        cases r with
        | some err => exact hnote hread _ _
        | none => exact hnext hread _ _
      · exact hnext hread _ _
    | error err =>
      dsimp only
      split
      · exact hnote .refl _ _
      · exact hnext .refl _ _

theorem observeUntilFile_follows (left : Nat) :
    (observeUntilFile left).Follows env (fun _ s' => s' = s) s := by
  induction left with
  | zero => exact rfl
  | succ left ih =>
    refine Agent.obeys_ask_bind.2 ⟨trivial, fun r => ?_⟩
    cases r with
    | true => exact rfl
    | false => exact ⟨trivial, fun _ => ih⟩

/-- A daemon does not touch the hook while it observes. -/
theorem observe_follows (hmem : s.memory = some session.contextKaddr) (config : ReplacementConfig) :
    (observe env session config).Follows env
      (fun _ s' => Observes s s' ∧ (env.daemonMode = true → s' = s)) s := by
  have hquiet {s' : Started} (h : s' = s) :
      Observes s s' ∧ (env.daemonMode = true → s' = s) := ⟨h ▸ .refl, fun _ => h⟩
  unfold observe
  split
  · exact hquiet rfl
  · split
    · next h =>
      refine (pollRuntimeControl_follows hmem _ _ _).mono fun _ s' h' => ⟨h', fun hdaemon => ?_⟩
      rw [hdaemon] at h
      cases h
    · split
      · exact ⟨trivial, fun _ => hquiet rfl⟩
      · split
        · refine Agent.obeys_bind.2 ((observeUntilFile_follows _).mono ?_)
          rintro _ _ rfl
          exact ⟨trivial, fun _ => hquiet rfl⟩
        · exact ⟨trivial, fun _ => hquiet rfl⟩

/-! ## The self-test and the server -/

theorem emptyBinderIoctls_follows (hopened : s.opened = true) (left successful : Nat) :
    (emptyBinderIoctls left successful).Follows env
      (fun r s' => Observes s s' ∧ s'.snapshots = s.snapshots ∧
        r + s.ioctls = successful + s'.ioctls) s := by
  induction left generalizing s successful with
  | zero => exact ⟨.refl, rfl, rfl⟩
  | succ left ih =>
    refine Agent.obeys_ask_bind.2 ⟨hopened, fun r => ?_⟩
    cases r with
    | false => exact ih hopened successful
    | true =>
      refine (ih (s := s.note ⟨.emptyBinderIoctl, true⟩) hopened (successful + 1)).mono ?_
      rintro r s' ⟨hobserves, hsnapshots, hr⟩
      have hcount : (s.note ⟨.emptyBinderIoctl, true⟩).ioctls = s.ioctls + 1 := rfl
      exact ⟨.trans ⟨_, _, _, rfl⟩ hobserves, hsnapshots, by omega⟩

/-- What the test of a daemon's hook says is in the snapshots and the calls. -/
theorem selfTest_follows (hmem : s.memory = some session.contextKaddr) (hopened : s.opened = true)
    (hioctls : s.ioctls = 0) (hsnapshots : s.snapshots = []) (config : ReplacementConfig) :
    (selfTest env session config).Follows env (fun r s' => Observes s s' ∧
      (r = .ok → env.daemonMode = true → ∃ before after, s'.snapshots = [before, after] ∧
        selfTestPassed s'.ioctls before after = true)) s := by
  refine Agent.obeys_bind.2 ((readSnapshot_follows hmem).mono ?_)
  rintro r s₁ ⟨h₁, hioctls₁, hfailed, hfirst⟩
  cases r with
  | error err => exact ⟨h₁, fun h => (hfailed (congrArg Except.error h)).elim⟩
  | ok before =>
    refine Agent.obeys_bind.2 ((emptyBinderIoctls_follows (h₁.opened.trans hopened) _ _).mono ?_)
    rintro successful s₂ ⟨h₂, hsnapshots₂, hcount⟩
    have h₂ := h₁.trans h₂
    refine Agent.obeys_bind.2 ((observe_follows (h₂.memory.trans hmem) config).mono ?_)
    rintro _ s₃ ⟨h₃, hdaemon⟩
    have h₃ := h₂.trans h₃
    refine Agent.obeys_bind.2 ((readSnapshot_follows (h₃.memory.trans hmem)).mono ?_)
    rintro r s₄ ⟨h₄, hioctls₄, hfailed, hsecond⟩
    have h₄ := h₃.trans h₄
    cases r with
    | error err => exact ⟨h₄, fun h => (hfailed (congrArg Except.error h)).elim⟩
    | ok after =>
      refine ⟨h₄, fun h hmode => ⟨before, after, ?_, ?_⟩⟩
      · rw [hsecond after rfl, hdaemon hmode, hsnapshots₂, hfirst before rfl, hsnapshots]
        rfl
      · have hsuccessful : successful = s₄.ioctls := by
          rw [hioctls₄, hdaemon hmode]
          omega
        rw [← hsuccessful]
        by_contra hfail
        rw [if_neg hfail] at h
        cases h

theorem serve_follows (hmem : s.memory = some session.contextKaddr) (hhooked : s.hooked = true)
    (htest : ∃ before after, s.snapshots = [before, after] ∧
      selfTestPassed s.ioctls before after = true) :
    (serve env session).Follows env (fun _ s' => Observes s s') s := by
  unfold serve
  split
  · exact .refl
  · refine Agent.obeys_ask_bind.2 ⟨⟨hmem, hhooked, htest⟩, fun err => ?_⟩
    refine Agent.obeys_bind.2 ((readSnapshot_follows (s := s) hmem).mono ?_)
    rintro r s' ⟨h, -⟩
    cases r <;> exact h

/-! ## With the hook -/

/-- The hook is in, over its memory, with the driver open. -/
structure Installed (kaddr : UInt64) (locked : Bool) (s : Started) : Prop where
  memory : s.memory = some kaddr
  opened : s.opened = true
  locked : s.locked = locked
  hooked : s.hooked = true
  everHooked : s.everHooked = true

theorem Installed.observes {kaddr : UInt64} {locked : Bool} (h : Installed kaddr locked s)
    (hobserves : Observes s s') : Installed kaddr locked s' := by
  obtain ⟨_, _, _, rfl⟩ := hobserves
  exact ⟨h.memory, h.opened, h.locked, h.hooked, h.everHooked⟩

/-- What the probe may leave when it returns `r`. -/
structure Done (locked : Bool) (r : KModErr) (s : Started) : Prop where
  opened : s.opened = false
  locked : s.locked = locked
  memory : s.memory.isSome = s.everHooked
  hooked : s.hooked = true → r ≠ .ok ∧ s.stuck = some r

/-- The hook is removed, or the error of the removal is returned. The memory stays. -/
theorem removeParserHook_follows {locked : Bool} (h : Installed session.contextKaddr locked s)
    (hhook : session.hook = true) :
    (removeParserHook session).Follows env (fun r s' => s'.opened = true ∧ s'.locked = locked ∧
      s'.memory.isSome = s'.everHooked ∧ (s'.hooked = true → r ≠ .ok ∧ s'.stuck = some r)) s := by
  unfold removeParserHook
  rw [hhook, if_pos rfl]
  refine Agent.obeys_ask_bind.2 ⟨h.hooked, fun removed => ?_⟩
  have hmemory : s.memory.isSome = s.everHooked := by rw [h.memory, h.everHooked]; rfl
  cases removed with
  | some err => exact ⟨h.opened, h.locked, hmemory, fun _ => ⟨err.property, rfl⟩⟩
  | none =>
    dsimp only
    split
    · refine Agent.obeys_bind.2 ((readSnapshot_follows
        (s := s.note ⟨.uninstallHook, none⟩) h.memory).mono ?_)
      rintro r s' ⟨⟨_, _, _, rfl⟩, -⟩
      cases r <;> exact ⟨h.opened, h.locked, hmemory, fun hhooked => (by cases hhooked)⟩
    · exact ⟨h.opened, h.locked, hmemory, fun hhooked => (by cases hhooked)⟩

theorem runHooked_follows {locked : Bool} (h : Installed session.contextKaddr locked s)
    (hhook : session.hook = true) (hioctls : s.ioctls = 0) (hsnapshots : s.snapshots = [])
    (config : ReplacementConfig) :
    (runHooked env session config).Follows env (fun r s' => Done locked r s') s := by
  -- the removal, whatever the probe would return
  have hremove {s' : Started} (h : Installed session.contextKaddr locked s') (err : KModErr) :
      (removeParserHook session >>= fun removeErr => Agent.ask .closeBinder >>= fun _ =>
        pure (if removeErr ≠ .ok then removeErr else err) : Startup KModErr).Follows env
          (fun r s' => Done locked r s') s' := by
    refine Agent.obeys_bind.2 ((removeParserHook_follows h hhook).mono ?_)
    rintro r s'' ⟨hopened, hlocked, hmemory, hhooked⟩
    refine ⟨hopened, fun _ => ⟨rfl, hlocked, hmemory, fun hleft => ?_⟩⟩
    obtain ⟨hne, hstuck⟩ := hhooked hleft
    rw [if_pos hne]
    exact ⟨hne, hstuck⟩
  refine Agent.obeys_bind.2 ((selfTest_follows h.memory h.opened hioctls hsnapshots config).mono ?_)
  rintro tested s₁ ⟨h₁, htest⟩
  have hinstalled := h.observes h₁
  split
  · next hrun =>
    refine Agent.obeys_bind.2 ((serve_follows hinstalled.memory hinstalled.hooked
      (htest hrun.1 hrun.2)).mono ?_)
    exact fun err s₂ h₂ => hremove (hinstalled.observes h₂) err
  · exact hremove hinstalled tested

/-! ## Up to the hook -/

/-- Nothing is allocated or installed. -/
structure Fresh (opened locked : Bool) (s : Started) : Prop where
  opened : s.opened = opened
  locked : s.locked = locked
  memory : s.memory = none
  hooked : s.hooked = false
  everHooked : s.everHooked = false
  ioctls : s.ioctls = 0
  snapshots : s.snapshots = []

theorem Fresh.done {locked : Bool} {r : KModErr} (h : Fresh false locked s) : Done locked r s where
  opened := h.opened
  locked := h.locked
  memory := by rw [h.memory, h.everHooked]; rfl
  hooked hleft := by
    rw [h.hooked] at hleft
    cases hleft

/-- The driver is closed where the probe gives up. -/
theorem close_follows {locked : Bool} (h : Fresh true locked s) (r : KModErr) :
    (Agent.ask .closeBinder >>= fun _ => pure r : Startup KModErr).Follows env
      (fun r s' => Done locked r s') s :=
  ⟨h.opened, fun _ => Fresh.done ⟨rfl, h.locked, h.memory, h.hooked, h.everHooked, h.ioctls,
    h.snapshots⟩⟩

/-- The gates that are behind the probe: the lock, the capture, the entry and the offsets. -/
structure Passed (env : StartupEnv) (target : UInt64) (offsets : TaskIdentityOffsets)
    (s : Started) : Prop where
  captured : env.daemonMode = true → s.captured = true
  locked : env.execDaemon = true → s.locked = true
  target : ∃ resolution, s.resolved = some resolution ∧ target = resolution.ioctlKaddr ∧
    hasRequiredBinderCapabilities resolution = true
  offsets : s.offsets = some offsets

/-- The config is the one of the control file, if a daemon has one. -/
def Stored (env : StartupEnv) (config : ReplacementConfig) (s : Started) : Prop :=
  (env.daemonMode && env.controlPath) = true → s.stored = some config

section
variable {locked : Bool} {target : UInt64} {offsets : TaskIdentityOffsets}
  {config : ReplacementConfig}

theorem restoreConfig_follows (hfresh : Fresh true locked s) (hpassed : Passed env target offsets s)
    (initial : ReplacementConfig) :
    (restoreConfig env initial).Follows env (fun r s' =>
      match r with
      | .error err => Done locked err s'
      | .ok config => Fresh true locked s' ∧ Passed env target offsets s' ∧ Stored env config s')
      s := by
  obtain ⟨hopened, hlocked, hmemory, hhooked, hever, hioctls, hsnapshots⟩ := hfresh
  obtain ⟨hcaptured, hlock, htarget, hoffsets⟩ := hpassed
  -- the driver is closed and the error returned
  have hclose {s' : Started} (err : KModErr) (h : ∃ x, s' = { s with stored := x }) :
      (Agent.ask .closeBinder >>= fun _ => pure (.error err) :
        Startup (Except KModErr ReplacementConfig)).Follows env (fun r s' =>
          match r with
          | .error err => Done locked err s'
          | .ok config =>
            Fresh true locked s' ∧ Passed env target offsets s' ∧ Stored env config s') s' := by
    obtain ⟨x, rfl⟩ := h
    exact ⟨hopened,
      fun _ => Fresh.done ⟨rfl, hlocked, hmemory, hhooked, hever, hioctls, hsnapshots⟩⟩
  have hstored (config : ReplacementConfig) :
      let s' := { s with stored := some config }
      Fresh true locked s' ∧ Passed env target offsets s' ∧ Stored env config s' :=
    ⟨⟨hopened, hlocked, hmemory, hhooked, hever, hioctls, hsnapshots⟩,
      ⟨hcaptured, hlock, htarget, hoffsets⟩, fun _ => rfl⟩
  unfold restoreConfig
  split
  · refine Agent.obeys_ask_bind.2 ⟨trivial, fun migrated => ?_⟩
    cases migrated with
    | some err => exact hclose _ ⟨_, rfl⟩
    | none =>
      refine Agent.obeys_ask_bind.2 ⟨trivial, fun _ => ?_⟩
      refine Agent.obeys_ask_bind.2 ⟨trivial, fun read => ?_⟩
      cases read with
      | ok persisted =>
        dsimp only
        split
        · exact hstored persisted
        · exact hclose _ ⟨_, rfl⟩
      | error readErr =>
        dsimp only
        split
        · refine Agent.obeys_ask_bind.2 ⟨trivial, fun written => ?_⟩
          cases written with
          | some err => exact hclose _ ⟨_, rfl⟩
          | none => exact hstored initial
        · exact hclose _ ⟨_, rfl⟩
  · next h =>
    exact ⟨⟨hopened, hlocked, hmemory, hhooked, hever, hioctls, hsnapshots⟩,
      ⟨hcaptured, hlock, htarget, hoffsets⟩, fun h' => (h h').elim⟩

/-- The hook is installed, or everything is as it was before. -/
theorem installParserHook_follows (hfresh : Fresh true locked s)
    (hpassed : Passed env target offsets s) (hstored : Stored env config s)
    {identities : HalIdentityConfig} (hidentities : s.identities = some identities) :
    (installParserHook target offsets config identities).Follows env (fun r s' =>
      match r with
      | .error _ => Fresh true locked s'
      | .ok session => Installed session.contextKaddr locked s' ∧ session.hook = true ∧
          s'.ioctls = 0 ∧ s'.snapshots = []) s := by
  obtain ⟨hopened, hlocked, hmemory, hhooked, hever, hioctls, hsnapshots⟩ := hfresh
  have hfree {s' : Started} {kaddr : UInt64} (err : KModErr)
      (h : ∃ written built,
        s' = { s with memory := some kaddr, written := written, built := built }) :
      (Agent.ask (.freeKernelMem kaddr) >>= fun _ => pure (.error err) :
        Startup (Except KModErr HookSession)).Follows env (fun r s' =>
          match r with
          | .error _ => Fresh true locked s'
          | .ok session => Installed session.contextKaddr locked s' ∧ session.hook = true ∧
              s'.ioctls = 0 ∧ s'.snapshots = []) s' := by
    obtain ⟨written, built, rfl⟩ := h
    exact ⟨⟨rfl, hever⟩, fun _ => ⟨hopened, hlocked, rfl, hhooked, hever, hioctls, hsnapshots⟩⟩
  unfold installParserHook
  cases hinitial : installReadonlyParserHook config identities with
  | none => exact ⟨hopened, hlocked, hmemory, hhooked, hever, hioctls, hsnapshots⟩
  | some initial =>
    refine Agent.obeys_ask_bind.2 ⟨hmemory, fun allocated => ?_⟩
    cases allocated with
    | error err => exact ⟨hopened, hlocked, hmemory, hhooked, hever, hioctls, hsnapshots⟩
    | ok kaddr =>
      refine Agent.obeys_ask_bind.2
        ⟨⟨rfl, hever, config, identities, hinitial, hidentities, hstored⟩, fun written => ?_⟩
      cases written with
      | some err => exact hfree _ ⟨_, _, rfl⟩
      | none =>
        refine Agent.obeys_ask_bind.2 ⟨⟨rfl, hpassed.offsets⟩, fun built => ?_⟩
        cases built with
        | error err => exact hfree _ ⟨_, _, rfl⟩
        | ok handler =>
          refine Agent.obeys_ask_bind.2
            ⟨⟨hpassed.target, rfl, rfl, hever, hpassed.captured, hpassed.locked⟩, fun hook => ?_⟩
          cases hook with
          | some err => exact hfree _ ⟨_, _, rfl⟩
          | none => exact ⟨⟨rfl, hopened, hlocked, rfl, rfl⟩, rfl, hioctls, hsnapshots⟩

theorem runResolved_follows {resolution : BinderIoctlResolution} (hfresh : Fresh true locked s)
    (hpassed : Passed env resolution.ioctlKaddr offsets s) (profile : LoadedProfile) :
    (runResolved env profile resolution offsets).Follows env (fun r s' => Done locked r s') s := by
  refine Agent.obeys_bind.2 ((restoreConfig_follows hfresh hpassed _).mono ?_)
  rintro r s₁ h₁
  cases r with
  | error err => exact h₁
  | ok config =>
    obtain ⟨hfresh₁, hpassed₁, hstored⟩ := h₁
    refine Agent.obeys_ask_bind.2 ⟨trivial, fun discovered => ?_⟩
    cases discovered with
    | error err => exact close_follows hfresh₁ _
    | ok identities =>
      refine Agent.obeys_bind.2 ((installParserHook_follows
        (s := s₁.note ⟨.discoverHalIdentities, .ok identities⟩) ⟨hfresh₁.opened, hfresh₁.locked,
          hfresh₁.memory, hfresh₁.hooked, hfresh₁.everHooked, hfresh₁.ioctls, hfresh₁.snapshots⟩
        ⟨hpassed₁.captured, hpassed₁.locked, hpassed₁.target, hpassed₁.offsets⟩ hstored
        rfl).mono ?_)
      rintro r s₂ h₂
      cases r with
      | error err => exact close_follows h₂ err
      | ok session =>
        obtain ⟨hinstalled, hhook, hioctls, hsnapshots⟩ := h₂
        exact runHooked_follows hinstalled hhook hioctls hsnapshots config

end

/-! ## The probe and the main function -/

section
variable {locked : Bool}

theorem runOpened_follows (hfresh : Fresh true locked s)
    (hcaptured : env.daemonMode = true → s.captured = true)
    (hlock : env.execDaemon = true → s.locked = true) (profile : LoadedProfile) :
    (runOpened env profile).Follows env (fun r s' => Done locked r s') s := by
  have hkeep {s' : Started} (h : ∃ resolved offsets,
      s' = { s with resolved := resolved, offsets := offsets }) : Fresh true locked s' := by
    obtain ⟨_, _, rfl⟩ := h
    exact ⟨hfresh.opened, hfresh.locked, hfresh.memory, hfresh.hooked, hfresh.everHooked,
      hfresh.ioctls, hfresh.snapshots⟩
  refine Agent.obeys_ask_bind.2 ⟨hfresh.opened, fun resolved => ?_⟩
  cases resolved with
  | error err => exact close_follows hfresh _
  | ok resolution =>
    have hresolved : Fresh true locked (s.note ⟨.resolveBinderIoctl, .ok resolution⟩) :=
      hkeep ⟨_, _, rfl⟩
    dsimp only
    split
    · exact close_follows hresolved _
    · next hcapable =>
      rw [Bool.not_eq_true', Bool.not_eq_false] at hcapable
      refine Agent.obeys_ask_bind.2 ⟨trivial, fun _ => ?_⟩
      refine Agent.obeys_ask_bind.2 ⟨trivial, fun validated => ?_⟩
      cases validated with
      | error err => exact close_follows hresolved _
      | ok offsets =>
        have hvalidated : Fresh true locked ((s.note ⟨.resolveBinderIoctl, .ok resolution⟩).note
          ⟨.taskIdentityOffsets, .ok offsets⟩) := hkeep ⟨_, _, rfl⟩
        dsimp only
        split
        · exact close_follows hvalidated _
        · exact runResolved_follows hvalidated
            ⟨hcaptured, hlock, ⟨resolution, rfl, rfl, hcapable⟩, rfl⟩ profile

theorem waitBoot_follows (pauses : Nat) :
    (waitBoot pauses).Follows env (fun _ s' => s' = s) s := by
  induction pauses with
  | zero => exact ⟨trivial, fun _ => rfl⟩
  | succ pauses ih =>
    refine Agent.obeys_ask_bind.2 ⟨trivial, fun r => ?_⟩
    cases r with
    | true => exact rfl
    | false => exact ⟨trivial, fun _ => ih⟩

/-- A daemon that goes on has captured the fingerprint. -/
theorem daemonPrelude_follows (hfresh : Fresh false locked s) :
    (daemonPrelude env).Follows env (fun r s' => Fresh false locked s' ∧
      (r = none → env.daemonMode = true → s'.captured = true)) s := by
  unfold daemonPrelude
  split
  · refine Agent.obeys_ask_bind.2 ⟨trivial, fun _ => ?_⟩
    refine Agent.obeys_ask_bind.2 ⟨trivial, fun _ => ?_⟩
    refine Agent.obeys_ask_bind.2 ⟨trivial, fun marked => ?_⟩
    cases marked with
    | true => exact ⟨trivial, fun _ => ⟨hfresh, fun h => (by cases h)⟩⟩
    | false =>
      refine Agent.obeys_bind.2 ((waitBoot_follows (s := s) _).mono ?_)
      rintro booted _ rfl
      cases booted with
      | false => exact ⟨hfresh, fun h => (by cases h)⟩
      | true =>
        refine Agent.obeys_ask_bind.2 ⟨trivial, fun _ => ?_⟩
        exact ⟨hfresh.everHooked, fun _ => ⟨⟨hfresh.opened, hfresh.locked, hfresh.memory,
          hfresh.hooked, hfresh.everHooked, hfresh.ioctls, hfresh.snapshots⟩, fun _ _ => rfl⟩⟩
  · next h => exact ⟨hfresh, fun _ h' => (h h').elim⟩

/-- What the process may leave when the probe returns `r`. -/
structure Probed (locked : Bool) (r : ProbeErr) (s : Started) : Prop where
  opened : s.opened = false
  locked : s.locked = locked
  memory : s.memory.isSome = s.everHooked
  hooked : s.hooked = true → ∃ err, err ≠ .ok ∧ s.stuck = some err ∧ r = .err err

theorem Done.probed {err : KModErr} (h : Done locked err s) : Probed locked (.err err) s :=
  ⟨h.opened, h.locked, h.memory, fun hleft => ⟨err, (h.hooked hleft).1, (h.hooked hleft).2, rfl⟩⟩

theorem Fresh.probed (h : Fresh false locked s) (r : ProbeErr) : Probed locked r s where
  opened := h.opened
  locked := h.locked
  memory := by rw [h.memory, h.everHooked]; rfl
  hooked hleft := by
    rw [h.hooked] at hleft
    cases hleft

theorem runReadonlyParserProbe_follows (hfresh : Fresh false locked s)
    (hlock : env.execDaemon = true → locked = true) :
    (runReadonlyParserProbe env).Follows env (fun r s' => Probed locked r s') s := by
  refine Agent.obeys_bind.2 ((daemonPrelude_follows hfresh).mono ?_)
  rintro r s' ⟨hfresh, hcaptured⟩
  cases r with
  | some result => exact hfresh.probed result
  | none =>
    refine Agent.obeys_ask_bind.2 ⟨trivial, fun loaded => ?_⟩
    cases loaded with
    | error err => exact hfresh.probed _
    | ok profile =>
      dsimp only
      split
      · exact hfresh.probed _
      · split
        · exact hfresh.probed _
        · refine Agent.obeys_ask_bind.2 ⟨hfresh.opened, fun opened => ?_⟩
          have hopened : Fresh opened locked (s'.note ⟨.openBinderDriver, opened⟩) :=
            ⟨rfl, hfresh.locked, hfresh.memory, hfresh.hooked, hfresh.everHooked, hfresh.ioctls,
              hfresh.snapshots⟩
          cases opened with
          | false => exact hopened.probed _
          | true =>
            refine Agent.obeys_bind.2 ((runOpened_follows hopened (hcaptured rfl)
              (fun h => hfresh.locked.trans (hlock h)) profile).mono ?_)
            exact fun err s'' h => h.probed

theorem skrootModuleMain_follows :
    (skrootModuleMain env).Follows env (fun e s' => s'.Ends e) .zero := by
  have hzero : Fresh false false .zero := ⟨rfl, rfl, rfl, rfl, rfl, rfl, rfl⟩
  unfold skrootModuleMain
  split
  · refine Agent.obeys_ask_bind.2 ⟨trivial, fun made => ?_⟩
    cases made with
    | false => exact ⟨rfl, rfl, rfl, fun h => (by cases h)⟩
    | true =>
      refine Agent.obeys_ask_bind.2 ⟨rfl, fun acquired => ?_⟩
      cases acquired with
      | false => exact ⟨rfl, rfl, rfl, fun h => (by cases h)⟩
      | true =>
        refine Agent.obeys_ask_bind.2 ⟨trivial, fun _ => ?_⟩
        refine Agent.obeys_ask_bind.2 ⟨trivial, fun noted => ?_⟩
        cases noted with
        | false => exact ⟨rfl, fun _ => ⟨rfl, rfl, rfl, fun h => (by cases h)⟩⟩
        | true =>
          have hlocked : Fresh false true { Started.zero with locked := true } :=
            ⟨rfl, rfl, rfl, rfl, rfl, rfl, rfl⟩
          refine Agent.obeys_bind.2
            ((runReadonlyParserProbe_follows hlocked fun _ => rfl).mono ?_)
          rintro r s' ⟨hopened, hlocked, hmemory, hhooked⟩
          refine ⟨hlocked, fun _ => ⟨hopened, rfl, hmemory, fun hleft => ?_⟩⟩
          obtain ⟨err, hne, hstuck, rfl⟩ := hhooked hleft
          exact ⟨err, hne, hstuck, rfl⟩
  · next h =>
    refine Agent.obeys_bind.2
      ((runReadonlyParserProbe_follows hzero fun h' => (h h').elim).mono ?_)
    rintro r s' ⟨hopened, hlocked, hmemory, hhooked⟩
    refine ⟨hopened, hlocked, hmemory, fun hleft => ?_⟩
    obtain ⟨err, hne, hstuck, rfl⟩ := hhooked hleft
    exact ⟨err, hne, hstuck, rfl⟩

end
end
end Startup

/-- **Main result: the start of the daemon keeps its order.** In every run of `skroot_module_main`,
whatever its calls are replied and wherever it is cut off, each call is made only when it may be
(`Started.Permits`), and what is left when it returns is what may be left (`Started.Ends`). -/
theorem startup_protocol (env : StartupEnv) (replies : List (∀ β, StartupCall β → β)) :
    let r := (skrootModuleMain env).run replies
    Along Started.note (fun s e => s.Permits env e.call) .zero r.1 ∧
      ∀ e, r.2 = some e → (Lib.run Started.note .zero r.1).Ends e :=
  Startup.skrootModuleMain_follows.run replies

end Drmid
