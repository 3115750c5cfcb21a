import Drmid.Hook.Publish
import Drmid.Hook.System

/-!
# What a publish call can do

`publish_outcome` says it once for both calls: a call is refused before it wrote anything, gives up
with the inactive slot dirty, or publishes. Read on the register alone this is an
`Lib.DoubleSlot.Attempt` (`publish_attempt`), and `double_slot_publication` follows for all
sequences of calls: the active slots are always well formed, a call that succeeds makes exactly its
argument active, with the largest generation so far, and a call that fails is not seen.
-/

namespace Drmid

open KernelCounterContext Lib

/-! ## One call -/

section
variable {α β : Type} {r : Register α} {session : CounterHookSession} {valid : Bool} {next : α}
  {k : KernelFaults α} {ctx : KernelCounterContext} {res : PublishResult}

/-- The context carries the installer's stamp. -/
def KernelCounterContext.Stamped (ctx : KernelCounterContext) : Prop :=
  ctx.magic = kCounterContextMagic ∧ ctx.abiVersion = kCounterContextAbi

/-- The arguments pass every check of the call, in the context it reads. -/
structure Acceptable (r : Register α) (session : CounterHookSession) (valid : Bool) (next : α)
    (ctx : KernelCounterContext) : Prop where
  session : session.contextKaddr ≠ 0
  valid : valid = true
  stamped : ctx.Stamped
  newer : r.generation (r.view ctx).current < r.generation next

/-- The context after the inactive slot was filled with `x`; the counters are `c`. -/
def Register.filled (r : Register α) (ctx : KernelCounterContext) (x : α) (c : Counter → UInt64) :
    KernelCounterContext :=
  { r.setSlots ctx (Function.update (r.slots ctx) (r.view ctx).spare x) with counter := c }

/-- The three ways a publish call ends. -/
inductive PublishOutcome (r : Register α) (next : α) (accepted : Prop)
    (ctx : KernelCounterContext) : PublishResult → Prop
  | refused (err : KModFailure) : PublishOutcome r next accepted ctx ⟨err, 0, ctx⟩
  | gaveUp (err : KModFailure) (x : α) (c : Counter → UInt64) (h : accepted) :
    PublishOutcome r next accepted ctx ⟨err, 0, r.filled ctx x c⟩
  | published (c : Counter → UInt64) (h : accepted) :
    PublishOutcome r next accepted ctx ⟨.ok, slotWord (r.view ctx).spare,
      r.setIndex (r.filled ctx next c) (slotWord (r.view ctx).spare)⟩

/-! ### Reading the context -/

theorem readCounterSnapshot_eq_ok {fault : Option KModFailure} {snapshot : KernelCounterContext}
    (h : readCounterSnapshot session fault ctx = .ok snapshot) :
    session.contextKaddr ≠ 0 ∧ ctx.Stamped ∧ snapshot = ctx := by
  unfold readCounterSnapshot at h
  by_cases hs : session.contextKaddr = 0
  · rw [if_pos hs] at h
    cases h
  rw [if_neg hs] at h
  cases fault with
  | some f => cases h
  | none =>
    by_cases hm : ctx.magic ≠ kCounterContextMagic ∨ ctx.abiVersion ≠ kCounterContextAbi
    · simp only [if_pos hm] at h
      cases h
    · simp only [if_neg hm] at h
      obtain ⟨hm, ha⟩ := not_or.1 hm
      cases h
      exact ⟨hs, ⟨not_not.1 hm, not_not.1 ha⟩, rfl⟩

theorem readCounterSnapshot_of_stamped (hs : session.contextKaddr ≠ 0) (hc : ctx.Stamped) :
    readCounterSnapshot session none ctx = .ok ctx := by
  unfold readCounterSnapshot
  rw [if_neg hs]
  simp only [hc.1, hc.2, ne_eq, not_true_eq_false, or_self, if_false]

/-- A snapshot that is not given is an error. -/
theorem readCounterSnapshot_ne_ok {fault : Option KModFailure} {err : KModErr}
    (h : readCounterSnapshot session fault ctx = .error err) : err ≠ .ok := by
  unfold readCounterSnapshot at h
  split at h
  · cases h
    decide
  · cases fault with
    | some f =>
      cases h
      exact f.2
    | none =>
      dsimp only at h
      split at h <;> cases h
      decide

/-- A plan is made for acceptable arguments only, and aims at the spare slot. -/
theorem snapshotStage_eq_ok {fault : Option KModFailure} {plan : PublishPlan α}
    (h : r.snapshotStage session valid next fault ctx = .ok plan) :
    Acceptable r session valid next ctx ∧
      plan = ⟨(r.view ctx).spare, next, ctx.counter r.switches + 1⟩ := by
  unfold Register.snapshotStage at h
  by_cases hs : session.contextKaddr = 0 ∨ valid = false
  · rw [if_pos hs] at h
    cases h
  rw [if_neg hs] at h
  cases hr : readCounterSnapshot session fault ctx with
  | error err => simp [hr] at h
  | ok snapshot =>
    obtain ⟨hk, hc, rfl⟩ := readCounterSnapshot_eq_ok hr
    rw [hr] at h
    dsimp only at h
    split at h
    · cases h
    · rename_i hg
      cases h
      exact ⟨⟨hk, by simpa using (not_or.1 hs).2, hc, UInt64.not_le.1 hg⟩, rfl⟩

theorem snapshotStage_of_acceptable (h : Acceptable r session valid next ctx) :
    r.snapshotStage session valid next none ctx =
      .ok ⟨(r.view ctx).spare, next, ctx.counter r.switches + 1⟩ := by
  unfold Register.snapshotStage
  rw [if_neg (by simp [h.session, h.valid]), readCounterSnapshot_of_stamped h.session h.stamped]
  exact if_neg (UInt64.not_le.2 h.newer)

theorem snapshotStage_ne_ok {fault : Option KModFailure} {err : KModErr}
    (h : r.snapshotStage session valid next fault ctx = .error err) : err ≠ .ok := by
  unfold Register.snapshotStage at h
  split at h
  · cases h
    decide
  · cases hr : readCounterSnapshot session fault ctx with
    | error e =>
      rw [hr] at h
      cases h
      exact readCounterSnapshot_ne_ok hr
    | ok snapshot =>
      rw [hr] at h
      dsimp only at h
      split at h <;> cases h
      decide

/-! ### The outcome -/

/-- **What a publish call can do.** -/
theorem publish_outcome (r : Register α) (session : CounterHookSession) (valid : Bool) (next : α)
    (k : KernelFaults α) (ctx : KernelCounterContext) :
    PublishOutcome r next (Acceptable r session valid next ctx) ctx
      (publish r session valid next k ctx) := by
  unfold publish
  cases hsnap : r.snapshotStage session valid next k.read ctx with
  | error err => exact .refused ⟨err, snapshotStage_ne_ok hsnap⟩
  | ok plan =>
    obtain ⟨ha, rfl⟩ := snapshotStage_eq_ok hsnap
    rcases hslot : k.slot with _ | ⟨err, dirt⟩
    · rcases hsw : k.switches with _ | ⟨err, dirt⟩
      · rcases hflip : k.flip with _ | err
        · exact .published _ ha
        · exact .gaveUp err next _ ha
      · exact .gaveUp err next _ ha
    · exact .gaveUp err dirt _ ha

/-- Without kernel failures, acceptable arguments are published. -/
theorem publish_ok_of_acceptable (h : Acceptable r session valid next ctx) :
    (publish r session valid next .none ctx).err = .ok := by
  unfold publish KernelFaults.none
  simp only [snapshotStage_of_acceptable h]
  rfl

/-- Only acceptable arguments are published. -/
theorem acceptable_of_publish_ok (h : (publish r session valid next k ctx).err = .ok) :
    Acceptable r session valid next ctx := by
  have ho := publish_outcome r session valid next k ctx
  revert h ho
  generalize publish r session valid next k ctx = res
  rintro h (err | ⟨err, -, -, ha⟩ | ⟨-, ha⟩)
  · exact absurd h err.2
  · exact ha
  · exact ha

/-! ### The register -/

@[simp] theorem slotOf_slotWord (i : Fin 2) : slotOf (slotWord i) = i := by
  revert i
  decide

theorem Register.view_congr (r : Register α) {ctx ctx' : KernelCounterContext}
    (hi : r.index ctx' = r.index ctx) (hs : r.slots ctx' = r.slots ctx) :
    r.view ctx' = r.view ctx := by
  rw [view, view, hi, hs]

theorem Register.view_filled (r : Register α) (ctx : KernelCounterContext) (x : α)
    (c : Counter → UInt64) : r.view (r.filled ctx x c) = (r.view ctx).store x := by
  simp only [view, filled, r.index_counter, r.slots_counter, r.index_setSlots, r.slots_setSlots]
  rfl

theorem Register.view_setIndex (r : Register α) (ctx : KernelCounterContext) (i : Fin 2) :
    r.view (r.setIndex ctx (slotWord i)) = ⟨i, r.slots ctx⟩ := by
  simp only [view, r.index_setIndex, r.slots_setIndex, slotOf_slotWord]

/-- A publish call is one try on its register. -/
theorem publish_attempt (r : Register α) (session : CounterHookSession) (valid : Bool) (next : α)
    (k : KernelFaults α) (ctx : KernelCounterContext) :
    DoubleSlot.Attempt next (r.view ctx) (r.view (publish r session valid next k ctx).ctx)
      (decide ((publish r session valid next k ctx).err = .ok)) := by
  have ho := publish_outcome r session valid next k ctx
  generalize publish r session valid next k ctx = res at ho ⊢
  cases ho with
  | refused err =>
    rw [decide_eq_false err.2]
    exact .refused
  | gaveUp err x c ha =>
    rw [decide_eq_false err.2, r.view_filled]
    exact .dirtied x
  | published c ha =>
    have hs : r.slots (r.filled ctx next c) = ((r.view ctx).store next).slots := by
      rw [← r.view_filled ctx next c]
      rfl
    rw [decide_eq_true rfl, r.view_setIndex, hs]
    exact .published

theorem publish_attempt_ok (h : (publish r session valid next k ctx).err = .ok) :
    DoubleSlot.Attempt next (r.view ctx) (r.view (publish r session valid next k ctx).ctx) true := by
  have ha := publish_attempt r session valid next k ctx
  rwa [decide_eq_true h] at ha

theorem publish_attempt_failed (h : (publish r session valid next k ctx).err ≠ .ok) :
    DoubleSlot.Attempt next (r.view ctx) (r.view (publish r session valid next k ctx).ctx)
      false := by
  have ha := publish_attempt r session valid next k ctx
  rwa [decide_eq_false h] at ha

/-- A call that fails leaves the index word. -/
theorem publish_index_of_failed (h : (publish r session valid next k ctx).err ≠ .ok) :
    r.index (publish r session valid next k ctx).ctx = r.index ctx := by
  have ho := publish_outcome r session valid next k ctx
  revert h ho
  generalize publish r session valid next k ctx = res
  rintro h (err | ⟨err, x, c, ha⟩ | ⟨c, ha⟩)
  · rfl
  · simp only [Register.filled, r.index_counter, r.index_setSlots]
  · exact absurd rfl h

/-! ### The rest of the context -/

/-- `f` reads a part of the context that publishing to `r` does not write. -/
structure Register.Keeps (r : Register α) (f : KernelCounterContext → β) : Prop where
  setIndex : ∀ ctx i, f (r.setIndex ctx i) = f ctx
  setSlots : ∀ ctx s, f (r.setSlots ctx s) = f ctx
  counter : ∀ (ctx : KernelCounterContext) c, f { ctx with counter := c } = f ctx

theorem publish_keeps {f : KernelCounterContext → β} (hf : r.Keeps f)
    (session : CounterHookSession) (valid : Bool) (next : α) (k : KernelFaults α)
    (ctx : KernelCounterContext) : f (publish r session valid next k ctx).ctx = f ctx := by
  have ho := publish_outcome r session valid next k ctx
  revert ho
  generalize publish r session valid next k ctx = res
  rintro (err | ⟨err, x, c, ha⟩ | ⟨c, ha⟩)
  · rfl
  · simp only [Register.filled, hf.counter, hf.setSlots]
  · simp only [Register.filled, hf.setIndex, hf.counter, hf.setSlots]

theorem configRegister_keeps_stamp :
    configRegister.Keeps fun ctx => (ctx.magic, ctx.abiVersion) :=
  ⟨fun _ _ => rfl, fun _ _ => rfl, fun _ _ => rfl⟩

theorem identityRegister_keeps_stamp :
    identityRegister.Keeps fun ctx => (ctx.magic, ctx.abiVersion) :=
  ⟨fun _ _ => rfl, fun _ _ => rfl, fun _ _ => rfl⟩

theorem configRegister_keeps_identities :
    configRegister.Keeps fun ctx => (ctx.activeHalIdentitySlot, ctx.halIdentitySlots) :=
  ⟨fun _ _ => rfl, fun _ _ => rfl, fun _ _ => rfl⟩

theorem identityRegister_keeps_configs :
    identityRegister.Keeps fun ctx => (ctx.activeConfigSlot, ctx.configSlots) :=
  ⟨fun _ _ => rfl, fun _ _ => rfl, fun _ _ => rfl⟩

/-- Arguments stay acceptable while calls with them fail. -/
theorem Acceptable.after_failure (hstamp : r.Keeps fun ctx => (ctx.magic, ctx.abiVersion))
    (ha : Acceptable r session valid next ctx)
    (hfailed : (publish r session valid next k ctx).err ≠ .ok) :
    Acceptable r session valid next (publish r session valid next k ctx).ctx := by
  obtain ⟨hm, hv⟩ := Prod.mk.inj (publish_keeps hstamp session valid next k ctx)
  refine ⟨ha.session, ha.valid, ⟨hm.trans ha.stamped.1, hv.trans ha.stamped.2⟩, ?_⟩
  rw [(publish_attempt_failed hfailed).failed.2]
  exact ha.newer

end

/-! ## Sequences of calls -/

theorem RuntimeConfigSlot.ofConfig_holds (config : ReplacementConfig) :
    (RuntimeConfigSlot.ofConfig config).Holds config :=
  ⟨rfl, rfl, rfl, rfl, rfl, fun i => by simp [ofConfig]⟩

theorem HalIdentitySet.ofConfig_holds (identities : HalIdentityConfig) :
    (HalIdentitySet.ofConfig identities).Holds identities := ⟨rfl, rfl, rfl⟩

/-- The slot was written from an accepted config. -/
def RuntimeConfigSlot.WellFormed (slot : RuntimeConfigSlot) : Prop :=
  ∃ config, validateRuntimeConfig config = true ∧ slot.Holds config

/-- The set was written from accepted identities. -/
def HalIdentitySet.WellFormed (set : HalIdentitySet) : Prop :=
  ∃ identities, validateHalIdentities identities = true ∧ set.Holds identities

section
variable {α : Type} {r : Register α} {good : α → Prop} {ctx0 : KernelCounterContext}
  {calls : List PublishCall} {call : PublishCall} {next : α} {ok : Bool}

/-- What readers of `r` were given along the calls: all of it good, of growing generation. -/
def Register.History (r : Register α) (good : α → Prop) (ctx0 : KernelCounterContext)
    (calls : List PublishCall) : Prop :=
  ∃ hist, DoubleSlot.Chain good (fun x => (r.generation x).toNat)
      (r.view (publishRun ctx0 calls)) hist ∧
    ∀ pre, pre <+: calls → (r.view (publishRun ctx0 pre)).current ∈ hist

theorem Register.History.init (h : good (r.view ctx0).current) : r.History good ctx0 [] := by
  refine ⟨[(r.view ctx0).current], ⟨rfl, by simpa using h, by simp⟩, fun pre hpre => ?_⟩
  rw [List.prefix_nil.1 hpre]
  exact List.mem_singleton_self _

theorem Register.History.concat (h : r.History good ctx0 calls)
    (ha : DoubleSlot.Attempt next (r.view (publishRun ctx0 calls))
      (r.view (publishRun ctx0 (calls ++ [call]))) ok)
    (hx : ok = true → good next ∧
      r.generation (r.view (publishRun ctx0 calls)).current < r.generation next) :
    r.History good ctx0 (calls ++ [call]) := by
  obtain ⟨hist, hchain, hmem⟩ := h
  have hchain' := hchain.attempt ha fun hok => ⟨(hx hok).1, UInt64.lt_iff_toNat_lt.1 (hx hok).2⟩
  refine ⟨_, hchain', fun pre hpre => ?_⟩
  rcases List.prefix_concat_iff.1 hpre with rfl | hpre
  · exact hchain'.current_mem
  · have := hmem pre hpre
    cases ok
    · exact this
    · exact List.mem_cons_of_mem _ this

/-- One more call on a register with a history. -/
theorem Register.History.promise (h : r.History good ctx0 calls)
    (hstamp : r.Keeps fun ctx => (ctx.magic, ctx.abiVersion))
    (hctx : (publishRun ctx0 calls).Stamped) (session : CounterHookSession) (valid : Bool)
    (next : α) (k : KernelFaults α) :
    let ctx := publishRun ctx0 calls
    let res := publish r session valid next k ctx
    (res.err = .ok → (r.view res.ctx).current = next ∧ ∀ pre, pre <+: calls →
      r.generation (r.view (publishRun ctx0 pre)).current < r.generation next) ∧
    (res.err ≠ .ok → r.index res.ctx = r.index ctx ∧
      (r.view res.ctx).current = (r.view ctx).current ∧
      (session.contextKaddr ≠ 0 → valid = true →
        r.generation (r.view ctx).current < r.generation next →
        (publish r session valid next .none res.ctx).err = .ok)) := by
  intro ctx res
  constructor
  · intro hok
    refine ⟨(publish_attempt_ok hok).succeeded, fun pre hpre => ?_⟩
    obtain ⟨hist, hchain, hmem⟩ := h
    have hle := hchain.rank_le _ (hmem pre hpre)
    have hlt := UInt64.lt_iff_toNat_lt.1 (acceptable_of_publish_ok hok).newer
    exact UInt64.lt_iff_toNat_lt.2 (Nat.lt_of_le_of_lt hle hlt)
  · intro hfailed
    refine ⟨publish_index_of_failed hfailed, (publish_attempt_failed hfailed).failed.2,
      fun hs hv hg => ?_⟩
    exact publish_ok_of_acceptable
      (Acceptable.after_failure hstamp ⟨hs, hv, hctx, hg⟩ hfailed)

end

/-- What every sequence of calls preserves. -/
structure PublishInv (ctx0 : KernelCounterContext) (calls : List PublishCall) : Prop where
  stamped : (publishRun ctx0 calls).Stamped
  configs : configRegister.History RuntimeConfigSlot.WellFormed ctx0 calls
  identities : identityRegister.History HalIdentitySet.WellFormed ctx0 calls

theorem publishInv_install {config : ReplacementConfig} {identities : HalIdentityConfig}
    {ctx0 : KernelCounterContext} (h : installReadonlyParserHook config identities = some ctx0) :
    PublishInv ctx0 [] := by
  unfold installReadonlyParserHook at h
  split at h
  · rename_i hv
    obtain ⟨hc, hi⟩ := Bool.and_eq_true_iff.1 hv
    cases h
    refine ⟨⟨rfl, rfl⟩, .init ⟨config, hc, ?_⟩, .init ⟨identities, hi, ?_⟩⟩
    · exact RuntimeConfigSlot.ofConfig_holds config
    · exact HalIdentitySet.ofConfig_holds identities
  · cases h

section
variable {α : Type} {r : Register α} {good : α → Prop} {ctx0 : KernelCounterContext}
  {calls : List PublishCall}

/-- The history of the register that a call publishes to. -/
theorem Register.History.publish (h : r.History good ctx0 calls) {call : PublishCall}
    {session : CounterHookSession} {valid : Bool} {next : α} {k : KernelFaults α}
    (hcall : call.exec (publishRun ctx0 calls) =
      (publish r session valid next k (publishRun ctx0 calls)).ctx)
    (hgood : valid = true → good next) : r.History good ctx0 (calls ++ [call]) := by
  have hrun : publishRun ctx0 (calls ++ [call]) = _ := run_concat.trans hcall
  have ha := publish_attempt r session valid next k (publishRun ctx0 calls)
  refine h.concat (hrun ▸ ha) fun hok => ?_
  have hacc := acceptable_of_publish_ok (of_decide_eq_true hok)
  exact ⟨hgood hacc.valid, hacc.newer⟩

/-- The history of a register that a call does not touch. -/
theorem Register.History.keep (h : r.History good ctx0 calls) {call : PublishCall}
    (hcall : r.view (call.exec (publishRun ctx0 calls)) = r.view (publishRun ctx0 calls)) :
    r.History good ctx0 (calls ++ [call]) := by
  have hrun : r.view (publishRun ctx0 (calls ++ [call])) = _ :=
    (congrArg r.view run_concat).trans hcall
  have ha : DoubleSlot.Attempt (r.view (publishRun ctx0 calls)).current
      (r.view (publishRun ctx0 calls)) (r.view (publishRun ctx0 (calls ++ [call]))) false := by
    rw [hrun]
    exact .refused
  exact h.concat ha fun hok => by cases hok

end

/-- A call preserves the stamp. -/
theorem Stamped.publish {α : Type} {r : Register α} {ctx : KernelCounterContext}
    (h : ctx.Stamped) (hstamp : r.Keeps fun ctx => (ctx.magic, ctx.abiVersion))
    (session : CounterHookSession) (valid : Bool) (next : α) (k : KernelFaults α) :
    (Drmid.publish r session valid next k ctx).ctx.Stamped := by
  obtain ⟨hm, hv⟩ := Prod.mk.inj (publish_keeps hstamp session valid next k ctx)
  exact ⟨hm.trans h.1, hv.trans h.2⟩

/-- One more call preserves it. -/
theorem PublishInv.concat {ctx0 : KernelCounterContext} {calls : List PublishCall}
    (h : PublishInv ctx0 calls) (call : PublishCall) : PublishInv ctx0 (calls ++ [call]) := by
  cases call with
  | config session c k =>
    have hid := publish_keeps configRegister_keeps_identities session (validateRuntimeConfig c)
      (.ofConfig c) k (publishRun ctx0 calls)
    refine ⟨?_, h.configs.publish rfl fun hv => ?_, h.identities.keep ?_⟩
    · rw [publishRun, run_concat]
      exact Stamped.publish h.stamped configRegister_keeps_stamp _ _ _ _
    · exact ⟨c, hv, RuntimeConfigSlot.ofConfig_holds c⟩
    · obtain ⟨hi, hs⟩ := Prod.mk.inj hid
      exact identityRegister.view_congr hi hs
  | identities session s k =>
    have hcf := publish_keeps identityRegister_keeps_configs session (validateHalIdentities s)
      (.ofConfig s) k (publishRun ctx0 calls)
    refine ⟨?_, h.configs.keep ?_, h.identities.publish rfl fun hv => ?_⟩
    · rw [publishRun, run_concat]
      exact Stamped.publish h.stamped identityRegister_keeps_stamp _ _ _ _
    · obtain ⟨hi, hs⟩ := Prod.mk.inj hcf
      exact configRegister.view_congr hi hs
    · exact ⟨s, hv, HalIdentitySet.ofConfig_holds s⟩

/-- Every sequence of calls preserves it. -/
theorem publishInv_run {ctx0 : KernelCounterContext} (h : PublishInv ctx0 [])
    (calls : List PublishCall) : PublishInv ctx0 calls := by
  induction calls using List.reverseRecOn with
  | nil => exact h
  | append_singleton calls call ih => exact ih.concat call

/-- **Double-slot publication.** After any calls on an installed context, whatever the kernel
failed, the active slots hold accepted configs and identities, whole. A further call that returns
`OK` makes exactly its argument active, newer than all that was active before; one that returns an
error leaves the index and the active slot, and succeeds when repeated without a kernel failure if
its arguments passed the checks. Neither kind of call touches the other's slots or index. -/
theorem double_slot_publication {config : ReplacementConfig} {identities : HalIdentityConfig}
    {ctx0 : KernelCounterContext} (h : installReadonlyParserHook config identities = some ctx0)
    (calls : List PublishCall) :
    let ctx := publishRun ctx0 calls
    (ctx.activeConfig.WellFormed ∧ ctx.activeIdentities.WellFormed) ∧
    (∀ session c k, let res := publishRuntimeConfig session c k ctx
      (res.err = .ok → res.ctx.activeConfig.Holds c ∧ ∀ pre, pre <+: calls →
        (publishRun ctx0 pre).activeConfig.configGeneration < c.configGeneration) ∧
      (res.err ≠ .ok → res.ctx.activeConfigSlot = ctx.activeConfigSlot ∧
        res.ctx.activeConfig = ctx.activeConfig ∧
        (session.contextKaddr ≠ 0 → validateRuntimeConfig c = true →
          ctx.activeConfig.configGeneration < c.configGeneration →
          (publishRuntimeConfig session c .none res.ctx).err = .ok)) ∧
      res.ctx.activeHalIdentitySlot = ctx.activeHalIdentitySlot ∧
      res.ctx.halIdentitySlots = ctx.halIdentitySlots) ∧
    (∀ session s k, let res := publishHalIdentities session s k ctx
      (res.err = .ok → res.ctx.activeIdentities.Holds s ∧ ∀ pre, pre <+: calls →
        (publishRun ctx0 pre).activeIdentities.generation < s.generation) ∧
      (res.err ≠ .ok → res.ctx.activeHalIdentitySlot = ctx.activeHalIdentitySlot ∧
        res.ctx.activeIdentities = ctx.activeIdentities ∧
        (session.contextKaddr ≠ 0 → validateHalIdentities s = true →
          ctx.activeIdentities.generation < s.generation →
          (publishHalIdentities session s .none res.ctx).err = .ok)) ∧
      res.ctx.activeConfigSlot = ctx.activeConfigSlot ∧
      res.ctx.configSlots = ctx.configSlots) := by
  intro ctx
  have hinv := publishInv_run (publishInv_install h) calls
  obtain ⟨_, hconfigs, -⟩ := hinv.configs
  obtain ⟨_, hidentities, -⟩ := hinv.identities
  refine ⟨⟨hconfigs.current_valid, hidentities.current_valid⟩, ?_, ?_⟩
  · intro session c k res
    obtain ⟨hok, hfailed⟩ := hinv.configs.promise configRegister_keeps_stamp hinv.stamped session
      (validateRuntimeConfig c) (.ofConfig c) k
    refine ⟨fun hres => ⟨?_, (hok hres).2⟩, hfailed, ?_⟩
    · have hnow : res.ctx.activeConfig = .ofConfig c := (hok hres).1
      rw [hnow]
      exact RuntimeConfigSlot.ofConfig_holds c
    · exact Prod.mk.inj (publish_keeps configRegister_keeps_identities _ _ _ _ _)
  · intro session s k res
    obtain ⟨hok, hfailed⟩ := hinv.identities.promise identityRegister_keeps_stamp hinv.stamped
      session (validateHalIdentities s) (.ofConfig s) k
    refine ⟨fun hres => ⟨?_, (hok hres).2⟩, hfailed, ?_⟩
    · have hnow : res.ctx.activeIdentities = .ofConfig s := (hok hres).1
      rw [hnow]
      exact HalIdentitySet.ofConfig_holds s
    · exact Prod.mk.inj (publish_keeps identityRegister_keeps_configs _ _ _ _ _)

/-- A failed slot write is repaired by repeating the call. -/
theorem double_slot_publication_retry :
    ∃ ctx0, installReadonlyParserHook (sampleConfig 1) sampleIdentities = some ctx0 ∧
      let res := publishRuntimeConfig ⟨0, 64, 0⟩ (sampleConfig 2) dirtyWrite ctx0
      res.err ≠ .ok ∧ res.ctx.activeConfig = ctx0.activeConfig ∧
        (publishRuntimeConfig ⟨0, 64, 0⟩ (sampleConfig 2) .none res.ctx).err = .ok := by
  refine ⟨_, rfl, by decide, ?_⟩
  obtain ⟨-, hconfig, -⟩ := double_slot_publication
    (h := (rfl : installReadonlyParserHook (sampleConfig 1) sampleIdentities = some _)) []
  obtain ⟨-, hfailed, -⟩ := hconfig ⟨0, 64, 0⟩ (sampleConfig 2) dirtyWrite
  obtain ⟨-, hactive, hretry⟩ := hfailed (by decide)
  exact ⟨hactive, hretry (by decide) (by decide) (by decide)⟩

/-! ## The labels of the concurrent system -/

/-- To the handler's threads a config call is one `publishConfig` label. -/
theorem publishRuntimeConfig_label (S : Sys) (session : CounterHookSession) (c : ReplacementConfig)
    (k : KernelFaults RuntimeConfigSlot) : ∃ active slots,
    (S.step (.publishConfig active slots)).ctx.SameButTelemetry
      (publishRuntimeConfig session c k S.ctx).ctx := by
  have ho := publish_outcome configRegister session (validateRuntimeConfig c) (.ofConfig c) k S.ctx
  unfold publishRuntimeConfig
  generalize publish _ _ _ _ k S.ctx = res at ho ⊢
  cases ho with
  | refused err => exact ⟨_, _, .rfl⟩
  | gaveUp err x counter => exact ⟨_, _, counter, _, _, _, rfl⟩
  | published counter => exact ⟨_, _, counter, _, _, _, rfl⟩

/-- To the handler's threads an identity call is one `publishHal` label. -/
theorem publishHalIdentities_label (S : Sys) (session : CounterHookSession)
    (s : HalIdentityConfig) (k : KernelFaults HalIdentitySet) : ∃ active slots,
    (S.step (.publishHal active slots)).ctx.SameButTelemetry
      (publishHalIdentities session s k S.ctx).ctx := by
  have ho := publish_outcome identityRegister session (validateHalIdentities s) (.ofConfig s) k
    S.ctx
  unfold publishHalIdentities
  generalize publish _ _ _ _ k S.ctx = res at ho ⊢
  cases ho with
  | refused err => exact ⟨_, _, .rfl⟩
  | gaveUp err x counter => exact ⟨_, _, counter, _, _, _, rfl⟩
  | published counter => exact ⟨_, _, counter, _, _, _, rfl⟩

end Drmid
