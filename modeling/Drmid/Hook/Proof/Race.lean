import Drmid.Lib.Run
import Drmid.Hook.Race
import Drmid.Hook.Proof.Publish
import Drmid.Hook.Proof.Reply

/-!
# One generation per reply

The parse takes the config slot's address once, but a publisher that flips twice comes back to the
same slot. `one_generation_per_reply`: what a parse reads belongs to one published config in every
run in which no publish call writes the captured slot before the parse is done with it.
`republished_slot_mixes_configs` is a run with two publish calls between two stages, after which
the reply carries the bytes of a dry-run config.

`Race.Inv` is kept by every step (`Inv.parse`, `Inv.publish`): the active slot holds an accepted
config that was published, the call under way aims at the other slot, and the captured slot still
holds the config that everything seen so far belongs to.
-/

namespace Drmid

open KernelCounterContext Lib ReplyState

/-! ## Stages and the context -/

namespace ReplyState

/-- The state in which a stage ended. -/
def endOf : Except (ReplyLabel × ReplyState) ReplyState → ReplyState
  | .ok st => st
  | .error (_, st) => st

/-- Neither the config slots nor the captured address change. -/
def SameSlot (st st' : ReplyState) : Prop :=
  st.ctx.SameButTelemetry st'.ctx ∧ st'.scratch.runtimeConfig = st.scratch.runtimeConfig

section
variable {st st' : ReplyState}

theorem SameSlot.refl : SameSlot st st := ⟨.rfl, rfl⟩

theorem SameSlot.count (h : SameSlot st st') (c : Counter) : SameSlot st (st'.count c) :=
  ⟨h.1.increment c, h.2⟩

theorem SameSlot.finish (h : SameSlot st st') (l : ReplyLabel) : SameSlot st (st'.finish l) := by
  cases l with
  | dryRun => exact h.count _
  | writeFault => exact (h.count _).count _
  | done => exact h
  | noPending | headerFault | statusNonzero | arrayInvalid | contentFault | lengthMismatch =>
    exact h.count _

theorem headerStage_sameSlot : SameSlot st (endOf (headerStage st)) := by
  unfold headerStage
  dsimp only
  split
  · exact .refl
  split
  · exact .refl
  split
  · exact .refl
  have hread : ∀ s : ParserScratch, s.runtimeConfig = st.scratch.runtimeConfig →
      SameSlot st (ReplyState.count { st with scratch := s } .replyHeaderCopyOk) :=
    fun s hs => ⟨KernelCounterContext.SameButTelemetry.rfl.increment _, hs⟩
  split
  · exact hread _ rfl
  split
  · exact (hread _ rfl).count _
  split
  · exact (hread _ rfl).count _
  · exact ((hread _ rfl).count .replyStatusOk).count .replyArrayValid

theorem contentStage_sameSlot : SameSlot st (endOf (contentStage st)) := by
  unfold contentStage
  split
  · exact .refl
  · exact ⟨(KernelCounterContext.SameButTelemetry.rfl.increment _).increment _, rfl⟩

theorem lengthStage_sameSlot : SameSlot st (endOf (lengthStage st)) := by
  unfold lengthStage
  split <;> exact .refl

theorem modeStage_sameSlot : SameSlot st (endOf (modeStage st)) := by
  unfold modeStage
  split <;> exact .refl

theorem copyStage_sameSlot (requestId : UInt64) : SameSlot st (endOf (copyStage requestId st)) := by
  unfold copyStage
  split
  · exact .refl
  · exact ⟨⟨_, _, _, _, rfl⟩, rfl⟩

/-- The capture takes the active slot, and changes no slot. -/
theorem captureStage_slot (st : ReplyState) (requestId : UInt64) (requestFlags : UInt32) :
    st.ctx.SameButTelemetry (endOf (captureStage requestId requestFlags st)).ctx ∧
      ∀ st', captureStage requestId requestFlags st = .ok st' →
        st'.scratch.runtimeConfig = slotOf st.ctx.activeConfigSlot := by
  unfold captureStage
  dsimp only
  split
  · exact ⟨.rfl, fun _ h => by cases h⟩
  split
  · exact ⟨.rfl, fun _ h => by cases h⟩
  · refine ⟨(KernelCounterContext.SameButTelemetry.rfl.increment _).increment _, fun _ h => ?_⟩
    cases h
    rfl

/-- Every stage but the capture leaves the captured address. -/
theorem body_sameSlot (st : ReplyState) {stage : ParseStage} (hstage : stage ≠ .capture)
    (requestId : UInt64) (requestFlags : UInt32) :
    SameSlot st (endOf (stage.body requestId requestFlags st)) := by
  cases stage with
  | capture => exact absurd rfl hstage
  | header => exact headerStage_sameSlot
  | content => exact contentStage_sameSlot
  | length => exact lengthStage_sameSlot
  | mode => exact modeStage_sameSlot
  | copy => exact copyStage_sameSlot requestId

end
end ReplyState

/-! ## The invariant -/

/-- Slot `i` was written from `c`, which the publisher had accepted. -/
def StoredAt (ctx : KernelCounterContext) (i : Fin 2) (c : ReplacementConfig) : Prop :=
  validateRuntimeConfig c = true ∧ ctx.configSlots i = .ofConfig c

/-- The slot that a publisher may write. -/
def spareSlot (ctx : KernelCounterContext) : Fin 2 := (configRegister.view ctx).spare

/-- How far the call for `c` has got. -/
def CallInv (ctx : KernelCounterContext) (c : ReplacementConfig) :
    Publishing RuntimeConfigSlot → Prop
  | .snapshot _ valid next => valid = validateRuntimeConfig c ∧ next = .ofConfig c
  | .slot plan =>
    plan.inactive = spareSlot ctx ∧ plan.next = .ofConfig c ∧ validateRuntimeConfig c = true
  | .switches plan | .flip plan => plan.inactive = spareSlot ctx ∧ StoredAt ctx plan.inactive c
  | .returned _ _ => False

namespace Race

structure Inv (S : Race) : Prop where
  active : ∃ c ∈ S.published, StoredAt S.ctx (slotOf S.ctx.activeConfigSlot) c
  call : ∀ c p, S.call = some (c, p) → CallInv S.ctx c p
  fresh : S.stage = some .capture → S.seen = .nothing
  read : ∃ c ∈ S.published, S.seen.BelongsTo c ∧
    ∀ stage, S.stage = some stage → stage ≠ .capture →
      StoredAt S.ctx S.scratch.runtimeConfig c

end Race

section
variable {ctx ctx' : KernelCounterContext} {c : ReplacementConfig} {i : Fin 2}

theorem StoredAt.of_same (h : StoredAt ctx i c) (hs : SameConfigs ctx ctx') :
    StoredAt ctx' i c := by
  rw [StoredAt, hs.1]
  exact h

theorem spareSlot_of_same (hs : SameConfigs ctx ctx') : spareSlot ctx' = spareSlot ctx := by
  have hview : configRegister.view ctx' = configRegister.view ctx :=
    configRegister.view_congr hs.2 hs.1
  rw [spareSlot, hview, spareSlot]

theorem CallInv.of_same {p : Publishing RuntimeConfigSlot} (h : CallInv ctx c p)
    (hs : SameConfigs ctx ctx') : CallInv ctx' c p := by
  cases p with
  | snapshot => exact h
  | slot plan => exact ⟨h.1.trans (spareSlot_of_same hs).symm, h.2⟩
  | switches plan | flip plan => exact ⟨h.1.trans (spareSlot_of_same hs).symm, h.2.of_same hs⟩
  | returned => exact h

/-- The 32 bytes of a slot that was written from an accepted config. -/
theorem take_virtualId_ofConfig (h : validateRuntimeConfig c = true) :
    (RuntimeConfigSlot.ofConfig c).virtualId.toList.take 32 = c.virtualId.toList.take 32 := by
  have hlen : c.virtualIdLength = 32 := by
    simp only [validateRuntimeConfig, Bool.and_eq_true, beq_iff_eq] at h
    exact h.2
  refine List.ext_getElem (by simp) fun n h₁ h₂ => ?_
  have hn : n < 32 := by simpa using h₁
  simp [RuntimeConfigSlot.ofConfig, hlen, hn]

/-- A stage that reads the slot written from `c` adds what belongs to `c`. -/
theorem BelongsTo.observe {seen : Seen} {slot : RuntimeConfigSlot} (h : seen.BelongsTo c)
    (hv : validateRuntimeConfig c = true) (hslot : slot = .ofConfig c) (stage : ParseStage) :
    (seen.observe slot stage).BelongsTo c := by
  obtain ⟨hl, hm, hb⟩ := h
  subst hslot
  cases stage with
  | length => exact ⟨.inr rfl, hm, hb⟩
  | mode => exact ⟨hl, .inr rfl, hb⟩
  | copy => exact ⟨hl, hm, .inr (congrArg some (take_virtualId_ofConfig hv))⟩
  | capture | header | content => exact ⟨hl, hm, hb⟩

end

namespace Race

variable {S : Race}

/-! ## The parse -/

/-- What the parse has seen after a stage. -/
def seenAfter (S : Race) (stage : ParseStage) : Seen :=
  S.seen.observe (S.ctx.configSlots S.scratch.runtimeConfig) stage

theorem parse_ok {u : UserMemory} {stage : ParseStage} {st : ReplyState}
    (h : stage.body S.requestId S.requestFlags ⟨u, S.scratch, S.ctx⟩ = .ok st) :
    S.parse u stage = S.continueWith st stage.next (S.seenAfter stage) := by
  simp only [parse, h]
  rfl

theorem parse_error {u : UserMemory} {stage : ParseStage} {l : ReplyLabel} {st : ReplyState}
    (h : stage.body S.requestId S.requestFlags ⟨u, S.scratch, S.ctx⟩ = .error (l, st)) :
    S.parse u stage = S.continueWith (st.finish l) none (S.seenAfter stage) := by
  simp only [parse, h]
  rfl

/-- What a stage does to the state: only the parse and telemetry move, and the capture takes the
active slot. -/
theorem parse_eq (S : Race) (u : UserMemory) (stage : ParseStage) :
    ∃ st next, S.parse u stage = S.continueWith st next (S.seenAfter stage) ∧
      SameConfigs S.ctx st.ctx ∧ (next = none ∨ next = stage.next) ∧
      (stage ≠ .capture → st.scratch.runtimeConfig = S.scratch.runtimeConfig) ∧
      (stage = .capture → next ≠ none →
        st.scratch.runtimeConfig = slotOf S.ctx.activeConfigSlot) := by
  let st0 : ReplyState := ⟨u, S.scratch, S.ctx⟩
  by_cases hcap : stage = .capture
  · subst hcap
    obtain ⟨hctx, hslot⟩ := captureStage_slot st0 S.requestId S.requestFlags
    cases hb : ParseStage.capture.body S.requestId S.requestFlags st0 with
    | ok st =>
      rw [show captureStage S.requestId S.requestFlags st0 = .ok st from hb] at hctx
      exact ⟨st, _, parse_ok hb, hctx.configs, .inr rfl, fun h => absurd rfl h,
        fun _ _ => hslot st hb⟩
    | error e =>
      obtain ⟨l, st⟩ := e
      rw [show captureStage S.requestId S.requestFlags st0 = .error (l, st) from hb] at hctx
      have hfin := (SameSlot.refl : SameSlot st st).finish l
      exact ⟨_, none, parse_error hb, (hctx.trans hfin.1).configs, .inl rfl,
        fun h => absurd rfl h, fun _ h => absurd rfl h⟩
  · have hsame := body_sameSlot st0 hcap S.requestId S.requestFlags
    cases hb : stage.body S.requestId S.requestFlags st0 with
    | ok st =>
      rw [hb] at hsame
      exact ⟨st, _, parse_ok hb, hsame.1.configs, .inr rfl, fun _ => hsame.2,
        fun h => absurd h hcap⟩
    | error e =>
      obtain ⟨l, st⟩ := e
      rw [hb] at hsame
      have hfin := SameSlot.finish hsame l
      exact ⟨_, none, parse_error hb, hfin.1.configs, .inl rfl, fun _ => hfin.2,
        fun h => absurd h hcap⟩

theorem Inv.parse (h : S.Inv) (u : UserMemory) {stage : ParseStage} (hs : S.stage = some stage) :
    (S.parse u stage).Inv := by
  obtain ⟨st, next, heq, hconf, hnext, hother, hcap⟩ := parse_eq S u stage
  obtain ⟨a, ha, hstored⟩ := h.active
  rw [heq]
  have hactive : ∃ c ∈ S.published, StoredAt st.ctx (slotOf st.ctx.activeConfigSlot) c := by
    refine ⟨a, ha, ?_⟩
    rw [hconf.2]
    exact hstored.of_same hconf
  have hfresh : next ≠ some .capture := by
    rcases hnext with rfl | rfl
    · simp
    · cases stage <;> simp [ParseStage.next]
  refine ⟨hactive, fun c p hc => (h.call c p hc).of_same hconf, fun hn => absurd hn hfresh, ?_⟩
  by_cases hstage : stage = .capture
  · -- nothing has been read yet; from here on the captured slot is the active one
    subst hstage
    refine ⟨a, ha, ?_, fun n hn _ => ?_⟩
    · change Seen.BelongsTo S.seen a
      rw [h.fresh hs]
      exact ⟨.inl rfl, .inl rfl, .inl rfl⟩
    · change StoredAt st.ctx st.scratch.runtimeConfig a
      rw [hcap rfl (by rw [show next = some n from hn]; simp)]
      exact hstored.of_same hconf
  · obtain ⟨c, hc, hseen, hslot⟩ := h.read
    have hslot := hslot stage hs hstage
    refine ⟨c, hc, BelongsTo.observe hseen hslot.1 hslot.2 stage, fun n hn _ => ?_⟩
    change StoredAt st.ctx st.scratch.runtimeConfig c
    rw [hother hstage]
    exact hslot.of_same hconf

/-! ## The publisher -/

/-- The captured slot through a step that leaves the parse where it is. -/
theorem Inv.read_of (h : S.Inv) {ctx : KernelCounterContext} {published : List ReplacementConfig}
    (hsub : ∀ c ∈ S.published, c ∈ published)
    (hslot : ∀ stage, S.stage = some stage → stage ≠ .capture →
      ctx.configSlots S.scratch.runtimeConfig = S.ctx.configSlots S.scratch.runtimeConfig) :
    ∃ c ∈ published, S.seen.BelongsTo c ∧ ∀ stage, S.stage = some stage → stage ≠ .capture →
      StoredAt ctx S.scratch.runtimeConfig c := by
  obtain ⟨c, hc, hseen, hstored⟩ := h.read
  refine ⟨c, hsub c hc, hseen, fun stage hs hne => ?_⟩
  rw [StoredAt, hslot stage hs hne]
  exact hstored stage hs hne

/-- A step that changes neither slots nor index of the configs, and adds no config. -/
theorem Inv.of_same (h : S.Inv) {ctx : KernelCounterContext}
    {call : Option (ReplacementConfig × Publishing RuntimeConfigSlot)}
    (hconf : SameConfigs S.ctx ctx) (hcall : ∀ c p, call = some (c, p) → CallInv ctx c p) :
    ({ S with ctx := ctx, call := call } : Race).Inv := by
  obtain ⟨a, ha, hstored⟩ := h.active
  refine ⟨⟨a, ha, ?_⟩, hcall, h.fresh, h.read_of (fun _ => id) fun _ _ _ => by rw [hconf.1]⟩
  change StoredAt ctx (slotOf ctx.activeConfigSlot) a
  rw [hconf.2]
  exact hstored.of_same hconf

/-- The slot write leaves the index and every slot but the spare one. -/
theorem Inv.write (h : S.Inv) {x : RuntimeConfigSlot}
    {call : Option (ReplacementConfig × Publishing RuntimeConfigSlot)} {i : Fin 2}
    (hi : i = spareSlot S.ctx)
    (hfree : ∀ stage, S.stage = some stage → stage ≠ .capture → S.scratch.runtimeConfig ≠ i)
    (hcall : ∀ c p, call = some (c, p) →
      CallInv { S.ctx with configSlots := Function.update S.ctx.configSlots i x } c p) :
    ({ S with
      ctx := { S.ctx with configSlots := Function.update S.ctx.configSlots i x }
      call := call } : Race).Inv := by
  obtain ⟨a, ha, hv, hslot⟩ := h.active
  have hne : slotOf S.ctx.activeConfigSlot ≠ i := by
    rw [hi]
    exact (configRegister.view S.ctx).active_ne_spare
  refine ⟨⟨a, ha, hv, ?_⟩, hcall, h.fresh, h.read_of (fun _ => id) fun stage hs hcap => ?_⟩
  · exact (Function.update_of_ne hne _ _).trans hslot
  · exact Function.update_of_ne (hfree stage hs hcap) _ _

/-- The flip makes the written slot the active one. -/
theorem Inv.flip (h : S.Inv) {c : ReplacementConfig} {i : Fin 2} (hstored : StoredAt S.ctx i c) :
    ({ S with
      ctx := { S.ctx with activeConfigSlot := slotWord i }
      call := none
      published := c :: S.published } : Race).Inv := by
  refine ⟨⟨c, List.mem_cons_self, ?_⟩, fun _ _ h => (by cases h), h.fresh,
    h.read_of (fun _ => List.mem_cons_of_mem _) fun _ _ _ => rfl⟩
  change StoredAt _ (slotOf (slotWord i)) c
  rw [slotOf_slotWord]
  exact hstored

/-- One kernel operation of a call that does not write the captured slot. -/
theorem Inv.publish (h : S.Inv) {k : KernelFaults RuntimeConfigSlot} {c : ReplacementConfig}
    {p : Publishing RuntimeConfigSlot} (hp : S.call = some (c, p))
    (hfree : S.overwrites (.publish k) = false) : (S.publish k c p).Inv := by
  have hcall := h.call c p hp
  have hnone : ∀ {ctx} c' p', (none : Option (ReplacementConfig × Publishing RuntimeConfigSlot)) =
      some (c', p') → CallInv ctx c' p' := fun _ _ h => (by cases h)
  unfold Race.publish
  cases p with
  | snapshot session valid next =>
    obtain ⟨rfl, rfl⟩ := hcall
    simp only [Register.advance]
    cases hsnap : configRegister.snapshotStage session (validateRuntimeConfig c) (.ofConfig c)
        k.read S.ctx with
    | error err =>
      have herr : err ≠ .ok := snapshotStage_ne_ok hsnap
      simp only [if_neg herr]
      exact h.of_same ⟨rfl, rfl⟩ hnone
    | ok plan =>
      obtain ⟨hacc, rfl⟩ := snapshotStage_eq_ok hsnap
      refine h.of_same ⟨rfl, rfl⟩ fun c' p' he => ?_
      cases he
      exact ⟨rfl, rfl, hacc.valid⟩
  | slot plan =>
    obtain ⟨hi, hnext, hv⟩ := hcall
    have hfree' : ∀ stage, S.stage = some stage → stage ≠ .capture →
        S.scratch.runtimeConfig ≠ plan.inactive := by
      intro stage hs hne heq
      simp [overwrites, hp, hs, hne, heq] at hfree
    simp only [Register.advance, Register.slotStage]
    rcases k.slot with _ | ⟨err, dirt⟩
    · refine h.write hi hfree' fun c' p' he => ?_
      cases he
      exact ⟨hi, hv, (Function.update_self _ _ _).trans hnext⟩
    · simp only [Register.proceed, if_neg err.2]
      exact h.write hi hfree' hnone
  | switches plan =>
    simp only [Register.advance, Register.switchesStage]
    rcases k.switches with _ | ⟨err, dirt⟩
    · refine h.of_same ⟨rfl, rfl⟩ fun c' p' he => ?_
      cases he
      exact hcall
    · simp only [Register.proceed, if_neg err.2]
      exact h.of_same ⟨rfl, rfl⟩ hnone
  | flip plan =>
    simp only [Register.advance, Register.flipStage]
    rcases k.flip with _ | err
    · exact h.flip hcall.2
    · simp only [Register.proceed, if_neg err.2]
      exact h.of_same ⟨rfl, rfl⟩ hnone
  | returned err slot => exact hcall.elim

/-! ## Runs -/

theorem Inv.step (h : S.Inv) {l : RaceLabel} (hfree : S.overwrites l = false) : (S.step l).Inv := by
  cases l with
  | parse u =>
    unfold Race.step
    cases hs : S.stage with
    | none => exact h
    | some stage => exact h.parse u hs
  | call session config =>
    unfold Race.step
    cases hc : S.call with
    | some _ => exact h
    | none =>
      refine h.of_same ⟨rfl, rfl⟩ fun c p he => ?_
      cases he
      exact ⟨rfl, rfl⟩
  | publish k =>
    unfold Race.step
    cases hc : S.call with
    | none => exact h
    | some call => exact h.publish hc hfree

theorem Inv.init {config : ReplacementConfig} {identities : HalIdentityConfig}
    {ctx0 : KernelCounterContext} (h : installReadonlyParserHook config identities = some ctx0)
    (requestId : UInt64) (requestFlags : UInt32) (u : UserMemory) (s : ParserScratch) :
    (Race.init ctx0 config requestId requestFlags u s).Inv := by
  unfold installReadonlyParserHook at h
  split at h
  · rename_i hv
    cases h
    refine ⟨⟨config, List.mem_singleton_self _, (Bool.and_eq_true_iff.1 hv).1, rfl⟩,
      fun _ _ h => (by cases h), fun _ => rfl, config, List.mem_singleton_self _,
      ⟨.inl rfl, .inl rfl, .inl rfl⟩, fun stage hs hne => ?_⟩
    cases hs
    exact absurd rfl hne
  · cases h

/-! ## Uninterrupted steps -/

/-- A publish call that nothing interrupts is the call as a whole. -/
theorem run_publish (hcall : S.call = none) (session : CounterHookSession)
    (config : ReplacementConfig) (k : KernelFaults RuntimeConfigSlot) :
    (run step S (.call session config :: List.replicate 4 (.publish k))).ctx =
      (publishRuntimeConfig session config k S.ctx).ctx := by
  have hstart : S.step (.call session config) = { S with
      call := some (config,
        .snapshot session (validateRuntimeConfig config) (.ofConfig config)) } := by
    simp only [step, hcall]
  change (((((S.step (.call session config)).step (.publish k)).step (.publish k)).step
    (.publish k)).step (.publish k)).ctx = _
  rw [hstart]
  unfold publishRuntimeConfig Drmid.publish
  cases hsnap : configRegister.snapshotStage session (validateRuntimeConfig config)
      (.ofConfig config) k.read S.ctx with
  | error err => simp only [step, Race.publish, Register.advance, hsnap]
  | ok plan =>
    simp only [step, Race.publish, Register.advance, hsnap]
    rcases hslot : configRegister.slotStage plan k.slot S.ctx with ⟨_ | err, ctx₁⟩
    · simp only [Register.proceed]
      rcases hsw : configRegister.switchesStage plan k.switches ctx₁ with ⟨_ | err, ctx₂⟩
      · simp only
        rcases hflip : configRegister.flipStage plan k.flip ctx₂ with ⟨_ | err, ctx₃⟩ <;> rfl
      · rfl
    · rfl

/-- Only the copy changes user memory. -/
theorem body_user (st : ReplyState) {stage : ParseStage} (hstage : stage ≠ .copy)
    (requestId : UInt64) (requestFlags : UInt32) :
    (endOf (stage.body requestId requestFlags st)).user = st.user := by
  cases stage with
  | capture =>
    simp only [ParseStage.body, captureStage]
    split
    · rfl
    split <;> rfl
  | header =>
    simp only [ParseStage.body, headerStage]
    repeat' split
    all_goals rfl
  | content =>
    simp only [ParseStage.body, contentStage]
    split <;> rfl
  | length =>
    simp only [ParseStage.body, lengthStage]
    split <;> rfl
  | mode =>
    simp only [ParseStage.body, modeStage]
    split <;> rfl
  | copy => exact absurd rfl hstage

theorem run_parse_done (hs : S.stage = none) (u : UserMemory) (n : Nat) :
    run step S (List.replicate n (.parse u)) = S := by
  induction n with
  | zero => rfl
  | succ n ih =>
    have hstep : S.step (.parse u) = S := by simp only [step, hs]
    exact (congrArg (fun S => run step S (List.replicate n (.parse u))) hstep).trans ih

/-- The parse's part of the state. -/
def reply (S : Race) : ReplyState := ⟨S.user, S.scratch, S.ctx⟩

/-- One stage of an uninterrupted parse, `k` being the rest of the source function. -/
theorem run_stage {u : UserMemory} (stage : ParseStage) {n : Nat} {st : ReplyState} {k : Stage}
    (hs : S.stage = some stage) (hst : st = ⟨u, S.scratch, S.ctx⟩)
    (hok : ∀ st', (stage ≠ .copy → st' = ⟨u, st'.scratch, st'.ctx⟩) →
      (run step (S.continueWith st' stage.next (S.seenAfter stage))
        (List.replicate n (.parse u))).reply = settle (k st')) :
    (run step S (List.replicate (n + 1) (.parse u))).reply =
      settle (stage.body S.requestId S.requestFlags st >>= k) := by
  have hstep : S.step (.parse u) = S.parse u stage := by simp only [step, hs]
  change (run step (S.step (.parse u)) (List.replicate n (.parse u))).reply = _
  rw [hstep, hst]
  cases hb : stage.body S.requestId S.requestFlags ⟨u, S.scratch, S.ctx⟩ with
  | ok st' =>
    rw [parse_ok hb]
    refine hok st' fun hcopy => ?_
    have hu := body_user ⟨u, S.scratch, S.ctx⟩ hcopy S.requestId S.requestFlags
    rw [hb] at hu
    exact congrArg (fun u => (⟨u, st'.scratch, st'.ctx⟩ : ReplyState)) hu
  | error e =>
    obtain ⟨l, st'⟩ := e
    rw [parse_error hb, run_parse_done (S := S.continueWith _ none _) rfl]
    rfl

/-- A parse that nothing interrupts is `emit_parse_hal_correlated_reply`. -/
theorem run_parse (hs : S.stage = some .capture) (u : UserMemory) :
    (run step S (List.replicate 6 (.parse u))).reply =
      emitParseHalCorrelatedReply S.requestId S.requestFlags ⟨u, S.scratch, S.ctx⟩ := by
  unfold emitParseHalCorrelatedReply
  refine run_stage .capture hs rfl fun st₁ h₁ => ?_
  refine run_stage .header rfl (h₁ (by decide)) fun st₂ h₂ => ?_
  refine run_stage .content rfl (h₂ (by decide)) fun st₃ h₃ => ?_
  refine run_stage .length rfl (h₃ (by decide)) fun st₄ h₄ => ?_
  refine run_stage .mode rfl (h₄ (by decide)) fun st₅ h₅ => ?_
  rw [settle_pure]
  exact run_stage .copy rfl (h₅ (by decide)) fun st₆ _ => rfl

end Race

/-- **One generation per reply**, as long as no publish call writes the slot that the parse has
captured before the parse is done with it: the length and mode it tested and the bytes it copied
all belong to one config that was published. -/
theorem one_generation_per_reply {config : ReplacementConfig} {identities : HalIdentityConfig}
    {ctx0 : KernelCounterContext} (h : installReadonlyParserHook config identities = some ctx0)
    (requestId : UInt64) (requestFlags : UInt32) (u : UserMemory) (s : ParserScratch)
    {ls : List RaceLabel}
    (hfree : Along Race.step (fun S l => S.overwrites l = false)
      (.init ctx0 config requestId requestFlags u s) ls) :
    let S := run Race.step (.init ctx0 config requestId requestFlags u s) ls
    ∃ c ∈ S.published, S.seen.BelongsTo c := by
  intro S
  have hinv : S.Inv := hfree.induct (P := fun _ S => S.Inv)
    (.init h requestId requestFlags u s) fun _ _ _ hS hl => hS.step hl
  obtain ⟨c, hc, hseen, -⟩ := hinv.read
  exact ⟨c, hc, hseen⟩

/-- One call between the capture and the other stages. -/
def publishBetween : List RaceLabel :=
  .parse replyMemory :: publishLabels (sampleConfig 2) ++ List.replicate 5 (.parse replyMemory)

/-- A parse that one call overtakes writes the config it captured. -/
theorem one_generation_per_reply_overtaken :
    ∃ ctx0, installReadonlyParserHook (sampleConfig 1) sampleIdentities = some ctx0 ∧
      let S := run Race.step (replyRace ctx0) publishBetween
      S.published = [sampleConfig 2, sampleConfig 1] ∧
        S.user.stores = [(0x1008, List.replicate 32 0x5a)] ∧
        ∃ c ∈ S.published, S.seen.BelongsTo c :=
  ⟨_, rfl, by decide +kernel, by decide +kernel,
    one_generation_per_reply
      (h := (rfl : installReadonlyParserHook (sampleConfig 1) sampleIdentities = some _))
      1 1 replyMemory _ (by decide +kernel)⟩

/-- Two calls between the test of the mode and the copy. -/
def publishTwice : List RaceLabel :=
  List.replicate 5 (.parse replyMemory) ++ publishLabels (sampleConfig 2) ++
    publishLabels dryRunConfig ++ [.parse replyMemory]

/-- The second call refills the captured slot: the mode that was tested is the first config's, the
bytes that are copied are the third's, which is a dry-run config. -/
theorem republished_slot_mixes_configs :
    ∃ ctx0, installReadonlyParserHook (sampleConfig 1) sampleIdentities = some ctx0 ∧
      let S := run Race.step (replyRace ctx0) publishTwice
      S.published = [dryRunConfig, sampleConfig 2, sampleConfig 1] ∧
        S.seen = ⟨some 32, some kWriteTest, some (List.replicate 32 0x11)⟩ ∧
        S.user.stores = [(0x1008, List.replicate 32 0x11)] ∧
        ¬∃ c ∈ S.published, S.seen.BelongsTo c :=
  ⟨_, rfl, by decide +kernel, by decide +kernel, by decide +kernel, by decide +kernel⟩

end Drmid
