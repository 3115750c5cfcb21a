import Drmid.Hook.Proof.CallSteps

/-!
# The hook is transparent

Whatever path a call takes through the handler, the original `binder_ioctl` runs exactly once, with
the caller's arguments, and the caller gets what it returned. `HookCall.Faithful` says what a call
has done at each stage and is kept by every step; `HookCall.rank` falls with every step, so a call
that keeps moving returns. The gate decides once, and a call that it lets pass by touches neither
the context nor user memory.
-/

namespace Drmid

open KernelCounterContext

/-! ## The gate -/

/-- The scan may stop at the first entry past the count: the entries after it are past it too. -/
theorem gateScan_iff (ids : HalIdentitySet) (tgid : UInt32) {entries : List (Fin 4)}
    (hsorted : entries.Pairwise (· < ·)) : gateScan ids tgid entries = true ↔
      ∃ k ∈ entries, k.val < ids.count.toNat ∧ ids.tgids.get k = tgid := by
  induction entries with
  | nil =>
    constructor
    · intro h
      cases h
    · rintro ⟨k, hk, -⟩
      cases hk
  | cons index rest ih =>
    obtain ⟨hfirst, hrest⟩ := List.pairwise_cons.1 hsorted
    rw [gateScan_cons]
    split
    · rename_i hpast
      simp only [Bool.false_eq_true, List.mem_cons, exists_eq_or_imp, false_iff, not_or, not_exists,
        not_and]
      refine ⟨fun h => absurd h (by omega), fun k hk hlt => ?_⟩
      have := hfirst k hk
      omega
    · rename_i hpast
      split
      · rename_i heq
        simp only [true_iff]
        exact ⟨index, List.mem_cons_self, by omega, heq.symm⟩
      · rename_i hne
        rw [ih hrest]
        simp only [List.mem_cons, exists_eq_or_imp, Ne.symm hne, and_false, false_or]

theorem validateHalIdentities_count {identities : HalIdentityConfig}
    (h : validateHalIdentities identities = true) : identities.count.toNat ≤ kHalIdentityLimit := by
  unfold validateHalIdentities at h
  split at h
  · cases h
  · rename_i hn
    omega

/-- **The gate.** A task is tracked iff it is the installer's or one of the active identities. -/
theorem emitHalIdentityGate_iff (installerTgid : UInt32) {t : TaskIdentity}
    {ctx : KernelCounterContext} (ht : t.kaddr ≠ 0)
    (hvalid : validateHalIdentities ⟨ctx.activeIdentities.generation, ctx.activeIdentities.count,
      ctx.activeIdentities.tgids⟩ = true) :
    emitHalIdentityGate installerTgid t ctx = true ↔ t.tgid = installerTgid ∨
      ∃ k : Fin 4, k.val < ctx.activeIdentities.count.toNat ∧
        ctx.activeIdentities.tgids.get k = t.tgid := by
  have hcount := validateHalIdentities_count hvalid
  unfold emitHalIdentityGate
  rw [if_neg ht]
  by_cases hinst : t.tgid = installerTgid
  · simp [hinst]
  · rw [if_neg hinst, if_neg (by simpa using hcount), gateScan_iff _ _ (List.pairwise_lt_finRange 4)]
    simp [hinst]

/-! ## What a call has done -/

namespace HookCall

/-- Up to the original nothing was invoked and, once saved, the arguments are the caller's. From it
on they were used once, and what came back is in the frame and at last in `x0`. -/
def Faithful (c : HookCall) : Prop :=
  match c.stage with
  | .gate | .bypass => c.invoked = [] ∧ c.tracked = false
  | .hit | .enter | .pre => c.invoked = [] ∧ c.tracked = true
  | .header | .walk .bc _ | .original => (c.invoked = [] ∧ c.frame.args = c.io) ∧ c.tracked = true
  | .walk .br _ | .postHeader | .post => c.invoked = [(c.io, c.frame.ret)] ∧ c.tracked = true
  | .exit => c.invoked = [(c.io, c.x0)] ∧ c.tracked = true
  | .returned => c.invoked = [(c.io, c.x0)]

theorem step_faithful (installerTgid : UInt32) {c : HookCall} (e : CallEvent)
    (ctx : KernelCounterContext) (h : c.Faithful) :
    (c.step installerTgid ctx e).call.Faithful := by
  unfold HookCall.step
  unfold Faithful at h
  cases hs : c.stage with
  | gate =>
    rw [hs] at h
    dsimp only
    split
    · exact ⟨h.1, rfl⟩
    · exact ⟨h.1, rfl⟩
  | bypass =>
    rw [hs] at h
    simp [Faithful, callOriginal, h.1]
  | hit | enter =>
    rw [hs] at h
    exact h
  | pre =>
    rw [hs] at h
    exact ⟨⟨h.1, rfl⟩, h.2⟩
  | header =>
    rw [hs] at h
    obtain ⟨-, -, stage, hd, hcall, hopens⟩ := c.stepHeader_spec e ctx
    simp only [hcall]
    rcases hopens with rfl | ⟨cursor, s, rfl, -⟩
    · exact h
    · exact h
  | walk stream w =>
    rw [hs] at h
    dsimp only
    cases (w.step c.task stream e ctx).stage with
    | some w' => cases stream <;> exact h
    | none => cases stream <;> exact h
  | original =>
    rw [hs] at h
    simp [Faithful, callOriginal, h.1.1, h.1.2, h.2]
  | postHeader =>
    rw [hs] at h
    obtain ⟨-, -, stage, hcall, hopens⟩ := c.stepPostHeader_spec e ctx
    simp only [hcall]
    rcases hopens with rfl | ⟨cursor, s, rfl, -⟩
    · exact h
    · exact h
  | post =>
    rw [hs] at h
    exact h
  | exit =>
    rw [hs] at h
    exact h.1
  | returned =>
    rw [hs] at h
    simp only [Faithful, hs]
    exact h

end HookCall

/-! ## Calls return -/

/-- What is left of a walk after the command at hand. -/
def nextRank : Option Cursor → Nat
  | none => 0
  | some cursor => 16 * cursor.left + 1

def RecordStage.rank : RecordStage → Nat
  | .pop => 11
  | .parse => 10
  | .reserve => 3
  | .push => 2
  | .publish => 1
  | .done => 0

def ParseStage.rank : ParseStage → Nat
  | .capture => 9
  | .header => 8
  | .content => 7
  | .length => 6
  | .mode => 5
  | .copy => 4

/-- No command takes a walk more than sixteen steps. -/
def WalkStage.rank : WalkStage → Nat
  | .loop cursor _ => nextRank (some cursor)
  | .metadata next _ _ _ => nextRank next + 14
  | .capture next _ _ => nextRank next + 13
  | .record next r => nextRank next + r.stage.rank + 1
  | .reply next stage _ => nextRank next + stage.rank + 1

/-- The rank after a step of a walk, which may have been its last. -/
def rankOf : Option WalkStage → Nat
  | some w => w.rank
  | none => 0

/-- More than the rank of a walk at its first command. -/
def kWalkRank : Nat := 16 * kMaxParsedCommands + 2

def CallStage.rank : CallStage → Nat
  | .gate => 2 * kWalkRank + 9
  | .hit => 2 * kWalkRank + 8
  | .enter => 2 * kWalkRank + 7
  | .pre => 2 * kWalkRank + 6
  | .header => 2 * kWalkRank + 5
  | .walk .bc w => kWalkRank + 5 + w.rank
  | .original => kWalkRank + 4
  | .postHeader => kWalkRank + 3
  | .walk .br w => w.rank + 3
  | .post => 2
  | .bypass | .exit => 1
  | .returned => 0

namespace WalkStage

@[simp] theorem rankOf_resume (s : ParserScratch) (next : Option Cursor) :
    rankOf (resume s next) = nextRank next := by
  cases next <;> rfl

theorem stepLoop_rank (stream : StreamType) (u : UserMemory) (cursor : Cursor) (s : ParserScratch)
    (ctx : KernelCounterContext) :
    rankOf (stepLoop stream u cursor s ctx).1 < nextRank (some cursor) := by
  have hstop : rankOf none < nextRank (some cursor) := Nat.succ_pos _
  unfold stepLoop
  split
  · exact hstop
  · rename_i hleft
    split
    · exact hstop
    · split
      · exact hstop
      · dsimp only
        split
        · exact hstop
        · split
          · exact hstop
          · -- the cursor behind the command has one command less to go
            have hnext : ∀ (b : Prop) [Decidable b] (x : Cursor), x.left = cursor.left - 1 →
                nextRank (if b then none else some x) + 14 < nextRank (some cursor) := by
              intro b _ x hx
              split
              · simp only [nextRank]
                omega
              · simp only [nextRank, hx]
                omega
            split
            · exact hnext _ _ rfl
            · rw [rankOf_resume]
              exact Nat.lt_of_le_of_lt (Nat.le_add_right _ 14) (hnext _ _ rfl)

theorem stepRecording_rank (e : CallEvent) (next : Option Cursor) (r : Recording)
    (ctx : KernelCounterContext) :
    rankOf (stepRecording e next r ctx).stage < nextRank next + r.stage.rank + 1 := by
  unfold stepRecording stepRecord
  cases hs : r.stage with
  | pop => simp [rankOf, WalkStage.rank, popRecord, RecordStage.rank]
  | parse => simp [rankOf, WalkStage.rank, ParseStage.rank, RecordStage.rank]
  | reserve =>
    have hrank : (reserveRecord r ctx).1.stage.rank ≤ 2 := by
      simp only [reserveRecord]
      split <;> decide
    exact Nat.succ_lt_succ (Nat.add_lt_add_left (Nat.lt_succ_of_le hrank) _)
  | push =>
    have hrank : (pushRecord e.acquired r ctx).1.stage.rank ≤ 1 := by
      unfold pushRecord
      split <;> exact Nat.le_refl 1
    exact Nat.succ_lt_succ (Nat.add_lt_add_left (Nat.lt_succ_of_le hrank) _)
  | publish => simp [rankOf, WalkStage.rank, publishRecord, RecordStage.rank]
  | done => simp [RecordStage.rank]

theorem stepReply_rank (u : UserMemory) (next : Option Cursor) (stage : ParseStage) (r : Recording)
    (ctx : KernelCounterContext) :
    rankOf (stepReply u next stage r ctx).stage < nextRank next + stage.rank + 1 := by
  unfold stepReply
  cases stage.body r.requestId r.requestFlags ⟨u, r.scratch, ctx⟩ with
  | ok st =>
    cases stage <;>
      simp [ParseStage.next, rankOf, WalkStage.rank, ParseStage.rank, RecordStage.rank]
  | error e =>
    cases stage <;> simp [rankOf, WalkStage.rank, ParseStage.rank, RecordStage.rank]

theorem step_rank (t : TaskIdentity) (stream : StreamType) (e : CallEvent)
    (ctx : KernelCounterContext) (w : WalkStage) :
    rankOf (w.step t stream e ctx).stage < w.rank := by
  cases w with
  | loop cursor s => exact stepLoop_rank stream e.user cursor s ctx
  | metadata next command addr s =>
    simp only [WalkStage.step, stepMetadata, WalkStage.rank]
    split
    · simp
    · simp [rankOf, WalkStage.rank]
  | capture next command s =>
    simp only [WalkStage.step, beginRecord, WalkStage.rank, rankOf]
    split <;> simp [RecordStage.rank]
  | record next r => exact stepRecording_rank e next r ctx
  | reply next stage r => exact stepReply_rank e.user next stage r ctx

end WalkStage

namespace HookCall

/-- Every step of a call brings it nearer to its return. -/
theorem step_rank (installerTgid : UInt32) (c : HookCall) (e : CallEvent)
    (ctx : KernelCounterContext) :
    (c.step installerTgid ctx e).call.stage.rank ≤ c.stage.rank - 1 := by
  unfold HookCall.step
  cases hs : c.stage with
  | gate =>
    dsimp only
    split
    · exact Nat.le_refl _
    · simp [CallStage.rank]
  | bypass | hit | enter | pre | original | post | exit => exact Nat.le_refl _
  | returned =>
    dsimp only
    rw [hs]
    exact Nat.le_refl _
  | header =>
    obtain ⟨-, -, stage, hd, hcall, hopens⟩ := c.stepHeader_spec e ctx
    simp only [hcall]
    rcases hopens with rfl | ⟨cursor, s, rfl, hleft⟩
    · simp only [StreamType.done, CallStage.rank]
      omega
    · simp only [CallStage.rank, WalkStage.rank, nextRank, hleft, kWalkRank]
      omega
  | walk stream w =>
    have := w.step_rank c.task stream e ctx
    dsimp only
    cases hnext : (w.step c.task stream e ctx).stage with
    | some w' =>
      rw [hnext] at this
      simp only [rankOf] at this
      cases stream <;> simp only [CallStage.ofWalk, CallStage.rank] <;> omega
    | none =>
      rw [hnext] at this
      simp only [rankOf] at this
      cases stream <;> simp only [CallStage.ofWalk, StreamType.done, CallStage.rank] <;> omega
  | postHeader =>
    obtain ⟨-, -, stage, hcall, hopens⟩ := c.stepPostHeader_spec e ctx
    simp only [hcall]
    rcases hopens with rfl | ⟨cursor, s, rfl, hleft⟩
    · simp only [StreamType.done, CallStage.rank]
      omega
    · simp only [CallStage.rank, WalkStage.rank, nextRank, hleft, kWalkRank]
      omega

theorem returned_of_rank {c : HookCall} (h : c.stage.rank = 0) : c.stage = .returned := by
  cases hs : c.stage with
  | returned => rfl
  | walk stream w =>
    rw [hs] at h
    cases stream <;> simp [CallStage.rank] at h
  | gate | bypass | hit | enter | pre | header | original | postHeader | post | exit =>
    rw [hs] at h
    simp [CallStage.rank] at h

/-- The task and the arguments stay those of the entry. -/
theorem step_key (installerTgid : UInt32) (c : HookCall) (e : CallEvent)
    (ctx : KernelCounterContext) :
    (c.step installerTgid ctx e).call.task = c.task ∧
      (c.step installerTgid ctx e).call.io = c.io := by
  unfold HookCall.step
  cases c.stage with
  | gate =>
    dsimp only
    split <;> exact ⟨rfl, rfl⟩
  | header =>
    obtain ⟨-, -, stage, hd, hcall, -⟩ := c.stepHeader_spec e ctx
    simp only [hcall, and_self]
  | postHeader =>
    obtain ⟨-, -, stage, hcall, -⟩ := c.stepPostHeader_spec e ctx
    simp only [hcall, and_self]
  | bypass | hit | enter | pre | walk | original | post | exit | returned => exact ⟨rfl, rfl⟩

/-- A call that the gate lets pass by leaves the context, and user memory but for what the original
does to it. -/
theorem step_untracked (installerTgid : UInt32) {c : HookCall} (e : CallEvent)
    {ctx : KernelCounterContext} (hc : c.Faithful)
    (h : (c.step installerTgid ctx e).call.tracked = false) :
    (c.step installerTgid ctx e).ctx = ctx ∧
      ((c.step installerTgid ctx e).user = e.user ∨
        c.stage = .bypass ∧ (c.step installerTgid ctx e).user = e.after) := by
  unfold HookCall.step at h ⊢
  unfold Faithful at hc
  cases hs : c.stage with
  | gate =>
    dsimp only
    split <;> exact ⟨rfl, .inl rfl⟩
  | bypass => exact ⟨rfl, .inr ⟨rfl, rfl⟩⟩
  | returned => exact ⟨rfl, .inl rfl⟩
  | hit | enter | pre =>
    rw [hs] at h hc
    exact absurd (hc.2.symm.trans h) (by decide)
  | header =>
    rw [hs] at h hc
    obtain ⟨-, -, stage, hd, hcall, -⟩ := c.stepHeader_spec e ctx
    simp only [hcall] at h
    exact absurd (hc.2.symm.trans h) (by decide)
  | walk stream w =>
    rw [hs] at h hc
    cases stream <;> exact absurd (hc.2.symm.trans h) (by decide)
  | original | post | exit =>
    rw [hs] at h hc
    exact absurd (hc.2.symm.trans h) (by decide)
  | postHeader =>
    rw [hs] at h hc
    obtain ⟨-, -, stage, hcall, -⟩ := c.stepPostHeader_spec e ctx
    simp only [hcall] at h
    exact absurd (hc.2.symm.trans h) (by decide)

theorem Faithful.transparent {c : HookCall} (h : c.Faithful) : c.Transparent := by
  unfold Faithful at h
  cases hs : c.stage with
  | gate | bypass =>
    rw [hs] at h
    exact ⟨.inl h.1, by simp [hs], by simp [between, CallStage.between, hs]⟩
  | hit | enter | pre =>
    rw [hs] at h
    exact ⟨.inl h.1, by simp [hs], fun _ => h.2⟩
  | header | original =>
    rw [hs] at h
    exact ⟨.inl h.1.1, by simp [hs], fun _ => h.2⟩
  | walk stream w =>
    rw [hs] at h
    cases stream with
    | bc => exact ⟨.inl h.1.1, by simp [hs], fun _ => h.2⟩
    | br => exact ⟨.inr ⟨_, h.1⟩, by simp [hs], fun _ => h.2⟩
  | postHeader | post | exit =>
    rw [hs] at h
    exact ⟨.inr ⟨_, h.1⟩, by simp [hs], fun _ => h.2⟩
  | returned =>
    rw [hs] at h
    exact ⟨.inr ⟨_, h⟩, fun _ => h, by simp [between, CallStage.between, hs]⟩

end HookCall

/-! ## Runs -/

namespace Hook

variable (installerTgid : UInt32) (ctx : KernelCounterContext) (ls : List HookLabel)

theorem run_faithful : ∀ c ∈ ((init ctx).run installerTgid ls).procs, c.Faithful := by
  have h0 : (init ctx).Holds (fun _ => True) HookCall.Faithful := ⟨trivial, by simp [init]⟩
  refine (Lib.run_induct (P := fun S : Hook => S.Holds (fun _ => True) HookCall.Faithful) h0
    fun S l hS => ?_).procs
  refine hS.step l (fun _ => ⟨rfl, rfl⟩) (fun i e c _ _ hc => ⟨trivial, ?_⟩) fun _ => trivial
  exact c.step_faithful installerTgid e S.shared hc

theorem run_entries : ((init ctx).run installerTgid ls).procs.map (fun c => (c.task, c.io)) =
    (ls.filterMap Lib.PoolLabel.started).map fun x => (x.task, x.io) := by
  refine (Lib.Pool.run_key (M := hookMachine installerTgid) (P := init ctx)
    (fun S c e => ?_) ls).trans rfl
  obtain ⟨htask, hio⟩ := c.step_key installerTgid e S
  exact Prod.ext htask hio

variable {S : Hook} {i : Nat} {c : HookCall}

/-- A call that moves often enough returns, whatever else happens. -/
theorem run_returns (h : S.procs[i]? = some c)
    (hls : c.stage.rank ≤ ls.countP (Lib.PoolLabel.moves i)) :
    ∃ c', (S.run installerTgid ls).procs[i]? = some c' ∧ c'.stage = .returned := by
  obtain ⟨c', hc', hrank⟩ := Lib.Pool.run_rank (M := hookMachine installerTgid)
    (fun c => c.stage.rank) (fun ctx c e => c.step_rank installerTgid e ctx) h ls
  exact ⟨c', hc', HookCall.returned_of_rank (by omega)⟩

end Hook

/-- **Transparent hook.** In every run, from any context: the calls are those that entered, with
their arguments; each invokes the original at most once and, when it has returned, exactly once,
with the caller's arguments, and hands its result back; each returns if it keeps moving. A call is
tracked iff its tgid is the installer's or one of the active set's; an untracked one changes no byte
but by the original. `active_calls` is the number of calls between increment and decrement. -/
theorem transparent_hook (installerTgid : UInt32) (ctx : KernelCounterContext)
    (ls : List HookLabel) :
    let S := (Hook.init ctx).run installerTgid ls
    S.procs.map (fun c => (c.task, c.io)) =
        (ls.filterMap Lib.PoolLabel.started).map (fun x => (x.task, x.io)) ∧
      (∀ c ∈ S.procs, c.Transparent) ∧
      (∀ i c, S.procs[i]? = some c → ∃ n, ∀ ls' : List HookLabel,
        n ≤ ls'.countP (Lib.PoolLabel.moves i) →
        ∃ c', (S.run installerTgid ls').procs[i]? = some c' ∧ c'.stage = .returned) ∧
      (∀ c ∈ S.procs, ∀ e, let s := c.step installerTgid S.shared e
        let active := S.shared.activeIdentities
        (c.stage = .gate → c.task.kaddr ≠ 0 →
          validateHalIdentities ⟨active.generation, active.count, active.tgids⟩ = true →
          (s.call.tracked = true ↔ c.task.tgid = installerTgid ∨
            ∃ k : Fin 4, k.val < active.count.toNat ∧ active.tgids.get k = c.task.tgid)) ∧
        (s.call.tracked = false → s.ctx = S.shared ∧
          (s.user = e.user ∨ c.stage = .bypass ∧ s.user = e.after))) ∧
      (ctx.counter .activeCalls = 0 →
        S.shared.counter .activeCalls = UInt64.ofNat (S.procs.countP HookCall.between)) := by
  have hfaithful := Hook.run_faithful installerTgid ctx ls
  refine ⟨Hook.run_entries installerTgid ctx ls, fun c hc => (hfaithful c hc).transparent,
    fun i c hi => ⟨c.stage.rank, fun ls' => Hook.run_returns installerTgid ls' hi⟩,
    fun c hc e => ⟨fun hs ht hvalid => ?_, c.step_untracked installerTgid e (hfaithful c hc)⟩,
    fun h0 => Hook.run_active installerTgid h0 ls⟩
  rw [← emitHalIdentityGate_iff installerTgid ht hvalid]
  simp only [HookCall.step, hs]
  split
  · rename_i hgate
    simp [hgate]
  · rename_i hgate
    simp [hgate]

/-- A context with one active HAL process, tgid 5. -/
def servingContext : KernelCounterContext :=
  { KernelCounterContext.zero with halIdentitySlots := fun _ => .ofConfig sampleIdentities }

/-- A process enters that is neither the installer nor the HAL. -/
def foreignEntry : Entry := ⟨⟨0x80, 2, 9⟩, ⟨3, 0, 0⟩, ⟨⟨0, 0, 0⟩, 0⟩⟩

/-- By then a call of the installer has raised `active_calls`. -/
def foreignLabels : List HookLabel :=
  .start ⟨⟨0x40, 1, 7⟩, ⟨3, 0, 0⟩, ⟨⟨0, 0, 0⟩, 0⟩⟩ ::
    List.replicate 4 (.step 0 ⟨.ofBytes 0 [], true, 0, .ofBytes 0 [], .zero, 0⟩) ++
    [.start foreignEntry]

/-- The foreign process is let pass, and `active_calls` is the installer's one. -/
theorem transparent_hook_foreign :
    let S := (Hook.init servingContext).run 7 foreignLabels
    S.shared.counter .activeCalls = 1 ∧ foreignEntry.call ∈ S.procs ∧
      ∀ e, let s := foreignEntry.call.step 7 S.shared e
        s.call.tracked = false ∧ s.ctx = S.shared := by
  obtain ⟨-, -, -, hstep, hactive⟩ := transparent_hook 7 servingContext foreignLabels
  have hmem : foreignEntry.call ∈ ((Hook.init servingContext).run 7 foreignLabels).procs := by
    rw [foreignLabels, Hook.run, Lib.run_concat]
    exact List.mem_append_right _ (List.mem_singleton.2 rfl)
  have hset : ((Hook.init servingContext).run 7 foreignLabels).shared.activeIdentities =
      .ofConfig sampleIdentities := rfl
  refine ⟨(hactive rfl).trans (by decide +kernel), hmem, fun e => ?_⟩
  obtain ⟨hgate, hpass⟩ := hstep _ hmem e
  have hiff := hgate rfl (by decide) (by rw [hset]; decide)
  have hnot : (foreignEntry.call.step 7
      ((Hook.init servingContext).run 7 foreignLabels).shared e).call.tracked = false := by
    rw [← Bool.not_eq_true, hiff, hset]
    decide
  exact ⟨hnot, (hpass hnot).1⟩

end Drmid
