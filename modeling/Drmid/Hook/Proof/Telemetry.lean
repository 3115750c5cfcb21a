import Drmid.Hook.Proof.CallSteps
import Drmid.Hook.Proof.Handler

/-!
# The counters balance

Along every run in which no gauge wraps, each law is off by exactly what the calls under way owe
(`Hook.Books`): every step of a call moves gauges and debts together (`HookCall.step_laws`), so the
rule of the ledger carries the laws through any interleaving. A call that is not under way owes
nothing, so between calls the books balance.
-/

namespace Drmid

open KernelCounterContext

/-! ## Laws over gauges -/

/-- The sum of some gauges. -/
def KernelCounterContext.sum (ctx : KernelCounterContext) (qs : List Gauge) : Nat :=
  (qs.map fun q => (ctx.gauge q).toNat).sum

/-- The law is off by `n`. -/
def Law.Off (law : Law) (ctx : KernelCounterContext) (n : Nat) : Prop :=
  ctx.sum law.lhs = ctx.sum law.rhs + n

theorem Law.mem_all (law : Law) : law ∈ Law.all := by cases law <;> decide

theorem Law.lhs_subset (law : Law) : ∀ q ∈ law.lhs, q ∈ lawGauges := by cases law <;> decide

theorem Law.rhs_subset (law : Law) : ∀ q ∈ law.rhs, q ∈ lawGauges := by cases law <;> decide

/-- The gauges of the laws were raised as `l` lists, without wrapping. -/
def Raised (ctx ctx' : KernelCounterContext) (l : List Gauge) : Prop :=
  ∀ q ∈ lawGauges, (ctx'.gauge q).toNat = (ctx.gauge q).toNat + l.count q

section
variable {ctx ctx' : KernelCounterContext} {l : List Gauge} {p p' : Phase}

/-- A word that a small addition did not lower did not wrap. -/
theorem toNat_add_of_le {x : UInt64} {n : Nat} (hn : n ≤ 2) (hle : x ≤ x + UInt64.ofNat n) :
    (x + UInt64.ofNat n).toNat = x.toNat + n := by
  have hsmall : (UInt64.ofNat n).toNat = n := by
    rw [UInt64.toNat_ofNat']
    omega
  have hx := x.toNat_lt
  rw [UInt64.le_iff_toNat_le, UInt64.toNat_add, hsmall] at hle
  rw [UInt64.toNat_add, hsmall]
  omega

theorem raised_of_le (hl : l.length ≤ 2)
    (hbump : ∀ q ∈ lawGauges, ctx'.gauge q = ctx.gauge q + UInt64.ofNat (l.count q))
    (hle : ∀ q ∈ lawGauges, ctx.gauge q ≤ ctx'.gauge q) : Raised ctx ctx' l := by
  intro q hq
  have := hle q hq
  rw [hbump q hq] at this ⊢
  exact toNat_add_of_le (List.count_le_length.trans hl) this

theorem Raised.sum (h : Raised ctx ctx' l) {qs : List Gauge} (hqs : ∀ q ∈ qs, q ∈ lawGauges) :
    ctx'.sum qs = ctx.sum qs + (qs.map l.count).sum := by
  induction qs with
  | nil => rfl
  | cons q qs ih =>
    have hq := h q (hqs q List.mem_cons_self)
    have hrest := ih fun q hq => hqs q (List.mem_cons_of_mem _ hq)
    simp only [KernelCounterContext.sum, List.map_cons, List.sum_cons] at hrest ⊢
    omega

/-- A balanced list keeps the rest `n` that the law is off by. -/
theorem Law.Off.settle {law : Law} {n : Nat} (h : law.Off ctx (n + p.owes law))
    (hr : Raised ctx ctx' l) (hb : Balanced l p p') : law.Off ctx' (n + p'.owes law) := by
  have hl := hr.sum law.lhs_subset
  have hrhs := hr.sum law.rhs_subset
  have := hb law law.mem_all
  unfold Law.Off at h ⊢
  omega

end

/-! ## A step of a call -/

/-- The registers of the call fit its stage. -/
def HookCall.Good (c : HookCall) : Prop := ∀ stream w, c.stage = .walk stream w → w.Good

/-- What a call owes a law. -/
def HookCall.owes (law : Law) (c : HookCall) : Nat := c.stage.phase.owes law

/-- A step that lists two gauges at most and, given `ok`, takes every law from what phase `p` owes
to what `p'` owes. -/
def LawStep (ok : Prop) (p p' : Phase) (ctx ctx' : KernelCounterContext) : Prop :=
  ∃ l, (∀ q ∈ lawGauges, ctx'.gauge q = ctx.gauge q + UInt64.ofNat (l.count q)) ∧
    l.length ≤ 2 ∧ (ok → Balanced l p p')

section
variable {ctx ctx' : KernelCounterContext} {p p' : Phase} {ok : Prop}

theorem Bumped.laws {l : List Gauge} (h : Bumped ctx ctx' l) :
    ∀ q ∈ lawGauges, ctx'.gauge q = ctx.gauge q + UInt64.ofNat (l.count q) :=
  fun q hq => h q (List.mem_cons_of_mem _ hq)

theorem Bumped.lawStep {l : List Gauge} (h : Bumped ctx ctx' l)
    (hl : l.length ≤ 2 ∧ Balanced l p p') : LawStep ok p p' ctx ctx' :=
  ⟨l, h.laws, hl.1, fun _ => hl.2⟩

theorem LawStep.rfl : LawStep ok p p ctx ctx := Bumped.rfl.lawStep ⟨by decide, balanced_nil⟩

theorem CallStage.Opens.inside {stream : StreamType} {stage : CallStage} (h : stage.Opens stream) :
    stage.phase = .inside := by
  rcases h with rfl | ⟨cursor, s, rfl, -⟩
  · cases stream <;> rfl
  · rfl

/-- No law is about `active_calls`. -/
theorem lawStep_decrement : LawStep ok p p ctx (ctx.emitAtomicDecrement .activeCalls) := by
  refine ⟨[], fun q hq => ?_, by decide, fun _ => balanced_nil⟩
  cases q with
  | counter c =>
    have hne : c ≠ .activeCalls := by
      rintro rfl
      revert hq
      decide
    simp [KernelCounterContext.gauge, emitAtomicDecrement, hne]
  | events => simp [KernelCounterContext.gauge, emitAtomicDecrement]

/-- **The laws of a step.** Whatever a call does next, the laws follow what it owes. -/
theorem HookCall.step_laws (installerTgid : UInt32) (c : HookCall) (e : CallEvent)
    (ctx : KernelCounterContext) :
    let s := c.step installerTgid ctx e
    LawStep (FramesGood ctx.pending ∧ c.Good) c.stage.phase s.call.stage.phase ctx s.ctx := by
  unfold HookCall.step
  cases hs : c.stage with
  | gate =>
    dsimp only
    split
    · exact LawStep.rfl
    · exact LawStep.rfl
  | bypass => exact LawStep.rfl
  | hit =>
    exact ((Bumped.rfl.bump .halGateHits rfl).lawStep (by decide) : LawStep _ .outside .counted ctx _)
  | enter =>
    exact ((Bumped.rfl.bump .activeCalls rfl).lawStep (by decide) : LawStep _ .counted .counted ctx _)
  | pre =>
    exact ((Bumped.rfl.bump .preCalls rfl).lawStep (by decide) : LawStep _ .counted .inside ctx _)
  | header =>
    obtain ⟨hbump, -, stage, hd, hcall, hopens⟩ := c.stepHeader_spec e ctx
    simp only [hcall, hopens.inside]
    exact (hbump.lawStep (by decide) : LawStep _ .inside .inside ctx _)
  | walk stream w =>
    obtain ⟨l, hbump, hl, hbal⟩ := w.step_accounts c.task stream e ctx
    simp only [ofWalk_phase]
    exact ⟨l, hbump.laws, hl.2, fun h => hbal ⟨h.1, h.2 stream w hs⟩⟩
  | original => exact LawStep.rfl
  | postHeader =>
    obtain ⟨hbump, -, stage, hcall, hopens⟩ := c.stepPostHeader_spec e ctx
    simp only [hcall, hopens.inside]
    exact (hbump.lawStep (by decide) : LawStep _ .inside .inside ctx _)
  | post =>
    exact ((Bumped.rfl.bump .postCalls rfl).lawStep (by decide) : LawStep _ .inside .outside ctx _)
  | exit => exact lawStep_decrement
  | returned =>
    dsimp only
    rw [hs]
    exact LawStep.rfl

/-- A step leaves the next one what it relies on. -/
theorem HookCall.step_kept (installerTgid : UInt32) {c : HookCall} (e : CallEvent)
    (hT : FramesGood ctx.pending) (hc : c.Good)
    (hle : ctx.eventWriteIndex ≤ (c.step installerTgid ctx e).ctx.eventWriteIndex) :
    FramesGood (c.step installerTgid ctx e).ctx.pending ∧ (c.step installerTgid ctx e).call.Good := by
  have hplain : ∀ c' : HookCall, (∀ stream w, c'.stage ≠ .walk stream w) → c'.Good :=
    fun c' h stream w hw => absurd hw (h stream w)
  have hopen : ∀ {c' : HookCall} {stream : StreamType}, c'.stage.Opens stream → c'.Good := by
    intro c' stream h stream' w hw
    rcases h with h | ⟨cursor, s, h, -⟩
    · rw [h] at hw
      cases stream <;> cases hw
    · rw [h] at hw
      cases hw
      trivial
  unfold HookCall.step at hle ⊢
  cases hs : c.stage with
  | gate =>
    dsimp only
    split
    · exact ⟨hT, hplain _ (by simp)⟩
    · exact ⟨hT, hplain _ (by simp)⟩
  | bypass | original => exact ⟨hT, hplain _ (by simp [callOriginal])⟩
  | hit | enter | pre | post | exit => exact ⟨hT, hplain _ (by simp)⟩
  | returned => exact ⟨hT, hplain _ (by simp [hs])⟩
  | header =>
    obtain ⟨-, hpending, stage, hd, hcall, hopens⟩ := c.stepHeader_spec e ctx
    refine ⟨hpending ▸ hT, ?_⟩
    simp only [hcall]
    exact hopen hopens
  | postHeader =>
    obtain ⟨-, hpending, stage, hcall, hopens⟩ := c.stepPostHeader_spec e ctx
    refine ⟨hpending ▸ hT, ?_⟩
    simp only [hcall]
    exact hopen hopens
  | walk stream w =>
    rw [hs] at hle
    obtain ⟨hgood, hframes⟩ := w.step_kept c.task stream e hT (hc stream w hs) hle
    refine ⟨hframes, fun stream' w' hw' => ?_⟩
    cases hnext : (w.step c.task stream e ctx).stage with
    | none =>
      simp only [hnext] at hw'
      cases stream <;> cases hw'
    | some w'' =>
      simp only [hnext] at hw'
      cases hw'
      exact hgood _ hnext

end

/-! ## Runs -/

namespace Hook

/-- Every law is off by what the calls owe it, and steps find what they rely on. -/
structure Books (S : Hook) : Prop where
  holds : S.Holds (fun ctx => FramesGood ctx.pending) HookCall.Good
  laws : ∀ law : Law, law.Off S.shared (S.total (HookCall.owes law))

section
variable {installerTgid : UInt32} {S : Hook} {l : HookLabel}

/-- The daemon writes no gauge of a law. -/
theorem exec_gauge (d : DaemonWrite) {ctx : KernelCounterContext} {q : Gauge}
    (hq : q ∈ lawGauges) : (d.exec ctx).gauge q = ctx.gauge q := by
  obtain ⟨-, hevents, hcounter⟩ := d.exec_frame ctx
  cases q with
  | counter c =>
    refine hcounter c ?_
    revert hq
    cases c <;> decide
  | events => exact hevents

theorem exec_off (d : DaemonWrite) {ctx : KernelCounterContext} {law : Law} {n : Nat}
    (h : law.Off ctx n) : law.Off (d.exec ctx) n := by
  have hsum : ∀ qs : List Gauge, (∀ q ∈ qs, q ∈ lawGauges) → (d.exec ctx).sum qs = ctx.sum qs :=
    fun qs hqs => congrArg List.sum (List.map_congr_left fun q hq => by
      rw [exec_gauge d (hqs q hq)])
  unfold Law.Off at h ⊢
  rw [hsum _ law.lhs_subset, hsum _ law.rhs_subset, h]

theorem Books.step (h : S.Books) (hok : S.Unwrapped installerTgid l) :
    (S.step installerTgid l).Books := by
  have hcall : ∀ i e c, l = .step i e → S.procs[i]? = some c →
      ∀ q ∈ lawGauges, S.shared.gauge q ≤ (c.step installerTgid S.shared e).ctx.gauge q := by
    rintro i e c rfl hi
    have := Lib.Pool.step_step (M := hookMachine installerTgid) (e := e) hi
    intro q hq
    have hq' := hok q hq
    rw [Hook.step, this] at hq'
    exact hq'
  constructor
  · refine h.holds.step l (fun _ _ _ hw => (by cases hw)) (fun i e c hl hi hc => ?_) fun d => ?_
    · exact c.step_kept installerTgid e h.holds.shared hc (hcall i e c hl hi .events (by decide))
    · simp only [hookMachine, (d.exec_frame S.shared).1]
      exact h.holds.shared
  · intro law
    refine Lib.Pool.total_step (M := hookMachine installerTgid) l (h.laws law)
      (fun _ => by cases law <;> rfl) (fun i e c n hl hi hn => ?_) fun d n hn => exec_off d hn
    have hc := h.holds.procs c (List.mem_of_getElem? hi)
    obtain ⟨l, hbump, hlen, hbal⟩ := c.step_laws installerTgid e S.shared
    exact hn.settle (raised_of_le hlen hbump (hcall i e c hl hi)) (hbal ⟨h.holds.shared, hc⟩)

/-- A run that no gauge wraps in keeps the books. -/
theorem Books.run {ctx : KernelCounterContext} (h : (init ctx).Books) {ls : List HookLabel}
    (hok : Lib.Along (Hook.step installerTgid) (fun S l => S.Unwrapped installerTgid l)
      (init ctx) ls) : ((init ctx).run installerTgid ls).Books :=
  hok.induct (P := fun _ S => S.Books) h fun _ _ _ hS => hS.step

/-- A step raises a gauge by two at most. -/
theorem step_gauge (installerTgid : UInt32) (S : Hook) (l : HookLabel) {q : Gauge}
    (hq : q ∈ lawGauges) :
    ∃ n ≤ 2, (S.step installerTgid l).shared.gauge q = S.shared.gauge q + UInt64.ofNat n := by
  cases l with
  | start x => exact ⟨0, by decide, by simp [Hook.step, Lib.Pool.step]⟩
  | step i e =>
    cases hi : S.procs[i]? with
    | none => exact ⟨0, by decide, by simp [Hook.step, Lib.Pool.step_absent hi]⟩
    | some c =>
      obtain ⟨l, hbump, hlen, -⟩ := c.step_laws installerTgid e S.shared
      refine ⟨l.count q, List.count_le_length.trans hlen, ?_⟩
      rw [Hook.step, Lib.Pool.step_step hi]
      exact hbump q hq
  | env d => exact ⟨0, by decide, (exec_gauge d hq).trans (by simp)⟩

/-- Gauges that start at zero do not wrap in a run of less than `2^62` steps. -/
theorem unwrapped_of_short (installerTgid : UInt32) {ctx : KernelCounterContext}
    (h0 : ∀ q, ctx.gauge q = 0) {ls : List HookLabel} (hls : ls.length < 2 ^ 62) :
    Lib.Along (Hook.step installerTgid) (fun S l => S.Unwrapped installerTgid l) (init ctx) ls := by
  have hbound : ∀ pre : List HookLabel, ∀ q ∈ lawGauges,
      (((init ctx).run installerTgid pre).shared.gauge q).toNat ≤ 2 * pre.length := by
    intro pre q hq
    induction pre using List.reverseRecOn with
    | nil => simp [Hook.run, init, h0]
    | append_singleton pre l ih =>
      obtain ⟨n, hn, heq⟩ := step_gauge installerTgid ((init ctx).run installerTgid pre) l hq
      rw [Hook.run, Lib.run_concat, ← Hook.run, heq, UInt64.toNat_add, UInt64.toNat_ofNat',
        List.length_append, List.length_singleton]
      omega
  intro pre l post heq q hq
  have hpre := hbound pre q hq
  obtain ⟨n, hn, hstep⟩ := step_gauge installerTgid ((init ctx).run installerTgid pre) l hq
  have hlen : pre.length < 2 ^ 62 := by
    rw [heq, List.length_append] at hls
    omega
  rw [← Hook.run, hstep, UInt64.le_iff_toNat_le, UInt64.toNat_add, UInt64.toNat_ofNat']
  omega

/-- An installed context has every gauge at zero. -/
theorem install_gauge {config : ReplacementConfig} {identities : HalIdentityConfig}
    {ctx : KernelCounterContext} (h : installReadonlyParserHook config identities = some ctx)
    (q : Gauge) : ctx.gauge q = 0 := by
  unfold installReadonlyParserHook at h
  split at h
  · cases h
    cases q <;> rfl
  · cases h

/-- An installed context has nothing in its books. -/
theorem books_install {config : ReplacementConfig} {identities : HalIdentityConfig}
    {ctx : KernelCounterContext} (h : installReadonlyParserHook config identities = some ctx) :
    (init ctx).Books := by
  unfold installReadonlyParserHook at h
  split at h
  · cases h
    refine ⟨⟨framesGood_empty, fun c hc => (by cases hc)⟩, fun law => ?_⟩
    cases law <;> rfl
  · cases h

end
end Hook

/-! ## Quiet states -/

/-- A call that is not under way owes nothing. -/
theorem HookCall.owes_quiet {c : HookCall} (h : c.inFlight = false) (law : Law) :
    c.owes law = 0 := by
  unfold HookCall.inFlight at h
  unfold HookCall.owes
  cases hs : c.stage with
  | gate | bypass | returned => cases law <;> rfl
  | hit | enter | pre | header | walk | original | postHeader | post | exit => simp [hs] at h

theorem HookCall.between_quiet {c : HookCall} (h : c.inFlight = false) : c.between = false := by
  unfold HookCall.inFlight at h
  unfold HookCall.between CallStage.between
  cases hs : c.stage with
  | gate | bypass | returned => rfl
  | hit | enter | pre | header | walk | original | postHeader | post | exit => simp [hs] at h

theorem KernelCounterContext.sum_nil (ctx : KernelCounterContext) : ctx.sum [] = 0 := rfl

theorem KernelCounterContext.sum_counter (ctx : KernelCounterContext) (c : Counter)
    (qs : List Gauge) : ctx.sum (.counter c :: qs) = ctx.tally c + ctx.sum qs := rfl

/-- The laws, spelled out. -/
theorem conserved_of_laws {ctx : KernelCounterContext} (hidle : ctx.counter .activeCalls = 0)
    (h : ∀ law : Law, ctx.sum law.lhs = ctx.sum law.rhs) : ctx.Conserved where
  idle := by
    rw [tally, hidle]
    rfl
  calls := ⟨h .entered, h .left⟩
  commands := h .commands
  events := h .events
  requests := h .requests
  pending := by
    have := h .pending
    simp only [Law.lhs, Law.rhs, sum_counter, sum_nil] at this
    omega
  pops := ⟨h .pops, h .candidates⟩
  replies := by
    have := h .replies
    simp only [Law.lhs, Law.rhs, sum_counter, sum_nil] at this
    omega
  replacements := by
    have := h .replacements
    simp only [Law.lhs, Law.rhs, sum_counter, sum_nil] at this
    omega

/-- **Telemetry conservation.** In every run of an installed handler, over any number of threads,
streams, faults, failed try-locks and publications, in which no gauge wraps, the counters balance
in every state without a tracked call under way. -/
theorem telemetry_conserved (installerTgid : UInt32) {config : ReplacementConfig}
    {identities : HalIdentityConfig} {ctx : KernelCounterContext}
    (hinstall : installReadonlyParserHook config identities = some ctx) (ls : List HookLabel)
    (hok : Lib.Along (Hook.step installerTgid) (fun S l => S.Unwrapped installerTgid l)
      (Hook.init ctx) ls)
    (hquiet : ((Hook.init ctx).run installerTgid ls).Quiet) :
    ((Hook.init ctx).run installerTgid ls).shared.Conserved := by
  have hlaws := ((Hook.books_install hinstall).run hok).laws
  have hactive := Hook.run_active installerTgid
    (Hook.install_gauge hinstall (.counter .activeCalls)) ls
  generalize (Hook.init ctx).run installerTgid ls = S at hquiet hlaws hactive ⊢
  have hoff : ∀ law : Law, S.shared.sum law.lhs = S.shared.sum law.rhs := by
    intro law
    have := hlaws law
    rwa [Lib.Pool.total_eq_zero fun c hc => HookCall.owes_quiet (hquiet c hc) law] at this
  have hcount : S.procs.countP HookCall.between = 0 :=
    List.countP_eq_zero.2 fun c hc => by simp [HookCall.between_quiet (hquiet c hc)]
  rw [hcount] at hactive
  exact conserved_of_laws hactive hoff

/-! ## A request and its reply -/

def BinderTransactionData.bytes (td : BinderTransactionData) : List UInt8 :=
  [td.target, td.cookie].flatMap le64Bytes ++
    [td.code, td.flags, td.senderPid, td.senderEuid].flatMap le32Bytes ++
    [td.dataSize, td.offsetsSize, td.buffer, td.offsets].flatMap le64Bytes

/-- A parcel at `0x1000`, a header at `0x1070` and one command, about that parcel, at `0x10a0`. -/
def callMemory (parcel : List UInt8) (h : BinderWriteRead) (word code : UInt32) : UserMemory :=
  .ofBytes 0x1000 (parcel ++ List.replicate (112 - parcel.length) 0 ++ h.bytes ++ le32Bytes word ++
    (parcelCall code).bytes)

/-- Call number `i` enters and moves `n` times, in a user memory that the driver leaves alone. -/
def callLabels (i n : Nat) (u : UserMemory) : List HookLabel :=
  .start ⟨sampleTask, ⟨3, binderWriteRead.toUInt64, 0x1070⟩, ⟨⟨0, 0, 0⟩, 0⟩⟩ ::
    List.replicate n (.step i ⟨u, true, 0, u, .zero, 0⟩)

/-- A `deviceUniqueId` request is delivered in one call and answered in the next. -/
def answeredRequest : List HookLabel :=
  callLabels 0 16 (callMemory deviceUniqueIdParcel ⟨0, 0, 0, 68, 68, 0x10a0⟩ brTransaction 11) ++
    callLabels 1 23 (callMemory arrayReply ⟨68, 0, 0x10a0, 0, 0, 0⟩ bcReply 0)

/-- After the answer the books balance, with one reply rewritten. -/
theorem telemetry_conserved_answered :
    ∃ ctx, installReadonlyParserHook (sampleConfig 1) sampleIdentities = some ctx ∧
      let S := (Hook.init ctx).run 7 answeredRequest
      S.shared.Conserved ∧ S.shared.tally .replacementWriteOk = 1 := by
  have hinstall : installReadonlyParserHook (sampleConfig 1) sampleIdentities = some _ := rfl
  refine ⟨_, hinstall, And.imp_left (telemetry_conserved 7 hinstall answeredRequest
    (Hook.unwrapped_of_short 7 (Hook.install_gauge hinstall) (by decide))) ?_⟩
  decide +kernel

end Drmid
