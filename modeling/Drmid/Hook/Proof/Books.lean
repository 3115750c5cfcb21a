import Drmid.Hook.Telemetry
import Drmid.Hook.Proof.PendingTable

/-!
# What the emitters do to the books

`Bumped ctx ctx' l`: from `ctx` to `ctx'` the gauges of the laws, and `active_calls`, were raised as
often as `l` lists them. Each emitter has one lemma here that names its list on every branch;
`Accounts` says that such a list takes the laws from one phase of a call to another. What a pop
returns depends on what was pushed: the live frames of the table carry a request id and the flag
(`FramesGood`).
-/

namespace Drmid

open KernelCounterContext

/-- `active_calls` and the gauges of the laws. -/
def bookGauges : List Gauge := .counter .activeCalls :: lawGauges

/-- The gauges of the books were raised as often as `l` lists them. -/
def Bumped (ctx ctx' : KernelCounterContext) (l : List Gauge) : Prop :=
  ∀ q ∈ bookGauges, ctx'.gauge q = ctx.gauge q + UInt64.ofNat (l.count q)

/-- The list with `c` in it, if `c` is in the books. -/
def booked (c : Counter) (l : List Gauge) : List Gauge :=
  if bookGauges.contains (.counter c) then .counter c :: l else l

section
variable {ctx ctx' ctx'' : KernelCounterContext} {l : List Gauge}

theorem Bumped.rfl : Bumped ctx ctx [] := by
  intro q _
  simp

/-- Gauges do not depend on the rest of the context. -/
theorem Bumped.congr (h : Bumped ctx ctx' l) (hc : ctx''.counter = ctx'.counter)
    (he : ctx''.eventWriteIndex = ctx'.eventWriteIndex) : Bumped ctx ctx'' l := by
  intro q hq
  rw [← h q hq]
  cases q with
  | counter c => simp only [KernelCounterContext.gauge, hc]
  | events => simp only [KernelCounterContext.gauge, he]

theorem Bumped.count (h : Bumped ctx ctx' l) (c : Counter) :
    Bumped ctx (ctx'.emitCounterIncrement c) (booked c l) := by
  intro q hq
  have hq' := h q hq
  unfold booked
  by_cases hc : q = .counter c
  · subst hc
    rw [if_pos (List.contains_iff_mem.2 hq), List.count_cons_self, UInt64.ofNat_add,
      ← UInt64.add_assoc, ← hq']
    simp [KernelCounterContext.gauge, emitCounterIncrement]
  · have hkeep : (ctx'.emitCounterIncrement c).gauge q = ctx'.gauge q := by
      cases q with
      | counter d =>
        have hd : d ≠ c := fun h => hc (by rw [h])
        simp [KernelCounterContext.gauge, emitCounterIncrement, hd]
      | events => rfl
    rw [hkeep, hq']
    split
    · rw [List.count_cons_of_ne (Ne.symm hc)]
    · rfl

theorem Bumped.skip (h : Bumped ctx ctx' l) (c : Counter)
    (hc : bookGauges.contains (.counter c) = false) :
    Bumped ctx (ctx'.emitCounterIncrement c) l := by
  have := h.count c
  rwa [booked, if_neg (by rw [hc]; exact Bool.false_ne_true)] at this

theorem Bumped.bump (h : Bumped ctx ctx' l) (c : Counter)
    (hc : bookGauges.contains (.counter c) = true) :
    Bumped ctx (ctx'.emitCounterIncrement c) (.counter c :: l) := by
  have := h.count c
  rwa [booked, if_pos hc] at this

theorem Bumped.activeCalls (h : Bumped ctx ctx' l) (hl : Gauge.counter .activeCalls ∉ l) :
    ctx'.counter .activeCalls = ctx.counter .activeCalls := by
  have := h (.counter .activeCalls) List.mem_cons_self
  simpa [KernelCounterContext.gauge, List.count_eq_zero_of_not_mem hl] using this

end

/-! ## Accounts -/

/-- A list that takes every law from what phase `p` owes to what `p'` owes. -/
def Balanced (l : List Gauge) (p p' : Phase) : Prop :=
  ∀ law ∈ Law.all, (law.lhs.map l.count).sum + p.owes law = (law.rhs.map l.count).sum + p'.owes law

instance (l : List Gauge) (p p' : Phase) : Decidable (Balanced l p p') :=
  inferInstanceAs (Decidable (∀ law ∈ Law.all, _))

theorem balanced_nil {p : Phase} : Balanced [] p p := fun law _ => by simp

/-- A step that leaves `active_calls` alone, raises two gauges at most and, given `ok`, takes the
laws from phase to phase. -/
def Accounts (ok : Prop) (p p' : Phase) (ctx ctx' : KernelCounterContext) : Prop :=
  ∃ l, Bumped ctx ctx' l ∧ (Gauge.counter .activeCalls ∉ l ∧ l.length ≤ 2) ∧
    (ok → Balanced l p p')

theorem Accounts.weaken {ok ok' : Prop} {p p' : Phase} {ctx ctx' : KernelCounterContext}
    (h : Accounts ok p p' ctx ctx') (himp : ok' → ok) : Accounts ok' p p' ctx ctx' := by
  obtain ⟨l, hbump, hl, hb⟩ := h
  exact ⟨l, hbump, hl, fun h => hb (himp h)⟩

/-- A step that the books do not notice. -/
theorem Accounts.still {ok : Prop} {p : Phase} {ctx ctx' : KernelCounterContext}
    (h : Bumped ctx ctx' []) : Accounts ok p p ctx ctx' :=
  ⟨[], h, by decide, fun _ => balanced_nil⟩

/-! ## Recognising a request -/

section
variable {s : ParserScratch} {ctx ctx₀ : KernelCounterContext} {size : Nat}

/-- What the capture lists for the flags it leaves. -/
def hits (flags : UInt32) : List Gauge :=
  if deviceUniqueIdFlag flags then [.counter .parcelDeviceUniqueIdHits] else []

theorem hits_zero : hits 0 = [] := by decide

theorem hits_deviceUniqueId : hits kParcelFlagDeviceUniqueId =
    [.counter .parcelDeviceUniqueIdHits] := by decide

/-- Whichever of the two matches finds the property, it is counted once. -/
theorem matchProperty_bumped {descriptor : String} {tokenOffset : Nat} (hs : s.parcelFlags = 0)
    (h : Bumped ctx₀ ctx []) :
    let r := matchProperty size descriptor tokenOffset s ctx
    Bumped ctx₀ r.2 (hits r.1.parcelFlags) := by
  have hmark : Bumped ctx₀ (markDeviceUniqueId s ctx).2
      (hits (markDeviceUniqueId s ctx).1.parcelFlags) := by
    simp only [markDeviceUniqueId, hits_deviceUniqueId]
    exact h.bump _ rfl
  have hflag : deviceUniqueIdFlag (markDeviceUniqueId s ctx).1.parcelFlags = true := by
    simp only [markDeviceUniqueId]
    decide
  have hclear : deviceUniqueIdFlag s.parcelFlags = false := by
    rw [hs]
    decide
  simp only [matchProperty]
  cases propertyMatched s size descriptor tokenOffset with
  | true =>
    simp only [if_true, hflag]
    exact hmark
  | false =>
    simp only [Bool.false_eq_true, if_false, hclear]
    split
    · exact hmark
    · rw [hs, hits_zero]
      exact h

theorem emitTryParcelDescriptor_bumped (size : Nat) (offsets : List Nat) (s : ParserScratch)
    (hs : s.parcelFlags = 0) (h : Bumped ctx₀ ctx []) :
    let r := emitTryParcelDescriptor size kDrmPlugin .drmPlugin .parcelPluginHits offsets s ctx
    Bumped ctx₀ r.2.2 (hits r.2.1.parcelFlags) := by
  induction offsets generalizing s ctx with
  | nil =>
    simp only [emitTryParcelDescriptor, hs, hits_zero]
    exact h
  | cons tokenOffset offsets ih =>
    simp only [emitTryParcelDescriptor]
    cases descriptorForm s size kDrmPlugin tokenOffset with
    | none => exact ih s hs h
    | some extra =>
      simp only [if_true]
      split
      · exact ih _ hs (h.skip _ rfl)
      · exact matchProperty_bumped hs (h.skip _ rfl)

theorem scanParcel_bumped (hs : s.parcelFlags = 0) (h : Bumped ctx₀ ctx []) :
    Bumped ctx₀ (scanParcel size s ctx).2 (hits (scanParcel size s ctx).1.parcelFlags) := by
  have htry := emitTryParcelDescriptor_bumped size tokenOffsets s hs h
  simp only [scanParcel]
  split
  · exact htry
  · exact htry.skip _ rfl

/-- A capture lists one hit for a recognised request and nothing otherwise, and only a request is
recognised. -/
theorem emitCaptureParcelPrefix_bumped (stream : StreamType) (command : UInt32) (u : UserMemory)
    (ctx : KernelCounterContext) (hs : s.parcelFlags = 0) :
    let r := emitCaptureParcelPrefix stream command u s ctx
    Bumped ctx r.2 (hits r.1.parcelFlags) ∧
      (deviceUniqueIdFlag r.1.parcelFlags = true → command ∈ stream.requestCommands) := by
  have hclear : deviceUniqueIdFlag s.parcelFlags = false := by
    rw [hs]
    decide
  unfold emitCaptureParcelPrefix
  by_cases hc : command ∈ stream.requestCommands
  · rw [if_neg (by simpa using hc)]
    refine ⟨?_, fun _ => hc⟩
    split
    · exact scanParcel_bumped hs .rfl
    · split
      · simp only [hs, hits_zero]
        exact Bumped.rfl.skip _ rfl
      · dsimp only
        split
        · simp only [hs, hits_zero]
          exact Bumped.rfl.skip _ rfl
        · exact scanParcel_bumped hs (Bumped.rfl.skip _ rfl)
  · rw [if_pos (by simpa using hc)]
    refine ⟨?_, fun h => ?_⟩
    · simp only [hs, hits_zero]
      exact .rfl
    · rw [hclear] at h
      cases h

end

/-! ## The pending table -/

/-- The live frames of the table: no slot is deeper than its frames, and every frame has the event
id and the flag of a recognised request. -/
def FramesGood (T : Fin 256 → BinderPendingSlot) : Prop :=
  ∀ i, (T i).depth.toNat ≤ 4 ∧
    ∀ f ∈ (T i).frameList, f.requestEventId ≠ 0 ∧ deviceUniqueIdFlag f.parcelFlags = true

section
variable {T : Fin 256 → BinderPendingSlot} {ctx ctx₀ : KernelCounterContext} {l : List Gauge}

theorem framesGood_empty : FramesGood emptyPending := by
  intro i
  constructor
  · simp [emptyPending, BinderPendingSlot.zero]
  · simp [emptyPending, BinderPendingSlot.zero, BinderPendingSlot.frameList]

theorem FramesGood.update (h : FramesGood T) {i : Fin 256} {x : BinderPendingSlot}
    (hd : x.depth.toNat ≤ 4)
    (hf : ∀ f ∈ x.frameList, f.requestEventId ≠ 0 ∧ deviceUniqueIdFlag f.parcelFlags = true) :
    FramesGood (Function.update T i x) := by
  intro j
  by_cases hj : j = i
  · subst hj
    rw [Function.update_self]
    exact ⟨hd, hf⟩
  · rw [Function.update_of_ne hj]
    exact h j

/-- The frame a pop reads is a live one. -/
theorem FramesGood.top (h : FramesGood T) {i : Fin 256} (hd : (T i).depth ≠ 0) :
    ((T i).frame ((T i).depth - 1)).requestEventId ≠ 0 ∧
      deviceUniqueIdFlag ((T i).frame ((T i).depth - 1)).parcelFlags = true := by
  have h1 : 1 ≤ (T i).depth.toNat := by
    have : (T i).depth.toNat ≠ 0 := fun h0 => hd (UInt32.toNat_inj.1 h0)
    omega
  rw [BinderPendingSlot.frame_top h1 (h i).1]
  exact (h i).2 _ (List.getLast_mem _)

theorem FramesGood.popFrame (h : FramesGood T) {i : Fin 256} (hd : (T i).depth ≠ 0) :
    FramesGood (Function.update T i (T i).popFrame) := by
  have h1 : 1 ≤ (T i).depth.toNat := by
    have : (T i).depth.toNat ≠ 0 := fun h0 => hd (UInt32.toNat_inj.1 h0)
    omega
  have h4 := (h i).1
  refine h.update ?_ fun f hf => (h i).2 f ?_
  · simp only [BinderPendingSlot.popFrame, BinderPendingSlot.toNat_depth_sub_one h1]
    omega
  · rw [BinderPendingSlot.frameList_popFrame h1 h4] at hf
    exact List.mem_of_mem_dropLast hf

/-- A pushed frame joins the frames of the slot it was pushed to; a claimed slot had none. -/
theorem FramesGood.pushTable (h : FramesGood T) (t : TaskIdentity) {f : BinderPendingFrame}
    (hid : f.requestEventId ≠ 0) (hflag : deviceUniqueIdFlag f.parcelFlags = true) :
    FramesGood (pushTable T t f) := by
  unfold Drmid.pushTable
  dsimp only
  generalize slotAt (pendingBucket t.kaddr) (pushTarget T t).way = i
  have hopened : ((pushTarget T t).opened (T i) t).depth.toNat ≤ 4 ∧
      ∀ g ∈ ((pushTarget T t).opened (T i) t).frameList,
        g.requestEventId ≠ 0 ∧ deviceUniqueIdFlag g.parcelFlags = true := by
    have hclaim : ((T i).claim t).depth.toNat ≤ 4 ∧ ∀ g ∈ ((T i).claim t).frameList,
        g.requestEventId ≠ 0 ∧ deviceUniqueIdFlag g.parcelFlags = true := by
      rw [BinderPendingSlot.frameList_claim]
      exact ⟨by simp [BinderPendingSlot.claim], by simp⟩
    cases pushTarget T t with
    | found w => exact h i
    | reclaimIdentity w | useEmpty w | evict w => exact hclaim
  generalize (pushTarget T t).opened (T i) t = slot at hopened ⊢
  split
  · exact h.update hopened.1 hopened.2
  · rename_i hfull
    have hlt := depth_lt_of_not_le hfull
    refine h.update ?_ ?_
    · simp only [BinderPendingSlot.pushFrame, BinderPendingSlot.toNat_depth_add_one hlt]
      omega
    · intro g hg
      rw [BinderPendingSlot.frameList_pushFrame f hlt] at hg
      rcases List.mem_append.1 hg with hg | hg
      · exact hopened.2 g hg
      · rw [List.mem_singleton.1 hg]
        exact ⟨hid, hflag⟩

/-- The ends of a push. -/
def pushEnds : List Counter :=
  [.pendingOnewayIgnored, .pendingLockDrops, .pendingOverflows, .pendingPushes]

/-- A push ends in one of four counters. -/
theorem emitPendingPush_bumped (t : TaskIdentity) (acquired : Bool) (eventId : UInt64)
    (s : ParserScratch) (h : Bumped ctx₀ ctx l) :
    ∃ c ∈ pushEnds, Bumped ctx₀ (emitPendingPush t acquired eventId s ctx).2 (.counter c :: l) := by
  unfold emitPendingPush
  cases s.transaction.oneWay with
  | true => exact ⟨.pendingOnewayIgnored, by decide, h.bump _ rfl⟩
  | false =>
    cases acquired with
    | false => exact ⟨.pendingLockDrops, by decide, h.bump _ rfl⟩
    | true =>
      -- a collision is no end, and no law is about it
      have hcollide : Bumped ctx₀ (if (pushTarget ctx.pending t).collides then
          ctx.emitCounterIncrement .pendingCollisions else ctx) l := by
        split
        · exact h.skip _ rfl
        · exact h
      simp only [Bool.false_eq_true, if_false, Bool.not_true]
      split
      · exact ⟨.pendingOverflows, by decide, (hcollide.congr rfl rfl).bump _ rfl⟩
      · exact ⟨.pendingPushes, by decide, (hcollide.congr rfl rfl).bump _ rfl⟩

/-- The ends of a pop that takes no frame of the active generation. -/
def missEnds : List Counter := [.pendingLockDrops, .pendingMisses, .pendingGenerationStale]

/-- A pop ends in one of three counters without a request, or with a frame of the table. -/
theorem emitPendingPop_bumped (task : UInt64) (acquired : Bool) (s : ParserScratch)
    (ctx : KernelCounterContext) :
    let p := emitPendingPop task acquired false s ctx
    (∃ c ∈ missEnds, Bumped ctx p.ctx [.counter c] ∧ p.requestId = 0) ∨
    ∃ i, (ctx.pending i).depth ≠ 0 ∧
      let f := (ctx.pending i).frame ((ctx.pending i).depth - 1)
      p.requestId = f.requestEventId ∧ (f.requestEventId ≠ 0 → p.flags = f.parcelFlags) ∧
        Bumped ctx p.ctx (if f.requestEventId = 0 then [] else [.counter .pendingPops]) := by
  unfold emitPendingPop popMiss
  cases acquired with
  | false => exact .inl ⟨.pendingLockDrops, by decide, Bumped.rfl.bump _ rfl, rfl⟩
  | true =>
    simp only [Bool.not_true, Bool.false_eq_true, if_false]
    cases popScan ctx.pending task with
    | none => exact .inl ⟨.pendingMisses, by decide, Bumped.rfl.bump _ rfl, rfl⟩
    | some w =>
      dsimp only
      generalize slotAt (pendingBucket task) w = i
      split
      · exact .inl ⟨.pendingMisses, by decide, Bumped.rfl.bump _ rfl, rfl⟩
      · rename_i hd
        split
        · refine .inr ⟨i, hd, ?_⟩
          split
          · rename_i h0
            exact ⟨h0.symm, fun h => absurd h0 h, Bumped.rfl.congr rfl rfl⟩
          · exact ⟨rfl, fun _ => rfl, (Bumped.rfl.congr rfl rfl).bump _ rfl⟩
        · exact .inl ⟨.pendingGenerationStale, by decide, (Bumped.rfl.congr rfl rfl).bump _ rfl, rfl⟩

/-- A pop takes the top frame of one slot at most. -/
theorem FramesGood.pop (h : FramesGood ctx.pending) (task : UInt64) (acquired : Bool)
    (s : ParserScratch) : FramesGood (emitPendingPop task acquired false s ctx).ctx.pending := by
  unfold emitPendingPop popMiss
  cases acquired with
  | false => exact h
  | true =>
    simp only [Bool.not_true, Bool.false_eq_true, if_false]
    cases popScan ctx.pending task with
    | none => exact h
    | some w =>
      dsimp only
      split
      · exact h
      · rename_i hd
        split
        · split
          · exact h.popFrame hd
          · exact h.popFrame hd
        · exact h.popFrame hd

end

/-! ## Replies -/

/-- What a stage of the parse does: flags and table stay, the books go from `p` to `p'`. -/
structure ReplyBooks (ok : Prop) (p p' : Phase) (st st' : ReplyState) : Prop where
  parcelFlags : st'.scratch.parcelFlags = st.scratch.parcelFlags
  pending : st'.ctx.pending = st.ctx.pending
  accounts : Accounts ok p p' st.ctx st'.ctx

/-- A stage that runs on is in phase `next`; one that branches to a label has settled all it
owed for the reply. -/
def StageBooks (ok : Prop) (p next : Phase) (st : ReplyState) :
    Except (ReplyLabel × ReplyState) ReplyState → Prop
  | .ok st' => ReplyBooks ok p next st st'
  | .error (label, st') => ReplyBooks ok p .handling st (st'.finish label)

section
open ReplyState

variable (requestId : UInt64) (requestFlags : UInt32) (st : ReplyState)

theorem captureStage_books :
    StageBooks (requestId ≠ 0 → deviceUniqueIdFlag requestFlags = true)
      (if requestId = 0 then .missed else .popped) .candidate st
      (captureStage requestId requestFlags st) := by
  unfold captureStage
  by_cases h0 : requestId = 0
  · simp only [if_pos h0]
    exact ⟨rfl, rfl, _, Bumped.rfl.bump _ rfl, by decide, fun _ => by decide⟩
  · simp only [if_neg h0]
    cases hflag : deviceUniqueIdFlag requestFlags with
    | true =>
      exact ⟨rfl, rfl, _, (Bumped.rfl.bump _ rfl).bump _ rfl, by decide, fun _ => by decide⟩
    | false => exact ⟨rfl, rfl, [], .rfl, by decide, fun h => absurd (h h0) Bool.false_ne_true⟩

theorem headerStage_books : StageBooks True .candidate .candidate st (headerStage st) := by
  unfold headerStage
  dsimp only
  split
  · exact ⟨rfl, rfl, _, Bumped.rfl.bump _ rfl, by decide, fun _ => by decide⟩
  · split
    · exact ⟨rfl, rfl, _, Bumped.rfl.bump _ rfl, by decide, fun _ => by decide⟩
    · split
      · exact ⟨rfl, rfl, _, Bumped.rfl.bump _ rfl, by decide, fun _ => by decide⟩
      · -- the copies and checks that succeed raise counters no law is about
        split
        · exact ⟨rfl, rfl, _, (Bumped.rfl.skip _ rfl).bump _ rfl, by decide, fun _ => by decide⟩
        · split
          · exact ⟨rfl, rfl, _, ((Bumped.rfl.skip _ rfl).skip _ rfl).bump _ rfl, by decide,
              fun _ => by decide⟩
          · split
            · exact ⟨rfl, rfl, _, ((Bumped.rfl.skip _ rfl).skip _ rfl).bump _ rfl, by decide,
                fun _ => by decide⟩
            · exact ⟨rfl, rfl, [], ((Bumped.rfl.skip _ rfl).skip _ rfl).skip _ rfl, by decide,
                fun _ => by decide⟩

theorem contentStage_books : StageBooks True .candidate .replacing st (contentStage st) := by
  unfold contentStage
  split
  · exact ⟨rfl, rfl, _, Bumped.rfl.bump _ rfl, by decide, fun _ => by decide⟩
  · exact ⟨rfl, rfl, _, (Bumped.rfl.skip _ rfl).bump _ rfl, by decide, fun _ => by decide⟩

theorem lengthStage_books : StageBooks True .replacing .replacing st (lengthStage st) := by
  unfold lengthStage
  split
  · exact ⟨rfl, rfl, _, Bumped.rfl.bump _ rfl, by decide, fun _ => by decide⟩
  · exact ⟨rfl, rfl, [], .rfl, by decide, fun _ => by decide⟩

theorem modeStage_books : StageBooks True .replacing .replacing st (modeStage st) := by
  unfold modeStage
  split
  · exact ⟨rfl, rfl, _, Bumped.rfl.bump _ rfl, by decide, fun _ => by decide⟩
  · exact ⟨rfl, rfl, [], .rfl, by decide, fun _ => by decide⟩

theorem copyStage_books : StageBooks True .replacing .handling st (copyStage requestId st) := by
  unfold copyStage
  split
  · exact ⟨rfl, rfl, _, (Bumped.rfl.skip _ rfl).bump _ rfl, by decide, fun _ => by decide⟩
  · exact ⟨rfl, rfl, _, (Bumped.rfl.bump _ rfl).congr rfl rfl, by decide, fun _ => by decide⟩

theorem StageBooks.weaken {ok ok' : Prop} {p next : Phase}
    {x : Except (ReplyLabel × ReplyState) ReplyState} (h : StageBooks ok p next st x)
    (himp : ok' → ok) : StageBooks ok' p next st x := by
  cases x with
  | ok st' => exact ⟨h.1, h.2, h.3.weaken himp⟩
  | error e => exact ⟨h.1, h.2, h.3.weaken himp⟩

/-- The phase a stage that runs on leaves the parse in. -/
def ParseStage.after (stage : ParseStage) (requestId : UInt64) : Phase :=
  (stage.next.map (·.phase requestId)).getD .handling

/-- The books of every stage. The flag of a popped request is what the first stage relies on. -/
theorem body_books (stage : ParseStage) :
    StageBooks (stage = .capture → requestId ≠ 0 → deviceUniqueIdFlag requestFlags = true)
      (stage.phase requestId) (stage.after requestId) st
      (stage.body requestId requestFlags st) := by
  cases stage with
  | capture => exact (captureStage_books requestId requestFlags st).weaken st fun h => h rfl
  | header => exact (headerStage_books st).weaken st fun _ => trivial
  | content => exact (contentStage_books st).weaken st fun _ => trivial
  | length => exact (lengthStage_books st).weaken st fun _ => trivial
  | mode => exact (modeStage_books st).weaken st fun _ => trivial
  | copy => exact (copyStage_books requestId st).weaken st fun _ => trivial

end

end Drmid
