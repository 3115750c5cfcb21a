import Drmid.Hook.Proof.Books
import Drmid.Hook.Proof.SystemSteps

/-!
# What a step of a call does

One lemma for each stage of a call says how the books move (`Accounts`) and one that the next stage
finds what it relies on: the registers of a recording fit its stage (`WalkStage.Good`) and the live
frames of the table are those of recognised requests (`FramesGood`).
-/

namespace Drmid

open KernelCounterContext

/-! ## Recordings -/

/-- The registers of a recording fit its stage. -/
structure Recording.Good (r : Recording) : Prop where
  pop : r.stage = .pop ∨ r.stage = .parse → r.recognised = false
  parse : r.stage = .parse → r.requestId ≠ 0 → deviceUniqueIdFlag r.requestFlags = true
  reserve : r.stage = .reserve → r.recognised = true → isRequest r.stream r.command = true
  push : r.stage = .push → r.eventId ≠ 0

/-- The registers of a walk fit its stage. -/
def WalkStage.Good : WalkStage → Prop
  | .record _ r => r.Good
  | .reply _ stage r => r.recognised = false ∧
      (stage = .capture → r.requestId ≠ 0 → deviceUniqueIdFlag r.requestFlags = true)
  | .loop _ _ | .metadata _ _ _ _ | .capture _ _ _ => True

/-- The phase after a step of a walk, which may have been its last. -/
def phaseOf : Option WalkStage → Phase
  | some w => w.phase
  | none => .inside

@[simp] theorem ofWalk_phase (stream : StreamType) (w : Option WalkStage) :
    (CallStage.ofWalk stream w).phase = phaseOf w := by
  cases w with
  | some w => rfl
  | none => cases stream <;> rfl

@[simp] theorem phaseOf_resume (s : ParserScratch) (next : Option Cursor) :
    phaseOf (WalkStage.resume s next) = .inside := by
  cases next <;> rfl

section
variable {ctx : KernelCounterContext} {r : Recording}

/-- The recording that opens is a reply about to pop, or owes a hit if it is recognised. -/
theorem beginRecord_spec (t : TaskIdentity) (stream : StreamType) (command : UInt32)
    (u : UserMemory) (s : ParserScratch) (ctx : KernelCounterContext) :
    let b := beginRecord t stream command u s ctx
    b.1.Good ∧ Bumped ctx b.2 (if b.1.recognised then [.counter .parcelDeviceUniqueIdHits] else [])
      ∧ b.1.phase = (if b.1.recognised then .recognised else .handling) := by
  have hclear : deviceUniqueIdFlag s.emitResetTransactionParseScratch.parcelFlags = false := by
    simp only [ParserScratch.emitResetTransactionParseScratch]
    decide
  cases stream with
  | bc =>
    -- the parcel is not looked at, so nothing is recognised
    have hrec : (beginRecord t .bc command u s ctx).1.recognised = false := hclear
    have hbump : Bumped ctx (beginRecord t .bc command u s ctx).2 [] := .rfl
    have hstage : (beginRecord t .bc command u s ctx).1.stage = .pop ∨
        (beginRecord t .bc command u s ctx).1.stage = .reserve := by
      simp only [beginRecord]
      cases isReply .bc command with
      | true => exact .inl rfl
      | false => exact .inr rfl
    generalize beginRecord t .bc command u s ctx = b at hrec hbump hstage ⊢
    simp only [hrec, Bool.false_eq_true, if_false]
    rcases hstage with hstage | hstage
    · exact ⟨⟨fun _ => hrec, by simp [hstage], by simp [hstage], by simp [hstage]⟩, hbump,
        by simp [Recording.phase, hstage]⟩
    · exact ⟨⟨fun _ => hrec, by simp [hstage], by simp [hrec], by simp [hstage]⟩, hbump,
        by simp [Recording.phase, hstage, hrec]⟩
  | br =>
    obtain ⟨hbump, hmem⟩ := emitCaptureParcelPrefix_bumped
      (s := s.emitResetTransactionParseScratch) .br command u ctx rfl
    have hstage : (beginRecord t .br command u s ctx).1.stage = .reserve := rfl
    refine ⟨⟨by simp [hstage], by simp [hstage], ?_, by simp [hstage]⟩, hbump, ?_⟩
    · intro _ hrec
      have hreq : command = brTransaction ∨ command = brTransactionSecCtx := by
        simpa [StreamType.requestCommands] using hmem hrec
      rcases hreq with rfl | rfl
      · exact (by decide : isRequest .br brTransaction = true)
      · exact (by decide : isRequest .br brTransactionSecCtx = true)
    · simp only [Recording.phase, hstage]

theorem popRecord_accounts (acquired : Bool) (r : Recording) (ctx : KernelCounterContext) :
    Accounts (FramesGood ctx.pending) .handling (popRecord acquired r ctx).1.phase ctx
      (popRecord acquired r ctx).2 := by
  have hphase : (popRecord acquired r ctx).1.phase =
      if (emitPendingPop r.task.kaddr acquired false r.scratch ctx).requestId = 0 then .missed
      else .popped := rfl
  rw [hphase]
  rcases emitPendingPop_bumped r.task.kaddr acquired r.scratch ctx with
    ⟨c, hc, hbump, hid⟩ | ⟨i, hd, hid, -, hbump⟩
  · refine ⟨[.counter c], hbump, ?_, fun _ => ?_⟩
    · simp only [missEnds, List.mem_cons, List.not_mem_nil, or_false] at hc
      rcases hc with rfl | rfl | rfl <;> decide
    · rw [if_pos hid]
      simp only [missEnds, List.mem_cons, List.not_mem_nil, or_false] at hc
      rcases hc with rfl | rfl | rfl <;> decide
  · refine ⟨_, hbump, ?_, fun hT => ?_⟩
    · split <;> decide
    · have h0 := (hT.top hd).1
      rw [hid, if_neg h0, if_neg h0]
      decide

theorem popRecord_good (hT : FramesGood ctx.pending) (hr : r.Good) (hs : r.stage = .pop)
    (acquired : Bool) : (popRecord acquired r ctx).1.Good := by
  have hrec : (popRecord acquired r ctx).1.recognised = false := by
    obtain ⟨g, hg⟩ := emitPendingPop_scratch r.task.kaddr acquired false r.scratch ctx
    have := hr.pop (.inl hs)
    simp only [Recording.recognised, popRecord, hg] at this ⊢
    exact this
  refine ⟨fun _ => hrec, fun _ h0 => ?_, fun _ h => ?_, fun h => (by cases h)⟩
  · rcases emitPendingPop_bumped r.task.kaddr acquired r.scratch ctx with
      ⟨c, -, -, hid⟩ | ⟨i, hd, hid, hflags, -⟩
    · exact absurd hid h0
    · have htop := hT.top hd
      have : (popRecord acquired r ctx).1.requestFlags = _ := hflags htop.1
      rw [this]
      exact htop.2
  · rw [hrec] at h
    cases h

theorem Bumped.reserve (r : Recording) (ctx : KernelCounterContext) :
    Bumped ctx (reserveRecord r ctx).2 [.events] := by
  intro q _
  cases q with
  | counter c => simp [KernelCounterContext.gauge, reserveRecord, emitReserveEvent]
  | events => simp [KernelCounterContext.gauge, reserveRecord, emitReserveEvent]

/-- A recording with its event id: only a request that may push is announced. -/
theorem reserveRecord_accounts (r : Recording) (ctx : KernelCounterContext)
    (hs : r.stage = .reserve) :
    Accounts r.Good r.phase (reserveRecord r ctx).1.phase ctx (reserveRecord r ctx).2 := by
  refine ⟨_, Bumped.reserve r ctx, by decide, fun hr => ?_⟩
  have hphase : (reserveRecord r ctx).1.phase =
      if isRequest r.stream r.command && r.recognised then .announced else .reserved := by
    have hstage : (reserveRecord r ctx).1.stage =
        if isRequest r.stream r.command then .push else .publish := rfl
    have hrec : (reserveRecord r ctx).1.recognised = r.recognised := rfl
    simp only [Recording.phase, hstage, hrec]
    cases isRequest r.stream r.command <;> rfl
  have hold : r.phase = if r.recognised then .recognised else .handling := by
    simp only [Recording.phase, hs]
  rw [hphase, hold]
  cases h : r.recognised with
  | true =>
    rw [hr.reserve hs h]
    decide
  | false =>
    rw [Bool.and_false]
    decide

theorem reserveRecord_good
    (hle : ctx.eventWriteIndex ≤ (reserveRecord r ctx).2.eventWriteIndex) :
    (reserveRecord r ctx).1.Good := by
  have hstage : (reserveRecord r ctx).1.stage =
      if isRequest r.stream r.command then .push else .publish := rfl
  have hid : (reserveRecord r ctx).1.eventId = ctx.eventWriteIndex + 1 := rfl
  have hindex : (reserveRecord r ctx).2.eventWriteIndex = ctx.eventWriteIndex + 1 := rfl
  refine ⟨fun h => ?_, fun h => ?_, fun h => ?_, fun _ h0 => ?_⟩
  · rw [hstage] at h
    split at h <;> simp at h
  · rw [hstage] at h
    split at h <;> simp at h
  · rw [hstage] at h
    split at h <;> simp at h
  · -- an id of zero would be a wrapped ticket counter
    rw [hid] at h0
    rw [hindex, h0, UInt64.le_iff_toNat_le] at hle
    have := congrArg UInt64.toNat h0
    rw [UInt64.toNat_add, UInt64.toNat_one, UInt64.toNat_zero] at this
    have hzero : ctx.eventWriteIndex.toNat = 0 := by simpa using hle
    omega

theorem pushRecord_accounts (acquired : Bool) (r : Recording) (ctx : KernelCounterContext)
    (hs : r.stage = .push) : Accounts True r.phase (pushRecord acquired r ctx).1.phase ctx
      (pushRecord acquired r ctx).2 := by
  have hphase : (pushRecord acquired r ctx).1.phase = .reserved := by
    unfold pushRecord
    split <;> rfl
  rw [hphase]
  simp only [Recording.phase, hs]
  unfold pushRecord
  cases r.recognised with
  | true =>
    obtain ⟨c, hc, hbump⟩ := emitPendingPush_bumped r.task acquired r.eventId r.scratch
      ((@Bumped.rfl ctx).bump .serverRequestHits rfl)
    refine ⟨_, hbump, ?_, fun _ => ?_⟩
    all_goals
      simp only [pushEnds, List.mem_cons, List.not_mem_nil, or_false] at hc
      rcases hc with rfl | rfl | rfl | rfl <;> decide
  | false => exact ⟨[], .rfl, by decide, fun _ => by decide⟩

theorem pushRecord_good (acquired : Bool) : (pushRecord acquired r ctx).1.Good := by
  have hstage : (pushRecord acquired r ctx).1.stage = .publish := by
    unfold pushRecord
    split <;> rfl
  exact ⟨by simp [hstage], by simp [hstage], by simp [hstage], by simp [hstage]⟩

theorem FramesGood.pushRecord (hT : FramesGood ctx.pending) (hr : r.Good) (hs : r.stage = .push)
    (acquired : Bool) : FramesGood (pushRecord acquired r ctx).2.pending := by
  unfold Drmid.pushRecord
  cases hrec : r.recognised with
  | true =>
    simp only [if_true, emitPendingPush_pending, increment_pending, increment_activeHalGeneration]
    split
    · exact hT
    · exact hT.pushTable r.task (hr.push hs) hrec
  | false => exact hT

theorem publishRecord_accounts (r : Recording) (ctx : KernelCounterContext) :
    Accounts True .reserved (publishRecord r ctx).1.phase ctx (publishRecord r ctx).2 :=
  ⟨_, (Bumped.rfl.bump _ rfl).congr rfl rfl, by decide, fun _ => by
    have : (publishRecord r ctx).1.phase = .inside := rfl
    rw [this]
    decide⟩

end

/-! ## Walks -/

/-- A step of a walk keeps what the next one relies on. -/
structure WalkKept (s : WalkStep) : Prop where
  good : ∀ w, s.stage = some w → w.Good
  frames : FramesGood s.ctx.pending

/-- Where the opening of a walk over `stream` leads: to its first command, or past the walk. -/
def CallStage.Opens (stream : StreamType) (stage : CallStage) : Prop :=
  stage = stream.done ∨
    ∃ cursor s, stage = .walk stream (.loop cursor s) ∧ cursor.left = kMaxParsedCommands

namespace WalkStage

section
variable (u : UserMemory) (next : Option Cursor) (r : Recording) {ctx : KernelCounterContext}

/-- The recording a reply parse returns to. -/
theorem good_reserve {s : ParserScratch} (hr : r.recognised = false)
    (hs : s.parcelFlags = r.scratch.parcelFlags) :
    Recording.Good { r with stage := .reserve, scratch := s } ∧
      Recording.phase { r with stage := .reserve, scratch := s } = .handling := by
  have hrec : Recording.recognised { r with stage := .reserve, scratch := s } = false := by
    simp only [Recording.recognised, hs] at hr ⊢
    exact hr
  refine ⟨⟨fun h => ?_, fun h => (by cases h), fun _ h => ?_, fun h => (by cases h)⟩, ?_⟩
  · rcases h with h | h <;> cases h
  · rw [hrec] at h
    cases h
  · simp [Recording.phase, hrec]

theorem stepReply_accounts (stage : ParseStage) (ctx : KernelCounterContext) :
    Accounts (WalkStage.reply next stage r).Good (stage.phase r.requestId)
      (phaseOf (stepReply u next stage r ctx).stage) ctx (stepReply u next stage r ctx).ctx := by
  have hb := body_books r.requestId r.requestFlags ⟨u, r.scratch, ctx⟩ stage
  unfold stepReply
  generalize stage.body r.requestId r.requestFlags ⟨u, r.scratch, ctx⟩ = x at hb ⊢
  cases x with
  | error e =>
    obtain ⟨label, st'⟩ := e
    obtain ⟨hflags, -, l, hbump, hl, hbal⟩ := hb
    refine ⟨l, hbump, hl, fun hgood => ?_⟩
    simp only [phaseOf, WalkStage.phase, (good_reserve r hgood.1 hflags).2]
    exact hbal hgood.2
  | ok st' =>
    obtain ⟨hflags, -, l, hbump, hl, hbal⟩ := hb
    unfold ParseStage.after at hbal
    cases hnext : stage.next with
    | none =>
      refine ⟨l, hbump, hl, fun hgood => ?_⟩
      simp only [phaseOf, WalkStage.phase, (good_reserve r hgood.1 hflags).2]
      rw [hnext] at hbal
      exact hbal hgood.2
    | some n =>
      refine ⟨l, hbump, hl, fun hgood => ?_⟩
      rw [hnext] at hbal
      exact hbal hgood.2

theorem stepReply_kept {stage : ParseStage} (hT : FramesGood ctx.pending)
    (hgood : (WalkStage.reply next stage r).Good) : WalkKept (stepReply u next stage r ctx) := by
  have hb := body_books r.requestId r.requestFlags ⟨u, r.scratch, ctx⟩ stage
  unfold stepReply
  generalize stage.body r.requestId r.requestFlags ⟨u, r.scratch, ctx⟩ = x at hb ⊢
  cases x with
  | error e =>
    obtain ⟨label, st'⟩ := e
    obtain ⟨hflags, hpending, -⟩ := hb
    refine ⟨fun w hw => ?_, hpending ▸ hT⟩
    cases hw
    exact (good_reserve r hgood.1 hflags).1
  | ok st' =>
    obtain ⟨hflags, hpending, -⟩ := hb
    cases hnext : stage.next with
    | none =>
      refine ⟨fun w hw => ?_, hpending ▸ hT⟩
      cases hw
      exact (good_reserve r hgood.1 hflags).1
    | some n =>
      refine ⟨fun w hw => ?_, hpending ▸ hT⟩
      cases hw
      refine ⟨?_, fun h => ?_⟩
      · have := hgood.1
        simp only [Recording.recognised, hflags] at this ⊢
        exact this
      · subst h
        cases stage <;> cases hnext

theorem good_resume (s : ParserScratch) (next : Option Cursor) :
    ∀ w, resume s next = some w → w.Good := by
  intro w hw
  cases next with
  | none => cases hw
  | some cursor =>
    cases hw
    trivial

theorem stepRecording_accounts (e : CallEvent) (ctx : KernelCounterContext) :
    Accounts (FramesGood ctx.pending ∧ r.Good) r.phase (phaseOf (stepRecording e next r ctx).stage)
      ctx (stepRecording e next r ctx).ctx := by
  unfold stepRecording stepRecord
  cases hs : r.stage with
  | pop =>
    have hphase : r.phase = .handling := by simp only [Recording.phase, hs]
    rw [hphase]
    exact (popRecord_accounts e.acquired r ctx).weaken And.left
  | parse =>
    have hphase : r.phase = ParseStage.capture.phase r.requestId := by
      simp only [Recording.phase, hs]
    rw [hphase]
    exact .still .rfl
  | reserve => exact (reserveRecord_accounts r ctx hs).weaken And.right
  | push => exact (pushRecord_accounts e.acquired r ctx hs).weaken fun _ => trivial
  | publish =>
    have hphase : r.phase = .reserved := by simp only [Recording.phase, hs]
    rw [hphase]
    exact (publishRecord_accounts r ctx).weaken fun _ => trivial
  | done =>
    have hphase : r.phase = .inside := by simp only [Recording.phase, hs]
    rw [hphase, phaseOf_resume]
    exact .still .rfl

theorem stepRecording_kept {e : CallEvent} (hT : FramesGood ctx.pending) (hr : r.Good)
    (hle : ctx.eventWriteIndex ≤ (stepRecording e next r ctx).ctx.eventWriteIndex) :
    WalkKept (stepRecording e next r ctx) := by
  unfold stepRecording stepRecord at hle ⊢
  cases hs : r.stage with
  | pop =>
    refine ⟨fun w hw => ?_, hT.pop r.task.kaddr e.acquired r.scratch⟩
    cases hw
    exact popRecord_good hT hr hs e.acquired
  | parse =>
    refine ⟨fun w hw => ?_, hT⟩
    cases hw
    exact ⟨hr.pop (.inr hs), fun _ => hr.parse hs⟩
  | reserve =>
    rw [hs] at hle
    refine ⟨fun w hw => ?_, hT⟩
    cases hw
    exact reserveRecord_good hle
  | push =>
    refine ⟨fun w hw => ?_, hT.pushRecord hr hs e.acquired⟩
    cases hw
    exact pushRecord_good e.acquired
  | publish =>
    refine ⟨fun w hw => ?_, hT⟩
    cases hw
    exact ⟨by simp, by simp, by simp, by simp⟩
  | done => exact ⟨good_resume r.scratch next, hT⟩

end

/-! ### Framing -/

/-- The counters of a stream that no law is about. -/
theorem unbooked (stream : StreamType) :
    ∀ c ∈ [stream.counters.stream, stream.counters.command, stream.counters.boundary,
      stream.counters.copyFault, stream.counters.capped],
      bookGauges.contains (.counter c) = false := by
  cases stream <;> decide

/-- A transaction command at hand. -/
theorem transaction_accounts (stream : StreamType) {ctx ctx' : KernelCounterContext}
    (h : Bumped ctx ctx' []) : Accounts True .inside .handling ctx
      (ctx'.emitCounterIncrement stream.counters.transaction) := by
  cases stream with
  | bc => exact ⟨_, h.bump .bcTransactionCommands rfl, by decide, fun _ => by decide⟩
  | br => exact ⟨_, h.bump .brTransactionCommands rfl, by decide, fun _ => by decide⟩

theorem start_spec (stream : StreamType) (userBuffer consumed : UInt64) (s : ParserScratch)
    {ctx ctx' : KernelCounterContext} (h : Bumped ctx ctx' []) :
    let x := start stream userBuffer consumed s ctx'
    Bumped ctx x.2 [] ∧ x.2.pending = ctx'.pending ∧
      CallStage.Opens stream (.ofWalk stream x.1) := by
  unfold start
  split
  · exact ⟨h, rfl, .inl rfl⟩
  · split
    · exact ⟨h.skip _ (unbooked stream _ (by simp)), rfl, .inl rfl⟩
    · split
      · exact ⟨h.skip _ (unbooked stream _ (by simp)), rfl, .inl rfl⟩
      · exact ⟨h.skip _ (unbooked stream _ (by simp)), rfl, .inr ⟨_, _, rfl, rfl⟩⟩

theorem stepLoop_spec (stream : StreamType) (u : UserMemory) (cursor : Cursor)
    (s : ParserScratch) (ctx : KernelCounterContext) :
    let x := stepLoop stream u cursor s ctx
    Accounts True .inside (phaseOf x.1) ctx x.2 ∧ (∀ w, x.1 = some w → w.Good) ∧
      x.2.pending = ctx.pending := by
  have hend : ∀ c ∈ [stream.counters.stream, stream.counters.command, stream.counters.boundary,
      stream.counters.copyFault, stream.counters.capped],
      Bumped ctx (ctx.emitCounterIncrement c) [] :=
    fun c hc => Bumped.rfl.skip c (unbooked stream c hc)
  have hstop : ∀ w : WalkStage, none = some w → w.Good := fun w hw => (by cases hw)
  unfold stepLoop
  split
  · exact ⟨.still (hend _ (by simp)), hstop, rfl⟩
  · split
    · exact ⟨.still (hend _ (by simp)), hstop, rfl⟩
    · split
      · exact ⟨.still (hend _ (by simp)), hstop, rfl⟩
      · dsimp only
        split
        · exact ⟨.still (hend _ (by simp)), hstop, rfl⟩
        · split
          · exact ⟨.still (hend _ (by simp)), hstop, rfl⟩
          · split
            · refine ⟨transaction_accounts stream (hend _ (by simp)), fun w hw => ?_, rfl⟩
              cases hw
              trivial
            · simp only [phaseOf_resume]
              exact ⟨.still (hend _ (by simp)), good_resume _ _, rfl⟩

theorem stepMetadata_spec (u : UserMemory) (next : Option Cursor) (command : UInt32)
    (addr : UInt64) (s : ParserScratch) (ctx : KernelCounterContext) :
    let x := stepMetadata u next command addr s ctx
    Accounts True .handling (phaseOf x.1) ctx x.2 ∧ (∀ w, x.1 = some w → w.Good) ∧
      x.2.pending = ctx.pending := by
  unfold stepMetadata
  split
  · simp only [phaseOf_resume]
    exact ⟨⟨_, Bumped.rfl.bump _ rfl, by decide, fun _ => by decide⟩, good_resume _ _, rfl⟩
  · refine ⟨.still .rfl, fun w hw => ?_, rfl⟩
    cases hw
    trivial

theorem beginRecord_accounts (t : TaskIdentity) (stream : StreamType) (command : UInt32)
    (u : UserMemory) (s : ParserScratch) (ctx : KernelCounterContext) :
    Accounts True .handling (beginRecord t stream command u s ctx).1.phase ctx
      (beginRecord t stream command u s ctx).2 := by
  obtain ⟨-, hbump, hphase⟩ := beginRecord_spec t stream command u s ctx
  rw [hphase]
  refine ⟨_, hbump, ?_, fun _ => ?_⟩
  · split <;> decide
  · split <;> decide

/-! ### Any step -/

section
variable (t : TaskIdentity) (stream : StreamType) (e : CallEvent) {ctx : KernelCounterContext}
  {w : WalkStage}

/-- **The books of a walk.** -/
theorem step_accounts (ctx : KernelCounterContext) (w : WalkStage) :
    Accounts (FramesGood ctx.pending ∧ w.Good) w.phase (phaseOf (w.step t stream e ctx).stage) ctx
      (w.step t stream e ctx).ctx := by
  cases w with
  | loop cursor s =>
    exact (stepLoop_spec stream e.user cursor s ctx).1.weaken fun _ => trivial
  | metadata next command addr s =>
    exact (stepMetadata_spec e.user next command addr s ctx).1.weaken fun _ => trivial
  | capture next command s =>
    exact (beginRecord_accounts t stream command e.user s ctx).weaken fun _ => trivial
  | record next r => exact stepRecording_accounts next r e ctx
  | reply next stage r => exact (stepReply_accounts e.user next r stage ctx).weaken And.right

theorem step_kept (hT : FramesGood ctx.pending) (hw : w.Good)
    (hle : ctx.eventWriteIndex ≤ (w.step t stream e ctx).ctx.eventWriteIndex) :
    WalkKept (w.step t stream e ctx) := by
  cases w with
  | loop cursor s =>
    obtain ⟨-, hgood, hpending⟩ := stepLoop_spec stream e.user cursor s ctx
    exact ⟨hgood, hpending ▸ hT⟩
  | metadata next command addr s =>
    obtain ⟨-, hgood, hpending⟩ := stepMetadata_spec e.user next command addr s ctx
    exact ⟨hgood, hpending ▸ hT⟩
  | capture next command s =>
    refine ⟨fun w hw => ?_, ?_⟩
    · cases hw
      exact (beginRecord_spec t stream command e.user s ctx).1
    · have hpending : (beginRecord t stream command e.user s ctx).2.pending = ctx.pending := by
        unfold beginRecord
        cases stream with
        | bc => rfl
        | br => exact (emitCaptureParcelPrefix_frame .br command e.user _ ctx).2.pending
      exact hpending ▸ hT
  | record next r => exact stepRecording_kept next r hT hw hle
  | reply next stage r => exact stepReply_kept e.user next r hT hw

end
end WalkStage

/-! ## Calls -/

theorem CallStage.Opens.between {stream : StreamType} {stage : CallStage}
    (h : stage.Opens stream) : stage.between = true := by
  rcases h with rfl | ⟨cursor, s, rfl, -⟩
  · cases stream <;> rfl
  · rfl

theorem ofWalk_between (stream : StreamType) (w : Option WalkStage) :
    (CallStage.ofWalk stream w).between = true := by
  cases w with
  | some w => rfl
  | none => cases stream <;> rfl

namespace HookCall

/-- From label `tracked` on, what is before the original leads there, through a walk or not. -/
theorem stepHeader_spec (c : HookCall) (e : CallEvent) (ctx : KernelCounterContext) :
    Bumped ctx (c.stepHeader e ctx).2 [] ∧ (c.stepHeader e ctx).2.pending = ctx.pending ∧
      ∃ stage h, (c.stepHeader e ctx).1 = { c with stage := stage, header := h } ∧
        stage.Opens .bc := by
  unfold stepHeader
  split
  · exact ⟨.rfl, rfl, _, _, rfl, .inl rfl⟩
  · dsimp only
    split
    · exact ⟨(Bumped.rfl.skip _ rfl).skip _ rfl, rfl, _, _, rfl, .inl rfl⟩
    · split
      · exact ⟨((Bumped.rfl.skip _ rfl).skip _ rfl).skip _ rfl, rfl, _, _, rfl, .inl rfl⟩
      · rename_i h _ _
        obtain ⟨hbump, hpending, hopens⟩ := WalkStage.start_spec .bc
          (h.writeBuffer + h.writeConsumed) (h.writeSize - h.writeConsumed) e.scratch
          ((@Bumped.rfl ctx).skip .bwrCalls rfl |>.skip .preHeaderOk rfl)
        exact ⟨hbump, hpending, _, _, rfl, hopens⟩

theorem stepPostHeader_spec (c : HookCall) (e : CallEvent) (ctx : KernelCounterContext) :
    Bumped ctx (c.stepPostHeader e ctx).2 [] ∧ (c.stepPostHeader e ctx).2.pending = ctx.pending ∧
      ∃ stage, (c.stepPostHeader e ctx).1 = { c with stage := stage } ∧ stage.Opens .br := by
  unfold stepPostHeader
  split
  · exact ⟨.rfl, rfl, _, rfl, .inl rfl⟩
  · split
    · exact ⟨Bumped.rfl.skip _ rfl, rfl, _, rfl, .inl rfl⟩
    · rename_i post _
      dsimp only
      split
      · obtain ⟨hbump, hpending, hopens⟩ := WalkStage.start_spec .br
          post.readBuffer post.readConsumed e.scratch
          ((@Bumped.rfl ctx).skip .postHeaderOk rfl)
        exact ⟨hbump, hpending, _, rfl, hopens⟩
      · exact ⟨(Bumped.rfl.skip _ rfl).skip _ rfl, rfl, _, rfl, .inl rfl⟩

/-- The one step of a call that raises `active_calls` brings it between, and the one that lowers it
takes it out. -/
theorem step_active (installerTgid : UInt32) (c : HookCall) (e : CallEvent)
    {ctx : KernelCounterContext} {n : Nat}
    (h : ctx.counter .activeCalls = UInt64.ofNat (n + c.between.toNat)) :
    let s := c.step installerTgid ctx e
    s.ctx.counter .activeCalls = UInt64.ofNat (n + s.call.between.toNat) := by
  unfold HookCall.step
  simp only [between] at h ⊢
  cases hs : c.stage with
  | gate =>
    rw [hs] at h
    dsimp only
    split <;> exact h
  | bypass | original => simpa [CallStage.between, hs, callOriginal] using h
  | hit | pre | post => simpa [CallStage.between, hs, emitCounterIncrement] using h
  | enter =>
    simp only [CallStage.between, hs] at h
    simp [CallStage.between, emitCounterIncrement, h, UInt64.ofNat_add]
  | header =>
    obtain ⟨hbump, -, stage, hd, hc, hopens⟩ := c.stepHeader_spec e ctx
    rw [hs] at h
    simp only [hc, hopens.between, hbump.activeCalls (by simp)]
    exact h
  | walk stream w =>
    obtain ⟨l, hbump, hl, -⟩ := w.step_accounts c.task stream e ctx
    rw [hs] at h
    simp only [ofWalk_between, hbump.activeCalls hl.1]
    exact h
  | postHeader =>
    obtain ⟨hbump, -, stage, hc, hopens⟩ := c.stepPostHeader_spec e ctx
    rw [hs] at h
    simp only [hc, hopens.between, hbump.activeCalls (by simp)]
    exact h
  | exit =>
    simp only [CallStage.between, hs] at h
    simp [CallStage.between, emitAtomicDecrement, h, UInt64.ofNat_add]
  | returned => simpa [CallStage.between, hs] using h

end HookCall

/-! ## The daemon -/

/-- One kernel operation of a publish call writes an index, a slot or the switch counter. -/
theorem Register.advance_keeps {α β : Type} {r : Register α} {f : KernelCounterContext → β}
    (hindex : ∀ ctx i, f (r.setIndex ctx i) = f ctx)
    (hslots : ∀ ctx s, f (r.setSlots ctx s) = f ctx)
    (hcounter : ∀ (ctx : KernelCounterContext) x,
      f { ctx with counter := Function.update ctx.counter r.switches x } = f ctx)
    (k : KernelFaults α) (ctx : KernelCounterContext) (p : Publishing α) :
    f (r.advance k ctx p).2 = f ctx := by
  cases p with
  | snapshot session valid next =>
    simp only [advance]
    split <;> rfl
  | slot plan =>
    simp only [advance, slotStage]
    split
    · exact hslots _ _
    · exact hslots _ _
  | switches plan =>
    simp only [advance, switchesStage]
    split
    · exact hcounter _ _
    · exact hcounter _ _
  | flip plan =>
    simp only [advance, flipStage]
    split
    · rfl
    · exact hindex _ _
  | returned err slot => rfl

/-- The daemon writes no word that the handler counts in and no pending slot. -/
theorem DaemonWrite.exec_frame (d : DaemonWrite) (ctx : KernelCounterContext) :
    (d.exec ctx).pending = ctx.pending ∧ (d.exec ctx).eventWriteIndex = ctx.eventWriteIndex ∧
      ∀ c ∉ daemonCounters, (d.exec ctx).counter c = ctx.counter c := by
  cases d with
  | config k p =>
    refine ⟨configRegister.advance_keeps (fun _ _ => rfl) (fun _ _ => rfl) (fun _ _ => rfl) k ctx p,
      configRegister.advance_keeps (fun _ _ => rfl) (fun _ _ => rfl) (fun _ _ => rfl) k ctx p, ?_⟩
    intro c hc
    have hne : c ≠ configRegister.switches := by
      rintro rfl
      exact hc (by decide)
    exact configRegister.advance_keeps (f := fun ctx => ctx.counter c) (fun _ _ => rfl)
      (fun _ _ => rfl) (fun _ _ => Function.update_of_ne hne _ _) k ctx p
  | identities k p =>
    refine ⟨identityRegister.advance_keeps (fun _ _ => rfl) (fun _ _ => rfl) (fun _ _ => rfl) k ctx p,
      identityRegister.advance_keeps (fun _ _ => rfl) (fun _ _ => rfl) (fun _ _ => rfl) k ctx p, ?_⟩
    intro c hc
    have hne : c ≠ identityRegister.switches := by
      rintro rfl
      exact hc (by decide)
    exact identityRegister.advance_keeps (f := fun ctx => ctx.counter c) (fun _ _ => rfl)
      (fun _ _ => rfl) (fun _ _ => Function.update_of_ne hne _ _) k ctx p
  | counter d x =>
    refine ⟨rfl, rfl, fun c hc => Function.update_of_ne ?_ _ _⟩
    rintro rfl
    exact hc d.2

/-- **`active_calls` counts.** In every interleaving it is the number of calls between their
increment and their decrement. -/
theorem Hook.run_active (installerTgid : UInt32) {ctx : KernelCounterContext}
    (h0 : ctx.counter .activeCalls = 0) (ls : List HookLabel) :
    ((init ctx).run installerTgid ls).shared.counter .activeCalls =
      UInt64.ofNat (((init ctx).run installerTgid ls).procs.countP HookCall.between) := by
  let L (ctx : KernelCounterContext) (n : Nat) : Prop :=
    ctx.counter .activeCalls = UInt64.ofNat n
  have hinv : L ((init ctx).run installerTgid ls).shared
      (((init ctx).run installerTgid ls).total fun c => c.between.toNat) := by
    refine Lib.run_induct (s := init ctx) (P := fun S : Hook =>
      L S.shared (S.total fun c => c.between.toNat)) h0 fun S l hS => ?_
    refine Lib.Pool.total_step (M := hookMachine installerTgid) l hS (fun _ => rfl) ?_ ?_
    · intro i e c n _ _ hn
      exact c.step_active installerTgid e hn
    · intro d n hn
      exact ((d.exec_frame S.shared).2.2 .activeCalls (by decide)).trans hn
  rwa [Lib.Pool.total_toNat] at hinv

end Drmid
