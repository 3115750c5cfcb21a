import Drmid.Hook.System
import Drmid.Hook.Proof.PendingMap
import Drmid.Hook.Proof.PendingTable
import Drmid.Hook.Proof.Reply

/-!
# What one step of the system can do

`Sys.Effect` lists the ways a state can change, with the pending table read as the map of stacks
and the context reduced to what pairing depends on: the table, the ticket counter and the active
HAL identity generation. `Sys.step_effect` says that every step is one of them. Every invariant of
the system is proved from this list and never unfolds the handler.
-/

namespace Drmid

/-! ## Scratch words a pending operation leaves alone -/

theorem emitPendingPop_scratch (task : UInt64) (acquired terminal : Bool) (s : ParserScratch)
    (ctx : KernelCounterContext) :
    ∃ g, (emitPendingPop task acquired terminal s ctx).scratch =
      { s with halIdentityGeneration := g } := by
  unfold emitPendingPop popMiss
  cases acquired with
  | false => exact ⟨_, rfl⟩
  | true =>
    simp only [Bool.not_true, Bool.false_eq_true, if_false]
    split
    · exact ⟨_, rfl⟩
    · split
      · exact ⟨_, rfl⟩
      · split
        · split <;> exact ⟨_, rfl⟩
        · exact ⟨_, rfl⟩

theorem emitPendingPush_scratch (t : TaskIdentity) (acquired : Bool) (id : UInt64)
    (s : ParserScratch) (ctx : KernelCounterContext) :
    ∃ g, (emitPendingPush t acquired id s ctx).1 = { s with halIdentityGeneration := g } := by
  unfold emitPendingPush
  cases s.transaction.oneWay <;> cases acquired <;> simp only [Bool.not_true, Bool.not_false,
    Bool.false_eq_true, if_true, if_false]
  case false.true =>
    cases (pushTarget ctx.pending t).collides <;> simp only [Bool.false_eq_true, if_true,
      if_false] <;> split <;> exact ⟨_, rfl⟩
  all_goals exact ⟨_, rfl⟩

namespace Sys

/-- The map of stacks in the shared table. -/
def map (S : Sys) : PendingMap := pendingMap S.ctx.pending

/-- What a pop did: nothing for want of the lock, or an abstract pop. -/
def Popped (S : Sys) (task : UInt64) (acquired : Bool) (out : UInt64 × UInt32)
    (M' : PendingMap) : Prop :=
  (acquired = false ∧ out = (0, 0) ∧ M' = S.map) ∨
    (acquired = true ∧ PendingMap.Pop S.map task S.ctx.activeHalGeneration out M')

/-- What the push stage did: nothing, or an abstract push of a recognised synchronous request. -/
def Pushed (S : Sys) (r : Recording) (acquired : Bool) (M' : PendingMap) : Prop :=
  ((r.recognised = false ∨ r.scratch.transaction.oneWay = true ∨ acquired = false) ∧ M' = S.map) ∨
    (r.recognised = true ∧ r.scratch.transaction.oneWay = false ∧ acquired = true ∧
      PendingMap.Push S.map r.task
        (pendingFrameOf r.eventId S.ctx.activeHalGeneration r.scratch) M')

/-- The recording after its reserve stage. -/
def reserved (S : Sys) (r : Recording) (slot : Fin 256) : Recording :=
  { r with
    stage := if isRequest r.stream r.command then .push else .publish
    eventId := S.ctx.eventWriteIndex + 1
    slot := slot }

/-- The ways a state changes. -/
inductive Effect (S : Sys) : Label → Sys → Prop
  | idle (l : Label) : Effect S l S
  | begin {t : TaskIdentity} {stream : StreamType} {command : UInt32} {u : UserMemory}
      {s : ParserScratch} {r : Recording} {ctx : KernelCounterContext}
      (hfree : S.thread t.kaddr = none) (ht : t.kaddr ≠ 0)
      (hcmd : command ∈ stream.transactionCommands) (htask : r.task = t)
      (hstream : r.stream = stream) (hcommand : r.command = command) (hid : r.requestId = 0)
      (hstage : r.stage = if isReply stream command then .pop else .reserve)
      (htd : r.scratch.transaction = s.transaction) (hctx : S.ctx.SameButTelemetry ctx) :
      Effect S (.begin t stream command u s)
        { S with ctx := ctx, thread := Function.update S.thread t.kaddr (some ⟨r, .empty⟩) }
  | pop {task : UInt64} {acquired : Bool} {u : UserMemory} {th : Thread} {g id : UInt64}
      {fl : UInt32} {ctx : KernelCounterContext} (hth : S.moves task th .pop)
      (hinv : PendingInv ctx.pending)
      (hpop : S.Popped task acquired (id, fl) (pendingMap ctx.pending))
      (hctx : ∃ c T, ctx = { S.ctx with counter := c, pending := T }) :
      Effect S (.advance task acquired u)
        { S with
          ctx := ctx
          thread := Function.update S.thread task (some ⟨{ th.recording with
            stage := .parse
            scratch := { th.recording.scratch with halIdentityGeneration := g }
            requestId := id
            requestFlags := fl }, S.popNote task acquired⟩)
          nest := Function.update S.nest task (S.nest task).tail }
  | parse {task : UInt64} {acquired : Bool} {u : UserMemory} {th : Thread} {st : ReplyState}
      (hth : S.moves task th .parse)
      (hst : st = emitParseHalCorrelatedReply th.recording.requestId th.recording.requestFlags
        ⟨u, th.recording.scratch, S.ctx⟩) :
      Effect S (.advance task acquired u)
        { S with
          ctx := st.ctx
          thread := Function.update S.thread task
            (some ⟨{ th.recording with stage := .reserve, scratch := st.scratch },
              { th.note with user := some (u, st.user) }⟩) }
  | reserve {task : UInt64} {acquired : Bool} {u : UserMemory} {th : Thread} {slot : Fin 256}
      {events : Fin 256 → BinderTransactionEvent} (hth : S.moves task th .reserve) :
      Effect S (.advance task acquired u)
        { S with
          ctx := { S.ctx with eventWriteIndex := S.ctx.eventWriteIndex + 1, events := events }
          thread := Function.update S.thread task (some ⟨S.reserved th.recording slot, th.note⟩)
          log := S.log ++ [⟨(S.reserved th.recording slot).event, th.note⟩] }
  | push {task : UInt64} {acquired : Bool} {u : UserMemory} {th : Thread} {s : ParserScratch}
      {ctx : KernelCounterContext} (hth : S.moves task th .push)
      (hs : s.transaction = th.recording.scratch.transaction) (hinv : PendingInv ctx.pending)
      (hpush : S.Pushed th.recording acquired (pendingMap ctx.pending))
      (hctx : ∃ c T, ctx = { S.ctx with counter := c, pending := T }) :
      Effect S (.advance task acquired u)
        { S with
          ctx := ctx
          thread := Function.update S.thread task
            (some ⟨{ th.recording with stage := .publish, scratch := s }, th.note⟩)
          nest := opens S.nest th.recording }
  | finish {task : UInt64} {acquired : Bool} {u : UserMemory} {th : Thread}
      {c : Counter → UInt64} {events : Fin 256 → BinderTransactionEvent}
      (hth : S.thread task = some th) :
      Effect S (.advance task acquired u)
        { S with
          ctx := { S.ctx with counter := c, events := events }
          thread := Function.update S.thread task none }
  | publishHal {active : UInt32} {slots : Fin 2 → HalIdentitySet} :
      Effect S (.publishHal active slots)
        { S with ctx := { S.ctx with activeHalIdentitySlot := active, halIdentitySlots := slots } }
  | publishConfig {active : UInt32} {slots : Fin 2 → RuntimeConfigSlot} :
      Effect S (.publishConfig active slots)
        { S with ctx := { S.ctx with activeConfigSlot := active, configSlots := slots } }

/-- What `step_effect` needs of the state: the table is in order and threads run under their own
non-null task pointer. -/
structure Ordered (S : Sys) : Prop where
  table : PendingInv S.ctx.pending
  thread : ∀ u th, S.thread u = some th → u ≠ 0 ∧ th.recording.task.kaddr = u

section
variable {S : Sys} {task : UInt64} {th : Thread}

theorem begin_effect (t : TaskIdentity) (stream : StreamType) (command : UInt32) (u : UserMemory)
    (s : ParserScratch) :
    Effect S (.begin t stream command u s) (S.step (.begin t stream command u s)) := by
  simp only [step]
  split
  · rename_i h
    obtain ⟨hfree, ht, hcmd⟩ := h
    have hcap := emitCaptureParcelPrefix_frame stream command u
      s.emitResetTransactionParseScratch S.ctx
    have hfree' : S.thread t.kaddr = none := Option.isNone_iff_eq_none.1 hfree
    unfold beginRecord
    cases stream with
    | bc => exact .begin hfree' ht hcmd rfl rfl rfl rfl rfl rfl .rfl
    | br => exact .begin hfree' ht hcmd rfl rfl rfl rfl rfl hcap.1 hcap.2
  · exact .idle _

theorem pop_effect (hS : S.Ordered) (hth : S.moves task th .pop) (acquired : Bool)
    (u : UserMemory) :
    Effect S (.advance task acquired u) (S.advance task th acquired u) := by
  obtain ⟨hu, hkaddr⟩ := hS.thread task th hth.1
  obtain ⟨g, hscratch⟩ := emitPendingPop_scratch task acquired false th.recording.scratch S.ctx
  obtain ⟨c, T, hctx⟩ := emitPendingPop_frame task acquired false th.recording.scratch S.ctx
  have hpop :
      let out := emitPendingPop task acquired false th.recording.scratch S.ctx
      PendingInv out.ctx.pending ∧
        S.Popped task acquired (out.requestId, out.flags) (pendingMap out.ctx.pending) := by
    cases acquired with
    | false => exact ⟨hS.table, .inl ⟨rfl, rfl, rfl⟩⟩
    | true =>
      obtain ⟨hinv, h⟩ := emitPendingPop_refines false th.recording.scratch hS.table hu
      exact ⟨hinv, .inr ⟨rfl, h⟩⟩
  simp only [advance, stepRecord, hth.2, popRecord, hkaddr, hscratch]
  exact .pop hth hpop.1 hpop.2 ⟨c, T, hctx⟩

theorem push_effect (hS : S.Ordered) (hth : S.moves task th .push) (acquired : Bool)
    (u : UserMemory) :
    Effect S (.advance task acquired u) (S.advance task th acquired u) := by
  obtain ⟨hu, hkaddr⟩ := hS.thread task th hth.1
  simp only [advance, stepRecord, hth.2, pushRecord]
  cases hrec : th.recording.recognised with
  | false =>
    exact .push hth rfl hS.table (.inl ⟨.inl hrec, rfl⟩) ⟨_, _, rfl⟩
  | true =>
    simp only [if_true]
    obtain ⟨g, hscratch⟩ := emitPendingPush_scratch th.recording.task acquired
      th.recording.eventId th.recording.scratch (S.ctx.emitCounterIncrement .serverRequestHits)
    obtain ⟨c, T, hctx⟩ := emitPendingPush_frame th.recording.task acquired th.recording.eventId
      th.recording.scratch (S.ctx.emitCounterIncrement .serverRequestHits)
    have hp := emitPendingPush_pending th.recording.task acquired th.recording.eventId
      th.recording.scratch (S.ctx.emitCounterIncrement .serverRequestHits)
    simp only [KernelCounterContext.increment_pending,
      KernelCounterContext.increment_activeHalGeneration] at hp
    refine .push hth (by rw [hscratch]) ?_ ?_ ⟨c, T, hctx⟩
    all_goals
      rw [hp]
      cases how : th.recording.scratch.transaction.oneWay <;> cases acquired <;>
        simp only [Bool.or_true, Bool.or_false, Bool.not_true, Bool.not_false, Bool.false_eq_true,
          if_true, if_false]
    case refine_1.false.true => exact (pushTable_refines hS.table (hkaddr ▸ hu)).1
    case refine_2.false.true =>
      exact .inr ⟨hrec, how, rfl, (pushTable_refines hS.table (hkaddr ▸ hu)).2⟩
    case refine_2.false.false => exact .inl ⟨.inr (.inr rfl), rfl⟩
    case refine_2.true.false => exact .inl ⟨.inr (.inl how), rfl⟩
    case refine_2.true.true => exact .inl ⟨.inr (.inl how), rfl⟩
    all_goals exact hS.table

/-- **Every step is one of the effects.** -/
theorem step_effect (hS : S.Ordered) (l : Label) : Effect S l (S.step l) := by
  cases l with
  | begin t stream command u s => exact begin_effect t stream command u s
  | publishHal active slots => exact .publishHal
  | publishConfig active slots => exact .publishConfig
  | advance task acquired u =>
    simp only [step]
    cases hth : S.thread task with
    | none => exact .idle _
    | some th =>
      dsimp only
      cases hstage : th.recording.stage with
      | pop => exact pop_effect hS ⟨hth, hstage⟩ acquired u
      | push => exact push_effect hS ⟨hth, hstage⟩ acquired u
      | parse =>
        simp only [advance, stepRecord, hstage, parseRecord]
        exact .parse ⟨hth, hstage⟩ rfl
      | reserve =>
        simp only [advance, stepRecord, hstage, reserveRecord, emitReserveEvent]
        exact .reserve ⟨hth, hstage⟩
      | publish =>
        simp only [advance, stepRecord, hstage, publishRecord]
        exact .finish hth
      | done =>
        simp only [advance, stepRecord, hstage]
        exact .finish hth

theorem thread_self {S' : Sys} {x : Option Thread}
    (h : S'.thread = Function.update S.thread task x) : S'.thread task = x := by
  rw [h, Function.update_self]

theorem thread_other {S' : Sys} {x : Option Thread}
    (h : S'.thread = Function.update S.thread task x) :
    ∀ v, v ≠ task → S'.thread v = S.thread v := fun v hv => by
  rw [h, Function.update_of_ne hv]

/-- What every thread satisfies, after `task` got the recording `x` or left. -/
theorem threads_update {S' : Sys} {x : Option Thread} {Q : UInt64 → Thread → Prop}
    (hthread : S'.thread = Function.update S.thread task x)
    (hS : ∀ u th, S.thread u = some th → Q u th) (hx : ∀ th, x = some th → Q task th) :
    ∀ u th, S'.thread u = some th → Q u th := by
  intro u th hth
  by_cases hu : u = task
  · subst hu
    exact hx th ((thread_self hthread).symm.trans hth)
  · exact hS u th (thread_other hthread u hu ▸ hth)

/-- No step puts the table or the threads out of order. -/
theorem Ordered.step (hS : S.Ordered) (l : Label) : (S.step l).Ordered := by
  have heff := step_effect hS l
  generalize S.step l = S' at heff ⊢
  cases heff with
  | idle => exact hS
  | begin hfree ht hcmd htask hstream hcommand hid hstage htd hctx =>
    refine ⟨by simpa only [hctx.pending] using hS.table, threads_update rfl hS.thread ?_⟩
    rintro th ⟨⟩
    exact ⟨ht, congrArg TaskIdentity.kaddr htask⟩
  | pop hth hinv hpop hctx =>
    refine ⟨hinv, threads_update rfl hS.thread ?_⟩
    rintro th' ⟨⟩
    exact (hS.thread _ _ hth.1 :)
  | parse hth hst =>
    subst hst
    refine ⟨?_, threads_update rfl hS.thread ?_⟩
    · rw [(emitParseHalCorrelatedReply_framed _ _ _).ctx.pending]
      exact hS.table
    · rintro th' ⟨⟩
      exact (hS.thread _ _ hth.1 :)
  | reserve hth =>
    refine ⟨hS.table, threads_update rfl hS.thread ?_⟩
    rintro th' ⟨⟩
    exact (hS.thread _ _ hth.1 :)
  | push hth hs hinv hpush hctx =>
    refine ⟨hinv, threads_update rfl hS.thread ?_⟩
    rintro th' ⟨⟩
    exact (hS.thread _ _ hth.1 :)
  | finish hth => exact ⟨hS.table, threads_update rfl hS.thread (by simp)⟩
  | publishHal | publishConfig => exact ⟨hS.table, hS.thread⟩

theorem Ordered.init {ctx : KernelCounterContext} (h : ctx.pending = emptyPending) :
    (Sys.init ctx).Ordered := by
  refine ⟨?_, fun u th hth => by cases hth⟩
  change PendingInv ctx.pending
  exact h ▸ emptyPending_inv

end
end Sys
end Drmid
