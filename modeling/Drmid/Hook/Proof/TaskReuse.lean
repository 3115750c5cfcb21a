import Drmid.Hook.Proof.Correlation

/-!
# Reuse of a task pointer

A `task_struct` address may come back as another thread, with another pid or tgid. A push compares
all three identity fields, so every frame of a stack was pushed by the thread whose pid and tgid the
slot carries (`Sys.Reuse.frames`). A pop compares the task pointer only. Hence a pop returns a frame
of its own thread whenever the slot it finds carries its own pid and tgid (`Sys.ownStack`):
`pop_returns_own_request`. Otherwise it may return a dead thread's: `pop_returns_dead_request`.
-/

namespace Drmid
namespace Sys

/-- Request `r` was recorded, and pushed, by thread `t`. -/
def SentBy (S : Sys) (r : UInt64) (t : TaskIdentity) : Prop :=
  ∃ q ∈ S.log, q.event.eventId = r ∧ q.event.taskKaddr = t.kaddr ∧ q.event.pid = t.pid ∧
    q.event.tgid = t.tgid

/-- The slot a pop under the lock finds for its task pointer, if any, carries the popping thread's
pid and tgid. -/
def ownStack (S : Sys) : Label → Bool
  | .advance task acquired _ =>
    match S.thread task with
    | none => true
    | some th =>
      match th.recording.stage, S.map task with
      | .pop, some st =>
        !acquired || (st.pid == th.recording.task.pid && st.tgid == th.recording.task.tgid)
      | _, _ => true
  | _ => true

theorem ownStack_pop {S : Sys} {task : UInt64} {u : UserMemory} {th : Thread} {st : PendingStack}
    (h : S.ownStack (.advance task true u) = true) (hth : S.moves task th .pop)
    (hM : S.map task = some st) : st.Owner th.recording.task := by
  simpa [ownStack, hth.1, hth.2, hM, PendingStack.Owner] using h

/-- The request id a thread got from its pop is its own. -/
def HeldOk (S : Sys) (th : Thread) : Prop :=
  th.recording.stage = .parse ∨ th.recording.stage = .reserve →
    th.recording.requestId ≠ 0 → S.SentBy th.recording.requestId th.recording.task

/-- The frames of a slot were pushed by the thread the slot names, and ids in the registers and
events of a thread are its own. -/
structure Reuse (S : Sys) : Prop extends Inv S where
  frames : ∀ u pid tgid f, S.map.HasFrame u pid tgid f → S.SentBy f.requestEventId ⟨u, pid, tgid⟩
  held : ∀ u th, S.thread u = some th → HeldOk S th
  replies : ∀ e ∈ S.log, e.event.correlatedRequestId ≠ 0 →
    S.SentBy e.event.correlatedRequestId ⟨e.event.taskKaddr, e.event.pid, e.event.tgid⟩

section
variable {S S' : Sys} {task : UInt64}

theorem SentBy.mono {r : UInt64} {t : TaskIdentity} (h : S.SentBy r t)
    (hlog : ∀ e ∈ S.log, e ∈ S'.log) : S'.SentBy r t := by
  obtain ⟨q, hq, hrest⟩ := h
  exact ⟨q, hlog q hq, hrest⟩

/-- The ids threads hold are kept while the log grows. -/
theorem Reuse.held_mono (hS : S.Reuse) (hlog : ∀ e ∈ S.log, e ∈ S'.log) :
    ∀ u th, S.thread u = some th → HeldOk S' th :=
  fun u th hth hstage h0 => (hS.held u th hth hstage h0).mono hlog

/-- **The step lemma** of runs in which pops find stacks of their own thread. -/
theorem Reuse.step (hS : S.Reuse) {l : Label} (hleft : S.TicketsLeft l)
    (hown : S.ownStack l = true) : (S.step l).Reuse := by
  have hinv := hS.toInv.step hleft
  have heff := step_effect hS.toOrdered l
  generalize S.step l = S' at heff hinv ⊢
  cases heff with
  | idle => exact hS
  | @begin t stream command u s r ctx hfree ht hcmd htask hstream hcommand hid hstage htd hctx =>
    refine ⟨hinv, ?_, threads_update rfl (hS.held_mono fun _ h => h) ?_, hS.replies⟩
    · simp only [map, hctx.pending]
      exact hS.frames
    · rintro th ⟨⟩ - h0
      exact absurd hid h0
  | @pop task acquired u th g id fl ctx hth hpinv hpop hctx =>
    refine ⟨hinv, ?_, threads_update rfl (hS.held_mono fun _ h => h) ?_, hS.replies⟩
    · rcases hpop with ⟨-, -, hM⟩ | ⟨-, hp⟩
      · exact fun v pid tgid f hf => hS.frames v pid tgid f (hM ▸ hf)
      · exact fun v pid tgid f hf => hS.frames v pid tgid f (hp.hasFrame hf)
    · rintro th' ⟨⟩ - h0
      rcases hpop with ⟨-, hout, -⟩ | ⟨rfl, hp⟩
      · exact absurd (congrArg Prod.fst hout) h0
      · -- the popped frame lies in a stack that carries the popping thread's pid and tgid
        obtain ⟨st, hM, hout, -⟩ := hp.frameAt.2 h0
        obtain ⟨hpid, htgid⟩ := ownStack_pop hown hth hM
        have hsent := hS.frames task st.pid st.tgid st.top
          ⟨st, hM, List.getLast_mem st.nonempty, rfl, rfl⟩
        obtain ⟨-, hkaddr⟩ := hS.thread task th hth.1
        rw [show id = st.top.requestEventId from congrArg Prod.fst hout]
        rw [hpid, htgid] at hsent
        obtain ⟨q, hq, hid, hk, hrest⟩ := hsent
        exact ⟨q, hq, hid, hk.trans hkaddr.symm, hrest⟩
  | @parse task acquired u th st hth hst =>
    subst hst
    have hctx := (emitParseHalCorrelatedReply_framed th.recording.requestId
      th.recording.requestFlags ⟨u, th.recording.scratch, S.ctx⟩).ctx
    refine ⟨hinv, ?_, threads_update rfl (hS.held_mono fun _ h => h) ?_, hS.replies⟩
    · simp only [map, hctx.pending]
      exact hS.frames
    · rintro th' ⟨⟩ - h0
      exact hS.held task th hth.1 (.inl hth.2) h0
  | @reserve task acquired u th slot events hth =>
    have hkeep : ∀ e ∈ S.log,
        e ∈ S.log ++ [⟨(S.reserved th.recording slot).event, th.note⟩] :=
      fun e he => List.mem_append_left _ he
    refine ⟨hinv, fun v pid tgid f hf => (hS.frames v pid tgid f hf).mono hkeep,
      threads_update rfl (hS.held_mono hkeep) ?_, fun e he h0 => ?_⟩
    · rintro th' ⟨⟩ hst
      simp only [reserved] at hst
      split at hst <;> simp at hst
    · rw [List.mem_append, List.mem_singleton] at he
      rcases he with he | rfl
      · exact (hS.replies e he h0).mono hkeep
      · exact (hS.held task th hth.1 (.inr hth.2) h0).mono hkeep
  | @push task acquired u th s ctx hth hs hpinv hpush hctx =>
    refine ⟨hinv, fun v pid tgid f hf => ?_,
      threads_update rfl (hS.held_mono fun _ h => h) ?_, hS.replies⟩
    · rcases hpush with ⟨-, hM⟩ | ⟨-, -, -, hp⟩
      · exact hS.frames v pid tgid f (hM ▸ hf)
      · rcases hp.hasFrame hf with h | ⟨rfl, rfl, rfl, rfl⟩
        · exact hS.frames v pid tgid f h
        · obtain ⟨-, e, he, heq⟩ := (hS.threads task th hth.1).pushing hth.2
          refine ⟨e, he, ?_⟩
          rw [heq]
          exact ⟨rfl, rfl, rfl, rfl⟩
    · rintro th' ⟨⟩ hst
      simp at hst
  | finish hth =>
    exact ⟨hinv, hS.frames, threads_update rfl (hS.held_mono fun _ h => h) (by simp), hS.replies⟩
  | publishHal | publishConfig => exact ⟨hinv, hS.frames, hS.held, hS.replies⟩

theorem Reuse.init {ctx : KernelCounterContext} (h : Fresh ctx) : (Sys.init ctx).Reuse where
  toInv := .init h
  frames u pid tgid f hf := by
    obtain ⟨st, hM, -⟩ := hf
    rw [map_init h] at hM
    cases hM
  held u th hth := by cases hth
  replies e he := by cases he

/-- Event ids tell events apart. -/
theorem Inv.event_ext (hS : S.Inv) {q q' : Recorded} (hq : q ∈ S.log) (hq' : q' ∈ S.log)
    (h : q.event.eventId = q'.event.eventId) : q = q' :=
  List.inj_on_of_nodup_map hS.ids hq hq' h

end
end Sys

/-- **Task-pointer reuse.** In every run in which each pop that takes the lock finds no slot for its
task pointer or one that carries its own pid and tgid, the id a pop returns is that of a request
pushed by a thread with the same task pointer, pid and tgid: so for every thread between its pop and
its event, and for every recorded reply. -/
theorem pop_returns_own_request (ctx : KernelCounterContext) (h0 : Sys.Fresh ctx)
    (ls : List Label)
    (hrun : Lib.Along Sys.step
      (fun S l => S.TicketsLeft l ∧ S.ownStack l = true) (Sys.init ctx) ls) :
    let S := (Sys.init ctx).run ls
    (∀ u th, S.thread u = some th →
      th.recording.stage = .parse ∨ th.recording.stage = .reserve →
      th.recording.requestId ≠ 0 → S.SentBy th.recording.requestId th.recording.task) ∧
    (∀ e ∈ S.log, e.event.correlatedRequestId ≠ 0 →
      S.SentBy e.event.correlatedRequestId ⟨e.event.taskKaddr, e.event.pid, e.event.tgid⟩) ∧
    ∀ q ∈ S.log, ∀ q' ∈ S.log, q.event.eventId = q'.event.eventId → q = q' := by
  intro S
  have hS : S.Reuse :=
    hrun.induct (P := fun _ S => S.Reuse) (Sys.Reuse.init h0)
      fun _ _ _ hS hok => hS.step hok.1 hok.2
  exact ⟨hS.held, hS.replies, fun q hq q' hq' h => hS.toInv.event_ext hq hq' h⟩

/-- A task pointer is reused by another thread, whose first operation is a push. -/
theorem pop_returns_own_request_pushFirst :
    let t : TaskIdentity := ⟨64, 7, 5⟩
    let t' : TaskIdentity := ⟨64, 8, 5⟩
    let ls := deviceUniqueIdRequest t true ++ deviceUniqueIdRequest t' true ++ replyOf t' true
    let S := (Sys.init .zero).run ls
    ∃ e ∈ S.log, e.event.pid = 8 ∧ e.event.correlatedRequestId = 2 ∧
      S.SentBy 2 ⟨e.event.taskKaddr, e.event.pid, e.event.tgid⟩ := by
  intro t t' ls S
  have hlog : (S.log[2]?.map fun e => (e.event.pid, e.event.correlatedRequestId)) =
      some (8, 2) := by decide +kernel
  obtain ⟨e, he, heq⟩ := Option.map_eq_some_iff.1 hlog
  have hid : e.event.correlatedRequestId = 2 := congrArg Prod.snd heq
  have hrun : Lib.Along Sys.step (fun S l => S.ctx.eventWriteIndex.toNat + 2 < 2 ^ 64 ∧
      S.ownStack l = true) (Sys.init .zero) ls := by decide +kernel
  have hmem := List.mem_of_getElem? he
  obtain ⟨-, hreplies, -⟩ := pop_returns_own_request .zero ⟨rfl, rfl⟩ ls
    (hrun.mono fun _ l h => ⟨Sys.ticketsLeft_of_lt l h.1, h.2⟩)
  refine ⟨e, hmem, congrArg Prod.fst heq, hid, ?_⟩
  rw [← hid]
  exact hreplies e hmem (by rw [hid]; decide)

/-- A thread dies with a recognised request pending. A thread with another pid takes over the task
pointer and answers an unrecognised request: its pop returns the dead thread's request, under an
unchanged generation. -/
theorem pop_returns_dead_request :
    let t : TaskIdentity := ⟨64, 7, 5⟩
    let t' : TaskIdentity := ⟨64, 8, 5⟩
    let ls := deviceUniqueIdRequest t true ++ otherRequest t' ++ replyOf t' true
    let S := (Sys.init .zero).run ls
    Lib.Along Sys.step (fun S l => S.ctx.eventWriteIndex.toNat + 2 < 2 ^ 64 ∧
        (S.step l).ctx.activeHalGeneration = S.ctx.activeHalGeneration) (Sys.init .zero) ls ∧
      ∃ e ∈ S.log, e.event.kind = .bcReply ∧ e.event.pid = 8 ∧ e.event.correlatedRequestId = 1 ∧
        ∃ q ∈ S.log, q.event.eventId = 1 ∧ q.event.pid = 7 := by
  intro t t' ls S
  have hreply : (S.log[2]?.map fun e =>
      (e.event.kind, e.event.pid, e.event.correlatedRequestId)) = some (.bcReply, 8, 1) := by
    decide +kernel
  have hrequest : (S.log[0]?.map fun e => (e.event.eventId, e.event.pid)) = some (1, 7) := by
    decide +kernel
  obtain ⟨e, he, heq⟩ := Option.map_eq_some_iff.1 hreply
  obtain ⟨q, hq, hqeq⟩ := Option.map_eq_some_iff.1 hrequest
  obtain ⟨hkind, hpid, hid⟩ : e.event.kind = .bcReply ∧ e.event.pid = 8 ∧
      e.event.correlatedRequestId = 1 := by simpa using heq
  exact ⟨by decide +kernel, e, List.mem_of_getElem? he, hkind, hpid, hid, q,
    List.mem_of_getElem? hq, congrArg Prod.fst hqeq, congrArg Prod.snd hqeq⟩

end Drmid
