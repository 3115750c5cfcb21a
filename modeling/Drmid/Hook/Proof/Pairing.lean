import Drmid.Hook.Proof.Correlation

/-!
# Pairing under nesting

Runs in which the driver keeps the synchronous requests of a thread properly nested, the lock is
always acquired, no bucket is full, at most four recognised requests are open per thread and the
HAL identity generation does not change (`Sys.nested`). Only recognised requests are pushed while
every reply pops, so the stack of a thread holds the ids of its recognised open requests
(`Sys.Pairing.stackIds`), and a reply is paired with the request it answers as long as no reply to an
unrecognised request finds a recognised one open below it (`Sys.wellAnswered`): `reply_pairing`.
Without that condition pairing fails: `nested_reply_takes_outer_request`.
-/

namespace Drmid

/-- The reply is treated as a `deviceUniqueId` reply exactly if the request it answers was
recognised, and then under the id of that request. -/
def Note.Pairs (note : Note) (r : UInt64) : Prop :=
  ∃ q, note.answers = some q ∧ (r ≠ 0 ↔ q.recognised = true) ∧ (q.recognised = true → r = q.eventId)

namespace Sys

/-- The open requests of `task` that were recognised, innermost first. -/
def recognisedOpen (S : Sys) (task : UInt64) : List OpenRequest :=
  (S.nest task).filter fun q => q.recognised

/-- The bucket of `task` has a free way, or one that is the task's own. -/
def room (S : Sys) (task : UInt64) : Bool :=
  (List.finRange 8).any fun w =>
    (S.ctx.pending (slotAt (pendingBucket task) w)).taskKaddr == 0 ||
      (S.ctx.pending (slotAt (pendingBucket task) w)).taskKaddr == task

/-- The conditions on the run: a thread keeps its pid and tgid (`who`), the try-locks succeed,
every reply answers an open request, at most four recognised requests are open, no bucket is full,
tickets do not run out and no publication changes the generation. -/
def nested (who : UInt64 → TaskIdentity) (S : Sys) : Label → Bool
  | .begin t _ _ _ _ => decide (t = who t.kaddr)
  | .advance task acquired _ =>
    match S.thread task with
    | none => true
    | some th =>
      match th.recording.stage with
      | .pop => acquired && !(S.nest task).isEmpty
      | .reserve => decide (S.ctx.eventWriteIndex.toNat + 2 < 2 ^ 64)
      | .push =>
        acquired && (!th.recording.recognised || th.recording.scratch.transaction.oneWay ||
          (decide ((S.recognisedOpen task).length < 4) && S.room task))
      | _ => true
  | .publishHal active slots =>
    (slots (KernelCounterContext.slotOf active)).generation == S.ctx.activeHalGeneration
  | .publishConfig _ _ => true

/-- A reply to an unrecognised request finds no recognised request open on its thread. -/
def wellAnswered (S : Sys) : Label → Bool
  | .advance task _ _ =>
    match S.thread task with
    | none => true
    | some th =>
      match th.recording.stage, S.nest task with
      | .pop, q :: _ => q.recognised || (S.recognisedOpen task).isEmpty
      | _, _ => true
  | _ => true

section
variable {S : Sys} {who : UInt64 → TaskIdentity} {task : UInt64} {acquired : Bool}
  {u : UserMemory} {th : Thread}

theorem nested_pop (h : S.nested who (.advance task acquired u) = true)
    (hth : S.moves task th .pop) : acquired = true ∧ S.nest task ≠ [] := by
  simpa [nested, hth.1, hth.2] using h

theorem nested_push (h : S.nested who (.advance task acquired u) = true)
    (hth : S.moves task th .push) : acquired = true ∧
      (th.recording.recognised = true → th.recording.scratch.transaction.oneWay = false →
        (S.recognisedOpen task).length < 4 ∧ S.room task = true) := by
  simp only [nested, hth.1, hth.2, Bool.and_eq_true, Bool.or_eq_true, Bool.not_eq_true',
    decide_eq_true_eq] at h
  refine ⟨h.1, fun hrec hsync => ?_⟩
  rcases h.2 with (h' | h') | h'
  · rw [hrec] at h'
    cases h'
  · rw [hsync] at h'
    cases h'
  · exact h'

theorem nested_tickets {l : Label} (h : S.nested who l = true) : S.TicketsLeft l := by
  cases l with
  | advance task acquired u =>
    intro th hth
    simpa [nested, hth.1, hth.2] using h
  | begin | publishHal | publishConfig => trivial

theorem wellAnswered_pop {q : OpenRequest} {rest : List OpenRequest}
    (h : S.wellAnswered (.advance task acquired u) = true) (hth : S.moves task th .pop)
    (hnest : S.nest task = q :: rest) : q.recognised = true ∨ S.recognisedOpen task = [] := by
  simpa [wellAnswered, hth.1, hth.2, hnest] using h

end

/-! ## Stacks and open requests -/

/-- The request ids of a stack, oldest first. -/
def frameIds (x : Option PendingStack) : List UInt64 :=
  x.elim [] fun st => st.frames.map fun f => f.requestEventId

theorem frameIds_none {x : Option PendingStack} (h : frameIds x = []) : x = none := by
  cases x with
  | none => rfl
  | some st => exact absurd (List.map_eq_nil_iff.1 h) st.nonempty

theorem frameIds_pop (st : PendingStack) : frameIds st.pop = (frameIds (some st)).dropLast := by
  unfold PendingStack.pop
  split
  · simp [frameIds, List.map_dropLast]
  · rename_i h
    simp only [ne_eq, Decidable.not_not] at h
    simp [frameIds, ← List.map_dropLast, h]

theorem frameIds_top {st : PendingStack} {xs : List UInt64} {r : UInt64}
    (h : frameIds (some st) = xs ++ [r]) : st.top.requestEventId = r := by
  have hlast : (st.frames.map fun f => f.requestEventId).getLast? = some r := by
    rw [show (st.frames.map fun f => f.requestEventId) = xs ++ [r] from h]
    simp
  rw [List.getLast?_map, List.getLast?_eq_some_getLast st.nonempty] at hlast
  simpa [PendingStack.top] using hlast

theorem frameIds_append {x : Option PendingStack} {st : PendingStack} {f : BinderPendingFrame}
    (h : st.frames = x.elim [] PendingStack.frames ++ [f]) :
    frameIds (some st) = frameIds x ++ [f.requestEventId] := by
  cases x <;> simp [frameIds, h]

/-- A thread keeps its identity, and a reply between its pop and its event is paired. -/
structure ThreadPairs (who : UInt64 → TaskIdentity) (u : UInt64) (th : Thread) : Prop where
  identity : th.recording.task = who u
  held : th.recording.stage = .parse ∨ th.recording.stage = .reserve →
    isReply th.recording.stream th.recording.command = true →
    th.note.Pairs th.recording.requestId

/-- What ties the table to the driver's view. -/
structure Pairing (who : UInt64 → TaskIdentity) (S : Sys) : Prop extends Inv S where
  threadPairs : ∀ u th, S.thread u = some th → ThreadPairs who u th
  opener : ∀ u st, S.map u = some st → st.Owner (who u)
  current : ∀ u i f, S.map.frameAt u i = some f →
    f.halIdentityGeneration = S.ctx.activeHalGeneration
  stackIds : ∀ u, frameIds (S.map u) = ((S.recognisedOpen u).map fun q => q.eventId).reverse
  replies : ∀ e ∈ S.log, e.event.kind = .bcReply → e.note.Pairs e.event.correlatedRequestId

section
variable {who : UInt64 → TaskIdentity} {S : Sys}

/-- The id of a recognised open request is not 0. -/
theorem Pairing.id_ne_zero (hS : S.Pairing who) {u : UInt64} {q : OpenRequest}
    (hq : q ∈ S.recognisedOpen u) : q.eventId ≠ 0 := by
  have hmem : q.eventId ∈ frameIds (S.map u) := by
    rw [hS.stackIds u, List.mem_reverse]
    exact List.mem_map_of_mem hq
  cases hM : S.map u with
  | none =>
    rw [hM] at hmem
    cases hmem
  | some st =>
    rw [hM] at hmem
    obtain ⟨f, hf, hid⟩ := List.mem_map.1 hmem
    obtain ⟨i, hi⟩ := List.getElem?_of_mem hf
    have hat : S.At (.stored u i) f.requestEventId :=
      .stored (PendingMap.frameAt_some.2 ⟨st, hM, hi⟩)
    obtain ⟨e, he, hb⟩ := hS.backed _ _ hat
    rw [← hid, ← hb.id]
    exact (hS.events e he).id_pos

/-- A reply to a recognised request pops exactly its frame; a reply to an unrecognised one, with
no recognised request open, pops nothing. -/
theorem Pairing.pops (hS : S.Pairing who) {task id : UInt64} {fl : UInt32} {M' : PendingMap}
    {q : OpenRequest} {rest : List OpenRequest} (hnest : S.nest task = q :: rest)
    (hwell : q.recognised = true ∨ S.recognisedOpen task = [])
    (hpop : PendingMap.Pop S.map task S.ctx.activeHalGeneration (id, fl) M') :
    (id ≠ 0 ↔ q.recognised = true) ∧ (q.recognised = true → id = q.eventId) ∧
      frameIds (M' task) =
        ((rest.filter fun q => q.recognised).map fun q => q.eventId).reverse := by
  have hids := hS.stackIds task
  cases hq : q.recognised with
  | true =>
    have hopen : S.recognisedOpen task = q :: rest.filter fun q => q.recognised := by
      simp [recognisedOpen, hnest, hq]
    have h0 := hS.id_ne_zero (u := task) (q := q) (by simp [hopen])
    rw [hopen, List.map_cons, List.reverse_cons] at hids
    cases hM : S.map task with
    | none =>
      rw [hM] at hids
      simp [frameIds] at hids
    | some st =>
      rw [hM] at hids
      have htop := frameIds_top hids
      generalize hout : (id, fl) = out at hpop
      cases hpop with
      | miss hM' => cases hM.symm.trans hM'
      | @fresh st' hM' hg =>
        cases hM.symm.trans hM'
        have hid : id = q.eventId := (congrArg Prod.fst hout).trans htop
        refine ⟨⟨fun _ => rfl, fun _ => hid ▸ h0⟩, fun _ => hid, ?_⟩
        rw [Function.update_self, frameIds_pop, hids, List.dropLast_concat]
      | @stale st' hM' hg =>
        cases hM.symm.trans hM'
        exact absurd (hS.current _ _ _ (PendingMap.frameAt_top hM)) hg
  | false =>
    have hnone : S.recognisedOpen task = [] := by
      rcases hwell with h | h
      · rw [hq] at h
        cases h
      · exact h
    have hrest : (rest.filter fun q => q.recognised) = [] := by
      simpa [recognisedOpen, hnest, hq] using hnone
    rw [hnone] at hids
    have hM := frameIds_none hids
    generalize hout : (id, fl) = out at hpop
    cases hpop with
    | miss =>
      have hid : id = 0 := congrArg Prod.fst hout
      simp [hid, hrest, hM, frameIds]
    | fresh hM' => cases hM.symm.trans hM'
    | stale hM' => cases hM.symm.trans hM'

/-- A step that leaves table, open requests and generation alone. -/
theorem Pairing.quiet (hS : S.Pairing who) {S' : Sys} (hinv : S'.Inv) (hmap : S'.map = S.map)
    (hnest : S'.nest = S.nest)
    (hgen : S'.ctx.activeHalGeneration = S.ctx.activeHalGeneration)
    (hthreads : ∀ u th, S'.thread u = some th → ThreadPairs who u th)
    (hlog : ∀ e ∈ S'.log, e.event.kind = .bcReply → e.note.Pairs e.event.correlatedRequestId) :
    S'.Pairing who where
  toInv := hinv
  threadPairs := hthreads
  opener := hmap ▸ hS.opener
  current := by
    rw [hmap, hgen]
    exact hS.current
  stackIds u := by
    rw [hmap, recognisedOpen, hnest]
    exact hS.stackIds u
  replies := hlog

/-- A pop takes the frame of the answered request, or none. -/
theorem Pairing.pop (hS : S.Pairing who) {S' : Sys} (hinv : S'.Inv) {task id : UInt64}
    {fl : UInt32} {th : Thread} {r' : Recording} {acquired : Bool} (hth : S.moves task th .pop)
    {q : OpenRequest} {rest : List OpenRequest} (hq : S.nest task = q :: rest)
    (hwell : q.recognised = true ∨ S.recognisedOpen task = [])
    (hpop : PendingMap.Pop S.map task S.ctx.activeHalGeneration (id, fl) S'.map)
    (hgen : S'.ctx.activeHalGeneration = S.ctx.activeHalGeneration) (hlog : S'.log = S.log)
    (hnest : S'.nest = Function.update S.nest task rest)
    (hthread : S'.thread =
      Function.update S.thread task (some ⟨r', S.popNote task acquired⟩))
    (htask : r'.task = th.recording.task) (hid : r'.requestId = id) : S'.Pairing who := by
  obtain ⟨hiff, heq, hids⟩ := hS.pops hq hwell hpop
  have hthreads := threads_update hthread hS.threadPairs ?_
  · refine ⟨hinv, hthreads, fun u st hM => ?_, fun u i f hf => ?_, fun u => ?_,
      hlog ▸ hS.replies⟩
    · -- a popped stack keeps its pid and tgid
      by_cases hu : u = task
      · subst hu
        generalize hout : (id, fl) = out at hpop
        generalize hM' : S'.map = M' at hpop hM
        cases hpop with
        | miss => exact hS.opener u st hM
        | @fresh st₀ h₀ | @stale st₀ h₀ =>
          rw [Function.update_self] at hM
          obtain ⟨hp, ht, -⟩ := PendingMap.pop_frames hM
          rw [PendingStack.Owner, hp, ht]
          exact hS.opener u st₀ h₀
      · rw [hpop.other hu] at hM
        exact hS.opener u st hM
    · rw [hgen]
      exact hS.current u i f (hpop.frameAt.1 u i f hf)
    · by_cases hu : u = task
      · subst hu
        rw [hids, recognisedOpen, hnest, Function.update_self]
      · rw [hpop.other hu, recognisedOpen, hnest, Function.update_of_ne hu]
        exact hS.stackIds u
  · rintro th' ⟨⟩
    refine ⟨htask.trans ((hS.threadPairs task th hth.1).identity),
      fun _ _ => ⟨q, ?_, hid ▸ hiff, hid ▸ heq⟩⟩
    simp [popNote, hq]

/-- A free or own way: no push of `task` evicts. -/
theorem Inv.room_lt (hS : S.Inv) {task : UInt64} (htask : task ≠ 0) (h : S.room task = true)
    (hM : S.map task = none) : (S.map.holders (pendingBucket task)).ncard < 8 := by
  simp only [room, List.any_eq_true, Bool.or_eq_true, beq_iff_eq] at h
  obtain ⟨w, -, hw | hw⟩ := h
  · exact holders_lt hS.table hw
  · have hk : pendingTable.key (S.ctx.pending (slotAt (pendingBucket task) w)) = some task :=
      key_eq_some.2 ⟨hw, htask⟩
    exact absurd hk ((pendingMap_eq_none hS.table).1 hM _)

/-- A request that is one-way or not recognised opens nothing that counts. -/
theorem recognisedOpen_skip {S' : Sys} {r : Recording} (hnest : S'.nest = opens S.nest r)
    (hskip : r.recognised = false ∨ r.scratch.transaction.oneWay = true) (u : UInt64) :
    S'.recognisedOpen u = S.recognisedOpen u := by
  rw [recognisedOpen, recognisedOpen, hnest, opens]
  split
  · rfl
  · rename_i how
    have hrec : r.recognised = false := hskip.resolve_right how
    by_cases hu : u = r.task.kaddr
    · rw [hu, Function.update_self, List.filter_cons]
      simp [hrec]
    · rw [Function.update_of_ne hu]

/-- A recognised synchronous request is open on top. -/
theorem recognisedOpen_push {S' : Sys} {r : Recording} (hnest : S'.nest = opens S.nest r)
    (hrec : r.recognised = true) (hsync : r.scratch.transaction.oneWay = false) :
    S'.recognisedOpen r.task.kaddr = ⟨r.eventId, true⟩ :: S.recognisedOpen r.task.kaddr ∧
      ∀ u, u ≠ r.task.kaddr → S'.recognisedOpen u = S.recognisedOpen u := by
  have hopens : S'.nest = Function.update S.nest r.task.kaddr
      (⟨r.eventId, true⟩ :: S.nest r.task.kaddr) := by
    rw [hnest, opens]
    simp [hsync, hrec]
  refine ⟨?_, fun u hu => ?_⟩
  · rw [recognisedOpen, hopens, Function.update_self, List.filter_cons]
    rfl
  · rw [recognisedOpen, hopens, Function.update_of_ne hu]
    rfl

/-- A push of a recognised request puts its id on top of both stacks. -/
theorem Pairing.push (hS : S.Pairing who) {S' : Sys} (hinv : S'.Inv) {task : UInt64} {th : Thread}
    {r' : Recording} {acquired : Bool} (hth : S.moves task th .push) (hacq : acquired = true)
    (hroom : th.recording.recognised = true → th.recording.scratch.transaction.oneWay = false →
      (S.recognisedOpen task).length < 4 ∧ S.room task = true)
    (hpush : S.Pushed th.recording acquired S'.map)
    (hgen : S'.ctx.activeHalGeneration = S.ctx.activeHalGeneration) (hlog : S'.log = S.log)
    (hnest : S'.nest = opens S.nest th.recording)
    (hthread : S'.thread = Function.update S.thread task (some ⟨r', th.note⟩))
    (htask : r'.task = th.recording.task) (hstage : r'.stage = .publish) : S'.Pairing who := by
  obtain ⟨h0, hkaddr⟩ := hS.thread task th hth.1
  have hwho := (hS.threadPairs task th hth.1).identity
  have hthreads := threads_update hthread hS.threadPairs (by
    rintro th' ⟨⟩
    exact ⟨htask.trans hwho, fun h => by simp [hstage] at h⟩)
  rcases hpush with ⟨hskip, hM⟩ | ⟨hrec, hsync, -, hp⟩
  · -- nothing pushed: the request is one-way or not recognised
    have hskip' : th.recording.recognised = false ∨
        th.recording.scratch.transaction.oneWay = true :=
      hskip.imp_right fun h => h.resolve_right (by simp [hacq])
    have hopen := recognisedOpen_skip hnest hskip'
    exact ⟨hinv, hthreads, hM ▸ hS.opener, by rw [hM, hgen]; exact hS.current,
      fun u => by rw [hM, hopen u]; exact hS.stackIds u, hlog ▸ hS.replies⟩
  · obtain ⟨hdepth, hfree⟩ := hroom hrec hsync
    have hlen : ∀ st, S.map task = some st → st.frames.length = (S.recognisedOpen task).length := by
      intro st hM
      have h := congrArg List.length (hS.stackIds task)
      rw [hM] at h
      simpa [frameIds] using h
    obtain ⟨st', hM', howner, hframes⟩ := hp.appends (fun st hM => by
        rw [hkaddr] at hM
        rw [hwho, hlen st hM]
        exact ⟨hS.opener task st hM, hdepth⟩)
      (fun hM => by rw [hkaddr] at hM ⊢; exact hS.room_lt h0 hfree hM)
    rw [hkaddr] at hM' hframes
    obtain ⟨hopen, hother⟩ := recognisedOpen_push hnest hrec hsync
    rw [hkaddr] at hopen hother
    refine ⟨hinv, hthreads, fun u st hM => ?_, fun u i f hf => ?_, fun u => ?_,
      hlog ▸ hS.replies⟩
    · by_cases hu : u = task
      · subst hu
        rw [hM', Function.update_self] at hM
        cases hM
        exact hwho ▸ howner
      · rw [hM', Function.update_of_ne hu] at hM
        exact hS.opener u st hM
    · obtain ⟨n, hn⟩ := hp.frameAt
      rw [hgen]
      rcases hn u i f hf with hf' | ⟨-, -, rfl⟩
      · exact hS.current u i f hf'
      · rfl
    · by_cases hu : u = task
      · subst hu
        rw [hM', Function.update_self, frameIds_append hframes, hS.stackIds u, hopen,
          List.map_cons, List.reverse_cons]
        rfl
      · rw [hM', Function.update_of_ne hu, hother u hu]
        exact hS.stackIds u

/-- **The step lemma** of properly nested runs. -/
theorem Pairing.step (hS : S.Pairing who) {l : Label} (hnested : S.nested who l = true)
    (hwell : S.wellAnswered l = true) : (S.step l).Pairing who := by
  have hinv := hS.toInv.step (nested_tickets hnested)
  have heff := step_effect hS.toOrdered l
  generalize S.step l = S' at heff hinv ⊢
  cases heff with
  | idle => exact hS
  | @begin t stream command u s r ctx hfree ht hcmd htask hstream hcommand hid hstage htd hctx =>
    refine hS.quiet hinv (by simp only [map, hctx.pending]) rfl hctx.activeHalGeneration
      (threads_update rfl hS.threadPairs ?_) hS.replies
    rintro th ⟨⟩
    refine ⟨htask.trans (of_decide_eq_true hnested), fun hst hreply => ?_⟩
    subst hstream hcommand
    dsimp only at hst hreply
    rw [hstage, hreply] at hst
    simp at hst
  | @pop task acquired u th g id fl ctx hth hpinv hpop hctx =>
    obtain ⟨c, T, rfl⟩ := hctx
    obtain ⟨hacq, hne⟩ := nested_pop hnested hth
    obtain ⟨q, rest, hq⟩ := List.exists_cons_of_ne_nil hne
    rcases hpop with ⟨h, -⟩ | ⟨-, hp⟩
    · rw [hacq] at h
      cases h
    · exact hS.pop hinv hth hq (wellAnswered_pop hwell hth hq) hp rfl rfl (by rw [hq]; rfl) rfl
        rfl rfl
  | @parse task acquired u th st hth hst =>
    subst hst
    have hctx := (emitParseHalCorrelatedReply_framed th.recording.requestId
      th.recording.requestFlags ⟨u, th.recording.scratch, S.ctx⟩).ctx
    refine hS.quiet hinv (by simp only [map, hctx.pending]) rfl hctx.activeHalGeneration
      (threads_update rfl hS.threadPairs ?_) hS.replies
    rintro th' ⟨⟩
    exact ⟨(hS.threadPairs task th hth.1).identity,
      fun _ hreply => (hS.threadPairs task th hth.1).held (.inl hth.2) hreply⟩
  | @reserve task acquired u th slot events hth =>
    have hok := hS.threads task th hth.1
    refine hS.quiet hinv rfl rfl rfl (threads_update rfl hS.threadPairs ?_) fun e he hkind => ?_
    · rintro th' ⟨⟩
      refine ⟨(hS.threadPairs task th hth.1).identity, fun hst => ?_⟩
      simp only [reserved] at hst
      split at hst <;> simp at hst
    · rw [List.mem_append, List.mem_singleton] at he
      rcases he with he | rfl
      · exact hS.replies e he hkind
      · exact (hS.threadPairs task th hth.1).held (.inr hth.2)
          (isReply_of_eventKind hok.command hkind)
  | @push task acquired u th s ctx hth hs hpinv hpush hctx =>
    obtain ⟨c, T, rfl⟩ := hctx
    obtain ⟨hacq, hroom⟩ := nested_push hnested hth
    exact hS.push hinv hth hacq hroom hpush rfl rfl rfl rfl rfl rfl
  | finish hth =>
    exact hS.quiet hinv rfl rfl rfl (threads_update rfl hS.threadPairs (by simp)) hS.replies
  | publishHal =>
    exact hS.quiet hinv rfl rfl (beq_iff_eq.1 hnested)
      hS.threadPairs hS.replies
  | publishConfig =>
    exact hS.quiet hinv rfl rfl rfl hS.threadPairs hS.replies

theorem Pairing.init {ctx : KernelCounterContext} (h : Fresh ctx) :
    (Sys.init ctx).Pairing who where
  toInv := .init h
  threadPairs u th hth := by cases hth
  opener u st hM := by
    rw [map_init h] at hM
    cases hM
  current u i f hf := by
    rw [map_init h] at hf
    cases hf
  stackIds u := by
    rw [map_init h]
    rfl
  replies e he := by cases he

end
end Sys

/-- **Pairing.** In every properly nested run in which no reply answers an unrecognised request
while a recognised one is open on its thread, each reply is treated as a `deviceUniqueId` reply if
and only if the request it answers was recognised, and then carries the id of exactly that
request. -/
theorem reply_pairing (ctx : KernelCounterContext) (h0 : Sys.Fresh ctx)
    (who : UInt64 → TaskIdentity) (ls : List Label)
    (hrun : Lib.Along Sys.step
      (fun S l => S.nested who l = true ∧ S.wellAnswered l = true) (Sys.init ctx) ls) :
    ∀ e ∈ ((Sys.init ctx).run ls).log, e.event.kind = .bcReply →
      ∃ q, e.note.answers = some q ∧
        (e.event.correlatedRequestId ≠ 0 ↔ q.recognised = true) ∧
        (q.recognised = true → e.event.correlatedRequestId = q.eventId) := by
  have hS : ((Sys.init ctx).run ls).Pairing who :=
    hrun.induct (P := fun _ S => S.Pairing who) (Sys.Pairing.init h0)
      fun _ _ _ hS hok => hS.step hok.1 hok.2
  exact hS.replies

/-- A recognised request nested in an unrecognised one: the first reply answers the inner request,
the second one the outer. -/
theorem reply_pairing_nested :
    let t : TaskIdentity := ⟨64, 7, 5⟩
    let log := ((Sys.init .zero).run
      (otherRequest t ++ deviceUniqueIdRequest t true ++ replyOf t true ++ replyOf t true)).log
    (∃ e ∈ log, e.event.correlatedRequestId = 2 ∧ ∃ q, e.note.answers = some q ∧
        (e.event.correlatedRequestId ≠ 0 ↔ q.recognised = true) ∧
        (q.recognised = true → e.event.correlatedRequestId = q.eventId)) ∧
      ∃ e ∈ log, e.event.correlatedRequestId = 0 ∧ ∃ q, e.note.answers = some q ∧
        (e.event.correlatedRequestId ≠ 0 ↔ q.recognised = true) ∧
        (q.recognised = true → e.event.correlatedRequestId = q.eventId) := by
  intro t log
  have hpairs := reply_pairing .zero ⟨rfl, rfl⟩ (fun _ => t)
    (otherRequest t ++ deviceUniqueIdRequest t true ++ replyOf t true ++ replyOf t true)
    (by decide +kernel)
  have hinner : (log[2]?.map fun e => (e.event.kind, e.event.correlatedRequestId)) =
      some (.bcReply, 2) := by decide +kernel
  have houter : (log[3]?.map fun e => (e.event.kind, e.event.correlatedRequestId)) =
      some (.bcReply, 0) := by decide +kernel
  obtain ⟨e, he, hfields⟩ := Option.map_eq_some_iff.1 hinner
  obtain ⟨e', he', hfields'⟩ := Option.map_eq_some_iff.1 houter
  have hmem := List.mem_of_getElem? he
  have hmem' := List.mem_of_getElem? he'
  exact ⟨⟨e, hmem, congrArg Prod.snd hfields, hpairs e hmem (congrArg Prod.fst hfields)⟩,
    e', hmem', congrArg Prod.snd hfields', hpairs e' hmem' (congrArg Prod.fst hfields')⟩

/-- A request with another code is delivered to a thread that is still serving a `deviceUniqueId`
request. Its reply pops the outer request's frame: it answers request 2, which was not recognised,
and is recorded, and rewritten, as the reply to request 1. -/
theorem nested_reply_takes_outer_request :
    let t : TaskIdentity := ⟨64, 7, 5⟩
    let ls := deviceUniqueIdRequest t true ++ otherRequest t ++ replyOf t true
    Lib.Along Sys.step (fun S l => S.nested (fun _ => t) l = true) (Sys.init .zero) ls ∧
      ∃ e ∈ ((Sys.init .zero).run ls).log, e.event.kind = .bcReply ∧
        e.note.answers = some ⟨2, false⟩ ∧ e.event.correlatedRequestId = 1 ∧
        ¬e.note.Pairs e.event.correlatedRequestId := by
  intro t ls
  have hlog : (((Sys.init .zero).run ls).log[2]?.map fun e =>
      (e.event.kind, e.note.answers, e.event.correlatedRequestId)) =
      some (.bcReply, some ⟨2, false⟩, 1) := by decide +kernel
  obtain ⟨e, he, heq⟩ := Option.map_eq_some_iff.1 hlog
  obtain ⟨hkind, hans, hid⟩ : e.event.kind = .bcReply ∧ e.note.answers = some ⟨2, false⟩ ∧
      e.event.correlatedRequestId = 1 := by simpa using heq
  refine ⟨by decide +kernel, e, List.mem_of_getElem? he, hkind, hans, hid, ?_⟩
  rintro ⟨q, hq, hiff, -⟩
  rw [hans] at hq
  cases hq
  rw [hid] at hiff
  simp at hiff

end Drmid
