import Drmid.Hook.Proof.Pairing

/-!
# Contention on the pending lock

Runs in which every thread alternates one synchronous request and its reply (`Sys.alternates`) and
each try-lock succeeds or fails as it likes. A push that fails only loses its own frame. A pop that
fails leaves the frame of its request behind, for the next reply of the thread to take. So replies
to unrecognised requests stay untouched as long as a pop that fails to take the lock has no frame
to leave behind (`Sys.nothingLeft`): `contended_reply_untouched`. Without that condition they do
not: `failed_pop_rewrites_next_reply`.
-/

namespace Drmid

/-- A reply to an unrecognised request carries no request id and its payload was not written. -/
def Note.Untouched (note : Note) (r : UInt64) : Prop :=
  ∃ q, note.answers = some q ∧ (q.recognised = false → r = 0 ∧ ∃ u, note.user = some (u, u))

namespace Sys

/-- The condition on the run: no nested synchronous requests, and tickets do not run out. -/
def alternates (S : Sys) : Label → Bool
  | .advance task _ _ =>
    match S.thread task with
    | none => true
    | some th =>
      match th.recording.stage with
      | .pop => (S.nest task).length == 1
      | .push => th.recording.scratch.transaction.oneWay || (S.nest task).isEmpty
      | .reserve => decide (S.ctx.eventWriteIndex.toNat + 2 < 2 ^ 64)
      | _ => true
  | _ => true

/-- A pop that fails to take the lock leaves no frame of its thread behind. -/
def nothingLeft (S : Sys) : Label → Bool
  | .advance task acquired _ =>
    match S.thread task with
    | none => true
    | some th =>
      match th.recording.stage with
      | .pop => acquired || (S.map task).isNone
      | _ => true
  | _ => true

section
variable {S : Sys} {task : UInt64} {acquired : Bool} {u : UserMemory} {th : Thread}

theorem alternates_pop (h : S.alternates (.advance task acquired u) = true)
    (hth : S.moves task th .pop) : ∃ q, S.nest task = [q] := by
  simp only [alternates, hth.1, hth.2, beq_iff_eq] at h
  exact List.length_eq_one_iff.1 h

theorem alternates_push (h : S.alternates (.advance task acquired u) = true)
    (hth : S.moves task th .push) :
    th.recording.scratch.transaction.oneWay = true ∨ S.nest task = [] := by
  simpa [alternates, hth.1, hth.2] using h

theorem alternates_tickets {l : Label} (h : S.alternates l = true) : S.TicketsLeft l := by
  cases l with
  | advance task acquired u =>
    intro th hth
    simpa [alternates, hth.1, hth.2] using h
  | begin | publishHal | publishConfig => trivial

theorem nothingLeft_pop (h : S.nothingLeft (.advance task acquired u) = true)
    (hth : S.moves task th .pop) : acquired = true ∨ S.map task = none := by
  simpa [nothingLeft, hth.1, hth.2] using h

end

/-- What a thread carries between its pop and its event. -/
structure ReplyOk (th : Thread) : Prop where
  parsing : th.recording.stage = .parse → ∃ q, th.note.answers = some q ∧
    (q.recognised = false → th.recording.requestId = 0)
  parsed : th.recording.stage = .reserve →
    isReply th.recording.stream th.recording.command = true →
    th.note.Untouched th.recording.requestId

/-- A frame in the table belongs to a recognised request that is still open. -/
structure Contention (S : Sys) : Prop extends Inv S where
  single : ∀ u st, S.map u = some st → st.frames.length = 1
  idle : ∀ u, S.recognisedOpen u = [] → S.map u = none
  replyOk : ∀ u th, S.thread u = some th → ReplyOk th
  replies : ∀ e ∈ S.log, e.event.kind = .bcReply →
    e.note.Untouched e.event.correlatedRequestId

section
variable {S S' : Sys} {task : UInt64}

/-- A step that leaves table and open requests alone. -/
theorem Contention.quiet (hS : S.Contention) (hinv : S'.Inv) (hmap : S'.map = S.map)
    (hnest : S'.nest = S.nest) (hthreads : ∀ u th, S'.thread u = some th → ReplyOk th)
    (hlog : ∀ e ∈ S'.log, e.event.kind = .bcReply →
      e.note.Untouched e.event.correlatedRequestId) : S'.Contention where
  toInv := hinv
  single := hmap ▸ hS.single
  idle u h := by
    rw [recognisedOpen, hnest] at h
    rw [hmap]
    exact hS.idle u h
  replyOk := hthreads
  replies := hlog

/-- A pop of a thread with one open request leaves its thread without a stack. -/
theorem Contention.pop (hS : S.Contention) (hinv : S'.Inv) {id : UInt64} {fl : UInt32}
    {r' : Recording} {acquired : Bool} {q : OpenRequest} (hq : S.nest task = [q])
    (hlock : acquired = true ∨ S.map task = none)
    (hpop : S.Popped task acquired (id, fl) S'.map) (hlog : S'.log = S.log)
    (hnest : S'.nest = Function.update S.nest task [])
    (hthread : S'.thread = Function.update S.thread task (some ⟨r', S.popNote task acquired⟩))
    (hid : r'.requestId = id) (hstage : r'.stage = .parse) : S'.Contention := by
  have hother : ∀ v, v ≠ task → S'.map v = S.map v := by
    intro v hv
    rcases hpop with ⟨-, -, hM⟩ | ⟨-, hp⟩
    · rw [hM]
    · exact hp.other hv
  have hgone : S'.map task = none := by
    rcases hpop with ⟨hacq, -, hM⟩ | ⟨-, hp⟩
    · rw [hM]
      exact hlock.resolve_left (by simp [hacq])
    · generalize hM' : S'.map = M' at hp ⊢
      generalize hout : (id, fl) = out at hp
      cases hp with
      | miss h => exact h
      | @fresh st h | @stale st h =>
        rw [Function.update_self]
        exact PendingMap.pop_single (hS.single task st h)
  have hzero : q.recognised = false → id = 0 := by
    intro hrec
    have hM : S.map task = none := hS.idle task (by simp [recognisedOpen, hq, hrec])
    rcases hpop with ⟨-, hout, -⟩ | ⟨-, hp⟩
    · exact congrArg Prod.fst hout
    · by_contra h0
      obtain ⟨st, hst, -⟩ := hp.frameAt.2 h0
      cases hM.symm.trans hst
  have hthreads := threads_update (Q := fun _ th => ReplyOk th) hthread hS.replyOk (by
    rintro th ⟨⟩
    refine ⟨fun _ => ⟨q, by simp [popNote, hq], fun h => hid ▸ hzero h⟩, fun h => ?_⟩
    rw [hstage] at h
    cases h)
  refine ⟨hinv, fun v st hM => ?_, fun v h => ?_, hthreads, hlog ▸ hS.replies⟩
  · by_cases hv : v = task
    · rw [hv, hgone] at hM
      cases hM
    · exact hS.single v st (hother v hv ▸ hM)
  · by_cases hv : v = task
    · rw [hv]
      exact hgone
    · rw [recognisedOpen, hnest, Function.update_of_ne hv] at h
      rw [hother v hv]
      exact hS.idle v h

/-- A push by a thread with no open request: its stack, if any, is the new frame alone. -/
theorem Contention.push (hS : S.Contention) (hinv : S'.Inv) {th : Thread} {r' : Recording}
    {acquired : Bool} (hth : S.moves task th .push)
    (halt : th.recording.scratch.transaction.oneWay = true ∨ S.nest task = [])
    (hpush : S.Pushed th.recording acquired S'.map) (hlog : S'.log = S.log)
    (hnest : S'.nest = opens S.nest th.recording)
    (hthread : S'.thread = Function.update S.thread task (some ⟨r', th.note⟩))
    (hstage : r'.stage = .publish) : S'.Contention := by
  obtain ⟨-, hkaddr⟩ := hS.thread task th hth.1
  have hthreads := threads_update (Q := fun _ th => ReplyOk th) hthread hS.replyOk (by
    rintro th' ⟨⟩
    exact ⟨fun h => by simp [hstage] at h, fun h => by simp [hstage] at h⟩)
  have hopen : ∀ v, S'.recognisedOpen v = [] → S.recognisedOpen v = [] := by
    intro v h
    rw [recognisedOpen, hnest, opens] at h
    split at h
    · exact h
    · by_cases hv : v = th.recording.task.kaddr
      · rw [hv, Function.update_self, List.filter_cons] at h
        split at h
        · cases h
        · rwa [hv]
      · rwa [Function.update_of_ne hv] at h
  rcases hpush with ⟨-, hM⟩ | ⟨hrec, hsync, -, hp⟩
  · refine ⟨hinv, hM ▸ hS.single, fun v h => ?_, hthreads, hlog ▸ hS.replies⟩
    rw [hM]
    exact hS.idle v (hopen v h)
  · have hempty : S.nest task = [] := halt.resolve_left (by simp [hsync])
    have hnone : S.map th.recording.task.kaddr = none := by
      rw [hkaddr]
      exact hS.idle task (by simp [recognisedOpen, hempty])
    have hself := hp.of_none hnone
    refine ⟨hinv, fun v st hM => ?_, fun v h => ?_, hthreads, hlog ▸ hS.replies⟩
    · by_cases hv : v = th.recording.task.kaddr
      · rw [hv, hself] at hM
        cases hM
        rfl
      · rcases hp.other hv with h | ⟨h, -⟩
        · exact hS.single v st (h ▸ hM)
        · cases h.symm.trans hM
    · by_cases hv : v = th.recording.task.kaddr
      · rw [hv, recognisedOpen, hnest, opens] at h
        simp [hsync, hrec] at h
      · rcases hp.other hv with h' | ⟨h', -⟩
        · rw [h']
          exact hS.idle v (hopen v h)
        · exact h'

/-- **The step lemma** of alternating runs. -/
theorem Contention.step (hS : S.Contention) {l : Label} (halt : S.alternates l = true)
    (hleft : S.nothingLeft l = true) : (S.step l).Contention := by
  have hinv := hS.toInv.step (alternates_tickets halt)
  have heff := step_effect hS.toOrdered l
  generalize S.step l = S' at heff hinv ⊢
  cases heff with
  | idle => exact hS
  | @begin t stream command u s r ctx hfree ht hcmd htask hstream hcommand hid hstage htd hctx =>
    refine hS.quiet hinv (by simp only [map, hctx.pending]) rfl
      (threads_update (Q := fun _ th => ReplyOk th) rfl hS.replyOk ?_) hS.replies
    rintro th ⟨⟩
    subst hstream hcommand
    refine ⟨fun h => ?_, fun h hreply => ?_⟩
    · dsimp only at h
      rw [hstage] at h
      split at h <;> cases h
    · dsimp only at h hreply
      rw [hstage, hreply] at h
      cases h
  | @pop task acquired u th g id fl ctx hth hpinv hpop hctx =>
    obtain ⟨q, hq⟩ := alternates_pop halt hth
    exact hS.pop hinv hq (nothingLeft_pop hleft hth) hpop rfl (by rw [hq]; rfl) rfl rfl rfl
  | @parse task acquired u th st hth hst =>
    obtain ⟨q, hq, hzero⟩ := (hS.replyOk task th hth.1).parsing hth.2
    obtain ⟨hframed, hspec⟩ := emitParseHalCorrelatedReply_spec th.recording.requestId
      th.recording.requestFlags ⟨u, th.recording.scratch, S.ctx⟩
    rw [← hst] at hframed hspec
    refine hS.quiet hinv (by simp only [map, hframed.ctx.pending]) rfl
      (threads_update (Q := fun _ th => ReplyOk th) rfl hS.replyOk ?_) hS.replies
    rintro th' ⟨⟩
    refine ⟨fun h => (by cases h), fun _ _ => ⟨q, hq, fun hrec => ⟨hzero hrec, u, ?_⟩⟩⟩
    -- without a request id nothing is written
    rcases hspec with ⟨hw, -⟩ | ⟨-, huser, -⟩
    · exact absurd (hzero hrec) hw.correlated
    · exact congrArg (fun x => some (u, x)) huser
  | @reserve task acquired u th slot events hth =>
    have hok := hS.threads task th hth.1
    refine hS.quiet hinv rfl rfl
      (threads_update (Q := fun _ th => ReplyOk th) rfl hS.replyOk ?_) fun e he hkind => ?_
    · rintro th' ⟨⟩
      refine ⟨fun h => ?_, fun h => ?_⟩
      all_goals
        simp only [reserved] at h
        split at h <;> cases h
    · rw [List.mem_append, List.mem_singleton] at he
      rcases he with he | rfl
      · exact hS.replies e he hkind
      · exact (hS.replyOk task th hth.1).parsed hth.2 (isReply_of_eventKind hok.command hkind)
  | @push task acquired u th s ctx hth hs hpinv hpush hctx =>
    exact hS.push hinv hth (alternates_push halt hth) hpush rfl rfl rfl rfl
  | finish hth =>
    exact hS.quiet hinv rfl rfl
      (threads_update (Q := fun _ th => ReplyOk th) rfl hS.replyOk (by simp)) hS.replies
  | publishHal | publishConfig =>
    exact hS.quiet hinv rfl rfl hS.replyOk hS.replies

theorem Contention.init {ctx : KernelCounterContext} (h : Fresh ctx) :
    (Sys.init ctx).Contention where
  toInv := .init h
  single u st hM := by
    rw [map_init h] at hM
    cases hM
  idle u _ := by rw [map_init h]
  replyOk u th hth := by cases hth
  replies e he := by cases he

end
end Sys

/-- **Contention.** In every alternating run, whatever locks fail, as long as no pop fails while a
frame of its thread is pending, a reply to an unrecognised request carries no request id and its
payload is not written. -/
theorem contended_reply_untouched (ctx : KernelCounterContext) (h0 : Sys.Fresh ctx)
    (ls : List Label)
    (hrun : Lib.Along Sys.step
      (fun S l => S.alternates l = true ∧ S.nothingLeft l = true) (Sys.init ctx) ls) :
    ∀ e ∈ ((Sys.init ctx).run ls).log, e.event.kind = .bcReply →
      ∃ q, e.note.answers = some q ∧ (q.recognised = false →
        e.event.correlatedRequestId = 0 ∧ ∃ u, e.note.user = some (u, u)) := by
  have hS : ((Sys.init ctx).run ls).Contention :=
    hrun.induct (P := fun _ S => S.Contention) (Sys.Contention.init h0)
      fun _ _ _ hS hok => hS.step hok.1 hok.2
  exact hS.replies

/-- A recognised request whose push failed, its reply, then an unrecognised request and its
reply. -/
theorem contended_reply_untouched_failedPush :
    let t : TaskIdentity := ⟨64, 7, 5⟩
    let ls := deviceUniqueIdRequest t false ++ replyOf t false ++ otherRequest t ++ replyOf t true
    ∃ e ∈ ((Sys.init .zero).run ls).log, e.event.kind = .bcReply ∧ e.event.eventId = 4 ∧
      ∃ q, e.note.answers = some q ∧ (q.recognised = false →
        e.event.correlatedRequestId = 0 ∧ ∃ u, e.note.user = some (u, u)) := by
  intro t ls
  have hlog : (((Sys.init .zero).run ls).log[3]?.map fun e =>
      (e.event.kind, e.event.eventId)) = some (.bcReply, 4) := by decide +kernel
  obtain ⟨e, he, heq⟩ := Option.map_eq_some_iff.1 hlog
  have hmem := List.mem_of_getElem? he
  have hkind : e.event.kind = .bcReply := congrArg Prod.fst heq
  exact ⟨e, hmem, hkind, congrArg Prod.snd heq,
    contended_reply_untouched .zero ⟨rfl, rfl⟩ ls (by decide +kernel) e hmem hkind⟩

/-- The pop for a `deviceUniqueId` reply fails to take the lock. The thread's next reply answers an
unrecognised request; it takes the frame that was left, carries request id 1 and its first content
byte is overwritten. -/
theorem failed_pop_rewrites_next_reply :
    let t : TaskIdentity := ⟨64, 7, 5⟩
    let ls := deviceUniqueIdRequest t true ++ replyOf t false ++ otherRequest t ++ replyOf t true
    Sys.Fresh writingContext ∧
      Lib.Along Sys.step (fun S l => S.alternates l = true ∧ S.room t.kaddr = true ∧
        (S.step l).ctx.activeHalGeneration = S.ctx.activeHalGeneration)
        (Sys.init writingContext) ls ∧
      ∃ e ∈ ((Sys.init writingContext).run ls).log, e.event.kind = .bcReply ∧
        e.note.answers = some ⟨3, false⟩ ∧ e.event.correlatedRequestId = 1 ∧
        ∃ u u', e.note.user = some (u, u') ∧ u.byte 0x1008 = 0xaa ∧ u'.byte 0x1008 = 0x5a := by
  intro t ls
  have hlog : (((Sys.init writingContext).run ls).log[3]?.bind fun e => e.note.user.map fun p =>
      (e.event.kind, e.note.answers, e.event.correlatedRequestId, p.1.byte 0x1008,
        p.2.byte 0x1008)) = some (.bcReply, some ⟨3, false⟩, 1, 0xaa, 0x5a) := by decide +kernel
  obtain ⟨e, he, hmap⟩ := Option.bind_eq_some_iff.1 hlog
  obtain ⟨⟨u, u'⟩, huser, heq⟩ := Option.map_eq_some_iff.1 hmap
  obtain ⟨hkind, hans, hid, hb, hb'⟩ : e.event.kind = .bcReply ∧
      e.note.answers = some ⟨3, false⟩ ∧ e.event.correlatedRequestId = 1 ∧
      u.byte 0x1008 = 0xaa ∧ u'.byte 0x1008 = 0x5a := by simpa using heq
  exact ⟨⟨rfl, rfl⟩, by decide +kernel, e, List.mem_of_getElem? he, hkind, hans, hid, u, u', huser,
    hb, hb'⟩

end Drmid
