import Drmid.Lib.Tokens
import Drmid.Hook.Proof.SystemSteps

/-!
# A request id travels

The id of a recognised synchronous request is a token. It is created when the request's event is
reserved, waits in the thread that is about to push it, then lies in a frame of the pending table,
then in the thread whose reply popped it, and ends in the event of that reply. At every moment it
is at one of these places at most (`Sys.Inv.once`), and at each of them the event of its request is
in the log under the place's own task pointer (`Sys.Inv.backed`). `reply_correlation` reads this
off the log.
-/

namespace Drmid

/-- Where a request id can be. -/
inductive Place
  | pushing (task : UInt64)
  | stored (task : UInt64) (i : Nat)
  | held (task : UInt64)
  | used (n : Nat)
  deriving DecidableEq

/-- The event records a recognised synchronous request `r` of `task`. -/
structure Recorded.Backs (e : Recorded) (r task : UInt64) : Prop where
  id : e.event.eventId = r
  kind : e.event.kind = .brTransaction ∨ e.event.kind = .brTransactionSecCtx
  recognised : deviceUniqueIdFlag e.event.parcelFlags = true
  sync : e.event.flags &&& 1 = 0
  task : e.event.taskKaddr = task

/-- The pop took request `r` off the table while the generation stored with it was active. -/
def Note.Fresh (note : Note) (r : UInt64) : Prop :=
  ∃ f, note.popped = some f ∧ f.requestEventId = r ∧ f.halIdentityGeneration = note.generation

namespace Sys

/-- Request id `r` is at place `p`. -/
inductive At (S : Sys) : Place → UInt64 → Prop
  | pushing {u : UInt64} {th : Thread} (hth : S.moves u th .push)
      (hrec : th.recording.recognised = true)
      (hsync : th.recording.scratch.transaction.oneWay = false) :
      At S (.pushing u) th.recording.eventId
  | stored {u : UInt64} {i : Nat} {f : BinderPendingFrame} (hf : S.map.frameAt u i = some f) :
      At S (.stored u i) f.requestEventId
  | held {u : UInt64} {th : Thread} (hth : S.thread u = some th)
      (hstage : th.recording.stage = .parse ∨ th.recording.stage = .reserve)
      (h0 : th.recording.requestId ≠ 0) : At S (.held u) th.recording.requestId
  | used {n : Nat} {e : Recorded} (he : S.log[n]? = some e)
      (h0 : e.event.correlatedRequestId ≠ 0) : At S (.used n) e.event.correlatedRequestId

/-- The task pointer of a place. -/
def owner (S : Sys) : Place → UInt64
  | .pushing u | .stored u _ | .held u => u
  | .used n => (S.log[n]?.map fun e => e.event.taskKaddr).getD 0

/-- What a thread's registers satisfy: only replies pop and parse, and only they carry a request
id; a request about to be pushed has its event in the log. -/
structure ThreadOk (S : Sys) (th : Thread) : Prop where
  command : th.recording.command ∈ th.recording.stream.transactionCommands
  reply : th.recording.stage = .pop ∨ th.recording.stage = .parse →
    isReply th.recording.stream th.recording.command = true
  requestId : isReply th.recording.stream th.recording.command = false →
    th.recording.requestId = 0
  fresh : th.recording.stage = .parse ∨ th.recording.stage = .reserve →
    th.recording.requestId ≠ 0 → th.note.Fresh th.recording.requestId
  pushing : th.recording.stage = .push →
    isRequest th.recording.stream th.recording.command = true ∧
      ∃ e ∈ S.log, e.event = th.recording.event

/-- What holds of a recorded event. -/
structure EventOk (S : Sys) (e : Recorded) : Prop where
  id_pos : e.event.eventId ≠ 0
  id_le : e.event.eventId ≤ S.ctx.eventWriteIndex
  earlier : e.event.correlatedRequestId ≠ 0 → e.event.correlatedRequestId < e.event.eventId
  fresh : e.event.correlatedRequestId ≠ 0 → e.note.Fresh e.event.correlatedRequestId

/-- The invariant of the system. -/
structure Inv (S : Sys) : Prop extends Ordered S where
  threads : ∀ u th, S.thread u = some th → S.ThreadOk th
  events : ∀ e ∈ S.log, S.EventOk e
  ids : (S.log.map fun e => e.event.eventId).Nodup
  once : Lib.AtMostOnce S.At
  backed : ∀ p r, S.At p r → ∃ e ∈ S.log, e.Backs r (S.owner p)

/-! ## Requests and replies -/

theorem isReply_of_isRequest {stream : StreamType} {command : UInt32}
    (h : isRequest stream command = true) : isReply stream command = false := by
  cases stream <;> simp_all [isRequest, isReply]

/-- The event kind of a request. -/
theorem eventKind_request {stream : StreamType} {command : UInt32}
    (h : isRequest stream command = true) :
    eventKind stream command = .brTransaction ∨
      eventKind stream command = .brTransactionSecCtx := by
  cases stream with
  | bc => simp [isRequest] at h
  | br =>
    have hne : command ≠ brReply := by simpa [isRequest] using h
    simp only [eventKind, if_neg hne]
    split
    · exact .inr rfl
    · exact .inl rfl

/-- The command of a reply event. -/
theorem isReply_of_eventKind {stream : StreamType} {command : UInt32}
    (hcmd : command ∈ stream.transactionCommands)
    (h : eventKind stream command = .bcReply) : isReply stream command = true := by
  cases stream with
  | br =>
    simp only [eventKind] at h
    split at h
    · cases h
    · split at h <;> cases h
  | bc =>
    simp only [eventKind] at h
    split at h
    · cases h
    · rename_i hne
      simp only [StreamType.transactionCommands, List.mem_cons, List.not_mem_nil, or_false] at hcmd
      rcases hcmd with rfl | rfl | rfl | rfl
      · exact absurd (.inl rfl) hne
      · rfl
      · exact absurd (.inr rfl) hne
      · rfl

theorem oneWay_eq_false {td : BinderTransactionData} (h : td.oneWay = false) :
    td.flags &&& 1 = 0 := by
  simpa [BinderTransactionData.oneWay] using h

/-- A request about to be pushed is backed by the event it has just recorded. -/
theorem ThreadOk.backs {S : Sys} {th : Thread} (h : S.ThreadOk th)
    (hstage : th.recording.stage = .push) (hrec : th.recording.recognised = true)
    (hsync : th.recording.scratch.transaction.oneWay = false) :
    ∃ e ∈ S.log, e.Backs th.recording.eventId th.recording.task.kaddr := by
  obtain ⟨hreq, e, he, heq⟩ := h.pushing hstage
  refine ⟨e, he, ?_, ?_, ?_, ?_, ?_⟩ <;> rw [heq]
  · rfl
  · exact eventKind_request hreq
  · exact hrec
  · exact oneWay_eq_false hsync
  · rfl

/-! ## What one step moves -/

section
variable {S S' : Sys} {task : UInt64} {p : Place} {r : UInt64}

theorem At.pushing_inv {u : UInt64} (h : S.At (.pushing u) r) :
    ∃ th, S.moves u th .push ∧ th.recording.recognised = true ∧
      th.recording.scratch.transaction.oneWay = false ∧ th.recording.eventId = r := by
  cases h with
  | pushing hth hrec hsync => exact ⟨_, hth, hrec, hsync, rfl⟩

theorem At.held_inv {u : UInt64} (h : S.At (.held u) r) :
    ∃ th, S.thread u = some th ∧
      (th.recording.stage = .parse ∨ th.recording.stage = .reserve) ∧
      th.recording.requestId = r ∧ r ≠ 0 := by
  cases h with
  | held hth hstage h0 => exact ⟨_, hth, hstage, rfl, h0⟩

/-- A token found after a step of `task`: it was there before, or it is with `task`, in a new
frame or in a new event. -/
theorem At.split (hthread : ∀ v, v ≠ task → S'.thread v = S.thread v) (h : S'.At p r) :
    S.At p r ∨ p = .pushing task ∨ p = .held task ∨
      (∃ u i f, p = .stored u i ∧ r = f.requestEventId ∧ S'.map.frameAt u i = some f ∧
        S.map.frameAt u i ≠ some f) ∨
      (∃ n e, p = .used n ∧ r = e.event.correlatedRequestId ∧ r ≠ 0 ∧ S'.log[n]? = some e ∧
        S.log[n]? ≠ some e) := by
  cases h with
  | @pushing u th hth hrec hsync =>
    by_cases hu : u = task
    · exact .inr (.inl (by rw [hu]))
    · exact .inl (.pushing ⟨hthread u hu ▸ hth.1, hth.2⟩ hrec hsync)
  | @stored u i f hf =>
    by_cases hold : S.map.frameAt u i = some f
    · exact .inl (.stored hold)
    · exact .inr (.inr (.inr (.inl ⟨u, i, f, rfl, rfl, hf, hold⟩)))
  | @held u th hth hstage h0 =>
    by_cases hu : u = task
    · exact .inr (.inr (.inl (by rw [hu])))
    · exact .inl (.held (hthread u hu ▸ hth) hstage h0)
  | @used n e he h0 =>
    by_cases hold : S.log[n]? = some e
    · exact .inl (.used hold h0)
    · exact .inr (.inr (.inr (.inr ⟨n, e, rfl, rfl, h0, he, hold⟩)))

/-- The owner of an occupied place does not change while the log grows. -/
theorem At.owner_eq {more : List Recorded} (hlog : S'.log = S.log ++ more) (h : S.At p r) :
    S'.owner p = S.owner p := by
  cases h with
  | pushing | stored | held => rfl
  | @used n e he h0 =>
    obtain ⟨hlt, -⟩ := List.getElem?_eq_some_iff.1 he
    simp only [owner, hlog, List.getElem?_append_left hlt]

/-- Tokens that stay keep their backing. -/
theorem Inv.backed_of_at (hS : S.Inv) (more : List Recorded) (hlog : S'.log = S.log ++ more)
    (h : S.At p r) : ∃ e ∈ S'.log, e.Backs r (S'.owner p) := by
  obtain ⟨e, he, hb⟩ := hS.backed p r h
  refine ⟨e, hlog ▸ List.mem_append_left _ he, ?_⟩
  rw [h.owner_eq hlog]
  exact hb

/-- What a thread satisfied it still satisfies while the log grows. -/
theorem ThreadOk.mono {th : Thread} (h : S.ThreadOk th) (hlog : ∀ e ∈ S.log, e ∈ S'.log) :
    S'.ThreadOk th :=
  { h with
    pushing := fun hstage => by
      obtain ⟨hreq, e, he, heq⟩ := h.pushing hstage
      exact ⟨hreq, e, hlog e he, heq⟩ }

/-- The threads after `task` got the recording `x`, or left. -/
theorem Inv.threads_update (hS : S.Inv) {x : Option Thread}
    (hx : ∀ th, x = some th → task ≠ 0 ∧ th.recording.task.kaddr = task ∧ S'.ThreadOk th)
    (hthread : S'.thread = Function.update S.thread task x)
    (hlog : ∀ e ∈ S.log, e ∈ S'.log) :
    ∀ u th, S'.thread u = some th →
      (u ≠ 0 ∧ th.recording.task.kaddr = u) ∧ S'.ThreadOk th :=
  Sys.threads_update hthread
    (fun u th h => ⟨hS.thread u th h, (hS.threads u th h).mono hlog⟩)
    fun th h => ⟨⟨(hx th h).1, (hx th h).2.1⟩, (hx th h).2.2⟩

/-- A step that moves no token and records nothing. -/
theorem Inv.quiet (hS : S.Inv) (htable : PendingInv S'.ctx.pending)
    (hindex : S'.ctx.eventWriteIndex = S.ctx.eventWriteIndex) (hlog : S'.log = S.log)
    (hthreads : ∀ u th, S'.thread u = some th →
      (u ≠ 0 ∧ th.recording.task.kaddr = u) ∧ S'.ThreadOk th)
    (hat : ∀ p r, S'.At p r → S.At p r) : S'.Inv where
  table := htable
  thread u th h := (hthreads u th h).1
  threads u th h := (hthreads u th h).2
  events e he := by
    obtain ⟨h1, h2, h3, h4⟩ := hS.events e (hlog ▸ he)
    exact ⟨h1, hindex ▸ h2, h3, h4⟩
  ids := hlog ▸ hS.ids
  once := hS.once.shrink hat
  backed p r h := hS.backed_of_at [] (by simp [hlog]) (hat p r h)

/-- Tokens after `task`'s recording became `x`, table and log being as they were. -/
theorem At.of_thread {x : Option Thread} (h : S'.At p r)
    (hthread : S'.thread = Function.update S.thread task x)
    (hmap : S'.map = S.map) (hlog : S'.log = S.log)
    (hpushing : ∀ r, S'.At (.pushing task) r → S.At (.pushing task) r)
    (hheld : ∀ r, S'.At (.held task) r → S.At (.held task) r) : S.At p r := by
  have hother : ∀ v, v ≠ task → S'.thread v = S.thread v := fun v hv => by
    rw [hthread, Function.update_of_ne hv]
  rcases h.split hother with h' | rfl | rfl | ⟨u, i, f, -, -, hf, hnew⟩ | ⟨n, e, -, -, -, he, hnew⟩
  · exact h'
  · exact hpushing r h
  · exact hheld r h
  · exact absurd (hmap ▸ hf) hnew
  · exact absurd (hlog ▸ he) hnew

/-- A thread that is not about to push holds no token there. -/
theorem not_at_pushing {th : Thread} (hth : S.thread task = some th)
    (hstage : th.recording.stage ≠ .push) : ¬S.At (.pushing task) r := by
  intro h
  obtain ⟨th', hm, -⟩ := h.pushing_inv
  cases hth.symm.trans hm.1
  exact hstage hm.2

/-- A thread past its reply's event, or before its pop, holds no token. -/
theorem not_at_held {th : Thread} (hth : S.thread task = some th)
    (hstage : th.recording.stage ≠ .parse) (hstage' : th.recording.stage ≠ .reserve) :
    ¬S.At (.held task) r := by
  intro h
  obtain ⟨th', hm, hst, -⟩ := h.held_inv
  cases hth.symm.trans hm
  exact hst.elim hstage hstage'

end

/-! ## The stages keep the invariant -/

section
variable {S S' : Sys} {task : UInt64} {th th' : Thread}

/-- A recording begins. -/
theorem Inv.begin (hS : S.Inv) {r : Recording} (ht : r.task.kaddr ≠ 0)
    (hcmd : r.command ∈ r.stream.transactionCommands) (hid : r.requestId = 0)
    (hstage : r.stage = if isReply r.stream r.command then .pop else .reserve)
    (hctx : S.ctx.SameButTelemetry S'.ctx) (hlog : S'.log = S.log)
    (hthread : S'.thread = Function.update S.thread r.task.kaddr (some ⟨r, .empty⟩)) :
    S'.Inv := by
  have hself := thread_self hthread
  have hnotpush : r.stage ≠ .push := by
    rw [hstage]
    split <;> simp
  have hok : S.ThreadOk ⟨r, .empty⟩ := by
    refine ⟨hcmd, fun h => ?_, fun _ => hid, fun _ h => absurd hid h, fun h => absurd h hnotpush⟩
    dsimp only at h ⊢
    rw [hstage] at h
    cases hr : isReply r.stream r.command with
    | true => rfl
    | false => simp [hr] at h
  have hkeep : ∀ e ∈ S.log, e ∈ S'.log := fun e he => hlog ▸ he
  refine hS.quiet ?_ hctx.eventWriteIndex hlog (hS.threads_update ?_ hthread hkeep) fun p q h => ?_
  · rw [hctx.pending]
    exact hS.table
  · rintro th ⟨⟩
    exact ⟨ht, rfl, hok.mono hkeep⟩
  · refine h.of_thread hthread (by simp only [map, hctx.pending]) hlog (fun q h => ?_)
      fun q h => ?_
    · exact absurd h (not_at_pushing hself hnotpush)
    · obtain ⟨th, hth, -, hq, h0⟩ := h.held_inv
      cases hself.symm.trans hth
      exact absurd (hq.symm.trans hid) h0

/-- A pop moves the id from the top of the thread's stack into its registers. -/
theorem Inv.pop (hS : S.Inv) (hth : S.moves task th .pop) {acquired : Bool} {g id : UInt64}
    {fl : UInt32} (hinv : PendingInv S'.ctx.pending)
    (hpop : S.Popped task acquired (id, fl) S'.map)
    (hindex : S'.ctx.eventWriteIndex = S.ctx.eventWriteIndex) (hlog : S'.log = S.log)
    (hthread : S'.thread = Function.update S.thread task (some ⟨{ th.recording with
      stage := .parse
      scratch := { th.recording.scratch with halIdentityGeneration := g }
      requestId := id
      requestFlags := fl }, S.popNote task acquired⟩)) : S'.Inv := by
  have hself := thread_self hthread
  have hkeep : ∀ e ∈ S.log, e ∈ S'.log := fun e he => hlog ▸ he
  have hok := hS.threads task th hth.1
  have hreply := hok.reply (.inl hth.2)
  -- no frame appears, and the popped one is gone
  have hsub : ∀ u i f, S'.map.frameAt u i = some f → S.map.frameAt u i = some f := by
    rcases hpop with ⟨-, -, hM⟩ | ⟨-, hp⟩
    · rw [hM]
      exact fun _ _ _ h => h
    · exact hp.frameAt.1
  have htop : id ≠ 0 → (S.popNote task acquired).Fresh id ∧
      ∃ n, S.At (.stored task n) id ∧ ¬S'.At (.stored task n) id := by
    intro h0
    rcases hpop with ⟨-, hout, -⟩ | ⟨hacq, hp⟩
    · exact absurd (congrArg Prod.fst hout) h0
    · obtain ⟨st, hM, hout, hg, hnone⟩ := hp.frameAt.2 h0
      have hid : id = st.top.requestEventId := congrArg Prod.fst hout
      refine ⟨⟨st.top, ?_, hid.symm, hg⟩, st.frames.length - 1, ?_, fun h => ?_⟩
      · rw [map] at hM
        simp only [popNote, hacq, if_true, hM, Option.map_some]
      · rw [hid]
        exact .stored (PendingMap.frameAt_top hM)
      · cases h with
        | stored hf =>
          rw [hnone] at hf
          cases hf
  have hmove : ∀ p r, S'.At p r →
      S.At p r ∨ (p = .held task ∧ r = id ∧ id ≠ 0) := by
    intro p r h
    rcases h.split (thread_other hthread) with
      h' | rfl | rfl | ⟨u, i, f, -, -, hf, hnew⟩ | ⟨n, e, -, -, -, he, hnew⟩
    · exact .inl h'
    · exact absurd h (not_at_pushing hself (by simp))
    · obtain ⟨th', hth', -, rfl, h0⟩ := h.held_inv
      cases hself.symm.trans hth'
      exact .inr ⟨rfl, rfl, h0⟩
    · exact absurd (hsub u i f hf) hnew
    · exact absurd (hlog ▸ he) hnew
  have hthreads := hS.threads_update (x := some ⟨_, S.popNote task acquired⟩) ?_ hthread hkeep
  · refine ⟨⟨hinv, fun u th h => (hthreads u th h).1⟩, fun u th h => (hthreads u th h).2,
      fun e he => ?_, hlog ▸ hS.ids, hS.once.move (.held task) fun p r h => ?_,
      fun p r h => ?_⟩
    · obtain ⟨h1, h2, h3, h4⟩ := hS.events e (hlog ▸ he)
      exact ⟨h1, hindex ▸ h2, h3, h4⟩
    · rcases hmove p r h with h' | ⟨rfl, rfl, h0⟩
      · exact .inl h'
      · obtain ⟨-, n, hn, hn'⟩ := htop h0
        exact .inr ⟨rfl, hS.once.gone hn hn'⟩
    · rcases hmove p r h with h' | ⟨rfl, rfl, h0⟩
      · exact hS.backed_of_at [] (by simp [hlog]) h'
      · obtain ⟨-, n, hn, -⟩ := htop h0
        obtain ⟨e, he, hb⟩ := hS.backed _ _ hn
        exact ⟨e, hkeep e he, hb⟩
  · rintro th' ⟨⟩
    refine ⟨(hS.thread task th hth.1).1, (hS.thread task th hth.1).2, hok.command, fun _ => hreply,
      fun h => ?_, fun _ h0 => (htop h0).1, fun h => by cases h⟩
    rw [hreply] at h
    cases h

/-- A parse leaves the id where it is. -/
theorem Inv.parse (hS : S.Inv) (hth : S.moves task th .parse) {s : ParserScratch}
    {user : Option (UserMemory × UserMemory)} (hctx : S.ctx.SameButTelemetry S'.ctx)
    (hlog : S'.log = S.log)
    (hthread : S'.thread = Function.update S.thread task
      (some ⟨{ th.recording with stage := .reserve, scratch := s },
        { th.note with user := user }⟩)) : S'.Inv := by
  have hself := thread_self hthread
  have hkeep : ∀ e ∈ S.log, e ∈ S'.log := fun e he => hlog ▸ he
  have hok := hS.threads task th hth.1
  refine hS.quiet ?_ hctx.eventWriteIndex hlog (hS.threads_update ?_ hthread hkeep) fun p r h => ?_
  · rw [hctx.pending]
    exact hS.table
  · rintro th' ⟨⟩
    exact ⟨(hS.thread task th hth.1).1, (hS.thread task th hth.1).2, hok.command,
      fun _ => hok.reply (.inr hth.2), hok.requestId, fun _ => hok.fresh (.inl hth.2),
      fun h => by cases h⟩
  · refine h.of_thread hthread (by simp only [map, hctx.pending]) hlog (fun r h => ?_)
      fun r h => ?_
    · exact absurd h (not_at_pushing hself (by simp))
    · obtain ⟨th', hth', -, rfl, h0⟩ := h.held_inv
      cases hself.symm.trans hth'
      exact (At.held hth.1 (.inl hth.2) h0 : S.At (.held task) th.recording.requestId)

/-- A thread leaves the handler. -/
theorem Inv.finish (hS : S.Inv) (hpending : S'.ctx.pending = S.ctx.pending)
    (hindex : S'.ctx.eventWriteIndex = S.ctx.eventWriteIndex) (hlog : S'.log = S.log)
    (hthread : S'.thread = Function.update S.thread task none) : S'.Inv := by
  have hself := thread_self hthread
  refine hS.quiet (hpending ▸ hS.table) hindex hlog
    (hS.threads_update (fun _ h => by cases h) hthread fun e he => hlog ▸ he) fun p r h => ?_
  refine h.of_thread hthread (by simp only [map, hpending]) hlog (fun r h => ?_) fun r h => ?_
  · obtain ⟨th, hm, -⟩ := h.pushing_inv
    cases hself.symm.trans hm.1
  · obtain ⟨th, hth, -⟩ := h.held_inv
    cases hself.symm.trans hth

/-- A publisher's store changes nothing the invariant speaks about. -/
theorem Inv.publish (hS : S.Inv) (hpending : S'.ctx.pending = S.ctx.pending)
    (hindex : S'.ctx.eventWriteIndex = S.ctx.eventWriteIndex) (hlog : S'.log = S.log)
    (hthread : S'.thread = S.thread) : S'.Inv := by
  have hkeep : ∀ e ∈ S.log, e ∈ S'.log := fun e he => hlog ▸ he
  refine hS.quiet (hpending ▸ hS.table) hindex hlog (fun u th h => ?_) fun p r h => ?_
  · rw [hthread] at h
    exact ⟨hS.thread u th h, (hS.threads u th h).mono hkeep⟩
  · have hthread' : S'.thread = Function.update S.thread 0 (S.thread 0) := by
      rw [hthread, Function.update_eq_self]
    refine h.of_thread hthread' (by simp only [map, hpending]) hlog (fun r h => ?_) fun r h => ?_
    · obtain ⟨th, hm, hrec, hsync, rfl⟩ := h.pushing_inv
      exact .pushing ⟨hthread ▸ hm.1, hm.2⟩ hrec hsync
    · obtain ⟨th, hth, hstage, rfl, h0⟩ := h.held_inv
      exact .held (hthread ▸ hth) hstage h0

/-- A push moves the id from the thread's registers into a frame of its stack. -/
theorem Inv.push (hS : S.Inv) (hth : S.moves task th .push) {acquired : Bool} {s : ParserScratch}
    (hinv : PendingInv S'.ctx.pending) (hpush : S.Pushed th.recording acquired S'.map)
    (hindex : S'.ctx.eventWriteIndex = S.ctx.eventWriteIndex) (hlog : S'.log = S.log)
    (hthread : S'.thread = Function.update S.thread task
      (some ⟨{ th.recording with stage := .publish, scratch := s }, th.note⟩)) : S'.Inv := by
  have hself := thread_self hthread
  have hkeep : ∀ e ∈ S.log, e ∈ S'.log := fun e he => hlog ▸ he
  have hok := hS.threads task th hth.1
  obtain ⟨h0, hkaddr⟩ := hS.thread task th hth.1
  -- the one new frame holds the id that was about to be pushed
  have hnew : ∃ n, ∀ u i f, S'.map.frameAt u i = some f → S.map.frameAt u i = some f ∨
      (u = task ∧ i = n ∧ S.At (.pushing task) f.requestEventId) := by
    rcases hpush with ⟨-, hM⟩ | ⟨hrec, hsync, -, hp⟩
    · exact ⟨0, fun u i f hf => .inl (hM ▸ hf)⟩
    · obtain ⟨n, hn⟩ := hp.frameAt
      refine ⟨n, fun u i f hf => (hn u i f hf).imp id ?_⟩
      rintro ⟨rfl, rfl, rfl⟩
      exact ⟨hkaddr, rfl, .pushing hth hrec hsync⟩
  obtain ⟨n, hn⟩ := hnew
  have hgone : ∀ r, ¬S'.At (.pushing task) r := fun r => not_at_pushing hself (by simp)
  have hmove : ∀ p r, S'.At p r →
      S.At p r ∨ (p = .stored task n ∧ S.At (.pushing task) r) := by
    intro p r h
    rcases h.split (thread_other hthread) with
      h' | rfl | rfl | ⟨u, i, f, rfl, rfl, hf, hne⟩ | ⟨n, e, -, -, -, he, hne⟩
    · exact .inl h'
    · exact absurd h (hgone r)
    · exact absurd h (not_at_held hself (by simp) (by simp))
    · rcases hn u i f hf with hf' | ⟨rfl, rfl, hat⟩
      · exact absurd hf' hne
      · exact .inr ⟨rfl, hat⟩
    · exact absurd (hlog ▸ he) hne
  have hthreads := hS.threads_update (x := some ⟨_, th.note⟩) ?_ hthread hkeep
  · refine ⟨⟨hinv, fun u th h => (hthreads u th h).1⟩, fun u th h => (hthreads u th h).2,
      fun e he => ?_, hlog ▸ hS.ids, hS.once.move (.stored task n) fun p r h => ?_,
      fun p r h => ?_⟩
    · obtain ⟨h1, h2, h3, h4⟩ := hS.events e (hlog ▸ he)
      exact ⟨h1, hindex ▸ h2, h3, h4⟩
    · rcases hmove p r h with h' | ⟨rfl, hat⟩
      · exact .inl h'
      · exact .inr ⟨rfl, hS.once.gone hat (hgone r)⟩
    · rcases hmove p r h with h' | ⟨rfl, hat⟩
      · exact hS.backed_of_at [] (by simp [hlog]) h'
      · obtain ⟨e, he, hb⟩ := hS.backed _ _ hat
        exact ⟨e, hkeep e he, hb⟩
  · rintro th' ⟨⟩
    exact ⟨h0, hkaddr, hok.command, fun h => by simp at h, hok.requestId, fun h => by simp at h,
      fun h => by cases h⟩

/-- The next ticket is larger than every id in the log. -/
theorem Inv.ticket_lt (hS : S.Inv) (hleft : S.ctx.eventWriteIndex.toNat + 2 < 2 ^ 64)
    {e : Recorded} (he : e ∈ S.log) : e.event.eventId < S.ctx.eventWriteIndex + 1 := by
  have h := UInt64.le_iff_toNat_le.1 (hS.events e he).id_le
  rw [UInt64.lt_iff_toNat_lt, UInt64.toNat_add]
  simp only [UInt64.reduceToNat]
  omega

/-- A token is the id of an event in the log. -/
theorem Inv.at_lt (hS : S.Inv) (hleft : S.ctx.eventWriteIndex.toNat + 2 < 2 ^ 64) {p : Place}
    {r : UInt64} (h : S.At p r) : r < S.ctx.eventWriteIndex + 1 := by
  obtain ⟨e, he, hb⟩ := hS.backed p r h
  exact hb.id ▸ hS.ticket_lt hleft he

/-- A reservation: what the event of `th` is recorded in. -/
structure Reserves (S S' : Sys) (task : UInt64) (th : Thread) (slot : Fin 256) : Prop where
  thread : S.moves task th .reserve
  left : S.ctx.eventWriteIndex.toNat + 2 < 2 ^ 64
  pending : S'.ctx.pending = S.ctx.pending
  index : S'.ctx.eventWriteIndex = S.ctx.eventWriteIndex + 1
  threads : S'.thread = Function.update S.thread task
    (some ⟨S.reserved th.recording slot, th.note⟩)
  log : S'.log = S.log ++ [⟨(S.reserved th.recording slot).event, th.note⟩]

namespace Reserves

variable {slot : Fin 256} {p : Place} {r : UInt64}

theorem self (h : Reserves S S' task th slot) :
    S'.thread task = some ⟨S.reserved th.recording slot, th.note⟩ := thread_self h.threads

theorem kept (h : Reserves S S' task th slot) : ∀ e ∈ S.log, e ∈ S'.log :=
  fun _ he => h.log ▸ List.mem_append_left _ he

theorem held (h : Reserves S S' task th slot) (h0 : th.recording.requestId ≠ 0) :
    S.At (.held task) th.recording.requestId := .held h.thread.1 (.inr h.thread.2) h0

theorem ticket_toNat (h : Reserves S S' task th slot) :
    (S.ctx.eventWriteIndex + 1).toNat = S.ctx.eventWriteIndex.toNat + 1 := by
  have hleft := h.left
  rw [UInt64.toNat_add]
  simp only [UInt64.reduceToNat]
  omega

/-- A request goes on to its push. -/
theorem pushes (h : (S.reserved th.recording slot).stage = .push) :
    isRequest th.recording.stream th.recording.command = true := by
  simp only [reserved] at h
  split at h
  · assumption
  · cases h

theorem not_held (h : Reserves S S' task th slot) : ¬S'.At (.held task) r := by
  refine not_at_held h.self ?_ ?_ <;>
  · simp only [reserved]
    split <;> simp

/-- Where the tokens are: a request created one, a reply moved the one it held. -/
theorem tokens (h : Reserves S S' task th slot) (hat : S'.At p r) :
    S.At p r ∨
      (p = .pushing task ∧ r = S.ctx.eventWriteIndex + 1 ∧
        isRequest th.recording.stream th.recording.command = true) ∨
      (p = .used S.log.length ∧ r = th.recording.requestId ∧ r ≠ 0) := by
  rcases hat.split (thread_other h.threads) with
    hold | rfl | rfl | ⟨u, i, f, -, -, hf, hnew⟩ | ⟨n, e, rfl, rfl, hr0, he, hnew⟩
  · exact .inl hold
  · obtain ⟨th', hm, -, -, rfl⟩ := hat.pushing_inv
    cases h.self.symm.trans hm.1
    exact .inr (.inl ⟨rfl, rfl, pushes hm.2⟩)
  · exact absurd hat h.not_held
  · have hmap : S'.map = S.map := by simp only [map, h.pending]
    exact absurd (hmap ▸ hf) hnew
  · rw [h.log, List.getElem?_append] at he
    split at he
    · exact absurd he hnew
    · rename_i hge
      rw [List.getElem?_singleton] at he
      split at he
      · cases he
        exact .inr (.inr ⟨by congr 1; omega, rfl, hr0⟩)
      · cases he

theorem threadOk (h : Reserves S S' task th slot) (hok : S.ThreadOk th) :
    S'.ThreadOk ⟨S.reserved th.recording slot, th.note⟩ := by
  refine ⟨hok.command, fun hst => ?_, hok.requestId, fun hst => ?_, fun hst => ⟨pushes hst, ?_⟩⟩
  · simp only [reserved] at hst
    split at hst <;> simp at hst
  · simp only [reserved] at hst
    split at hst <;> simp at hst
  · exact ⟨_, h.log ▸ List.mem_append_right _ (List.mem_singleton_self _), rfl⟩

theorem eventOk (h : Reserves S S' task th slot) (hS : S.Inv) {e : Recorded} (he : e ∈ S'.log) :
    S'.EventOk e := by
  rw [h.log, List.mem_append, List.mem_singleton] at he
  rcases he with he | rfl
  · obtain ⟨hpos, hle, hearlier, hfresh⟩ := hS.events e he
    refine ⟨hpos, ?_, hearlier, hfresh⟩
    rw [h.index]
    exact UInt64.le_of_lt (hS.ticket_lt h.left he)
  · refine ⟨fun h0 => ?_, ?_, fun h0 => hS.at_lt h.left (h.held h0), fun h0 => ?_⟩
    · have hzero := congrArg UInt64.toNat h0
      simp only [Recording.event, reserved, h.ticket_toNat, UInt64.toNat_zero] at hzero
      omega
    · rw [h.index]
      exact UInt64.le_refl _
    · exact (hS.threads task th h.thread.1).fresh (.inr h.thread.2) h0

theorem ids (h : Reserves S S' task th slot) (hS : S.Inv) :
    (S'.log.map fun e => e.event.eventId).Nodup := by
  rw [h.log, List.map_append, List.map_singleton, List.nodup_append]
  refine ⟨hS.ids, by simp, fun a ha b hb hab => ?_⟩
  obtain ⟨e, he, rfl⟩ := List.mem_map.1 ha
  rw [List.mem_singleton.1 hb] at hab
  exact absurd (hab ▸ hS.ticket_lt h.left he) (UInt64.lt_irrefl _)

/-- A request creates an id, a reply moves one: never both. -/
theorem once (h : Reserves S S' task th slot) (hS : S.Inv) : Lib.AtMostOnce S'.At := by
  cases hreq : isRequest th.recording.stream th.recording.command with
  | true =>
    have hzero := (hS.threads task th h.thread.1).requestId (isReply_of_isRequest hreq)
    refine hS.once.move (.pushing task) fun p r hat => ?_
    rcases h.tokens hat with hold | ⟨rfl, rfl, -⟩ | ⟨-, rfl, hr0⟩
    · exact .inl hold
    · refine .inr ⟨rfl, fun q hq => ?_⟩
      exact absurd (hS.at_lt h.left hq) (UInt64.lt_irrefl _)
    · exact absurd hzero hr0
  | false =>
    refine hS.once.move (.used S.log.length) fun p r hat => ?_
    rcases h.tokens hat with hold | ⟨-, -, htrue⟩ | ⟨rfl, rfl, hr0⟩
    · exact .inl hold
    · rw [hreq] at htrue
      cases htrue
    · exact .inr ⟨rfl, hS.once.gone (h.held hr0) h.not_held⟩

theorem backed (h : Reserves S S' task th slot) (hS : S.Inv) (hat : S'.At p r) :
    ∃ e ∈ S'.log, e.Backs r (S'.owner p) := by
  have hkaddr : th.recording.task.kaddr = task := (hS.thread task th h.thread.1).2
  rcases h.tokens hat with hold | ⟨rfl, rfl, -⟩ | ⟨rfl, rfl, hr0⟩
  · exact hS.backed_of_at _ h.log hold
  · obtain ⟨th', hm, hrec, hsync, -⟩ := hat.pushing_inv
    cases h.self.symm.trans hm.1
    obtain ⟨e, he, hb⟩ :=
      (h.threadOk (hS.threads task th h.thread.1)).backs hm.2 hrec hsync
    refine ⟨e, he, ?_⟩
    have hk : (S.reserved th.recording slot).task.kaddr = task := hkaddr
    rw [hk] at hb
    exact hb
  · obtain ⟨e, he, hb⟩ := hS.backed _ _ (h.held hr0)
    refine ⟨e, h.kept e he, ?_⟩
    have hown : S'.owner (.used S.log.length) = task := by
      simp [owner, h.log, Recording.event, reserved, hkaddr]
    rw [hown]
    exact hb

end Reserves

/-- A reservation creates the id of a request, or moves the id a reply holds into its event. -/
theorem Inv.reserve (hS : S.Inv) {slot : Fin 256} (h : Reserves S S' task th slot) : S'.Inv := by
  obtain ⟨h0, hkaddr⟩ := hS.thread task th h.thread.1
  have hok := h.threadOk (hS.threads task th h.thread.1)
  have hself : ∀ th', some ⟨S.reserved th.recording slot, th.note⟩ = some th' →
      task ≠ 0 ∧ th'.recording.task.kaddr = task ∧ S'.ThreadOk th' := by
    rintro th' ⟨⟩
    exact ⟨h0, hkaddr, hok⟩
  have hthreads := hS.threads_update hself h.threads h.kept
  exact ⟨⟨h.pending ▸ hS.table, fun u th h => (hthreads u th h).1⟩,
    fun u th h => (hthreads u th h).2, fun e he => h.eventOk hS he, h.ids hS, h.once hS,
    fun p r hat => h.backed hS hat⟩

/-- **The step lemma.** Every step that has a ticket left keeps the invariant. -/
theorem Inv.step (hS : S.Inv) {l : Label} (hleft : S.TicketsLeft l) : (S.step l).Inv := by
  have heff := step_effect hS.toOrdered l
  generalize S.step l = S' at heff ⊢
  cases heff with
  | idle => exact hS
  | begin hfree ht hcmd htask hstream hcommand hid hstage htd hctx =>
    subst htask hstream hcommand
    exact hS.begin ht hcmd hid hstage hctx rfl rfl
  | pop hth hinv hpop hctx =>
    obtain ⟨c, T, rfl⟩ := hctx
    exact hS.pop hth hinv hpop rfl rfl rfl
  | parse hth hst =>
    subst hst
    exact hS.parse hth (emitParseHalCorrelatedReply_framed _ _ _).ctx rfl rfl
  | reserve hth => exact hS.reserve ⟨hth, hleft _ hth, rfl, rfl, rfl, rfl⟩
  | push hth hs hinv hpush hctx =>
    obtain ⟨c, T, rfl⟩ := hctx
    exact hS.push hth hinv hpush rfl rfl rfl
  | finish hth => exact hS.finish rfl rfl rfl rfl
  | publishHal => exact hS.publish rfl rfl rfl rfl
  | publishConfig => exact hS.publish rfl rfl rfl rfl

end

/-! ## Runs -/

/-- An installed hook: an empty table, no event yet. -/
def Fresh (ctx : KernelCounterContext) : Prop :=
  ctx.pending = emptyPending ∧ ctx.eventWriteIndex = 0

theorem map_init {ctx : KernelCounterContext} (h : Fresh ctx) :
    (init ctx).map = fun _ => none := by
  rw [map, init, h.1, pendingMap_empty]

theorem Inv.init {ctx : KernelCounterContext} (h : Fresh ctx) : (init ctx).Inv := by
  have hat : ∀ p r, ¬(Sys.init ctx).At p r := by
    intro p r hp
    cases hp with
    | pushing hth => cases hth.1
    | stored hf =>
      rw [map_init h] at hf
      cases hf
    | held hth => cases hth
    | used he => cases he
  exact ⟨.init h.1, fun u th h => (by cases h), fun e he => (by cases he), List.nodup_nil,
    fun p q r hp => absurd hp (hat p r), fun p r hp => absurd hp (hat p r)⟩

/-- The invariant holds after every run whose tickets do not run out. -/
theorem Inv.run {ctx : KernelCounterContext} (h : Fresh ctx) {ls : List Label}
    (hrun : Lib.Along Sys.step TicketsLeft (Sys.init ctx) ls) : ((Sys.init ctx).run ls).Inv :=
  hrun.induct (P := fun _ S => S.Inv) (Inv.init h) fun _ _ _ hS hleft => hS.step hleft

end Sys

/-- **At most once, same thread, same generation.** In every run from an installed hook, with any
interleaving, lock failures, evictions, overflows and identity publications, an event that carries
a request id `r` records a reply that comes after the request: `r` is the id of a recognised
synchronous request recorded under the same task pointer, the generation stored with `r` was active
when the pop ran, and no other event carries `r`. -/
theorem reply_correlation (ctx : KernelCounterContext) (h0 : Sys.Fresh ctx) (ls : List Label)
    (hrun : Lib.Along Sys.step Sys.TicketsLeft (Sys.init ctx) ls) (n : Nat) (e : Recorded)
    (he : ((Sys.init ctx).run ls).log[n]? = some e) (hr : e.event.correlatedRequestId ≠ 0) :
    let S := (Sys.init ctx).run ls
    e.event.correlatedRequestId < e.event.eventId ∧
      (∃ q ∈ S.log, q.Backs e.event.correlatedRequestId e.event.taskKaddr) ∧
      (∃ f, e.note.popped = some f ∧ f.requestEventId = e.event.correlatedRequestId ∧
        f.halIdentityGeneration = e.note.generation) ∧
      ∀ m e', S.log[m]? = some e' →
        e'.event.correlatedRequestId = e.event.correlatedRequestId → m = n := by
  intro S
  have hS : S.Inv := Sys.Inv.run h0 hrun
  have hmem : e ∈ S.log := List.mem_of_getElem? he
  have hat : S.At (.used n) e.event.correlatedRequestId := .used he hr
  obtain ⟨q, hq, hb⟩ := hS.backed _ _ hat
  refine ⟨(hS.events e hmem).earlier hr, ⟨q, hq, ?_⟩, (hS.events e hmem).fresh hr,
    fun m e' he' heq => ?_⟩
  · have hown : S.owner (.used n) = e.event.taskKaddr := by
      simp only [Sys.owner]
      rw [show S.log[n]? = some e from he]
      rfl
    exact hown ▸ hb
  · have hat' : S.At (.used m) e'.event.correlatedRequestId := .used he' (heq ▸ hr)
    rw [heq] at hat'
    cases hS.once _ _ _ hat' hat
    rfl

/-- One request and its reply, on the zeroed context. -/
theorem reply_correlation_requestReply :
    let t : TaskIdentity := ⟨64, 7, 5⟩
    let S := (Sys.init .zero).run (deviceUniqueIdRequest t true ++ replyOf t true)
    ∃ e, S.log[1]? = some e ∧ e.event.correlatedRequestId = 1 ∧
      1 < e.event.eventId ∧ ∃ q ∈ S.log, q.Backs 1 e.event.taskKaddr := by
  intro t S
  have hid : (S.log[1]?.map fun e => e.event.correlatedRequestId) = some 1 := by decide +kernel
  obtain ⟨e, he, hr⟩ := Option.map_eq_some_iff.1 hid
  have hrun : Lib.Along Sys.step (fun S _ => S.ctx.eventWriteIndex.toNat + 2 < 2 ^ 64)
      (Sys.init .zero) (deviceUniqueIdRequest t true ++ replyOf t true) := by decide +kernel
  obtain ⟨hlt, hback, -, -⟩ := reply_correlation .zero ⟨rfl, rfl⟩ _
    (hrun.mono fun _ l h => Sys.ticketsLeft_of_lt l h) 1 e he (by rw [hr]; decide)
  rw [hr] at hlt hback
  exact ⟨e, he, hr, hlt, hback⟩

end Drmid
