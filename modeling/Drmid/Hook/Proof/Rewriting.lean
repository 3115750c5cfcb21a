import Drmid.Hook.Proof.Correlation

/-!
# What the handler writes to user memory

`ExactlyRewritten` is the functional specification of the reply parser: one 32-byte window written
under the conditions of `Rewrites`, nothing otherwise, and `kReplyFlagReplaced` recorded exactly for
a write. `reply_rewrite_exact` states it for every call of the parser and reads off runs of the
whole system what the recorded events say about user memory; in particular no byte changes while
every active config is Dry-run.
-/

namespace Drmid

/-- The parse of `st` that ended in `st'` wrote the window `[buffer + 8, buffer + 40)` with the
active config's first 32 bytes, or nothing. -/
structure ExactlyRewritten (requestId : UInt64) (requestFlags : UInt32) (st st' : ReplyState)
    (td : BinderTransactionData) (slot : RuntimeConfigSlot) : Prop where
  writes_iff : st'.user.stores ≠ st.user.stores ↔
    Rewrites requestId requestFlags td st.user slot
  stores : Rewrites requestId requestFlags td st.user slot →
    st'.user.stores = st.user.stores ++ [(td.buffer + 8, slot.virtualId.toList.take 32)]
  bytes : Rewrites requestId requestFlags td st.user slot → ∀ a, st'.user.byte a =
    if (a - (td.buffer + 8)).toNat < 32 then slot.virtualId.toList.getD (a - (td.buffer + 8)).toNat 0
    else st.user.byte a
  unchanged : ¬Rewrites requestId requestFlags td st.user slot → st'.user = st.user
  flag_iff : st'.scratch.replyFlags &&& kReplyFlagReplaced ≠ 0 ↔
    Rewrites requestId requestFlags td st.user slot
  flags : Rewrites requestId requestFlags td st.user slot → st'.scratch.replyFlags =
    kReplyFlagCorrelatedDeviceUniqueId ||| kReplyFlagHalCorrelated ||| kReplyFlagStatusOk |||
      kReplyFlagArrayValid ||| kReplyFlagContentReadable ||| kReplyFlagReplacementCandidate |||
      kReplyFlagReplaced

theorem store_window (u : UserMemory) (dst a : UInt64) (slot : RuntimeConfigSlot) :
    (u.store dst (slot.virtualId.toList.take 32)).byte a =
      if (a - dst).toNat < 32 then slot.virtualId.toList.getD (a - dst).toNat 0 else u.byte a := by
  split
  · rename_i h
    rw [UserMemory.store_byte_inside (by simpa using h), List.getElem_take]
    rw [List.getD_eq_getElem?_getD, List.getElem?_eq_getElem (by simp; omega)]
    rfl
  · rename_i h
    exact UserMemory.store_byte_outside (by simpa using h)

theorem emitParseHalCorrelatedReply_exact (requestId : UInt64) (requestFlags : UInt32)
    (st : ReplyState) :
    ExactlyRewritten requestId requestFlags st
      (emitParseHalCorrelatedReply requestId requestFlags st) st.scratch.transaction
      st.ctx.activeConfig := by
  obtain ⟨-, ⟨hw, huser, hflags⟩ | ⟨hno, huser, hflags⟩⟩ :=
    emitParseHalCorrelatedReply_spec requestId requestFlags st
  · refine ⟨⟨fun _ => hw, fun _ => ?_⟩, fun _ => ?_, fun _ a => ?_, fun h => absurd hw h,
      ⟨fun _ => hw, fun _ => ?_⟩, fun _ => hflags⟩
    · rw [huser]
      simp [UserMemory.store]
    · rw [huser]
      rfl
    · rw [huser]
      exact store_window _ _ _ _
    · rw [hflags]
      decide
  · exact ⟨⟨fun h => absurd (congrArg UserMemory.stores huser) h, fun h => absurd h hno⟩,
      fun h => absurd h hno, fun h => absurd h hno, fun _ => huser,
      ⟨fun h => absurd hflags h, fun h => absurd h hno⟩, fun h => absurd h hno⟩

/-! ## Runs -/

/-- `kReplyFlagReplaced` among `flags` tells whether the noted parse wrote to user memory. -/
def Note.Tells (note : Note) (flags : UInt32) : Prop :=
  ∃ u u', note.user = some (u, u') ∧
    (flags &&& kReplyFlagReplaced ≠ 0 ↔ u'.stores ≠ u.stores)

/-- The noted parse left user memory as it was. -/
def Note.Silent (note : Note) : Prop := ∃ u, note.user = some (u, u)

namespace Sys

/-- A publication leaves a Dry-run config active. -/
def publishesDryRun : Label → Prop
  | .publishConfig active slots =>
    (slots (KernelCounterContext.slotOf active)).replacementMode = kDryRun
  | _ => True

/-- A thread runs one of its stream's commands, and when its reply is parsed `P` holds of its note
and reply flags. -/
structure Parsed (P : Note → UInt32 → Prop) (th : Thread) : Prop where
  command : th.recording.command ∈ th.recording.stream.transactionCommands
  reply : th.recording.stage = .reserve →
    isReply th.recording.stream th.recording.command = true →
    P th.note th.recording.scratch.replyFlags

/-- Threads whose reply is parsed, and recorded replies, satisfy `P`. -/
structure Replies (P : Note → UInt32 → Prop) (S : Sys) : Prop extends Ordered S where
  parsed : ∀ u th, S.thread u = some th → Parsed P th
  recorded : ∀ e ∈ S.log, e.event.kind = .bcReply → P e.note e.event.replyFlags

section
variable {S : Sys} {P : Note → UInt32 → Prop}

/-- What every parse establishes holds of every recorded reply. -/
theorem Replies.step (hS : S.Replies P) {l : Label}
    (hparse : ∀ task acquired u th, l = .advance task acquired u → S.moves task th .parse →
      ∀ st, st = emitParseHalCorrelatedReply th.recording.requestId th.recording.requestFlags
        ⟨u, th.recording.scratch, S.ctx⟩ →
      P { th.note with user := some (u, st.user) } st.scratch.replyFlags) :
    (S.step l).Replies P := by
  have hord := hS.toOrdered.step l
  have heff := step_effect hS.toOrdered l
  generalize S.step l = S' at heff hord ⊢
  cases heff with
  | idle => exact hS
  | @begin t stream command u s r ctx hfree ht hcmd htask hstream hcommand hid hstage htd hctx =>
    refine ⟨hord, threads_update (Q := fun _ th => Parsed P th) rfl hS.parsed ?_, hS.recorded⟩
    rintro th ⟨⟩
    subst hstream hcommand
    refine ⟨hcmd, fun h hreply => ?_⟩
    dsimp only at h hreply
    rw [hstage, hreply] at h
    cases h
  | @parse task acquired u th st hth hst =>
    refine ⟨hord, threads_update (Q := fun _ th => Parsed P th) rfl hS.parsed ?_, hS.recorded⟩
    rintro th' ⟨⟩
    exact ⟨(hS.parsed task th hth.1).command, fun _ _ => hparse task acquired u th rfl hth st hst⟩
  | @reserve task acquired u th slot events hth =>
    have hold := hS.parsed task th hth.1
    refine ⟨hord, threads_update (Q := fun _ th => Parsed P th) rfl hS.parsed ?_,
      fun e he hkind => ?_⟩
    · rintro th' ⟨⟩
      refine ⟨hold.command, fun h => ?_⟩
      simp only [reserved] at h
      split at h <;> cases h
    · rw [List.mem_append, List.mem_singleton] at he
      rcases he with he | rfl
      · exact hS.recorded e he hkind
      · exact hold.reply hth.2 (isReply_of_eventKind hold.command hkind)
  | @pop task acquired u th g id fl ctx hth hinv hpop hctx =>
    refine ⟨hord, threads_update (Q := fun _ th => Parsed P th) rfl hS.parsed ?_, hS.recorded⟩
    rintro th' ⟨⟩
    exact ⟨(hS.parsed task th hth.1).command, fun h => by cases h⟩
  | @push task acquired u th s ctx hth hs hinv hpush hctx =>
    refine ⟨hord, threads_update (Q := fun _ th => Parsed P th) rfl hS.parsed ?_, hS.recorded⟩
    rintro th' ⟨⟩
    exact ⟨(hS.parsed task th hth.1).command, fun h => by cases h⟩
  | finish hth =>
    exact ⟨hord, threads_update (Q := fun _ th => Parsed P th) rfl hS.parsed (by simp),
      hS.recorded⟩
  | publishHal | publishConfig => exact ⟨hord, hS.parsed, hS.recorded⟩

theorem Replies.init {ctx : KernelCounterContext} (h : ctx.pending = emptyPending) :
    (Sys.init ctx).Replies P :=
  ⟨.init h, fun u th hth => (by cases hth), fun e he => (by cases he)⟩

/-- The configs only change by publication. -/
theorem activeConfig_step (hS : S.Ordered) {l : Label} (hl : publishesDryRun l)
    (h : S.ctx.activeConfig.replacementMode = kDryRun) :
    (S.step l).ctx.activeConfig.replacementMode = kDryRun := by
  have heff := step_effect hS l
  generalize S.step l = S' at heff ⊢
  cases heff with
  | idle => exact h
  | begin hfree ht hcmd htask hstream hcommand hid hstage htd hctx =>
    rw [KernelCounterContext.activeConfig, hctx.configs.1, hctx.configs.2]
    exact h
  | @parse task acquired u th st hth hst =>
    have hctx := (emitParseHalCorrelatedReply_framed th.recording.requestId
      th.recording.requestFlags ⟨u, th.recording.scratch, S.ctx⟩).ctx.configs
    rw [← hst] at hctx
    rw [KernelCounterContext.activeConfig, hctx.1, hctx.2]
    exact h
  | pop hth hinv hpop hctx =>
    obtain ⟨c, T, rfl⟩ := hctx
    exact h
  | push hth hs hinv hpush hctx =>
    obtain ⟨c, T, rfl⟩ := hctx
    exact h
  | reserve hth => exact h
  | finish hth => exact h
  | publishHal => exact h
  | publishConfig => exact hl

end
end Sys

/-- **Reply rewriting is exact and framed.** Every call of the parser writes the one window or
nothing. In every run from an empty pending table the recorded reply flags tell which, and while
every active config is Dry-run no reply changes user memory. -/
theorem reply_rewrite_exact :
    (∀ (requestId : UInt64) (requestFlags : UInt32) (st : ReplyState),
      ExactlyRewritten requestId requestFlags st
        (emitParseHalCorrelatedReply requestId requestFlags st) st.scratch.transaction
        st.ctx.activeConfig) ∧
    ∀ (ctx : KernelCounterContext) (ls : List Label), ctx.pending = emptyPending →
      (∀ e ∈ ((Sys.init ctx).run ls).log, e.event.kind = .bcReply → ∃ u u',
        e.note.user = some (u, u') ∧
        (e.event.replyFlags &&& kReplyFlagReplaced ≠ 0 ↔ u'.stores ≠ u.stores)) ∧
      (ctx.activeConfig.replacementMode = kDryRun → (∀ l ∈ ls, Sys.publishesDryRun l) →
        ∀ e ∈ ((Sys.init ctx).run ls).log, e.event.kind = .bcReply → ∃ u,
          e.note.user = some (u, u)) := by
  refine ⟨emitParseHalCorrelatedReply_exact, fun ctx ls h0 => ⟨?_, fun hdry hls => ?_⟩⟩
  · have htrue : Lib.Along Sys.step (fun _ _ => True) (Sys.init ctx) ls := fun _ _ _ _ => trivial
    have hS : ((Sys.init ctx).run ls).Replies Note.Tells :=
      htrue.induct (P := fun _ S => S.Replies Note.Tells) (.init h0) fun _ S l hS _ =>
        hS.step fun task acquired u th _ _ st hst => by
          have hex := emitParseHalCorrelatedReply_exact th.recording.requestId
            th.recording.requestFlags ⟨u, th.recording.scratch, S.ctx⟩
          rw [← hst] at hex
          exact ⟨u, _, rfl, hex.flag_iff.trans hex.writes_iff.symm⟩
    exact hS.recorded
  · have hpub : Lib.Along Sys.step (fun _ l => Sys.publishesDryRun l) (Sys.init ctx) ls :=
      fun pre l post heq => hls l (heq ▸ by simp)
    have hS := hpub.induct (P := fun _ S => S.Replies (fun note _ => note.Silent) ∧
        S.ctx.activeConfig.replacementMode = kDryRun) ⟨.init h0, hdry⟩ fun _ S l hS hl =>
      ⟨hS.1.step fun task acquired u th _ _ st hst => by
          have hex := emitParseHalCorrelatedReply_exact th.recording.requestId
            th.recording.requestFlags ⟨u, th.recording.scratch, S.ctx⟩
          rw [← hst] at hex
          exact ⟨u, congrArg (fun x => some (u, x)) (hex.unchanged fun hw => hw.mode hS.2)⟩,
        Sys.activeConfig_step hS.1.toOrdered hl hS.2⟩
    exact hS.1.recorded

/-- A reply rewritten under a writing config, and one left alone under a Dry-run config that a
publication replaced by another. -/
theorem reply_rewrite_exact_instance :
    let td := parcelCall 0
    let u := UserMemory.ofBytes 0x1000 arrayReply
    let st : ReplyState := ⟨u, { ParserScratch.zero with transaction := td }, writingContext⟩
    let t : TaskIdentity := ⟨64, 7, 5⟩
    let S := (Sys.init .zero).run (deviceUniqueIdRequest t true ++
      [.publishConfig 1 fun _ => .zero] ++ replyOf t true)
    Rewrites 1 1 td u writingContext.activeConfig ∧
      (emitParseHalCorrelatedReply 1 1 st).user.byte 0x1008 = 0x5a ∧
      (emitParseHalCorrelatedReply 1 1 st).user.byte 0x1028 = u.byte 0x1028 ∧
      ∃ e ∈ S.log, e.event.kind = .bcReply ∧ e.event.correlatedRequestId = 1 ∧
        ∃ u, e.note.user = some (u, u) := by
  intro td u st t S
  have hw : Rewrites 1 1 td u writingContext.activeConfig :=
    ⟨by decide, by decide, by decide, by decide, by decide +kernel, by decide +kernel, rfl, rfl,
      rfl, rfl, by decide⟩
  have hlog : (S.log[1]?.map fun e => (e.event.kind, e.event.correlatedRequestId)) =
      some (.bcReply, 1) := by decide +kernel
  obtain ⟨e, he, heq⟩ := Option.map_eq_some_iff.1 hlog
  have hmem := List.mem_of_getElem? he
  have hkind : e.event.kind = .bcReply := congrArg Prod.fst heq
  obtain ⟨hparse, hruns⟩ := reply_rewrite_exact
  refine ⟨hw, ((hparse 1 1 st).bytes hw 0x1008).trans (by decide +kernel),
    ((hparse 1 1 st).bytes hw 0x1028).trans (if_neg (by decide)), e, hmem, hkind,
    congrArg Prod.snd heq, ?_⟩
  refine (hruns .zero _ rfl).2 rfl (fun l hl => ?_) e hmem hkind
  simp only [deviceUniqueIdRequest, replyOf, recordLabels, List.mem_append, List.mem_cons,
    List.mem_replicate, List.not_mem_nil, or_false] at hl
  rcases hl with ((rfl | ⟨-, rfl⟩) | rfl) | rfl | ⟨-, rfl⟩ <;> trivial

end Drmid
