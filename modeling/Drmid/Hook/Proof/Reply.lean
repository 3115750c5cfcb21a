import Drmid.Hook.Reply

/-!
# A reply is rewritten exactly, or not at all

`Rewrites` is the condition under which `emit_parse_hal_correlated_reply` writes to user memory.
Each stage has one lemma that says when it runs on and what it changes (`captureStage_cases` to
`copyStage_cases`); `emitParseHalCorrelatedReply_spec` chains them.
-/

namespace Drmid

/-- The reply in `td` and `u` is rewritten from the config `slot` when the pop returned
`requestId` with `requestFlags`. -/
structure Rewrites (requestId : UInt64) (requestFlags : UInt32) (td : BinderTransactionData)
    (u : UserMemory) (slot : RuntimeConfigSlot) : Prop where
  correlated : requestId ≠ 0
  flag : deviceUniqueIdFlag requestFlags = true
  size : 40 ≤ td.dataSize
  buffer : td.buffer ≠ 0
  status : u.word32 td.buffer = 0
  length : u.word32 (td.buffer + 4) = 32
  header : u.readable td.buffer 8 = true
  content : u.readable (td.buffer + 8) 32 = true
  write : u.writable (td.buffer + 8) 32 = true
  idLength : slot.virtualIdLength = 32
  mode : slot.replacementMode ≠ 0

namespace ReplyState

/-- What no stage changes but the last one's user memory. -/
structure Framed (st st' : ReplyState) : Prop where
  transaction : st'.scratch.transaction = st.scratch.transaction
  parcelFlags : st'.scratch.parcelFlags = st.scratch.parcelFlags
  ctx : st.ctx.SameButTelemetry st'.ctx

section
variable {st st' st'' : ReplyState} {requestId : UInt64} {requestFlags : UInt32}

theorem Framed.trans (h : Framed st st') (h' : Framed st' st'') : Framed st st'' :=
  ⟨h'.transaction.trans h.transaction, h'.parcelFlags.trans h.parcelFlags, h.ctx.trans h'.ctx⟩

theorem Framed.count (h : Framed st st') (c : Counter) : Framed st (st'.count c) :=
  ⟨h.transaction, h.parcelFlags, h.ctx.increment c⟩

theorem Framed.config (h : Framed st st')
    (hslot : st'.scratch.runtimeConfig = st.scratch.runtimeConfig) : st'.config = st.config := by
  rw [ReplyState.config, ReplyState.config, h.ctx.configs.1, hslot]

/-- The state at a branch: nothing written, `kReplyFlagReplaced` clear. -/
structure Unwritten (st st' : ReplyState) : Prop extends Framed st st' where
  user : st'.user = st.user
  flags : st'.scratch.replyFlags &&& kReplyFlagReplaced = 0

theorem or_replaced {a b : UInt32} (ha : a &&& kReplyFlagReplaced = 0)
    (hb : b &&& kReplyFlagReplaced = 0) : (a ||| b) &&& kReplyFlagReplaced = 0 := by
  have hdistrib : (a ||| b) &&& kReplyFlagReplaced =
      (a &&& kReplyFlagReplaced) ||| (b &&& kReplyFlagReplaced) :=
    UInt32.eq_of_toBitVec_eq BitVec.and_or_distrib_right
  rw [hdistrib, ha, hb]
  rfl

/-- The code at the labels writes nothing either. -/
theorem Unwritten.finish (h : Unwritten st st') (l : ReplyLabel) :
    Unwritten st (st'.finish l) := by
  have hcount : ∀ {s : ReplyState} c, Unwritten st s → Unwritten st (s.count c) :=
    fun c hs => ⟨hs.toFramed.count c, hs.user, hs.flags⟩
  cases l with
  | dryRun =>
    have h' := hcount .replacementDryRunHits h
    exact ⟨⟨h'.transaction, h'.parcelFlags, h'.ctx⟩, h'.user, or_replaced h'.flags (by decide)⟩
  | writeFault => exact hcount _ (hcount _ h)
  | done => exact h
  | noPending | headerFault | statusNonzero | arrayInvalid | contentFault | lengthMismatch =>
    exact hcount _ h

/-- A stage stopped with nothing written, or ran on. -/
def Stopped (st : ReplyState) (x : Except (ReplyLabel × ReplyState) ReplyState) : Prop :=
  ∃ l st', x = .error (l, st') ∧ Unwritten st st'

/-- Whatever was to follow a stage that stopped, nothing is written. -/
theorem Stopped.settle {x : Except (ReplyLabel × ReplyState) ReplyState} {k : Stage}
    (h : Stopped st' x) (hf : Framed st st') (hu : st'.user = st.user) :
    Unwritten st (ReplyState.settle (x >>= k)) := by
  obtain ⟨l, s, rfl, hun⟩ := h
  have hfin := hun.finish l
  exact ⟨hf.trans hfin.toFramed, hfin.user.trans hu, hfin.flags⟩

theorem settle_ok {s : ReplyState} {k : Stage} :
    ReplyState.settle ((Except.ok s : Except (ReplyLabel × ReplyState) ReplyState) >>= k) =
      ReplyState.settle (k s) := rfl

theorem settle_pure (x : Except (ReplyLabel × ReplyState) ReplyState) :
    ReplyState.settle x = ReplyState.settle (x >>= Except.ok) := by
  cases x <;> rfl

/-! ## The stages -/

theorem captureStage_cases (requestId : UInt64) (requestFlags : UInt32) (st : ReplyState) :
    (¬(requestId ≠ 0 ∧ deviceUniqueIdFlag requestFlags = true) ∧
      Stopped st (captureStage requestId requestFlags st)) ∨
    (requestId ≠ 0 ∧ deviceUniqueIdFlag requestFlags = true) ∧
      ∃ st', captureStage requestId requestFlags st = .ok st' ∧ Framed st st' ∧
        st'.user = st.user ∧ st'.scratch.replyFlags = 0x81 ∧ st'.config = st.ctx.activeConfig := by
  have hzero : (0 : UInt32) &&& kReplyFlagReplaced = 0 := by decide
  unfold captureStage
  split
  · rename_i h0
    exact .inl ⟨fun h => h.1 h0, _, _, rfl, ⟨rfl, rfl, .rfl⟩, rfl, hzero⟩
  · rename_i h0
    split
    · rename_i hf
      refine .inl ⟨fun h => ?_, _, _, rfl, ⟨rfl, rfl, .rfl⟩, rfl, hzero⟩
      rw [h.2] at hf
      cases hf
    · rename_i hf
      refine .inr ⟨⟨h0, by simpa using hf⟩, _, rfl, ⟨rfl, rfl, ?_⟩, rfl, rfl, rfl⟩
      exact (KernelCounterContext.SameButTelemetry.rfl.increment _).increment _

theorem toUInt64_length_add {length : UInt32} (h : length = kWidevineDeviceUniqueIdBytes) :
    length.toUInt64 + 8 = 40 := by
  rw [h]
  rfl

/-- The header checks of a reply. -/
def HeaderOk (st : ReplyState) : Prop :=
  40 ≤ st.scratch.transaction.dataSize ∧ st.scratch.transaction.buffer ≠ 0 ∧
    st.user.word32 st.scratch.transaction.buffer = 0 ∧
    st.user.word32 (st.scratch.transaction.buffer + 4) = 32 ∧
    st.user.readable st.scratch.transaction.buffer 8 = true

/-- A word of the copied header, read back from the scratch area. -/
theorem parcelWord_header (s : ParserScratch) (u : UserMemory) (buffer : UInt64) {k : Nat}
    (hk : k + 4 ≤ 8) :
    (s.fillParcel 0 8 fun i => u.byte (buffer + UInt64.ofNat i)).parcelWord k =
      u.word32 (buffer + UInt64.ofNat k) := by
  have h := ParserScratch.parcelWord_fill s 0 (fun i => u.byte (buffer + UInt64.ofNat i)) hk
  rw [Nat.zero_add] at h
  rw [h, UserMemory.word32]
  congr 1
  funext i
  rw [UInt64.ofNat_add, UInt64.add_assoc]

theorem headerStage_cases (hflags : st.scratch.replyFlags = 0x81) :
    (¬HeaderOk st ∧ Stopped st (headerStage st)) ∨
    HeaderOk st ∧
      ∃ st', headerStage st = .ok st' ∧ Framed st st' ∧ st'.user = st.user ∧
        st'.scratch.replyFlags = 0x87 ∧ st'.scratch.runtimeConfig = st.scratch.runtimeConfig := by
  have hclear : st.scratch.replyFlags &&& kReplyFlagReplaced = 0 := by
    rw [hflags]
    decide
  have htel : st.ctx.SameButTelemetry st.ctx := .rfl
  unfold headerStage
  dsimp only
  split
  · rename_i hsize
    refine .inl ⟨fun h => ?_, _, _, rfl, ⟨rfl, rfl, htel⟩, rfl, hclear⟩
    exact absurd (UInt64.lt_of_lt_of_le hsize (UInt64.le_trans (by decide) h.1)) (by simp)
  · split
    · rename_i hbuf
      exact .inl ⟨fun h => h.2.1 hbuf, _, _, rfl, ⟨rfl, rfl, htel⟩, rfl, hclear⟩
    · rename_i hbuf
      cases hread : st.user.readable st.scratch.transaction.buffer 8 with
      | false =>
        rw [UserMemory.copyFromUser_fault hread]
        refine .inl ⟨fun h => ?_, _, _, rfl, ⟨rfl, rfl, htel⟩, rfl, hclear⟩
        rw [h.2.2.2.2] at hread
        cases hread
      | true =>
        rw [UserMemory.copyFromUser_ok hread]
        dsimp only
        have h0 := parcelWord_header st.scratch st.user st.scratch.transaction.buffer
          (k := 0) (by omega)
        have h4 := parcelWord_header st.scratch st.user st.scratch.transaction.buffer
          (k := 4) (by omega)
        rw [show UInt64.ofNat 0 = 0 from rfl, UInt64.add_zero] at h0
        rw [h0, h4]
        split
        · rename_i hstatus
          exact .inl ⟨fun h => hstatus h.2.2.1, _, _, rfl, ⟨rfl, rfl, htel.increment _⟩, rfl,
            hclear⟩
        · rename_i hstatus
          have htel2 := (htel.increment .replyHeaderCopyOk).increment .replyStatusOk
          split
          · rename_i hlen
            exact .inl ⟨fun h => hlen h.2.2.2.1, _, _, rfl, ⟨rfl, rfl, htel2⟩, rfl, hclear⟩
          · rename_i hlen
            have hlen' := Decidable.not_not.1 hlen
            rw [toUInt64_length_add hlen']
            split
            · rename_i hlt
              refine .inl ⟨fun h => ?_, _, _, rfl, ⟨rfl, rfl, htel2⟩, rfl, hclear⟩
              exact absurd (UInt64.lt_of_lt_of_le hlt h.1) (by simp)
            · rename_i hge
              refine .inr ⟨⟨UInt64.not_lt.1 hge, hbuf, Decidable.not_not.1 hstatus, hlen', hread⟩,
                _, rfl, ⟨rfl, rfl, htel2.increment _⟩, rfl, ?_, rfl⟩
              change st.scratch.replyFlags ||| _ = _
              rw [hflags]
              decide

theorem contentStage_cases (hflags : st.scratch.replyFlags = 0x87) :
    (¬st.user.readable (st.scratch.transaction.buffer + 8) 32 = true ∧
      Stopped st (contentStage st)) ∨
    st.user.readable (st.scratch.transaction.buffer + 8) 32 = true ∧
      ∃ st', contentStage st = .ok st' ∧ Framed st st' ∧ st'.user = st.user ∧
        st'.scratch.replyFlags = 0x9f ∧ st'.scratch.runtimeConfig = st.scratch.runtimeConfig := by
  unfold contentStage
  cases hread : st.user.readable (st.scratch.transaction.buffer + 8) 32 with
  | false =>
    rw [UserMemory.copyFromUser_fault hread]
    refine .inl ⟨by simp, _, _, rfl, ⟨rfl, rfl, .rfl⟩, rfl, ?_⟩
    rw [hflags]
    decide
  | true =>
    rw [UserMemory.copyFromUser_ok hread]
    refine .inr ⟨rfl, _, rfl, ⟨rfl, rfl, ?_⟩, rfl, ?_, rfl⟩
    · exact (KernelCounterContext.SameButTelemetry.rfl.increment _).increment _
    · change st.scratch.replyFlags ||| _ = _
      rw [hflags]
      decide

theorem lengthStage_cases (hflags : st.scratch.replyFlags = 0x9f) :
    (¬st.config.virtualIdLength = 32 ∧ Stopped st (lengthStage st)) ∨
      (st.config.virtualIdLength = 32 ∧ lengthStage st = .ok st) := by
  unfold lengthStage
  split
  · rename_i h
    refine .inl ⟨h, _, _, rfl, ⟨rfl, rfl, .rfl⟩, rfl, ?_⟩
    rw [hflags]
    decide
  · rename_i h
    exact .inr ⟨Decidable.not_not.1 h, rfl⟩

theorem modeStage_cases (hflags : st.scratch.replyFlags = 0x9f) :
    (¬st.config.replacementMode ≠ 0 ∧ Stopped st (modeStage st)) ∨
      (st.config.replacementMode ≠ 0 ∧ modeStage st = .ok st) := by
  unfold modeStage
  split
  · rename_i h
    refine .inl ⟨fun h' => h' h, _, _, rfl, ⟨rfl, rfl, .rfl⟩, rfl, ?_⟩
    rw [hflags]
    decide
  · rename_i h
    exact .inr ⟨h, rfl⟩

/-- The 32 bytes a config puts into a reply. -/
theorem length_take_virtualId (slot : RuntimeConfigSlot) :
    (slot.virtualId.toList.take 32).length = 32 := by
  simp

theorem copyStage_cases (requestId : UInt64) (hflags : st.scratch.replyFlags = 0x9f) :
    (¬st.user.writable (st.scratch.transaction.buffer + 8) 32 = true ∧
      Stopped st (copyStage requestId st)) ∨
    st.user.writable (st.scratch.transaction.buffer + 8) 32 = true ∧
      ∃ st', copyStage requestId st = .ok st' ∧ Framed st st' ∧
        st'.user = st.user.store (st.scratch.transaction.buffer + 8)
          (st.config.virtualId.toList.take 32) ∧
        st'.scratch.replyFlags = 0xdf := by
  unfold copyStage UserMemory.copyToUser
  rw [length_take_virtualId]
  cases hw : st.user.writable (st.scratch.transaction.buffer + 8) 32 with
  | false =>
    refine .inl ⟨by simp, _, _, rfl, ⟨rfl, rfl, .rfl⟩, rfl, ?_⟩
    rw [hflags]
    decide
  | true =>
    refine .inr ⟨rfl, _, rfl, ⟨rfl, rfl, ⟨_, _, _, _, rfl⟩⟩, rfl, ?_⟩
    change st.scratch.replyFlags ||| _ = _
    rw [hflags]
    decide

end
end ReplyState

/-! ## The whole parse -/

open ReplyState

/-- **A reply is rewritten exactly, or not at all.** The 32 bytes after the header become the
active config's, with every reply flag but `kReplyFlagDryRun` set, or user memory stays as it is
and `kReplyFlagReplaced` is clear. -/
theorem emitParseHalCorrelatedReply_spec (requestId : UInt64) (requestFlags : UInt32)
    (st : ReplyState) :
    let td := st.scratch.transaction
    let slot := st.ctx.activeConfig
    let st' := emitParseHalCorrelatedReply requestId requestFlags st
    Framed st st' ∧
      ((Rewrites requestId requestFlags td st.user slot ∧
          st'.user = st.user.store (td.buffer + 8) (slot.virtualId.toList.take 32) ∧
          st'.scratch.replyFlags = 0xdf) ∨
        (¬Rewrites requestId requestFlags td st.user slot ∧ st'.user = st.user ∧
          st'.scratch.replyFlags &&& kReplyFlagReplaced = 0)) := by
  intro td slot st'
  have hrefl : Framed st st := ⟨rfl, rfl, .rfl⟩
  change Framed st st' ∧ _
  have hno : ¬Rewrites requestId requestFlags td st.user slot → Unwritten st st' →
      Framed st st' ∧ ((Rewrites requestId requestFlags td st.user slot ∧
          st'.user = st.user.store (td.buffer + 8) (slot.virtualId.toList.take 32) ∧
          st'.scratch.replyFlags = 0xdf) ∨
        (¬Rewrites requestId requestFlags td st.user slot ∧ st'.user = st.user ∧
          st'.scratch.replyFlags &&& kReplyFlagReplaced = 0)) :=
    fun hn h => ⟨h.toFramed, .inr ⟨hn, h.user, h.flags⟩⟩
  have hst' : st' = emitParseHalCorrelatedReply requestId requestFlags st := rfl
  rw [emitParseHalCorrelatedReply] at hst'
  clear_value st'
  -- each stage stops, and then some condition of `Rewrites` fails, or runs on
  rcases captureStage_cases requestId requestFlags st with
    ⟨hc, hs⟩ | ⟨⟨hid, hflag⟩, s₁, h₁, f₁, u₁, fl₁, c₁⟩
  · exact hno (fun h => hc ⟨h.correlated, h.flag⟩) (hst' ▸ hs.settle hrefl rfl)
  rw [h₁, settle_ok] at hst'
  rcases headerStage_cases fl₁ with ⟨hc, hs⟩ | ⟨hhead, s₂, h₂, f₂, u₂, fl₂, r₂⟩
  · refine hno (fun h => hc ?_) (hst' ▸ hs.settle f₁ u₁)
    rw [HeaderOk, f₁.transaction, u₁]
    exact ⟨h.size, h.buffer, h.status, h.length, h.header⟩
  rw [h₂, settle_ok] at hst'
  rw [HeaderOk, f₁.transaction, u₁] at hhead
  obtain ⟨hsize, hbuf, hstatus, hlen, hheader⟩ := hhead
  have f₂' := f₁.trans f₂
  have u₂' := u₂.trans u₁
  rcases contentStage_cases fl₂ with ⟨hc, hs⟩ | ⟨hcontent, s₃, h₃, f₃, u₃, fl₃, r₃⟩
  · refine hno (fun h => hc ?_) (hst' ▸ hs.settle f₂' u₂')
    rw [f₂'.transaction, u₂']
    exact h.content
  rw [h₃, settle_ok] at hst'
  rw [f₂'.transaction, u₂'] at hcontent
  have f₃' := f₂'.trans f₃
  have u₃' := u₃.trans u₂'
  have hconfig : s₃.config = slot := by
    rw [f₃.config r₃, f₂.config r₂, c₁]
  rcases lengthStage_cases fl₃ with ⟨hc, hs⟩ | ⟨hidlen, h₄⟩
  · exact hno (fun h => hc (hconfig ▸ h.idLength)) (hst' ▸ hs.settle f₃' u₃')
  rw [h₄, settle_ok] at hst'
  rcases modeStage_cases fl₃ with ⟨hc, hs⟩ | ⟨hmode, h₅⟩
  · exact hno (fun h => hc (hconfig ▸ h.mode)) (hst' ▸ hs.settle f₃' u₃')
  rw [h₅, settle_ok, settle_pure] at hst'
  rcases copyStage_cases requestId fl₃ with ⟨hc, hs⟩ | ⟨hwrite, s₆, h₆, f₆, u₆, fl₆⟩
  · refine hno (fun h => hc ?_) (hst' ▸ hs.settle f₃' u₃')
    rw [f₃'.transaction, u₃']
    exact h.write
  rw [h₆, settle_ok] at hst'
  rw [f₃'.transaction, u₃'] at hwrite
  rw [f₃'.transaction, u₃', hconfig] at u₆
  rw [hconfig] at hidlen hmode
  have hend : st' = s₆ := hst'
  rw [hend]
  exact ⟨f₃'.trans f₆, .inl ⟨⟨hid, hflag, hsize, hbuf, hstatus, hlen, hheader, hcontent, hwrite,
    hidlen, hmode⟩, u₆, fl₆⟩⟩

theorem emitParseHalCorrelatedReply_framed (requestId : UInt64) (requestFlags : UInt32)
    (st : ReplyState) : Framed st (emitParseHalCorrelatedReply requestId requestFlags st) :=
  (emitParseHalCorrelatedReply_spec requestId requestFlags st).1

end Drmid
