import Drmid.Hook.Framing

/-!
# Recording a command counts no stream error

The counters of the early stops of `emit_parse_command_stream` are its own: no emitter that
`emit_record_transaction` is made of touches them (`emitRecordTransaction_errors`).
-/

namespace Drmid

open KernelCounterContext

def streamErrors : List Counter :=
  [.writeBoundaryErrors, .readBoundaryErrors, .writeCopyFaults, .readCopyFaults, .writeCapped,
    .readCapped]

theorem errorCounter_mem (stream : StreamType) (e : StreamEnd) :
    stream.errorCounter e ∈ streamErrors := by
  cases stream <;> cases e <;> decide

theorem errorCounter_inj {stream : StreamType} {e e' : StreamEnd} :
    stream.errorCounter e = stream.errorCounter e' ↔ e = e' := by
  cases stream <;> cases e <;> cases e' <;> decide

/-- An early stop counts its own error. -/
theorem counter_errorCounter (ctx : KernelCounterContext) (stream : StreamType)
    (e e' : StreamEnd) :
    (ctx.emitCounterIncrement (stream.errorCounter e')).counter (stream.errorCounter e) =
      ctx.counter (stream.errorCounter e) + if some e' = some e then 1 else 0 := by
  by_cases he : e' = e
  · subst he
    simp [emitCounterIncrement]
  · have hne : stream.errorCounter e ≠ stream.errorCounter e' :=
      fun h => he (errorCounter_inj.1 h).symm
    simp [emitCounterIncrement, hne, he]

/-- No stream error was counted from `ctx` to `ctx'`. -/
def SameErrors (ctx ctx' : KernelCounterContext) : Prop :=
  ∀ c ∈ streamErrors, ctx'.counter c = ctx.counter c

section
variable {ctx ctx' ctx'' : KernelCounterContext}

theorem SameErrors.rfl : SameErrors ctx ctx := fun _ _ => Eq.refl _

theorem SameErrors.trans (h : SameErrors ctx ctx') (h' : SameErrors ctx' ctx'') :
    SameErrors ctx ctx'' :=
  fun c hc => (h' c hc).trans (h c hc)

theorem SameErrors.congr (h : SameErrors ctx ctx') (hc : ctx''.counter = ctx'.counter) :
    SameErrors ctx ctx'' := by
  intro c hmem
  rw [hc]
  exact h c hmem

theorem SameErrors.count (h : SameErrors ctx ctx') (c : Counter)
    (hc : streamErrors.contains c = false) :
    SameErrors ctx (ctx'.emitCounterIncrement c) := by
  intro d hd
  have hne : d ≠ c := by
    rintro rfl
    rw [List.contains_iff_mem.2 hd] at hc
    cases hc
  rw [← h d hd]
  simp [emitCounterIncrement, hne]

/-! ## Requests -/

theorem matchProperty_errors {size : Nat} {descriptor : String} {tokenOffset : Nat}
    {s : ParserScratch} (h : SameErrors ctx ctx') :
    SameErrors ctx (matchProperty size descriptor tokenOffset s ctx').2 := by
  have hmark : ∀ {s ctx'}, SameErrors ctx ctx' → SameErrors ctx (markDeviceUniqueId s ctx').2 :=
    fun h => h.count .parcelDeviceUniqueIdHits rfl
  simp only [matchProperty]
  cases propertyMatched s size descriptor tokenOffset with
  | true =>
    simp only [if_true]
    split
    · exact hmark h
    · split
      · exact hmark (hmark h)
      · exact hmark h
  | false =>
    simp only [Bool.false_eq_true, if_false]
    split
    · exact h
    · split
      · exact hmark h
      · exact h

theorem emitTryParcelDescriptor_errors (size : Nat) (offsets : List Nat) (s : ParserScratch)
    (h : SameErrors ctx ctx') : SameErrors ctx
      (emitTryParcelDescriptor size kDrmPlugin .drmPlugin .parcelPluginHits offsets s ctx').2.2 := by
  induction offsets generalizing s ctx' with
  | nil => exact h
  | cons tokenOffset offsets ih =>
    simp only [emitTryParcelDescriptor]
    cases descriptorForm s size kDrmPlugin tokenOffset with
    | none => exact ih s h
    | some extra =>
      simp only [if_true]
      split
      · exact ih _ (h.count _ rfl)
      · exact matchProperty_errors (h.count _ rfl)

theorem scanParcel_errors (size : Nat) (s : ParserScratch) (h : SameErrors ctx ctx') :
    SameErrors ctx (scanParcel size s ctx').2 := by
  have htry := emitTryParcelDescriptor_errors size tokenOffsets s h
  simp only [scanParcel]
  split
  · exact htry
  · exact htry.count _ rfl

theorem emitCaptureParcelPrefix_errors (stream : StreamType) (command : UInt32) (u : UserMemory)
    (s : ParserScratch) (h : SameErrors ctx ctx') :
    SameErrors ctx (emitCaptureParcelPrefix stream command u s ctx').2 := by
  unfold emitCaptureParcelPrefix
  split
  · exact h
  · split
    · exact scanParcel_errors _ _ h
    · split
      · exact h.count _ rfl
      · dsimp only
        split
        · exact h.count _ rfl
        · exact scanParcel_errors _ _ (h.count _ rfl)

/-! ## The pending table -/

theorem emitPendingPop_errors (task : UInt64) (acquired : Bool) (s : ParserScratch)
    (h : SameErrors ctx ctx') : SameErrors ctx (emitPendingPop task acquired false s ctx').ctx := by
  unfold emitPendingPop popMiss
  split
  · exact h.count _ rfl
  · split
    · exact h.count _ rfl
    · dsimp only
      split
      · exact h.count _ rfl
      · split
        · split
          · exact h.congr rfl
          · exact (h.congr rfl).count .pendingPops rfl
        · exact (h.congr rfl).count _ rfl

theorem emitPendingPush_errors (t : TaskIdentity) (acquired : Bool) (eventId : UInt64)
    (s : ParserScratch) (h : SameErrors ctx ctx') :
    SameErrors ctx (emitPendingPush t acquired eventId s ctx').2 := by
  have hcollide : SameErrors ctx (if (pushTarget ctx'.pending t).collides then
      ctx'.emitCounterIncrement .pendingCollisions else ctx') := by
    split
    · exact h.count _ rfl
    · exact h
  unfold emitPendingPush
  split
  · exact h.count _ rfl
  · split
    · exact h.count _ rfl
    · dsimp only
      split
      · exact (hcollide.congr rfl).count _ rfl
      · exact (hcollide.congr rfl).count _ rfl

/-! ## Replies -/

/-- A stage counts no stream error, whether it runs on or branches to a label. -/
def StageErrors (ctx : KernelCounterContext) :
    Except (ReplyLabel × ReplyState) ReplyState → Prop
  | .ok st => SameErrors ctx st.ctx
  | .error (label, st) => SameErrors ctx (st.finish label).ctx

section
open ReplyState

variable {st : ReplyState}

theorem StageErrors.bind {x : Except (ReplyLabel × ReplyState) ReplyState} {k : Stage}
    (h : StageErrors ctx x) (hk : ∀ st, SameErrors ctx st.ctx → StageErrors ctx (k st)) :
    StageErrors ctx (x >>= k) := by
  cases x with
  | ok st => exact hk st h
  | error e => exact h

theorem captureStage_errors (requestId : UInt64) (requestFlags : UInt32)
    (h : SameErrors ctx st.ctx) : StageErrors ctx (captureStage requestId requestFlags st) := by
  unfold captureStage
  split
  · exact h.count _ rfl
  · split
    · exact h
    · exact (h.count _ rfl).count _ rfl

theorem headerStage_errors (h : SameErrors ctx st.ctx) : StageErrors ctx (headerStage st) := by
  unfold headerStage
  dsimp only
  split
  · exact h.count _ rfl
  · split
    · exact h.count _ rfl
    · split
      · exact h.count _ rfl
      · split
        · exact (h.count _ rfl).count _ rfl
        · split
          · exact ((h.count _ rfl).count _ rfl).count _ rfl
          · split
            · exact ((h.count _ rfl).count _ rfl).count _ rfl
            · exact ((h.count _ rfl).count _ rfl).count _ rfl

theorem contentStage_errors (h : SameErrors ctx st.ctx) : StageErrors ctx (contentStage st) := by
  unfold contentStage
  split
  · exact h.count _ rfl
  · exact (h.count _ rfl).count _ rfl

theorem lengthStage_errors (h : SameErrors ctx st.ctx) : StageErrors ctx (lengthStage st) := by
  unfold lengthStage
  split
  · exact h.count _ rfl
  · exact h

theorem modeStage_errors (h : SameErrors ctx st.ctx) : StageErrors ctx (modeStage st) := by
  unfold modeStage
  split
  · exact h.count _ rfl
  · exact h

theorem copyStage_errors (requestId : UInt64) (h : SameErrors ctx st.ctx) :
    StageErrors ctx (copyStage requestId st) := by
  unfold copyStage
  split
  · exact (h.count _ rfl).count _ rfl
  · exact (h.count _ rfl).congr rfl

theorem emitParseHalCorrelatedReply_errors (requestId : UInt64) (requestFlags : UInt32)
    (h : SameErrors ctx st.ctx) :
    SameErrors ctx (emitParseHalCorrelatedReply requestId requestFlags st).ctx := by
  have hstages := (captureStage_errors requestId requestFlags h).bind fun _ h =>
    (headerStage_errors h).bind fun _ h => (contentStage_errors h).bind fun _ h =>
      (lengthStage_errors h).bind fun _ h => (modeStage_errors h).bind fun _ h =>
        copyStage_errors requestId h
  unfold emitParseHalCorrelatedReply
  revert hstages
  generalize (captureStage requestId requestFlags st >>= _) = x
  intro hx
  cases x with
  | ok st' => exact hx
  | error e => exact hx

end

/-! ## A recording -/

/-- **Recording a command counts no stream error.** -/
theorem emitRecordTransaction_errors (t : TaskIdentity) (stream : StreamType) (command : UInt32)
    (acquired : Bool) (u : UserMemory) (s : ParserScratch) (h : SameErrors ctx ctx') :
    SameErrors ctx (emitRecordTransaction t stream command acquired u s ctx').2.2 := by
  have hbegin : SameErrors ctx (beginRecord t stream command u s ctx').2 := by
    unfold beginRecord
    split
    · exact emitCaptureParcelPrefix_errors stream command u _ h
    · exact h
  have hpop : ∀ {r ctx'}, SameErrors ctx ctx' →
      SameErrors ctx (parseRecord u (popRecord acquired r ctx').1
        (popRecord acquired r ctx').2).2.2 := by
    intro r ctx' h
    exact emitParseHalCorrelatedReply_errors _ _
      (emitPendingPop_errors r.task.kaddr acquired r.scratch h)
  have hreserve : ∀ {r ctx'}, SameErrors ctx ctx' → SameErrors ctx (reserveRecord r ctx').2 :=
    fun h => h.congr rfl
  have hpush : ∀ {r ctx'}, SameErrors ctx ctx' → SameErrors ctx (pushRecord acquired r ctx').2 := by
    intro r ctx' h
    unfold pushRecord
    split
    · exact emitPendingPush_errors r.task acquired r.eventId r.scratch (h.count _ rfl)
    · exact h
  have hpublish : ∀ {r ctx'}, SameErrors ctx ctx' → SameErrors ctx (publishRecord r ctx').2 :=
    fun h => (h.count .transactionMetadataOk rfl).congr rfl
  unfold emitRecordTransaction
  dsimp only
  apply hpublish
  cases isRequest stream command with
  | true =>
    simp only [if_true]
    apply hpush
    apply hreserve
    split
    · exact hpop hbegin
    · exact hbegin
  | false =>
    simp only [Bool.false_eq_true, if_false]
    apply hreserve
    split
    · exact hpop hbegin
    · exact hbegin

end
end Drmid
