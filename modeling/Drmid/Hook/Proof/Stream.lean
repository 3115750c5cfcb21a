import Mathlib.Data.List.GetD
import Drmid.Hook.Stream
import Drmid.Hook.Proof.Reply
import Drmid.Hook.Proof.SystemSteps

/-!
# A framed stream is handed on in order, each command once

`emitRecordTransaction_user` bounds what recording one command does to user memory: at most the
32-byte array of a reply. So a stream that does not contain the arrays of its own replies is the
same at every command (`StreamAt.next`), and `emitParseCommandStream_handed` follows by induction
over the commands: the walk hands on the stream's transaction commands, in order, each once.
-/

namespace Drmid

/-! ## Loads -/

theorem BinderTransactionData.ofBytes_congr {b b' : Nat → UInt8} (h : ∀ i < 64, b i = b' i) :
    ofBytes b = ofBytes b' := by
  simp only [ofBytes, BinderTransactionData.mk.injEq]
  refine ⟨?_, ?_, ?_, ?_, ?_, ?_, ?_, ?_, ?_, ?_⟩
  all_goals first | apply le64_congr | apply le32_congr
  all_goals
    intro i hi
    exact h _ (by omega)

theorem add_ofNat_add (base : UInt64) (m n : Nat) :
    base + UInt64.ofNat m + UInt64.ofNat n = base + UInt64.ofNat (m + n) := by
  rw [UInt64.ofNat_add, UInt64.add_assoc]

/-! ## What recording a command does to user memory -/

/-- `u'` is `u` but for the 32 bytes after the header of the parcel at `buffer`. -/
structure SameButArray (buffer : UInt64) (u u' : UserMemory) : Prop where
  readable : u'.readable = u.readable
  byte : ∀ a : UInt64, 32 ≤ (a - (buffer + 8)).toNat → u'.byte a = u.byte a

theorem SameButArray.rfl {buffer : UInt64} {u : UserMemory} : SameButArray buffer u u :=
  ⟨Eq.refl _, fun _ _ => Eq.refl _⟩

theorem parseRecord_user (u : UserMemory) (r : Recording) (ctx : KernelCounterContext) :
    SameButArray r.scratch.transaction.buffer u (parseRecord u r ctx).2.1 := by
  have h := emitParseHalCorrelatedReply_spec r.requestId r.requestFlags ⟨u, r.scratch, ctx⟩
  rcases h.2 with ⟨-, huser, -⟩ | ⟨-, huser, -⟩
  · rw [show (parseRecord u r ctx).2.1 = _ from huser]
    refine ⟨rfl, fun a ha => UserMemory.store_byte_outside ?_⟩
    rw [ReplyState.length_take_virtualId]
    exact ha
  · rw [show (parseRecord u r ctx).2.1 = u from huser]
    exact .rfl

/-- **Recording a command** changes user memory only when the command is a reply, and then at most
its array. -/
theorem emitRecordTransaction_user (t : TaskIdentity) (stream : StreamType) (command : UInt32)
    (acquired : Bool) (u : UserMemory) (s : ParserScratch) (ctx : KernelCounterContext) :
    let u' := (emitRecordTransaction t stream command acquired u s ctx).1
    (isReply stream command = false → u' = u) ∧ SameButArray s.transaction.buffer u u' := by
  intro u'
  cases hreply : isReply stream command with
  | false =>
    have hu : u' = u := by simp only [u', emitRecordTransaction, hreply]; rfl
    exact ⟨fun _ => hu, hu ▸ .rfl⟩
  | true =>
    refine ⟨fun h => (by cases h), ?_⟩
    have hstream : stream = .bc := by
      cases stream with
      | bc => rfl
      | br => simp [isReply] at hreply
    subst hstream
    -- the reply is parsed with the transaction data it was handed
    obtain ⟨g, hg⟩ := emitPendingPop_scratch t.kaddr acquired false
      s.emitResetTransactionParseScratch ctx
    have hparse := parseRecord_user u
      (popRecord acquired (beginRecord t .bc command u s ctx).1 ctx).1
      (popRecord acquired (beginRecord t .bc command u s ctx).1 ctx).2
    have htd : (popRecord acquired (beginRecord t .bc command u s ctx).1 ctx).1.scratch.transaction
        = s.transaction := by
      have h := congrArg ParserScratch.transaction hg
      exact h
    rw [htd] at hparse
    have hu : u' = (parseRecord u (popRecord acquired (beginRecord t .bc command u s ctx).1 ctx).1
        (popRecord acquired (beginRecord t .bc command u s ctx).1 ctx).2).2.1 := by
      simp only [u', emitRecordTransaction, hreply]
      rfl
    exact hu ▸ hparse

/-! ## A stream in memory -/

section
variable {stream : StreamType} {u u' : UserMemory} {base : UInt64} {c : Command}
  {cs : List Command}

@[simp] theorem streamBytes_cons : streamBytes (c :: cs) = c.bytes ++ streamBytes cs := rfl

theorem Command.Framed.four_le (h : c.Framed stream) : 4 ≤ c.bytes.length := by
  have := h.2
  omega

/-- The command after the first lies where the first ends. -/
theorem StreamAt.tail (h : StreamAt stream u base (c :: cs)) :
    StreamAt stream u (base + UInt64.ofNat c.bytes.length) cs := by
  have hlen : (streamBytes (c :: cs)).length = c.bytes.length + (streamBytes cs).length := by simp
  refine ⟨fun d hd => h.framed d (.tail _ hd), fun i hi => ?_, fun k n hkn => ?_,
    fun d hd hr i hi => ?_⟩
  · rw [add_ofNat_add, h.holds _ (by omega), streamBytes_cons, List.getD_append_right _ _ _ _
      (by omega), Nat.add_sub_cancel_left]
  · rw [add_ofNat_add]
    exact h.readable _ _ (by omega)
  · rw [add_ofNat_add]
    exact h.apart d (.tail _ hd) hr _ (by omega)

/-- The bytes of the first command. -/
theorem StreamAt.head (h : StreamAt stream u base (c :: cs)) {i : Nat} (hi : i < c.bytes.length) :
    u.byte (base + UInt64.ofNat i) = c.bytes.getD i 0 := by
  rw [h.holds i (by simp; omega), streamBytes_cons, List.getD_append _ _ _ _ hi]

/-- The rest of the stream is what it was after the first command has been recorded. -/
theorem StreamAt.next (h : StreamAt stream u base (c :: cs))
    (hsame : (isReply stream c.word = false → u' = u) ∧
      SameButArray c.transaction.buffer u u') :
    StreamAt stream u' (base + UInt64.ofNat c.bytes.length) cs := by
  cases hreply : isReply stream c.word with
  | false => rw [hsame.1 hreply]; exact h.tail
  | true =>
    have ht := h.tail
    refine ⟨ht.framed, fun i hi => ?_, fun k n hkn => ?_, ht.apart⟩
    · rw [hsame.2.byte, ht.holds i hi]
      rw [add_ofNat_add]
      exact h.apart c (.head _) hreply _ (by simp; omega)
    · rw [hsame.2.readable]
      exact ht.readable k n hkn

/-- The word is read off the first four bytes. -/
theorem StreamAt.word (h : StreamAt stream u base (c :: cs)) :
    ∃ data, u.copyFromUser base 4 = some data ∧ le32 data = c.word := by
  have h4 := (h.framed c (.head _)).four_le
  have hread : u.readable base 4 = true := by
    have := h.readable 0 4 (by simp; omega)
    simpa using this
  exact ⟨_, UserMemory.copyFromUser_ok hread, le32_congr fun i hi => h.head (by omega)⟩

theorem StreamType.le_iocSize {command : UInt32} (h : command ∈ stream.transactionCommands) :
    64 ≤ (iocSize command).toNat := by
  have hall : stream.transactionCommands.all fun w => decide (64 ≤ (iocSize w).toNat) := by
    cases stream <;> decide +kernel
  exact of_decide_eq_true (List.all_eq_true.1 hall command h)

/-- The transaction data is read off the 64 bytes after the word. -/
theorem StreamAt.transaction (h : StreamAt stream u base (c :: cs))
    (hc : c.word ∈ stream.transactionCommands) :
    ∃ data, u.copyFromUser (base + 4) 64 = some data ∧
      BinderTransactionData.ofBytes data = c.transaction := by
  have hsize := StreamType.le_iocSize hc
  have hlen := (h.framed c (.head _)).2
  have hread : u.readable (base + 4) 64 = true := h.readable 4 64 (by simp; omega)
  refine ⟨_, UserMemory.copyFromUser_ok hread, BinderTransactionData.ofBytes_congr fun i hi => ?_⟩
  rw [show base + 4 + UInt64.ofNat i = base + UInt64.ofNat (4 + i) from add_ofNat_add base 4 i,
    h.head (by omega), Nat.add_comm]

theorem transactions_cons : stream.transactions (c :: cs) =
    (if stream.transactionCommands.contains c.word then [⟨c.word, c.transaction⟩] else []) ++
      stream.transactions cs := by
  unfold StreamType.transactions
  rw [List.filter_cons]
  split <;> rfl

theorem transactions_append (cs ds : List Command) :
    stream.transactions (cs ++ ds) = stream.transactions cs ++ stream.transactions ds := by
  simp [StreamType.transactions]

end

/-! ## The walk -/

section
variable {t : TaskIdentity} {stream : StreamType} {addr : UInt64} {c : Command}
  {cs : List Command}

/-- One command of a framed stream: it is handed on when it carries transaction data, and the rest
of the stream stays as it is. -/
theorem processCommand_step {w : Walk} (acquired : Bool)
    (h : StreamAt stream w.user addr (c :: cs)) :
    let w' := w.processCommand t stream acquired c.word addr
    w'.handed = w.handed ++
        (if stream.transactionCommands.contains c.word then [⟨c.word, c.transaction⟩] else []) ∧
      StreamAt stream w'.user (addr + UInt64.ofNat c.bytes.length) cs := by
  intro w'
  by_cases hc : stream.transactionCommands.contains c.word
  · obtain ⟨data, hcopy, htd⟩ := h.transaction (List.contains_iff_mem.1 hc)
    have hw' : w' = ((w.count stream.counters.command).count stream.counters.transaction).record t
        stream acquired c.word c.transaction := by
      simp only [w', Walk.processCommand, Walk.processTransaction, if_pos hc]
      rw [show ((w.count stream.counters.command).count stream.counters.transaction).user =
        w.user from rfl, hcopy, ← htd]
    rw [hw', if_pos hc]
    exact ⟨rfl, h.next (emitRecordTransaction_user t stream c.word acquired w.user
      { w.scratch with transaction := c.transaction } _)⟩
  · have hw' : w' = w.count stream.counters.command := by
      simp only [w', Walk.processCommand, if_neg hc]
    rw [hw', if_neg hc, List.append_nil]
    exact ⟨rfl, h.tail⟩

/-- The loop hands on the transaction commands of a framed stream, as long as it is not longer than
the commands left. -/
theorem parseLoop_handed (acquired : Nat → Bool) {left : Nat} {remaining : UInt64} {w : Walk}
    (hne : cs ≠ []) (hleft : cs.length ≤ left) (h : StreamAt stream w.user addr cs)
    (hrem : remaining.toNat = (streamBytes cs).length) :
    (parseLoop t stream acquired left addr remaining w).handed =
      w.handed ++ stream.transactions cs := by
  induction cs generalizing left addr remaining w with
  | nil => exact absurd rfl hne
  | cons c cs ih =>
    obtain ⟨left, rfl⟩ : ∃ n, left = n + 1 := ⟨left - 1, by simp at hleft; omega⟩
    obtain ⟨htype, hlen⟩ := h.framed c (.head _)
    obtain ⟨data, hcopy, hword⟩ := h.word
    rw [streamBytes_cons, List.length_append] at hrem
    -- the size the loop advances by is the command's length
    have hsize : (iocSize c.word).toUInt64 + 4 = UInt64.ofNat c.bytes.length := by
      rw [hlen, UInt64.ofNat_add, ← UInt32.toNat_toUInt64, UInt64.ofNat_toNat]
      rfl
    have hsizeNat : (UInt64.ofNat c.bytes.length).toNat = c.bytes.length := by
      have := remaining.toNat_lt
      rw [UInt64.toNat_ofNat', Nat.mod_eq_of_lt (by omega)]
    have hle : UInt64.ofNat c.bytes.length ≤ remaining := by
      rw [UInt64.le_iff_toNat_le]
      omega
    have hrest : (remaining - UInt64.ofNat c.bytes.length).toNat = (streamBytes cs).length := by
      rw [UInt64.toNat_sub_of_le _ _ hle]
      omega
    have hfour : ¬remaining < 4 := by
      rw [UInt64.lt_iff_toNat_lt, show (4 : UInt64).toNat = 4 from rfl]
      omega
    obtain ⟨hhanded, hnext⟩ := processCommand_step (t := t) (acquired left) h
    simp only [parseLoop, if_neg hfour, hcopy, hword, htype, ne_eq, not_true, if_false, hsize,
      if_neg (UInt64.not_lt.2 hle)]
    rw [transactions_cons, ← List.append_assoc, ← hhanded]
    by_cases hcs : cs = []
    · subst hcs
      have hzero : remaining - UInt64.ofNat c.bytes.length = 0 :=
        UInt64.toNat_inj.1 (by rw [hrest]; rfl)
      rw [if_pos hzero]
      exact (List.append_nil _).symm
    · obtain ⟨d, ds, rfl⟩ := List.exists_cons_of_ne_nil hcs
      have hd := (h.framed d (.tail _ (.head _))).four_le
      have hnonzero : remaining - UInt64.ofNat c.bytes.length ≠ 0 := by
        intro hz
        rw [hz, streamBytes_cons, List.length_append] at hrest
        simp at hrest
        omega
      rw [if_neg hnonzero]
      exact ih hcs (by simpa using hleft) hnext hrest

/-- **A framed stream is handed on in order, each command once.** -/
theorem emitParseCommandStream_handed (acquired : Nat → Bool) {consumed : UInt64} {w : Walk}
    (h : StreamIn stream w.user addr consumed cs) :
    (emitParseCommandStream t stream acquired addr consumed w).handed =
      w.handed ++ stream.transactions cs := by
  have hlen := h.length
  unfold emitParseCommandStream
  by_cases hcs : cs = []
  · subst hcs
    have hzero : consumed = 0 := UInt64.toNat_inj.1 (by rw [hlen]; rfl)
    rw [if_pos hzero]
    exact (List.append_nil _).symm
  · obtain ⟨d, ds, rfl⟩ := List.exists_cons_of_ne_nil hcs
    have hd := (h.framed d (.head _)).four_le
    have hnonzero : consumed ≠ 0 := by
      intro hz
      rw [hz, streamBytes_cons, List.length_append] at hlen
      simp at hlen
      omega
    have hcap : ¬kMaxParsedStreamBytes < consumed := by
      have := h.bytes_le
      rw [UInt64.lt_iff_toNat_lt]
      omega
    rw [if_neg hnonzero, if_neg (h.nonnull hcs), if_neg hcap]
    exact parseLoop_handed acquired hcs h.commands_le h.toStreamAt h.length

end
end Drmid
