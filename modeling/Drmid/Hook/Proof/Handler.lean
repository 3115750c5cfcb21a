import Mathlib.Data.List.Forall2
import Drmid.Hook.Handler
import Drmid.Hook.Proof.Stream

/-!
# What a run of calls hands on

`trackedCall_bc` and `trackedCall_br` say what one well-framed call hands to
`emit_record_transaction`; `commands_handed` is the same over every run of one thread's calls. The
`'c'` stream is walked before the driver says how much of it it takes, so what a call leaves
unconsumed is handed on with the rest, and again when it is resubmitted.
-/

namespace Drmid

open Lib

/-! ## One call -/

section
variable {t : TaskIdentity} {ctx : KernelCounterContext} {x : Exchange}

theorem splitConsumed_append (n : Nat) (cs : List Command) :
    (splitConsumed n cs).1 ++ (splitConsumed n cs).2 = cs := by
  induction cs generalizing n with
  | nil => rfl
  | cons c cs ih =>
    rw [splitConsumed]
    split
    · exact congrArg (c :: ·) (ih _)
    · rfl

theorem Exchange.consumed_append_left (x : Exchange) : x.consumed ++ x.left = x.submitted :=
  splitConsumed_append _ _

/-- A well-framed call gets past the checks before the original. -/
theorem Exchange.WellFramed.preCall (h : x.WellFramed) :
    (preCall t x.inv ctx).header = some x.pre ∧
      (preCall t x.inv ctx).bc = StreamType.bc.transactions x.submitted := by
  have hle : ¬x.pre.writeSize < x.pre.writeConsumed :=
    UInt64.not_lt.2 (UInt64.le_trans h.write_mono h.write_le)
  unfold Drmid.preCall
  simp only [h.cmd, ne_eq, not_true, if_false, h.before, if_neg hle, true_and]
  exact emitParseCommandStream_handed (x.inv.acquired .bc) h.submitted

/-- And past the checks after it. -/
theorem Exchange.WellFramed.postHeaderValid (h : x.WellFramed) :
    postHeaderValid x.pre x.post = true := by
  have hk := h.kept
  simp only [Drmid.postHeaderValid, Bool.and_eq_true, beq_iff_eq, decide_eq_true_eq]
  refine ⟨⟨⟨⟨⟨⟨?_, ?_⟩, ?_⟩, ?_⟩, h.write_le⟩, h.write_mono⟩, h.read_le⟩
  all_goals rw [hk]

/-- The unconsumed `'c'` commands are handed on, whatever the driver does with them. -/
theorem trackedCall_bc (h : x.WellFramed) :
    (trackedCall t x.inv ctx).bc = StreamType.bc.transactions x.submitted :=
  h.preCall.2

/-- The `'r'` commands a driver puts at the start of the read buffer are handed on. -/
theorem trackedCall_br (h : x.WellFramed) (hread : x.pre.readConsumed = 0) :
    (trackedCall t x.inv ctx).br = StreamType.br.transactions x.delivered := by
  have hbuf : x.post.readBuffer = x.pre.readBuffer := by rw [h.kept]
  have hstream := h.delivered
  rw [hread, UInt64.add_zero, UInt64.sub_zero, ← hbuf] at hstream
  simp only [trackedCall, h.preCall.1, postParse, h.after, h.postHeaderValid, if_true]
  exact emitParseCommandStream_handed (x.inv.acquired .br) hstream

end

/-! ## Runs -/

section
variable {installerTgid : UInt32} {t : TaskIdentity}

/-- What a call of a run hands on. -/
structure Exchange.HandedOn (out : Outcome) (x : Exchange) : Prop where
  bc : out.bc = StreamType.bc.transactions x.consumed ++ StreamType.bc.transactions x.left
  br : x.pre.readConsumed = 0 → out.br = StreamType.br.transactions x.delivered

theorem handler_handedOn {x : Exchange} {C : Calls} (h : x.WellFramed)
    (htracked : C.Tracked installerTgid t x.inv) :
    Exchange.HandedOn (handler installerTgid t x.inv (x.inv.since C.ctx)) x := by
  have hgate : emitHalIdentityGate installerTgid t (x.inv.since C.ctx) = true := htracked
  rw [handler, if_pos hgate]
  refine ⟨?_, trackedCall_br h⟩
  rw [trackedCall_bc h, ← x.consumed_append_left, transactions_append]

/-- Call by call over a run. -/
theorem run_handedOn (ctx : KernelCounterContext) (xs : List Exchange)
    (hframed : ∀ x ∈ xs, x.WellFramed)
    (htracked : Along (Calls.step installerTgid t) (Calls.Tracked installerTgid t) (.init ctx)
      (xs.map Exchange.inv)) :
    List.Forall₂ Exchange.HandedOn
      (Calls.run installerTgid t (.init ctx) (xs.map Exchange.inv)).outcomes xs := by
  induction xs using List.reverseRecOn with
  | nil => exact .nil
  | append_singleton xs x ih =>
    rw [List.map_append, List.map_singleton] at htracked ⊢
    obtain ⟨hpre, hlast⟩ := along_concat.1 htracked
    rw [Calls.run, run_concat]
    refine List.rel_append (ih (fun y hy => hframed y ?_) hpre) (.cons ?_ .nil)
    · exact List.mem_append_left _ hy
    · exact handler_handedOn (hframed x (List.mem_append_right _ (.head _))) hlast

/-- What is handed on over a run exceeds what is consumed by what is left unconsumed. -/
theorem length_handed {outs : List Outcome} {xs : List Exchange}
    (h : List.Forall₂ Exchange.HandedOn outs xs) :
    (outs.flatMap Outcome.bc).length =
      (xs.flatMap fun x => StreamType.bc.transactions x.consumed).length +
        (xs.flatMap fun x => StreamType.bc.transactions x.left).length := by
  induction h with
  | nil => rfl
  | cons hx _ ih =>
    simp only [List.flatMap_cons, List.length_append, hx.bc, ih]
    omega

theorem bc_eq_of_nothing_left {outs : List Outcome} {xs : List Exchange}
    (h : List.Forall₂ Exchange.HandedOn outs xs)
    (hleft : ∀ x ∈ xs, StreamType.bc.transactions x.left = []) :
    outs.flatMap Outcome.bc = xs.flatMap fun x => StreamType.bc.transactions x.consumed := by
  induction h with
  | nil => rfl
  | cons hx _ ih =>
    rw [List.flatMap_cons, List.flatMap_cons, hx.bc, hleft _ (.head _), List.append_nil,
      ih fun y hy => hleft y (.tail _ hy)]

theorem br_eq {outs : List Outcome} {xs : List Exchange}
    (h : List.Forall₂ Exchange.HandedOn outs xs) (hread : ∀ x ∈ xs, x.pre.readConsumed = 0) :
    outs.flatMap Outcome.br = xs.flatMap fun x => StreamType.br.transactions x.delivered := by
  induction h with
  | nil => rfl
  | cons hx _ ih =>
    rw [List.flatMap_cons, List.flatMap_cons, hx.br (hread _ (.head _)),
      ih fun y hy => hread y (.tail _ hy)]

end

/-! ## Runs on sample buffers -/

/-- The bytes of a little-endian word. -/
def le32Bytes (w : UInt32) : List UInt8 :=
  [w.toUInt8, (w >>> 8).toUInt8, (w >>> 16).toUInt8, (w >>> 24).toUInt8]

def le64Bytes (w : UInt64) : List UInt8 := le32Bytes w.toUInt32 ++ le32Bytes (w >>> 32).toUInt32

def BinderWriteRead.bytes (h : BinderWriteRead) : List UInt8 :=
  [h.writeSize, h.writeConsumed, h.writeBuffer, h.readSize, h.readConsumed,
    h.readBuffer].flatMap le64Bytes

/-- A command whose transaction data is all zero. -/
def zeroCommand (word : UInt32) : Command := ⟨le32Bytes word ++ List.replicate 64 0⟩

/-- A call with both buffers behind its header at `0x1000`, of which the driver consumes
`writeConsumed` bytes. -/
def sampleExchange (submitted delivered : List Command) (writeConsumed : UInt64) : Exchange :=
  let writeSize := UInt64.ofNat (streamBytes submitted).length
  let readSize := UInt64.ofNat (streamBytes delivered).length
  let pre : BinderWriteRead := ⟨writeSize, 0, 0x1030, readSize, 0, 0x1030 + writeSize⟩
  let post := { pre with writeConsumed := writeConsumed, readConsumed := readSize }
  { inv :=
      { io := ⟨3, binderWriteRead.toUInt64, 0x1000⟩
        user := .ofBytes 0x1000 (pre.bytes ++ streamBytes submitted)
        ret := 0
        after := .ofBytes 0x1000 (post.bytes ++ streamBytes submitted ++ streamBytes delivered)
        since := id
        during := id
        acquired := fun _ _ => true
        scratch := fun _ => .zero }
    pre := pre
    post := post
    submitted := submitted
    delivered := delivered }

/-- In a memory that is readable throughout the rest of `StreamIn` can be evaluated. -/
theorem streamIn_ofBytes {stream : StreamType} {base addr n : UInt64} {bytes : List UInt8}
    {cs : List Command} (hframed : ∀ c ∈ cs, c.Framed stream)
    (hholds : ∀ i < (streamBytes cs).length,
      (UserMemory.ofBytes base bytes).byte (addr + UInt64.ofNat i) = (streamBytes cs).getD i 0)
    (hapart : ∀ c ∈ cs, isReply stream c.word = true → ∀ i < (streamBytes cs).length,
      32 ≤ (addr + UInt64.ofNat i - (c.transaction.buffer + 8)).toNat)
    (hsize : n.toNat = (streamBytes cs).length ∧
      (streamBytes cs).length ≤ kMaxParsedStreamBytes.toNat ∧ cs.length ≤ kMaxParsedCommands)
    (hnonnull : addr ≠ 0) : StreamIn stream (.ofBytes base bytes) addr n cs :=
  ⟨⟨hframed, hholds, fun _ _ _ => rfl, hapart⟩, hsize.1, hsize.2.1, hsize.2.2, fun _ => hnonnull⟩

theorem sampleRequest_wellFramed :
    (sampleExchange [] [zeroCommand brTransaction] 0).WellFramed where
  cmd := by decide
  before := by decide +kernel
  after := by decide +kernel
  kept := rfl
  write_mono := by decide
  write_le := by decide
  read_mono := by decide
  read_le := by decide
  submitted := streamIn_ofBytes (by decide) (by decide) (by decide) (by decide) (by decide)
  delivered := streamIn_ofBytes (by decide +kernel) (by decide +kernel) (by decide +kernel)
    (by decide +kernel) (by decide)

/-- A reply, of which the driver consumes `writeConsumed` bytes. -/
def sampleReply (writeConsumed : UInt64) : Exchange :=
  sampleExchange [zeroCommand bcReply] [] writeConsumed

theorem sampleReply_wellFramed {writeConsumed : UInt64}
    (h : writeConsumed = 0 ∨ writeConsumed = 68) : (sampleReply writeConsumed).WellFramed := by
  have hstream : StreamIn .bc (sampleReply writeConsumed).inv.user (0x1030 + 0) (68 - 0)
      [zeroCommand bcReply] :=
    streamIn_ofBytes (by decide +kernel) (by decide +kernel) (by decide +kernel)
      (by decide +kernel) (by decide)
  have hnone : StreamIn .br (sampleReply writeConsumed).inv.after (0x1030 + 68 + 0) (0 - 0) [] :=
    streamIn_ofBytes (by decide) (fun i hi => absurd hi (Nat.not_lt_zero i)) (by decide)
      (by decide) (by decide)
  rcases h with rfl | rfl
  all_goals exact ⟨by decide, by decide +kernel, by decide +kernel, rfl, by decide, by decide,
    by decide, by decide, hstream, hnone⟩

/-! ## The whole run -/

/-- **Main result.** Over every run of one thread's tracked calls, each call hands on, in order and
each once, the transaction commands its caller submitted, consumed and left ones alike, and, when
it enters with an empty read buffer, those the driver delivered. Over the run the `'c'` commands
handed on are the consumed ones, each once, exactly if no call leaves a transaction command
unconsumed. -/
theorem commands_handed (installerTgid : UInt32) (t : TaskIdentity) (ctx : KernelCounterContext)
    (xs : List Exchange) (hframed : ∀ x ∈ xs, x.WellFramed)
    (htracked : Along (Calls.step installerTgid t) (Calls.Tracked installerTgid t) (.init ctx)
      (xs.map Exchange.inv)) :
    let C := Calls.run installerTgid t (.init ctx) (xs.map Exchange.inv)
    List.Forall₂ (fun (out : Outcome) (x : Exchange) =>
        x.submitted = x.consumed ++ x.left ∧
        out.bc = StreamType.bc.transactions x.consumed ++ StreamType.bc.transactions x.left ∧
        (x.pre.readConsumed = 0 → out.br = StreamType.br.transactions x.delivered))
      C.outcomes xs ∧
    (C.bc.Perm (xs.flatMap fun x => StreamType.bc.transactions x.consumed) ↔
      ∀ x ∈ xs, StreamType.bc.transactions x.left = []) ∧
    ((∀ x ∈ xs, x.pre.readConsumed = 0) →
      C.br = xs.flatMap fun x => StreamType.br.transactions x.delivered) := by
  intro C
  have hrun := run_handedOn ctx xs hframed htracked
  refine ⟨?_, ⟨fun hperm => ?_, fun hleft => ?_⟩, br_eq hrun⟩
  · exact hrun.imp fun out x h => ⟨x.consumed_append_left.symm, h.bc, h.br⟩
  · have hlen := length_handed hrun
    rw [show (C.outcomes.flatMap Outcome.bc).length = _ from hperm.length_eq] at hlen
    have hnil : (xs.flatMap fun x => StreamType.bc.transactions x.left) = [] :=
      List.length_eq_zero_iff.1 (by omega)
    exact List.flatMap_eq_nil_iff.1 hnil
  · rw [show C.bc = _ from bc_eq_of_nothing_left hrun hleft]

/-- A thread of the installer. -/
def sampleTask : TaskIdentity := ⟨0x40, 1, 7⟩

/-- A request is delivered and its reply consumed. -/
theorem commands_handed_served :
    let xs := [sampleExchange [] [zeroCommand brTransaction] 0, sampleReply 68]
    let C := Calls.run 7 sampleTask (.init .zero) (xs.map Exchange.inv)
    C.bc.Perm [⟨bcReply, ⟨0, 0, 0, 0, 0, 0, 0, 0, 0, 0⟩⟩] ∧
      C.br = [⟨brTransaction, ⟨0, 0, 0, 0, 0, 0, 0, 0, 0, 0⟩⟩] := by
  intro xs C
  have hframed : ∀ x ∈ xs, x.WellFramed := by
    intro x hx
    simp only [xs, List.mem_cons, List.not_mem_nil, or_false] at hx
    rcases hx with rfl | rfl
    · exact sampleRequest_wellFramed
    · exact sampleReply_wellFramed (.inr rfl)
  obtain ⟨-, hbc, hbr⟩ := commands_handed 7 sampleTask .zero xs hframed fun _ _ _ _ => rfl
  exact ⟨hbc.2 (by decide +kernel), hbr (by decide +kernel)⟩

/-- The driver leaves a reply unconsumed, and the caller submits it again: it is handed on twice
and consumed once. -/
theorem resubmitted_reply_handed_twice :
    let xs := [sampleReply 0, sampleReply 68]
    let C := Calls.run 7 sampleTask (.init .zero) (xs.map Exchange.inv)
    (∀ x ∈ xs, x.WellFramed) ∧
      Along (Calls.step 7 sampleTask) (Calls.Tracked 7 sampleTask) (.init .zero)
        (xs.map Exchange.inv) ∧
      C.bc.length = 2 ∧
      (xs.flatMap fun x => StreamType.bc.transactions x.consumed).length = 1 ∧
      ¬C.bc.Perm (xs.flatMap fun x => StreamType.bc.transactions x.consumed) := by
  intro xs C
  have hhanded : C.bc.length = 2 := by decide +kernel
  have hconsumed : (xs.flatMap fun x => StreamType.bc.transactions x.consumed).length = 1 := by
    decide +kernel
  refine ⟨?_, fun _ _ _ _ => rfl, hhanded, hconsumed, fun hperm => ?_⟩
  · intro x hx
    simp only [xs, List.mem_cons, List.not_mem_nil, or_false] at hx
    rcases hx with rfl | rfl
    · exact sampleReply_wellFramed (.inl rfl)
    · exact sampleReply_wellFramed (.inr rfl)
  · have hlen := hperm.length_eq
    omega

end Drmid
