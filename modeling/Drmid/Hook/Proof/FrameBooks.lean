import Mathlib.Algebra.BigOperators.Fin
import Mathlib.Algebra.Order.BigOperators.Group.Finset
import Drmid.Hook.Proof.PendingRuns

/-!
# Where the pushed frames are

Every frame that was pushed has been popped, was stale when it was popped, is still in the table, or
was dropped with a slot that a push reclaimed or evicted, which holds one to four frames.
`FrameBooks` says so of the four counters, `X` being the frames dropped; an operation moves a frame
from one place to another (`emitPendingPush_outcome`, `emitPendingPop_outcome`), and
`frames_accounted` follows for every run. Pops are as they are emitted, with `terminal_reply` false;
between the operations the rest of the context, the HAL identities among it, may change in any way.
-/

namespace Drmid

open Lib

/-! ## Live frames -/

/-- The frames of a slot that count. -/
def BinderPendingSlot.live (slot : BinderPendingSlot) : ℕ :=
  if slot.taskKaddr = 0 then 0 else slot.depth.toNat

/-- The depths of the occupied slots, added up. -/
def liveFrames (T : Fin 256 → BinderPendingSlot) : ℕ := ∑ i, (T i).live

section
variable {T : Fin 256 → BinderPendingSlot} {i : Fin 256} {x : BinderPendingSlot}

/-- A store to one slot. -/
theorem liveFrames_update :
    liveFrames (Function.update T i x) + (T i).live = liveFrames T + x.live := by
  have hmem := Finset.mem_univ i
  have hcongr : ∑ j ∈ Finset.univ.erase i, (Function.update T i x j).live =
      ∑ j ∈ Finset.univ.erase i, (T j).live :=
    Finset.sum_congr rfl fun j hj => by rw [Function.update_of_ne (Finset.ne_of_mem_erase hj)]
  rw [liveFrames, liveFrames, ← Finset.add_sum_erase _ _ hmem,
    ← Finset.add_sum_erase _ (fun j => (T j).live) hmem, hcongr, Function.update_self]
  omega

theorem liveFrames_empty : liveFrames emptyPending = 0 := by
  simp [liveFrames, BinderPendingSlot.live, emptyPending, BinderPendingSlot.zero]

theorem PendingInv.live_le (hI : PendingInv T) (i : Fin 256) : (T i).live ≤ 4 := by
  unfold BinderPendingSlot.live
  split
  · exact Nat.zero_le 4
  · rename_i h
    exact hI.depth_le i h

theorem PendingInv.liveFrames_le (hI : PendingInv T) : liveFrames T ≤ 1024 := by
  have hsum := Finset.sum_le_card_nsmul Finset.univ (fun i => (T i).live) 4 fun i _ => hI.live_le i
  simpa [liveFrames] using hsum

theorem PendingInv.live_eq (h : (T i).taskKaddr ≠ 0) : (T i).live = (T i).depth.toNat := if_neg h

end

/-! ## Operations -/

/-- The counters of the frames. -/
def frameCounters : List Counter :=
  [.pendingPushes, .pendingPops, .pendingGenerationStale, .pendingCollisions]

/-- A push or a pop that took the lock, or anything else that happens in between: the context is
then `rest`, with the table and the counters of the frames left as they were. -/
inductive TableEvent
  | push (t : TaskIdentity) (eventId : UInt64) (s : ParserScratch)
  | pop (task : UInt64) (s : ParserScratch)
  | other (rest : KernelCounterContext)

namespace TableEvent

def step (ctx : KernelCounterContext) : TableEvent → KernelCounterContext
  | push t id s => (emitPendingPush t true id s ctx).2
  | pop task s => (emitPendingPop task true false s ctx).ctx
  | other rest =>
    { rest with
      pending := ctx.pending
      counter := fun c => if c ∈ frameCounters then ctx.counter c else rest.counter c }

/-- What the handler hands to the emitters: the pointer of its task, and an event id, which is a
counter that has been raised. -/
def Valid : TableEvent → Prop
  | push t id _ => t.kaddr ≠ 0 ∧ id ≠ 0
  | pop task _ => task ≠ 0
  | other _ => True

/-- No counter of the frames wraps. -/
def Unwrapped (ctx : KernelCounterContext) (_ : TableEvent) : Prop :=
  ∀ c ∈ frameCounters, ctx.counter c ≠ 0xffffffffffffffff

instance (ctx : KernelCounterContext) (e : TableEvent) : Decidable (Unwrapped ctx e) :=
  inferInstanceAs (Decidable (∀ c ∈ frameCounters, ctx.counter c ≠ 0xffffffffffffffff))

end TableEvent

/-- Of the counters of the frames exactly those in `cs` went up, by one. -/
def CountsUp (ctx ctx' : KernelCounterContext) (cs : List Counter) : Prop :=
  ∀ c ∈ frameCounters, ctx'.counter c = ctx.counter c + if c ∈ cs then 1 else 0

/-- Where an operation moved a frame. -/
inductive FrameMove (ctx ctx' : KernelCounterContext) : Prop
  | still (hlive : liveFrames ctx'.pending = liveFrames ctx.pending) (hup : CountsUp ctx ctx' [])
  | pushed (hlive : liveFrames ctx'.pending = liveFrames ctx.pending + 1)
      (hup : CountsUp ctx ctx' [.pendingPushes])
  | replaced (dropped : ℕ) (hpos : 1 ≤ dropped) (hle : dropped ≤ 4)
      (hlive : liveFrames ctx'.pending + dropped = liveFrames ctx.pending + 1)
      (hup : CountsUp ctx ctx' [.pendingPushes, .pendingCollisions])
  | popped (hlive : liveFrames ctx'.pending + 1 = liveFrames ctx.pending)
      (hup : CountsUp ctx ctx' [.pendingPops])
  | stale (hlive : liveFrames ctx'.pending + 1 = liveFrames ctx.pending)
      (hup : CountsUp ctx ctx' [.pendingGenerationStale])

section
variable {ctx ctx' : KernelCounterContext}

theorem CountsUp.of_counter (h : ctx'.counter = ctx.counter) : CountsUp ctx ctx' [] := by
  intro c _
  simp [h]

theorem CountsUp.count {cs : List Counter} (h : CountsUp ctx ctx' cs) {c : Counter} (hc : c ∉ cs) :
    CountsUp ctx (ctx'.emitCounterIncrement c) (c :: cs) := by
  intro d hd
  by_cases hdc : d = c
  · subst hdc
    have hsame := h d hd
    rw [if_neg hc, UInt64.add_zero] at hsame
    simp [KernelCounterContext.emitCounterIncrement, hsame]
  · simpa [KernelCounterContext.emitCounterIncrement, hdc] using h d hd

theorem CountsUp.withPending {cs : List Counter} {T : Fin 256 → BinderPendingSlot}
    (h : CountsUp ctx ctx' cs) : CountsUp ctx { ctx' with pending := T } cs := h

/-- A counter that is none of the frames' may be in the list or not. -/
theorem CountsUp.skip {c : Counter} (h : CountsUp ctx ctx' [c]) (hc : c ∉ frameCounters) :
    CountsUp ctx ctx' [] := by
  intro d hd
  have hne : d ≠ c := fun heq => hc (heq ▸ hd)
  simpa [hne] using h d hd

/-! ### Push -/

/-- A store that claims a slot and pushes one frame. -/
theorem claim_live (slot : BinderPendingSlot) {t : TaskIdentity} {f : BinderPendingFrame}
    (ht : t.kaddr ≠ 0) : ((slot.claim t).pushFrame f).live = 1 := by
  obtain ⟨hkey, hdepth, -⟩ := claim_pushFrame (f := f) slot ht
  obtain ⟨htask, -⟩ := key_eq_some.1 hkey
  rw [BinderPendingSlot.live, if_neg (by rw [htask]; exact ht), hdepth]

theorem pushFrame_live {slot : BinderPendingSlot} {f : BinderPendingFrame}
    (hocc : slot.taskKaddr ≠ 0) (hroom : ¬kPendingDepth ≤ slot.depth) :
    (slot.pushFrame f).live = slot.live + 1 := by
  have hkey : (slot.pushFrame f).taskKaddr ≠ 0 := hocc
  rw [BinderPendingSlot.live, BinderPendingSlot.live, if_neg hkey, if_neg hocc]
  exact BinderPendingSlot.toNat_depth_add_one (depth_lt_of_not_le hroom)

variable {t : TaskIdentity} {id : UInt64} {s : ParserScratch} {w : Fin 8}

/-- A push into a slot that is claimed. -/
theorem pushClaimed_live (id : UInt64) (how : s.transaction.oneWay = false) (ht : t.kaddr ≠ 0)
    (htgt : pushTarget ctx.pending t = .reclaimIdentity w ∨
      pushTarget ctx.pending t = .useEmpty w ∨ pushTarget ctx.pending t = .evict w) :
    liveFrames (emitPendingPush t true id s ctx).2.pending +
        (ctx.pending (slotAt (pendingBucket t.kaddr) w)).live = liveFrames ctx.pending + 1 := by
  rw [emitPendingPush_pending, how, Bool.not_true, Bool.or_self, if_neg (by decide),
    pushTable_claim htgt, liveFrames_update, claim_live _ ht]

/-- A push that takes an occupied slot drops its frames. -/
theorem pushReplaces_move (how : s.transaction.oneWay = false) (hI : PendingInv ctx.pending)
    (ht : t.kaddr ≠ 0) (hocc : (ctx.pending (slotAt (pendingBucket t.kaddr) w)).taskKaddr ≠ 0)
    (htgt : pushTarget ctx.pending t = .reclaimIdentity w ∨
      pushTarget ctx.pending t = .evict w) :
    FrameMove ctx (emitPendingPush t true id s ctx).2 := by
  have hlive := pushClaimed_live id how ht (htgt.imp_right .inr)
  rw [PendingInv.live_eq hocc] at hlive
  refine .replaced _ (hI.depth_pos _ hocc) (hI.depth_le _ hocc) hlive ?_
  unfold emitPendingPush
  rcases htgt with htgt | htgt <;>
  · simp only [how, htgt, PushTarget.opened, PushTarget.collides, Bool.not_true,
      Bool.false_eq_true, if_false, if_true, if_neg (claim_not_full _)]
    exact ((CountsUp.of_counter rfl).count (by simp)).withPending.count (by decide)

theorem pushEmpty_move (how : s.transaction.oneWay = false) (ht : t.kaddr ≠ 0)
    (hempty : (ctx.pending (slotAt (pendingBucket t.kaddr) w)).taskKaddr = 0)
    (htgt : pushTarget ctx.pending t = .useEmpty w) :
    FrameMove ctx (emitPendingPush t true id s ctx).2 := by
  have hlive := pushClaimed_live id how ht (.inr (.inl htgt))
  rw [BinderPendingSlot.live, if_pos hempty, Nat.add_zero] at hlive
  refine .pushed hlive ?_
  unfold emitPendingPush
  simp only [how, htgt, PushTarget.opened, PushTarget.collides, Bool.not_true,
    Bool.false_eq_true, if_false, if_neg (claim_not_full _)]
  exact (CountsUp.of_counter rfl).count (by simp)

/-- A push into the thread's own slot, which may be full. -/
theorem pushFound_move (how : s.transaction.oneWay = false)
    (hocc : (ctx.pending (slotAt (pendingBucket t.kaddr) w)).taskKaddr ≠ 0)
    (htgt : pushTarget ctx.pending t = .found w) :
    FrameMove ctx (emitPendingPush t true id s ctx).2 := by
  have hp := emitPendingPush_pending t true id s ctx
  rw [how, Bool.not_true, Bool.or_self, if_neg (by decide), pushTable_found htgt] at hp
  by_cases hfull : kPendingDepth ≤ (ctx.pending (slotAt (pendingBucket t.kaddr) w)).depth
  · rw [if_pos hfull, Function.update_eq_self] at hp
    refine .still (by rw [hp]) ?_
    unfold emitPendingPush
    simp only [how, htgt, PushTarget.way, PushTarget.opened, PushTarget.collides, Bool.not_true,
      Bool.false_eq_true, if_false, if_pos hfull]
    exact ((CountsUp.of_counter rfl).count (by simp)).skip (by decide)
  · rw [if_neg hfull] at hp
    have hlive := liveFrames_update (T := ctx.pending) (i := slotAt (pendingBucket t.kaddr) w)
      (x := (ctx.pending (slotAt (pendingBucket t.kaddr) w)).pushFrame
        (pendingFrameOf id ctx.activeHalGeneration s))
    rw [← hp, pushFrame_live hocc hfull] at hlive
    refine .pushed (by omega) ?_
    unfold emitPendingPush
    simp only [how, htgt, PushTarget.way, PushTarget.opened, PushTarget.collides, Bool.not_true,
      Bool.false_eq_true, if_false, if_neg hfull]
    exact (CountsUp.of_counter rfl).count (by simp)

theorem emitPendingPush_move (t : TaskIdentity) (id : UInt64) (s : ParserScratch)
    (hI : PendingInv ctx.pending) (ht : t.kaddr ≠ 0) :
    FrameMove ctx (emitPendingPush t true id s ctx).2 := by
  cases how : s.transaction.oneWay with
  | true =>
    rw [emitPendingPush, if_pos how]
    exact .still rfl (((CountsUp.of_counter rfl).count (by simp)).skip (by decide))
  | false =>
    have hok := pushTarget_ok (T := ctx.pending) ht
    cases htgt : pushTarget ctx.pending t with
    | found w =>
      simp only [htgt, TargetOk] at hok
      exact pushFound_move how (by rw [hok.1]; exact ht) htgt
    | reclaimIdentity w =>
      simp only [htgt, TargetOk] at hok
      exact pushReplaces_move how hI ht (by rw [hok.1]; exact ht) (.inl htgt)
    | useEmpty w =>
      simp only [htgt, TargetOk] at hok
      exact pushEmpty_move how ht hok.1 htgt
    | evict w =>
      simp only [htgt, TargetOk] at hok
      exact pushReplaces_move how hI ht (hok w (List.mem_finRange w)).2.1 (.inr htgt)

/-! ### Pop -/

/-- The frames that the table holds came with an event id. -/
def IdsGood (M : PendingMap) : Prop := ∀ u i f, M.frameAt u i = some f → f.requestEventId ≠ 0

theorem popFrame_live {slot : BinderPendingSlot} (hocc : slot.taskKaddr ≠ 0)
    (h1 : 1 ≤ slot.depth.toNat) : slot.popFrame.live + 1 = slot.live := by
  have hdepth : slot.popFrame.depth.toNat = slot.depth.toNat - 1 :=
    BinderPendingSlot.toNat_depth_sub_one h1
  rw [BinderPendingSlot.live, BinderPendingSlot.live, if_neg hocc]
  by_cases hz : slot.depth - 1 = 0
  · have hfree : slot.popFrame.taskKaddr = 0 := if_pos hz
    have hlast : slot.popFrame.depth.toNat = 0 := congrArg UInt32.toNat hz
    rw [if_pos hfree]
    omega
  · have hkept : slot.popFrame.taskKaddr = slot.taskKaddr := if_neg hz
    rw [if_neg (hkept ▸ hocc)]
    omega

theorem emitPendingPop_move {task : UInt64} (s : ParserScratch) (hI : PendingInv ctx.pending)
    (hids : IdsGood (pendingMap ctx.pending)) (htask : task ≠ 0) :
    FrameMove ctx (emitPendingPop task true false s ctx).ctx := by
  have hpos := popScan_position (T := ctx.pending) htask
  unfold emitPendingPop
  simp only [Bool.not_true, Bool.false_eq_true, if_false]
  cases hscan : popScan ctx.pending task with
  | none => exact .still rfl (((CountsUp.of_counter rfl).count (by simp)).skip (by decide))
  | some w =>
    rw [hscan, Option.map_some] at hpos
    simp only
    generalize slotAt (pendingBucket task) w = i at hpos ⊢
    have hk := SetAssoc.position_key hpos.symm
    have hocc : (ctx.pending i).taskKaddr ≠ 0 := by
      rw [(key_eq_some.1 hk).1]
      exact htask
    have h1 := hI.depth_pos i hocc
    have hlive := liveFrames_update (T := ctx.pending) (i := i) (x := (ctx.pending i).popFrame)
    rw [← popFrame_live hocc h1] at hlive
    have hless : liveFrames (Function.update ctx.pending i (ctx.pending i).popFrame) + 1 =
        liveFrames ctx.pending := by omega
    obtain ⟨st, hst, -, -, hsf⟩ := hI.stack hocc
    have hM : pendingMap ctx.pending task = some st := by rw [pendingMap_of_key hI hk, hst]
    have htop : (ctx.pending i).frame ((ctx.pending i).depth - 1) = st.top := by
      rw [BinderPendingSlot.frame_top h1 (hI.depth_le i hocc)]
      simp only [PendingStack.top, hsf]
    have hid := hids _ _ _ (PendingMap.frameAt_top hM)
    rw [if_neg (BinderPendingSlot.depth_ne_zero h1), htop, if_neg hid]
    split
    · exact .popped hless ((CountsUp.of_counter rfl).count (by simp))
    · exact .stale hless ((CountsUp.of_counter rfl).count (by simp))

end

/-! ## Runs -/

/-- What holds after any number of events, `dropped` being the frames that went with their slots. -/
structure FrameBooks (ctx : KernelCounterContext) (dropped : ℕ) : Prop where
  table : PendingInv ctx.pending
  ids : IdsGood (pendingMap ctx.pending)
  balance : (ctx.counter .pendingPushes).toNat = (ctx.counter .pendingPops).toNat +
    (ctx.counter .pendingGenerationStale).toNat + liveFrames ctx.pending + dropped
  atLeast : (ctx.counter .pendingCollisions).toNat ≤ dropped
  atMost : dropped ≤ 4 * (ctx.counter .pendingCollisions).toNat

section
variable {ctx ctx' : KernelCounterContext} {dropped : ℕ}

theorem FrameBooks.init (htable : ctx.pending = emptyPending)
    (hzero : ∀ c ∈ frameCounters, ctx.counter c = 0) : FrameBooks ctx 0 := by
  have hc (c : Counter) (h : c ∈ frameCounters) : (ctx.counter c).toNat = 0 := by
    rw [hzero c h]
    rfl
  refine ⟨htable ▸ emptyPending_inv, ?_, ?_, ?_, ?_⟩
  · intro u i f hf
    rw [htable, pendingMap_empty] at hf
    cases hf
  · rw [hc _ (by decide), hc _ (by decide), hc _ (by decide), htable, liveFrames_empty]
  · rw [hc _ (by decide)]
  · exact Nat.zero_le _

theorem toNat_add_one {x : UInt64} (h : x ≠ 0xffffffffffffffff) : (x + 1).toNat = x.toNat + 1 := by
  have hne : x.toNat ≠ 2 ^ 64 - 1 := fun heq => h (UInt64.toNat_inj.1 heq)
  have hlt := x.toNat_lt
  rw [UInt64.toNat_add, UInt64.toNat_one]
  omega

/-- A frame that moves keeps the books. -/
theorem FrameBooks.move (h : FrameBooks ctx dropped) (hmove : FrameMove ctx ctx')
    (hwrap : ∀ c ∈ frameCounters, ctx.counter c ≠ 0xffffffffffffffff)
    (htable : PendingInv ctx'.pending) (hids : IdsGood (pendingMap ctx'.pending)) :
    ∃ dropped', FrameBooks ctx' dropped' := by
  obtain ⟨-, -, hbalance, hatLeast, hatMost⟩ := h
  have hcount {cs : List Counter} (hup : CountsUp ctx ctx' cs) (c : Counter)
      (hc : c ∈ frameCounters) :
      (ctx'.counter c).toNat = (ctx.counter c).toNat + if c ∈ cs then 1 else 0 := by
    rw [hup c hc]
    split
    · exact toNat_add_one (hwrap c hc)
    · rw [UInt64.add_zero, Nat.add_zero]
  have hall {cs : List Counter} (hup : CountsUp ctx ctx' cs) :=
    And.intro (hcount hup .pendingPushes (by decide)) <|
      And.intro (hcount hup .pendingPops (by decide)) <|
        And.intro (hcount hup .pendingGenerationStale (by decide))
          (hcount hup .pendingCollisions (by decide))
  cases hmove with
  | still hlive hup =>
    have hcs := hall hup
    simp only [List.not_mem_nil, if_false, Nat.add_zero] at hcs
    exact ⟨dropped, htable, hids, by omega, by omega, by omega⟩
  | pushed hlive hup =>
    have hcs := hall hup
    simp at hcs
    exact ⟨dropped, htable, hids, by omega, by omega, by omega⟩
  | replaced n hpos hle hlive hup =>
    have hcs := hall hup
    simp at hcs
    exact ⟨dropped + n, htable, hids, by omega, by omega, by omega⟩
  | popped hlive hup | stale hlive hup =>
    have hcs := hall hup
    simp at hcs
    exact ⟨dropped, htable, hids, by omega, by omega, by omega⟩

/-- The step lemma. -/
theorem FrameBooks.step (h : FrameBooks ctx dropped) {e : TableEvent} (hvalid : e.Valid)
    (hwrap : e.Unwrapped ctx) : ∃ dropped', FrameBooks (e.step ctx) dropped' := by
  cases e with
  | push t id s =>
    obtain ⟨ht, hid⟩ := hvalid
    obtain ⟨hI, hpush⟩ := PendingOp.exec_push id s h.table ht
    refine h.move (emitPendingPush_move t id s h.table ht) hwrap hI fun u i f hf => ?_
    rcases hpush with ⟨-, hmap⟩ | ⟨-, hpush⟩
    · exact h.ids u i f (hmap ▸ hf)
    · obtain ⟨n, hn⟩ := hpush.frameAt
      rcases hn u i f hf with hf | ⟨-, -, rfl⟩
      · exact h.ids u i f hf
      · exact hid
  | pop task s =>
    obtain ⟨hI, hpop⟩ := emitPendingPop_refines false s h.table hvalid
    refine h.move (emitPendingPop_move s h.table h.ids hvalid) hwrap hI fun u i f hf => ?_
    exact h.ids u i f (hpop.frameAt.1 u i f hf)
  | other rest =>
    have hkept (c : Counter) (hc : c ∈ frameCounters) :
        ((TableEvent.other rest).step ctx).counter c = ctx.counter c := if_pos hc
    refine h.move (.still rfl fun c hc => ?_) hwrap h.table h.ids
    rw [hkept c hc]
    simp

/-- The run lemma. -/
theorem FrameBooks.run (htable : ctx.pending = emptyPending)
    (hzero : ∀ c ∈ frameCounters, ctx.counter c = 0) {es : List TableEvent}
    (hvalid : ∀ e ∈ es, e.Valid) (hwrap : Along TableEvent.step TableEvent.Unwrapped ctx es) :
    ∃ dropped, FrameBooks (Lib.run TableEvent.step ctx es) dropped := by
  induction es using List.reverseRecOn with
  | nil => exact ⟨0, .init htable hzero⟩
  | append_singleton pre e ih =>
    obtain ⟨hpre, hlast⟩ := along_concat.1 hwrap
    rw [run_concat]
    obtain ⟨dropped, hbooks⟩ := ih (fun o ho => hvalid o (List.mem_append_left _ ho)) hpre
    exact hbooks.step (hvalid e (by simp)) hlast

end

/-- **Main result: every pushed frame is accounted for.** From an empty table and zero counters, in
every run of pushes and pops that took the lock in which no counter of the frames wraps: the pushes
are the pops, the stale pops, the frames still in the table and the frames dropped, of which there
are one to four for each collision, and none where there was none. The table holds at most 1024
frames. -/
theorem frames_accounted (ctx : KernelCounterContext) (htable : ctx.pending = emptyPending)
    (hzero : ∀ c ∈ frameCounters, ctx.counter c = 0) (es : List TableEvent)
    (hvalid : ∀ e ∈ es, e.Valid) (hwrap : Along TableEvent.step TableEvent.Unwrapped ctx es) :
    let ctx' := run TableEvent.step ctx es
    let count (c : Counter) := (ctx'.counter c).toNat
    (∃ dropped, count .pendingCollisions ≤ dropped ∧ dropped ≤ 4 * count .pendingCollisions ∧
      count .pendingPushes = count .pendingPops + count .pendingGenerationStale +
        liveFrames ctx'.pending + dropped) ∧
    (count .pendingCollisions = 0 → count .pendingPushes =
      count .pendingPops + count .pendingGenerationStale + liveFrames ctx'.pending) ∧
    liveFrames ctx'.pending ≤ 1024 := by
  intro ctx' count
  obtain ⟨dropped, hbooks⟩ := FrameBooks.run htable hzero hvalid hwrap
  refine ⟨⟨dropped, hbooks.atLeast, hbooks.atMost, hbooks.balance⟩, fun hnone => ?_,
    hbooks.table.liveFrames_le⟩
  have hle : dropped ≤ 4 * count .pendingCollisions := hbooks.atMost
  have hbalance : count .pendingPushes = count .pendingPops + count .pendingGenerationStale +
      liveFrames ctx'.pending + dropped := hbooks.balance
  omega

/-- A push, a HAL that restarts, and the stale pop. -/
theorem frames_accounted_stale :
    let es := [TableEvent.push ⟨64, 7, 5⟩ 1 .zero,
      .other { KernelCounterContext.zero with halIdentitySlots := fun _ => ⟨3, 0, .replicate 4 0⟩ },
      .pop 64 .zero]
    let ctx' := run TableEvent.step .zero es
    let count (c : Counter) := (ctx'.counter c).toNat
    (∃ dropped, count .pendingCollisions ≤ dropped ∧ dropped ≤ 4 * count .pendingCollisions ∧
      count .pendingPushes = count .pendingPops + count .pendingGenerationStale +
        liveFrames ctx'.pending + dropped) ∧
    (count .pendingCollisions = 0 → count .pendingPushes =
      count .pendingPops + count .pendingGenerationStale + liveFrames ctx'.pending) ∧
    liveFrames ctx'.pending ≤ 1024 :=
  frames_accounted .zero rfl (by decide) _ (by simp [TableEvent.Valid]) (by decide)

end Drmid
