import Drmid.Lib.Run
import Drmid.Hook.Proof.PendingMap
import Drmid.Hook.Proof.PendingTable

/-!
# Runs of the pending table

The table under any sequence of pushes and pops that got the lock. `TableInv` is what one
operation preserves: the slots are well placed, the request ids in the table are distinct and were
pushed before, and every frame carries the active HAL identity generation, which no pending
operation changes. `pendingTable_refines_stacks` is the refinement of `PendingStack.lean` along
whole runs.
-/

namespace Drmid

open Lib

/-- The table holds exactly the stacks of the map it stands for. -/
theorem PendingInv.represents {T : Fin 256 → BinderPendingSlot} (hI : PendingInv T) :
    Represents T (pendingMap T) where
  toPendingInv := hI
  occupied i hi := by
    obtain ⟨st, hst, hrest⟩ := hI.stack hi
    refine ⟨st, ?_, hrest⟩
    rw [pendingMap_of_key hI (key_eq_some.2 ⟨rfl, hi⟩), hst]
  held task st h := by
    obtain ⟨i, hk, -⟩ := pendingMap_eq_some hI h
    obtain ⟨hi, h0⟩ := key_eq_some.1 hk
    exact ⟨h0, i, hi⟩

/-! ## One operation -/

namespace PendingOp

/-- No pending operation touches the identity slots. -/
theorem exec_generation (op : PendingOp) (ctx : KernelCounterContext) :
    (op.exec ctx).activeHalGeneration = ctx.activeHalGeneration := by
  cases op with
  | push t id s =>
    obtain ⟨c, T, h⟩ := emitPendingPush_frame t true id s ctx
    simp only [exec, h]
    rfl
  | pop task terminal s =>
    obtain ⟨c, T, h⟩ := emitPendingPop_frame task true terminal s ctx
    simp only [exec, h]
    rfl

/-- A push either is one-way and leaves the table, or is an abstract push. -/
theorem exec_push {t : TaskIdentity} (id : UInt64) (s : ParserScratch)
    {ctx : KernelCounterContext} (hI : PendingInv ctx.pending) (ht : t.kaddr ≠ 0) :
    let ctx' := exec ctx (.push t id s)
    PendingInv ctx'.pending ∧
      (s.transaction.oneWay = true ∧ pendingMap ctx'.pending = pendingMap ctx.pending ∨
        s.transaction.oneWay = false ∧
        PendingMap.Push (pendingMap ctx.pending) t (pendingFrameOf id ctx.activeHalGeneration s)
          (pendingMap ctx'.pending)) := by
  have hp := emitPendingPush_pending t true id s ctx
  simp only [exec]
  cases how : s.transaction.oneWay with
  | true =>
    simp only [how, Bool.true_or, if_true] at hp
    rw [hp]
    exact ⟨hI, .inl ⟨rfl, rfl⟩⟩
  | false =>
    simp only [how, Bool.not_true, Bool.or_self, Bool.false_eq_true, if_false] at hp
    rw [hp]
    obtain ⟨hI', hpush⟩ := pushTable_refines hI ht
    exact ⟨hI', .inr ⟨rfl, hpush⟩⟩

/-- Where every frame carries the active generation, no pop is stale. -/
theorem step_of_pop {M M' : PendingMap} {task g : UInt64} {out : UInt64 × UInt32}
    {terminal : Bool} {s : ParserScratch} (h : PendingMap.Pop M task g out M')
    (hcur : ∀ u i f, M.frameAt u i = some f → f.halIdentityGeneration = g) :
    Step g M (.pop task terminal s) out M' := by
  cases h with
  | miss hM => exact .miss hM
  | fresh hM hg => exact .pop hM
  | stale hM hg => exact absurd (hcur _ _ _ (PendingMap.frameAt_top hM)) hg

theorem filterMap_eventId_single (op : PendingOp) :
    [op].filterMap eventId = op.eventId.toList := by
  cases h : op.eventId <;> simp [h]

end PendingOp

/-- What every state of a run satisfies, `pushed` being the event ids pushed so far and `g` the
active generation. -/
structure TableInv (g : UInt64) (pushed : List UInt64) (ctx : KernelCounterContext) : Prop where
  table : PendingInv ctx.pending
  distinct : (pendingMap ctx.pending).DistinctIds
  pushed : ∀ r ∈ (pendingMap ctx.pending).ids, r ∈ pushed
  generation : ctx.activeHalGeneration = g
  current : ∀ u i f, (pendingMap ctx.pending).frameAt u i = some f → f.halIdentityGeneration = g

section
variable {g : UInt64} {pushed : List UInt64} {ctx : KernelCounterContext}

theorem TableInv.init (h : ctx.pending = emptyPending) :
    TableInv ctx.activeHalGeneration [] ctx := by
  have hnone : ∀ u i, (pendingMap ctx.pending).frameAt u i = none := fun u i => by
    rw [h, pendingMap_empty]
    rfl
  refine ⟨h ▸ emptyPending_inv, fun u i f v j g hf => ?_, ?_, rfl, fun u i f hf => ?_⟩
  · rw [hnone] at hf
    cases hf
  · rintro r ⟨u, i, f, hf, -⟩
    rw [hnone] at hf
    cases hf
  · rw [hnone] at hf
    cases hf

/-- What a push adds to the pushed ids. -/
theorem TableInv.mono {more : List UInt64} (h : TableInv g pushed ctx)
    (hsub : ∀ r ∈ pushed, r ∈ more) : TableInv g more ctx :=
  { h with pushed := fun r hr => hsub r (h.pushed r hr) }

/-- **The step lemma.** An operation with a fresh event id keeps the invariant and does what the
abstract model says. -/
theorem TableInv.exec (h : TableInv g pushed ctx) {op : PendingOp} (htask : op.task ≠ 0)
    (hfresh : ∀ id ∈ op.eventId, id ∉ pushed) :
    TableInv g (pushed ++ op.eventId.toList) (op.exec ctx) ∧
      op.Step g (pendingMap ctx.pending) (op.result ctx) (pendingMap (op.exec ctx).pending) := by
  have hgen := (op.exec_generation ctx).trans h.generation
  cases op with
  | push t id s =>
    obtain ⟨hI, ⟨how, hmap⟩ | ⟨how, hpush⟩⟩ :=
      PendingOp.exec_push id s h.table htask
    · refine ⟨⟨hI, hmap ▸ h.distinct, fun r hr => ?_, hgen, hmap ▸ h.current⟩, ?_⟩
      · rw [hmap] at hr
        exact List.mem_append_left _ (h.pushed r hr)
      · rw [hmap]
        exact .oneWay how
    · rw [h.generation] at hpush
      have hnew : (pendingFrameOf id g s).requestEventId ∉ (pendingMap ctx.pending).ids :=
        fun hr => hfresh id rfl (h.pushed id hr)
      refine ⟨⟨hI, h.distinct.push hnew hpush, fun r hr => ?_, hgen, fun u i f hf => ?_⟩,
        .push how hpush⟩
      · rcases hpush.ids_subset hr with rfl | hr
        · exact List.mem_append_right _ (by simp [PendingOp.eventId])
        · exact List.mem_append_left _ (h.pushed r hr)
      · obtain ⟨n, hn⟩ := hpush.frameAt
        rcases hn u i f hf with hf | ⟨-, -, rfl⟩
        · exact h.current u i f hf
        · rfl
  | pop task terminal s =>
    obtain ⟨hI, hpop⟩ := emitPendingPop_refines terminal s h.table htask
    rw [h.generation] at hpop
    refine ⟨⟨hI, h.distinct.pop hpop, fun r hr => ?_, hgen, fun u i f hf => ?_⟩, ?_⟩
    · exact List.mem_append_left _ (h.pushed r (hpop.ids_subset hr))
    · exact h.current u i f (hpop.frameAt.1 u i f hf)
    · exact PendingOp.step_of_pop hpop h.current

end

/-! ## Runs -/

/-- The invariant holds after every run that starts on an empty table. -/
theorem TableInv.run {ctx : KernelCounterContext} (h0 : ctx.pending = emptyPending)
    {ops : List PendingOp} (htask : ∀ op ∈ ops, op.task ≠ 0)
    (hids : (ops.filterMap PendingOp.eventId).Nodup) :
    TableInv ctx.activeHalGeneration (ops.filterMap PendingOp.eventId)
      (Lib.run (fun c op => PendingOp.exec c op) ctx ops) := by
  induction ops using List.reverseRecOn with
  | nil => exact .init h0
  | append_singleton pre op ih =>
    rw [List.filterMap_append, List.nodup_append] at hids
    obtain ⟨hpre, -, hdisj⟩ := hids
    rw [op.filterMap_eventId_single] at hdisj
    rw [run_concat, List.filterMap_append, op.filterMap_eventId_single]
    refine ((ih (fun o ho => htask o (List.mem_append_left _ ho)) hpre).exec
      (htask op (by simp)) fun id hid hmem => ?_).1
    exact hdisj id hmem id (by simpa using hid) rfl

/-- Only an evicted thread loses its stack to another thread's operation. -/
theorem PendingOp.Step.other {g : UInt64} {M M' : PendingMap} {op : PendingOp}
    {out : UInt64 × UInt32} (h : op.Step g M out M') {u : UInt64} (hu : u ≠ op.task) :
    M' u = M u ∨ ∃ t id s, op = .push t id s ∧ M' u = none ∧ M.Evicts t u := by
  cases h with
  | oneWay | miss => exact .inl rfl
  | @push t id s M' how hpush =>
    rcases hpush.other hu with h | ⟨hnone, hev⟩
    · exact .inl h
    · exact .inr ⟨t, id, s, rfl, hnone, hev⟩
  | pop hM => exact .inl (Function.update_of_ne hu _ _)

/-- **The pending table refines bounded per-thread stacks.** After every sequence `ops` of pushes
and pops on the empty table, with non-zero task pointers and distinct event ids, the slots
represent a map of stacks with distinct top ids; the next operation does to that map what
`PendingOp.Step` says, and no other thread's stack changes unless it is the evicted one. -/
theorem pendingTable_refines_stacks (ctx : KernelCounterContext) (h0 : ctx.pending = emptyPending)
    (ops : List PendingOp) (op : PendingOp) (htask : ∀ o ∈ ops ++ [op], o.task ≠ 0)
    (hids : ((ops ++ [op]).filterMap PendingOp.eventId).Nodup) :
    let before := run (fun c o => PendingOp.exec c o) ctx ops
    let after := op.exec before
    let M := pendingMap before.pending
    let M' := pendingMap after.pending
    Represents before.pending M ∧ Represents after.pending M' ∧
      (∀ u v su sv, u ≠ v → M u = some su → M v = some sv →
        su.top.requestEventId ≠ sv.top.requestEventId) ∧
      op.Step ctx.activeHalGeneration M (op.result before) M' ∧
      ∀ u, u ≠ op.task →
        M' u = M u ∨ ∃ t id s, op = .push t id s ∧ M' u = none ∧ M.Evicts t u := by
  intro before after M M'
  rw [List.filterMap_append, List.nodup_append, op.filterMap_eventId_single] at hids
  obtain ⟨hpre, -, hdisj⟩ := hids
  have hinv := TableInv.run h0 (fun o ho => htask o (List.mem_append_left _ ho)) hpre
  obtain ⟨hinv', hstep⟩ := hinv.exec (htask op (by simp)) fun id hid hmem =>
    hdisj id hmem id (by simpa using hid) rfl
  exact ⟨hinv.table.represents, hinv'.table.represents,
    fun u v su sv hne hu hv => hinv.distinct.top_ne hu hv hne, hstep,
    fun u hu => hstep.other hu⟩

/-- A pop after a push of the same thread, on the zeroed context. -/
theorem pendingTable_refines_stacks_pushPop :
    let t : TaskIdentity := ⟨64, 7, 5⟩
    let before := (PendingOp.push t 1 .zero).exec .zero
    let op := PendingOp.pop t.kaddr false .zero
    Represents before.pending (pendingMap before.pending) ∧
      op.Step 0 (pendingMap before.pending) (op.result before)
        (pendingMap (op.exec before).pending) := by
  obtain ⟨hrep, -, -, hstep, -⟩ := pendingTable_refines_stacks .zero rfl [.push ⟨64, 7, 5⟩ 1 .zero]
    (.pop 64 false .zero) (by simp [PendingOp.task]) (by decide)
  exact ⟨hrep, hstep⟩

end Drmid
