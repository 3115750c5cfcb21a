import Drmid.Hook.Proof.Emitted

/-!
# The pending blocks are wait-free

A block is over after a fixed number of its own accesses, whatever its loads find and whatever the
others do (`pending_blocks_wait_free`): the lock is tried eight times, the scans are unrolled, and
there is no other loop.
-/

namespace Drmid

open Lib

/-- The accesses of a block, at most: eight tries of three, the scan of eight ways, a claimed slot
and a frame. -/
def kPendingBlockAccesses : Nat := 80

namespace Asm

variable {a v x : UInt64}

theorem ldrX_within : (ldrX a).Within 1 := Prog.within_perform _

theorem ldrW_within : (ldrW a).Within 1 := fun _ => trivial

theorem strX_within : (strX v a).Within 1 := fun _ => trivial

theorem strW_within {v : UInt32} : (strW v a).Within 1 := fun _ => trivial

theorem emitCounterIncrement_within {K off : UInt64} : (emitCounterIncrement K off).Within 1 :=
  fun _ => trivial

theorem emitCaptureActiveHalGeneration_within {K : UInt64} :
    (emitCaptureActiveHalGeneration K x).Within 3 :=
  ldrW_within.bind fun _ => ldrX_within.bind fun _ => strX_within

/-! ### The lock -/

theorem tryAcquire_within : (tryAcquire a).Within 2 := by
  intro x12
  change Prog.Within (if x12 = 0 then stxr 1 a >>= fun w13 => pure (w13 == 0) else pure false) 1
  split
  · exact fun _ => trivial
  · trivial

theorem retryAcquire_within : ∀ n, (retryAcquire a n).Within (3 * n)
  | 0 => trivial
  | n + 1 => by
    refine (tryAcquire_within.bind (m := 3 * n + 1) fun ok => ?_).mono (by omega)
    split
    · trivial
    · exact fun _ => retryAcquire_within n

theorem emitPendingLockAcquire_within : (emitPendingLockAcquire a).Within 25 := by
  refine (retryAcquire_within 8).bind (m := 1) fun ok => ?_
  split
  · trivial
  · exact fun _ => trivial

theorem emitPendingLockRelease_within : (emitPendingLockRelease a).Within 1 := fun _ => trivial

/-! ### Push -/

theorem loadTopEventId_within (w11 : UInt32) : (loadTopEventId x w11).Within 1 := by
  unfold loadTopEventId
  split
  · trivial
  · exact ldrX_within

/-- At most five accesses at each way. -/
theorem pushWays_within (t : TaskIdentityOffsets) (x27 : UInt64) :
    ∀ n x15 x14 x10 x17, (pushWays t x27 n x15 x14 x10 x17).Within (3 * n + 2)
  | 0, _, _, _, _ => trivial
  | n + 1, x15, x14, x10, x17 => by
    refine (ldrX_within.bind (m := 3 * n + 4) fun x16 => ?_).mono (by omega)
    split
    · exact (pushWays_within t x27 n _ _ _ _).mono (by omega)
    · split
      · refine (ldrW_within.bind fun w12 => ldrW_within.bind (m := 2) fun w11 => ?_).mono (by omega)
        split
        · trivial
        · refine ldrW_within.bind fun w12 => ldrW_within.bind (m := 0) fun w11 => ?_
          split <;> trivial
      · refine (ldrW_within.bind fun w11 => (loadTopEventId_within w11).bind (m := 3 * n + 2)
          fun x9 => ?_).mono (by omega)
        split
        · exact pushWays_within t x27 n _ _ _ _
        · exact pushWays_within t x27 n _ _ _ _

theorem claimSlot_within (t : TaskIdentityOffsets) (x27 : UInt64) : (claimSlot t x27 x).Within 6 :=
  strX_within.bind fun _ => ldrW_within.bind fun _ => strW_within.bind fun _ =>
    ldrW_within.bind fun _ => strW_within.bind fun _ => strW_within

theorem pushFrame_within {K x23 x26 : UInt64} : (pushFrame K x23 x26 x).Within 20 := by
  refine ldrW_within.bind (m := 19) fun w13 => ?_
  split
  · exact emitCounterIncrement_within.mono (by decide)
  · refine strX_within.bind (m := 18) fun _ => ldrX_within.bind (m := 17) fun _ =>
      strX_within.bind (m := 16) fun _ => ldrX_within.bind (m := 15) fun _ =>
      strX_within.bind (m := 14) fun _ => emitCaptureActiveHalGeneration_within.bind (m := 11)
      fun _ => ldrX_within.bind (m := 10) fun _ => strX_within.bind (m := 9) fun _ =>
      ldrW_within.bind (m := 8) fun _ => strW_within.bind (m := 7) fun _ =>
      ldrW_within.bind (m := 6) fun _ => strW_within.bind (m := 5) fun _ =>
      ldrW_within.bind (m := 4) fun _ => strW_within.bind (m := 3) fun _ =>
      strW_within.bind (m := 2) fun _ => strW_within.bind (m := 1) fun _ => ?_
    exact emitCounterIncrement_within

theorem pushSection_within (t : TaskIdentityOffsets) {K x23 x26 x27 : UInt64} :
    (pushSection t K x23 x26 x27).Within 53 := by
  have hclaimed (x15 : UInt64) :
      (do claimSlot t x27 x15; pushFrame K x23 x26 x15 : Asm Unit).Within 26 :=
    (claimSlot_within t x27).bind fun _ => pushFrame_within
  have hcollided (x15 : UInt64) : (do
      emitCounterIncrement K offsetofPendingCollisions
      claimSlot t x27 x15
      pushFrame K x23 x26 x15 : Asm Unit).Within 27 :=
    emitCounterIncrement_within.bind fun _ => hclaimed x15
  refine (pushWays_within t x27 8 _ _ _ _).bind (m := 27) fun scan => ?_
  cases scan with
  | found x15 => exact pushFrame_within.mono (by decide)
  | reclaimIdentity x15 => exact hcollided x15
  | scanned x14 x10 =>
    simp only
    split
    · exact hcollided x10
    · exact (hclaimed x14).mono (by decide)

theorem emitPendingPush_within (t : TaskIdentityOffsets) {K x23 x26 x27 : UInt64} :
    (emitPendingPush t K x23 x26 x27).Within 80 := by
  refine ldrW_within.bind (m := 79) fun w11 => ?_
  split
  · exact emitCounterIncrement_within.mono (by decide)
  · refine emitPendingLockAcquire_within.bind (m := 54) fun ok => ?_
    split
    · exact (pushSection_within t).bind fun _ => emitPendingLockRelease_within
    · trivial

/-! ### Pop -/

theorem popWays_within (x27 : UInt64) : ∀ n x15, (popWays x27 n x15).Within n
  | 0, _ => trivial
  | n + 1, x15 => by
    refine (ldrX_within.bind (m := n) fun x16 => ?_).mono (by omega)
    split
    · trivial
    · exact popWays_within x27 n _

theorem popMiss_within : (popMiss a).Within 1 := fun _ => trivial

theorem checkGeneration_within {K x9 x10 : UInt64} (popped : Popped) :
    (checkGeneration K x9 x10 popped).Within 1 := by
  unfold checkGeneration
  split
  · trivial
  · exact fun _ => trivial

theorem popFrame_within {K x23 : UInt64} (w13 : UInt32) : (popFrame K x23 x w13).Within 10 := by
  refine strW_within.bind (m := 9) fun _ => ldrX_within.bind (m := 8) fun x21 =>
    ldrW_within.bind (m := 7) fun w17 => emitCaptureActiveHalGeneration_within.bind (m := 4)
    fun _ => ldrX_within.bind (m := 3) fun x9 => ldrX_within.bind (m := 2) fun x10 =>
    (checkGeneration_within _).bind (m := 1) fun popped => ?_
  split
  · exact fun _ => trivial
  · trivial

theorem popSection_within {K x23 x27 : UInt64} : (popSection K x23 x27).Within 19 := by
  refine (popWays_within x27 8 _).bind (m := 11) fun x15 => ?_
  cases x15 with
  | none => exact popMiss_within.mono (by decide)
  | some x15 =>
    refine ldrW_within.bind (m := 10) fun w13 => ?_
    split
    · exact popMiss_within.mono (by decide)
    · exact popFrame_within _

theorem emitPendingPop_within (terminalReply : Bool) {K x23 x27 : UInt64} :
    (emitPendingPop terminalReply K x23 x27).Within 46 := by
  refine emitPendingLockAcquire_within.bind (m := 21) fun ok => ?_
  split
  · refine popSection_within.bind (m := 2) fun popped => ?_
    have hcount : (countPop terminalReply K popped.x21).Within 1 := by
      unfold countPop
      split
      · trivial
      · exact emitCounterIncrement_within
    exact hcount.bind (m := 1) fun _ => fun _ => trivial
  · trivial

end Asm

variable {K : ContextAddress}

theorem Block.code_within : ∀ b : Block K, b.code.Within kPendingBlockAccesses
  | .push t _ =>
    (Asm.emitPendingPush_within t).bind (m := 0) (f := fun _ => .ret _) fun _ => trivial
  | .pop terminalReply _ =>
    ((Asm.emitPendingPop_within terminalReply).bind (m := 0) (f := fun _ => .ret _)
      fun _ => trivial).mono (by decide)

/-- A step of a handler makes one of the accesses it has left. -/
theorem handlers_within (n : Nat) (W : ExclusiveWord UInt64) (h : Handler K) (o : Meeting)
    (hin : h.rest.Within n) : ((handlers K).act W h o).2.rest.Within (n - 1) := by
  cases hr : h.rest with
  | ret r => simp [handlers, hr, Prog.Within]
  | call c k =>
    rw [hr] at hin
    cases n with
    | zero => exact hin.elim
    | succ n =>
      simp only [handlers, hr]
      exact hin _

/-- Handlers start within the bound and are within it for the whole run. -/
theorem run_within (ls : List (PoolLabel (Block K) Meeting Empty)) :
    ∀ h ∈ ((unlocked K).run (handlers K) ls).procs, h.rest.Within kPendingBlockAccesses := by
  induction ls using List.reverseRecOn with
  | nil => exact fun h hmem => absurd hmem List.not_mem_nil
  | append_singleton ls l ih =>
    rw [Pool.run, run_concat]
    refine Pool.related_step (Q := fun _ (h : Handler K) => h.rest.Within kPendingBlockAccesses)
      ih l (fun b => b.code_within) (fun o h hin => ?_) (fun _ _ _ _ hin => hin) fun d => d.elim
    exact (handlers_within _ _ h o hin).mono (Nat.sub_le _ _)

/-- **The pending blocks are wait-free.** A handler that has entered a block is at its end once it
has made eighty accesses more, after any run and whatever the other handlers do: they may hold the
lock for ever. -/
theorem pending_blocks_wait_free (K : ContextAddress)
    (ls ls' : List (PoolLabel (Block K) Meeting Empty)) (i : Nat)
    (hi : i < ((unlocked K).run (handlers K) ls).procs.length)
    (hmoves : kPendingBlockAccesses ≤ ls'.countP (PoolLabel.moves i)) :
    ∃ h r, ((unlocked K).run (handlers K) (ls ++ ls')).procs[i]? = some h ∧ h.rest = .ret r := by
  have hrun : (unlocked K).run (handlers K) (ls ++ ls') =
      ((unlocked K).run (handlers K) ls).run (handlers K) ls' := List.foldl_append
  obtain ⟨h, hget, hin⟩ := Pool.run_countdown (Q := fun n (h : Handler K) => h.rest.Within n)
    (fun n W h o hin => handlers_within n W h o hin) (List.getElem?_eq_getElem hi)
    (run_within ls _ (List.getElem_mem hi)) ls'
  rw [Nat.sub_eq_zero_of_le hmoves] at hin
  rw [hrun]
  cases hr : h.rest with
  | ret r => exact ⟨h, r, hget, hr⟩
  | call c k =>
    rw [hr] at hin
    exact hin.elim

theorem pending_blocks_wait_free_pop :
    let K : ContextAddress := ⟨0x1000, by decide⟩
    let ls : List (PoolLabel (Block K) Meeting Empty) := [.start (.pop false ⟨0, 0, 7, by decide⟩)]
    let ls' := List.replicate 80 (.step 0 ⟨1, false, 0⟩)
    ∃ h r, ((unlocked K).run (handlers K) (ls ++ ls')).procs[0]? = some h ∧ h.rest = .ret r :=
  pending_blocks_wait_free _ _ _ 0 (by decide) (by decide)

end Drmid
