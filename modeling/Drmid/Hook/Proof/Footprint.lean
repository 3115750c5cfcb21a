import Drmid.Hook.Concurrent
import Drmid.Hook.Proof.Alone
import Drmid.Hook.Proof.PendingRuns

/-!
# What blocks depend on, and what they leave

Code that accesses some words only does the same wherever these are the same (`Asm.On.congr`), and
what it leaves of another handler is everything that the other has outside of the context
(`Access.On.outside`).
-/

namespace Drmid

open Lib

theorem PendingOp.exec_inv {op : PendingOp} {ctx : KernelCounterContext}
    (hI : PendingInv ctx.pending) (htask : op.task ≠ 0) : PendingInv (op.exec ctx).pending := by
  cases op with
  | push t id s => exact (PendingOp.exec_push id s hI htask).1
  | pop task terminal s => exact (emitPendingPop_refines terminal s hI htask).1

/-! ## What a block alone depends on -/

section
variable {K : ContextAddress} {P : Workspace K} {A : Cell → Bool} {M M' : Memory}

/-- Stores of one value are the same where there are no other stores. -/
theorem Memory.view_store_congr {c : Cell} (hA : A c = true)
    (h : ∀ d, A d = true → M'.view P d = M.view P d) (v : UInt64) (d : Cell) :
    (M'.store v (c.addr P) c.bytes).view P d =
      if A d = true then (M.store v (c.addr P) c.bytes).view P d else M'.view P d := by
  by_cases hdc : d = c
  · subst hdc
    rw [if_pos hA]
    exact load_store_same d.bytes_eq
  · have hapart (N : Memory) : (N.store v (c.addr P) c.bytes).view P d = N.view P d :=
      load_store_of_apart d.bytes_eq c.bytes_pos (Cell.apart hdc)
    rw [hapart, hapart]
    split
    · rename_i hd
      exact h d hd
    · rfl

/-- An access to the words `A` depends on these words. -/
theorem Access.On.congr {c : Access} (hc : c.On P A)
    (h : ∀ d, A d = true → M'.view P d = M.view P d) :
    (c.alone M').1 = (c.alone M).1 ∧ ∀ d, (c.alone M').2.view P d =
      if A d = true then (c.alone M).2.view P d else M'.view P d := by
  have hsame (d : Cell) : M'.view P d = if A d = true then M.view P d else M'.view P d := by
    split
    · rename_i hd
      exact h d hd
    · rfl
  cases c with
  | clrex => exact ⟨rfl, hsame⟩
  | ldr a n =>
    obtain ⟨e, he, rfl⟩ := hc
    obtain rfl := Cell.bytes_of_loads he
    exact ⟨h e (Cell.kind_of_loads he), hsame⟩
  | ldaxr a =>
    obtain ⟨hA, rfl⟩ := hc
    exact ⟨h .lock hA, hsame⟩
  | str v a n =>
    obtain ⟨e, he, rfl⟩ := hc
    obtain rfl := Cell.bytes_of_stores he
    exact ⟨rfl, Memory.view_store_congr (Cell.kind_of_stores he) h v⟩
  | stlr v a =>
    obtain ⟨e, he, rfl⟩ := hc
    have hbytes := Cell.bytes_of_stores he
    have hstore := Memory.view_store_congr (Cell.kind_of_stores he) h v
    rw [hbytes] at hstore
    exact ⟨rfl, hstore⟩
  | stxr v a =>
    obtain ⟨hA, rfl⟩ := hc
    exact ⟨rfl, Memory.view_store_congr (c := .lock) hA h v⟩
  | ldaddal v a =>
    obtain ⟨e, he, rfl⟩ := hc
    have hbytes := Cell.bytes_of_stores he
    have hload : M'.load (e.addr P) 8 = M.load (e.addr P) 8 := by
      have := h e (Cell.kind_of_stores he)
      rwa [Memory.view, Memory.view, hbytes] at this
    have hstore := Memory.view_store_congr (Cell.kind_of_stores he) h (M.load (e.addr P) 8 + v)
    rw [hbytes] at hstore
    refine ⟨hload, fun d => ?_⟩
    simp only [alone, hload]
    exact hstore d

/-- So does code. -/
theorem Asm.On.congr {α : Type} {p : Asm α} (hp : p.On P A M)
    (h : ∀ d, A d = true → M'.view P d = M.view P d) :
    p.On P A M' ∧ (p.alone M').1 = (p.alone M).1 ∧ ∀ d, (p.alone M').2.view P d =
      if A d = true then (p.alone M).2.view P d else M'.view P d := by
  induction p generalizing M M' with
  | ret a =>
    refine ⟨trivial, rfl, fun d => ?_⟩
    split
    · rename_i hd
      exact h d hd
    · rfl
  | call c k ih =>
    obtain ⟨hc, hk⟩ := hp
    obtain ⟨hr, hview⟩ := hc.congr h
    have hA (d : Cell) (hd : A d = true) :
        (c.alone M').2.view P d = (c.alone M).2.view P d := (hview d).trans (if_pos hd)
    obtain ⟨hon, hret, hlast⟩ := ih (c.alone M).1 hk hA
    have hstep : Asm.alone (.call c k) M' = Asm.alone (k (c.alone M).1) (c.alone M').2 := by
      rw [← hr]
      rfl
    rw [hstep]
    refine ⟨⟨hc, hr ▸ hon⟩, hret, fun d => ?_⟩
    rw [hlast d]
    split
    · rfl
    · rename_i hd
      exact (hview d).trans (if_neg hd)

/-- The other words are left alone. -/
theorem Asm.On.view_of_not {α : Type} {p : Asm α} (hp : p.On P A M) {d : Cell}
    (hd : A d = false) : (p.alone M).2.view P d = M.view P d := by
  have hself : ∀ d, A d = true → M.view P d = M.view P d := fun _ _ => rfl
  have h := (hp.congr hself).2.2 d
  rwa [if_neg (Bool.not_eq_true _ ▸ hd)] at h

end

/-! ## What a step leaves of the others -/

section
variable {K : ContextAddress} {P P' : Workspace K} {M : Memory} {c : Access} {S : SharedMemory}

/-- A word of the scratch, and one that the other has. -/
theorem Workspace.Spares.apart (h : P.Spares P') (f : ScratchField) {d : Cell}
    (hd : d.member = none) :
    meets ((Cell.scratch f).addr P) f.bytes (d.addr P') d.bytes = false := by
  have hpart {b : UInt64} {m : Nat} (hb : meets P.x23 kParserScratchBytes b m = false)
      (hm : 0 < m) : meets ((Cell.scratch f).addr P) f.bytes b m = false := by
    have := meets_part hb f.le (Cell.scratch f).bytes_pos hm (by decide)
    rwa [UInt64.ofNat_toNat] at this
  cases d with
  | slot | frame | counter | lock | activeHalIdentitySlot | generation => cases hd
  | pid => exact hpart h.pid (by decide)
  | tgid => exact hpart h.tgid (by decide)
  | scratch f' =>
    have hother := hpart h.scratch (by decide)
    rw [meets_comm] at hother ⊢
    have := meets_part hother f'.le (Cell.scratch f').bytes_pos (Cell.scratch f).bytes_pos
      (by decide)
    rwa [UInt64.ofNat_toNat] at this

/-- An access leaves what another handler has outside of the context. -/
theorem Access.On.outside (hc : c.On P Cell.all) (h : P.Spares P') {d : Cell}
    (hd : d.member = none) : (c.alone M).2.view P' d = M.view P' d := by
  have hmiss {a : UInt64} {n : Nat} (hn : 0 < n)
      (hmeets : meets a n (d.addr P') d.bytes = false) {x : UInt64}
      (hx : (x - d.addr P').toNat < d.bytes) : ¬(x - a).toNat < n := by
    rw [← Bool.not_eq_true, meets_iff hn d.bytes_pos] at hmeets
    exact fun hxa => hmeets ⟨x, hxa, hx⟩
  refine Memory.load_congr d.bytes_eq fun x hx => hc.frame (fun _ => ?_) fun e _ hw => ?_
  · exact hmiss (by decide) (Cell.member_clear (P := P') (c := .lock) rfl hd) hx
  · refine hmiss e.bytes_pos ?_ hx
    cases he : e.member with
    | some o =>
      rw [Cell.addr_member he, ← Cell.addr_member (P := P') he]
      exact Cell.member_clear he hd
    | none =>
      cases e with
      | slot | frame | counter | lock | activeHalIdentitySlot | generation => cases he
      | pid | tgid => cases hw
      | scratch f => exact h.apart f hd

/-- An access leaves the lock word or stores to it. -/
theorem Access.On.lockWord (hc : c.On P Cell.all) :
    (S.did K.lock c).lockWord K.lock = S.lockWord K.lock ∨
      ∃ v, (S.did K.lock c).lockWord K.lock = (S.lockWord K.lock).store v := by
  by_cases htouch : (c.stores && c.touches K.lock 8) = true
  · refine .inr ⟨(c.alone S.memory).2.load K.lock 8, ?_⟩
    rw [SharedMemory.lockWord, SharedMemory.did, htouch]
    rfl
  · refine .inl ?_
    have hload : (c.alone S.memory).2.load K.lock 8 = S.memory.load K.lock 8 := by
      have hoff {a v : UInt64} {n : Nat} (hn : 0 < n) (h : ¬meets a n K.lock 8 = true) :
          (S.memory.store v a n).load K.lock 8 = S.memory.load K.lock 8 := by
        rw [Bool.not_eq_true, meets_comm] at h
        exact Memory.load_store_of_apart (.inr rfl) hn h
      cases c with
      | ldr a n | ldaxr a | clrex => rfl
      | str v a n =>
        obtain ⟨e, he, rfl⟩ := hc
        exact hoff (Cell.bytes_of_stores he ▸ e.bytes_pos) htouch
      | stlr v a | ldaddal v a | stxr v a => exact hoff (by decide) htouch
    rw [SharedMemory.lockWord, SharedMemory.did, hload, Bool.eq_false_iff.2 htouch]
    rfl

end

end Drmid
