import Mathlib
import Drmid.Hook.Proof.Memory
import Drmid.Hook.Proof.PendingTable

/-!
# The emitted blocks do what the pending table says

A block alone takes memory that shows some records to memory that shows the records after
`emitPendingPush` or `emitPendingPop` (`emitPendingPush_alone`, `emitPendingPop_alone`), where
`acquired` says whether the lock word was free. The accesses are followed on the words
(`Asm.Gives`): one rule for each access, and one lemma for each label.
-/

namespace Drmid

open Lib

/-! ## Records -/

/-- A depth below four is the index of a frame. -/
theorem exists_index {w : UInt32} (h : w.toNat < 4) : ∃ k : Fin 4, w = UInt32.ofNat k :=
  ⟨⟨w.toNat, h⟩, (UInt32.ofNat_toNat).symm⟩

theorem toNat_index (k : Fin 4) : (UInt32.ofNat k).toNat = k := by
  rw [UInt32.toNat_ofNat']
  omega

theorem frame_ofNat (slot : BinderPendingSlot) (k : Fin 4) :
    slot.frame (UInt32.ofNat k) = slot.frames.get k := by
  rw [BinderPendingSlot.frame, toNat_index, Vector.getElem?_eq_getElem k.isLt]
  rfl

theorem frames_pushFrame {slot : BinderPendingSlot} {k : Fin 4} (h : slot.depth = UInt32.ofNat k)
    (f : BinderPendingFrame) (l : Fin 4) :
    (slot.pushFrame f).frames.get l = if l = k then f else slot.frames.get l := by
  rw [BinderPendingSlot.pushFrame, h, toNat_index]
  refine (Vector.getElem_setIfInBounds l.isLt).trans ?_
  simp only [Fin.ext_iff, eq_comm]
  rfl

namespace Records

def count (R : Records) (c : PendingCounter) : Records :=
  { R with ctx := R.ctx.emitCounterIncrement c.counter }

def setSlot (R : Records) (i : Fin 256) (slot : BinderPendingSlot) : Records :=
  { R with ctx := { R.ctx with pending := Function.update R.ctx.pending i slot } }

/-- A captured generation. -/
def capture (R : Records) : Records :=
  { R with scratch := { R.scratch with halIdentityGeneration := R.ctx.activeHalGeneration } }

/-- Label `found` of a push. -/
def pushFrame (R : Records) (i : Fin 256) (eventId : UInt64) : Records :=
  let slot := R.ctx.pending i
  if kPendingDepth ≤ slot.depth then R.count .overflows
  else
    (R.capture.setSlot i
      (slot.pushFrame (pendingFrameOf eventId R.ctx.activeHalGeneration R.scratch))).count .pushes

/-- Labels `reclaim_identity` and `claim`. -/
def openSlot (R : Records) (target : PushTarget) : Records :=
  let i := slotAt (pendingBucket R.task.kaddr) target.way
  (if target.collides then R.count .collisions else R).setSlot i
    (target.opened (R.ctx.pending i) R.task)

@[simp] theorem setSlot_self (R : Records) (i : Fin 256) : R.setSlot i (R.ctx.pending i) = R := by
  simp [setSlot]

theorem setSlot_pending (R : Records) (i : Fin 256) (slot : BinderPendingSlot) :
    (R.setSlot i slot).ctx.pending i = slot := Function.update_self ..

theorem setSlot_setSlot (R : Records) (i : Fin 256) (slot slot' : BinderPendingSlot) :
    (R.setSlot i slot).setSlot i slot' = R.setSlot i slot' := by
  simp only [setSlot, Function.update_idem]

theorem setSlot_capture (R : Records) (i : Fin 256) (slot : BinderPendingSlot) :
    (R.setSlot i slot).capture = R.capture.setSlot i slot := rfl

theorem push_acquired {R : Records} {eventId : UInt64} (h : R.scratch.transaction.oneWay = false) :
    R.push true eventId = (R.openSlot (pushTarget R.ctx.pending R.task)).pushFrame
      (slotAt (pendingBucket R.task.kaddr) (pushTarget R.ctx.pending R.task).way) eventId := by
  simp only [push, emitPendingPush, h, Bool.false_eq_true, if_false, Bool.not_true]
  generalize pushTarget R.ctx.pending R.task = target
  simp only [openSlot, pushFrame, setSlot_pending, setSlot_capture, setSlot_setSlot]
  cases target.collides
  · simp only [Bool.false_eq_true, if_false]
    split <;> rfl
  · simp only [if_true]
    split <;> rfl

section
variable {R : Records} {w : Fin 8} {i : Fin 256} {k : Fin 4} {t : Bool}

theorem popped_found (hw : popScan R.ctx.pending R.task.kaddr = some w)
    (hi : slotAt (pendingBucket R.task.kaddr) w = i) (hdepth : (R.ctx.pending i).depth ≠ 0)
    (hk : (R.ctx.pending i).depth - 1 = UInt32.ofNat k) :
    R.popped true t =
      if R.ctx.activeHalGeneration = ((R.ctx.pending i).frames.get k).halIdentityGeneration then
        ⟨((R.ctx.pending i).frames.get k).requestEventId,
          ((R.ctx.pending i).frames.get k).parcelFlags.toUInt64⟩
      else ⟨0, 0⟩ := by
  simp only [popped, emitPendingPop, hw, hi, hk, frame_ofNat, if_neg hdepth, Bool.not_true,
    Bool.false_eq_true, if_false]
  split
  · split
    · rename_i hzero
      rw [hzero]
    · rfl
  · rfl

theorem pop_found (hw : popScan R.ctx.pending R.task.kaddr = some w)
    (hi : slotAt (pendingBucket R.task.kaddr) w = i) (hdepth : (R.ctx.pending i).depth ≠ 0)
    (hk : (R.ctx.pending i).depth - 1 = UInt32.ofNat k) :
    let R₂ := (if R.ctx.activeHalGeneration =
      ((R.ctx.pending i).frames.get k).halIdentityGeneration then R.capture
      else R.capture.count .generationStale).setSlot i (R.ctx.pending i).popFrame
    R.pop true t = if (R.popped true t).x21 = 0 then R₂
      else R₂.count (if t then .terminalPops else .pops) := by
  rw [popped_found hw hi hdepth hk]
  simp only [pop, emitPendingPop, hw, hi, hk, frame_ofNat, if_neg hdepth, Bool.not_true,
    Bool.false_eq_true, if_false]
  split
  · split
    · rfl
    · cases t <;> rfl
  · rfl

end

end Records

/-- The slot that a word is in. -/
def Cell.index : Cell → Option (Fin 256)
  | slot i _ | frame i _ _ => some i
  | counter _ | lock | activeHalIdentitySlot | generation _ | scratch _ | pid | tgid => none

/-- New words in one slot. -/
theorem Shows.setSlot {V V' : Cell → UInt64} {R : Records} {i : Fin 256} {slot : BinderPendingSlot}
    (h : Shows V R) (hslot : ∀ f, V' (.slot i f) = f.value slot)
    (hframes : ∀ (k : Fin 4) f v, FrameField.value (slot.frames.get k) f = some v →
      V' (.frame i k f) = v)
    (hframe : ∀ c : Cell, c.index ≠ some i → V' c = V c) : Shows V' (R.setSlot i slot) := by
  intro d v hd
  by_cases hi : d.index = some i
  · cases d with
    | slot j f =>
      cases hi
      rw [hslot f]
      simpa [Cell.value, Records.setSlot] using hd
    | frame j k f =>
      cases hi
      refine hframes k f v ?_
      simpa [Cell.value, Records.setSlot] using hd
    | counter | lock | activeHalIdentitySlot | generation | scratch | pid | tgid => cases hi
  · rw [hframe d hi]
    refine h d v (hd ▸ ?_)
    cases d with
    | slot j f | frame j k f =>
      have hne : j ≠ i := fun h => hi (congrArg some h)
      simp [Cell.value, Records.setSlot, hne]
    | counter | lock | activeHalIdentitySlot | generation | scratch | pid | tgid => rfl

/-- One new word. -/
theorem Shows.update {V : Cell → UInt64} {R R' : Records} {c : Cell} {v : UInt64} (h : Shows V R)
    (hc : ∀ w, c.value R' = some w → v = w) (hframe : ∀ d ≠ c, d.value R' = d.value R) :
    Shows (Function.update V c v) R' := by
  intro d w hd
  by_cases hdc : d = c
  · subst hdc
    rw [Function.update_self]
    exact hc w hd
  · rw [Function.update_of_ne hdc]
    exact h d w ((hframe d hdc).symm.trans hd)

/-- A new word in the head of a slot. -/
theorem Shows.setField {V : Cell → UInt64} {R : Records} {i : Fin 256} {f : SlotField} {v : UInt64}
    {slot : BinderPendingSlot} (h : Shows V R) (hf : f.value slot = v)
    (hother : ∀ f' ≠ f, f'.value slot = f'.value (R.ctx.pending i))
    (hframes : slot.frames = (R.ctx.pending i).frames) :
    Shows (Function.update V (.slot i f) v) (R.setSlot i slot) := by
  refine h.update (fun w hw => ?_) fun d hd => ?_
  · have hval : f.value slot = w := by simpa [Cell.value, Records.setSlot] using hw
    exact hf.symm.trans hval
  · cases d with
    | slot j f' =>
      by_cases hj : j = i
      · subst hj
        have hne : f' ≠ f := fun h => hd (by rw [h])
        simp [Cell.value, Records.setSlot, hother f' hne]
      · simp [Cell.value, Records.setSlot, hj]
    | frame j k f' =>
      by_cases hj : j = i
      · subst hj
        simp [Cell.value, Records.setSlot, hframes]
      · simp [Cell.value, Records.setSlot, hj]
    | counter | lock | activeHalIdentitySlot | generation | scratch | pid | tgid => rfl

theorem Shows.capture {V : Cell → UInt64} {R : Records} (h : Shows V R) :
    Shows (Function.update V (.scratch .halIdentityGeneration) R.ctx.activeHalGeneration)
      R.capture := by
  refine h.update (fun w hw => Option.some.inj hw) fun d hd => ?_
  cases d with
  | scratch f =>
    cases f with
    | halIdentityGeneration => exact absurd rfl hd
    | target | code | flags | dataSize | parcelFlags => rfl
  | slot | frame | counter | lock | activeHalIdentitySlot | generation | pid | tgid => rfl

theorem Shows.setLock {V : Cell → UInt64} {R : Records} (h : Shows V R) (v : UInt64) :
    Shows (Function.update V .lock v) { R with lock := v } := by
  refine h.update (fun w hw => Option.some.inj hw) fun d hd => ?_
  cases d with
  | lock => exact absurd rfl hd
  | slot | frame | counter | activeHalIdentitySlot | generation | scratch | pid | tgid => rfl

theorem PendingCounter.counter_inj {c c' : PendingCounter} (h : c.counter = c'.counter) :
    c = c' := by
  revert h
  cases c <;> cases c' <;> decide

theorem Shows.count {V : Cell → UInt64} {R : Records} (h : Shows V R) (c : PendingCounter) :
    Shows (Function.update V (.counter c) (V (.counter c) + 1)) (R.count c) := by
  refine h.update (fun w hw => ?_) fun d hd => ?_
  · rw [h _ _ rfl]
    simpa [Cell.value, Records.count, KernelCounterContext.emitCounterIncrement] using hw
  · cases d with
    | counter d =>
      have hne : d.counter ≠ c.counter := fun h => hd (by rw [PendingCounter.counter_inj h])
      simp [Cell.value, Records.count, KernelCounterContext.emitCounterIncrement, hne]
    | slot | frame | lock | activeHalIdentitySlot | generation | scratch | pid | tgid => rfl

/-- Alone, the block takes the records `R` to `R'` and returns `a`. -/
def Asm.Takes {α : Type} {K : ContextAddress} (P : Workspace K) (A : Cell → Bool) (p : Asm α)
    (R : Records) (a : α) (R' : Records) : Prop :=
  ∀ V, Shows V R → p.Gives P A V fun a' V' => a' = a ∧ Shows V' R'

namespace Asm

section
variable {α β : Type} {K : ContextAddress} {P : Workspace K} {A : Cell → Bool}
  {R R' R'' : Records} {a : α} {b : β}

theorem takes_pure : (pure b : Asm β).Takes P A R b R := fun _ hV => gives_pure ⟨rfl, hV⟩

theorem Takes.bind {p : Asm α} {f : α → Asm β} (h : p.Takes P A R a R')
    (hf : (f a).Takes P A R' b R'') : (p >>= f).Takes P A R b R'' := by
  intro V hV
  refine Gives.bind ((h V hV).mono ?_)
  rintro _ V' ⟨rfl, hV'⟩
  exact hf V' hV'

theorem Takes.all {p : Asm α} (h : p.Takes P A R a R') : p.Takes P Cell.all R a R' :=
  fun V hV M hM => (h V hV M hM).imp_right On.all

end

section
variable {K : ContextAddress} {P : Workspace K} {A : Cell → Bool} {R : Records}

theorem emitCounterIncrement_takes (c : PendingCounter) (hA : A (.counter c) = true) :
    (emitCounterIncrement K.kaddr c.offset).Takes P A R () (R.count c) :=
  fun _ hV => emitCounterIncrement_gives c hA ⟨rfl, hV.count c⟩

theorem claimSlot_takes (hx27 : P.x27 = R.task.kaddr) (i : Fin 256) :
    (claimSlot P.offsets P.x27 (K.slot i)).Takes P Cell.guarded R ()
      (R.setSlot i ((R.ctx.pending i).claim R.task)) := by
  intro V hV
  have hpid : V .pid = R.task.pid.toUInt64 := hV .pid _ rfl
  have htgid : V .tgid = R.task.tgid.toUInt64 := hV .tgid _ rfl
  refine (strX_gives (.slot i .taskKaddr) rfl ?_).bind
  refine (ldrW_gives .pid rfl (by simpa using hpid) ?_).bind
  refine (strW_gives (.slot i .pid) rfl ?_).bind
  refine (ldrW_gives .tgid rfl (by simpa using htgid) ?_).bind
  refine (strW_gives (.slot i .tgid) rfl ?_).bind
  refine strW_gives (.slot i .depth) rfl ⟨rfl, hV.setSlot (fun f => ?_) (fun k f v hv => ?_)
    fun c hc => ?_⟩
  · cases f <;> simp [SlotField.value, BinderPendingSlot.claim, hx27]
  · simpa [Function.update_apply] using hV (.frame i k f) v hv
  · have hne (f : SlotField) : c ≠ .slot i f := fun h => hc (by rw [h]; rfl)
    simp [hne]

/-- The index that a word is read for. -/
theorem slotOf_word (w : UInt32) :
    (w &&& 1).toUInt64 = UInt64.ofNat (KernelCounterContext.slotOf w) := by
  have hone : (1 : UInt32).toNat = 1 := rfl
  apply UInt64.toNat_inj.1
  rw [UInt32.toNat_toUInt64, UInt32.toNat_and, hone, Nat.and_one_is_mod, UInt64.toNat_ofNat']
  exact (Nat.mod_eq_of_lt ((KernelCounterContext.slotOf w).isLt.trans (by decide))).symm

/-- The words that are read are as in the records. -/
theorem emitCaptureActiveHalGeneration_gives {V : Cell → UInt64}
    {Q : Unit → (Cell → UInt64) → Prop}
    (hactive : V .activeHalIdentitySlot = R.ctx.activeHalIdentitySlot.toUInt64)
    (hgeneration : ∀ j, V (.generation j) = (R.ctx.halIdentitySlots j).generation)
    (h : Q () (Function.update V (.scratch .halIdentityGeneration) R.ctx.activeHalGeneration)) :
    (emitCaptureActiveHalGeneration K.kaddr P.x23).Gives P Cell.guarded V Q := by
  refine (ldrW_gives .activeHalIdentitySlot rfl hactive ?_).bind
  rw [slotOf_word]
  refine (ldrX_gives (.generation (KernelCounterContext.slotOf _)) rfl (hgeneration _) ?_).bind
  exact strX_gives (.scratch .halIdentityGeneration) rfl h

/-! ### Push -/

theorem loadTopEventId_gives {V : Cell → UInt64} (hV : Shows V R) {i : Fin 256}
    (hle : (R.ctx.pending i).depth.toNat ≤ 4) :
    (loadTopEventId (K.slot i) (R.ctx.pending i).depth).Gives P Cell.guarded V fun x9 V' =>
      x9 = (R.ctx.pending i).topEventId ∧ V' = V := by
  unfold loadTopEventId BinderPendingSlot.topEventId
  split
  · exact gives_pure ⟨rfl, rfl⟩
  · rename_i hdepth
    have hpos : 1 ≤ (R.ctx.pending i).depth.toNat := by
      rw [Nat.one_le_iff_ne_zero]
      exact fun h => hdepth (UInt32.toNat_inj.1 h)
    have hsub := BinderPendingSlot.toNat_depth_sub_one hpos
    obtain ⟨k, hk⟩ := exists_index (w := (R.ctx.pending i).depth - 1) (by omega)
    rw [hk, frame_ofNat]
    exact ldrX_gives (.frame i k .requestEventId) rfl (hV (.frame i k .requestEventId) _ rfl)
      ⟨rfl, rfl⟩

/-- Where the scan of bucket `b` ends, for the target it stands for. -/
def ScanEnd.Shows (K : ContextAddress) (b : Fin 32) : ScanEnd → PushTarget → Prop
  | .found x15, .found w => x15 = K.slot (slotAt b w)
  | .reclaimIdentity x15, .reclaimIdentity w => x15 = K.slot (slotAt b w)
  | .scanned x14 _, .useEmpty w => x14 = K.slot (slotAt b w)
  | .scanned x14 x10, .evict w => x14 = 0 ∧ x10 = K.slot (slotAt b w)
  | _, _ => False

/-- A register with the slot of a way, or 0. -/
def wayRegister (K : ContextAddress) (b : Fin 32) (w : Option (Fin 8)) : UInt64 :=
  (w.map fun w => K.slot (slotAt b w)).getD 0

theorem slot_isSlot (i : Fin 256) : K.IsSlot (K.slot i) := ⟨i, i.isLt, rfl⟩

theorem wayRegister_eq_zero {b : Fin 32} {w : Option (Fin 8)} :
    wayRegister K b w = 0 ↔ w = none := by
  cases w with
  | none => exact iff_of_true rfl rfl
  | some w => exact iff_of_false (slot_isSlot _).ne_zero nofun

/-- `x14` at label `remember_empty`. -/
theorem wayRegister_or {b : Fin 32} (o : Option (Fin 8)) (w : Fin 8) :
    wayRegister K b (o.or (some w)) =
      if wayRegister K b o = 0 then K.slot (slotAt b w) else wayRegister K b o := by
  cases o with
  | none => rfl
  | some v => exact (if_neg (slot_isSlot _).ne_zero).symm

theorem drop_finRange {w : Nat} (h : w < 8) :
    (List.finRange 8).drop w = ⟨w, h⟩ :: (List.finRange 8).drop (w + 1) := by
  rw [List.drop_eq_getElem_cons (by simpa using h)]
  simp

/-- A slot of this task: its two ids are compared. -/
theorem sameTask_gives {V : Cell → UInt64} (hV : Shows V R) {b : Fin 32} {w : Fin 8} {i : Fin 256}
    (hi : slotAt b w = i) :
    (do
      let w12 ← ldrW (K.slot i + BinderPendingSlot.offsetofPid)
      let w11 ← ldrW (P.x27 + P.offsets.pid)
      if w12 ≠ w11 then return ScanEnd.reclaimIdentity (K.slot i)
      else
        let w12 ← ldrW (K.slot i + BinderPendingSlot.offsetofTgid)
        let w11 ← ldrW (P.x27 + P.offsets.tgid)
        if w12 = w11 then return ScanEnd.found (K.slot i)
        else return ScanEnd.reclaimIdentity (K.slot i)).Gives P Cell.guarded V fun scan V' =>
          ScanEnd.Shows K b scan
            (if (R.ctx.pending i).pid = R.task.pid ∧ (R.ctx.pending i).tgid = R.task.tgid then
              .found w else .reclaimIdentity w) ∧ V' = V := by
  refine (ldrW_gives (.slot i .pid) rfl (hV (.slot i .pid) _ rfl) ?_).bind
  refine (ldrW_gives .pid rfl (hV .pid _ rfl) ?_).bind
  by_cases hpid : (R.ctx.pending i).pid = R.task.pid
  · rw [if_neg (not_not.2 hpid)]
    refine (ldrW_gives (.slot i .tgid) rfl (hV (.slot i .tgid) _ rfl) ?_).bind
    refine (ldrW_gives .tgid rfl (hV .tgid _ rfl) ?_).bind
    by_cases htgid : (R.ctx.pending i).tgid = R.task.tgid
    · simp only [if_pos htgid, if_pos (And.intro hpid htgid)]
      exact gives_pure ⟨by rw [← hi]; rfl, rfl⟩
    · simp only [if_neg htgid, if_neg fun h : _ ∧ _ => htgid h.2]
      exact gives_pure ⟨by rw [← hi]; rfl, rfl⟩
  · simp only [if_pos hpid, if_neg fun h : _ ∧ _ => hpid h.1]
    exact gives_pure ⟨by rw [← hi]; rfl, rfl⟩

/-- The registers of the scan, before way `w`. -/
theorem pushWays_gives {V : Cell → UInt64} (hV : Shows V R) (hI : PendingInv R.ctx.pending)
    (hx27 : P.x27 = R.task.kaddr) (b : Fin 32) (n w : Nat) (acc : PushScan) (hw : w + n = 8)
    (hsome : acc.firstEmpty ≠ none ∨ acc.oldest ≠ none ∨ 0 < n) :
      (pushWays P.offsets P.x27 n (K.slot (8 * b + w)) (wayRegister K b acc.firstEmpty)
        (wayRegister K b acc.oldest) acc.oldestId).Gives P Cell.guarded V fun scan V' =>
          scan.Shows K b (pushScan (fun w => R.ctx.pending (slotAt b w)) R.task
            ((List.finRange 8).drop w) acc) ∧ V' = V := by
  induction n generalizing w acc with
  | zero =>
    have hnil : (List.finRange 8).drop w = [] := by
      rw [List.drop_eq_nil_iff, List.length_finRange]
      omega
    refine gives_pure ⟨?_, rfl⟩
    rw [hnil, pushScan]
    cases hempty : acc.firstEmpty with
    | some w => exact rfl
    | none =>
      cases hold : acc.oldest with
      | some w => exact ⟨rfl, rfl⟩
      | none => simp [hempty, hold] at hsome
  | succ n ih =>
    have hlt : w < 8 := by omega
    have hslot : K.slot (8 * b + w) = K.slot (slotAt b ⟨w, hlt⟩) := by
      simp [slotAt, Nat.mul_comm]
    have hnext (acc' : PushScan) (hsome' : acc'.firstEmpty ≠ none ∨ acc'.oldest ≠ none) :=
      ih (w + 1) acc' (by omega) (hsome'.imp_right .inl)
    have hstep : K.slot (8 * b + w) + sizeofBinderPendingSlot = K.slot (8 * b + (w + 1)) :=
      ContextAddress.slot_succ _
    obtain ⟨i, hi⟩ : ∃ i, slotAt b ⟨w, hlt⟩ = i := ⟨_, rfl⟩
    rw [hi] at hslot
    simp only [drop_finRange hlt, pushScan, hi]
    simp only [pushWays, hstep]
    rw [hslot]
    refine (ldrX_gives (.slot i .taskKaddr) rfl (hV (.slot i .taskKaddr) _ rfl) ?_).bind
    rw [SlotField.value, ← hx27]
    by_cases h0 : (R.ctx.pending i).taskKaddr = 0
    · simp only [if_pos h0]
      rw [← hi, ← wayRegister_or]
      exact hnext (acc.rememberEmpty ⟨w, hlt⟩) (.inl (by simp [PushScan.rememberEmpty]))
    · simp only [if_neg h0]
      by_cases htask : (R.ctx.pending i).taskKaddr = P.x27
      · simp only [if_pos htask]
        exact sameTask_gives hV hi
      · simp only [if_neg htask]
        refine (ldrW_gives (.slot i .depth) rfl (hV (.slot i .depth) _ rfl) ?_).bind
        refine ((loadTopEventId_gives hV (hI.depth_le i h0)).mono ?_).bind
        rintro _ _ ⟨rfl, rfl⟩
        simp only [wayRegister_eq_zero]
        by_cases hold : (R.ctx.pending i).depth = 0 ∨ acc.oldest = none ∨
            (R.ctx.pending i).topEventId < acc.oldestId
        · have hacc : acc.considerOldest ⟨w, hlt⟩ (R.ctx.pending i) =
              ⟨acc.firstEmpty, some ⟨w, hlt⟩, (R.ctx.pending i).topEventId⟩ := if_pos hold
          rw [if_pos hold, hacc, ← hi]
          exact hnext ⟨acc.firstEmpty, some ⟨w, hlt⟩, _⟩ (.inr (Option.some_ne_none _))
        · have hacc : acc.considerOldest ⟨w, hlt⟩ (R.ctx.pending i) = acc := if_neg hold
          rw [if_neg hold, hacc]
          exact hnext acc (.inr fun h => hold (.inr (.inl h)))

/-- Where label `found` finds room. -/
theorem pushFrame_room {i : Fin 256} (hroom : ¬kPendingDepth ≤ (R.ctx.pending i).depth) :
    (pushFrame K.kaddr P.x23 P.x26 (K.slot i)).Takes P Cell.guarded R ()
      ((R.capture.setSlot i ((R.ctx.pending i).pushFrame
        (pendingFrameOf P.x26 R.ctx.activeHalGeneration R.scratch))).count .pushes) := by
  intro V hV
  have htarget : V (.scratch .target) = R.scratch.transaction.target := hV _ _ rfl
  have hdataSize : V (.scratch .dataSize) = R.scratch.transaction.dataSize := hV _ _ rfl
  have hcode : V (.scratch .code) = R.scratch.transaction.code.toUInt64 := hV _ _ rfl
  have hflags : V (.scratch .flags) = R.scratch.transaction.flags.toUInt64 := hV _ _ rfl
  have hparcel : V (.scratch .parcelFlags) = R.scratch.parcelFlags.toUInt64 := hV _ _ rfl
  have hgeneration (j : Fin 2) : V (.generation j) = (R.ctx.halIdentitySlots j).generation :=
    hV _ _ rfl
  obtain ⟨k, hk⟩ := exists_index (depth_lt_of_not_le hroom)
  refine (ldrW_gives (.slot i .depth) rfl (hV (.slot i .depth) _ rfl) ?_).bind
  rw [if_neg hroom, hk]
  refine (strX_gives (.frame i k .requestEventId) rfl ?_).bind
  refine (ldrX_gives (.scratch .target) rfl (by simpa using htarget) ?_).bind
  refine (strX_gives (.frame i k .target) rfl ?_).bind
  refine (ldrX_gives (.scratch .dataSize) rfl (by simpa using hdataSize) ?_).bind
  refine (strX_gives (.frame i k .dataSize) rfl ?_).bind
  refine (emitCaptureActiveHalGeneration_gives (R := R)
    (by simpa using hV .activeHalIdentitySlot _ rfl) (by simpa using hgeneration) ?_).bind
  refine (ldrX_gives (.scratch .halIdentityGeneration) rfl (Function.update_self ..) ?_).bind
  refine (strX_gives (.frame i k .halIdentityGeneration) rfl ?_).bind
  refine (ldrW_gives (.scratch .code) rfl (by simpa using hcode) ?_).bind
  refine (strW_gives (.frame i k .code) rfl ?_).bind
  refine (ldrW_gives (.scratch .flags) rfl (by simpa using hflags) ?_).bind
  refine (strW_gives (.frame i k .flags) rfl ?_).bind
  refine (ldrW_gives (.scratch .parcelFlags) rfl (by simpa using hparcel) ?_).bind
  refine (strW_gives (.frame i k .parcelFlags) rfl ?_).bind
  refine (strW_gives (.frame i k .reserved) rfl ?_).bind
  refine (strW_gives (.slot i .depth) rfl ?_).bind
  refine emitCounterIncrement_takes .pushes rfl _ (hV.capture.setSlot (fun f => ?_)
    (fun l f v hv => ?_) fun c hc => ?_)
  · have hf := hV (.slot i f) _ rfl
    cases f with
    | depth => simp [SlotField.value, BinderPendingSlot.pushFrame, hk]
    | taskKaddr | pid | tgid => simpa [SlotField.value, BinderPendingSlot.pushFrame] using hf
  · rw [frames_pushFrame hk] at hv
    by_cases hl : l = k
    · rw [if_pos hl] at hv
      subst hl
      cases f <;> cases hv <;> simp [pendingFrameOf]
    · rw [if_neg hl] at hv
      simpa [hl] using hV (.frame i l f) v hv
  · have hslot (f : SlotField) : c ≠ .slot i f := fun h => hc (by rw [h]; rfl)
    have hframe (f : FrameField) : c ≠ .frame i k f := fun h => hc (by rw [h]; rfl)
    simp [Function.update_apply, hslot, hframe]

theorem pushFrame_takes (i : Fin 256) :
    (pushFrame K.kaddr P.x23 P.x26 (K.slot i)).Takes P Cell.guarded R () (R.pushFrame i P.x26) := by
  by_cases hfull : kPendingDepth ≤ (R.ctx.pending i).depth
  · rw [Records.pushFrame, if_pos hfull]
    intro V hV
    refine (ldrW_gives (.slot i .depth) rfl (hV (.slot i .depth) _ rfl) ?_).bind
    rw [if_pos hfull]
    exact emitCounterIncrement_takes .overflows rfl V hV
  · rw [Records.pushFrame, if_neg hfull]
    exact pushFrame_room hfull

/-- Label `claim` and what follows. -/
theorem claimed_takes (hx27 : P.x27 = R.task.kaddr) (i : Fin 256) :
    (do
      claimSlot P.offsets P.x27 (K.slot i)
      pushFrame K.kaddr P.x23 P.x26 (K.slot i)).Takes P Cell.guarded R ()
        ((R.setSlot i ((R.ctx.pending i).claim R.task)).pushFrame i P.x26) :=
  (claimSlot_takes hx27 i).bind (pushFrame_takes i)

/-- Labels `reclaim_identity` and `evict`. -/
theorem collided_takes (hx27 : P.x27 = R.task.kaddr) (i : Fin 256) :
    (do
      emitCounterIncrement K.kaddr offsetofPendingCollisions
      claimSlot P.offsets P.x27 (K.slot i)
      pushFrame K.kaddr P.x23 P.x26 (K.slot i)).Takes P Cell.guarded R ()
        (((R.count .collisions).setSlot i ((R.ctx.pending i).claim R.task)).pushFrame i P.x26) :=
  have hclaimed := claimed_takes (P := P) (R := R.count .collisions) hx27 i
  (emitCounterIncrement_takes .collisions rfl).bind hclaimed

theorem bucketAddress_task (hx27 : P.x27 = R.task.kaddr) :
    bucketAddress K.kaddr P.x27 = K.slot (8 * pendingBucket R.task.kaddr + 0) := by
  rw [ContextAddress.bucketAddress_eq, hx27, ← pendingBucket_val, Nat.add_zero]

theorem pushSection_takes (hI : PendingInv R.ctx.pending) (hx27 : P.x27 = R.task.kaddr)
    (honeway : R.scratch.transaction.oneWay = false) :
    (pushSection P.offsets K.kaddr P.x23 P.x26 P.x27).Takes P Cell.guarded R ()
      (R.push true P.x26) := by
  intro V hV
  have hscan := pushWays_gives hV hI hx27 (pendingBucket R.task.kaddr) 8 0
    ⟨none, none, 0xffffffffffffffff⟩ rfl (.inr (.inr (by decide)))
  rw [Records.push_acquired honeway]
  unfold pushSection
  rw [bucketAddress_task hx27]
  refine (hscan.mono ?_).bind
  rintro scan _ ⟨hshows, rfl⟩
  change scan.Shows K _ (pushTarget R.ctx.pending R.task) at hshows
  generalize htarget : pushTarget R.ctx.pending R.task = target at hshows ⊢
  cases scan with
  | found x15 =>
    cases target with
    | found w =>
      subst hshows
      have hopen : R.openSlot (.found w) = R := R.setSlot_self _
      rw [hopen]
      exact pushFrame_takes (slotAt _ w) _ hV
    | reclaimIdentity | useEmpty | evict => exact hshows.elim
  | reclaimIdentity x15 =>
    cases target with
    | reclaimIdentity w =>
      subst hshows
      exact collided_takes hx27 (slotAt _ w) _ hV
    | found | useEmpty | evict => exact hshows.elim
  | scanned x14 x10 =>
    cases target with
    | useEmpty w =>
      subst hshows
      dsimp only
      rw [if_neg (slot_isSlot _).ne_zero]
      exact claimed_takes hx27 (slotAt _ w) _ hV
    | evict w =>
      obtain ⟨rfl, rfl⟩ := hshows
      exact collided_takes hx27 (slotAt _ w) _ hV
    | found | reclaimIdentity => exact hshows.elim

/-! ### The lock -/

theorem retryAcquire_free (h : R.lock = 0) (n : Nat) :
    (retryAcquire K.lock (n + 1)).Takes P Cell.all R true { R with lock := 1 } := by
  intro V hV
  refine Gives.bind (.bind (ldaxr_gives rfl (hV .lock _ rfl) ?_))
  rw [h, if_pos rfl]
  exact Gives.bind (stxr_gives rfl (gives_pure (gives_pure ⟨rfl, hV.setLock 1⟩)))

theorem retryAcquire_held (h : R.lock ≠ 0) : ∀ n, (retryAcquire K.lock n).Takes P Cell.all R false R
  | 0 => takes_pure
  | n + 1 => by
    intro V hV
    refine Gives.bind (.bind (ldaxr_gives rfl (hV .lock _ rfl) ?_))
    rw [if_neg h]
    refine gives_pure ?_
    exact (clrex_gives (retryAcquire_held h n V hV)).bind

theorem emitPendingLockAcquire_free (h : R.lock = 0) :
    (emitPendingLockAcquire K.kaddr).Takes P Cell.all R true { R with lock := 1 } :=
  (retryAcquire_free h 7).bind takes_pure

theorem emitPendingLockAcquire_held (h : R.lock ≠ 0) :
    (emitPendingLockAcquire K.kaddr).Takes P Cell.all R false (R.count .lockDrops) :=
  (retryAcquire_held h 8).bind ((emitCounterIncrement_takes .lockDrops rfl).bind takes_pure)

theorem emitPendingLockRelease_takes :
    (emitPendingLockRelease K.kaddr).Takes P Cell.all R () { R with lock := 0 } :=
  fun _ hV => stlr_gives .lock rfl ⟨rfl, hV.setLock 0⟩

theorem emitPendingPush_takes (hI : PendingInv R.ctx.pending) (hx27 : P.x27 = R.task.kaddr) :
    (emitPendingPush P.offsets K.kaddr P.x23 P.x26 P.x27).Takes P Cell.all R ()
      (R.push (R.lock == 0) P.x26) := by
  intro V hV
  refine (ldrW_gives (.scratch .flags) rfl (hV (.scratch .flags) _ rfl) ?_).bind
  by_cases honeway : R.scratch.transaction.flags &&& 1 ≠ 0
  · have hpush : R.push (R.lock == 0) P.x26 = R.count .onewayIgnored := by
      have h : R.scratch.transaction.oneWay = true := by
        simpa [BinderTransactionData.oneWay] using honeway
      simp only [Records.push, Drmid.emitPendingPush, h, if_true]
      rfl
    rw [if_pos honeway, hpush]
    exact emitCounterIncrement_takes .onewayIgnored rfl V hV
  · have h : R.scratch.transaction.oneWay = false := by
      simpa [BinderTransactionData.oneWay] using honeway
    rw [if_neg honeway]
    by_cases hlock : R.lock = 0
    · have hpush : R.push (R.lock == 0) P.x26 =
          { ({ R with lock := 1 } : Records).push true P.x26 with lock := 0 } := by
        rw [hlock, beq_self_eq_true]
        simp only [Records.push, ← hlock]
      have hsection := pushSection_takes (P := P) (R := { R with lock := 1 }) hI hx27 h
      rw [hpush]
      refine (emitPendingLockAcquire_free hlock).bind ?_ V hV
      rw [if_pos rfl]
      exact hsection.all.bind emitPendingLockRelease_takes
    · have hpush : R.push (R.lock == 0) P.x26 = R.count .lockDrops := by
        have hfalse : (R.lock == 0) = false := by simpa using hlock
        simp only [Records.push, Drmid.emitPendingPush, h, hfalse]
        rfl
      rw [hpush]
      refine (emitPendingLockAcquire_held hlock).bind ?_ V hV
      rw [if_neg Bool.false_ne_true]
      exact takes_pure

/-! ### Pop -/

/-- The scan, before way `w`. -/
theorem popWays_gives {V : Cell → UInt64} (hV : Shows V R) (hx27 : P.x27 = R.task.kaddr)
    (b : Fin 32) : ∀ n w : Nat, w + n = 8 →
      (popWays P.x27 n (K.slot (8 * b + w))).Gives P Cell.guarded V fun x15 V' =>
        x15 = (((List.finRange 8).drop w).find? fun w =>
          (R.ctx.pending (slotAt b w)).taskKaddr == R.task.kaddr).map
            (fun w => K.slot (slotAt b w)) ∧ V' = V
  | 0, w, hw => by
    have hnil : (List.finRange 8).drop w = [] := by
      rw [List.drop_eq_nil_iff, List.length_finRange]
      omega
    rw [hnil]
    exact gives_pure ⟨rfl, rfl⟩
  | n + 1, w, hw => by
    have hlt : w < 8 := by omega
    have hslot : K.slot (8 * b + w) = K.slot (slotAt b ⟨w, hlt⟩) := by
      simp [slotAt, Nat.mul_comm]
    have hstep : K.slot (8 * b + w) + sizeofBinderPendingSlot = K.slot (8 * b + (w + 1)) :=
      ContextAddress.slot_succ _
    simp only [drop_finRange hlt, List.find?_cons, popWays, hstep]
    rw [hslot]
    refine (ldrX_gives (.slot (slotAt b ⟨w, hlt⟩) .taskKaddr) rfl (hV _ _ rfl) ?_).bind
    rw [SlotField.value]
    by_cases htask : (R.ctx.pending (slotAt b ⟨w, hlt⟩)).taskKaddr = R.task.kaddr
    · rw [if_pos (htask.trans hx27.symm)]
      simp only [htask, beq_self_eq_true]
      exact gives_pure ⟨rfl, rfl⟩
    · rw [if_neg (hx27 ▸ htask)]
      simp only [beq_false_of_ne htask]
      exact popWays_gives hV hx27 b n (w + 1) (by omega)

theorem popMiss_takes : (popMiss K.kaddr).Takes P Cell.guarded R ⟨0, 0⟩ (R.count .misses) :=
  (emitCounterIncrement_takes .misses rfl).bind takes_pure

theorem checkGeneration_takes (x9 x10 : UInt64) (popped : Popped) :
    (checkGeneration K.kaddr x9 x10 popped).Takes P Cell.guarded R
      (if x9 = x10 then popped else ⟨0, 0⟩) (if x9 = x10 then R else R.count .generationStale) := by
  unfold checkGeneration
  split
  · exact takes_pure
  · exact (emitCounterIncrement_takes .generationStale rfl).bind takes_pure

/-- A new depth. -/
theorem strW_depth_takes (i : Fin 256) (w : UInt32) :
    (strW w (K.slot i + BinderPendingSlot.offsetofDepth)).Takes P Cell.guarded R ()
      (R.setSlot i { R.ctx.pending i with depth := w }) := by
  refine fun V hV => strW_gives (.slot i .depth) rfl ⟨rfl, hV.setField rfl (fun f hf => ?_) rfl⟩
  cases f with
  | depth => exact absurd rfl hf
  | taskKaddr | pid | tgid => rfl

/-- A slot given back. -/
theorem stlr_slot_takes (i : Fin 256) :
    (stlr 0 (K.slot i)).Takes P Cell.guarded R ()
      (R.setSlot i { R.ctx.pending i with taskKaddr := 0 }) := by
  have haddr : K.slot i = (Cell.slot i .taskKaddr).addr P := (UInt64.add_zero _).symm
  rw [haddr]
  refine fun V hV => stlr_gives (.slot i .taskKaddr) rfl
    ⟨rfl, hV.setField rfl (fun f hf => ?_) rfl⟩
  cases f with
  | taskKaddr => exact absurd rfl hf
  | depth | pid | tgid => rfl

theorem ldrX_takes (c : Cell) {v : UInt64} (hc : c.loads Cell.guarded 8 = true)
    (hv : c.value R = some v) :
    (ldrX (c.addr P)).Takes P Cell.guarded R v R :=
  fun _ hV => ldrX_gives c hc (hV c v hv) ⟨rfl, hV⟩

theorem ldrW_takes (c : Cell) {w : UInt32} (hc : c.loads Cell.guarded 4 = true)
    (hw : c.value R = some w.toUInt64) :
    (ldrW (c.addr P)).Takes P Cell.guarded R w R :=
  fun _ hV => ldrW_gives c hc (hV c _ hw) ⟨rfl, hV⟩

theorem emitCaptureActiveHalGeneration_takes :
    (emitCaptureActiveHalGeneration K.kaddr P.x23).Takes P Cell.guarded R () R.capture :=
  fun _ hV => emitCaptureActiveHalGeneration_gives (hV .activeHalIdentitySlot _ rfl)
    (fun j => hV (.generation j) _ rfl) ⟨rfl, hV.capture⟩

/-- Label `found` of a pop, with the frame `k` on top. -/
theorem popFrame_takes {i : Fin 256} {slot : BinderPendingSlot} {k : Fin 4}
    (hslot : R.ctx.pending i = slot) (hk : slot.depth - 1 = UInt32.ofNat k) :
    (popFrame K.kaddr P.x23 (K.slot i) slot.depth).Takes P Cell.guarded R
      (if R.ctx.activeHalGeneration = (slot.frames.get k).halIdentityGeneration then
        ⟨(slot.frames.get k).requestEventId, (slot.frames.get k).parcelFlags.toUInt64⟩ else ⟨0, 0⟩)
      ((if R.ctx.activeHalGeneration = (slot.frames.get k).halIdentityGeneration then R.capture
        else R.capture.count .generationStale).setSlot i slot.popFrame) := by
  have hdepth := strW_depth_takes (P := P) (R := R) i (slot.depth - 1)
  rw [hslot] at hdepth
  generalize hR : R.setSlot i { slot with depth := slot.depth - 1 } = R' at hdepth
  have hframe : (R'.ctx.pending i).frames.get k = slot.frames.get k := by
    rw [← hR]
    simp [Records.setSlot]
  unfold popFrame
  refine hdepth.bind ?_
  rw [hk]
  refine (ldrX_takes (.frame i k .requestEventId) rfl rfl).bind ?_
  refine (ldrW_takes (.frame i k .parcelFlags) rfl rfl).bind ?_
  refine emitCaptureActiveHalGeneration_takes.bind ?_
  refine (ldrX_takes (.scratch .halIdentityGeneration) rfl rfl).bind ?_
  refine (ldrX_takes (.frame i k .halIdentityGeneration) rfl rfl).bind ?_
  refine (checkGeneration_takes _ _ _).bind ?_
  have hgeneration : ScratchField.value R'.capture.scratch .halIdentityGeneration =
      R.ctx.activeHalGeneration := by
    rw [← hR]
    rfl
  have hcaptured : (R'.capture.ctx.pending i).frames.get k = slot.frames.get k := hframe
  rw [hgeneration, hcaptured, hframe]
  generalize (if R.ctx.activeHalGeneration = (slot.frames.get k).halIdentityGeneration then
    (⟨(slot.frames.get k).requestEventId, (slot.frames.get k).parcelFlags.toUInt64⟩ : Popped)
    else ⟨0, 0⟩) = popped
  have hstate :
      (if R.ctx.activeHalGeneration = (slot.frames.get k).halIdentityGeneration then R'.capture
      else R'.capture.count .generationStale) =
        (if R.ctx.activeHalGeneration = (slot.frames.get k).halIdentityGeneration then R.capture
          else R.capture.count .generationStale).setSlot i
            { slot with depth := slot.depth - 1 } := by
    rw [← hR]
    split <;> rfl
  rw [hstate]
  generalize
    (if R.ctx.activeHalGeneration = (slot.frames.get k).halIdentityGeneration then R.capture
    else R.capture.count .generationStale) = R₂
  by_cases hzero : UInt32.ofNat k = 0
  · have hpop : slot.popFrame = { slot with depth := slot.depth - 1, taskKaddr := 0 } := by
      rw [BinderPendingSlot.popFrame, hk, if_pos hzero]
    have hfree := stlr_slot_takes (P := P)
      (R := R₂.setSlot i { slot with depth := slot.depth - 1 }) i
    rw [Records.setSlot_pending, Records.setSlot_setSlot] at hfree
    rw [if_pos hzero, hpop]
    exact hfree.bind takes_pure
  · have hpop : slot.popFrame = { slot with depth := slot.depth - 1 } := by
      rw [BinderPendingSlot.popFrame, hk, if_neg hzero]
    rw [if_neg hzero, hpop]
    exact takes_pure

theorem countPop_takes (terminalReply : Bool) (x21 : UInt64) :
    (countPop terminalReply K.kaddr x21).Takes P Cell.guarded R () (if x21 = 0 then R
      else R.count (if terminalReply then .terminalPops else .pops)) := by
  unfold countPop
  split
  · exact takes_pure
  · cases terminalReply with
    | true => exact emitCounterIncrement_takes .terminalPops rfl
    | false => exact emitCounterIncrement_takes .pops rfl

/-- What a pop finds and does before it counts. -/
theorem popSection_takes (hI : PendingInv R.ctx.pending) (htask : R.task.kaddr ≠ 0)
    (hx27 : P.x27 = R.task.kaddr) (terminalReply : Bool) :
    ∃ R₂,
      (popSection K.kaddr P.x23 P.x27).Takes P Cell.guarded R (R.popped true terminalReply) R₂ ∧
      R.pop true terminalReply = if (R.popped true terminalReply).x21 = 0 then R₂
        else R₂.count (if terminalReply then .terminalPops else .pops) := by
  have hscan (V : Cell → UInt64) (hV : Shows V R) :
      (popWays P.x27 8 (bucketAddress K.kaddr P.x27)).Gives P Cell.guarded V fun x15 V' =>
        x15 = (popScan R.ctx.pending R.task.kaddr).map
          (fun w => K.slot (slotAt (pendingBucket R.task.kaddr) w)) ∧ V' = V := by
    rw [bucketAddress_task hx27]
    exact popWays_gives hV hx27 (pendingBucket R.task.kaddr) 8 0 rfl
  cases hw : popScan R.ctx.pending R.task.kaddr with
  | none =>
    have hpop : Drmid.emitPendingPop R.task.kaddr true terminalReply R.scratch R.ctx =
        Drmid.popMiss R.scratch R.ctx := by
      simp only [Drmid.emitPendingPop, hw]
      rfl
    refine ⟨R.count .misses, fun V hV => ?_, ?_⟩
    · refine Gives.bind ((hscan V hV).mono ?_)
      rintro _ _ ⟨rfl, rfl⟩
      rw [hw, Records.popped, hpop]
      exact popMiss_takes _ hV
    · rw [Records.pop, Records.popped, hpop]
      rfl
  | some w =>
    generalize hi : slotAt (pendingBucket R.task.kaddr) w = i
    have hfound : (R.ctx.pending i).taskKaddr = R.task.kaddr := by
      have h := List.find?_some hw
      rw [hi] at h
      exact eq_of_beq h
    have hocc : (R.ctx.pending i).taskKaddr ≠ 0 := hfound ▸ htask
    have hpos := hI.depth_pos i hocc
    have hle := hI.depth_le i hocc
    have hdepth := BinderPendingSlot.depth_ne_zero hpos
    have hsub := BinderPendingSlot.toNat_depth_sub_one hpos
    obtain ⟨k, hk⟩ := exists_index (w := (R.ctx.pending i).depth - 1) (by omega)
    have hpopped := Records.popped_found (t := terminalReply) hw hi hdepth hk
    have hpop := Records.pop_found (t := terminalReply) hw hi hdepth hk
    refine ⟨_, fun V hV => ?_, hpop⟩
    refine Gives.bind ((hscan V hV).mono ?_)
    rintro _ _ ⟨rfl, rfl⟩
    rw [hw, hpopped, Option.map_some, hi]
    refine (ldrW_gives (.slot i .depth) rfl (hV (.slot i .depth) _ rfl) ?_).bind
    rw [if_neg hdepth]
    exact popFrame_takes rfl hk _ hV

theorem emitPendingPop_takes (hI : PendingInv R.ctx.pending) (htask : R.task.kaddr ≠ 0)
    (hx27 : P.x27 = R.task.kaddr) (terminalReply : Bool) :
    (emitPendingPop terminalReply K.kaddr P.x23 P.x27).Takes P Cell.all R
      (R.popped (R.lock == 0) terminalReply) (R.pop (R.lock == 0) terminalReply) := by
  by_cases hlock : R.lock = 0
  · obtain ⟨R₂, hsection, hpop⟩ := popSection_takes (P := P) (R := { R with lock := 1 }) hI htask
      hx27 terminalReply
    have hrelease : R.pop (R.lock == 0) terminalReply =
        { ({ R with lock := 1 } : Records).pop true terminalReply with lock := 0 } := by
      rw [hlock, beq_self_eq_true]
      simp only [Records.pop, ← hlock]
    rw [hrelease, hpop]
    refine (emitPendingLockAcquire_free hlock).bind ?_
    rw [if_pos rfl, hlock, beq_self_eq_true]
    exact hsection.all.bind ((countPop_takes terminalReply _).all.bind
      (emitPendingLockRelease_takes.bind takes_pure))
  · have hfalse : (R.lock == 0) = false := by simpa using hlock
    rw [hfalse]
    refine (emitPendingLockAcquire_held hlock).bind ?_
    rw [if_neg Bool.false_ne_true]
    exact takes_pure

end
end Asm

/-! ## Main results -/

section
variable {K : ContextAddress} {P : Workspace K} {M : Memory} {R : Records}

/-- **Main result: a push alone.** It does to the records what `emitPendingPush` does when the
try-lock says whether the lock word is free. The lock word is given back as it was, and no byte
outside the words is changed. -/
theorem emitPendingPush_alone (hM : Shows (M.view P) R) (hI : PendingInv R.ctx.pending)
    (hx27 : P.x27 = R.task.kaddr) :
    let M' := ((Asm.emitPendingPush P.offsets K.kaddr P.x23 P.x26 P.x27).alone M).2
    Shows (M'.view P) (R.push (R.lock == 0) P.x26) ∧ M.SameElsewhere P M' := by
  obtain ⟨⟨-, hshows⟩, hon⟩ := Asm.emitPendingPush_takes hI hx27 _ hM M rfl
  exact ⟨hshows, hon.sameElsewhere⟩

theorem emitPendingPush_alone_zero :
    let K : ContextAddress := ⟨0x1000, by decide⟩
    let P : Workspace K :=
      ⟨⟨0x100000, 7, 0x200000, by decide⟩, ⟨8, 12⟩, by decide, by decide, by decide, by decide,
        by decide⟩
    let R : Records := ⟨⟨0x200000, 0, 0⟩, .zero, .zero, 0⟩
    let M' := ((Asm.emitPendingPush P.offsets K.kaddr P.x23 P.x26 P.x27).alone fun _ => 0).2
    Shows (M'.view P) (R.push true 7) ∧ Memory.SameElsewhere P (fun _ => 0) M' := by
  intro K P R
  exact emitPendingPush_alone (contextShows_zero.shows (outsideShows_zero P _)) emptyPending_inv rfl

/-- **Main result: a pop alone.** It returns, and does to the records, what `emitPendingPop`
says. -/
theorem emitPendingPop_alone (hM : Shows (M.view P) R) (hI : PendingInv R.ctx.pending)
    (htask : R.task.kaddr ≠ 0) (hx27 : P.x27 = R.task.kaddr) (terminalReply : Bool) :
    let r := (Asm.emitPendingPop terminalReply K.kaddr P.x23 P.x27).alone M
    r.1 = R.popped (R.lock == 0) terminalReply ∧
      Shows (r.2.view P) (R.pop (R.lock == 0) terminalReply) ∧ M.SameElsewhere P r.2 := by
  obtain ⟨⟨hpopped, hshows⟩, hon⟩ :=
    Asm.emitPendingPop_takes hI htask hx27 terminalReply _ hM M rfl
  exact ⟨hpopped, hshows, hon.sameElsewhere⟩

/-- A thread pops the request that it pushed. -/
theorem emitPendingPop_alone_pushed :
    let K : ContextAddress := ⟨0x1000, by decide⟩
    let P : Workspace K :=
      ⟨⟨0x100000, 7, 0x200000, by decide⟩, ⟨8, 12⟩, by decide, by decide, by decide, by decide,
        by decide⟩
    let R : Records := ⟨⟨0x200000, 0, 0⟩, .zero, .zero, 0⟩
    let M := ((Asm.emitPendingPush P.offsets K.kaddr P.x23 P.x26 P.x27).alone fun _ => 0).2
    let r := (Asm.emitPendingPop false K.kaddr P.x23 P.x27).alone M
    r.1 = ⟨7, 0⟩ ∧ Shows (r.2.view P) ((R.push true 7).pop true false) ∧
      M.SameElsewhere P r.2 := by
  intro K P R M r
  have hpush := Asm.emitPendingPush_takes (P := P) (R := R) emptyPending_inv rfl _
    (contextShows_zero.shows (outsideShows_zero P _)) _ rfl
  have hI : PendingInv (R.push true 7).ctx.pending := by
    have hpending := emitPendingPush_pending R.task true 7 R.scratch R.ctx
    have hsync : (R.scratch.transaction.oneWay || !true) = false := by decide
    rw [hsync] at hpending
    rw [Records.push, hpending]
    exact (pushTable_refines (t := R.task) emptyPending_inv (by decide)).1
  have hpop := emitPendingPop_alone hpush.1.2 hI (by decide) rfl false
  have hpopped : (R.push true 7).popped true false = ⟨7, 0⟩ := by decide
  exact ⟨hpop.1.trans hpopped, hpop.2⟩

end

end Drmid
