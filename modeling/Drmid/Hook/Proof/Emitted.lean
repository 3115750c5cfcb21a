import Drmid.Hook.Emitted

/-!
# The pending lock

`Asm.emitPendingPush` and `Asm.emitPendingPop` take the lock at most once, give it back if they took
it, and touch the pending table in between only, whatever their loads find
(`Block.code_obeys`). So each access of a handler is a move of a lock (`LockMove`), and
`pending_lock_discipline` follows for every interleaving.
-/

namespace Drmid

open Lib

/-! ## Addresses -/

section
variable {a b x y : UInt64} {n m k l : Nat}

theorem meets_iff (hn : 0 < n) (hm : 0 < m) :
    meets a n b m = true ↔ ∃ x, (x - a).toNat < n ∧ (x - b).toNat < m := by
  rw [meets, Bool.or_eq_true, decide_eq_true_eq, decide_eq_true_eq]
  constructor
  · rintro (h | h)
    · exact ⟨b, h, by simpa using hm⟩
    · exact ⟨a, by simpa using hn, h⟩
  · rintro ⟨x, ha, hb⟩
    have := a.toNat_lt
    have := b.toNat_lt
    have := x.toNat_lt
    rw [UInt64.toNat_sub] at ha hb ⊢
    rw [UInt64.toNat_sub]
    omega

theorem meets_comm : meets a n b m = meets b m a n := Bool.or_comm _ _

/-- A part of a range meets only what the range meets. -/
theorem meets_part (h : meets a n b m = false) (hpart : k + l ≤ n) (hl : 0 < l) (hm : 0 < m)
    (hn : n ≤ 2 ^ 64) : meets (a + UInt64.ofNat k) l b m = false := by
  rw [← Bool.not_eq_true, meets_iff (by omega) hm] at h
  rw [← Bool.not_eq_true, meets_iff hl hm]
  rintro ⟨x, hx, hb⟩
  refine h ⟨x, ?_, hb⟩
  have := a.toNat_lt
  have := x.toNat_lt
  rw [UInt64.toNat_sub, UInt64.toNat_add, UInt64.toNat_ofNat'] at hx
  rw [UInt64.toNat_sub]
  omega

/-- Members of one context meet where their offsets do. -/
theorem meets_member : meets (a + x) n (a + y) m = meets x n y m := by
  have hsub (u v : UInt64) : a + u - (a + v) = u - v := by
    apply UInt64.toNat_inj.1
    have := a.toNat_lt
    have := u.toNat_lt
    have := v.toNat_lt
    rw [UInt64.toNat_sub, UInt64.toNat_sub, UInt64.toNat_add, UInt64.toNat_add]
    omega
  rw [meets, meets, hsub, hsub]

end

namespace ContextAddress

def IsSlot (K : ContextAddress) (x : UInt64) : Prop := ∃ i < 256, x = K.slot i

section
variable {K : ContextAddress} {x off : UInt64} {n : Nat}

theorem slot_succ (i : Nat) : K.slot i + sizeofBinderPendingSlot = K.slot (i + 1) := by
  rw [slot, slot, UInt64.add_assoc, sizeofBinderPendingSlot, Nat.mul_succ, UInt64.ofNat_add]
  rfl

theorem bucket_lt (x27 : UInt64) : (x27 >>> 6 &&& 31).toNat < 32 := by
  rw [UInt64.toNat_and]
  exact Nat.lt_succ_of_le Nat.and_le_right

/-- The bucket of a task starts at one of the 32 slots that are multiples of eight. -/
theorem bucketAddress_eq (x27 : UInt64) :
    Asm.bucketAddress K.kaddr x27 = K.slot (8 * (x27 >>> 6 &&& 31).toNat) := by
  rw [Asm.bucketAddress, slot, pending]
  congr 1
  have hb := bucket_lt x27
  generalize x27 >>> 6 &&& 31 = y at hb ⊢
  apply UInt64.toNat_inj.1
  have hshift : (y <<< 3).toNat = y.toNat * 8 := by
    rw [UInt64.toNat_shiftLeft, Nat.shiftLeft_eq]
    have hthree : (3 : UInt64).toNat % 64 = 3 := rfl
    rw [hthree]
    omega
  rw [UInt64.toNat_mul, hshift, UInt64.toNat_ofNat']
  have hsize : sizeofBinderPendingSlot.toNat = 216 := rfl
  rw [hsize]
  omega

/-- No slot is at address zero, which the scan takes for none. -/
theorem IsSlot.ne_zero (h : K.IsSlot x) : x ≠ 0 := by
  obtain ⟨i, hi, rfl⟩ := h
  intro h0
  have hK := K.fits
  have hnat : (K.slot i).toNat = 0 := congrArg UInt64.toNat h0
  rw [slot, pending, UInt64.toNat_add, UInt64.toNat_add, UInt64.toNat_ofNat'] at hnat
  have hoff : offsetofPending.toNat = 41456 := rfl
  unfold kContextBytes at hK
  rw [hoff, Nat.mod_eq_of_lt (by omega : K.kaddr.toNat + 41456 < 2 ^ 64),
    Nat.mod_eq_of_lt (by omega : 216 * i < 2 ^ 64),
    Nat.mod_eq_of_lt (by omega : K.kaddr.toNat + 41456 + 216 * i < 2 ^ 64)] at hnat
  omega

theorem pending_clear : meets K.pending kPendingBytes K.lock 8 = false := by
  rw [pending, lock, meets_member]
  decide

/-- A member of a slot is not in the lock word. -/
theorem IsSlot.clear (h : K.IsSlot x) (hoff : off.toNat + n ≤ 216) (hn : 0 < n) :
    meets (x + off) n K.lock 8 = false := by
  obtain ⟨i, hi, rfl⟩ := h
  have hpart := meets_part (k := 216 * i + off.toNat) (l := n) K.pending_clear
    (by unfold kPendingBytes; omega) hn (by decide) (by decide)
  rwa [UInt64.ofNat_add, UInt64.ofNat_toNat, ← UInt64.add_assoc] at hpart

/-- Nor is a member of one of its frames. -/
theorem IsSlot.frame_clear (h : K.IsSlot x) {index : UInt32} (hindex : ¬kPendingDepth ≤ index)
    (hoff : off.toNat + n ≤ 48) (hn : 0 < n) :
    meets (Asm.frameAddress x index + off) n K.lock 8 = false := by
  have hlt : index.toNat < 4 := by
    rw [UInt32.not_le] at hindex
    exact UInt32.lt_iff_toNat_lt.1 hindex
  rw [Asm.frameAddress, UInt64.add_assoc]
  refine h.clear ?_ hn
  rw [UInt64.toNat_add, UInt64.toNat_add, UInt64.toNat_mul, UInt32.toNat_toUInt64]
  have hsize : sizeofBinderPendingFrame.toNat = 48 := rfl
  have hframes : BinderPendingSlot.offsetofFrames.toNat = 24 := rfl
  rw [hsize, hframes, Nat.mod_eq_of_lt (by omega : index.toNat * 48 < 2 ^ 64),
    Nat.mod_eq_of_lt (by omega : index.toNat * 48 + 24 < 2 ^ 64),
    Nat.mod_eq_of_lt (by omega : index.toNat * 48 + 24 + off.toNat < 2 ^ 64)]
  omega

end

end ContextAddress

/-! ## What a block may do -/

theorem ne_lock_of_meets {K : ContextAddress} {a : UInt64} (h : meets a 8 K.lock 8 = false) :
    a ≠ K.lock := by
  rintro rfl
  have hself : meets K.lock 8 K.lock 8 = true := by simp [meets]
  exact Bool.false_ne_true (h.symm.trans hself)

/-- An access that keeps to the lock: the lock is tried at most eight times, taken at most once and
where it was seen free, and given back once. No other store touches the lock word. -/
def Access.Keeps (K : ContextAddress) (t : Tally) : Access → Prop
  | .ldaxr a => a = K.lock ∧ t.attempts < kMapLockTryCount
  | .stxr v a => a = K.lock ∧ v = 1 ∧ t.seen = some 0 ∧ t.acquires = 0 ∧ t.releases = 0
  | .stlr v a =>
    (a = K.lock ∧ v = 0 ∧ t.acquires = 1 ∧ t.releases = 0) ∨ meets a 8 K.lock 8 = false
  | .str _ a n => meets a n K.lock 8 = false
  | .ldaddal _ a => meets a 8 K.lock 8 = false
  | .ldr .. | .clrex => True

/-- The pending table is touched inside only. -/
structure Access.Lawful (K : ContextAddress) (c : Access) (t : Tally) : Prop where
  keeps : c.Keeps K t
  table : c.touches K.pending kPendingBytes = true → t.acquires = 1 ∧ t.releases = 0

/-- A block with a tally, whatever is loaded. -/
abbrev Asm.Obeys {α : Type} (K : ContextAddress) (p : Asm α) (Q : α → Tally → Prop)
    (t : Tally) : Prop :=
  Prog.Obeys (Tally.note K) (Access.Lawful K) Q p t

/-! ### Inside -/

/-- A tally between label `acquired` and the release. -/
structure Tally.Held (t : Tally) : Prop where
  acquires : t.acquires = 1
  releases : t.releases = 0
  drops : t.drops = 0
  attempts : t.attempts ≤ kMapLockTryCount

/-- A tally before label `acquired`. -/
structure Tally.Outside (t : Tally) (attempts drops : Nat) : Prop where
  acquires : t.acquires = 0
  releases : t.releases = 0
  table : t.table = false
  attempts : t.attempts = attempts
  drops : t.drops = drops

/-- A tally after the release. -/
structure Tally.Released (t : Tally) : Prop where
  acquires : t.acquires = 1
  releases : t.releases = 1
  drops : t.drops = 0
  attempts : t.attempts ≤ kMapLockTryCount

/-- An access that has nothing to do with the lock. -/
def Access.Clear (K : ContextAddress) : Access → Prop
  | .ldr .. | .clrex => True
  | .str _ a n => meets a n K.lock 8 = false
  | .stlr _ a => meets a 8 K.lock 8 = false
  | .ldaddal _ a => meets a 8 K.lock 8 = false ∧ a ≠ K.drops
  | .ldaxr _ | .stxr .. => False

namespace Access.Clear

variable {K : ContextAddress} {c : Access} {t : Tally} {attempts drops : Nat}

theorem keeps (h : c.Clear K) (t : Tally) : c.Keeps K t := by
  cases c with
  | ldr a n | clrex => trivial
  | str v a n => exact h
  | stlr v a => exact .inr h
  | ldaddal v a => exact h.1
  | ldaxr a | stxr v a => exact h.elim

/-- It counts as nothing but, perhaps, as a load or an access to the table. -/
theorem note_eq (h : c.Clear K) (t : Tally) (r : UInt64) : ∃ seen loaded, t.note K c r =
    { t with
      seen := seen
      table := t.table || c.touches K.pending kPendingBytes
      loaded := loaded } := by
  cases c with
  | ldr a n => exact ⟨t.seen, some (a, r), rfl⟩
  | str v a n => exact ⟨t.seen, t.loaded, rfl⟩
  | clrex => exact ⟨none, t.loaded, rfl⟩
  | stlr v a =>
    have hne : a ≠ K.lock := ne_lock_of_meets h
    exact ⟨t.seen, t.loaded, by simp only [Tally.note, if_neg hne]⟩
  | ldaddal v a => exact ⟨t.seen, t.loaded, by simp only [Tally.note, if_neg h.2]⟩
  | ldaxr a | stxr v a => exact h.elim

theorem held (h : c.Clear K) (ht : t.Held) (r : UInt64) : (t.note K c r).Held := by
  obtain ⟨seen, loaded, hnote⟩ := h.note_eq t r
  rw [hnote]
  exact ⟨ht.acquires, ht.releases, ht.drops, ht.attempts⟩

theorem outside (h : c.Clear K) (ht : t.Outside attempts drops)
    (htable : c.touches K.pending kPendingBytes = false) (r : UInt64) :
    (t.note K c r).Outside attempts drops := by
  obtain ⟨seen, loaded, hnote⟩ := h.note_eq t r
  rw [hnote, htable, Bool.or_false]
  exact ⟨ht.acquires, ht.releases, ht.table, ht.attempts, ht.drops⟩

/-- A counter other than `pending_lock_drops`. -/
theorem counter {off : UInt64} (hlock : meets off 8 offsetofPendingLockState 8 = false)
    (hdrops : off ≠ offsetofPendingLockDrops) : (Access.ldaddal 1 (K.kaddr + off)).Clear K := by
  refine ⟨?_, fun h => hdrops ((UInt64.add_right_inj _).1 h)⟩
  rw [ContextAddress.lock, meets_member]
  exact hlock

end Access.Clear

/-- Code that runs inside and stays there. -/
def Asm.Inside {α : Type} (K : ContextAddress) (p : Asm α) (Q : α → Prop) : Prop :=
  ∀ t : Tally, t.Held → p.Obeys K (fun a t' => Q a ∧ t'.Held) t

namespace Asm

section
variable {α β : Type} {K : ContextAddress} {Q : β → Prop} {P : α → Prop}

theorem inside_pure {b : β} (h : Q b) : Inside K (pure b) Q := fun _ ht => ⟨h, ht⟩

theorem Inside.bind {p : Asm α} {f : α → Asm β} (hp : Inside K p P)
    (hf : ∀ a, P a → Inside K (f a) Q) : Inside K (p >>= f) Q := by
  intro t ht
  rw [Obeys, Prog.obeys_bind]
  exact (hp t ht).mono fun a t' h => hf a h.1 t' h.2

theorem Inside.seq {p : Asm Unit} {q : Asm β} (hp : Inside K p fun _ => True)
    (hq : Inside K q Q) : Inside K (do p; q) Q :=
  hp.bind fun _ _ => hq

end

section
variable {K : ContextAddress} {v a x off : UInt64} {n : Nat}

theorem perform_inside {c : Access} (hc : c.Clear K) :
    Inside K (Prog.perform c) fun _ => True :=
  fun t ht => ⟨⟨hc.keeps t, fun _ => ⟨ht.acquires, ht.releases⟩⟩,
    fun r => ⟨trivial, hc.held ht r⟩⟩

theorem ldrX_inside : Inside K (ldrX a) fun _ => True := perform_inside trivial

theorem ldrW_inside : Inside K (ldrW a) fun _ => True :=
  (perform_inside (c := .ldr a 4) trivial).bind fun _ _ => inside_pure trivial

theorem strX_inside (h : meets a 8 K.lock 8 = false) : Inside K (strX v a) fun _ => True :=
  (perform_inside (c := .str v a 8) h).bind fun _ _ => inside_pure trivial

theorem strW_inside {v : UInt32} (h : meets a 4 K.lock 8 = false) :
    Inside K (strW v a) fun _ => True :=
  (perform_inside (c := .str v.toUInt64 a 4) h).bind fun _ _ => inside_pure trivial

theorem emitCounterIncrement_inside (hlock : meets off 8 offsetofPendingLockState 8 = false)
    (hdrops : off ≠ offsetofPendingLockDrops) :
    Inside K (emitCounterIncrement K.kaddr off) fun _ => True :=
  (perform_inside (.counter hlock hdrops)).bind fun _ _ => inside_pure trivial

/-- The scratch is no part of the context. -/
theorem scratch_clear (r : Registers K) {off : UInt64} {n : Nat}
    (hoff : off.toNat + n ≤ kParserScratchBytes) (hn : 0 < n) :
    meets (r.x23 + off) n K.kaddr kContextBytes = false := by
  have hpart := meets_part (k := off.toNat) (l := n) r.apart hoff hn (by decide) (by decide)
  rwa [UInt64.ofNat_toNat] at hpart

/-- What is in no byte of the context is not in one of its members. -/
theorem member_clear (h : meets a n K.kaddr kContextBytes = false) (hn : 0 < n) {off : UInt64}
    {m : Nat} (hoff : off.toNat + m ≤ kContextBytes) (hm : 0 < m) :
    meets a n (K.kaddr + off) m = false := by
  rw [meets_comm] at h ⊢
  have hpart := meets_part (k := off.toNat) (l := m) h hoff hm hn (by decide)
  rwa [UInt64.ofNat_toNat] at hpart

theorem emitCaptureActiveHalGeneration_inside (r : Registers K) :
    Inside K (emitCaptureActiveHalGeneration K.kaddr r.x23) fun _ => True := by
  refine ldrW_inside.bind fun w10 _ => ldrX_inside.bind fun x11 _ => strX_inside ?_
  exact member_clear (scratch_clear r (by decide) (by decide)) (by decide) (by decide) (by decide)

/-! ### Push -/

theorem loadTopEventId_inside (x15 : UInt64) (w11 : UInt32) :
    Inside K (loadTopEventId x15 w11) fun _ => True := by
  unfold loadTopEventId
  split
  · exact inside_pure trivial
  · exact ldrX_inside

/-- What the scan hands on is a slot, also when no slot was free. -/
def ScanEnd.Ok (K : ContextAddress) : ScanEnd → Prop
  | .found x15 | .reclaimIdentity x15 => K.IsSlot x15
  | .scanned x14 x10 => K.IsSlot (if x14 = 0 then x10 else x14)

/-- The scan, with one slot chosen before it unless a way is left. -/
theorem pushWays_inside (t : TaskIdentityOffsets) (x27 : UInt64) :
    ∀ (ways i : Nat) (x14 x10 x17 : UInt64), i + ways ≤ 256 → (x14 ≠ 0 → K.IsSlot x14) →
      (x10 ≠ 0 → K.IsSlot x10) → (x14 ≠ 0 ∨ x10 ≠ 0 ∨ 0 < ways) →
      Inside K (pushWays t x27 ways (K.slot i) x14 x10 x17) (ScanEnd.Ok K)
  | 0, i, x14, x10, x17, _, h14, h10, hsome => by
    refine inside_pure ?_
    change K.IsSlot (if x14 = 0 then x10 else x14)
    split
    · rename_i h0
      exact h10 (by simpa [h0] using hsome)
    · rename_i h0
      exact h14 h0
  | ways + 1, i, x14, x10, x17, hi, h14, h10, hsome => by
    have hslot : K.IsSlot (K.slot i) := ⟨i, by omega, rfl⟩
    have hnext (x14 x10 x17 : UInt64) (h14 : x14 ≠ 0 → K.IsSlot x14)
        (h10 : x10 ≠ 0 → K.IsSlot x10) (hsome : x14 ≠ 0 ∨ x10 ≠ 0) :
        Inside K (pushWays t x27 ways (K.slot i + sizeofBinderPendingSlot) x14 x10 x17)
          (ScanEnd.Ok K) := by
      rw [ContextAddress.slot_succ]
      exact pushWays_inside t x27 ways (i + 1) x14 x10 x17 (by omega) h14 h10
        (hsome.imp_right .inl)
    refine ldrX_inside.bind fun x16 _ => ?_
    split
    · refine hnext _ _ _ (fun h => ?_) h10 (.inl ?_)
      · split
        · exact hslot
        · rename_i h0
          exact h14 h0
      · split
        · exact hslot.ne_zero
        · assumption
    · split
      · refine ldrW_inside.bind fun w12 _ => ldrW_inside.bind fun w11 _ => ?_
        split
        · exact inside_pure hslot
        · refine ldrW_inside.bind fun w12 _ => ldrW_inside.bind fun w11 _ => ?_
          split
          · exact inside_pure hslot
          · exact inside_pure hslot
      · refine ldrW_inside.bind fun w11 _ => ?_
        refine (loadTopEventId_inside _ w11).bind fun x9 _ => ?_
        split
        · exact hnext _ _ _ h14 (fun _ => hslot) (.inr hslot.ne_zero)
        · rename_i hkeep
          exact hnext _ _ _ h14 h10 (.inr fun h0 => hkeep (.inr (.inl h0)))

theorem claimSlot_inside (t : TaskIdentityOffsets) (x27 : UInt64) (hx : K.IsSlot x) :
    Inside K (claimSlot t x27 x) fun _ => True := by
  refine (strX_inside (hx.clear (by decide) (by decide))).seq ?_
  refine ldrW_inside.bind fun w11 _ => ?_
  refine (strW_inside (hx.clear (by decide) (by decide))).seq ?_
  refine ldrW_inside.bind fun w12 _ => ?_
  refine (strW_inside (hx.clear (by decide) (by decide))).seq ?_
  exact strW_inside (hx.clear (by decide) (by decide))

theorem pushFrame_inside (r : Registers K) (hx : K.IsSlot x) :
    Inside K (pushFrame K.kaddr r.x23 r.x26 x) fun _ => True := by
  refine ldrW_inside.bind fun w13 _ => ?_
  split
  · exact emitCounterIncrement_inside (by decide) (by decide)
  · rename_i hroom
    have hframe {off : UInt64} {n : Nat} (hoff : off.toNat + n ≤ 48) (hn : 0 < n) :=
      hx.frame_clear hroom hoff hn
    refine (strX_inside (hframe (by decide) (by decide))).seq ?_
    refine ldrX_inside.bind fun target _ => ?_
    refine (strX_inside (hframe (by decide) (by decide))).seq ?_
    refine ldrX_inside.bind fun dataSize _ => ?_
    refine (strX_inside (hframe (by decide) (by decide))).seq ?_
    refine (emitCaptureActiveHalGeneration_inside r).seq ?_
    refine ldrX_inside.bind fun generation _ => ?_
    refine (strX_inside (hframe (by decide) (by decide))).seq ?_
    refine ldrW_inside.bind fun code _ => ?_
    refine (strW_inside (hframe (by decide) (by decide))).seq ?_
    refine ldrW_inside.bind fun flags _ => ?_
    refine (strW_inside (hframe (by decide) (by decide))).seq ?_
    refine ldrW_inside.bind fun parcelFlags _ => ?_
    refine (strW_inside (hframe (by decide) (by decide))).seq ?_
    refine (strW_inside (hframe (by decide) (by decide))).seq ?_
    refine (strW_inside (hx.clear (by decide) (by decide))).seq ?_
    exact emitCounterIncrement_inside (by decide) (by decide)

theorem pushSection_inside (t : TaskIdentityOffsets) (r : Registers K) :
    Inside K (pushSection t K.kaddr r.x23 r.x26 r.x27) fun _ => True := by
  have hb := ContextAddress.bucket_lt r.x27
  have hscan := pushWays_inside (K := K) t r.x27 kPendingBucketWays
    (8 * (r.x27 >>> 6 &&& 31).toNat) 0 0 0xffffffffffffffff
    (by unfold kPendingBucketWays; omega) (fun h => (h rfl).elim) (fun h => (h rfl).elim)
    (.inr (.inr (by decide)))
  have hcollision : Inside K (emitCounterIncrement K.kaddr offsetofPendingCollisions)
      fun _ => True := emitCounterIncrement_inside (by decide) (by decide)
  unfold pushSection
  rw [ContextAddress.bucketAddress_eq]
  refine hscan.bind fun scan hok => ?_
  cases scan with
  | found x15 => exact pushFrame_inside r hok
  | reclaimIdentity x15 =>
    exact hcollision.seq ((claimSlot_inside t r.x27 hok).seq (pushFrame_inside r hok))
  | scanned x14 x10 =>
    simp only [ScanEnd.Ok] at hok
    simp only
    split
    · rename_i h0
      rw [if_pos h0] at hok
      exact hcollision.seq ((claimSlot_inside t r.x27 hok).seq (pushFrame_inside r hok))
    · rename_i h0
      rw [if_neg h0] at hok
      exact (claimSlot_inside t r.x27 hok).seq (pushFrame_inside r hok)

/-! ### Pop -/

theorem popWays_inside (x27 : UInt64) : ∀ ways i, i + ways ≤ 256 →
    Inside K (popWays x27 ways (K.slot i)) fun x15 => ∀ x ∈ x15, K.IsSlot x
  | 0, _, _ => inside_pure fun _ h => (by cases h)
  | ways + 1, i, hi => by
    refine ldrX_inside.bind fun x16 _ => ?_
    split
    · refine inside_pure fun x hx => ?_
      cases hx
      exact ⟨i, by omega, rfl⟩
    · rw [ContextAddress.slot_succ]
      exact popWays_inside x27 ways (i + 1) (by omega)

theorem popMiss_inside : Inside K (popMiss K.kaddr) fun _ => True :=
  (emitCounterIncrement_inside (by decide) (by decide)).seq (inside_pure trivial)

theorem checkGeneration_inside (x9 x10 : UInt64) (popped : Popped) :
    Inside K (checkGeneration K.kaddr x9 x10 popped) fun _ => True := by
  unfold checkGeneration
  split
  · exact inside_pure trivial
  · exact (emitCounterIncrement_inside (by decide) (by decide)).seq (inside_pure trivial)

theorem popFrame_inside (r : Registers K) (w13 : UInt32) (hx : K.IsSlot x) :
    Inside K (popFrame K.kaddr r.x23 x w13) fun _ => True := by
  refine (strW_inside (hx.clear (by decide) (by decide))).seq ?_
  refine ldrX_inside.bind fun x21 _ => ldrW_inside.bind fun w17 _ => ?_
  refine (emitCaptureActiveHalGeneration_inside r).seq ?_
  refine ldrX_inside.bind fun x9 _ => ldrX_inside.bind fun x10 _ => ?_
  refine (checkGeneration_inside x9 x10 _).bind fun popped _ => ?_
  split
  · refine Inside.seq ?_ (inside_pure trivial)
    have hfree : meets (x + 0) 8 K.lock 8 = false := hx.clear (by decide) (by decide)
    rw [UInt64.add_zero] at hfree
    exact (perform_inside (c := .stlr 0 x) hfree).bind fun _ _ => inside_pure trivial
  · exact inside_pure trivial

theorem popSection_inside (r : Registers K) :
    Inside K (popSection K.kaddr r.x23 r.x27) fun _ => True := by
  have hb := ContextAddress.bucket_lt r.x27
  have hscan := popWays_inside (K := K) r.x27 kPendingBucketWays (8 * (r.x27 >>> 6 &&& 31).toNat)
    (by unfold kPendingBucketWays; omega)
  unfold popSection
  rw [ContextAddress.bucketAddress_eq]
  refine hscan.bind fun x15 hslot => ?_
  cases x15 with
  | none => exact popMiss_inside
  | some x15 =>
    refine ldrW_inside.bind fun w13 _ => ?_
    split
    · exact popMiss_inside
    · exact popFrame_inside r w13 (hslot x15 rfl)

theorem countPop_inside (terminalReply : Bool) (x21 : UInt64) :
    Inside K (countPop terminalReply K.kaddr x21) fun _ => True := by
  unfold countPop
  split
  · exact inside_pure trivial
  · cases terminalReply with
    | true => exact emitCounterIncrement_inside (by decide) (by decide)
    | false => exact emitCounterIncrement_inside (by decide) (by decide)

end

/-! ### Outside -/

section
variable {K : ContextAddress} {off : UInt64} {t : Tally} {attempts drops : Nat}

/-- A member of the context that is not in the table. -/
theorem lawful_member {c : Access} (hkeeps : c.Keeps K t)
    (htable : c.touches K.pending kPendingBytes = false) : c.Lawful K t :=
  ⟨hkeeps, fun h => absurd (htable.symm.trans h) Bool.false_ne_true⟩

theorem lock_not_table : meets K.lock 8 K.pending kPendingBytes = false := by
  rw [meets_comm]
  exact K.pending_clear

theorem perform_outside {c : Access} (hc : c.Clear K)
    (htable : c.touches K.pending kPendingBytes = false) (ht : t.Outside attempts drops) :
    Obeys K (Prog.perform c) (fun _ t' => t'.Outside attempts drops) t :=
  ⟨lawful_member (hc.keeps t) htable, fun r => hc.outside ht htable r⟩

theorem emitCounterIncrement_outside (ht : t.Outside attempts drops)
    (hlock : meets off 8 offsetofPendingLockState 8 = false)
    (htable : meets off 8 offsetofPending kPendingBytes = false)
    (hdrops : off ≠ offsetofPendingLockDrops) :
    (emitCounterIncrement K.kaddr off).Obeys K
      (fun _ t' => t'.Outside attempts drops ∧ t'.loaded = t.loaded) t := by
  have hquiet : meets (K.kaddr + off) 8 K.pending kPendingBytes = false := by
    rw [ContextAddress.pending, meets_member]
    exact htable
  have hclear : (Access.ldaddal 1 (K.kaddr + off)).Clear K := .counter hlock hdrops
  have hloaded (r : UInt64) : (t.note K (.ldaddal 1 (K.kaddr + off)) r).loaded = t.loaded := by
    simp only [Tally.note]
    split <;> rfl
  rw [Obeys, emitCounterIncrement, emitAtomicIncrement, Prog.obeys_bind]
  exact ⟨lawful_member (hclear.keeps t) hquiet, fun r => ⟨hclear.outside ht hquiet r, hloaded r⟩⟩

/-- A load of the scratch is noted. -/
theorem ldrW_outside (ht : t.Outside attempts drops) {a : UInt64}
    (htable : meets a 4 K.pending kPendingBytes = false) :
    (ldrW a).Obeys K (fun w t' => t'.Outside attempts drops ∧
      ∃ v, t'.loaded = some (a, v) ∧ w = v.toUInt32) t := by
  have hclear : (Access.ldr a 4).Clear K := trivial
  rw [Obeys, ldrW, Prog.obeys_bind]
  exact ⟨lawful_member (hclear.keeps t) htable,
    fun r => ⟨hclear.outside ht htable r, r, rfl, rfl⟩⟩

/-- The increment at the end of a failed acquire. -/
theorem emitDrop_outside (ht : t.Outside attempts drops) :
    (emitCounterIncrement K.kaddr offsetofPendingLockDrops).Obeys K
      (fun _ t' => t'.Outside attempts (drops + 1)) t := by
  have hquiet : meets K.drops 8 K.pending kPendingBytes = false := by
    rw [ContextAddress.drops, ContextAddress.pending, meets_member]
    decide
  have hkeeps : meets K.drops 8 K.lock 8 = false := by
    rw [ContextAddress.drops, ContextAddress.lock, meets_member]
    decide
  refine ⟨lawful_member hkeeps hquiet, fun r => ?_⟩
  obtain ⟨hacquires, hreleases, hclean, hattempts, hcount⟩ := ht
  change Tally.Outside (t.note K (.ldaddal 1 K.drops) r) attempts (drops + 1)
  refine ⟨?_, ?_, ?_, ?_, ?_⟩ <;> simp [Tally.note, Access.touches, *]

/-- What the load-exclusive found is what the store-exclusive relies on. -/
theorem tryAcquire_obeys (ht : t.Outside attempts 0) (hleft : attempts < kMapLockTryCount) :
    (tryAcquire K.lock).Obeys K
      (fun ok t' => if ok then t'.Held else t'.Outside (attempts + 1) 0) t := by
  obtain ⟨hacquires, hreleases, hclean, hattempts, hdrops⟩ := ht
  have hquiet := lock_not_table (K := K)
  refine ⟨lawful_member ⟨rfl, by omega⟩ hquiet, fun x12 => ?_⟩
  have hloaded : t.note K (.ldaxr K.lock) x12 =
      { t with seen := some x12, attempts := attempts + 1 } := by
    simp [Tally.note, Access.touches, *]
  rw [hloaded]
  change Obeys K (if x12 = 0 then stxr 1 K.lock >>= fun w13 => pure (w13 == 0) else pure false) _ _
  split
  · rename_i hfree
    refine ⟨lawful_member ⟨rfl, rfl, by rw [hfree], hacquires, hreleases⟩ hquiet, fun w13 => ?_⟩
    change if (w13 == 0) = true then Tally.Held _ else Tally.Outside _ _ _
    split
    · rename_i hok
      refine ⟨?_, ?_, ?_, ?_⟩
      · simp [Tally.note, beq_iff_eq.1 hok, hacquires]
      · simp [Tally.note, beq_iff_eq.1 hok, hreleases]
      · simp [Tally.note, beq_iff_eq.1 hok, hdrops]
      · simpa [Tally.note, beq_iff_eq.1 hok] using Nat.succ_le_of_lt hleft
    · rename_i hfail
      have hne : w13 ≠ 0 := by simpa using hfail
      refine ⟨?_, ?_, ?_, ?_, ?_⟩ <;> simp [Tally.note, Access.touches, *]
  · exact ⟨hacquires, hreleases, hclean, rfl, hdrops⟩

/-- The loop, with `n` tries left. -/
theorem retryAcquire_obeys : ∀ (n : Nat) {attempts : Nat} {t : Tally}, t.Outside attempts 0 →
    attempts + n = kMapLockTryCount → (retryAcquire K.lock n).Obeys K
      (fun ok t' => if ok then t'.Held else t'.Outside kMapLockTryCount 0) t
  | 0, attempts, t, ht, hn => by
    have hall : attempts = kMapLockTryCount := hn
    exact hall ▸ ht
  | n + 1, attempts, t, ht, hn => by
    rw [Obeys, retryAcquire, Prog.obeys_bind]
    refine (tryAcquire_obeys ht (by omega)).mono fun ok t' h => ?_
    cases ok with
    | true => exact h
    | false =>
      have hnext : attempts + 1 + n = kMapLockTryCount := by omega
      have hcleared : Obeys K clrex (fun _ t'' => t''.Outside (attempts + 1) 0) t' :=
        perform_outside (c := .clrex) trivial rfl h
      simp only [Bool.false_eq_true, if_false]
      rw [Prog.obeys_bind]
      exact hcleared.mono fun _ t'' h' => retryAcquire_obeys n h' hnext

theorem emitPendingLockAcquire_obeys (ht : t.Outside 0 0) :
    (emitPendingLockAcquire K.kaddr).Obeys K
      (fun ok t' => if ok then t'.Held else t'.Outside kMapLockTryCount 1) t := by
  rw [Obeys, emitPendingLockAcquire, emitBoundedLockAcquire, Prog.obeys_bind]
  refine (retryAcquire_obeys kMapLockTryCount ht (Nat.zero_add _)).mono fun ok t' h => ?_
  cases ok with
  | true => exact h
  | false =>
    simp only [Bool.false_eq_true, if_false]
    rw [Prog.obeys_bind]
    exact (emitDrop_outside h).mono fun _ t'' h' => h'

theorem emitPendingLockRelease_obeys (ht : t.Held) :
    (emitPendingLockRelease K.kaddr).Obeys K (fun _ t' => t'.Released) t := by
  obtain ⟨hacquires, hreleases, hdrops, hattempts⟩ := ht
  refine ⟨lawful_member (.inl ⟨rfl, rfl, hacquires, hreleases⟩) lock_not_table, fun r => ?_⟩
  change Tally.Released (t.note K (.stlr 0 K.lock) r)
  refine ⟨?_, ?_, ?_, ?_⟩ <;> simp [Tally.note, *]

end

end Asm

/-- How a block ends, having left `r`. -/
inductive Block.Ends {K : ContextAddress} (b : Block K) (r : Option Asm.Popped) (t : Tally) : Prop
  | ignored (h : t.Outside 0 0)
      (hpush : ∃ offsets regs, b = .push offsets regs ∧ t.FoundOneWay regs)
  | failed (h : t.Outside kMapLockTryCount 1) (hr : r = b.nothing)
  | done (h : t.Released)

/-- A section, and what comes after it. -/
theorem Asm.Inside.andThen {α β : Type} {K : ContextAddress} {p : Asm α} {P : α → Prop}
    (hp : Inside K p P) (f : α → Asm β) {Q : β → Tally → Prop} {t : Tally} (ht : t.Held)
    (hf : ∀ a t', Tally.Held t' → (f a).Obeys K Q t') : (p >>= f).Obeys K Q t := by
  rw [Obeys, Prog.obeys_bind]
  exact (hp t ht).mono fun a t' h => hf a t' h.2

/-- **The spec of a block.** Whatever its loads find. -/
theorem Block.code_obeys {K : ContextAddress} (b : Block K) :
    b.code.Obeys K b.Ends .zero := by
  have hzero : Tally.zero.Outside 0 0 := ⟨rfl, rfl, rfl, rfl, rfl⟩
  cases b with
  | push offsets r =>
    rw [Asm.Obeys, Block.code, Prog.obeys_bind, Asm.emitPendingPush, Prog.obeys_bind]
    have htable : meets (r.x23 + (kTransactionScratchOffset + 20)) 4 K.pending kPendingBytes =
        false := Asm.member_clear (Asm.scratch_clear r (by decide) (by decide)) (by decide)
      (by decide) (by decide)
    refine (Asm.ldrW_outside hzero htable).mono fun w11 t hflags => ?_
    obtain ⟨ht, flags, hloaded, rfl⟩ := hflags
    split
    next honeway =>
      refine (Asm.emitCounterIncrement_outside ht (by decide) (by decide) (by decide)).mono
        fun _ t' h => .ignored h.1 ⟨offsets, r, rfl, flags, h.2.trans hloaded, honeway⟩
    · rw [Prog.obeys_bind]
      refine (Asm.emitPendingLockAcquire_obeys ht).mono fun ok t' h => ?_
      cases ok with
      | false => exact .failed h rfl
      | true =>
        refine (Asm.pushSection_inside offsets r).andThen _ h fun _ t'' h' => ?_
        exact (Asm.emitPendingLockRelease_obeys h').mono fun _ _ hdone => .done hdone
  | pop terminalReply r =>
    rw [Asm.Obeys, Block.code, Prog.obeys_bind, Asm.emitPendingPop, Prog.obeys_bind]
    refine (Asm.emitPendingLockAcquire_obeys hzero).mono fun ok t h => ?_
    cases ok with
    | false => exact .failed h rfl
    | true =>
      refine (Asm.popSection_inside r).andThen _ h fun popped t' h' => ?_
      refine (Asm.countPop_inside terminalReply popped.x21).andThen _ h' fun _ t'' h'' => ?_
      rw [Asm.Obeys, Prog.obeys_bind]
      exact (Asm.emitPendingLockRelease_obeys h'').mono fun _ _ hdone => .done hdone

/-! ## Steps -/

section
variable {K : ContextAddress} {W : ExclusiveWord UInt64} {m : Option Nat} {t : Tally}
  {c : Access}

theorem Access.stray_word (c : Access) (lock : UInt64) (o : Meeting) :
    c.stray lock o W = W ∨ ∃ v, c.stray lock o W = W.store v := by
  unfold stray
  split
  · exact .inr ⟨_, rfl⟩
  · exact .inl rfl

/-- What an access does to the word is nothing or a store. -/
theorem Access.exec_word (c : Access) (lock : UInt64) (o : Meeting) :
    (c.exec lock o W m).2.1 = W ∨ ∃ v, (c.exec lock o W m).2.1 = W.store v := by
  cases c with
  | ldr a n => exact (ldr a n).stray_word lock o
  | str v a n => exact (str v a n).stray_word lock o
  | ldaddal v a => exact (ldaddal v a).stray_word lock o
  | clrex => exact .inl rfl
  | ldaxr a =>
    simp only [exec]
    split <;> exact .inl rfl
  | stxr v a =>
    simp only [exec]
    split
    · split
      · exact .inr ⟨v, rfl⟩
      · exact .inl rfl
    · exact stray_word _ lock o
  | stlr v a =>
    simp only [exec]
    split
    · exact .inr ⟨v, rfl⟩
    · exact stray_word _ lock o

/-- What another handler knows survives. -/
theorem Access.exec_rely (c : Access) (lock : UInt64) (o : Meeting) {m' : Option Nat}
    {seen : Option UInt64} (h : W.Coherent m' seen) :
    (c.exec lock o W m).2.1.Coherent m' seen := by
  rcases c.exec_word lock o with heq | ⟨v, heq⟩
  · rw [heq]
    exact h
  · rw [heq]
    exact h.store v seen

/-- A handler knows what its last load-exclusive found. -/
theorem Access.exec_coherent (c : Access) (o : Meeting) (h : W.Coherent m t.seen) :
    (c.exec K.lock o W m).2.1.Coherent (c.exec K.lock o W m).2.2
      (t.note K c (c.exec K.lock o W m).1).seen := by
  have hstray {seen : Option UInt64} (heq : seen = t.seen) :
      (c.stray K.lock o W).Coherent m seen := by
    subst heq
    rcases c.stray_word K.lock o with heq | ⟨v, heq⟩
    · rw [heq]
      exact h
    · rw [heq]
      exact h.store v _
  cases c with
  | ldr a n | str v a n => exact hstray rfl
  | ldaddal v a =>
    refine hstray ?_
    simp only [Tally.note]
    split <;> rfl
  | clrex => exact .clear
  | ldaxr a =>
    by_cases ha : a = K.lock
    · simp only [exec, if_pos ha, Tally.note]
      exact .load
    · simp only [exec, if_neg ha]
      exact .clear
  | stxr v a =>
    simp only [exec]
    split
    · split <;> exact .clear
    · exact .clear
  | stlr v a =>
    by_cases ha : a = K.lock
    · simp only [exec, if_pos ha, Tally.note]
      exact h.store v _
    · simp only [exec, if_neg ha, Tally.note]
      exact hstray rfl

/-- A store that keeps off the lock word leaves it. -/
theorem Access.stray_eq (o : Meeting) (h : c.touches K.lock 8 = false) :
    c.stray K.lock o W = W := by
  rw [stray, h, Bool.and_false]
  rfl

/-- **The step lemma.** An access that keeps to the lock is a move of a lock. -/
theorem Access.Keeps.lockMove (o : Meeting) (hc : c.Keeps K t) (h : W.Coherent m t.seen) :
    LockMove 0 1 W.word t.inside (c.exec K.lock o W m).2.1.word
      (t.note K c (c.exec K.lock o W m).1).inside := by
  cases c with
  | ldr a n | clrex => exact .stay
  | str v a n =>
    have hword : (exec K.lock o W m (str v a n)).2.1 = W := stray_eq o hc
    rw [hword]
    exact .stay
  | ldaddal v a =>
    have hword : (exec K.lock o W m (ldaddal v a)).2.1 = W := stray_eq o hc
    have hinside (r : UInt64) : (t.note K (ldaddal v a) r).inside = t.inside := by
      simp only [Tally.note]
      split <;> rfl
    rw [hword, hinside]
    exact .stay
  | ldaxr a =>
    obtain ⟨rfl, -⟩ := hc
    simp only [exec, if_true, Tally.note]
    exact .stay
  | stxr v a =>
    obtain ⟨rfl, rfl, hseen, hacquires, hreleases⟩ := hc
    by_cases hok : m = some W.stores ∧ o.spurious = false
    · have hfree : W.word = 0 := (Option.some.inj (hseen.symm.trans (h.current hok.1))).symm
      have hbefore : t.inside = false := by simp [Tally.inside, hacquires]
      have hafter : (t.note K (stxr 1 K.lock) 0).inside = true := by
        simp [Tally.note, Tally.inside, hacquires, hreleases]
      simp only [exec, if_pos hok, if_true, ExclusiveWord.store_word]
      rw [hfree, hbefore, hafter]
      exact .acquire
    · have hkept : (t.note K (stxr 1 K.lock) 1).inside = t.inside := by
        simp [Tally.note, Tally.inside]
      simp only [exec, if_neg hok, if_true]
      rw [hkept]
      exact .stay
  | stlr v a =>
    rcases hc with ⟨rfl, rfl, hacquires, hreleases⟩ | hoff
    · have hbefore : t.inside = true := by simp [Tally.inside, hacquires, hreleases]
      have hafter (r : UInt64) : (t.note K (stlr 0 K.lock) r).inside = false := by
        simp [Tally.note, Tally.inside, hacquires, hreleases]
      simp only [exec, if_true, ExclusiveWord.store_word]
      rw [hbefore, hafter]
      exact .release
    · have hne : a ≠ K.lock := ne_lock_of_meets hoff
      have hword : (stlr v a).stray K.lock o W = W := stray_eq o hoff
      simp only [exec, if_neg hne, Tally.note, hword]
      exact .stay

end

/-! ## Runs -/

/-- What holds of a tally at any time. -/
structure Tally.Ok (t : Tally) : Prop where
  attempts : t.attempts ≤ kMapLockTryCount
  table : t.table = true → t.acquires = 1

theorem Access.Lawful.note {K : ContextAddress} {c : Access} {t : Tally} (hc : c.Lawful K t)
    (ht : t.Ok) (r : UInt64) : (t.note K c r).Ok := by
  obtain ⟨hkeeps, htouch⟩ := hc
  have htable (h : (t.table || c.touches K.pending kPendingBytes) = true) : t.acquires = 1 := by
    rcases Bool.or_eq_true _ _ ▸ h with h | h
    · exact ht.table h
    · exact (htouch h).1
  cases c with
  | ldr a n | str v a n | clrex => exact ⟨ht.attempts, htable⟩
  | ldaddal v a =>
    simp only [Tally.note]
    split <;> exact ⟨ht.attempts, htable⟩
  | stlr v a =>
    simp only [Tally.note]
    split <;> exact ⟨ht.attempts, htable⟩
  | ldaxr a =>
    simp only [Tally.note]
    split
    · exact ⟨Nat.succ_le_of_lt hkeeps.2, htable⟩
    · exact ⟨ht.attempts, htable⟩
  | stxr v a =>
    simp only [Tally.note]
    split
    · refine ⟨ht.attempts, fun h => ?_⟩
      exact absurd (htable h) (by rw [hkeeps.2.2.2.1]; exact Nat.zero_ne_one)
    · exact ⟨ht.attempts, htable⟩

/-- What holds of a handler at any time. -/
structure Handler.Ok {K : ContextAddress} (W : ExclusiveWord UInt64) (h : Handler K) : Prop where
  coherent : W.Coherent h.monitor h.tally.seen
  obeys : h.rest.Obeys K h.block.Ends h.tally
  tally : h.tally.Ok

/-- The invariant of the system. -/
structure LockInv {K : ContextAddress} (S : Pool (ExclusiveWord UInt64) (Handler K)) : Prop where
  procs : ∀ h ∈ S.procs, h.Ok S.shared
  ledger : LockLedger 0 1 S.shared.word (S.total fun h => h.tally.inside.toNat)

section
variable {K : ContextAddress} {W : ExclusiveWord UInt64} {h : Handler K}

theorem Handler.Ok.spawn (W : ExclusiveWord UInt64) (b : Block K) :
    ((handlers K).spawn b).Ok W :=
  ⟨.clear, b.code_obeys, Nat.zero_le _, fun h => (by cases h)⟩

theorem Handler.Ok.act (hok : h.Ok W) (o : Meeting) :
    ((handlers K).act W h o).2.Ok ((handlers K).act W h o).1 := by
  obtain ⟨block, rest, m, t⟩ := h
  obtain ⟨hcoherent, hobeys, htally⟩ := hok
  cases rest with
  | ret r => exact ⟨hcoherent, hobeys, htally⟩
  | call c k => exact ⟨c.exec_coherent o hcoherent, hobeys.2 _, hobeys.1.note htally _⟩

theorem Handler.Ok.rely {h' : Handler K} (hok : h'.Ok W) (h : Handler K) (o : Meeting) :
    h'.Ok ((handlers K).act W h o).1 := by
  obtain ⟨block, rest, m, t⟩ := h
  cases rest with
  | ret r => exact hok
  | call c k => exact { hok with coherent := c.exec_rely K.lock o hok.coherent }

theorem Handler.Ok.lockMove (hok : h.Ok W) (o : Meeting) :
    LockMove 0 1 W.word h.tally.inside ((handlers K).act W h o).1.word
      ((handlers K).act W h o).2.tally.inside := by
  obtain ⟨block, rest, m, t⟩ := h
  obtain ⟨hcoherent, hobeys, -⟩ := hok
  cases rest with
  | ret r => exact .stay
  | call c k => exact hobeys.1.keeps.lockMove o hcoherent

/-- The step lemma of the system. -/
theorem LockInv.step {S : Pool (ExclusiveWord UInt64) (Handler K)} (hinv : LockInv S)
    (l : PoolLabel (Block K) Meeting Empty) : LockInv (S.step (handlers K) l) where
  procs := Pool.related_step hinv.procs l (Handler.Ok.spawn _) (fun o _ hok => hok.act o)
    (fun o h _ _ hok' => hok'.rely h o) (fun d => d.elim)
  ledger := by
    refine Pool.total_step (L := fun (W : ExclusiveWord UInt64) n => LockLedger 0 1 W.word n) l
      hinv.ledger (fun _ => rfl) (fun i o h n _ hi hledger => ?_) (fun d => d.elim)
    exact ((hinv.procs h (List.mem_of_getElem? hi)).lockMove o).ledger (by decide) hledger

theorem LockInv.init (K : ContextAddress) : LockInv (unlocked K) :=
  ⟨fun _ hmem => absurd hmem List.not_mem_nil, .inl ⟨rfl, rfl⟩⟩

end

/-- **Main result: the pending lock.** For every context and every interleaving of any number of
handlers, at most one of them is between a successful acquire and its release, and the lock word is
1 while one is and 0 otherwise. No handler tries more than eight times, and none touches the table
without having taken the lock. When a block has ended, it took the lock and gave it back, once each;
or it failed to take it, counted one drop, touched the table never, gave nothing back and left
nothing, which is request id 0 and flags 0 after a pop; or it is a push that did not try, having
found `TF_ONE_WAY` in the flags of the transaction. -/
theorem pending_lock_discipline (K : ContextAddress)
    (ls : List (PoolLabel (Block K) Meeting Empty)) :
    let S := (unlocked K).run (handlers K) ls
    let inside := S.procs.countP (·.tally.inside)
    inside ≤ 1 ∧ S.shared.word = (if inside = 1 then 1 else 0) ∧
    ∀ h ∈ S.procs, h.tally.attempts ≤ 8 ∧ (h.tally.table = true → h.tally.acquires = 1) ∧
      ∀ r, h.rest = .ret r →
        (h.tally.acquires = 1 ∧ h.tally.releases = 1 ∧ h.tally.drops = 0) ∨
        (h.tally.acquires = 0 ∧ h.tally.drops = 1 ∧ h.tally.table = false ∧
          h.tally.releases = 0 ∧ r = h.block.nothing) ∨
        (h.tally.attempts = 0 ∧ h.tally.acquires = 0 ∧ h.tally.drops = 0 ∧
          h.tally.table = false ∧ h.tally.releases = 0 ∧
          ∃ t regs, h.block = .push t regs ∧ h.tally.FoundOneWay regs) := by
  intro S inside
  have hinv : LockInv S := run_induct (LockInv.init K) fun S l h => h.step l
  have hledger := hinv.ledger
  rw [Pool.total_toNat] at hledger
  refine ⟨hledger.le_one, ?_, fun h hmem => ?_⟩
  · rcases hledger with ⟨hn, hw⟩ | ⟨hn, hw⟩
    · have hne : inside ≠ 1 := fun h1 => Nat.zero_ne_one (hn.symm.trans h1)
      rw [hw, if_neg hne]
    · rw [hw, if_pos hn]
  · obtain ⟨-, hobeys, hattempts, htable⟩ := hinv.procs h hmem
    refine ⟨hattempts, htable, fun r hr => ?_⟩
    rw [hr] at hobeys
    have hends : h.block.Ends r h.tally := hobeys
    cases hends with
    | done hdone => exact .inl ⟨hdone.acquires, hdone.releases, hdone.drops⟩
    | failed hout hleft =>
      exact .inr (.inl ⟨hout.acquires, hout.drops, hout.table, hout.releases, hleft⟩)
    | ignored hout hpush =>
      exact .inr (.inr ⟨hout.attempts, hout.acquires, hout.drops, hout.table, hout.releases,
        hpush⟩)

/-- Two pops: the first takes the lock at its second try, a store-exclusive having failed for no
reason; the second then fails eight times. -/
example :
    let K : ContextAddress := ⟨0x1000, by decide⟩
    let pop : Block K := .pop false ⟨0x100000, 1, 64, by decide⟩
    let ls := [.start pop, .start pop, .step 0 ⟨0, false, 0⟩, .step 0 ⟨0, true, 0⟩] ++
      List.replicate 3 (.step 0 ⟨0, false, 0⟩) ++ List.replicate 17 (.step 1 ⟨0, false, 0⟩)
    ((unlocked K).run (handlers K) ls).procs.map (·.tally) =
      [⟨none, 2, 0, 1, 0, false, none⟩, ⟨none, 8, 1, 0, 0, false, none⟩] := by decide

end Drmid
