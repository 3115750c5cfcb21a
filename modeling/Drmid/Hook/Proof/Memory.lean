import Drmid.Hook.Memory
import Drmid.Hook.Proof.Emitted

/-!
# The words of the pending blocks, one by one

No two words have a byte in common (`Cell.apart`), so a store changes the word it is for and no
other (`Memory.view_store`). The words in the context and those outside are apart in the records,
too (`ContextShows.shows`). A block can then be followed on the words alone: `Asm.Gives` has one
rule for each access.
-/

namespace Drmid

open Lib

/-! ## Loads and stores -/

section
variable {a b v : UInt64} {n m : Nat} {M : Memory}

theorem add_ofNat_sub {i : Nat} (hi : i < 2 ^ 64) : (a + UInt64.ofNat i - a).toNat = i := by
  rw [UInt64.toNat_sub, UInt64.toNat_add, UInt64.toNat_ofNat']
  have := a.toNat_lt
  omega

namespace Memory

/-- A load reads the bytes of its word only. -/
theorem load_congr {M' : Memory} (hn : n = 4 ∨ n = 8)
    (h : ∀ x, (x - a).toNat < n → M' x = M x) : M'.load a n = M.load a n := by
  have hbyte (i : Nat) (hi : i < n) : M' (a + UInt64.ofNat i) = M (a + UInt64.ofNat i) :=
    h _ (by rwa [add_ofNat_sub (by omega)])
  unfold load
  rcases hn with rfl | rfl
  · rw [if_pos rfl, if_pos rfl, le32_congr hbyte]
  · rw [if_neg (by decide), if_neg (by decide), le64_congr hbyte]

theorem load_store_of_apart (hn : n = 4 ∨ n = 8) (hm : 0 < m) (h : meets a n b m = false) :
    (M.store v b m).load a n = M.load a n := by
  refine load_congr hn fun x hx => ?_
  rw [← Bool.not_eq_true, meets_iff (by omega) hm] at h
  exact if_neg fun hb => h ⟨x, hx, hb⟩

theorem store_byte {i : Nat} (hi : i < n) (hn : n ≤ 8) :
    M.store v a n (a + UInt64.ofNat i) = (leBytes n v).getD i 0 := by
  have hoff : (a + UInt64.ofNat i - a).toNat = i := add_ofNat_sub (by omega)
  rw [store, hoff, if_pos hi]

/-- What is stored does not depend on what was there. -/
theorem load_store_same {M' : Memory} (hn : n = 4 ∨ n = 8) :
    (M'.store v a n).load a n = (M.store v a n).load a n := by
  refine load_congr hn fun x hx => ?_
  rw [store, store, if_pos hx, if_pos hx]

theorem load_store_eight : (M.store v a 8).load a 8 = v := by
  rw [load, if_neg (by decide), le64_congr fun i hi => store_byte hi (by decide), le64_leBytes]

theorem load_store_four {w : UInt32} : (M.store w.toUInt64 a 4).load a 4 = w.toUInt64 := by
  rw [load, if_pos rfl, le32_congr fun i hi => store_byte hi (by decide), le32_leBytes]

end Memory

end

/-! ## Offsets -/

/-- Ranges one after the other do not meet. -/
theorem meets_of_le {o o' n m : Nat} (hn : 0 < n) (h : o + n ≤ o') (hm : o' + m ≤ 2 ^ 32) :
    meets (UInt64.ofNat o) n (UInt64.ofNat o') m = false := by
  have hsub (x y : Nat) : (UInt64.ofNat x - UInt64.ofNat y).toNat =
      (2 ^ 64 - y % 2 ^ 64 + x % 2 ^ 64) % 2 ^ 64 := by
    rw [UInt64.toNat_sub, UInt64.toNat_ofNat', UInt64.toNat_ofNat']
  rw [meets, hsub, hsub, Bool.or_eq_false_iff, decide_eq_false_iff_not, decide_eq_false_iff_not]
  omega

theorem SlotField.apart {f f' : SlotField} (h : f ≠ f') :
    f.offset.toNat + f.bytes ≤ f'.offset.toNat ∨ f'.offset.toNat + f'.bytes ≤ f.offset.toNat := by
  revert h
  cases f <;> cases f' <;> decide

theorem SlotField.le (f : SlotField) : f.offset.toNat + f.bytes ≤ 24 := by cases f <;> decide

theorem FrameField.apart {f f' : FrameField} (h : f ≠ f') :
    f.offset.toNat + f.bytes ≤ f'.offset.toNat ∨ f'.offset.toNat + f'.bytes ≤ f.offset.toNat := by
  revert h
  cases f <;> cases f' <;> decide

theorem FrameField.le (f : FrameField) : f.offset.toNat + f.bytes ≤ 48 := by cases f <;> decide

theorem ScratchField.apart {f f' : ScratchField} (h : f ≠ f') :
    meets f.offset f.bytes f'.offset f'.bytes = false := by
  revert h
  cases f <;> cases f' <;> decide

theorem ScratchField.le (f : ScratchField) : f.offset.toNat + f.bytes ≤ kParserScratchBytes := by
  cases f <;> decide

theorem PendingCounter.apart {f f' : PendingCounter} (h : f ≠ f') :
    f.offset.toNat + 8 ≤ f'.offset.toNat ∨ f'.offset.toNat + 8 ≤ f.offset.toNat := by
  revert h
  cases f <;> cases f' <;> decide

theorem PendingCounter.bounds (f : PendingCounter) :
    224 ≤ f.offset.toNat ∧ f.offset.toNat + 8 ≤ 296 := by
  cases f <;> decide

/-! ## The context -/

namespace Cell

theorem bytes_eq (c : Cell) : c.bytes = 4 ∨ c.bytes = 8 := by
  cases c with
  | slot i f => cases f <;> simp [bytes, SlotField.bytes]
  | frame i k f => cases f <;> simp [bytes, FrameField.bytes]
  | scratch f => cases f <;> simp [bytes, ScratchField.bytes]
  | counter | lock | generation | activeHalIdentitySlot | pid | tgid => simp [bytes]

theorem bytes_pos (c : Cell) : 0 < c.bytes := by
  have := c.bytes_eq
  omega

/-- Where in the context a word is: the lock, the counters, the table, the two words behind it. -/
def zone : Cell → Nat
  | lock => 0
  | counter _ => 1
  | slot _ _ | frame _ _ _ => 2
  | activeHalIdentitySlot => 3
  | generation _ => 4
  | scratch _ | pid | tgid => 5

section
variable {c c' : Cell} {o o' : Nat}

theorem zone_bounds (h : c.member = some o) :
    (c.zone = 0 ∧ 216 ≤ o ∧ o + c.bytes ≤ 224) ∨ (c.zone = 1 ∧ 224 ≤ o ∧ o + c.bytes ≤ 296) ∨
      (c.zone = 2 ∧ 41456 ≤ o ∧ o + c.bytes ≤ 96752) ∨
      (c.zone = 3 ∧ 96968 ≤ o ∧ o + c.bytes ≤ 96972) ∨
      (c.zone = 4 ∧ 97000 ≤ o ∧ o + c.bytes ≤ 97040) := by
  cases c with
  | scratch | pid | tgid => cases h
  | lock | activeHalIdentitySlot =>
    cases h
    simp [zone, bytes]
  | slot i f =>
    have hf := f.le
    cases h
    exact .inr (.inr (.inl ⟨rfl, by omega, by simp only [bytes]; omega⟩))
  | frame i k f =>
    have hf := f.le
    cases h
    exact .inr (.inr (.inl ⟨rfl, by omega, by simp only [bytes]; omega⟩))
  | counter b =>
    cases h
    exact .inr (.inl ⟨rfl, b.bounds⟩)
  | generation j =>
    cases h
    exact .inr (.inr (.inr (.inr ⟨rfl, by omega, by simp only [bytes]; omega⟩)))

/-- The head of a slot ends before its frames. -/
theorem slot_frame_apart {i i' : Fin 256} {k : Fin 4} {f : SlotField} {f' : FrameField}
    (h : (slot i f).member = some o) (h' : (frame i' k f').member = some o') :
    o + f.bytes ≤ o' ∨ o' + f'.bytes ≤ o := by
  have hf := f.le
  have hf' := f'.le
  cases h
  cases h'
  rcases Nat.lt_trichotomy i.val i'.val with hlt | heq | hgt <;> omega

theorem zone_apart (hne : c ≠ c') (hzone : c.zone = c'.zone) (h : c.member = some o)
    (h' : c'.member = some o') : o + c.bytes ≤ o' ∨ o' + c'.bytes ≤ o := by
  cases c <;> cases c' <;> cases hzone
  case lock.lock | activeHalIdentitySlot.activeHalIdentitySlot => exact absurd rfl hne
  case slot.slot i f i' f' =>
    have hf := f.le
    have hf' := f'.le
    have hfield (heq : i.val = i'.val) : f ≠ f' := fun h => hne (by rw [Fin.ext heq, h])
    cases h
    cases h'
    simp only [bytes]
    rcases Nat.lt_trichotomy i.val i'.val with hlt | heq | hgt
    · omega
    · have := SlotField.apart (hfield heq)
      omega
    · omega
  case slot.frame => exact slot_frame_apart h h'
  case frame.slot => exact (slot_frame_apart h' h).symm
  case frame.frame i k f i' k' f' =>
    have hf := f.le
    have hf' := f'.le
    have hfield (heq : i.val = i'.val) (heq' : k.val = k'.val) : f ≠ f' :=
      fun h => hne (by rw [Fin.ext heq, Fin.ext heq', h])
    cases h
    cases h'
    simp only [bytes]
    rcases Nat.lt_trichotomy i.val i'.val with hlt | heq | hgt
    · omega
    · rcases Nat.lt_trichotomy k.val k'.val with hlt | heq' | hgt
      · omega
      · have := FrameField.apart (hfield heq heq')
        omega
      · omega
    · omega
  case counter.counter b b' =>
    cases h
    cases h'
    exact PendingCounter.apart fun h => hne (by rw [h])
  case generation.generation j j' =>
    have hj : j.val ≠ j'.val := fun h => hne (by rw [Fin.ext h])
    cases h
    cases h'
    simp only [bytes]
    omega
  all_goals cases h

/-- No two words of the context overlap. -/
theorem member_apart (hne : c ≠ c') (h : c.member = some o) (h' : c'.member = some o') :
    o + c.bytes ≤ o' ∨ o' + c'.bytes ≤ o := by
  by_cases hzone : c.zone = c'.zone
  · exact zone_apart hne hzone h h'
  · have hz := zone_bounds h
    have hz' := zone_bounds h'
    omega

end

/-! ## Addresses -/

section
variable {K : ContextAddress} {P : Workspace K} {c c' : Cell} {o : Nat}

theorem frameOffset_eq (k : Fin 4) : (UInt32.ofNat k).toUInt64 * sizeofBinderPendingFrame +
    BinderPendingSlot.offsetofFrames = UInt64.ofNat 24 + UInt64.ofNat (48 * k) := by
  revert k
  decide

theorem setOffset_eq (j : Fin 2) : offsetofHalIdentitySlots +
    UInt64.ofNat j * sizeofHalIdentitySet = UInt64.ofNat (97000 + 32 * j) := by
  revert j
  decide

theorem addr_member (h : c.member = some o) : c.addr P = K.kaddr + UInt64.ofNat o := by
  cases c with
  | scratch | pid | tgid => cases h
  | slot i f =>
    cases h
    simp only [addr, ContextAddress.slot, ContextAddress.pending, UInt64.ofNat_add,
      UInt64.ofNat_toNat, UInt64.add_assoc]
    rfl
  | frame i k f =>
    cases h
    simp only [addr, Asm.frameAddress, frameOffset_eq, ContextAddress.slot, ContextAddress.pending,
      UInt64.ofNat_add, UInt64.ofNat_toNat, UInt64.add_assoc]
    rfl
  | counter b =>
    cases h
    simp only [addr, UInt64.ofNat_toNat]
  | lock | activeHalIdentitySlot =>
    cases h
    rfl
  | generation j =>
    cases h
    rw [addr, UInt64.add_assoc, setOffset_eq]

theorem member_le (h : c.member = some o) : o + c.bytes ≤ kContextBytes := by
  have hz := zone_bounds h
  unfold kContextBytes
  omega

/-- The other words are no part of the context. -/
theorem context_clear (h : c.member = none) :
    meets (c.addr P) c.bytes K.kaddr kContextBytes = false := by
  cases c with
  | slot | frame | counter | lock | activeHalIdentitySlot | generation => cases h
  | scratch f => exact Asm.scratch_clear P.toRegisters f.le (scratch f).bytes_pos
  | pid => exact P.pidContext
  | tgid => exact P.tgidContext

/-- A word of the context and one that is not there. -/
theorem member_clear (h : c.member = some o) (h' : c'.member = none) :
    meets (c.addr P) c.bytes (c'.addr P) c'.bytes = false := by
  have hclear := context_clear (P := P) h'
  rw [meets_comm] at hclear
  rw [addr_member h]
  exact meets_part hclear (member_le h) c.bytes_pos c'.bytes_pos (by decide)

/-- A word of the scratch and one of the task. -/
theorem scratch_clear (f : ScratchField) {a : UInt64}
    (ha : meets a 4 P.x23 kParserScratchBytes = false) :
    meets ((scratch f).addr P) f.bytes a 4 = false := by
  rw [meets_comm] at ha
  have hpart := meets_part ha f.le (scratch f).bytes_pos (by decide) (by decide)
  rwa [UInt64.ofNat_toNat] at hpart

theorem outside_apart (hne : c ≠ c') (h : c.member = none) (h' : c'.member = none) :
    meets (c.addr P) c.bytes (c'.addr P) c'.bytes = false := by
  cases c <;> cases c' <;> first | cases h; done | cases h'; done | skip
  case scratch.scratch f f' =>
    exact meets_member.trans (ScratchField.apart fun h => hne (by rw [h]))
  case scratch.pid f => exact scratch_clear f P.pidScratch
  case scratch.tgid f => exact scratch_clear f P.tgidScratch
  case pid.scratch f => exact meets_comm.trans (scratch_clear f P.pidScratch)
  case tgid.scratch f => exact meets_comm.trans (scratch_clear f P.tgidScratch)
  case pid.tgid => exact meets_member.trans P.ids
  case tgid.pid => exact meets_comm.trans (meets_member.trans P.ids)
  all_goals exact absurd rfl hne

/-- No two words have a byte in common. -/
theorem apart (hne : c ≠ c') : meets (c.addr P) c.bytes (c'.addr P) c'.bytes = false := by
  cases h : c.member with
  | none =>
    cases h' : c'.member with
    | none => exact outside_apart hne h h'
    | some o' => exact meets_comm.trans (member_clear h' h)
  | some o =>
    cases h' : c'.member with
    | none => exact member_clear h h'
    | some o' =>
      have hle := member_le h
      have hle' := member_le h'
      unfold kContextBytes at hle hle'
      rw [addr_member h, addr_member h', meets_member]
      rcases member_apart hne h h' with hbefore | hafter
      · exact meets_of_le c.bytes_pos hbefore (by omega)
      · exact meets_comm.trans (meets_of_le c'.bytes_pos hafter (by omega))

theorem addr_inj (h : c.addr P = c'.addr P) : c = c' := by
  by_contra hne
  have hapart := apart (P := P) hne
  rw [h, meets, UInt64.sub_self] at hapart
  simp [c.bytes_pos] at hapart

end
end Cell

theorem Memory.view_store {K : ContextAddress} {P : Workspace K} {M : Memory} {c : Cell}
    {v : UInt64} (h : (M.store v (c.addr P) c.bytes).load (c.addr P) c.bytes = v) :
    (M.store v (c.addr P) c.bytes).view P = Function.update (M.view P) c v := by
  funext d
  by_cases hd : d = c
  · subst hd
    rw [Function.update_self]
    exact h
  · rw [Function.update_of_ne hd]
    exact load_store_of_apart d.bytes_eq c.bytes_pos (Cell.apart hd)

theorem Memory.load_store_word {M : Memory} {a v : UInt64} {n : Nat} (hn : n = 8) :
    (M.store v a n).load a n = v := by
  rw [hn]
  exact load_store_eight

/-! ## Inside and outside of the context -/

section
variable {K : ContextAddress} {P : Workspace K} {M : Memory} {ctx : KernelCounterContext}
  {R : Records}

/-- In the context a word depends on the context and the lock only. -/
theorem Cell.value_member {c : Cell} {o : Nat} {R' : Records} (h : c.member = some o)
    (hctx : R.ctx = R'.ctx) (hlock : R.lock = R'.lock) : c.value R = c.value R' := by
  cases c with
  | scratch | pid | tgid => cases h
  | slot | frame | counter | activeHalIdentitySlot | generation => simp only [value, hctx]
  | lock => simp only [value, hlock]

/-- Outside it depends on the task and the scratch. -/
theorem Cell.value_outside {c : Cell} {R' : Records} (h : c.member = none)
    (htask : R.task = R'.task) (hscratch : R.scratch = R'.scratch) : c.value R = c.value R' := by
  cases c with
  | scratch => simp only [value, hscratch]
  | pid | tgid => simp only [value, htask]
  | slot | frame | counter | lock | activeHalIdentitySlot | generation => cases h

theorem Shows.context (h : Shows (M.view P) R) (hlock : R.lock = 0) : ContextShows K M R.ctx := by
  intro c o v hc hv
  rw [← Cell.addr_member (P := P) hc]
  refine h c v ?_
  rw [← hv]
  exact Cell.value_member hc rfl hlock

theorem ContextShows.shows {t : TaskIdentity} {s : ParserScratch} (h : ContextShows K M ctx)
    (ho : OutsideShows (M.view P) t s) : Shows (M.view P) ⟨t, s, ctx, 0⟩ := by
  intro c v hv
  cases hc : c.member with
  | none =>
    refine ho c v hc ?_
    rw [← hv]
    exact Cell.value_outside hc rfl rfl
  | some o =>
    rw [Memory.view, Cell.addr_member hc]
    refine h c o v hc ?_
    rw [← hv]
    exact Cell.value_member hc rfl rfl

theorem Memory.load_zero (a : UInt64) (n : Nat) : Memory.load (fun _ => 0) a n = 0 := by
  have h32 : (le32 fun _ => 0).toUInt64 = 0 := by decide
  have h64 : le64 (fun _ => 0) = 0 := by decide
  unfold Memory.load
  split
  · exact h32
  · exact h64

/-- Runs can start on a zeroed context. -/
theorem contextShows_zero : ContextShows K (fun _ => 0) .zero := by
  intro c o v hc hv
  rw [Memory.load_zero]
  cases c with
  | slot i f => cases f <;> exact Option.some.inj hv
  | frame i k f =>
    have hframe : (Vector.replicate 4 BinderPendingFrame.zero)[k] = .zero :=
      Vector.getElem_replicate k.isLt
    have hval : f.value (Vector.replicate 4 BinderPendingFrame.zero)[k] = some v := hv
    rw [hframe] at hval
    cases f <;> cases hval <;> rfl
  | counter | lock | activeHalIdentitySlot | generation => exact Option.some.inj hv
  | scratch | pid | tgid => cases hc

/-- And with a zeroed scratch. -/
theorem outsideShows_zero (P : Workspace K) (kaddr : UInt64) :
    OutsideShows (Memory.view P fun _ => 0) ⟨kaddr, 0, 0⟩ .zero := by
  intro c v hc hv
  rw [Memory.view, Memory.load_zero]
  cases c with
  | slot | frame | counter | lock | activeHalIdentitySlot | generation => cases hc
  | scratch f => cases f <;> exact Option.some.inj hv
  | pid | tgid => exact Option.some.inj hv

end

/-! ## Kinds of words -/

namespace Cell

def all : Cell → Bool := fun _ => true

/-- The words of a block between label `acquired` and the release. -/
def guarded : Cell → Bool
  | lock | counter .lockDrops | counter .onewayIgnored => false
  | slot _ _ | frame _ _ _ | counter _ | activeHalIdentitySlot | generation _ | scratch _ | pid
  | tgid => true

/-- The words of the task are only read. -/
def written : Cell → Bool
  | pid | tgid => false
  | slot _ _ | frame _ _ _ | counter _ | lock | activeHalIdentitySlot | generation _
  | scratch _ => true

/-- Code of the kind `A` may load `n` bytes there. -/
def loads (A : Cell → Bool) (c : Cell) (n : Nat) : Bool := A c && c.bytes == n

/-- It may store `n` bytes there. -/
def stores (A : Cell → Bool) (c : Cell) (n : Nat) : Bool := A c && c.written && c.bytes == n

section
variable {A : Cell → Bool} {c : Cell} {n : Nat}

theorem kind_of_loads (h : c.loads A n = true) : A c = true := (Bool.and_eq_true_iff.1 h).1

theorem bytes_of_loads (h : c.loads A n = true) : c.bytes = n :=
  eq_of_beq (Bool.and_eq_true_iff.1 h).2

theorem kind_of_stores (h : c.stores A n = true) : A c = true :=
  (Bool.and_eq_true_iff.1 (Bool.and_eq_true_iff.1 h).1).1

theorem written_of_stores (h : c.stores A n = true) : c.written = true :=
  (Bool.and_eq_true_iff.1 (Bool.and_eq_true_iff.1 h).1).2

theorem bytes_of_stores (h : c.stores A n = true) : c.bytes = n :=
  eq_of_beq (Bool.and_eq_true_iff.1 h).2

end
end Cell

/-- An access to one of the words `A`; an exclusive one is to the lock word. -/
def Access.On {K : ContextAddress} (P : Workspace K) (A : Cell → Bool) : Access → Prop
  | .ldr a n => ∃ c : Cell, c.loads A n = true ∧ a = c.addr P
  | .str _ a n => ∃ c : Cell, c.stores A n = true ∧ a = c.addr P
  | .stlr _ a | .ldaddal _ a => ∃ c : Cell, c.stores A 8 = true ∧ a = c.addr P
  | .ldaxr a | .stxr _ a => A .lock = true ∧ a = K.lock
  | .clrex => True

theorem Access.On.all {K : ContextAddress} {P : Workspace K} {A : Cell → Bool} {c : Access}
    (h : c.On P A) : c.On P Cell.all := by
  cases c with
  | ldr a n =>
    obtain ⟨c, hc, ha⟩ := h
    exact ⟨c, by simp [Cell.loads, Cell.all, Cell.bytes_of_loads hc], ha⟩
  | str v a n | stlr v a | ldaddal v a =>
    obtain ⟨c, hc, ha⟩ := h
    have hw := Cell.written_of_stores hc
    exact ⟨c, by simp [Cell.stores, Cell.all, hw, Cell.bytes_of_stores hc], ha⟩
  | ldaxr a | stxr v a => exact ⟨rfl, h.2⟩
  | clrex => trivial

/-- It changes no byte but of such a word. -/
theorem Access.On.frame {K : ContextAddress} {P : Workspace K} {A : Cell → Bool} {c : Access}
    {M : Memory} {x : UInt64} (h : c.On P A) (hlock : A .lock = true → ¬(x - K.lock).toNat < 8)
    (hx : ∀ d : Cell, A d = true → d.written = true → ¬(x - d.addr P).toNat < d.bytes) :
    (c.alone M).2 x = M x := by
  cases c with
  | ldr a n | ldaxr a | clrex => rfl
  | str v a n =>
    obtain ⟨d, hd, rfl⟩ := h
    have hout := hx d (Cell.kind_of_stores hd) (Cell.written_of_stores hd)
    rw [Cell.bytes_of_stores hd] at hout
    exact if_neg hout
  | stlr v a | ldaddal v a =>
    obtain ⟨d, hd, rfl⟩ := h
    have hout := hx d (Cell.kind_of_stores hd) (Cell.written_of_stores hd)
    rw [Cell.bytes_of_stores hd] at hout
    exact if_neg hout
  | stxr v a =>
    obtain ⟨hA, rfl⟩ := h
    exact if_neg (hlock hA)

/-- Alone, the block accesses the words `A` only. -/
def Asm.On {α : Type} {K : ContextAddress} (P : Workspace K) (A : Cell → Bool) :
    Asm α → Memory → Prop
  | .ret _, _ => True
  | .call c k, M => c.On P A ∧ Asm.On P A (k (c.alone M).1) (c.alone M).2

/-! ## Rules -/

/-- From words `V`, the block returns and leaves words with `Q`, and accesses the words `A`
only. -/
def Asm.Gives {α : Type} {K : ContextAddress} (P : Workspace K) (A : Cell → Bool) (p : Asm α)
    (V : Cell → UInt64) (Q : α → (Cell → UInt64) → Prop) : Prop :=
  ∀ M : Memory, M.view P = V → Q (p.alone M).1 ((p.alone M).2.view P) ∧ p.On P A M

namespace Asm

section
variable {α β : Type} {K : ContextAddress} {P : Workspace K} {A B : Cell → Bool} {M : Memory}

theorem alone_bind {p : Asm α} {f : α → Asm β} :
    (p >>= f).alone M = (f (p.alone M).1).alone (p.alone M).2 := by
  induction p generalizing M with
  | ret a => rfl
  | call c k ih => exact ih _

theorem On.bind {p : Asm α} {f : α → Asm β} (hp : p.On P A M)
    (hf : (f (p.alone M).1).On P A (p.alone M).2) : (p >>= f).On P A M := by
  induction p generalizing M with
  | ret a => exact hf
  | call c k ih => exact ⟨hp.1, ih _ hp.2 hf⟩

theorem On.sameElsewhere {p : Asm α} (h : p.On P A M) : M.SameElsewhere P (p.alone M).2 := by
  intro x hx
  induction p generalizing M with
  | ret a => rfl
  | call c k ih =>
    have hstep : (c.alone M).2 x = M x := h.1.frame (fun _ => hx .lock) fun d _ _ => hx d
    exact (ih _ h.2).trans hstep

theorem On.all {p : Asm α} (h : p.On P A M) : p.On P Cell.all M := by
  induction p generalizing M with
  | ret a => trivial
  | call c k ih => exact ⟨h.1.all, ih _ h.2⟩

end

section
variable {α β : Type} {K : ContextAddress} {P : Workspace K} {A : Cell → Bool}
  {V : Cell → UInt64} {Q : β → (Cell → UInt64) → Prop}

theorem gives_pure {b : β} (h : Q b V) : (pure b : Asm β).Gives P A V Q := by
  rintro M rfl
  exact ⟨h, trivial⟩

theorem Gives.bind {p : Asm α} {f : α → Asm β}
    (h : p.Gives P A V fun a V' => (f a).Gives P A V' Q) : (p >>= f).Gives P A V Q := by
  intro M hM
  obtain ⟨hf, hon⟩ := h M hM
  obtain ⟨hQ, hon'⟩ := hf _ rfl
  rw [alone_bind]
  exact ⟨hQ, hon.bind hon'⟩

theorem Gives.mono {p : Asm β} {Q' : β → (Cell → UInt64) → Prop} (h : p.Gives P A V Q)
    (hq : ∀ b V, Q b V → Q' b V) : p.Gives P A V Q' :=
  fun M hM => (h M hM).imp_left (hq _ _)

/-- Code that loads a word and returns `f` of it. -/
theorem gives_load {p : Asm β} {f : UInt64 → β} {c : Cell}
    (hp : ∀ M, p.alone M = (f (M.load (c.addr P) c.bytes), M)) (hon : ∀ M, p.On P A M)
    (h : Q (f (V c)) V) : p.Gives P A V Q := by
  rintro M rfl
  rw [hp M]
  exact ⟨h, hon M⟩

/-- Code that stores to a word and returns `b`. -/
theorem gives_store {p : Asm β} {b : β} {c : Cell} {v : UInt64}
    (hp : ∀ M : Memory, M.view P = V → p.alone M = (b, M.store v (c.addr P) c.bytes))
    (hon : ∀ M, p.On P A M)
    (hv : ∀ M : Memory, (M.store v (c.addr P) c.bytes).load (c.addr P) c.bytes = v)
    (h : Q b (Function.update V c v)) : p.Gives P A V Q := by
  intro M hM
  rw [hp M hM, Memory.view_store (hv M), hM]
  exact ⟨h, hon M⟩

end

section
variable {K : ContextAddress} {P : Workspace K} {A : Cell → Bool} {V : Cell → UInt64} {v : UInt64}

theorem ldrX_gives {Q : UInt64 → (Cell → UInt64) → Prop} (c : Cell) (hc : c.loads A 8 = true)
    (hv : V c = v) (h : Q v V) : (ldrX (c.addr P)).Gives P A V Q :=
  gives_load (f := id) (fun M => by rw [Cell.bytes_of_loads hc]; rfl)
    (fun _ => ⟨⟨c, hc, rfl⟩, trivial⟩) (hv ▸ h)

theorem ldrW_gives {Q : UInt32 → (Cell → UInt64) → Prop} {w : UInt32} (c : Cell)
    (hc : c.loads A 4 = true) (hw : V c = w.toUInt64) (h : Q w V) :
    (ldrW (c.addr P)).Gives P A V Q := by
  refine gives_load (f := UInt64.toUInt32) (fun M => by rw [Cell.bytes_of_loads hc]; rfl)
    (fun _ => ⟨⟨c, hc, rfl⟩, trivial⟩) ?_
  rwa [hw, UInt32.toUInt32_toUInt64]

theorem strX_gives {Q : Unit → (Cell → UInt64) → Prop} (c : Cell) (hc : c.stores A 8 = true)
    (h : Q () (Function.update V c v)) : (strX v (c.addr P)).Gives P A V Q :=
  gives_store (fun M _ => by rw [Cell.bytes_of_stores hc]; rfl) (fun _ => ⟨⟨c, hc, rfl⟩, trivial⟩)
    (fun _ => Memory.load_store_word (Cell.bytes_of_stores hc)) h

theorem strW_gives {Q : Unit → (Cell → UInt64) → Prop} {w : UInt32} (c : Cell)
    (hc : c.stores A 4 = true) (h : Q () (Function.update V c w.toUInt64)) :
    (strW w (c.addr P)).Gives P A V Q :=
  gives_store (fun M _ => by rw [Cell.bytes_of_stores hc]; rfl) (fun _ => ⟨⟨c, hc, rfl⟩, trivial⟩)
    (fun _ => by rw [Cell.bytes_of_stores hc]; exact Memory.load_store_four) h

theorem stlr_gives {Q : Unit → (Cell → UInt64) → Prop} (c : Cell) (hc : c.stores A 8 = true)
    (h : Q () (Function.update V c v)) : (stlr v (c.addr P)).Gives P A V Q :=
  gives_store (fun M _ => by rw [Cell.bytes_of_stores hc]; rfl) (fun _ => ⟨⟨c, hc, rfl⟩, trivial⟩)
    (fun _ => Memory.load_store_word (Cell.bytes_of_stores hc)) h

theorem ldaxr_gives {Q : UInt64 → (Cell → UInt64) → Prop} (hA : A .lock = true)
    (hv : V .lock = v) (h : Q v V) : (ldaxr K.lock).Gives P A V Q :=
  gives_load (f := id) (c := .lock) (fun _ => rfl) (fun _ => ⟨⟨hA, rfl⟩, trivial⟩) (hv ▸ h)

theorem stxr_gives {Q : UInt64 → (Cell → UInt64) → Prop} (hA : A .lock = true)
    (h : Q 0 (Function.update V .lock v)) : (stxr v K.lock).Gives P A V Q :=
  gives_store (c := .lock) (fun _ _ => rfl) (fun _ => ⟨⟨hA, rfl⟩, trivial⟩)
    (fun _ => Memory.load_store_word rfl) h

theorem clrex_gives {Q : Unit → (Cell → UInt64) → Prop} (h : Q () V) : clrex.Gives P A V Q := by
  rintro M rfl
  exact ⟨h, trivial, trivial⟩

theorem emitCounterIncrement_gives {Q : Unit → (Cell → UInt64) → Prop} (c : PendingCounter)
    (hA : A (.counter c) = true) (h : Q () (Function.update V (.counter c) (V (.counter c) + 1))) :
    (emitCounterIncrement K.kaddr c.offset).Gives P A V Q :=
  gives_store (fun M hM => by rw [← hM]; rfl)
    (fun _ => ⟨⟨.counter c, by simp [Cell.stores, hA, Cell.written, Cell.bytes], rfl⟩, trivial⟩)
    (fun _ => Memory.load_store_word rfl) h

end
end Asm

end Drmid
