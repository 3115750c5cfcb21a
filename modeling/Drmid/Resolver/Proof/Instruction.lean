import Drmid.Resolver.Entry

/-!
# The opcode tests of the classifier

What each decoder of `binder_ioctl_resolver.cpp` accepts, as a class of A64 instructions with its
fields. Two of the tests are wider than the class they are named after: the frame-link store leaves
bits 30 and 26 free (`stpFrameLink_iff`) and the branch leaves bit 31 free (`b_iff`).
-/

namespace Drmid

open Lib

variable {word frameBytes semantics : UInt32}

/-! ## Single instructions -/

theorem isBti_accepts (h : isBti word = true) : A64.bti.accepts word = true := by
  simp only [isBti, Bool.or_eq_true, beq_iff_eq] at h
  rcases h with (rfl | rfl) | rfl <;> decide

theorem isPacStack_accepts (h : isPacStack word = true) : A64.pacSp.accepts word = true := by
  simp only [isPacStack, Bool.or_eq_true, beq_iff_eq] at h
  rcases h with rfl | rfl <;> decide

/-- An accepted `SUB SP`: the class and the frame size. -/
theorem decodeSubSpFrame_spec (h : decodeSubSpFrame word = some frameBytes) :
    A64.subSp.accepts word = true ∧ frameBytes = word >>> 10 &&& 0xfff ∧ 16 ≤ frameBytes.toNat ∧
      frameBytes.toNat ≤ 4080 ∧ 16 ∣ frameBytes.toNat := by
  unfold decodeSubSpFrame at h
  split at h
  · cases h
  · rename_i hclass
    dsimp only at h
    split at h
    · cases h
    · rename_i hrange
      obtain rfl := Option.some.inj h
      simp only [not_or, UInt32.not_lt, ne_eq, not_not] at hrange
      have hlt : (word >>> 10 &&& 0xfff).toNat < 4096 := by
        rw [UInt32.toNat_and]
        exact Nat.and_lt_two_pow _ (by decide : (0xfff : UInt32).toNat < 2 ^ 12)
      have hmod : (word >>> 10 &&& 0xfff).toNat % 16 = 0 := by
        rw [← Nat.and_two_pow_sub_one_eq_mod _ 4]
        exact congrArg UInt32.toNat hrange.2.2.2
      have hlow : 16 ≤ (word >>> 10 &&& 0xfff).toNat := UInt32.le_iff_toNat_le.1 hrange.2.1
      have hsub : A64.subSp = ⟨0xffc003ff, 0xd10003ff⟩ := by decide
      exact ⟨by simpa [hsub] using hclass, rfl, hlow, by omega, Nat.dvd_of_mod_eq_zero hmod⟩

/-- The class that `is_frame_link_store` tests for: bits 30 and 26 are free in it. -/
def frameLinkStore : BitPattern :=
  .all [⟨0x80000000, 0x80000000⟩, ⟨0x3b400000, 0x29000000⟩, .bits 9 5 31, .bits 4 0 29,
    .bits 14 10 30]

theorem isFrameLinkStore_iff :
    isFrameLinkStore word = true ↔ frameLinkStore.accepts word = true := by
  have htop := A64.and_bit_ne_zero (w := word) (s := 0x80000000) (n := 31) (by decide)
  have hrn : (BitPattern.bits 9 5 31).accepts word = true ↔ word >>> 5 &&& 0x1f = 31 :=
    BitPattern.accepts_bits (by decide) (by decide) (by decide) (by decide)
  have hrt2 : (BitPattern.bits 14 10 30).accepts word = true ↔ word >>> 10 &&& 0x1f = 30 :=
    BitPattern.accepts_bits (by decide) (by decide) (by decide) (by decide)
  have hrt : (BitPattern.bits 4 0 29).accepts word = true ↔ word &&& 0x1f = 29 :=
    BitPattern.accepts_iff
  rw [frameLinkStore, BitPattern.accepts_all (by decide)]
  simp only [isFrameLinkStore, isStorePairToSp, Bool.and_eq_true, bne_iff_ne, beq_iff_eq, htop,
    List.forall_mem_cons, List.not_mem_nil, false_imp_iff, implies_true, and_true, and_assoc,
    ← hrn, ← hrt2, ← hrt]

/-- Of the class, the words with bits 30 and 26 clear are the 64-bit general pair stores. -/
theorem stpFrameLink_iff : A64.stpFrameLink.accepts word = true ↔
    frameLinkStore.accepts word = true ∧ word &&& 0x44000000 = 0 := by
  have hall : BitPattern.all [frameLinkStore, ⟨0x44000000, 0⟩] = A64.stpFrameLink := by decide
  rw [← hall, BitPattern.accepts_all (by decide)]
  simp [BitPattern.accepts_iff]

/-- An accepted pre-indexed save: the class, and the frame size as the offset of a 64-bit pair. -/
theorem decodePreindexFrameLink_spec (h : decodePreindexFrameLink word = some frameBytes) :
    frameLinkStore.accepts word = true ∧
      (⟨0x01800000, 0x01800000⟩ : BitPattern).accepts word = true ∧
      (frameBytes.toNat : Int) = -A64.stp64Offset word ∧ 16 ≤ frameBytes.toNat ∧
      frameBytes.toNat ≤ 512 ∧ 16 ∣ frameBytes.toNat := by
  have hlt : (word >>> 15 &&& 0x7f).toNat < 128 := by
    rw [UInt32.toNat_and]
    exact Nat.and_lt_two_pow _ (by decide : (0x7f : UInt32).toNat < 2 ^ 7)
  have hoffset := A64.signedField_eq (w := word) (x := word >>> 15 &&& 0x7f) (s := 0x40) 21 15 (by
      rw [UInt32.toNat_and, UInt32.toNat_shiftRight]
      exact Nat.and_two_pow_sub_one_eq_mod _ 7) (by decide)
  unfold decodePreindexFrameLink at h
  split at h
  · cases h
  · rename_i hclass
    simp only [Bool.or_eq_true, Bool.not_eq_true', not_or, Bool.not_eq_false] at hclass
    have hsize : (if word >>> 15 &&& 0x7f &&& 0x40 ≠ 0 then
        ((word >>> 15 &&& 0x7f).toNat : Int) - 0x80 else ((word >>> 15 &&& 0x7f).toNat : Int)) * 8 =
        A64.stp64Offset word := by
      rw [A64.stp64Offset, hoffset, Int.mul_comm]
      rfl
    simp only [hsize] at h
    split at h
    · cases h
    · rename_i hrange
      obtain rfl := Option.some.inj h
      have hneg : -512 ≤ A64.stp64Offset word := by
        have hsign := A64.and_pow_eq_zero (s := 0x40) (n := 6) (by decide) hlt
        rw [← hsize]
        split
        · rename_i hbit
          have := mt hsign.2 hbit
          omega
        · omega
      have hnat : (UInt32.ofNat (-A64.stp64Offset word).toNat).toNat =
          (-A64.stp64Offset word).toNat := by
        rw [UInt32.toNat_ofNat_of_lt']
        show _ < 2 ^ 32
        omega
      rw [hnat]
      refine ⟨isFrameLinkStore_iff.1 hclass.1, hclass.2, ?_, ?_, ?_, ?_⟩ <;> omega

/-- An accepted branch: the class, which leaves bit 31 free, and the offset. -/
theorem decodeUnconditionalBranch_eq_some {displacement : Int} :
    decodeUnconditionalBranch word = some displacement ↔
      A64.directBranch.accepts word = true ∧ displacement = A64.branchOffset word ∧
        displacement ≠ 0 := by
  have hclass : A64.directBranch = ⟨0x7c000000, 0x14000000⟩ := by decide
  have hoffset := A64.signedField_eq (w := word) (x := word &&& 0x03ffffff) (s := 0x02000000)
    25 0 (by
      rw [UInt32.toNat_and]
      exact Nat.and_two_pow_sub_one_eq_mod _ 26) (by decide)
  have himm : (if word &&& 0x03ffffff &&& 0x02000000 ≠ 0 then
      ((word &&& 0x03ffffff).toNat : Int) - 2 ^ 26 else ((word &&& 0x03ffffff).toNat : Int)) * 4 =
      A64.branchOffset word := by
    rw [A64.branchOffset, hoffset, Int.mul_comm]
  unfold decodeUnconditionalBranch
  rw [hclass]
  simp only [himm]
  by_cases hb : (⟨0x7c000000, 0x14000000⟩ : BitPattern).accepts word = true
  · by_cases hd : A64.branchOffset word = 0
    · simp [hb, hd]
    · constructor
      · intro h
        obtain rfl := by simpa [hb, hd] using h
        exact ⟨hb, rfl, hd⟩
      · rintro ⟨-, rfl, -⟩
        simp [hb, hd]
  · simp [hb]

/-- `B`: the direct branches with bit 31 clear. -/
theorem b_iff : A64.b.accepts word = true ↔
    A64.directBranch.accepts word = true ∧ word &&& 0x80000000 = 0 := by
  have hall : BitPattern.all [A64.directBranch, ⟨0x80000000, 0⟩] = A64.b := by decide
  rw [← hall, BitPattern.accepts_all (by decide)]
  simp [BitPattern.accepts_iff]

/-! ## The hook site -/

/-- The instructions that the one-instruction hook may replace: `BTI`, `PACIASP` and `PACIBSP`,
`SUB SP, SP, #imm`, and a pre-indexed store pair on SP. -/
def HookSite (word : UInt32) : Prop :=
  ∃ p ∈ [A64.bti, A64.pacSp, A64.subSp, A64.storePairPreSp], p.accepts word = true

theorem HookSite.relocatable (h : HookSite word) : isPcRelativeOrControlFlow word = false := by
  obtain ⟨p, hp, hw⟩ := h
  have hexcludes : ∀ p ∈ [A64.bti, A64.pacSp, A64.subSp, A64.storePairPreSp],
      ∀ q ∈ pcRelativeOrControlFlow, p.Excludes q := by decide
  exact BitPattern.Excludes.any_eq_false (hexcludes p hp) hw

theorem HookSite.not_directBranch (h : HookSite word) : A64.directBranch.accepts word = false := by
  obtain ⟨p, hp, hw⟩ := h
  have hexcludes : ∀ p ∈ [A64.bti, A64.pacSp, A64.subSp, A64.storePairPreSp],
      p.Excludes A64.directBranch := by decide
  exact (hexcludes p hp).not_accepts hw

theorem hookSite_of_subSp (h : decodeSubSpFrame word = some frameBytes) : HookSite word :=
  ⟨A64.subSp, by simp, (decodeSubSpFrame_spec h).1⟩

theorem hookSite_of_preindex (h : decodePreindexFrameLink word = some frameBytes) :
    HookSite word := by
  obtain ⟨hlink, hpre, -⟩ := decodePreindexFrameLink_spec h
  have hrefines : (BitPattern.all [frameLinkStore, ⟨0x01800000, 0x01800000⟩]).Refines
      A64.storePairPreSp := by decide
  refine ⟨A64.storePairPreSp, by simp, hrefines.accepts (BitPattern.accepts_all_of ?_)⟩
  simp [hlink, hpre]

theorem classifySingleInstructionHookSite_spec
    (h : classifySingleInstructionHookSite word = some semantics) :
    HookSite word ∧
      semantics ∈ [kEntryHookSiteBti, kEntryHookSitePac, kEntryHookSiteFrame] := by
  unfold classifySingleInstructionHookSite at h
  split at h
  · rename_i hbti
    cases h
    exact ⟨⟨A64.bti, by simp, isBti_accepts hbti⟩, by simp⟩
  · split at h
    · rename_i hpac
      cases h
      exact ⟨⟨A64.pacSp, by simp, isPacStack_accepts hpac⟩, by simp⟩
    · split at h
      · rename_i hframe
        cases h
        refine ⟨?_, by simp⟩
        simp only [Bool.or_eq_true, Option.isSome_iff_exists] at hframe
        rcases hframe with ⟨_, hsub⟩ | ⟨_, hpre⟩
        · exact hookSite_of_subSp hsub
        · exact hookSite_of_preindex hpre
      · cases h

end Drmid
