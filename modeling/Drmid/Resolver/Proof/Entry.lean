import Drmid.Resolver.Proof.Instruction

/-!
# What the entry classifier accepts

`hook_site_gate`: an accepted entry can be hooked at its first word and is not hooked already.
`veneer_branch_iff` and `frame_link_saved_iff` say when the two opcode tests that leave a bit out
decide right: `decode_unconditional_branch` does not look at bit 31, so it takes `BL` for `B`, and
`is_store_pair_to_sp` looks at neither bit 30 nor bit 26, so it takes the SIMD pair store for the
general one.
-/

namespace Drmid

open Lib

variable {word frameBytes semantics : UInt32} {words : EntryWords} {k : KernelModule}
  {address : UInt64}

/-! ## Prologues -/

/-- What is skipped is at most one `BTI` and one `PACIASP` or `PACIBSP`. -/
theorem prefix_words {i : Fin 64} (hi : i < prefixLength words) :
    A64.bti.accepts (words i) = true ∨ A64.pacSp.accepts (words i) = true := by
  unfold prefixLength at hi
  by_cases hbti : isBti (words 0) = true
  · simp only [hbti, if_true] at hi
    split at hi
    · rename_i hpac
      have hlt : i.val < 2 := hi
      obtain rfl | rfl : i = 0 ∨ i = 1 := by
        simp only [Fin.ext_iff]
        omega
      · exact .inl (isBti_accepts hbti)
      · exact .inr (isPacStack_accepts hpac)
    · obtain rfl : i = 0 := Fin.ext (Nat.lt_one_iff.1 hi)
      exact .inl (isBti_accepts hbti)
  · simp only [hbti, if_false, Bool.false_eq_true] at hi
    split at hi
    · rename_i hpac
      obtain rfl : i = 0 := Fin.ext (Nat.lt_one_iff.1 hi)
      exact .inr (isPacStack_accepts hpac)
    · exact absurd hi (Nat.not_lt_zero _)

theorem prefixLength_le (words : EntryWords) : (prefixLength words).val ≤ 2 := by
  unfold prefixLength
  by_cases hbti : isBti (words 0) = true
  · simp only [hbti, if_true]
    split <;> decide
  · simp only [hbti, if_false, Bool.false_eq_true]
    split <;> decide

/-- No word that a hook at the entry could move is position-dependent. -/
def RelocatablePrefix (words : EntryWords) : Prop :=
  ∀ cursor : Fin 64, cursor.val < 4 → isPcRelativeOrControlFlow (words cursor) = false

theorem checkRelocatable_eq_some {base : UInt32}
    (h : checkRelocatable words base frameBytes = some semantics) :
    RelocatablePrefix words ∧ semantics = base ||| kEntryRelocatablePrefix := by
  unfold checkRelocatable at h
  split at h
  · cases h
  · rename_i hany
    split at h
    · cases h
      refine ⟨fun cursor hcursor => ?_, rfl⟩
      simp only [List.any_cons, List.any_nil, Bool.or_false, Bool.or_eq_true, not_or,
        Bool.not_eq_true] at hany
      obtain ⟨h0, h1, h2, h3⟩ := hany
      have hlt : cursor.val < 4 := hcursor
      obtain rfl | rfl | rfl | rfl : cursor = 0 ∨ cursor = 1 ∨ cursor = 2 ∨ cursor = 3 := by
        simp only [Fin.ext_iff]
        omega
      all_goals assumption
    · cases h

/-- The bits of an accepted prologue: frame, frame link and relocatable prefix are set, veneer and
hook-site bits are not. -/
def prologueSemantics : BitPattern where
  mask := kEntryHasStackFrame ||| kEntrySavesFrameLink ||| kEntryRelocatablePrefix |||
    kEntryHasVeneer ||| kEntryHookSiteBti ||| kEntryHookSitePac ||| kEntryHookSiteFrame
  value := kEntryHasStackFrame ||| kEntrySavesFrameLink ||| kEntryRelocatablePrefix

theorem prefixSemantics_mem (words : EntryWords) : prefixSemantics words ∈
    [0, kEntryHasBti, kEntryHasPac, kEntryHasBti ||| kEntryHasPac] := by
  unfold prefixSemantics
  by_cases hbti : isBti (words 0) = true
  · simp only [hbti, if_true]
    split <;> simp
  · simp only [hbti, if_false, Bool.false_eq_true]
    split <;> simp

/-- The two accepted prologues. -/
theorem classifySemanticEntry_cases (h : classifySemanticEntry words = some semantics) :
    RelocatablePrefix words ∧ prologueSemantics.accepts semantics = true ∧
      ((∃ frameBytes cursor, decodeSubSpFrame (words (prefixLength words)) = some frameBytes ∧
          frameLinkCursor words (prefixLength words + 1) = some cursor) ∨
        (decodeSubSpFrame (words (prefixLength words)) = none ∧
          ∃ frameBytes, decodePreindexFrameLink (words (prefixLength words)) = some frameBytes)) := by
  have hbits : ∀ base, base ∈ [0, kEntryHasBti, kEntryHasPac, kEntryHasBti ||| kEntryHasPac] →
      prologueSemantics.accepts (base ||| kEntryHasStackFrame ||| kEntrySavesFrameLink |||
        kEntryRelocatablePrefix) = true ∧
      prologueSemantics.accepts (base ||| (kEntryHasStackFrame ||| kEntrySavesFrameLink) |||
        kEntrySetsFramePointer ||| kEntryRelocatablePrefix) = true ∧
      prologueSemantics.accepts (base ||| (kEntryHasStackFrame ||| kEntrySavesFrameLink) |||
        kEntryRelocatablePrefix) = true := by
    intro base hbase
    simp only [List.mem_cons, List.not_mem_nil, or_false] at hbase
    rcases hbase with rfl | rfl | rfl | rfl <;> decide
  obtain ⟨hsub, hpointer, hplain⟩ := hbits _ (prefixSemantics_mem words)
  simp only [classifySemanticEntry] at h
  split at h
  · cases h
  · split at h
    · rename_i frameBytes hframe
      split at h
      · rename_i hcursor
        obtain ⟨cursor, hcursor⟩ := Option.isSome_iff_exists.1 hcursor
        obtain ⟨hmovable, rfl⟩ := checkRelocatable_eq_some h
        exact ⟨hmovable, hsub, .inl ⟨frameBytes, cursor, hframe, hcursor⟩⟩
      · cases h
    · rename_i hnone
      split at h
      · rename_i frameBytes hframe
        obtain ⟨hmovable, rfl⟩ := checkRelocatable_eq_some h
        refine ⟨hmovable, ?_, .inr ⟨hnone, frameBytes, hframe⟩⟩
        split
        · exact hpointer
        · exact hplain
      · cases h

/-- The word after the prefix of an accepted prologue makes the frame. -/
theorem classifySemanticEntry_hookSite (h : classifySemanticEntry words = some semantics) :
    HookSite (words (prefixLength words)) := by
  obtain ⟨-, -, ⟨_, _, hframe, -⟩ | ⟨-, _, hframe⟩⟩ := classifySemanticEntry_cases h
  · exact hookSite_of_subSp hframe
  · exact hookSite_of_preindex hframe

/-! ## Veneers -/

/-- Where the direct branch after the prefix goes. -/
def branchTarget (address : UInt64) (words : EntryWords) : UInt64 :=
  address + UInt64.ofNat ((prefixLength words).val * 4) +
    UInt64.ofInt (A64.branchOffset (words (prefixLength words)))

theorem toOption_eq_some {ε α : Type*} {x : Except ε α} {a : α} :
    x.toOption = some a ↔ x = .ok a := by
  cases x <;> simp [Except.toOption]

theorem classifyVeneerTarget_cases (h : classifyVeneerTarget k address words = some semantics) :
    prefixLength words ≠ 0 ∧
      A64.directBranch.accepts (words (prefixLength words)) = true ∧
      address < branchTarget address words ∧
      addressInCoreText k (branchTarget address words) = true ∧
      ∃ hookSite targetWords target,
        classifySingleInstructionHookSite (words 0) = some hookSite ∧
        k.readEntryWords (branchTarget address words) = .ok targetWords ∧
        classifySemanticEntry targetWords = some target ∧
        semantics = target ||| hookSite ||| kEntryHasVeneer := by
  simp only [classifyVeneerTarget] at h
  split at h
  · cases h
  · rename_i hmovable
    obtain ⟨hookSite, hsite, h⟩ := Option.bind_eq_some_iff.1 h
    obtain ⟨displacement, hbranch, h⟩ := Option.bind_eq_some_iff.1 h
    split at h
    · cases h
    · split at h
      · cases h
      · rename_i htarget
        obtain ⟨targetWords, hread, h⟩ := Option.bind_eq_some_iff.1 h
        obtain ⟨target, hprologue, hsemantics⟩ := Option.bind_eq_some_iff.1 h
        obtain ⟨hclass, rfl, -⟩ := decodeUnconditionalBranch_eq_some.1 hbranch
        simp only [not_or, UInt64.not_le, Bool.not_eq_true', Bool.not_eq_false] at htarget
        refine ⟨fun h0 => hmovable (.inl h0), hclass, htarget.1, htarget.2.2, hookSite, targetWords,
          target, hsite, ?_, hprologue, (Option.some.inj hsemantics).symm⟩
        exact toOption_eq_some.1 hread

/-! ## The gate -/

/-- What an accepted entry is good for. -/
structure Hookable (k : KernelModule) (address : UInt64) (words : EntryWords)
    (semantics : UInt32) : Prop where
  /-- The first word may be moved to a trampoline. -/
  hookSite : HookSite (words 0)
  relocatable : isPcRelativeOrControlFlow (words 0) = false
  /-- Exactly one hook-site bit is set. -/
  oneSite : semantics &&& (kEntryHookSiteBti ||| kEntryHookSitePac ||| kEntryHookSiteFrame) ∈
    [kEntryHookSiteBti, kEntryHookSitePac, kEntryHookSiteFrame]
  prologue : semantics &&& (kEntryHasStackFrame ||| kEntrySavesFrameLink |||
    kEntryRelocatablePrefix) = kEntryHasStackFrame ||| kEntrySavesFrameLink |||
      kEntryRelocatablePrefix
  direct : semantics &&& kEntryHasVeneer = 0 → RelocatablePrefix words
  /-- A veneer branches upwards, in core text, to a prologue that may be moved. -/
  veneer : semantics &&& kEntryHasVeneer ≠ 0 → prefixLength words ≠ 0 ∧
    (∀ i < prefixLength words,
      A64.bti.accepts (words i) = true ∨ A64.pacSp.accepts (words i) = true) ∧
    A64.directBranch.accepts (words (prefixLength words)) = true ∧
    address < branchTarget address words ∧
    addressInCoreText k (branchTarget address words) = true ∧
    ∃ targetWords, k.readEntryWords (branchTarget address words) = .ok targetWords ∧
      RelocatablePrefix targetWords

/-- The bits of a prologue's semantics once the hook site's bit, and `veneer` or nothing, is set. -/
theorem prologueSemantics_or {site : UInt32} (hp : prologueSemantics.accepts semantics = true)
    (hsite : site ∈ [kEntryHookSiteBti, kEntryHookSitePac, kEntryHookSiteFrame]) :
    ∀ veneer, veneer ∈ [0, kEntryHasVeneer] →
      (semantics ||| site ||| veneer) &&&
          (kEntryHookSiteBti ||| kEntryHookSitePac ||| kEntryHookSiteFrame) = site ∧
        (semantics ||| site ||| veneer) &&& (kEntryHasStackFrame ||| kEntrySavesFrameLink |||
          kEntryRelocatablePrefix) = kEntryHasStackFrame ||| kEntrySavesFrameLink |||
            kEntryRelocatablePrefix ∧
        (semantics ||| site ||| veneer) &&& kEntryHasVeneer = veneer := by
  intro veneer hveneer
  have hset := BitPattern.accepts_or veneer (BitPattern.accepts_or site hp)
  have hrefines :
      ∀ q ∈ ([⟨kEntryHookSiteBti ||| kEntryHookSitePac ||| kEntryHookSiteFrame, site⟩,
        ⟨kEntryHasStackFrame ||| kEntrySavesFrameLink ||| kEntryRelocatablePrefix,
          kEntryHasStackFrame ||| kEntrySavesFrameLink ||| kEntryRelocatablePrefix⟩,
        ⟨kEntryHasVeneer, veneer⟩] : List BitPattern),
      (⟨prologueSemantics.mask, prologueSemantics.value ||| site &&& prologueSemantics.mask |||
        veneer &&& prologueSemantics.mask⟩ : BitPattern).Refines q := by
    simp only [List.mem_cons, List.not_mem_nil, or_false] at hsite hveneer
    rcases hsite with rfl | rfl | rfl <;> rcases hveneer with rfl | rfl <;> decide
  have hall := fun q hq => BitPattern.accepts_iff.1
    ((hrefines q hq).accepts hset)
  simpa using hall

theorem classifyHookableEntry_spec (h : classifyHookableEntry k address words = some semantics) :
    Hookable k address words semantics := by
  unfold classifyHookableEntry at h
  split at h
  · rename_i entry hentry
    obtain ⟨site, hsite, rfl⟩ := Option.map_eq_some_iff.1 h
    obtain ⟨hhook, hmem⟩ := classifySingleInstructionHookSite_spec hsite
    obtain ⟨hmovable, hbits, -⟩ := classifySemanticEntry_cases hentry
    have hsem := prologueSemantics_or hbits hmem 0 (by simp)
    rw [UInt32.or_zero] at hsem
    obtain ⟨hone, hprologue, hveneer⟩ := hsem
    exact {
      hookSite := hhook
      relocatable := hhook.relocatable
      oneSite := by rwa [hone]
      prologue := hprologue
      direct := fun _ => hmovable
      veneer := fun hne => absurd hveneer hne }
  · obtain ⟨hne, hclass, habove, htext, site, targetWords, target, hsite, hread, hprologue, rfl⟩ :=
      classifyVeneerTarget_cases h
    obtain ⟨hhook, hmem⟩ := classifySingleInstructionHookSite_spec hsite
    obtain ⟨hmovable, hbits, -⟩ := classifySemanticEntry_cases hprologue
    obtain ⟨hone, hframe, hveneer⟩ := prologueSemantics_or hbits hmem kEntryHasVeneer (by simp)
    exact {
      hookSite := hhook
      relocatable := hhook.relocatable
      oneSite := by rwa [hone]
      prologue := hframe
      direct := fun h0 => absurd (hveneer.symm.trans h0) (by decide)
      veneer := fun _ =>
        ⟨hne, fun i hi => prefix_words hi, hclass, habove, htext, targetWords, hread, hmovable⟩ }

/-- A direct branch after the prefix is followed into core text or not at all. -/
theorem classifyHookableEntry_branch (h : classifyHookableEntry k address words = some semantics)
    (hbranch : A64.directBranch.accepts (words (prefixLength words)) = true) :
    addressInCoreText k (branchTarget address words) = true := by
  unfold classifyHookableEntry at h
  split at h
  · rename_i hentry
    have := (classifySemanticEntry_hookSite hentry).not_directBranch
    rw [hbranch] at this
    cases this
  · exact (classifyVeneerTarget_cases h).2.2.2.1

/-- **Main result: the hook-site gate.** An accepted entry is `Hookable`: its first word is one of
the four kinds of instruction that do not depend on their address, and what the hook moves, here or
behind a veneer, does not either. So an entry that begins with a direct branch is refused, and so
is one whose first branch, after the prefix, leaves core text, as a hook or its disabled trampoline
does. -/
theorem hook_site_gate (k : KernelModule) (address : UInt64) (words : EntryWords) :
    (∀ word, HookSite word → isPcRelativeOrControlFlow word = false) ∧
      (∀ semantics, classifyHookableEntry k address words = some semantics →
        Hookable k address words semantics) ∧
      (A64.directBranch.accepts (words 0) = true →
        classifyHookableEntry k address words = none) ∧
      (A64.directBranch.accepts (words (prefixLength words)) = true →
        addressInCoreText k (branchTarget address words) = false →
        classifyHookableEntry k address words = none) := by
  refine ⟨fun word => HookSite.relocatable, fun semantics => classifyHookableEntry_spec,
    fun hbranch => ?_, fun hbranch htext => ?_⟩
  · refine Option.eq_none_iff_forall_ne_some.2 fun semantics h => ?_
    have := (classifyHookableEntry_spec h).hookSite.not_directBranch
    rw [hbranch] at this
    cases this
  · refine Option.eq_none_iff_forall_ne_some.2 fun semantics h => ?_
    have := classifyHookableEntry_branch h hbranch
    rw [htext] at this
    cases this

/-! ## Sample kernels -/

/-- Where the core text of the samples begins. -/
def sampleText : UInt64 := 0xffffffc008000000

def sampleWords (code : List UInt32) : EntryWords := fun i => code.getD i.val 0

/-- A kernel whose core text holds `code` from its beginning on. -/
def sampleKernel (code : List UInt32) : KernelModule where
  byte a := (code.flatMap fun w => leBytes 4 w.toUInt64).getD (a - sampleText).toNat 0
  readFault _ _ := none
  symbol name :=
    if name = "_stext" then .ok sampleText
    else if name = "_etext" then .ok (sampleText + 0x10000)
    else .error errModuleParam
  taskStructFilesOffset := .ok 0
  fileStructFdtOffset := .ok 0
  fdtableFdOffset := .ok 0
  fileFOpOffset := .ok 0
  fileOperationsUnlockedIoctlOffset := .ok 0
  assembles := true
  current := 0
  executeFault := none

/-- `bti c`, a branch over two words, and the prologue it goes to. -/
def sampleVeneer (branch : UInt32) : List UInt32 :=
  [0xd503245f, branch, 0, 0, 0xd10203ff, 0xa9047bfd]

theorem hook_site_gate_veneer : Hookable (sampleKernel (sampleVeneer 0x14000003)) sampleText
    (sampleWords (sampleVeneer 0x14000003)) 0xec :=
  (hook_site_gate _ _ _).2.1 0xec (by decide +kernel)

/-! ## The branch of a veneer -/

/-- The branch of an accepted veneer is a `B`, and what was classified stands at its target. -/
def TailBranch (k : KernelModule) (address : UInt64) (words : EntryWords) (semantics : UInt32) :
    Prop :=
  A64.b.accepts (words (prefixLength words)) = true ∧
    ∃ site targetWords target, k.readEntryWords (branchTarget address words) = .ok targetWords ∧
      classifySemanticEntry targetWords = some target ∧
      semantics = target ||| site ||| kEntryHasVeneer

/-- **Main result: veneer branches.** The branch of an accepted veneer is a `B` to the classified
target exactly when bit 31 of the word is clear; with the bit set it is a `BL`. The decoder inverts
the B encoding. -/
theorem veneer_branch_iff (h : classifyVeneerTarget k address words = some semantics) :
    (TailBranch k address words semantics ↔
      words (prefixLength words) &&& 0x80000000 = 0) ∧
      ∀ d : Int, 4 ∣ d → d ≠ 0 → -2 ^ 27 ≤ d → d < 2 ^ 27 →
        decodeUnconditionalBranch (A64.encodeB d) = some d := by
  obtain ⟨-, hclass, -, -, site, targetWords, target, -, hread, hprologue, hsemantics⟩ :=
    classifyVeneerTarget_cases h
  refine ⟨⟨fun ht => (b_iff.1 ht.1).2, fun hbit => ?_⟩, fun d hd hne hlo hhi => ?_⟩
  · exact ⟨b_iff.2 ⟨hclass, hbit⟩, site, targetWords, target, hread, hprologue, hsemantics⟩
  · rw [decodeUnconditionalBranch_eq_some, A64.branchOffset_encodeB hd hlo hhi]
    exact ⟨(b_iff.1 (A64.b_encodeB d)).1, rfl, hne⟩

theorem veneer_branch_iff_b :
    TailBranch (sampleKernel (sampleVeneer 0x14000003)) sampleText
        (sampleWords (sampleVeneer 0x14000003)) 0xec ∧
      decodeUnconditionalBranch (A64.encodeB (-8)) = some (-8) := by
  have haccepted : classifyVeneerTarget (sampleKernel (sampleVeneer 0x14000003)) sampleText
      (sampleWords (sampleVeneer 0x14000003)) = some 0xec := by decide +kernel
  have h := veneer_branch_iff haccepted
  exact ⟨h.1.2 (by decide), h.2 (-8) (by decide) (by decide) (by decide) (by decide)⟩

/-- A `BL` is accepted as the branch of a veneer. -/
theorem veneer_accepts_bl :
    classifyVeneerTarget (sampleKernel (sampleVeneer 0x94000003)) sampleText
        (sampleWords (sampleVeneer 0x94000003)) = some 0xec ∧
      ¬TailBranch (sampleKernel (sampleVeneer 0x94000003)) sampleText
        (sampleWords (sampleVeneer 0x94000003)) 0xec :=
  ⟨by decide +kernel, fun h => absurd h.1 (by decide)⟩

/-! ## The frame link -/

/-- What an accepted prologue should do after its prefix: open a frame with `SUB SP` and store the
frame link, as the word taken for it, within three words; or store it with pre-index, so that the
offset is the decoded frame size. -/
def SavesFrameLink (words : EntryWords) : Prop :=
  let word := words (prefixLength words)
  (A64.subSp.accepts word = true ∧
    (∃ frameBytes, decodeSubSpFrame word = some frameBytes ∧
      frameBytes = word >>> 10 &&& 0xfff ∧ 16 ≤ frameBytes.toNat ∧ frameBytes.toNat ≤ 4080 ∧
      16 ∣ frameBytes.toNat) ∧
    ∃ cursor : Fin 64, (prefixLength words).val < cursor.val ∧
      cursor.val ≤ (prefixLength words).val + 3 ∧ frameLinkSave words = some cursor ∧
      A64.stpFrameLink.accepts (words cursor) = true) ∨
  (A64.stpFrameLinkPre.accepts word = true ∧ frameLinkSave words = some (prefixLength words) ∧
    ∃ frameBytes, decodePreindexFrameLink word = some frameBytes ∧
      A64.stp64Offset word = -frameBytes.toNat ∧ 16 ≤ frameBytes.toNat ∧
      frameBytes.toNat ≤ 512 ∧ 16 ∣ frameBytes.toNat)

theorem frameLinkCursor_spec {index cursor : Fin 64}
    (h : frameLinkCursor words index = some cursor) :
    index ≤ cursor ∧ cursor.val < index.val + 3 ∧
      frameLinkStore.accepts (words cursor) = true := by
  have hfound := List.find?_some h
  simp only [Bool.and_eq_true, decide_eq_true_eq] at hfound
  obtain ⟨⟨hle, hlt⟩, hstore⟩ := hfound
  exact ⟨hle, by omega, isFrameLinkStore_iff.1 hstore⟩

/-- **Main result: frame links.** An accepted prologue saves the frame link exactly when the word
taken for the save has bits 30 and 26 clear. -/
theorem frame_link_saved_iff (h : classifySemanticEntry words = some semantics) :
    SavesFrameLink words ↔
      ∀ cursor, frameLinkSave words = some cursor → words cursor &&& 0x44000000 = 0 := by
  have hsmall := prefixLength_le words
  obtain ⟨-, -, ⟨frameBytes, cursor, hsub, hcursor⟩ | ⟨hnone, frameBytes, hpre⟩⟩ :=
    classifySemanticEntry_cases h
  · have hsave : frameLinkSave words = some cursor := by simp [frameLinkSave, hsub, hcursor]
    obtain ⟨hle, hlt, hstore⟩ := frameLinkCursor_spec hcursor
    obtain ⟨hclass, hframe, hrange⟩ := decodeSubSpFrame_spec hsub
    have hindex : (prefixLength words + 1).val = (prefixLength words).val + 1 := by
      rw [Fin.val_add]
      exact Nat.mod_eq_of_lt (by omega)
    have hle' : (prefixLength words + 1).val ≤ cursor.val := hle
    constructor
    · rintro (⟨-, -, c, -, -, hc, hstp⟩ | ⟨hstp, -⟩) c' hc'
      · obtain rfl : c = c' := Option.some.inj (hc.symm.trans hc')
        exact (stpFrameLink_iff.1 hstp).2
      · have hexcludes : A64.subSp.Excludes A64.stpFrameLinkPre := by decide
        have := hexcludes.not_accepts hclass
        rw [hstp] at this
        cases this
    · intro hbits
      exact .inl ⟨hclass, ⟨frameBytes, hsub, hframe, hrange⟩, cursor, by omega, by omega, hsave,
        stpFrameLink_iff.2 ⟨hstore, hbits cursor hsave⟩⟩
  · have hsave : frameLinkSave words = some (prefixLength words) := by
      simp [frameLinkSave, hnone]
    obtain ⟨hstore, hindex, hsize, hrange⟩ := decodePreindexFrameLink_spec hpre
    constructor
    · rintro (⟨-, ⟨_, hsub, -⟩, -⟩ | ⟨hstp, -⟩) c hc
      · rw [hnone] at hsub
        cases hsub
      · obtain rfl := Option.some.inj (hsave.symm.trans hc)
        have hrefines : A64.stpFrameLinkPre.Refines A64.stpFrameLink := by decide
        exact (stpFrameLink_iff.1 (hrefines.accepts hstp)).2
    · intro hbits
      have hstp := stpFrameLink_iff.2 ⟨hstore, hbits _ hsave⟩
      have hmore : (⟨0x01800000, 0x01800000⟩ : BitPattern).Refines (.bits 23 23 1) := by decide
      refine .inr ⟨BitPattern.accepts_all_of ?_, hsave, frameBytes, hpre, by omega, hrange⟩
      simp [hstp, hmore.accepts hindex]

/-- `sub sp, sp, #0x80`, then a pair store. -/
def samplePrologue (store : UInt32) : EntryWords := sampleWords [0xd10203ff, store]

theorem frame_link_saved_iff_stp : SavesFrameLink (samplePrologue 0xa9047bfd) := by
  have haccepted : classifySemanticEntry (samplePrologue 0xa9047bfd) = some 0x2c := by decide
  exact (frame_link_saved_iff haccepted).2 (by decide)

/-- `stp q29, q30, [sp, #0x40]` is accepted as the frame-link save. -/
theorem prologue_accepts_simd_pair :
    classifySemanticEntry (samplePrologue 0xad027bfd) = some 0x2c ∧
      ¬SavesFrameLink (samplePrologue 0xad027bfd) := by
  have hsave : frameLinkSave (samplePrologue 0xad027bfd) = some 1 := by decide
  refine ⟨by decide, ?_⟩
  rintro (⟨-, -, cursor, -, -, hcursor, hstp⟩ | ⟨hstp, -⟩)
  · obtain rfl := Option.some.inj (hsave.symm.trans hcursor)
    exact absurd hstp (by decide)
  · exact absurd hstp (by decide)

end Drmid
