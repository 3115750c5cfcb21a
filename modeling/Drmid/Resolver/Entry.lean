import Drmid.Kernel.KernelModule
import Drmid.Lib.A64

/-!
# The entry classifier

`classify_hookable_entry` of `binder_ioctl_resolver.cpp` looks at the first words of the function
it is about to hook and accepts two shapes: a prologue that saves the frame link
(`classify_semantic_entry`), and a veneer, a `BTI` or `PACIASP` followed by a direct branch to such
a prologue in core text (`classify_veneer_target`). A rejected entry is `none`; an accepted one
gives the `BinderEntrySemantic` bits.

Opcode tests of the form `(word & mask) == value` are `BitPattern`s.
-/

namespace Drmid

open Lib

/-! ## Semantics bits -/

def kEntryHasBti : UInt32 := 0x1
def kEntryHasPac : UInt32 := 0x2
def kEntryHasStackFrame : UInt32 := 0x4
def kEntrySavesFrameLink : UInt32 := 0x8
def kEntrySetsFramePointer : UInt32 := 0x10
def kEntryRelocatablePrefix : UInt32 := 0x20
def kEntryHasVeneer : UInt32 := 0x40
def kEntryHookSiteBti : UInt32 := 0x80
def kEntryHookSitePac : UInt32 := 0x100
def kEntryHookSiteFrame : UInt32 := 0x200

def kBinderEntryProbeBytes : Nat := 256

/-- The probed words of an entry. -/
abbrev EntryWords := Fin 64 → UInt32

/-- The probe: `kBinderEntryProbeBytes` of kernel memory as words. -/
def KernelModule.readEntryWords (k : KernelModule) (addr : UInt64) :
    Except KModFailure EntryWords :=
  (k.readKernelMem addr kBinderEntryProbeBytes).map fun data i => le32 fun j => data (4 * i + j)

/-! ## Single instructions -/

/-- `is_bti`. -/
def isBti (word : UInt32) : Bool :=
  word == 0xd503245f || word == 0xd503249f || word == 0xd50324df

/-- `is_pac_stack`. -/
def isPacStack (word : UInt32) : Bool := word == 0xd503233f || word == 0xd503237f

/-- `decode_sub_sp_frame`: the frame size. -/
def decodeSubSpFrame (word : UInt32) : Option UInt32 :=
  if !(⟨0xffc003ff, 0xd10003ff⟩ : BitPattern).accepts word then none
  else
    let immediate := word >>> 10 &&& 0xfff
    let shift := word >>> 22 &&& 1
    if shift ≠ 0 ∨ immediate < 16 ∨ 4096 < immediate ∨ immediate &&& 0xf ≠ 0 then none
    else some immediate

/-- `is_store_pair_to_sp`. -/
def isStorePairToSp (word : UInt32) : Bool :=
  word &&& 0x80000000 != 0 && (⟨0x3b400000, 0x29000000⟩ : BitPattern).accepts word &&
    word >>> 5 &&& 0x1f == 31

/-- `is_frame_link_store`. -/
def isFrameLinkStore (word : UInt32) : Bool :=
  isStorePairToSp word && word &&& 0x1f == 29 && word >>> 10 &&& 0x1f == 30

/-- `decode_preindex_frame_link`: the frame size. -/
def decodePreindexFrameLink (word : UInt32) : Option UInt32 :=
  if !isFrameLinkStore word || !(⟨0x01800000, 0x01800000⟩ : BitPattern).accepts word then none
  else
    let immediate : Int := (word >>> 15 &&& 0x7f).toNat
    let immediate := if word >>> 15 &&& 0x7f &&& 0x40 ≠ 0 then immediate - 0x80 else immediate
    let immediate := immediate * 8
    if 0 ≤ immediate ∨ 4096 < -immediate ∨ -immediate % 16 ≠ 0 then none
    else some (UInt32.ofNat (-immediate).toNat)

/-- `is_mov_fp_sp`. -/
def isMovFpSp (word : UInt32) : Bool := word == 0x910003fd

/-- The comparisons of `is_pc_relative_or_control_flow`. -/
def pcRelativeOrControlFlow : List BitPattern :=
  [⟨0x7c000000, 0x14000000⟩, ⟨0xff000010, 0x54000000⟩, ⟨0x7e000000, 0x34000000⟩,
    ⟨0x7e000000, 0x36000000⟩, ⟨0x1f000000, 0x10000000⟩, ⟨0x9f000000, 0x90000000⟩,
    ⟨0x3b000000, 0x18000000⟩, ⟨0xfe000000, 0xd6000000⟩]

/-- `is_pc_relative_or_control_flow`. -/
def isPcRelativeOrControlFlow (word : UInt32) : Bool :=
  pcRelativeOrControlFlow.any (·.accepts word)

/-- `classify_single_instruction_hook_site`. -/
def classifySingleInstructionHookSite (word : UInt32) : Option UInt32 :=
  if isBti word then some kEntryHookSiteBti
  else if isPacStack word then some kEntryHookSitePac
  else if (decodeSubSpFrame word).isSome || (decodePreindexFrameLink word).isSome then
    some kEntryHookSiteFrame
  else none

/-- `decode_unconditional_branch`: a non-zero displacement. -/
def decodeUnconditionalBranch (word : UInt32) : Option Int :=
  if !(⟨0x7c000000, 0x14000000⟩ : BitPattern).accepts word then none
  else
    let immediate : Int := (word &&& 0x03ffffff).toNat
    let immediate := if word &&& 0x03ffffff &&& 0x02000000 ≠ 0 then immediate - 2 ^ 26
      else immediate
    let displacement := immediate * 4
    if displacement ≠ 0 then some displacement else none

/-! ## Prologues -/

/-- The words of the optional `BTI` and `PACIASP` prefix. -/
def prefixLength (words : EntryWords) : Fin 64 :=
  let index : Fin 64 := if isBti (words 0) then 1 else 0
  if isPacStack (words index) then index + 1 else index

def prefixSemantics (words : EntryWords) : UInt32 :=
  let semantics := if isBti (words 0) then kEntryHasBti else 0
  let index : Fin 64 := if isBti (words 0) then 1 else 0
  if isPacStack (words index) then semantics ||| kEntryHasPac else semantics

/-- The loop that looks for the frame-link save after `SUB SP`: where it stops. -/
def frameLinkCursor (words : EntryWords) (index : Fin 64) : Option (Fin 64) :=
  (List.finRange 64).find? fun cursor =>
    index ≤ cursor && cursor.val < min (index.val + 3) 8 && isFrameLinkStore (words cursor)

/-- The word that `classify_semantic_entry` takes for the frame-link save: the first pair store it
finds after `SUB SP`, or else the pre-indexed store itself. -/
def frameLinkSave (words : EntryWords) : Option (Fin 64) :=
  if (decodeSubSpFrame (words (prefixLength words))).isSome then
    frameLinkCursor words (prefixLength words + 1)
  else some (prefixLength words)

/-- The end of `classify_semantic_entry`: none of the first four words is position-dependent. -/
def checkRelocatable (words : EntryWords) (semantics frameBytes : UInt32) : Option UInt32 :=
  if ([0, 1, 2, 3] : List (Fin 64)).any fun cursor => isPcRelativeOrControlFlow (words cursor) then
    none
  else if frameBytes ≠ 0 then some (semantics ||| kEntryRelocatablePrefix)
  else none

/-- `classify_semantic_entry`. -/
def classifySemanticEntry (words : EntryWords) : Option UInt32 :=
  let index := prefixLength words
  let semantics := prefixSemantics words
  if 4 ≤ index then none
  else match decodeSubSpFrame (words index) with
    | some frameBytes =>
      if (frameLinkCursor words (index + 1)).isSome then
        checkRelocatable words (semantics ||| kEntryHasStackFrame ||| kEntrySavesFrameLink)
          frameBytes
      else none
    | none =>
      match decodePreindexFrameLink (words index) with
      | some frameBytes =>
        let semantics := semantics ||| (kEntryHasStackFrame ||| kEntrySavesFrameLink)
        let semantics :=
          if (index + 1).val < 8 ∧ isMovFpSp (words (index + 1)) then
            semantics ||| kEntrySetsFramePointer
          else semantics
        checkRelocatable words semantics frameBytes
      | none => none

/-! ## Core text and veneers -/

/-- The symbol pairs of `address_in_core_text`. -/
def coreTextRanges : List (String × String) := [("_stext", "_etext"), ("_text", "_etext")]

/-- `address_in_core_text`. -/
def addressInCoreText (k : KernelModule) (address : UInt64) : Bool :=
  coreTextRanges.any fun (first, second) =>
    match k.symbol first, k.symbol second with
    | .ok start, .ok stop =>
      isKernelPointer start && isKernelPointer stop && decide (start < stop) &&
        decide (start ≤ address) && decide (address < stop)
    | _, _ => false

/-- `classify_veneer_target`. -/
def classifyVeneerTarget (k : KernelModule) (entryAddress : UInt64) (entryWords : EntryWords) :
    Option UInt32 :=
  let branchIndex := prefixLength entryWords
  if branchIndex = 0 ∨ 4 ≤ branchIndex then none
  else do
    let hookSiteSemantics ← classifySingleInstructionHookSite (entryWords 0)
    let displacement ← decodeUnconditionalBranch (entryWords branchIndex)
    if displacement ≤ 0 then none
    else
      let branchPc := entryAddress + UInt64.ofNat (branchIndex.val * 4)
      let target := branchPc + UInt64.ofInt displacement
      if target ≤ entryAddress ∨ !isKernelPointer target ∨ !addressInCoreText k target then none
      else do
        let targetWords ← (k.readEntryWords target).toOption
        let targetSemantics ← classifySemanticEntry targetWords
        some (targetSemantics ||| hookSiteSemantics ||| kEntryHasVeneer)

/-- `classify_hookable_entry`. -/
def classifyHookableEntry (k : KernelModule) (entryAddress : UInt64) (entryWords : EntryWords) :
    Option UInt32 :=
  match classifySemanticEntry entryWords with
  | some entrySemantics =>
    (classifySingleInstructionHookSite (entryWords 0)).map (entrySemantics ||| ·)
  | none => classifyVeneerTarget k entryAddress entryWords

end Drmid
