import Drmid.Resolver.Proof.Members
import Drmid.Resolver.Proof.Entry

/-!
# What a resolution promises

`resolver_sound`: whatever memory, symbols and SDK answers are, an accepted resolution is
consistent: its pointers stand where its offsets say, its backend is that of a visible symbol which
one of them is the address of, and its entry is in core text and hookable. `resolved_entry_iff`
says when the entry is the one the descriptor reaches: the scan for a visible symbol may put
another pointer in the place of the true one.
-/

namespace Drmid

variable {k : KernelModule} {value : UInt64} {symbols : List SymbolCandidate}

theorem bind_eq_ok {ε α β : Type} {x : Except ε α} {f : α → Except ε β} {b : β} :
    (x >>= f) = .ok b ↔ ∃ a, x = .ok a ∧ f a = .ok b := by
  cases x <;> simp [bind, Except.bind]

/-! ## The stages of a resolution -/

/-- The symbols looked up for the two members. -/
abbrev fopsSymbols (k : KernelModule) : List SymbolCandidate := resolveSymbols k fopsCandidates
abbrev ioctlSymbols (k : KernelModule) : List SymbolCandidate := resolveSymbols k ioctlCandidates

/-- What each stage of an accepted resolution has found. -/
structure Resolved (k : KernelModule) (fd : Int) (out : BinderIoctlResolution)
    (offsets : BinderKernelOffsets) (fileSource ioctlSource : BinderOffsetSource)
    (fops ioctl : PointerMember) : Prop where
  loaded : loadOffsets k = .ok (offsets, fileSource, ioctlSource)
  file : resolveFileFromCurrentFd k fd offsets = .ok out.fileKaddr
  fopsMember : resolvePointerMember k out.fileKaddr offsets.fileFOp fileSource kMaxFileMemberScan
    (fopsSymbols k) = fops
  ioctlMember : resolvePointerMember k fops.value offsets.fopsUnlockedIoctl ioctlSource
    kMaxFopsMemberScan (ioctlSymbols k) = ioctl
  fopsPointer : isKernelPointer fops.value = true
  ioctlPointer : isKernelPointer ioctl.value = true
  compatible : compatibleSymbolBackends fops.symbol ioctl.symbol = true
  validated : matchedValidations fops.symbol ioctl.symbol ≠ 0
  known : matchedBackend fops.symbol ioctl.symbol ≠ .unknown
  fopsSeen : overlooksSymbol (fopsSymbols k) (matchedBackend fops.symbol ioctl.symbol)
    fops.symbol = false
  ioctlSeen : overlooksSymbol (ioctlSymbols k) (matchedBackend fops.symbol ioctl.symbol)
    ioctl.symbol = false
  symbolsText : allAvailableIoctlSymbolsAreText k (ioctlSymbols k) = true
  ioctlText : addressInCoreText k ioctl.value = true
  entry : k.readEntryWords ioctl.value = .ok out.entryWords
  hookable : classifyHookableEntry k ioctl.value out.entryWords = some out.entrySemantics
  fopsKaddr : out.fopsKaddr = fops.value
  ioctlKaddr : out.ioctlKaddr = ioctl.value
  fopsOffset : out.offsets.fileFOp = fops.offset
  ioctlOffset : out.offsets.fopsUnlockedIoctl = ioctl.offset
  fopsFrom : out.fileFOpSource = fops.source
  ioctlFrom : out.fopsUnlockedIoctlSource = ioctl.source
  backend : out.backend = matchedBackend fops.symbol ioctl.symbol
  capabilities : out.capabilities = kRequiredBinderCapabilities

theorem collectedCapabilities_eq : collectedCapabilities = kRequiredBinderCapabilities := by
  decide

theorem resolveBinderIoctlFromFd_cases {fd : Int} {out : BinderIoctlResolution}
    (h : resolveBinderIoctlFromFd k fd = .ok out) :
    ∃ offsets fileSource ioctlSource fops ioctl,
      Resolved k fd out offsets fileSource ioctlSource fops ioctl := by
  obtain ⟨⟨offsets, fileSource, ioctlSource⟩, hoffsets, h⟩ := bind_eq_ok.1 h
  obtain ⟨file, hfile, h⟩ := bind_eq_ok.1 h
  dsimp only at h
  split at h
  · cases h
  rename_i hfops
  split at h
  · cases h
  rename_i hioctl
  split at h
  · cases h
  rename_i hcompatible
  split at h
  · cases h
  rename_i hvalidated
  split at h
  · cases h
  rename_i hseen
  split at h
  · cases h
  rename_i htext
  obtain ⟨words, hread, h⟩ := bind_eq_ok.1 h
  split at h
  · cases h
  rename_i semantics hsemantics
  obtain rfl := Except.ok.inj h
  simp only [Bool.not_eq_true', Bool.not_eq_false, Bool.or_eq_true, not_or, Bool.not_eq_true]
    at hfops hioctl hcompatible hvalidated hseen htext
  exact ⟨offsets, fileSource, ioctlSource, _, _, {
    loaded := hoffsets
    file := hfile
    fopsMember := rfl
    ioctlMember := rfl
    fopsPointer := hfops
    ioctlPointer := hioctl
    compatible := hcompatible
    validated := hvalidated.1
    known := hvalidated.2
    fopsSeen := hseen.1
    ioctlSeen := hseen.2
    symbolsText := htext.1
    ioctlText := htext.2
    entry := hread
    hookable := hsemantics
    fopsKaddr := rfl
    ioctlKaddr := rfl
    fopsOffset := rfl
    ioctlOffset := rfl
    fopsFrom := rfl
    ioctlFrom := rfl
    backend := rfl
    capabilities := collectedCapabilities_eq }⟩

theorem resolveFileFromCurrentFd_pointer {fd : Int} {offsets : BinderKernelOffsets}
    {file : UInt64} (h : resolveFileFromCurrentFd k fd offsets = .ok file) :
    isKernelPointer file = true := by
  unfold resolveFileFromCurrentFd at h
  split at h
  · cases h
  split at h
  · cases h
  split at h
  · cases h
  dsimp only at h
  split at h
  · rename_i hpointer
    cases h
    exact hpointer
  · cases h

namespace Resolved

variable {fd : Int} {out : BinderIoctlResolution} {offsets : BinderKernelOffsets}
  {fileSource ioctlSource : BinderOffsetSource} {fops ioctl : PointerMember}

theorem backend_ne (r : Resolved k fd out offsets fileSource ioctlSource fops ioctl) :
    out.backend ≠ .unknown := by
  rw [r.backend]
  exact r.known

theorem capable (r : Resolved k fd out offsets fileSource ioctlSource fops ioctl) :
    hasRequiredBinderCapabilities out = true := by
  simp [hasRequiredBinderCapabilities, r.backend_ne, resolveFileFromCurrentFd_pointer r.file,
    r.fopsKaddr, r.fopsPointer, r.ioctlKaddr, r.ioctlPointer, r.capabilities]

theorem fops_sound (r : Resolved k fd out offsets fileSource ioctlSource fops ioctl) :
    (fops.source = .sdk ∨ fops.source = .symbolScan) ∧
      k.word64 (out.fileKaddr + fops.offset.toUInt64) = fops.value ∧
      fops.symbol = matchingSymbol fops.value (fopsSymbols k) := by
  have h := resolvePointerMember_sound (kernelSymbols_resolveSymbols k fopsCandidates)
    (by rw [r.fopsMember]; exact r.fopsPointer)
  rwa [r.fopsMember] at h

theorem ioctl_sound (r : Resolved k fd out offsets fileSource ioctlSource fops ioctl) :
    (ioctl.source = .sdk ∨ ioctl.source = .symbolScan) ∧
      k.word64 (fops.value + ioctl.offset.toUInt64) = ioctl.value ∧
      ioctl.symbol = matchingSymbol ioctl.value (ioctlSymbols k) := by
  have h := resolvePointerMember_sound (kernelSymbols_resolveSymbols k ioctlCandidates)
    (by rw [r.ioctlMember]; exact r.ioctlPointer)
  rwa [r.ioctlMember] at h

end Resolved

/-! ## Soundness -/

/-- `value` is the address of a visible symbol of `backend`. -/
def VisibleOf (symbols : List SymbolCandidate) (backend : BinderBackend) (value : UInt64) : Prop :=
  ∃ symbol ∈ symbols, symbol.available = true ∧ symbol.backend = backend ∧ symbol.address = value

/-- What an accepted resolution promises. -/
structure SoundResolution (k : KernelModule) (out : BinderIoctlResolution) : Prop where
  capable : hasRequiredBinderCapabilities out = true
  fileSource : out.fileFOpSource = .sdk ∨ out.fileFOpSource = .symbolScan
  ioctlSource : out.fopsUnlockedIoctlSource = .sdk ∨ out.fopsUnlockedIoctlSource = .symbolScan
  fopsWord : k.word64 (out.fileKaddr + out.offsets.fileFOp.toUInt64) = out.fopsKaddr
  ioctlWord : k.word64 (out.fopsKaddr + out.offsets.fopsUnlockedIoctl.toUInt64) = out.ioctlKaddr
  backend : out.backend ≠ .unknown
  /-- One of the two pointers is the address of a symbol of the backend. -/
  crossChecked : VisibleOf (fopsSymbols k) out.backend out.fopsKaddr ∨
    VisibleOf (ioctlSymbols k) out.backend out.ioctlKaddr
  /-- A symbol of the backend that is visible is authoritative. -/
  fopsChecked : (∃ v, VisibleOf (fopsSymbols k) out.backend v) →
    VisibleOf (fopsSymbols k) out.backend out.fopsKaddr
  ioctlChecked : (∃ v, VisibleOf (ioctlSymbols k) out.backend v) →
    VisibleOf (ioctlSymbols k) out.backend out.ioctlKaddr
  symbolsText : ∀ symbol ∈ ioctlSymbols k, symbol.available = true →
    addressInCoreText k symbol.address = true
  ioctlText : addressInCoreText k out.ioctlKaddr = true
  entry : k.readEntryWords out.ioctlKaddr = .ok out.entryWords
  hookable : classifyHookableEntry k out.ioctlKaddr out.entryWords = some out.entrySemantics

/-- A matched symbol of the backend is a visible one. -/
theorem visibleOf_of_matched {matched : Option SymbolCandidate} {backend : BinderBackend}
    (hm : matched = matchingSymbol value symbols) (hb : matched.map (·.backend) = some backend) :
    VisibleOf symbols backend value := by
  obtain ⟨symbol, rfl, rfl⟩ := Option.map_eq_some_iff.1 hb
  obtain ⟨hmem, havailable, haddress⟩ := matchingSymbol_eq_some hm.symm
  exact ⟨symbol, hmem, havailable, rfl, haddress⟩

theorem matched_of_visible {matched : Option SymbolCandidate} {backend : BinderBackend}
    (hseen : overlooksSymbol symbols backend matched = false)
    (hv : ∃ v, VisibleOf symbols backend v) : matched.map (·.backend) = some backend := by
  obtain ⟨v, symbol, hmem, havailable, hbackend, -⟩ := hv
  have hany : backendSymbolAvailable symbols backend = true :=
    List.any_eq_true.2 ⟨symbol, hmem, by simp [havailable, hbackend]⟩
  simpa [overlooksSymbol, hany] using hseen

/-- **Main result: resolver soundness.** -/
theorem resolver_sound {fd : Int} {out : BinderIoctlResolution}
    (h : resolveBinderIoctlFromFd k fd = .ok out) : SoundResolution k out := by
  obtain ⟨offsets, fileSource, ioctlSource, fops, ioctl, r⟩ := resolveBinderIoctlFromFd_cases h
  obtain ⟨hfopsSource, hfopsWord, hfopsSymbol⟩ := r.fops_sound
  obtain ⟨hioctlSource, hioctlWord, hioctlSymbol⟩ := r.ioctl_sound
  have hknown := r.backend_ne
  have hfopsSeen := r.fopsSeen
  have hioctlSeen := r.ioctlSeen
  rw [← r.backend] at hfopsSeen hioctlSeen
  -- the backend is that of a matched symbol
  have hmatched : fops.symbol.map (·.backend) = some out.backend ∨
      ioctl.symbol.map (·.backend) = some out.backend := by
    rw [r.backend] at hknown ⊢
    unfold matchedBackend at hknown ⊢
    cases hi : ioctl.symbol with
    | some symbol => exact .inr rfl
    | none =>
      cases hf : fops.symbol with
      | some symbol => exact .inl rfl
      | none => simp [hi, hf] at hknown
  exact {
    capable := r.capable
    fileSource := by rw [r.fopsFrom]; exact hfopsSource
    ioctlSource := by rw [r.ioctlFrom]; exact hioctlSource
    fopsWord := by rw [r.fopsOffset, r.fopsKaddr]; exact hfopsWord
    ioctlWord := by rw [r.ioctlOffset, r.fopsKaddr, r.ioctlKaddr]; exact hioctlWord
    backend := hknown
    crossChecked := by
      rw [r.fopsKaddr, r.ioctlKaddr]
      exact hmatched.imp (visibleOf_of_matched hfopsSymbol) (visibleOf_of_matched hioctlSymbol)
    fopsChecked := fun hv => by
      rw [r.fopsKaddr]
      exact visibleOf_of_matched hfopsSymbol (matched_of_visible hfopsSeen hv)
    ioctlChecked := fun hv => by
      rw [r.ioctlKaddr]
      exact visibleOf_of_matched hioctlSymbol (matched_of_visible hioctlSeen hv)
    symbolsText := fun symbol hmem havailable => by
      simpa [havailable] using List.all_eq_true.1 r.symbolsText symbol hmem
    ioctlText := by rw [r.ioctlKaddr]; exact r.ioctlText
    entry := by rw [r.ioctlKaddr]; exact r.entry
    hookable := by rw [r.ioctlKaddr]; exact r.hookable }

/-! ## The entry the descriptor reaches -/

/-- The file that a descriptor of the running task refers to. -/
def fdFile (k : KernelModule) (fd : Int) : Except KModFailure UInt64 := do
  let (offsets, _, _) ← loadOffsets k
  resolveFileFromCurrentFd k fd offsets

/-- When the entry found is the true one. The two pointers at the SDK's offsets both stay; or a
replacement leads to the same entry. -/
def EntryReached (k : KernelModule) (file : UInt64) (fileFOp unlockedIoctl : UInt32) : Prop :=
  let fops := k.word64 (file + fileFOp.toUInt64)
  let entry := k.word64 (fops + unlockedIoctl.toUInt64)
  let fopsStays := Undisturbed k file fileFOp kMaxFileMemberScan (fopsSymbols k)
  let ioctlStays := fun table =>
    Undisturbed k table unlockedIoctl kMaxFopsMemberScan (ioctlSymbols k)
  let ioctlReplaced := fun table =>
    ReplacedBy k table unlockedIoctl kMaxFopsMemberScan (ioctlSymbols k)
  (fopsStays ∧ ioctlStays fops) ∨ (fopsStays ∧ ioctlReplaced fops entry) ∨
    ∃ table, ReplacedBy k file fileFOp kMaxFileMemberScan (fopsSymbols k) table ∧
      ((ioctlStays table ∧ k.word64 (table + unlockedIoctl.toUInt64) = entry) ∨
        ioctlReplaced table entry)

theorem loadOffsets_members {offsets : BinderKernelOffsets}
    {fileSource ioctlSource : BinderOffsetSource}
    (h : loadOffsets k = .ok (offsets, fileSource, ioctlSource)) :
    memberOffset k.fileFOpOffset kMaxFileMemberScan = (offsets.fileFOp, fileSource) ∧
      memberOffset k.fileOperationsUnlockedIoctlOffset kMaxFopsMemberScan =
        (offsets.fopsUnlockedIoctl, ioctlSource) := by
  obtain ⟨_, -, h⟩ := bind_eq_ok.1 h
  obtain ⟨_, -, h⟩ := bind_eq_ok.1 h
  obtain ⟨_, -, h⟩ := bind_eq_ok.1 h
  simp only [Except.ok.injEq, Prod.mk.injEq] at h
  obtain ⟨rfl, rfl, rfl⟩ := h
  exact ⟨rfl, rfl⟩

/-- **Main result: the resolved entry.** With the true offsets from the SDK, an accepted resolution
has the entry at the true `unlocked_ioctl` slot of the file's operations exactly when
`EntryReached` holds of the kernel. -/
theorem resolved_entry_iff {fd : Int} {file : UInt64} {fileFOp unlockedIoctl : UInt32}
    {out : BinderIoctlResolution} (hfile : fdFile k fd = .ok file)
    (hfops : k.fileFOpOffset = .ok fileFOp)
    (hioctl : k.fileOperationsUnlockedIoctlOffset = .ok unlockedIoctl)
    (h : resolveBinderIoctlFromFd k fd = .ok out) :
    out.ioctlKaddr =
        k.word64 (k.word64 (file + fileFOp.toUInt64) + unlockedIoctl.toUInt64) ↔
      EntryReached k file fileFOp unlockedIoctl := by
  obtain ⟨offsets, fileSource, ioctlSource, fops, ioctl, r⟩ := resolveBinderIoctlFromFd_cases h
  have hsame : fdFile k fd = .ok out.fileKaddr := by
    rw [fdFile, r.loaded]
    exact r.file
  obtain rfl : file = out.fileKaddr := Except.ok.inj (hfile.symm.trans hsame)
  obtain ⟨hfileOffset, hioctlOffset⟩ := loadOffsets_members r.loaded
  have hfopsMember := resolvePointerMember_exact (kernelSymbols_resolveSymbols k fopsCandidates)
    hfops (by rw [hfileOffset]; exact r.fopsMember) r.fopsPointer
  have hioctlMember := resolvePointerMember_exact (kernelSymbols_resolveSymbols k ioctlCandidates)
    hioctl (by rw [hioctlOffset]; exact r.ioctlMember) r.ioctlPointer
  rw [r.ioctlKaddr]
  rcases hfopsMember with ⟨hstays, hvalue⟩ | hreplaced
  · rw [hvalue] at hioctlMember
    constructor
    · intro heq
      rcases hioctlMember with ⟨hioctlStays, -⟩ | hioctlReplaced
      · exact .inl ⟨hstays, hioctlStays⟩
      · exact .inr (.inl ⟨hstays, heq ▸ hioctlReplaced⟩)
    · rintro (⟨-, hioctlStays⟩ | ⟨-, hentry⟩ | ⟨table, htable, -⟩)
      · exact hioctlMember.elim (·.2) fun hr => absurd hr hioctlStays.not_replaced
      · exact hioctlMember.elim (fun hm => absurd hentry hm.1.not_replaced)
          fun hr => hr.unique hentry
      · exact absurd htable hstays.not_replaced
  · constructor
    · intro heq
      refine .inr (.inr ⟨fops.value, hreplaced, ?_⟩)
      rcases hioctlMember with ⟨hioctlStays, hioctlValue⟩ | hioctlReplaced
      · exact .inl ⟨hioctlStays, hioctlValue.symm.trans heq⟩
      · exact .inr (heq ▸ hioctlReplaced)
    · rintro (⟨hstays, -⟩ | ⟨hstays, -⟩ | ⟨table, htable, hentry⟩)
      · exact absurd hreplaced hstays.not_replaced
      · exact absurd hreplaced hstays.not_replaced
      · obtain rfl := hreplaced.unique htable
        rcases hentry with ⟨hioctlStays, hword⟩ | hentry
        · exact hioctlMember.elim (fun hm => hm.2.trans hword)
            fun hr => absurd hr hioctlStays.not_replaced
        · exact hioctlMember.elim (fun hm => absurd hentry hm.1.not_replaced)
            fun hr => hr.unique hentry

/-! ## Sample kernels -/

/-- A kernel with the given words and symbols, whose descriptor 5 refers to a Binder file. -/
def tableKernel (words : List (UInt64 × UInt64)) (symbols : List (String × UInt64)) :
    KernelModule where
  byte a := ((words.lookup (a - a % 8)).getD 0 >>> (a % 8 * 8)).toUInt8
  readFault _ _ := none
  symbol name := match symbols.lookup name with
    | some address => .ok address
    | none => .error errModuleParam
  taskStructFilesOffset := .ok 0x10
  fileStructFdtOffset := .ok 0x20
  fdtableFdOffset := .ok 0x8
  fileFOpOffset := .ok 0x28
  fileOperationsUnlockedIoctlOffset := .ok 0x50
  assembles := true
  current := 0xffffff8000001000
  executeFault := none

/-- The walk from the task to the file, and a prologue at two entries. -/
def sampleTable : List (UInt64 × UInt64) :=
  [(0xffffff8000001010, 0xffffff8000002000), (0xffffff8000002020, 0xffffff8000003000),
    (0xffffff8000003008, 0xffffff8000004000), (0xffffff8000004028, 0xffffff8000005000),
    (0xffffff8000005028, 0xffffffc009000000), (0xffffffc009000050, 0xffffffc008001000),
    (0xffffffc009000058, 0xffffffc008002000), (0xffffffc008001000, 0x910003fda9bf7bfd),
    (0xffffffc008002000, 0x910003fda9bf7bfd)]

def sampleSymbols (visible : List (String × UInt64)) : List (String × UInt64) :=
  ("_stext", 0xffffffc008000000) :: ("_etext", 0xffffffc008100000) :: visible

/-- A classic driver that shows both symbols. -/
def classicKernel : KernelModule := tableKernel sampleTable
  (sampleSymbols [("binder_fops", 0xffffffc009000000), ("binder_ioctl", 0xffffffc008001000)])

/-- A Rust driver that shows its table and its compat entry, but not the entry itself. -/
def compatKernel : KernelModule := tableKernel sampleTable
  (sampleSymbols [("rust_binder_fops", 0xffffffc009000000),
    ("rust_binder_compat_ioctl", 0xffffffc008002000)])

theorem classicKernel_resolves :
    ((resolveBinderIoctlFromFd classicKernel 5).toOption.map (·.ioctlKaddr)) =
      some 0xffffffc008001000 := by
  decide +kernel

theorem resolver_sound_classic : ∃ out, resolveBinderIoctlFromFd classicKernel 5 = .ok out ∧
    SoundResolution classicKernel out := by
  obtain ⟨out, hout, -⟩ := Option.map_eq_some_iff.1 classicKernel_resolves
  exact ⟨out, toOption_eq_some.1 hout, resolver_sound (toOption_eq_some.1 hout)⟩

theorem resolved_entry_iff_classic :
    EntryReached classicKernel 0xffffff8000005000 0x28 0x50 := by
  obtain ⟨out, hout, hentry⟩ := Option.map_eq_some_iff.1 classicKernel_resolves
  have hfile : (fdFile classicKernel 5).toOption = some 0xffffff8000005000 := by decide +kernel
  refine (resolved_entry_iff (toOption_eq_some.1 hfile) rfl rfl (toOption_eq_some.1 hout)).1 ?_
  rw [hentry]
  decide +kernel

/-- The compat entry is hooked in place of the entry the descriptor reaches. -/
theorem resolver_takes_compat_entry :
    compatKernel.fileFOpOffset = .ok 0x28 ∧
      compatKernel.fileOperationsUnlockedIoctlOffset = .ok 0x50 ∧
      (fdFile compatKernel 5).toOption = some 0xffffff8000005000 ∧
      compatKernel.word64 (0xffffff8000005000 + 0x28) = 0xffffffc009000000 ∧
      compatKernel.word64 (0xffffffc009000000 + 0x50) = 0xffffffc008001000 ∧
      compatKernel.word64 (0xffffffc009000000 + 0x58) = 0xffffffc008002000 ∧
      isKernelPointer 0xffffffc009000000 = true ∧ isKernelPointer 0xffffffc008001000 = true ∧
      (resolveBinderIoctlFromFd compatKernel 5).toOption.map (·.ioctlKaddr) =
        some 0xffffffc008002000 :=
  ⟨rfl, rfl, by decide +kernel⟩

end Drmid
