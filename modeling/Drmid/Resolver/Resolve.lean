import Drmid.Resolver.Entry

/-!
# Resolving the Binder ioctl entry

`resolve_binder_ioctl_from_fd`: walk from the running task to the `struct file` of a descriptor,
then over two pointer members, `file.f_op` and `file_operations.unlocked_ioctl`, to the entry that
is hooked. Each member is read at the offset the SDK gives; where the pointer found there is not the
address of a Binder symbol that the kernel shows, the structure is scanned for one. The source
writes this step out for each of the two members; here it is `resolvePointerMember`.

A failed resolution gives its error; the record it leaves half filled is not used by the caller.
-/

namespace Drmid

/-! ## Records -/

inductive BinderBackend
  | unknown | classic | rust
  deriving DecidableEq, Repr

inductive BinderOffsetSource
  | unknown | sdk | symbolScan
  deriving DecidableEq, Repr

def kCapabilityFdWalk : UInt64 := 0x1
def kCapabilityFopsResolved : UInt64 := 0x2
def kCapabilityIoctlResolved : UInt64 := 0x4
def kCapabilitySymbolCrossValidated : UInt64 := 0x8
def kCapabilityKernelTextTarget : UInt64 := 0x10
def kCapabilitySemanticPrologue : UInt64 := 0x20
def kCapabilityHookRelocatablePrefix : UInt64 := 0x40
def kCapabilityBinderWriteRead : UInt64 := 0x80
def kCapabilityTransactionStreams : UInt64 := 0x100
def kCapabilityEqualLengthReplacement : UInt64 := 0x200

def kRequiredBinderCapabilities : UInt64 :=
  kCapabilityFdWalk ||| kCapabilityFopsResolved ||| kCapabilityIoctlResolved |||
    kCapabilitySymbolCrossValidated ||| kCapabilityKernelTextTarget |||
    kCapabilitySemanticPrologue ||| kCapabilityHookRelocatablePrefix |||
    kCapabilityBinderWriteRead ||| kCapabilityTransactionStreams |||
    kCapabilityEqualLengthReplacement

def kSymbolClassicFops : UInt32 := 0x1
def kSymbolClassicIoctl : UInt32 := 0x2
def kSymbolRustFops : UInt32 := 0x4
def kSymbolRustIoctl : UInt32 := 0x8

structure BinderKernelOffsets where
  taskFiles : UInt32
  filesFdt : UInt32
  fdtableFd : UInt32
  fileFOp : UInt32
  fopsUnlockedIoctl : UInt32

structure BinderIoctlResolution where
  binderFd : Int
  fileKaddr : UInt64
  fopsKaddr : UInt64
  ioctlKaddr : UInt64
  offsets : BinderKernelOffsets
  fileFOpSource : BinderOffsetSource
  fopsUnlockedIoctlSource : BinderOffsetSource
  entryWords : EntryWords
  entryFingerprint : UInt64
  capabilities : UInt64
  entrySemantics : UInt32
  symbolValidations : UInt32
  backend : BinderBackend

/-! ## Offsets and the descriptor walk -/

def kMaxStructureOffset : UInt32 := 0x4000
def kMaxFileMemberScan : UInt32 := 0x200
def kMaxFopsMemberScan : UInt32 := 0x200

/-- `valid_member_offset`. -/
def validMemberOffset (value limit : UInt32) : Bool := decide (value ≤ limit) && value &&& 7 == 0

/-- An offset that the walk cannot do without. -/
def requiredOffset (answer : Except KModFailure UInt32) : Except KModFailure UInt32 := do
  let value ← answer
  if validMemberOffset value kMaxStructureOffset then .ok value
  else .error errModuleOffsetNotFound

/-- An offset that a scan can replace; 0 when the SDK has none that is usable. -/
def memberOffset (answer : Except KModFailure UInt32) (limit : UInt32) :
    UInt32 × BinderOffsetSource :=
  match answer with
  | .ok value => if validMemberOffset value limit then (value, .sdk) else (0, .unknown)
  | .error _ => (0, .unknown)

/-- `load_offsets`: the offsets and the two sources. -/
def loadOffsets (k : KernelModule) :
    Except KModFailure (BinderKernelOffsets × BinderOffsetSource × BinderOffsetSource) := do
  let taskFiles ← requiredOffset k.taskStructFilesOffset
  let filesFdt ← requiredOffset k.fileStructFdtOffset
  let fdtableFd ← requiredOffset k.fdtableFdOffset
  let (fileFOp, fileSource) := memberOffset k.fileFOpOffset kMaxFileMemberScan
  let (fopsUnlockedIoctl, ioctlSource) :=
    memberOffset k.fileOperationsUnlockedIoctlOffset kMaxFopsMemberScan
  .ok (⟨taskFiles, filesFdt, fdtableFd, fileFOp, fopsUnlockedIoctl⟩, fileSource, ioctlSource)

/-- A load from a structure, and label `fail` when the structure's address is null. -/
def loadMember (k : KernelModule) (base : UInt64) (offset : UInt64) : UInt64 :=
  if base = 0 then 0 else k.word64 (base + offset)

/-- The generated function of `resolve_file_from_current_fd`. -/
def fdWalk (k : KernelModule) (fd : Nat) (offsets : BinderKernelOffsets) : UInt64 :=
  let files := loadMember k k.current offsets.taskFiles.toUInt64
  let fdt := loadMember k files offsets.filesFdt.toUInt64
  let fds := loadMember k fdt offsets.fdtableFd.toUInt64
  loadMember k fds (UInt64.ofNat (fd * 8))

/-- `resolve_file_from_current_fd`. -/
def resolveFileFromCurrentFd (k : KernelModule) (fd : Int) (offsets : BinderKernelOffsets) :
    Except KModFailure UInt64 :=
  if fd < 0 ∨ 4095 < fd then .error errModuleParam
  else if !k.assembles then .error errModuleAsm
  else match k.executeFault with
    | some err => .error err
    | none =>
      let fileKaddr := fdWalk k fd.toNat offsets
      if isKernelPointer fileKaddr then .ok fileKaddr else .error errModuleNotKaddr

/-! ## Symbols -/

structure SymbolCandidate where
  name : String
  backend : BinderBackend
  validationBit : UInt32
  address : UInt64
  available : Bool

def fopsCandidates : List SymbolCandidate :=
  [⟨"binder_fops", .classic, kSymbolClassicFops, 0, false⟩,
    ⟨"rust_binder_fops", .rust, kSymbolRustFops, 0, false⟩]

def ioctlCandidates : List SymbolCandidate :=
  [⟨"binder_ioctl", .classic, kSymbolClassicIoctl, 0, false⟩,
    ⟨"rust_binder_unlocked_ioctl", .rust, kSymbolRustIoctl, 0, false⟩,
    ⟨"rust_binder_ioctl", .rust, kSymbolRustIoctl, 0, false⟩,
    ⟨"rust_binder_compat_ioctl", .rust, kSymbolRustIoctl, 0, false⟩]

/-- One step of `resolve_symbols`. -/
def resolveSymbol (k : KernelModule) (symbol : SymbolCandidate) : SymbolCandidate :=
  match k.symbol symbol.name with
  | .ok address => { symbol with address, available := isKernelPointer address }
  | .error _ => { symbol with available := false }

/-- `resolve_symbols`. -/
def resolveSymbols (k : KernelModule) (symbols : List SymbolCandidate) : List SymbolCandidate :=
  symbols.map (resolveSymbol k)

/-- `matching_symbol`. -/
def matchingSymbol (address : UInt64) (symbols : List SymbolCandidate) : Option SymbolCandidate :=
  symbols.find? fun symbol => symbol.available && symbol.address == address

/-- `any_symbol_available`. -/
def anySymbolAvailable (symbols : List SymbolCandidate) : Bool := symbols.any (·.available)

/-- `backend_symbol_available`. -/
def backendSymbolAvailable (symbols : List SymbolCandidate) (backend : BinderBackend) : Bool :=
  symbols.any fun symbol => symbol.available && symbol.backend == backend

/-- `compatible_symbol_backends`. -/
def compatibleSymbolBackends (fops ioctl : Option SymbolCandidate) : Bool :=
  match fops, ioctl with
  | some fops, some ioctl => fops.backend == ioctl.backend
  | _, _ => true

/-- `sdk_symbol_match`. -/
def sdkSymbolMatch (address : UInt64) (symbols : List SymbolCandidate) : Option SymbolCandidate :=
  if isKernelPointer address then matchingSymbol address symbols else none

/-- `all_available_ioctl_symbols_are_text`. -/
def allAvailableIoctlSymbolsAreText (k : KernelModule) (symbols : List SymbolCandidate) : Bool :=
  symbols.all fun symbol => !symbol.available || addressInCoreText k symbol.address

/-- The loop of `scan_pointer_member`. -/
def scanOffsets (k : KernelModule) (base : UInt64) (symbols : List SymbolCandidate) :
    List Nat → Except KModFailure (Nat × UInt64 × SymbolCandidate)
  | [] => .error errModuleOffsetNotFound
  | offset :: offsets =>
    match k.readKernelMemAtomic64 (base + UInt64.ofNat offset) with
    | .error err => .error err
    | .ok candidate =>
      match matchingSymbol candidate symbols with
      | some symbol => .ok (offset, candidate, symbol)
      | none => scanOffsets k base symbols offsets

/-- `scan_pointer_member`: the offsets 0, 8, .. up to the limit. -/
def scanPointerMember (k : KernelModule) (base : UInt64) (limit : UInt32)
    (symbols : List SymbolCandidate) : Except KModFailure (Nat × UInt64 × SymbolCandidate) :=
  scanOffsets k base symbols ((List.range (limit.toNat / 8 + 1)).map (8 * ·))

/-! ## Pointer members -/

/-- A pointer member once it is looked for: its offset and where that comes from, its value (0 when
there is none), and the symbol it is the address of. -/
structure PointerMember where
  offset : UInt32
  source : BinderOffsetSource
  value : UInt64
  symbol : Option SymbolCandidate

/-- The pointer at the SDK's offset. -/
def sdkPointer (k : KernelModule) (base : UInt64) (offset : UInt32)
    (source : BinderOffsetSource) : UInt64 :=
  if source = .sdk then
    match k.readKernelMemAtomic64 (base + offset.toUInt64) with
    | .ok value => if isKernelPointer value then value else 0
    | .error _ => 0
  else 0

/-- The scan of a structure, which is not made when no symbol is visible. -/
def scanForSymbol (k : KernelModule) (base : UInt64) (limit : UInt32)
    (symbols : List SymbolCandidate) : Except KModFailure (Nat × UInt64 × SymbolCandidate) :=
  if anySymbolAvailable symbols then scanPointerMember k base limit symbols
  else .error errModuleOffsetNotFound

/-- The lines of `resolve_binder_ioctl_from_fd` that find `fops_kaddr` in the file and, in the same
way, `ioctl_kaddr` in the file operations. -/
def resolvePointerMember (k : KernelModule) (base : UInt64) (offset : UInt32)
    (source : BinderOffsetSource) (limit : UInt32) (symbols : List SymbolCandidate) :
    PointerMember :=
  let value := sdkPointer k base offset source
  match sdkSymbolMatch value symbols with
  | some symbol => ⟨offset, source, value, some symbol⟩
  | none =>
    match scanForSymbol k base limit symbols with
    | .ok (scannedOffset, scannedValue, symbol) =>
      ⟨UInt32.ofNat scannedOffset, .symbolScan, scannedValue, some symbol⟩
    | .error _ => ⟨offset, source, value, none⟩

/-! ## The resolution -/

/-- `fnv1a64`. -/
def fnv1a64 (data : Bytes) : UInt64 :=
  data.foldl (fun value b => (value ^^^ b.toUInt64) * 1099511628211) 14695981039346656037

/-- The probed words as bytes. -/
def entryBytes (words : EntryWords) : Bytes :=
  (List.finRange 64).flatMap fun i => leBytes 4 (words i).toUInt64

/-- The backend of the matched symbols, the ioctl's first. -/
def matchedBackend (fops ioctl : Option SymbolCandidate) : BinderBackend :=
  ((ioctl <|> fops).map (·.backend)).getD .unknown

/-- The validation bits of the matched symbols. -/
def matchedValidations (fops ioctl : Option SymbolCandidate) : UInt32 :=
  (fops.map (·.validationBit)).getD 0 ||| (ioctl.map (·.validationBit)).getD 0

/-- A symbol of the backend is visible but is not the one that was matched. -/
def overlooksSymbol (symbols : List SymbolCandidate) (backend : BinderBackend)
    (matched : Option SymbolCandidate) : Bool :=
  backendSymbolAvailable symbols backend && matched.map (·.backend) != some backend

/-- The capabilities that the stages add, one after the other. -/
def collectedCapabilities : UInt64 :=
  0 ||| kCapabilityFdWalk ||| kCapabilityFopsResolved ||| kCapabilityIoctlResolved |||
    kCapabilitySymbolCrossValidated ||| kCapabilityKernelTextTarget |||
    (kCapabilitySemanticPrologue ||| kCapabilityHookRelocatablePrefix |||
      kCapabilityBinderWriteRead ||| kCapabilityTransactionStreams |||
      kCapabilityEqualLengthReplacement)

/-- `resolve_binder_ioctl_from_fd`. -/
def resolveBinderIoctlFromFd (k : KernelModule) (binderFd : Int) :
    Except KModFailure BinderIoctlResolution := do
  let (offsets, fileSource, ioctlSource) ← loadOffsets k
  let fileKaddr ← resolveFileFromCurrentFd k binderFd offsets
  let fopsSymbols := resolveSymbols k fopsCandidates
  let ioctlSymbols := resolveSymbols k ioctlCandidates
  let fops := resolvePointerMember k fileKaddr offsets.fileFOp fileSource kMaxFileMemberScan
    fopsSymbols
  if !isKernelPointer fops.value then .error errModuleOffsetNotFound
  else
    let ioctl := resolvePointerMember k fops.value offsets.fopsUnlockedIoctl ioctlSource
      kMaxFopsMemberScan ioctlSymbols
    let backend := matchedBackend fops.symbol ioctl.symbol
    let symbolValidations := matchedValidations fops.symbol ioctl.symbol
    if !isKernelPointer ioctl.value then .error errModuleOffsetNotFound
    else if !compatibleSymbolBackends fops.symbol ioctl.symbol then
      .error errModuleFuncNotStandard
    else if symbolValidations = 0 ∨ backend = .unknown then .error errModuleFuncNotStandard
    else if overlooksSymbol fopsSymbols backend fops.symbol ||
        overlooksSymbol ioctlSymbols backend ioctl.symbol then .error errModuleFuncNotStandard
    else if !allAvailableIoctlSymbolsAreText k ioctlSymbols ||
        !addressInCoreText k ioctl.value then .error errModuleNotKaddr
    else do
      let entryWords ← k.readEntryWords ioctl.value
      match classifyHookableEntry k ioctl.value entryWords with
      | none => .error errModuleFuncNotStandard
      | some entrySemantics => .ok {
          binderFd, fileKaddr
          fopsKaddr := fops.value
          ioctlKaddr := ioctl.value
          offsets := { offsets with
            fileFOp := fops.offset
            fopsUnlockedIoctl := ioctl.offset }
          fileFOpSource := fops.source
          fopsUnlockedIoctlSource := ioctl.source
          entryWords
          entryFingerprint := fnv1a64 (entryBytes entryWords)
          capabilities := collectedCapabilities
          entrySemantics, symbolValidations, backend }

/-- `has_required_binder_capabilities`. -/
def hasRequiredBinderCapabilities (resolution : BinderIoctlResolution) : Bool :=
  resolution.backend != .unknown && isKernelPointer resolution.fileKaddr &&
    isKernelPointer resolution.fopsKaddr && isKernelPointer resolution.ioctlKaddr &&
    resolution.capabilities &&& kRequiredBinderCapabilities == kRequiredBinderCapabilities

end Drmid
