import Drmid.Resolver.Resolve

/-!
# Settling a pointer member

What a scan finds (`scanPointerMember_eq_ok`) and the three ways in which `resolvePointerMember`
ends (`resolvePointerMember_cases`). A settled member stands at its offset
(`resolvePointerMember_sound`); at its true offset it is the pointer there or its replacement by a
visible symbol's address (`resolvePointerMember_exact`).
-/

namespace Drmid

variable {k : KernelModule} {base slot value address : UInt64} {offset limit : UInt32}
  {source : BinderOffsetSource} {symbols : List SymbolCandidate} {symbol : SymbolCandidate}

/-! ## Symbols -/

/-- `value` is the address of a symbol the kernel shows. -/
def Visible (symbols : List SymbolCandidate) (value : UInt64) : Prop :=
  ∃ symbol ∈ symbols, symbol.available = true ∧ symbol.address = value

theorem matchingSymbol_eq_some (h : matchingSymbol address symbols = some symbol) :
    symbol ∈ symbols ∧ symbol.available = true ∧ symbol.address = address := by
  have hfound := List.find?_some h
  simp only [Bool.and_eq_true, beq_iff_eq] at hfound
  exact ⟨List.mem_of_find?_eq_some h, hfound⟩

theorem matchingSymbol_eq_none : matchingSymbol address symbols = none ↔ ¬Visible symbols address := by
  simp [matchingSymbol, Visible]

/-- A symbol that is available lies in the kernel's half of the addresses. -/
def KernelSymbols (symbols : List SymbolCandidate) : Prop :=
  ∀ symbol ∈ symbols, symbol.available = true → isKernelPointer symbol.address = true

theorem kernelSymbols_resolveSymbols (k : KernelModule) (candidates : List SymbolCandidate) :
    KernelSymbols (resolveSymbols k candidates) := by
  intro symbol hmem havailable
  obtain ⟨candidate, -, rfl⟩ := List.mem_map.1 hmem
  unfold resolveSymbol at havailable ⊢
  cases hlookup : k.symbol candidate.name with
  | ok address => simpa [hlookup] using havailable
  | error err => simp [hlookup] at havailable

theorem Visible.isKernelPointer (hs : KernelSymbols symbols) (h : Visible symbols value) :
    isKernelPointer value = true := by
  obtain ⟨symbol, hmem, havailable, rfl⟩ := h
  exact hs symbol hmem havailable

/-! ## Scans -/

/-- The word at `offset` from `base` is readable and is `value`. -/
def HoldsWord (k : KernelModule) (base : UInt64) (offset : Nat) (value : UInt64) : Prop :=
  k.readKernelMemAtomic64 (base + UInt64.ofNat offset) = .ok value

theorem HoldsWord.unique {n : Nat} {v w : UInt64} (hv : HoldsWord k base n v)
    (hw : HoldsWord k base n w) : v = w :=
  Except.ok.inj (hv.symm.trans hw)

/-- A hit that comes after nothing but misses is the first one, or comes after a miss. -/
theorem exists_first_cons {l : List Nat} {p o : Nat} {word symbol : Prop} {miss : Nat → Prop} :
    (∃ n : Nat, (p :: l)[n]? = some o ∧ word ∧ symbol ∧
        ∀ m < n, ∀ q : Nat, (p :: l)[m]? = some q → miss q) ↔
      (p = o ∧ word ∧ symbol) ∨ (miss p ∧ ∃ n : Nat, l[n]? = some o ∧ word ∧ symbol ∧
        ∀ m < n, ∀ q : Nat, l[m]? = some q → miss q) := by
  constructor
  · rintro ⟨n, ho, hword, hsymbol, hbefore⟩
    cases n with
    | zero => exact .inl ⟨by simpa using ho, hword, hsymbol⟩
    | succ n =>
      refine .inr ⟨hbefore 0 (by omega) p rfl, n, by simpa using ho, hword, hsymbol, ?_⟩
      exact fun m hm q hq => hbefore (m + 1) (by omega) q (by simpa using hq)
  · rintro (⟨rfl, hword, hsymbol⟩ | ⟨hfirst, n, ho, hword, hsymbol, hbefore⟩)
    · exact ⟨0, rfl, hword, hsymbol, fun m hm => absurd hm (Nat.not_lt_zero m)⟩
    · refine ⟨n + 1, by simpa using ho, hword, hsymbol, fun m hm q hq => ?_⟩
      cases m with
      | zero => exact (Option.some.inj hq) ▸ hfirst
      | succ m => exact hbefore m (by omega) q (by simpa using hq)

/-- A scan stops at the first word that is a visible symbol's address, if it can read up to it. -/
theorem scanOffsets_eq_ok {offsets : List Nat} {o : Nat} :
    scanOffsets k base symbols offsets = .ok (o, value, symbol) ↔
      ∃ n : Nat, offsets[n]? = some o ∧ HoldsWord k base o value ∧
        matchingSymbol value symbols = some symbol ∧
        ∀ m < n, ∀ p : Nat, offsets[m]? = some p →
          ∃ w, HoldsWord k base p w ∧ matchingSymbol w symbols = none := by
  induction offsets with
  | nil => simp [scanOffsets]
  | cons p offsets ih =>
    rw [exists_first_cons, scanOffsets]
    cases hread : k.readKernelMemAtomic64 (base + UInt64.ofNat p) with
    | error err =>
      have hno : ∀ w, ¬HoldsWord k base p w := fun w hw => by
        rw [HoldsWord, hread] at hw
        cases hw
      simp only [reduceCtorEq, false_iff, not_or, not_and]
      refine ⟨fun heq hword => absurd hword (heq ▸ hno value), ?_⟩
      rintro ⟨w, hw, -⟩
      exact absurd hw (hno w)
    | ok candidate =>
      have hheld : HoldsWord k base p candidate := hread
      dsimp only
      cases hmatch : matchingSymbol candidate symbols with
      | some found =>
        dsimp only
        constructor
        · intro h
          cases h
          exact .inl ⟨rfl, hheld, hmatch⟩
        · rintro (⟨rfl, hword, hv⟩ | ⟨⟨w, hw, hnone⟩, -⟩)
          · obtain rfl := hheld.unique hword
            rw [hmatch] at hv
            cases hv
            rfl
          · obtain rfl := hheld.unique hw
            rw [hmatch] at hnone
            cases hnone
      | none =>
        dsimp only
        rw [ih]
        constructor
        · exact fun h => .inr ⟨⟨candidate, hheld, hmatch⟩, h⟩
        · rintro (⟨rfl, hword, hv⟩ | ⟨-, h⟩)
          · obtain rfl := hheld.unique hword
            rw [hmatch] at hv
            cases hv
          · exact h

/-- The first word of a structure, up to `limit`, that is a visible symbol's address; every word
before it is readable. -/
def FirstVisible (k : KernelModule) (base : UInt64) (limit : UInt32)
    (symbols : List SymbolCandidate) (offset : Nat) (value : UInt64) : Prop :=
  ∃ n ≤ limit.toNat / 8, offset = 8 * n ∧ HoldsWord k base (8 * n) value ∧ Visible symbols value ∧
    ∀ m < n, ∃ w, HoldsWord k base (8 * m) w ∧ ¬Visible symbols w

theorem scanPointerMember_eq_ok {o : Nat} :
    scanPointerMember k base limit symbols = .ok (o, value, symbol) ↔
      FirstVisible k base limit symbols o value ∧ matchingSymbol value symbols = some symbol := by
  have hoffsets : ∀ n p : Nat, ((List.range (limit.toNat / 8 + 1)).map (8 * ·))[n]? = some p ↔
      n ≤ limit.toNat / 8 ∧ p = 8 * n := by
    intro n p
    rw [List.getElem?_eq_some_iff]
    simp only [List.length_map, List.length_range, List.getElem_map, List.getElem_range,
      exists_prop]
    omega
  rw [scanPointerMember, scanOffsets_eq_ok]
  simp only [hoffsets, ← matchingSymbol_eq_none, FirstVisible]
  constructor
  · rintro ⟨n, ⟨hn, rfl⟩, hword, hmatch, hbefore⟩
    refine ⟨⟨n, hn, rfl, hword, ?_, fun m hm => hbefore m hm _ ⟨by omega, rfl⟩⟩, hmatch⟩
    exact ⟨symbol, matchingSymbol_eq_some hmatch⟩
  · rintro ⟨⟨n, hn, rfl, hword, -, hbefore⟩, hmatch⟩
    refine ⟨n, ⟨hn, rfl⟩, hword, hmatch, ?_⟩
    rintro m hm p ⟨-, rfl⟩
    exact hbefore m hm

theorem scanForSymbol_eq_ok {o : Nat} :
    scanForSymbol k base limit symbols = .ok (o, value, symbol) ↔
      FirstVisible k base limit symbols o value ∧ matchingSymbol value symbols = some symbol := by
  rw [scanForSymbol, ← scanPointerMember_eq_ok]
  split
  · exact Iff.rfl
  · rename_i hany
    constructor
    · intro h
      cases h
    · intro h
      obtain ⟨hmem, havailable, -⟩ := matchingSymbol_eq_some (scanPointerMember_eq_ok.1 h).2
      exact absurd (List.any_eq_true.2 ⟨symbol, hmem, havailable⟩) hany

/-! ## Pointer members -/

theorem sdkPointer_eq (h : isKernelPointer (sdkPointer k base offset source) = true) :
    source = .sdk ∧ k.readKernelMemAtomic64 (base + offset.toUInt64) =
      .ok (sdkPointer k base offset source) := by
  have hzero : isKernelPointer 0 = false := by decide
  unfold sdkPointer at h ⊢
  split at h
  · rename_i hsource
    cases hread : k.readKernelMemAtomic64 (base + offset.toUInt64) with
    | error err => simp [hread, hzero] at h
    | ok v =>
      cases hv : isKernelPointer v with
      | true => simp [hsource, hv]
      | false => simp [hread, hv, hzero] at h
  · rw [hzero] at h
    cases h

theorem sdkPointer_of_read (hread : k.readKernelMemAtomic64 (base + offset.toUInt64) = .ok value)
    (hv : isKernelPointer value = true) : sdkPointer k base offset .sdk = value := by
  simp [sdkPointer, hread, hv]

/-- The three ways to settle a pointer member: the SDK's pointer is a visible symbol's; it is not
and a scan finds one; it is not and there is none to be found. -/
theorem resolvePointerMember_cases (k : KernelModule) (base : UInt64) (offset : UInt32)
    (source : BinderOffsetSource) (limit : UInt32) (hs : KernelSymbols symbols) :
    let pointer := sdkPointer k base offset source
    let member := resolvePointerMember k base offset source limit symbols
    (∃ symbol, matchingSymbol pointer symbols = some symbol ∧
        member = ⟨offset, source, pointer, some symbol⟩) ∨
      (¬Visible symbols pointer ∧ ∃ o v symbol, FirstVisible k base limit symbols o v ∧
        matchingSymbol v symbols = some symbol ∧
        member = ⟨UInt32.ofNat o, .symbolScan, v, some symbol⟩) ∨
      (¬Visible symbols pointer ∧ (∀ o v, ¬FirstVisible k base limit symbols o v) ∧
        member = ⟨offset, source, pointer, none⟩) := by
  intro pointer member
  have hpointer : sdkPointer k base offset source = pointer := rfl
  have hsdk : sdkSymbolMatch pointer symbols = matchingSymbol pointer symbols := by
    unfold sdkSymbolMatch
    split
    · rfl
    · rename_i huser
      refine (matchingSymbol_eq_none.2 fun hvisible => huser ?_).symm
      exact hvisible.isKernelPointer hs
  cases hmatch : matchingSymbol pointer symbols with
  | some symbol =>
    refine .inl ⟨symbol, rfl, ?_⟩
    simp only [member, resolvePointerMember, hpointer, hsdk, hmatch]
  | none =>
    have hhidden := matchingSymbol_eq_none.1 hmatch
    cases hscan : scanForSymbol k base limit symbols with
    | ok found =>
      obtain ⟨o, v, symbol⟩ := found
      obtain ⟨hfirst, hsymbol⟩ := scanForSymbol_eq_ok.1 hscan
      refine .inr (.inl ⟨hhidden, o, v, symbol, hfirst, hsymbol, ?_⟩)
      simp only [member, resolvePointerMember, hpointer, hsdk, hmatch, hscan]
    | error err =>
      refine .inr (.inr ⟨hhidden, fun o v hfirst => ?_, ?_⟩)
      · obtain ⟨-, -, -, -, hvisible, -⟩ := id hfirst
        cases hv : matchingSymbol v symbols with
        | none => exact matchingSymbol_eq_none.1 hv hvisible
        | some symbol =>
          rw [scanForSymbol_eq_ok.2 ⟨hfirst, hv⟩] at hscan
          cases hscan
      · simp only [member, resolvePointerMember, hpointer, hsdk, hmatch, hscan]

/-- **A settled pointer member** stands at its offset, its source is known, and its symbol is a
visible one with its address. -/
theorem resolvePointerMember_sound (hs : KernelSymbols symbols)
    (h : isKernelPointer (resolvePointerMember k base offset source limit symbols).value = true) :
    let member := resolvePointerMember k base offset source limit symbols
    (member.source = .sdk ∨ member.source = .symbolScan) ∧
      k.word64 (base + member.offset.toUInt64) = member.value ∧
      member.symbol = matchingSymbol member.value symbols := by
  intro member
  have hmember : resolvePointerMember k base offset source limit symbols = member := rfl
  rw [hmember] at h
  rcases resolvePointerMember_cases k base offset source limit hs with
    ⟨symbol, hmatch, heq⟩ | ⟨-, o, v, symbol, hfirst, hmatch, heq⟩ | ⟨hhidden, -, heq⟩
  all_goals rw [hmember] at heq
  · rw [heq] at h ⊢
    obtain ⟨hsource, hread⟩ := sdkPointer_eq h
    exact ⟨.inl hsource, (KernelModule.readKernelMemAtomic64_eq_ok.1 hread).2, hmatch.symm⟩
  · obtain ⟨n, hn, rfl, hword, -⟩ := hfirst
    have hlimit := limit.toNat_lt
    have hoffset : (UInt32.ofNat (8 * n)).toUInt64 = UInt64.ofNat (8 * n) := by
      apply UInt64.toNat_inj.1
      rw [UInt32.toNat_toUInt64, UInt32.toNat_ofNat_of_lt' (by rw [UInt32.size]; omega),
        UInt64.toNat_ofNat_of_lt' (by rw [UInt64.size]; omega)]
    rw [heq]
    refine ⟨.inr rfl, ?_, hmatch.symm⟩
    rw [hoffset]
    exact (KernelModule.readKernelMemAtomic64_eq_ok.1 hword).2
  · rw [heq] at h ⊢
    obtain ⟨hsource, hread⟩ := sdkPointer_eq h
    exact ⟨.inl hsource, (KernelModule.readKernelMemAtomic64_eq_ok.1 hread).2,
      (matchingSymbol_eq_none.2 hhidden).symm⟩

/-! ## Members at their true offset -/

/-- The pointer at a member's true offset stays: it is a visible symbol's address, or a scan finds
no such address. -/
def Undisturbed (k : KernelModule) (base : UInt64) (offset limit : UInt32)
    (symbols : List SymbolCandidate) : Prop :=
  validMemberOffset offset limit = true ∧
    ∃ v, k.readKernelMemAtomic64 (base + offset.toUInt64) = .ok v ∧
      (Visible symbols v ∨ ∀ o w, ¬FirstVisible k base limit symbols o w)

/-- The pointer at a member's true offset is not a visible symbol's address, and the first one that
is, in the scanned words, takes its place. -/
def ReplacedBy (k : KernelModule) (base : UInt64) (offset limit : UInt32)
    (symbols : List SymbolCandidate) (w : UInt64) : Prop :=
  ¬(validMemberOffset offset limit = true ∧
    ∃ v, k.readKernelMemAtomic64 (base + offset.toUInt64) = .ok v ∧ Visible symbols v) ∧
  ∃ o, FirstVisible k base limit symbols o w

theorem FirstVisible.unique {o o' : Nat} {v v' : UInt64}
    (h : FirstVisible k base limit symbols o v) (h' : FirstVisible k base limit symbols o' v') :
    v = v' := by
  obtain ⟨-, -, -, -, hvisible, -⟩ := id h
  obtain ⟨-, -, -, -, hvisible', -⟩ := id h'
  have hfound : ∀ {w}, Visible symbols w → ∃ symbol, matchingSymbol w symbols = some symbol :=
    fun hw => Option.ne_none_iff_exists'.1 fun hnone => matchingSymbol_eq_none.1 hnone hw
  obtain ⟨symbol, hs⟩ := hfound hvisible
  obtain ⟨symbol', hs'⟩ := hfound hvisible'
  have := (scanPointerMember_eq_ok.2 ⟨h, hs⟩).symm.trans (scanPointerMember_eq_ok.2 ⟨h', hs'⟩)
  simp only [Except.ok.injEq, Prod.mk.injEq] at this
  exact this.2.1

/-- At its true offset a member settles on the pointer there or on its replacement. -/
theorem resolvePointerMember_exact (hs : KernelSymbols symbols) {answer : Except KModFailure UInt32}
    (ha : answer = .ok offset) {member : PointerMember}
    (hm : resolvePointerMember k base (memberOffset answer limit).1 (memberOffset answer limit).2
      limit symbols = member) (h : isKernelPointer member.value = true) :
    (Undisturbed k base offset limit symbols ∧
        member.value = k.word64 (base + offset.toUInt64)) ∨
      ReplacedBy k base offset limit symbols member.value := by
  subst ha
  -- the SDK's pointer is used only if its offset is valid
  have hsdk : ∀ p, sdkPointer k base (memberOffset (.ok offset) limit).1
      (memberOffset (.ok offset) limit).2 = p → isKernelPointer p = true →
      validMemberOffset offset limit = true ∧
        k.readKernelMemAtomic64 (base + offset.toUInt64) = .ok p := by
    rintro p rfl hp
    obtain ⟨hsource, hread⟩ := sdkPointer_eq hp
    cases hvalid : validMemberOffset offset limit with
    | true => simpa [memberOffset, hvalid] using hread
    | false => simp [memberOffset, hvalid] at hsource
  have hhidden : ¬Visible symbols (sdkPointer k base (memberOffset (.ok offset) limit).1
      (memberOffset (.ok offset) limit).2) → ¬(validMemberOffset offset limit = true ∧
        ∃ v, k.readKernelMemAtomic64 (base + offset.toUInt64) = .ok v ∧ Visible symbols v) := by
    rintro hp ⟨hvalid, v, hread, hvisible⟩
    have hpointer := sdkPointer_of_read hread (hvisible.isKernelPointer hs)
    simp only [memberOffset, hvalid, if_true, hpointer] at hp
    exact hp hvisible
  rcases resolvePointerMember_cases k base (memberOffset (.ok offset) limit).1
    (memberOffset (.ok offset) limit).2 limit hs with
    ⟨symbol, hmatch, heq⟩ | ⟨hp, o, v, symbol, hfirst, -, heq⟩ | ⟨-, hnone, heq⟩
  all_goals
    rw [hm] at heq
    subst heq
  · obtain ⟨hvalid, hread⟩ := hsdk _ rfl h
    obtain ⟨hmem, havailable, haddress⟩ := matchingSymbol_eq_some hmatch
    exact .inl ⟨⟨hvalid, _, hread, .inl ⟨symbol, hmem, havailable, haddress⟩⟩,
      (KernelModule.readKernelMemAtomic64_eq_ok.1 hread).2.symm⟩
  · exact .inr ⟨hhidden hp, o, hfirst⟩
  · obtain ⟨hvalid, hread⟩ := hsdk _ rfl h
    exact .inl ⟨⟨hvalid, _, hread, .inr hnone⟩,
      (KernelModule.readKernelMemAtomic64_eq_ok.1 hread).2.symm⟩

theorem ReplacedBy.unique {v w : UInt64} (hv : ReplacedBy k base offset limit symbols v)
    (hw : ReplacedBy k base offset limit symbols w) : v = w := by
  obtain ⟨-, _, hv⟩ := hv
  obtain ⟨-, _, hw⟩ := hw
  exact hv.unique hw

theorem Undisturbed.not_replaced (h : Undisturbed k base offset limit symbols) {w : UInt64} :
    ¬ReplacedBy k base offset limit symbols w := by
  rintro ⟨hhidden, o, hfirst⟩
  obtain ⟨hvalid, v, hread, hvisible | hnone⟩ := h
  · exact hhidden ⟨hvalid, v, hread, hvisible⟩
  · exact hnone o w hfirst

end Drmid
