import Mathlib.Algebra.Ring.Nat
import Drmid.Resolver.Release

/-!
# The release gate

`release_gate_grammar`: the scanner accepts the releases of the grammar and no others. A component
of the scanner is a component of the grammar with no digit behind it (`parseComponent_eq_some`), so
the way a release is cut up is the only one there is.
-/

namespace Drmid

/-! ## Components -/

/-- No digit comes next. -/
def NoDigitHead (cursor : Bytes) : Prop := ∀ ch rest, cursor = ch :: rest → isDigit ch = false

theorem noDigitHead_nil : NoDigitHead [] := fun _ _ h => (by cases h)

theorem noDigitHead_cons {ch : UInt8} {rest : Bytes} (h : isDigit ch = false) :
    NoDigitHead (ch :: rest) := by
  intro _ _ heq
  cases heq
  exact h

/-- The digits read so far, with one more. -/
def appendDigit (value : Nat) (ch : UInt8) : Nat := value * 10 + (ch.toNat - 48)

theorem ofNat_appendDigit (value : Nat) {ch : UInt8} (h : isDigit ch = true) :
    UInt32.ofNat value * 10 + (ch - 48).toUInt32 = UInt32.ofNat (appendDigit value ch) := by
  have hch : 48 ≤ ch := by
    simp only [isDigit, Bool.and_eq_true, decide_eq_true_eq] at h
    exact h.1
  have hsub : (ch - 48).toUInt32 = UInt32.ofNat (ch.toNat - 48) := by
    have htoNat : (ch - 48).toNat = ch.toNat - 48 := UInt8.toNat_sub_of_le _ _ hch
    rw [← htoNat]
    exact (UInt32.ofNat_uInt8ToNat _).symm
  rw [hsub, appendDigit, UInt32.ofNat_add, UInt32.ofNat_mul]
  rfl

theorem componentDigits_eq_some {cursor rest : Bytes} {count value : Nat} {w : UInt32}
    (hcount : count ≤ 3) :
    componentDigits cursor count (UInt32.ofNat value) = some (w, rest) ↔
      ∃ digits, cursor = digits ++ rest ∧ (∀ ch ∈ digits, isDigit ch = true) ∧ NoDigitHead rest ∧
        count + digits.length ≤ 3 ∧ w = UInt32.ofNat (digits.foldl appendDigit value) := by
  induction cursor generalizing count value with
  | nil =>
    constructor
    · intro h
      cases h
      exact ⟨[], rfl, by simp, noDigitHead_nil, hcount, rfl⟩
    · rintro ⟨digits, heq, -, -, -, rfl⟩
      obtain ⟨rfl, rfl⟩ := List.append_eq_nil_iff.1 heq.symm
      rfl
  | cons ch cursor ih =>
    cases hch : isDigit ch with
    | false =>
      simp only [componentDigits, hch, Bool.false_eq_true, if_false]
      constructor
      · intro h
        cases h
        exact ⟨[], rfl, by simp, noDigitHead_cons hch, hcount, rfl⟩
      · rintro ⟨digits, heq, hall, -, -, rfl⟩
        cases digits with
        | nil => exact heq ▸ rfl
        | cons d digits =>
          cases heq
          exact absurd (hall ch List.mem_cons_self) (by simp [hch])
    | true =>
      simp only [componentDigits, hch, if_true, ofNat_appendDigit value hch]
      split
      next hmany =>
        -- a fourth digit
        constructor
        · intro h
          cases h
        · rintro ⟨digits, heq, -, hhead, hlen, -⟩
          cases digits with
          | nil => exact absurd (hhead ch cursor heq.symm) (by simp [hch])
          | cons d digits =>
            simp only [List.length_cons] at hlen
            omega
      next hfew =>
        rw [ih (by omega)]
        constructor
        · rintro ⟨digits, rfl, hall, hhead, hlen, rfl⟩
          refine ⟨ch :: digits, rfl, List.forall_mem_cons.2 ⟨hch, hall⟩, hhead, ?_, rfl⟩
          simp only [List.length_cons]
          omega
        · rintro ⟨digits, heq, hall, hhead, hlen, rfl⟩
          cases digits with
          | nil => exact absurd (hhead ch cursor heq.symm) (by simp [hch])
          | cons d digits =>
            cases heq
            simp only [List.length_cons] at hlen
            exact ⟨digits, rfl, (List.forall_mem_cons.1 hall).2, hhead, by omega, rfl⟩

/-- **A component of the scanner.** -/
theorem parseComponent_eq_some {cursor rest : Bytes} {w : UInt32} :
    parseComponent cursor = some (w, rest) ↔
      ∃ digits, cursor = digits ++ rest ∧ ReleaseComponent digits ∧ NoDigitHead rest ∧
        w = UInt32.ofNat (decimalValue digits) := by
  constructor
  · intro h
    cases cursor with
    | nil => cases h
    | cons ch cursor =>
      cases hch : isDigit ch with
      | false =>
        simp only [parseComponent, hch, Bool.false_eq_true, if_false] at h
        cases h
      | true =>
        simp only [parseComponent, hch, if_true] at h
        obtain ⟨digits, heq, hall, hhead, hlen, rfl⟩ :=
          (@componentDigits_eq_some _ _ _ 0 _ (Nat.zero_le 3)).1 h
        refine ⟨digits, heq, ⟨?_, by omega, hall⟩, hhead, rfl⟩
        cases digits with
        | nil => exact absurd (hhead ch cursor heq.symm) (by simp [hch])
        | cons d digits => simp
  · rintro ⟨digits, rfl, ⟨hne, hlen, hall⟩, hhead, rfl⟩
    cases digits with
    | nil => simp at hne
    | cons ch digits =>
      have hch := hall ch List.mem_cons_self
      show parseComponent (ch :: (digits ++ rest)) = _
      simp only [parseComponent, hch, if_true]
      show componentDigits _ 0 (UInt32.ofNat 0) = _
      exact (componentDigits_eq_some (Nat.zero_le 3)).2
        ⟨ch :: digits, rfl, hall, hhead, by omega, rfl⟩

theorem appendDigit_lt {value bound : Nat} {ch : UInt8} (hch : isDigit ch = true)
    (h : value < bound) : appendDigit value ch < bound * 10 := by
  simp only [isDigit, Bool.and_eq_true, decide_eq_true_eq, UInt8.le_iff_toNat_le] at hch
  have h57 : ch.toNat ≤ 57 := hch.2
  simp only [appendDigit]
  omega

theorem foldl_appendDigit_lt {digits : Bytes} (hall : ∀ ch ∈ digits, isDigit ch = true)
    {value bound : Nat} (h : value < bound) :
    digits.foldl appendDigit value < bound * 10 ^ digits.length := by
  induction digits generalizing value bound with
  | nil => simpa using h
  | cons ch digits ih =>
    obtain ⟨hch, hall⟩ := List.forall_mem_cons.1 hall
    have hnext := ih hall (appendDigit_lt hch h)
    rwa [Nat.mul_assoc, Nat.mul_comm 10, ← Nat.pow_succ] at hnext

/-- A component's value has three digits, so that the 32-bit sum is exact. -/
theorem ReleaseComponent.toNat_value {digits : Bytes} (h : ReleaseComponent digits) :
    (UInt32.ofNat (decimalValue digits)).toNat = decimalValue digits := by
  have hlt : decimalValue digits < 1 * 10 ^ digits.length :=
    foldl_appendDigit_lt h.2.2 Nat.zero_lt_one
  have hpow : 10 ^ digits.length ≤ 10 ^ 3 := Nat.pow_le_pow_right (by omega) h.2.1
  have hmod := UInt32.toNat_ofNat' (n := decimalValue digits)
  omega

/-! ## Further components and the suffix -/

/-- Neither a digit nor a dot comes next. -/
def EndsComponents (cursor : Bytes) : Prop :=
  ∀ ch rest, cursor = ch :: rest → isDigit ch = false ∧ ch ≠ 46

theorem ReleaseSuffix.ends {suffix : Bytes} (h : ReleaseSuffix suffix) : EndsComponents suffix := by
  rintro ch rest rfl
  rcases h with h | ⟨sign, text, heq, hsign, -⟩
  · cases h
  · cases heq
    rcases hsign with rfl | rfl <;> decide

theorem releaseSuffix_iff {suffix : Bytes} :
    releaseSuffix suffix = true ↔ ReleaseSuffix suffix := by
  cases suffix with
  | nil => exact ⟨fun _ => .inl rfl, fun _ => rfl⟩
  | cons sign text =>
    simp only [releaseSuffix, ReleaseSuffix, Bool.and_eq_true, Bool.or_eq_true, beq_iff_eq,
      Bool.not_eq_true', List.isEmpty_eq_false_iff, List.all_eq_true, List.cons_ne_nil, false_or]
    constructor
    · rintro ⟨⟨hsign, hne⟩, hall⟩
      exact ⟨sign, text, rfl, hsign, hne, hall⟩
    · rintro ⟨_, _, heq, hsign, hne, hall⟩
      cases heq
      exact ⟨⟨hsign, hne⟩, hall⟩

/-- The components behind the second, as they stand in the release. -/
abbrev dotted (extras : List Bytes) : Bytes := extras.flatMap fun digits => 46 :: digits

theorem noDigitHead_dotted (extras : List Bytes) {cursor : Bytes} (h : EndsComponents cursor) :
    NoDigitHead (dotted extras ++ cursor) := by
  cases extras with
  | nil => exact fun ch rest heq => (h ch rest heq).1
  | cons digits extras => exact noDigitHead_cons (by decide)

theorem extraComponents_sound {passes : Nat} {cursor rest : Bytes}
    (h : extraComponents passes cursor = some rest) :
    ∃ extras : List Bytes, cursor = dotted extras ++ rest ∧
      ∀ digits ∈ extras, ReleaseComponent digits := by
  induction passes generalizing cursor with
  | zero =>
    cases h
    exact ⟨[], rfl, by simp⟩
  | succ passes ih =>
    cases cursor with
    | nil =>
      cases h
      exact ⟨[], rfl, by simp⟩
    | cons ch cursor =>
      unfold extraComponents at h
      split at h
      next hdot =>
        subst hdot
        split at h
        next => cases h
        next w cursor' hparse =>
          obtain ⟨digits, rfl, hdigits, -, -⟩ := parseComponent_eq_some.1 hparse
          obtain ⟨extras, rfl, hall⟩ := ih h
          exact ⟨digits :: extras, by simp [dotted], List.forall_mem_cons.2 ⟨hdigits, hall⟩⟩
      next =>
        cases h
        exact ⟨[], rfl, by simp⟩

theorem extraComponents_complete {extras : List Bytes}
    (hall : ∀ digits ∈ extras, ReleaseComponent digits) {rest : Bytes}
    (hrest : EndsComponents rest) {passes : Nat}
    (hpasses : (dotted extras ++ rest).length ≤ passes) :
    extraComponents passes (dotted extras ++ rest) = some rest := by
  induction extras generalizing passes with
  | nil =>
    cases passes with
    | zero => rfl
    | succ passes =>
      cases rest with
      | nil => rfl
      | cons ch rest =>
        show extraComponents (passes + 1) (ch :: rest) = _
        simp only [extraComponents, (hrest ch rest rfl).2, if_false]
  | cons digits extras ih =>
    obtain ⟨hdigits, hall⟩ := List.forall_mem_cons.1 hall
    have heq : dotted (digits :: extras) ++ rest = 46 :: (digits ++ (dotted extras ++ rest)) := by
      simp [dotted]
    rw [heq] at hpasses ⊢
    cases passes with
    | zero => simp at hpasses
    | succ passes =>
      have hparse := parseComponent_eq_some.2
        ⟨digits, rfl, hdigits, noDigitHead_dotted extras hrest, rfl⟩
      simp only [extraComponents, if_true, hparse]
      refine ih hall ?_
      simp only [List.length_cons, List.length_append] at hpasses ⊢
      omega

/-! ## The gate -/

theorem supportedRelease_of_gate {release : Bytes}
    (h : isSupportedLinux61OrNewer release = true) : SupportedRelease release := by
  unfold isSupportedLinux61OrNewer at h
  split at h
  next major separator cursor hmajor =>
    split at h
    next hdot =>
      subst hdot
      split at h
      next minor cursor' hminor =>
        split at h
        next => cases h
        next hversion =>
          split at h
          next => cases h
          next suffix hextra =>
            obtain ⟨ms, rfl, hms, -, rfl⟩ := parseComponent_eq_some.1 hmajor
            obtain ⟨ns, rfl, hns, -, rfl⟩ := parseComponent_eq_some.1 hminor
            obtain ⟨extras, rfl, hextras⟩ := extraComponents_sound hextra
            rw [not_or, not_not] at hversion
            refine ⟨ms, ns, extras, suffix, rfl, hms, hns, hextras, ?_, ?_, ?_⟩
            · rw [← hms.toNat_value, hversion.1]
              rfl
            · rw [← hns.toNat_value]
              exact UInt32.le_iff_toNat_le.1 (UInt32.not_lt.1 hversion.2)
            · exact releaseSuffix_iff.1 h
      next => cases h
    next => cases h
  next => cases h

theorem gate_of_supportedRelease {release : Bytes} (h : SupportedRelease release) :
    isSupportedLinux61OrNewer release = true := by
  obtain ⟨ms, ns, extras, suffix, rfl, hms, hns, hextras, hmajor, hminor, hsuffix⟩ := h
  have hends := hsuffix.ends
  have hdot : NoDigitHead (46 :: (ns ++ (dotted extras ++ suffix))) :=
    noDigitHead_cons (by decide)
  have hparse := parseComponent_eq_some.2 ⟨ms, rfl, hms, hdot, rfl⟩
  have hparse' := parseComponent_eq_some.2 ⟨ns, rfl, hns, noDigitHead_dotted extras hends, rfl⟩
  have hfalse : ¬(UInt32.ofNat (decimalValue ms) ≠ 6 ∨ UInt32.ofNat (decimalValue ns) < 1) := by
    rw [not_or, not_not]
    refine ⟨by rw [hmajor]; rfl, UInt32.not_lt.2 (UInt32.le_iff_toNat_le.2 ?_)⟩
    rw [hns.toNat_value]
    exact hminor
  simp only [isSupportedLinux61OrNewer, hparse, if_true, hparse', hfalse, if_false,
    extraComponents_complete hextras hends (Nat.le_refl _)]
  exact releaseSuffix_iff.2 hsuffix

/-- **The release gate.** The scanner accepts exactly the releases of the grammar. -/
theorem release_gate_grammar (release : Bytes) :
    isSupportedLinux61OrNewer release = true ↔ SupportedRelease release :=
  ⟨supportedRelease_of_gate, gate_of_supportedRelease⟩

/-! ## The text of a release -/

theorem isReleaseChar_of_isDigit {ch : UInt8} (h : isDigit ch = true) :
    isReleaseChar ch = true := by
  simp [isReleaseChar, h]

theorem isReleaseChar_ne_zero {ch : UInt8} (h : isReleaseChar ch = true) : ch ≠ 0 := by
  rintro rfl
  cases h

/-- A release that the gate accepts has characters of a release only. -/
theorem SupportedRelease.text {release : Bytes} (h : SupportedRelease release) :
    release ≠ [] ∧ ∀ ch ∈ release, isReleaseChar ch = true := by
  obtain ⟨ms, ns, extras, suffix, rfl, hms, hns, hextras, -, -, hsuffix⟩ := h
  have hcomponent {digits : Bytes} (h : ReleaseComponent digits) :
      ∀ ch ∈ digits, isReleaseChar ch = true :=
    fun ch hch => isReleaseChar_of_isDigit (h.2.2 ch hch)
  have hdot : isReleaseChar 46 = true := by decide
  refine ⟨by simp, fun ch hch => ?_⟩
  simp only [List.mem_append, List.mem_cons, List.mem_flatMap] at hch
  rcases hch with h | rfl | h | ⟨digits, hmem, rfl | h⟩ | h
  · exact hcomponent hms ch h
  · exact hdot
  · exact hcomponent hns ch h
  · exact hdot
  · exact hcomponent (hextras digits hmem) ch h
  · rcases hsuffix with rfl | ⟨sign, text, rfl, hsign, -, htext⟩
    · cases h
    · rcases List.mem_cons.1 h with rfl | h
      · rcases hsign with rfl | rfl <;> decide
      · exact htext ch h

theorem releaseTerminated_append {text : Bytes} (h : ∀ ch ∈ text, isReleaseChar ch = true)
    (rest : Bytes) : releaseTerminated (text ++ 0 :: rest) = true := by
  induction text with
  | nil => rfl
  | cons ch text ih =>
    obtain ⟨hch, htext⟩ := List.forall_mem_cons.1 h
    simp [releaseTerminated, hch, ih htext]

/-- A release with a NUL behind it passes the check of a record's text. -/
theorem validKernelReleaseText_append {text : Bytes} (hne : text ≠ [])
    (h : ∀ ch ∈ text, isReleaseChar ch = true) (rest : Bytes) :
    validKernelReleaseText (text ++ 0 :: rest) = true := by
  cases text with
  | nil => exact (hne rfl).elim
  | cons ch text =>
    have hch : ch ≠ 0 := isReleaseChar_ne_zero (h ch List.mem_cons_self)
    simp only [validKernelReleaseText, releaseTerminated_append h, Bool.true_and]
    exact bne_iff_ne.2 hch

end Drmid
