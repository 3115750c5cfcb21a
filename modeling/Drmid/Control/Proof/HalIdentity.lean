import Mathlib.Data.List.Dedup
import Mathlib.Data.List.Sort
import Mathlib.Data.Set.Card
import Drmid.Control.HalIdentity

/-!
# HAL discovery is canonical, and which UID it reads

`discovery_canonical`: whatever `/proc` lists and whatever the processes' files read as, the TGIDs
that pass are reported as a set that `validate_hal_identities` accepts, in the same way for every
order of the entries, or as an error where they are more than four.

`uid_read_iff`: `parse_uid` looks for `Uid:` in the whole status text, where the process chooses
what stands in the first line. It reads the real UID exactly where no `Uid:` stands before the
line with that key, or what stands behind that one does no harm (`ProcStatus.Unshadowed`).
-/

namespace Drmid

/-! ## Searching a text -/

section
variable {pattern text rest : Bytes}

theorem findText_cons (pattern : Bytes) (b : UInt8) (text : Bytes) :
    findText pattern (b :: text) =
      if pattern <+: b :: text then some (b :: text) else findText pattern text := by
  simp only [findText, List.isPrefixOf_iff_prefix]

/-- What is found begins with the pattern and is an end of the text. -/
theorem findText_eq_some (h : findText pattern text = some rest) :
    pattern <+: rest ∧ rest <:+ text := by
  induction text with
  | nil =>
    cases pattern with
    | nil =>
      cases h
      exact ⟨List.prefix_refl _, List.suffix_refl _⟩
    | cons => cases h
  | cons b text ih =>
    rw [findText_cons] at h
    split at h
    · rename_i hp
      cases h
      exact ⟨hp, List.suffix_refl _⟩
    · obtain ⟨hp, hs⟩ := ih h
      exact ⟨hp, hs.trans (List.suffix_cons b text)⟩

/-- An occurrence stays the first one when the text goes on. -/
theorem findText_append (h : findText pattern text = some rest) (more : Bytes) :
    findText pattern (text ++ more) = some (rest ++ more) := by
  induction text with
  | nil =>
    cases pattern with
    | nil =>
      cases h
      cases more <;> simp [findText]
    | cons => cases h
  | cons b text ih =>
    rw [findText_cons] at h
    rw [List.cons_append, findText_cons]
    split at h
    · rename_i hp
      cases h
      exact if_pos (hp.trans (List.prefix_append _ more))
    · rename_i hp
      obtain ⟨hfirst, hlast⟩ := findText_eq_some h
      have hlen : pattern.length ≤ (b :: text).length :=
        (hfirst.length_le.trans hlast.length_le).trans (Nat.le_succ _)
      rw [if_neg fun hlong => hp ?_, ih h]
      exact List.prefix_of_prefix_length_le hlong (List.prefix_append (b :: text) more) hlen

/-- Where a text without an occurrence ends with a character that the pattern does not have, the
first occurrence is the one behind it. -/
theorem findText_append_of_none {stop : UInt8} (hstop : stop ∉ pattern)
    (h : findText pattern (text ++ [stop]) = none) (hrest : pattern <+: rest) (hne : rest ≠ []) :
    findText pattern (text ++ [stop] ++ rest) = some rest := by
  have hpattern : pattern ≠ [] := by
    rintro rfl
    cases text <;> simp [findText] at h
  induction text with
  | nil =>
    have hnot : ¬pattern <+: stop :: rest := by
      rintro ⟨more, hmore⟩
      cases pattern with
      | nil => exact hpattern rfl
      | cons p pattern =>
        cases hmore
        exact hstop List.mem_cons_self
    obtain ⟨b, rest, rfl⟩ := List.exists_cons_of_ne_nil hne
    rw [List.nil_append, List.singleton_append, findText_cons, if_neg hnot, findText_cons,
      if_pos hrest]
  | cons b text ih =>
    rw [List.cons_append, findText_cons] at h
    split at h
    · cases h
    · rename_i hp
      have hnot : ¬pattern <+: b :: (text ++ [stop] ++ rest) := by
        intro hlong
        have hwhole : b :: (text ++ [stop]) <+: b :: (text ++ [stop] ++ rest) :=
          (List.prefix_cons_inj b).2 (List.prefix_append _ _)
        rcases Nat.le_total pattern.length (b :: (text ++ [stop])).length with hle | hle
        · exact hp (List.prefix_of_prefix_length_le hlong hwhole hle)
        · -- the pattern would reach over the last character
          have hsub := List.prefix_of_prefix_length_le hwhole hlong hle
          exact hstop (hsub.subset (by simp))
      rw [List.cons_append, List.cons_append, findText_cons, if_neg hnot]
      exact ih h

end

/-! ## Numbers -/

section
variable {digits rest : Bytes} {c : Char}

theorem toNat_toUInt8_of_isDigit (h : c.isDigit = true) : c.toNat.toUInt8.toNat = c.toNat := by
  have hle : c.toNat ≤ 57 := by
    simp only [Char.isDigit, Bool.and_eq_true, decide_eq_true_eq] at h
    exact h.2
  exact UInt8.toNat_ofNat_of_lt' (by rw [UInt8.size]; omega)

theorem isDigit_decimalText {n : Nat} {b : UInt8} (h : b ∈ decimalText n) : isDigit b = true := by
  obtain ⟨c, hc, rfl⟩ := List.mem_map.1 h
  have hdigit := Nat.isDigit_of_mem_toDigits (by decide) (by decide) hc
  have hvalue := toNat_toUInt8_of_isDigit hdigit
  simp only [Char.isDigit, Bool.and_eq_true, decide_eq_true_eq] at hdigit
  simp only [isDigit, Bool.and_eq_true, decide_eq_true_eq, UInt8.le_iff_toNat_le, hvalue]
  exact hdigit

theorem decimalText_ne_nil (n : Nat) : decimalText n ≠ [] := by
  simp [decimalText, Nat.toDigits_ne_nil]

theorem foldl_digits {cs : List Char} (h : ∀ c ∈ cs, c.isDigit = true) (n : Nat) :
    (cs.map fun c => c.toNat.toUInt8).foldl (fun value ch => value * 10 + (ch.toNat - 48)) n =
      Nat.ofDigitChars 10 cs n := by
  induction cs generalizing n with
  | nil => simp
  | cons c cs ih =>
    obtain ⟨hc, hcs⟩ := List.forall_mem_cons.1 h
    rw [List.map_cons, List.foldl_cons, ih hcs, Nat.ofDigitChars_cons,
      toNat_toUInt8_of_isDigit hc, Nat.mul_comm 10]
    rfl

/-- The text of a number has its value. -/
theorem decimalValue_decimalText (n : Nat) : decimalValue (decimalText n) = n := by
  rw [decimalValue, decimalText,
    foldl_digits fun c hc => Nat.isDigit_of_mem_toDigits (by decide) (by decide) hc]
  exact Nat.ofDigitChars_ten_toDigits

theorem isDigit_iff {b : UInt8} : isDigit b = true ↔ 48 ≤ b.toNat ∧ b.toNat ≤ 57 := by
  simp only [isDigit, Bool.and_eq_true, decide_eq_true_eq, UInt8.le_iff_toNat_le]
  rfl

/-- A digit is neither white space nor a sign. -/
theorem isSpace_of_isDigit {b : UInt8} (h : isDigit b = true) :
    isSpace b = false ∧ b ≠ 43 ∧ b ≠ 45 := by
  obtain ⟨hlo, hhi⟩ := isDigit_iff.1 h
  have hne : ∀ c : UInt8, c.toNat < 48 → b ≠ c := fun c hc heq => by
    subst heq
    omega
  have hspace : ¬b ≤ 13 := fun hle => by
    have hle := UInt8.le_iff_toNat_le.1 hle
    simp at hle
    omega
  refine ⟨?_, hne 43 (by decide), hne 45 (by decide)⟩
  simp [isSpace, hne 32 (by decide), hspace]

/-- A number with no digit behind it. -/
theorem strtol_digits (hne : digits ≠ []) (hall : ∀ b ∈ digits, isDigit b = true)
    (hrest : rest.takeWhile isDigit = []) :
    strtol (digits ++ rest) = some ((decimalValue digits : Int), rest) := by
  obtain ⟨d, ds, rfl⟩ := List.exists_cons_of_ne_nil hne
  obtain ⟨hspace, hplus, hminus⟩ := isSpace_of_isDigit (hall d List.mem_cons_self)
  have htake : (d :: ds ++ rest).takeWhile isDigit = d :: ds := by
    rw [List.takeWhile_append_of_pos hall, hrest, List.append_nil]
  have hdrop : (d :: ds ++ rest).dropWhile isDigit = rest := by
    rw [List.dropWhile_append_of_pos hall]
    cases rest with
    | nil => rfl
    | cons b rest =>
      refine List.dropWhile_cons_of_neg fun hb => ?_
      rw [List.takeWhile_cons_of_pos hb] at hrest
      cases hrest
  unfold strtol
  simp only [List.cons_append, List.dropWhile_cons, hspace, Bool.false_eq_true, if_false]
  split
  · rename_i text heq
    exact absurd (List.cons.inj heq).1 hplus
  · rename_i text heq
    exact absurd (List.cons.inj heq).1 hminus
  · simp only [← List.cons_append, htake, hdrop, reduceCtorEq, if_false, one_mul, decimalValue]

/-- White space in front of a number. -/
theorem strtol_space {b : UInt8} (h : isSpace b = true) (text : Bytes) :
    strtol (b :: text) = strtol text := by
  simp only [strtol, List.dropWhile_cons_of_pos h]

theorem ofInt_natCast {n : Nat} (h : n < 2 ^ 64) : UInt64.ofInt n = UInt64.ofNat n := by
  have hmod : ((n : Int) % 2 ^ 64).toNat = n := by omega
  rw [UInt64.ofInt, hmod]

/-- `strtoul` of digits is their value, or the largest word. -/
theorem strtoulValue_of_strtol {text : Bytes} {n : Nat} (h : strtol text = some ((n : Int), rest)) :
    strtoulValue text = some (if n < 2 ^ 64 then UInt64.ofNat n else 0xffffffffffffffff) := by
  rw [strtoulValue, strtoul, h]
  simp only [Option.map_some, Int.natAbs_natCast]
  by_cases hlt : n < 2 ^ 64
  · rw [if_neg (by omega), if_pos hlt, ofInt_natCast hlt, Option.getD_some]
  · rw [if_pos (by omega), if_neg hlt, Option.getD_none]

end

/-! ## The UID line -/

/-- Behind the key of its line stands the real UID. -/
theorem scanUid_uidLine (P : ProcStatus) : scanUid P.uidLine = some P.uid := by
  have hdigits : ∀ b ∈ decimalText P.uid.toNat, (b ≠ 0 : Bool) = true := fun b hb => by
    have hlo := (isDigit_iff.1 (isDigit_decimalText hb)).1
    simp only [ne_eq, decide_not, Bool.not_eq_true', decide_eq_false_iff_not]
    rintro rfl
    exact absurd hlo (by decide)
  have htext : (P.uidLine.drop uidKey.length).takeWhile (· ≠ 0) =
      9 :: (decimalText P.uid.toNat ++ 9 :: P.rest.takeWhile (· ≠ 0)) := by
    rw [ProcStatus.uidLine, List.drop_left, List.takeWhile_cons_of_pos (by decide),
      List.takeWhile_append_of_pos hdigits, List.takeWhile_cons_of_pos (by decide)]
  have hstop : (9 :: P.rest.takeWhile (· ≠ 0)).takeWhile isDigit = [] :=
    List.takeWhile_cons_of_neg (by decide)
  have hnumber :=
    strtol_digits (decimalText_ne_nil P.uid.toNat) (fun _ => isDigit_decimalText) hstop
  rw [← strtol_space (b := 9) (by decide), decimalValue_decimalText] at hnumber
  have hlt : P.uid.toNat < 2 ^ 64 := P.uid.toNat_lt.trans (by decide)
  rw [scanUid, htext, strtoulValue_of_strtol hnumber, if_pos hlt, Option.map_some,
    UInt64.toUInt32_ofNat', UInt32.ofNat_toNat]

/-- The lines before the UID's end with a newline. -/
theorem head_eq_concat (P : ProcStatus) : ∃ text, P.head = text ++ [10] := by
  rcases List.eq_nil_or_concat P.lines with h | ⟨lines, line, h⟩
  · exact ⟨_, by rw [ProcStatus.head, h, List.flatMap_nil]⟩
  · refine ⟨ascii "Name:\t" ++ P.comm ++ 10 ::
      (lines.flatMap (fun line => line ++ [10]) ++ line), ?_⟩
    simp [ProcStatus.head, h, List.concat_eq_append]

/-- What `parse_uid` reads: the number behind the first `Uid:`, which is the line's own where none
stands before it. -/
theorem findText_status (P : ProcStatus) : findText uidKey P.text =
    some (((findText uidKey P.head).getD []) ++ P.uidLine) := by
  cases h : findText uidKey P.head with
  | some text => exact findText_append h _
  | none =>
    obtain ⟨text, htext⟩ := head_eq_concat P
    rw [ProcStatus.text, htext]
    rw [htext] at h
    exact findText_append_of_none (by decide) h (List.prefix_append _ _)
      (by simp [ProcStatus.uidLine, uidKey])

/-- What a scan must yield for a process with this real UID to be judged by it. -/
theorem acceptUid_iff (scanned : Option UInt32) (real : UInt32) :
    (∀ uid, ((acceptUid scanned uid).1 = true ↔ real ∈ halUids) ∧
      ((acceptUid scanned uid).1 = true → (acceptUid scanned uid).2 = real)) ↔
      (real ∈ halUids → scanned = some real) ∧
        (real ∉ halUids → ∀ uid, scanned = some uid → uid ∉ halUids) := by
  cases scanned with
  | none => simp [acceptUid]
  | some parsed =>
    simp only [acceptUid, decide_eq_true_eq, forall_const, Option.some.injEq, forall_eq']
    constructor
    · rintro ⟨hiff, heq⟩
      exact ⟨fun h => heq (hiff.2 h), fun h hp => h (hiff.1 hp)⟩
    · rintro ⟨hsame, hother⟩
      refine ⟨⟨fun hp => ?_, fun h => hsame h ▸ h⟩, fun hp => ?_⟩
      · by_contra h
        exact hother h hp
      · by_contra hne
        exact hother (fun h => hne (hsame h)) hp

/-- **Main result: the UID check.** `parse_uid` accepts exactly the processes whose real UID is a
HAL's, and yields that UID, iff no `Uid:` that is read differently stands before the line. -/
theorem uid_read_iff (P : ProcStatus) :
    (∀ uid, ((parseUid P.text uid).1 = true ↔ P.uid ∈ halUids) ∧
      ((parseUid P.text uid).1 = true → (parseUid P.text uid).2 = P.uid)) ↔ P.Unshadowed := by
  simp only [parseUid, findText_status, Option.bind_some]
  rw [acceptUid_iff, ProcStatus.Unshadowed]
  cases h : findText uidKey P.head with
  | none =>
    rw [Option.getD_none, List.nil_append, scanUid_uidLine]
    simp +contextual
  | some text => simp only [Option.getD_some, Option.some.injEq, forall_eq']

/-- A shell process that calls itself `Uid:1013`. -/
def shadowedStatus : ProcStatus where
  comm := ascii "Uid:1013"
  lines := []
  uid := 2000
  rest := ascii "2000\t2000\t2000\n"
  comm_short := by decide
  comm_line := by decide
  keys := by simp

/-- It passes for a process with UID 1013. -/
theorem named_uid_accepted :
    parseUid shadowedStatus.text 0 = (true, 1013) ∧ shadowedStatus.uid ∉ halUids ∧
      shadowedStatus.uid ≠ 1013 := by
  decide +kernel

/-! ## The set that is found -/

/-- The distinct TGIDs, smallest first. -/
abbrev distinctTgids (found : List UInt32) : List UInt32 :=
  (found.insertionSort (· ≤ ·)).destutter (· ≠ ·)

section
variable {found found' : List UInt32} {tgid : UInt32} {entries : List ProcEntry}

theorem distinctTgids_eq (found : List UInt32) :
    distinctTgids found = (found.insertionSort (· ≤ ·)).dedup :=
  (List.pairwise_insertionSort (· ≤ ·) found).destutter_eq_dedup

theorem mem_distinctTgids : tgid ∈ distinctTgids found ↔ tgid ∈ found := by
  rw [distinctTgids_eq, List.mem_dedup, List.mem_insertionSort]

theorem nodup_distinctTgids (found : List UInt32) : (distinctTgids found).Nodup := by
  rw [distinctTgids_eq]
  exact List.nodup_dedup _

theorem strict_distinctTgids (found : List UInt32) : (distinctTgids found).Pairwise (· < ·) := by
  have hle : (distinctTgids found).Pairwise (· ≤ ·) :=
    (List.pairwise_insertionSort (· ≤ ·) found).sublist (List.destutter_sublist _ _)
  exact hle.imp₂ (fun a b h hne => UInt32.lt_of_le_of_ne h hne) (nodup_distinctTgids found)

/-- The order of the directory does not matter. -/
theorem distinctTgids_perm (h : found.Perm found') :
    distinctTgids found = distinctTgids found' := by
  have hsort : found.insertionSort (· ≤ ·) = found'.insertionSort (· ≤ ·) := by
    refine List.Perm.eq_of_pairwise' (r := (· ≤ ·)) (List.pairwise_insertionSort _ _)
      (List.pairwise_insertionSort _ _) ?_
    exact (List.perm_insertionSort _ found).trans (h.trans (List.perm_insertionSort _ found').symm)
  rw [distinctTgids, hsort]

/-- The config that lists at most four TGIDs. -/
def identitiesOf (generation : UInt64) (tgids : List UInt32) : HalIdentityConfig :=
  ⟨generation, UInt32.ofNat tgids.length, .ofFn fun i => tgids.getD i 0⟩

theorem toNat_count {tgids : List UInt32} (h : tgids.length ≤ 4) (generation : UInt64) :
    (identitiesOf generation tgids).count.toNat = tgids.length :=
  UInt32.toNat_ofNat_of_lt' (by rw [UInt32.size]; omega)

theorem tgidList_identitiesOf {tgids : List UInt32} (h : tgids.length ≤ 4) (generation : UInt64) :
    (identitiesOf generation tgids).tgidList = tgids := by
  rw [HalIdentityConfig.tgidList, toNat_count h]
  refine List.ext_getElem (by simp [identitiesOf, h]) fun i hi hi' => ?_
  simp [identitiesOf, hi']

/-- Increasing non-zero TGIDs make an acceptable config. -/
theorem validate_identitiesOf {tgids : List UInt32} (h : tgids.length ≤ 4) (h0 : 0 ∉ tgids)
    (hsorted : tgids.Pairwise (· < ·)) {generation : UInt64} (hg : generation ≠ 0) :
    validateHalIdentities (identitiesOf generation tgids) = true := by
  have hcount := toNat_count h generation
  have hbounds : ¬((identitiesOf generation tgids).generation = 0 ∨
      kHalIdentityLimit < (identitiesOf generation tgids).count.toNat) := by
    rw [hcount, not_or]
    exact ⟨hg, Nat.not_lt.2 h⟩
  unfold validateHalIdentities
  rw [if_neg hbounds, List.all_eq_true]
  intro index _
  have hat (i : Nat) (hi : i < 4) :
      (identitiesOf generation tgids).tgids.toList.getD i 0 = tgids.getD i 0 := by
    simp [identitiesOf, hi]
  have hvalue : (identitiesOf generation tgids).tgids[index] = tgids.getD index.val 0 := by
    simp [identitiesOf]
  unfold validTgidAt
  dsimp only
  rw [hcount, hvalue, hat _ (by omega)]
  by_cases hlt : index.val < tgids.length
  · have hget : tgids.getD index.val 0 = tgids[index.val] := by simp [hlt]
    have hne : tgids[index.val] ≠ 0 := fun heq => h0 (heq ▸ List.getElem_mem hlt)
    rw [if_pos hlt, hget]
    simp only [Bool.and_eq_true, bne_iff_ne, ne_eq, hne, not_false_eq_true, true_and,
      Bool.or_eq_true, beq_iff_eq, decide_eq_true_eq]
    refine or_iff_not_imp_left.2 fun hpos => ?_
    have hprev : index.val - 1 < tgids.length := by omega
    have hget' : tgids.getD (index.val - 1) 0 = tgids[index.val - 1] := by simp [hprev]
    rw [hget']
    exact List.pairwise_iff_getElem.1 hsorted _ _ hprev hlt (by omega)
  · rw [if_neg hlt]
    simp [hlt]

/-! ### The processes that pass -/

theorem decimalName_iff {name : Bytes} :
    decimalName name = true ↔ name ≠ [] ∧ ∀ ch ∈ name, isDigit ch = true := by
  simp [decimalName]

/-- The range check of a name that stands for `n`, which may be too large for a machine word. -/
theorem pid_in_range_iff {n : Nat} {parsed : UInt64}
    (h : parsed = if n < 2 ^ 64 then UInt64.ofNat n else 0xffffffffffffffff) :
    (¬(parsed = 0 ∨ 0xffffffff < parsed) ↔ n ≠ 0 ∧ n < 2 ^ 32) ∧
      (n < 2 ^ 32 → parsed.toUInt32 = UInt32.ofNat n) := by
  by_cases hlt : n < 2 ^ 64
  · rw [if_pos hlt] at h
    have hn : parsed.toNat = n := by
      rw [h]
      exact UInt64.toNat_ofNat_of_lt' hlt
    constructor
    · rw [not_or, UInt64.not_lt, UInt64.le_iff_toNat_le, ← UInt64.toNat_inj, hn]
      simp
      omega
    · intro _
      rw [h, UInt64.toUInt32_ofNat']
  · rw [if_neg hlt] at h
    subst h
    refine ⟨⟨fun hnot => absurd (by decide) hnot, fun hn => ?_⟩, fun hn => ?_⟩ <;> omega

/-- An entry that passes, under the TGID that its name stands for. -/
theorem inspectCandidate_iff {entry : ProcEntry} :
    (∃ info, inspectCandidate entry = some info ∧ info.tgid = tgid) ↔
      entry.name ≠ [] ∧ (∀ ch ∈ entry.name, isDigit ch = true) ∧
        decimalValue entry.name = tgid.toNat ∧ tgid ≠ 0 ∧ entry.checks.isSome = true := by
  unfold inspectCandidate
  by_cases hname : decimalName entry.name = true
  · obtain ⟨hne, hall⟩ := decimalName_iff.1 hname
    have hnumber := strtol_digits hne hall (List.takeWhile_nil (p := isDigit))
    rw [List.append_nil] at hnumber
    obtain ⟨hrange, hcast⟩ := pid_in_range_iff (n := decimalValue entry.name) rfl
    rw [hname, strtoulValue_of_strtol hnumber, Option.getD_some]
    simp only [Bool.not_true, Bool.false_eq_true, if_false, hne, ne_eq, not_false_eq_true,
      true_and]
    generalize (if decimalValue entry.name < 2 ^ 64 then UInt64.ofNat (decimalValue entry.name)
      else 0xffffffffffffffff) = parsed at hrange hcast ⊢
    by_cases hok : parsed = 0 ∨ 0xffffffff < parsed
    · rw [if_pos hok]
      constructor
      · rintro ⟨_, ⟨⟩, _⟩
      rintro ⟨-, hvalue, h0, -⟩
      refine absurd (hrange.2 ⟨fun hz => h0 ?_, hvalue ▸ tgid.toNat_lt⟩) (not_not.2 hok)
      exact UInt32.toNat_inj.1 (hvalue.symm.trans hz)
    · obtain ⟨h0, hlt⟩ := hrange.1 hok
      rw [if_neg hok]
      have hvalue : parsed.toUInt32 = tgid ↔ decimalValue entry.name = tgid.toNat := by
        rw [hcast hlt, ← UInt32.toNat_inj, UInt32.toNat_ofNat_of_lt' hlt]
      constructor
      · rintro ⟨info, hinfo, htgid⟩
        obtain ⟨checked, hchecked, rfl⟩ := Option.map_eq_some_iff.1 hinfo
        have hv := hvalue.1 htgid
        refine ⟨hall, hv, fun hz => h0 (by rw [hv, hz]; rfl), by rw [hchecked]; rfl⟩
      · rintro ⟨-, hv, -, hchecked⟩
        obtain ⟨checked, hchecked⟩ := Option.isSome_iff_exists.1 hchecked
        exact ⟨_, by rw [hchecked]; rfl, hvalue.2 hv⟩
  · rw [Bool.not_eq_true] at hname
    rw [hname]
    simp only [Bool.not_false, if_true, reduceCtorEq, false_and, exists_false, false_iff]
    rintro ⟨hne, hall, -⟩
    rw [decimalName_iff.2 ⟨hne, hall⟩] at hname
    cases hname

theorem mem_found : tgid ∈ (entries.filterMap inspectCandidate).map HalProcessInfo.tgid ↔
    Passes entries tgid := by
  simp only [List.mem_map, List.mem_filterMap, Passes, ← inspectCandidate_iff]
  constructor
  · rintro ⟨info, ⟨entry, hentry, hinfo⟩, htgid⟩
    exact ⟨entry, hentry, info, hinfo, htgid⟩
  · rintro ⟨entry, hentry, info, hinfo, htgid⟩
    exact ⟨info, ⟨entry, hentry, hinfo⟩, htgid⟩

/-- The distinct TGIDs that pass. -/
abbrev passing (entries : List ProcEntry) : List UInt32 :=
  distinctTgids ((entries.filterMap inspectCandidate).map HalProcessInfo.tgid)

theorem length_passing : (passing entries).length = {tgid | Passes entries tgid}.ncard := by
  rw [← List.toFinset_card_of_nodup (nodup_distinctTgids _), ← Set.ncard_coe_finset]
  congr 1
  ext tgid
  simp only [List.coe_toFinset, Set.mem_ofPred_eq, mem_distinctTgids, mem_found]

/-- The outcome, by the number of distinct TGIDs that pass. -/
theorem discoverIn_eq {generation : UInt64} (hg : generation ≠ 0) (entries : List ProcEntry) :
    discoverIn generation entries =
      if kHalIdentityLimit < (passing entries).length then (.errModuleParam, .zero)
      else (.ok, identitiesOf generation (passing entries)) := by
  simp only [discoverIn, discoverWidevineHalIdentities, if_neg hg]
  split_ifs <;> rfl

end

/-- **Main result: discovery is canonical.** More than four TGIDs that pass are an error, and leave
the empty set. Otherwise the set is acceptable and lists those TGIDs. The order of the entries does
not matter. -/
theorem discovery_canonical (generation : UInt64) (hg : generation ≠ 0)
    (entries : List ProcEntry) :
    let r := discoverIn generation entries
    (r.1 ≠ .ok ↔ kHalIdentityLimit < {tgid | Passes entries tgid}.ncard) ∧
      (r.1 ≠ .ok → r.2 = .zero) ∧
      (r.1 = .ok → validateHalIdentities r.2 = true ∧ r.2.generation = generation ∧
        r.2.tgidList.Nodup ∧ ∀ tgid, tgid ∈ r.2.tgidList ↔ Passes entries tgid) ∧
      ∀ entries', entries.Perm entries' → discoverIn generation entries' = r := by
  intro r
  have hperm : ∀ entries', entries.Perm entries' → discoverIn generation entries' = r := by
    intro entries' h
    have heq := distinctTgids_perm ((h.filterMap inspectCandidate).map HalProcessInfo.tgid)
    simp only [r, discoverIn_eq hg, passing, heq]
  have hmem (tgid : UInt32) : tgid ∈ passing entries ↔ Passes entries tgid :=
    mem_distinctTgids.trans mem_found
  have h0 : 0 ∉ passing entries := fun h => by
    obtain ⟨_, _, _, _, _, hne, _⟩ := (hmem 0).1 h
    exact hne rfl
  have hr := discoverIn_eq hg entries
  change r = _ at hr
  rw [← length_passing]
  by_cases hmany : kHalIdentityLimit < (passing entries).length
  · rw [if_pos hmany] at hr
    rw [hr]
    exact ⟨⟨fun _ => hmany, fun _ => by decide⟩, fun _ => rfl, by rintro ⟨⟩, hr ▸ hperm⟩
  · rw [if_neg hmany] at hr
    have hle : (passing entries).length ≤ 4 := Nat.not_lt.1 hmany
    have hlist := tgidList_identitiesOf hle generation
    rw [hr]
    refine ⟨⟨fun h => absurd rfl h, fun h => absurd h hmany⟩, fun h => absurd rfl h, fun _ => ?_,
      hr ▸ hperm⟩
    refine ⟨validate_identitiesOf hle h0 (strict_distinctTgids _) hg, rfl, ?_, ?_⟩
    · rw [hlist]
      exact nodup_distinctTgids _
    · intro tgid
      rw [hlist]
      exact hmem tgid

/-- Of four entries three pass, two of them under one number. -/
def drmListing : List ProcEntry :=
  let passes (name : String) : ProcEntry :=
    { name := ascii name
      exe := some (ascii "/vendor/bin/hw/drm-widevine")
      cmdline := some (ascii "drm-widevine")
      status := some (ascii "Name:\tdrm-widevine\nUid:\t1013\t1013\n")
      domain := some (ascii "u:r:hal_drm_widevine:s0")
      fds := some [(ascii "3", some (ascii "/dev/binder"))] }
  [passes "812", passes "7", passes "self", passes "007"]

theorem discovery_canonical_two_hals :
    (1 : UInt64) ≠ 0 ∧ (discoverIn 1 drmListing).1 = .ok ∧
      (discoverIn 1 drmListing).2.tgidList = [7, 812] ∧
      ∀ entries', drmListing.Perm entries' → discoverIn 1 entries' = discoverIn 1 drmListing :=
  ⟨by decide, by decide +kernel, by decide +kernel,
    (discovery_canonical 1 (by decide) drmListing).2.2.2⟩

end Drmid
