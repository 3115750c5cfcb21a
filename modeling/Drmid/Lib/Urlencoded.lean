import Mathlib.Data.List.Basic
import Mathlib.Data.Nat.Notation

/-!
# `application/x-www-form-urlencoded`

The serializer of a form's fields and a reader of one field's value, on bytes. A value is written
byte by byte: a space as `+`, letters, digits and `*-._` as they are, every other byte as `%` and
two digits. The reader splits at `&`, looks for the first field whose text starts with the name and
`=`, and decodes the rest. `getVar_serialize` is the round trip.
-/

namespace Lib.Urlencoded

/-- The bytes that are written as they are. -/
def kept (b : UInt8) : Bool :=
  (48 ≤ b && b ≤ 57) || (65 ≤ b && b ≤ 90) || (97 ≤ b && b ≤ 122) ||
    b == 42 || b == 45 || b == 46 || b == 95

/-- The upper-case digit. -/
def digit (n : Nat) : UInt8 := UInt8.ofNat (if n < 10 then 48 + n else 55 + n)

def encodeByte (b : UInt8) : List UInt8 :=
  if b = 32 then [43]
  else if kept b then [b]
  else [37, digit (b.toNat / 16), digit (b.toNat % 16)]

def encode (bytes : List UInt8) : List UInt8 := bytes.flatMap encodeByte

/-- `name=value`. -/
def pair (field : List UInt8 × List UInt8) : List UInt8 := encode field.1 ++ 61 :: encode field.2

def serialize (fields : List (List UInt8 × List UInt8)) : List UInt8 :=
  [38].intercalate (fields.map pair)

/-! ## Reading -/

def digitValue (b : UInt8) : Option Nat :=
  if 48 ≤ b ∧ b ≤ 57 then some (b.toNat - 48)
  else if 65 ≤ b ∧ b ≤ 70 then some (b.toNat - 55)
  else if 97 ≤ b ∧ b ≤ 102 then some (b.toNat - 87)
  else none

def decode : List UInt8 → List UInt8
  | 37 :: a :: b :: rest =>
    match digitValue a, digitValue b with
    | some high, some low => UInt8.ofNat (high * 16 + low) :: decode rest
    | _, _ => 37 :: decode (a :: b :: rest)
  | 43 :: rest => 32 :: decode rest
  | b :: rest => b :: decode rest
  | [] => []

/-- The value of the first field with the name. -/
def getVar (name body : List UInt8) : Option (List UInt8) :=
  ((body.splitOn 38).find? (name ++ [61]).isPrefixOf).map fun field =>
    decode (field.drop (name.length + 1))

/-! ## Round trip -/

section
variable {b : UInt8} {bytes rest name value : List UInt8}

/-- A byte that is written as it is is read as it is. -/
theorem decode_cons (h₁ : b ≠ 37) (h₂ : b ≠ 43) : decode (b :: rest) = b :: decode rest := by
  cases rest with
  | nil => simp [decode]
  | cons a rest =>
    cases rest <;> simp [decode, h₁]

theorem digitValue_digit {n : Nat} (h : n < 16) : digitValue (digit n) = some n := by
  have hall : ∀ k < 16, digitValue (digit k) = some k := by decide
  exact hall n h

theorem decode_escaped {high low : Nat} (hh : high < 16) (hl : low < 16) :
    decode (37 :: digit high :: digit low :: rest) =
      UInt8.ofNat (high * 16 + low) :: decode rest := by
  rw [decode, digitValue_digit hh, digitValue_digit hl]

theorem kept_ne (h : kept b = true) : b ≠ 37 ∧ b ≠ 38 ∧ b ≠ 43 ∧ b ≠ 61 := by
  refine ⟨?_, ?_, ?_, ?_⟩ <;>
    · rintro rfl
      revert h
      decide

theorem decode_encodeByte : decode (encodeByte b ++ rest) = b :: decode rest := by
  unfold encodeByte
  split
  next h =>
    subst h
    cases rest <;> rfl
  next =>
    split
    next hkept => exact decode_cons (kept_ne hkept).1 (kept_ne hkept).2.2.1
    next =>
      have hlt := b.toNat_lt
      have hvalue : b.toNat / 16 * 16 + b.toNat % 16 = b.toNat := by omega
      rw [List.cons_append, List.cons_append, List.cons_append, List.nil_append,
        decode_escaped (by omega) (by omega), hvalue, UInt8.ofNat_toNat]

theorem decode_encode : decode (encode bytes) = bytes := by
  induction bytes with
  | nil => rfl
  | cons b bytes ih => rw [encode, List.flatMap_cons, decode_encodeByte, ← encode, ih]

theorem digit_ne {n : Nat} (h : n < 16) : digit n ≠ 38 ∧ digit n ≠ 61 := by
  have hall : ∀ k < 16, digit k ≠ 38 ∧ digit k ≠ 61 := by decide
  exact hall n h

/-- What is written has no separators in it. -/
theorem not_mem_encode : 38 ∉ encode bytes ∧ 61 ∉ encode bytes := by
  have hbyte (b : UInt8) : 38 ∉ encodeByte b ∧ 61 ∉ encodeByte b := by
    unfold encodeByte
    split
    · decide
    split
    next hkept =>
      have hne := kept_ne hkept
      simp [hne.2.1.symm, hne.2.2.2.symm]
    next =>
      have hlt := b.toNat_lt
      have hhigh := digit_ne (n := b.toNat / 16) (by omega)
      have hlow := digit_ne (n := b.toNat % 16) (by omega)
      simp [hhigh.1.symm, hhigh.2.symm, hlow.1.symm, hlow.2.symm]
  simp only [encode, List.mem_flatMap, not_exists, not_and]
  exact ⟨fun b _ => (hbyte b).1, fun b _ => (hbyte b).2⟩

theorem not_mem_pair (field : List UInt8 × List UInt8) : 38 ∉ pair field := by
  rw [pair, List.mem_append, List.mem_cons]
  rintro (h | h | h)
  · exact not_mem_encode.1 h
  · exact absurd h (by decide)
  · exact not_mem_encode.1 h

/-- A name that needs no escapes. -/
def PlainName (name : List UInt8) : Prop := ∀ b ∈ name, kept b = true

theorem PlainName.encode_eq (h : PlainName name) : encode name = name := by
  induction name with
  | nil => rfl
  | cons b name ih =>
    have hb := h b List.mem_cons_self
    have h32 : b ≠ 32 := by
      rintro rfl
      exact absurd hb (by decide)
    rw [encode, List.flatMap_cons, ← encode, ih fun c hc => h c (List.mem_cons_of_mem b hc),
      encodeByte, if_neg h32, if_pos hb]
    rfl

/-- The part of a text before the first `=`. -/
theorem names_eq {as bs xs ys : List UInt8} (ha : 61 ∉ as) (hb : 61 ∉ bs)
    (h : as ++ 61 :: xs = bs ++ 61 :: ys) : as = bs := by
  have htake (zs ws : List UInt8) (hz : 61 ∉ zs) :
      (zs ++ 61 :: ws).takeWhile (· != 61) = zs := by
    rw [List.takeWhile_append_of_pos fun b hmem => by
      rw [bne_iff_ne]
      rintro rfl
      exact hz hmem, List.takeWhile_cons_of_neg (by decide), List.append_nil]
  rw [← htake as xs ha, h, htake bs ys hb]

/-- Only the field of a name starts with it. -/
theorem isPrefixOf_pair {field : List UInt8 × List UInt8} (hname : PlainName name)
    (hfield : PlainName field.1) :
    (name ++ [61]).isPrefixOf (pair field) = true ↔ field.1 = name := by
  have h61 {bs : List UInt8} (h : PlainName bs) : 61 ∉ bs := fun hmem =>
    (kept_ne (h 61 hmem)).2.2.2 rfl
  rw [pair, hfield.encode_eq, List.isPrefixOf_iff_prefix]
  constructor
  · rintro ⟨tail, htail⟩
    rw [List.append_assoc, List.singleton_append] at htail
    exact (names_eq (h61 hname) (h61 hfield) htail).symm
  · rintro rfl
    exact ⟨encode field.2, by simp⟩

/-- **The round trip.** A field is read back where no field before it has its name. -/
theorem getVar_serialize {before after : List (List UInt8 × List UInt8)}
    (hplain : ∀ field ∈ before ++ (name, value) :: after, PlainName field.1)
    (hfirst : ∀ field ∈ before, field.1 ≠ name) :
    getVar name (serialize (before ++ (name, value) :: after)) = some value := by
  have hname : PlainName name := hplain (name, value) (by simp)
  have hsplit : (serialize (before ++ (name, value) :: after)).splitOn 38 =
      (before ++ (name, value) :: after).map pair :=
    List.splitOn_intercalate 38 (fun l hl => by
      obtain ⟨field, -, rfl⟩ := List.mem_map.1 hl
      exact not_mem_pair field) (by simp)
  have hbefore : (before.map pair).find? (name ++ [61]).isPrefixOf = none := by
    rw [List.find?_eq_none]
    intro l hl hpre
    obtain ⟨field, hfield, rfl⟩ := List.mem_map.1 hl
    exact hfirst field hfield
      ((isPrefixOf_pair hname (hplain field (List.mem_append_left _ hfield))).1 hpre)
  have hpair : (name ++ [61]).isPrefixOf (pair (name, value)) = true :=
    (isPrefixOf_pair hname hname).2 rfl
  have hdrop : (pair (name, value)).drop (name.length + 1) = encode value := by
    rw [pair, hname.encode_eq, ← List.drop_drop, List.drop_left]
    rfl
  rw [getVar, hsplit, List.map_append, List.find?_append, hbefore, Option.none_or, List.map_cons,
    List.find?_cons_of_pos hpair, Option.map_some, hdrop, decode_encode]

end
end Lib.Urlencoded
