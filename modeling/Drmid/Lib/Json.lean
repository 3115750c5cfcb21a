import Mathlib.Data.List.Basic
import Mathlib.Tactic.Common

/-!
# JSON texts

`Json.parse` reads a JSON text, in the grammar of `JSON.parse`: any white space between tokens, all
escapes of strings, numbers with fraction and exponent. `Json.text` writes a value without white
space, and `Json.parse_text` is the round trip.

A number is kept as the decimal it is written as. The escape of half a surrogate pair is refused, as
a `Char` cannot be one.
-/

namespace Lib

/-- `mantissa · 10 ^ exponent`. -/
structure Decimal where
  mantissa : Int
  exponent : Int
  deriving DecidableEq, Repr

inductive Json
  | null
  | bool (b : Bool)
  | num (x : Decimal)
  | str (s : List Char)
  | arr (items : List Json)
  | obj (members : List (List Char × Json))

namespace Json

/-- An integer. -/
def int (n : Int) : Json := .num ⟨n, 0⟩

/-- The member of an object, the last one where there are several. -/
def get? (key : List Char) : Json → Option Json
  | .obj members => members.reverse.lookup key
  | _ => none

/-- The first member, where its key does not come again. -/
theorem get?_head {key : List Char} {v : Json} {ms : List (List Char × Json)}
    (h : key ∉ ms.map Prod.fst) : (obj ((key, v) :: ms)).get? key = some v := by
  rw [get?, List.reverse_cons, List.lookup_append, List.lookup_eq_none_iff.2]
  · rw [List.lookup_cons_self]
    rfl
  · intro m hm
    rw [bne_iff_ne]
    rintro rfl
    exact h (List.mem_map_of_mem (List.mem_reverse.1 hm))

/-! ## Writing -/

def intText (n : Int) : List Char :=
  if n < 0 then '-' :: Nat.toDigits 10 n.natAbs else Nat.toDigits 10 n.natAbs

def decimalText (x : Decimal) : List Char :=
  intText x.mantissa ++ if x.exponent = 0 then [] else 'e' :: intText x.exponent

/-- A character in a string: quotes, backslashes and control characters are escaped. -/
def charText (c : Char) : List Char :=
  if c = '"' then ['\\', '"']
  else if c = '\\' then ['\\', '\\']
  else if c.toNat < 32 then
    ['\\', 'u', '0', '0', Nat.digitChar (c.toNat / 16), Nat.digitChar (c.toNat % 16)]
  else [c]

def quoted (s : List Char) : List Char := '"' :: (s.flatMap charText ++ ['"'])

mutual

def text : Json → List Char
  | .null => ['n', 'u', 'l', 'l']
  | .bool true => ['t', 'r', 'u', 'e']
  | .bool false => ['f', 'a', 'l', 's', 'e']
  | .num x => decimalText x
  | .str s => quoted s
  | .arr [] => ['[', ']']
  | .arr (v :: vs) => '[' :: (v.text ++ itemsText vs)
  | .obj [] => ['\x7b', '\x7d']
  | .obj (m :: ms) => '\x7b' :: (memberText m ++ membersText ms)

/-- What follows an item of an array. -/
def itemsText : List Json → List Char
  | [] => [']']
  | v :: vs => ',' :: (v.text ++ itemsText vs)

def memberText : List Char × Json → List Char
  | (key, v) => quoted key ++ ':' :: v.text

/-- What follows a member of an object. -/
def membersText : List (List Char × Json) → List Char
  | [] => ['\x7d']
  | m :: ms => ',' :: (memberText m ++ membersText ms)

end

theorem text_arr (vs : List Json) :
    (arr vs).text = '[' :: ([','].intercalate (vs.map text) ++ [']']) := by
  cases vs with
  | nil => rfl
  | cons v vs =>
    rw [text]
    congr 1
    induction vs generalizing v with
    | nil => simp [itemsText]
    | cons w vs ih =>
      rw [itemsText, ih w]
      simp

theorem text_obj (ms : List (List Char × Json)) :
    (obj ms).text = '\x7b' :: ([','].intercalate (ms.map memberText) ++ ['\x7d']) := by
  cases ms with
  | nil => rfl
  | cons m ms =>
    rw [text]
    congr 1
    induction ms generalizing m with
    | nil => simp [membersText]
    | cons n ms ih =>
      rw [membersText, ih n]
      simp

/-! ## Reading -/

def isSpace (c : Char) : Bool := c == ' ' || c == '\t' || c == '\n' || c == '\r'

def skipSpace (cs : List Char) : List Char := cs.dropWhile isSpace

/-- The token at the start, and what is after it. -/
def token (t cs : List Char) : Option (List Char) :=
  if t.isPrefixOf cs then some (cs.drop t.length) else none

def natOf (ds : List Char) : Nat := Nat.ofDigitChars 10 ds 0

/-- One digit or more. -/
def digits (cs : List Char) : Option (List Char × List Char) :=
  let ds := cs.takeWhile Char.isDigit
  if ds.isEmpty then none else some (ds, cs.drop ds.length)

/-- A sign that is there, and what is after it. -/
def minus (cs : List Char) : Bool × List Char :=
  match token ['-'] cs with
  | some r => (true, r)
  | none => (false, cs)

def signed (negative : Bool) (n : Nat) : Int := if negative then -n else n

/-- The digits of a fraction, none if there is no point. -/
def fraction (cs : List Char) : Option (List Char × List Char) :=
  match token ['.'] cs with
  | some r => digits r
  | none => some ([], cs)

def exponent (cs : List Char) : Option (Int × List Char) :=
  match (token ['e'] cs).or (token ['E'] cs) with
  | none => some (0, cs)
  | some r => do
    let (negative, r) := match token ['+'] r with
      | some r => (false, r)
      | none => minus r
    let (ds, r) ← digits r
    return (signed negative (natOf ds), r)

def number (cs : List Char) : Option (Decimal × List Char) := do
  let (negative, r) := minus cs
  let (whole, r) ← digits r
  if whole.head? = some '0' ∧ whole ≠ ['0'] then none
  else
    let (frac, r) ← fraction r
    let (exp, r) ← exponent r
    return (⟨signed negative (natOf (whole ++ frac)), exp - frac.length⟩, r)

def hexValue (c : Char) : Option Nat :=
  if c.isDigit then some (c.toNat - 48)
  else if 'a' ≤ c ∧ c ≤ 'f' then some (c.toNat - 97 + 10)
  else if 'A' ≤ c ∧ c ≤ 'F' then some (c.toNat - 65 + 10)
  else none

/-- Four hexadecimal digits. -/
def codeUnit : List Char → Option (Nat × List Char)
  | a :: b :: c :: d :: r => do
    let a ← hexValue a
    let b ← hexValue b
    let c ← hexValue c
    let d ← hexValue d
    return (((a * 16 + b) * 16 + c) * 16 + d, r)
  | _ => none

/-- After `\u`: one character, from one escape or from the two of a surrogate pair. -/
def unicodeEscape (cs : List Char) : Option (Char × List Char) := do
  let (unit, r) ← codeUnit cs
  if 0xd800 ≤ unit ∧ unit < 0xdc00 then
    let r ← token ['\\', 'u'] r
    let (low, r) ← codeUnit r
    if 0xdc00 ≤ low ∧ low < 0xe000 then
      return (Char.ofNat (0x10000 + (unit - 0xd800) * 0x400 + (low - 0xdc00)), r)
    else none
  else if 0xdc00 ≤ unit ∧ unit < 0xe000 then none
  else return (Char.ofNat unit, r)

/-- After a backslash. -/
def escape : List Char → Option (Char × List Char)
  | '"' :: r => some ('"', r)
  | '\\' :: r => some ('\\', r)
  | '/' :: r => some ('/', r)
  | 'b' :: r => some (Char.ofNat 8, r)
  | 'f' :: r => some (Char.ofNat 12, r)
  | 'n' :: r => some ('\n', r)
  | 'r' :: r => some ('\r', r)
  | 't' :: r => some ('\t', r)
  | 'u' :: r => unicodeEscape r
  | _ => none

/-- The characters of a string, after its first quote, if there are fewer than the fuel. -/
def stringBody : Nat → List Char → Option (List Char × List Char)
  | 0, _ => none
  | _, [] => none
  | fuel + 1, c :: r =>
    if c = '"' then some ([], r)
    else if c = '\\' then do
      let (c, r) ← escape r
      let (s, r) ← stringBody fuel r
      return (c :: s, r)
    else if c.toNat < 32 then none
    else do
      let (s, r) ← stringBody fuel r
      return (c :: s, r)

def string (cs : List Char) : Option (List Char × List Char) := do
  let r ← token ['"'] cs
  stringBody (r.length + 1) r

mutual

/-- A value at the start, if it is not nested deeper than the fuel lets it be. -/
def value : Nat → List Char → Option (Json × List Char)
  | 0, _ => none
  | fuel + 1, cs =>
    match cs with
    | 'n' :: _ => (token ['n', 'u', 'l', 'l'] cs).map fun r => (.null, r)
    | 't' :: _ => (token ['t', 'r', 'u', 'e'] cs).map fun r => (.bool true, r)
    | 'f' :: _ => (token ['f', 'a', 'l', 's', 'e'] cs).map fun r => (.bool false, r)
    | '"' :: _ => (string cs).map fun (s, r) => (.str s, r)
    | '[' :: r =>
      match token [']'] (skipSpace r) with
      | some r => some (.arr [], r)
      | none => do
        let (v, r) ← value fuel (skipSpace r)
        let (vs, r) ← items fuel (skipSpace r)
        return (.arr (v :: vs), r)
    | '\x7b' :: r =>
      match token ['\x7d'] (skipSpace r) with
      | some r => some (.obj [], r)
      | none => do
        let (m, r) ← member fuel (skipSpace r)
        let (ms, r) ← members fuel (skipSpace r)
        return (.obj (m :: ms), r)
    | _ => (number cs).map fun (x, r) => (.num x, r)

/-- After an item of an array. -/
def items : Nat → List Char → Option (List Json × List Char)
  | 0, _ => none
  | fuel + 1, cs =>
    match token [']'] cs with
    | some r => some ([], r)
    | none => do
      let r ← token [','] cs
      let (v, r) ← value fuel (skipSpace r)
      let (vs, r) ← items fuel (skipSpace r)
      return (v :: vs, r)

def member : Nat → List Char → Option ((List Char × Json) × List Char)
  | 0, _ => none
  | fuel + 1, cs => do
    let (key, r) ← string cs
    let r ← token [':'] (skipSpace r)
    let (v, r) ← value fuel (skipSpace r)
    return ((key, v), r)

/-- After a member of an object. -/
def members : Nat → List Char → Option (List (List Char × Json) × List Char)
  | 0, _ => none
  | fuel + 1, cs =>
    match token ['\x7d'] cs with
    | some r => some ([], r)
    | none => do
      let r ← token [','] cs
      let (m, r) ← member fuel (skipSpace r)
      let (ms, r) ← members fuel (skipSpace r)
      return (m :: ms, r)

end

/-- A whole text. -/
def parse (cs : List Char) : Option Json := do
  let (v, r) ← value (cs.length + 1) (skipSpace cs)
  if (skipSpace r).isEmpty then return v else none

/-! ## Tokens -/

section
variable {c d : Char} {t r cs ds : List Char} {n : Nat}

theorem token_append (t r : List Char) : token t (t ++ r) = some r := by
  simp [token]

theorem token_cons_self : token [c] (c :: r) = some r := token_append [c] r

theorem token_cons_ne (h : c ≠ d) : token [c] (d :: r) = none := by
  simp [token, List.isPrefixOf, h]

theorem token_nil : token [c] [] = none := rfl

theorem skipSpace_cons (h : isSpace c = false) : skipSpace (c :: r) = c :: r := by
  simp [skipSpace, h]

/-- What can follow a value in a text without white space. -/
def Closed (r : List Char) : Prop :=
  ∀ c ∈ r.head?, c = ',' ∨ c = ']' ∨ c = '\x7d'

theorem closed_nil : Closed [] := fun _ h => by cases h

theorem closed_cons (h : c = ',' ∨ c = ']' ∨ c = '\x7d') : Closed (c :: r) := by
  rintro d hd
  obtain rfl := Option.some.inj hd
  exact h

theorem Closed.skipSpace (h : Closed r) : skipSpace r = r := by
  cases r with
  | nil => rfl
  | cons c r => rcases h c rfl with rfl | rfl | rfl <;> exact skipSpace_cons rfl

/-- What follows a run of digits. -/
def NoDigit (r : List Char) : Prop := ∀ c ∈ r.head?, c.isDigit = false

theorem Closed.noDigit (h : Closed r) : NoDigit r := by
  intro c hc
  rcases h c hc with rfl | rfl | rfl <;> rfl

theorem Closed.token (h : Closed r) (hc : c ≠ ',') (hc' : c ≠ ']') (hc'' : c ≠ '\x7d') :
    token [c] r = none := by
  cases r with
  | nil => exact token_nil
  | cons d r =>
    refine token_cons_ne ?_
    rintro rfl
    rcases h c rfl with rfl | rfl | rfl
    · exact hc rfl
    · exact hc' rfl
    · exact hc'' rfl

/-! ## Numbers -/

theorem takeWhile_digits (hds : ∀ c ∈ ds, c.isDigit = true) (hr : NoDigit r) :
    (ds ++ r).takeWhile Char.isDigit = ds := by
  rw [List.takeWhile_append_of_pos hds]
  cases r with
  | nil => simp
  | cons c r => simp [hr c rfl]

theorem digits_append (hds : ∀ c ∈ ds, c.isDigit = true) (hne : ds ≠ []) (hr : NoDigit r) :
    digits (ds ++ r) = some (ds, r) := by
  simp [digits, takeWhile_digits hds hr, hne]

theorem isDigit_toDigits (h : c ∈ Nat.toDigits 10 n) : c.isDigit = true :=
  Nat.isDigit_of_mem_toDigits (by decide) (by decide) h

theorem digits_toDigits (hr : NoDigit r) :
    digits (Nat.toDigits 10 n ++ r) = some (Nat.toDigits 10 n, r) :=
  digits_append (fun _ => isDigit_toDigits) Nat.toDigits_ne_nil hr

theorem natOf_toDigits (n : Nat) : natOf (Nat.toDigits 10 n) = n := Nat.ofDigitChars_ten_toDigits

/-- Only zero is written with a zero in front. -/
theorem head_toDigits (n : Nat) (h : (Nat.toDigits 10 n).head? = some '0') :
    Nat.toDigits 10 n = ['0'] := by
  induction n using Nat.strongRecOn with
  | ind n ih =>
    by_cases hn : n < 10
    · rw [Nat.toDigits_of_lt_base hn] at h ⊢
      exact congrArg (fun c => [c]) (Option.some.inj h)
    · rw [Nat.toDigits_of_base_le (by decide) (Nat.le_of_not_lt hn),
        List.head?_append_of_ne_nil _ Nat.toDigits_ne_nil] at h
      have hzero := ih (n / 10) (by omega) h
      have hvalue := natOf_toDigits (n / 10)
      rw [hzero] at hvalue
      have : n / 10 = 0 := hvalue.symm
      omega

theorem minus_toDigits (n : Nat) (r : List Char) :
    minus (Nat.toDigits 10 n ++ r) = (false, Nat.toDigits 10 n ++ r) := by
  obtain ⟨c, cs, hcs⟩ := List.exists_cons_of_ne_nil (Nat.toDigits_ne_nil (n := n) (b := 10))
  have hc : c.isDigit = true := isDigit_toDigits (n := n) (by rw [hcs]; exact List.mem_cons_self)
  have hne : '-' ≠ c := by
    rintro rfl
    cases hc
  rw [hcs, List.cons_append, minus, token_cons_ne hne]

theorem minus_intText (n : Int) (r : List Char) :
    minus (intText n ++ r) = (decide (n < 0), Nat.toDigits 10 n.natAbs ++ r) := by
  unfold intText
  split
  · next h => rw [List.cons_append, minus, token_cons_self, decide_eq_true h]
  · next h => rw [minus_toDigits, decide_eq_false h]

theorem signed_natAbs (n : Int) : signed (decide (n < 0)) n.natAbs = n := by
  unfold signed
  split
  · next h =>
    have := of_decide_eq_true h
    omega
  · next h =>
    have := of_decide_eq_false (Bool.eq_false_iff.2 h)
    omega

/-- The exponent, or that there is none. -/
theorem exponent_text (x : Int) (hr : Closed r) :
    exponent ((if x = 0 then [] else 'e' :: intText x) ++ r) = some (x, r) := by
  split
  · next h =>
    rw [List.nil_append, exponent, hr.token (by decide) (by decide) (by decide),
      hr.token (by decide) (by decide) (by decide), h]
    rfl
  · have hplus : token ['+'] (intText x ++ r) = none := by
      unfold intText
      split
      · exact token_cons_ne (by decide)
      · obtain ⟨c, cs, hcs⟩ :=
          List.exists_cons_of_ne_nil (Nat.toDigits_ne_nil (n := x.natAbs) (b := 10))
        have hc : c.isDigit = true :=
          isDigit_toDigits (n := x.natAbs) (by rw [hcs]; exact List.mem_cons_self)
        rw [hcs, List.cons_append]
        refine token_cons_ne ?_
        rintro rfl
        cases hc
    rw [List.cons_append, exponent, token_cons_self]
    simp only [Option.some_or, hplus, minus_intText, digits_toDigits hr.noDigit,
      Option.bind_eq_bind, Option.bind_some, natOf_toDigits, signed_natAbs]
    rfl

theorem number_text (x : Decimal) (hr : Closed r) :
    number (decimalText x ++ r) = some (x, r) := by
  have hfollow : NoDigit ((if x.exponent = 0 then [] else 'e' :: intText x.exponent) ++ r) := by
    split
    · exact hr.noDigit
    · intro c hc
      obtain rfl := Option.some.inj hc
      rfl
  have hpoint : token ['.'] ((if x.exponent = 0 then [] else 'e' :: intText x.exponent) ++ r) =
      none := by
    split
    · exact hr.token (by decide) (by decide) (by decide)
    · exact token_cons_ne (by decide)
  have hlead : ¬((Nat.toDigits 10 x.mantissa.natAbs).head? = some '0' ∧
      Nat.toDigits 10 x.mantissa.natAbs ≠ ['0']) := fun h => h.2 (head_toDigits _ h.1)
  rw [decimalText, List.append_assoc, number, minus_intText]
  simp only [digits_toDigits hfollow, Option.bind_eq_bind, Option.bind_some, if_neg hlead, fraction,
    hpoint, exponent_text x.exponent hr, List.append_nil, natOf_toDigits, signed_natAbs,
    List.length_nil, Int.ofNat_zero, Int.sub_zero]
  rfl

/-! ## Strings -/

theorem hexValue_digitChar (h : n < 16) : hexValue (Nat.digitChar n) = some n := by
  have hall : ∀ k < 16, hexValue (Nat.digitChar k) = some k := by decide
  exact hall n h

theorem unicodeEscape_control (h : c.toNat < 32) :
    unicodeEscape
      ('0' :: '0' :: Nat.digitChar (c.toNat / 16) :: Nat.digitChar (c.toNat % 16) :: r) =
        some (c, r) := by
  have hunit : ((0 * 16 + 0) * 16 + c.toNat / 16) * 16 + c.toNat % 16 = c.toNat := by omega
  have hzero : hexValue '0' = some 0 := rfl
  have hhigh : ¬(0xd800 ≤ c.toNat ∧ c.toNat < 0xdc00) := by omega
  have hlow : ¬(0xdc00 ≤ c.toNat ∧ c.toNat < 0xe000) := by omega
  simp only [unicodeEscape, codeUnit, hzero, hexValue_digitChar (show c.toNat / 16 < 16 by omega),
    hexValue_digitChar (show c.toNat % 16 < 16 by omega), Option.bind_eq_bind, Option.bind_some,
    Option.pure_def, hunit, if_neg hhigh, if_neg hlow, Char.ofNat_toNat]

theorem stringBody_escape {fuel : Nat} (h : escape t = some (c, r)) :
    stringBody (fuel + 1) ('\\' :: t) = (stringBody fuel r).map fun (s, r) => (c :: s, r) := by
  rw [stringBody, if_neg (by decide), if_pos rfl, h, Option.bind_eq_bind, Option.bind_some]
  dsimp only
  cases stringBody fuel r <;> rfl

theorem stringBody_plain {fuel : Nat} (hquote : c ≠ '"') (hslash : c ≠ '\\')
    (hcontrol : ¬c.toNat < 32) :
    stringBody (fuel + 1) (c :: r) = (stringBody fuel r).map fun (s, r) => (c :: s, r) := by
  rw [stringBody, if_neg hquote, if_neg hslash, if_neg hcontrol]
  cases stringBody fuel r <;> rfl

/-- A character is read back. -/
theorem stringBody_charText (fuel : Nat) (c : Char) (r : List Char) :
    stringBody (fuel + 1) (charText c ++ r) =
      (stringBody fuel r).map fun (s, r) => (c :: s, r) := by
  unfold charText
  split
  · next h =>
    subst h
    exact stringBody_escape rfl
  · split
    · next h =>
      subst h
      exact stringBody_escape rfl
    · split
      · next h => exact stringBody_escape (unicodeEscape_control h)
      · next hquote hslash hcontrol => exact stringBody_plain hquote hslash hcontrol

theorem stringBody_text (s r : List Char) (fuel : Nat) (h : s.length < fuel) :
    stringBody fuel (s.flatMap charText ++ '"' :: r) = some (s, r) := by
  induction s generalizing fuel with
  | nil =>
    obtain ⟨fuel, rfl⟩ := Nat.exists_eq_add_one_of_ne_zero (Nat.ne_of_gt h)
    rfl
  | cons c s ih =>
    obtain ⟨fuel, rfl⟩ := Nat.exists_eq_add_one_of_ne_zero (Nat.ne_of_gt (Nat.lt_of_le_of_lt
      (Nat.zero_le _) h))
    rw [List.flatMap_cons, List.append_assoc, stringBody_charText,
      ih fuel (Nat.lt_of_succ_lt_succ h)]
    rfl

theorem length_charText (c : Char) : 1 ≤ (charText c).length := by
  unfold charText
  split
  · decide
  · split
    · decide
    · split
      · exact Nat.le_add_left 1 5
      · exact Nat.le_refl 1

theorem length_le_flatMap (s : List Char) : s.length ≤ (s.flatMap charText).length := by
  induction s with
  | nil => exact Nat.le_refl 0
  | cons c s ih =>
    have := length_charText c
    rw [List.flatMap_cons, List.length_append, List.length_cons]
    omega

theorem string_quoted (s r : List Char) : string (quoted s ++ r) = some (s, r) := by
  have hfuel : s.length < (s.flatMap charText ++ '"' :: r).length + 1 := by
    have := length_le_flatMap s
    rw [List.length_append]
    omega
  rw [quoted, List.cons_append, List.append_assoc, string, token_cons_self]
  exact stringBody_text s r _ hfuel

/-! ## Values -/

theorem isSpace_of_isDigit (h : c.isDigit = true) : isSpace c = false := by
  unfold isSpace
  rw [Bool.or_eq_false_iff, Bool.or_eq_false_iff, Bool.or_eq_false_iff]
  refine ⟨⟨⟨?_, ?_⟩, ?_⟩, ?_⟩ <;>
    · rw [beq_eq_false_iff_ne]
      rintro rfl
      cases h

/-- A number starts with a sign or a digit. -/
theorem decimalText_head (x : Decimal) :
    ∃ c cs, decimalText x = c :: cs ∧ (c = '-' ∨ c.isDigit = true) := by
  unfold decimalText intText
  split
  · exact ⟨_, _, rfl, .inl rfl⟩
  · obtain ⟨c, cs, hcs⟩ :=
      List.exists_cons_of_ne_nil (Nat.toDigits_ne_nil (n := x.mantissa.natAbs) (b := 10))
    refine ⟨c, _, by rw [hcs, List.cons_append],
      .inr (isDigit_toDigits (n := x.mantissa.natAbs) ?_)⟩
    rw [hcs]
    exact List.mem_cons_self

/-- A value starts with what is neither white space nor the end of an array. -/
theorem text_head (v : Json) : ∃ c cs, v.text = c :: cs ∧ isSpace c = false ∧ c ≠ ']' := by
  cases v with
  | null => exact ⟨'n', _, by rw [text], rfl, by decide⟩
  | bool b => cases b <;> exact ⟨_, _, by rw [text], rfl, by decide⟩
  | num x =>
    obtain ⟨c, cs, hcs, hc⟩ := decimalText_head x
    refine ⟨c, cs, by rw [text, hcs], ?_⟩
    rcases hc with rfl | hc
    · exact ⟨rfl, by decide⟩
    · refine ⟨isSpace_of_isDigit hc, ?_⟩
      rintro rfl
      cases hc
  | str s => exact ⟨'"', _, by rw [text, quoted], rfl, by decide⟩
  | arr vs => cases vs <;> exact ⟨'[', _, by rw [text], rfl, by decide⟩
  | obj ms => cases ms <;> exact ⟨'\x7b', _, by rw [text], rfl, by decide⟩

theorem skipSpace_text (v : Json) (r : List Char) : skipSpace (v.text ++ r) = v.text ++ r := by
  obtain ⟨c, cs, hcs, hc, -⟩ := text_head v
  rw [hcs, List.cons_append, skipSpace_cons hc]

theorem value_number {fuel : Nat} (hc : c = '-' ∨ c.isDigit = true) :
    value (fuel + 1) (c :: cs) = (number (c :: cs)).map fun (x, r) => (.num x, r) := by
  have hne : c ≠ 'n' ∧ c ≠ 't' ∧ c ≠ 'f' ∧ c ≠ '"' ∧ c ≠ '[' ∧ c ≠ '\x7b' := by
    refine ⟨?_, ?_, ?_, ?_, ?_, ?_⟩ <;>
      · rintro rfl
        rcases hc with h | h <;> cases h
  obtain ⟨hn, ht, hf, hq, hb, ho⟩ := hne
  rw [value.eq_def]
  simp only
  split
  · next h => exact absurd (List.cons.inj h).1 hn
  · next h => exact absurd (List.cons.inj h).1 ht
  · next h => exact absurd (List.cons.inj h).1 hf
  · next h => exact absurd (List.cons.inj h).1 hq
  · next h => exact absurd (List.cons.inj h).1 hb
  · next h => exact absurd (List.cons.inj h).1 ho
  · rfl

theorem closed_itemsText (vs : List Json) (r : List Char) : Closed (itemsText vs ++ r) := by
  cases vs <;> rw [itemsText] <;> exact closed_cons (by simp)

theorem closed_membersText (ms : List (List Char × Json)) (r : List Char) :
    Closed (membersText ms ++ r) := by
  cases ms <;> rw [membersText] <;> exact closed_cons (by simp)

theorem memberText_head (m : List Char × Json) : ∃ cs, memberText m = '"' :: cs := by
  obtain ⟨key, v⟩ := m
  exact ⟨_, by rw [memberText, quoted, List.cons_append]⟩

theorem skipSpace_memberText (m : List Char × Json) (r : List Char) :
    skipSpace (memberText m ++ r) = memberText m ++ r := by
  obtain ⟨cs, hcs⟩ := memberText_head m
  rw [hcs, List.cons_append, skipSpace_cons rfl]

/-- The array that starts with `v`. -/
theorem value_arr {fuel : Nat} {v : Json} {vs : List Json}
    (hv : value fuel (v.text ++ (itemsText vs ++ r)) = some (v, itemsText vs ++ r))
    (hvs : items fuel (itemsText vs ++ r) = some (vs, r)) :
    value (fuel + 1) ((arr (v :: vs)).text ++ r) = some (.arr (v :: vs), r) := by
  obtain ⟨c, cs, hcs, -, hc⟩ := text_head v
  have hend : token [']'] (v.text ++ (itemsText vs ++ r)) = none := by
    rw [hcs, List.cons_append]
    exact token_cons_ne fun h => hc h.symm
  rw [text, List.cons_append, List.append_assoc, value.eq_def]
  simp only [skipSpace_text, hend, hv, (closed_itemsText vs r).skipSpace, hvs, Option.bind_eq_bind,
    Option.bind_some]
  rfl

theorem items_cons {fuel : Nat} {v : Json} {vs : List Json}
    (hv : value fuel (v.text ++ (itemsText vs ++ r)) = some (v, itemsText vs ++ r))
    (hvs : items fuel (itemsText vs ++ r) = some (vs, r)) :
    items (fuel + 1) (itemsText (v :: vs) ++ r) = some (v :: vs, r) := by
  rw [itemsText, List.cons_append, List.append_assoc, items, token_cons_ne (by decide),
    token_cons_self]
  simp only [skipSpace_text, hv, (closed_itemsText vs r).skipSpace, hvs, Option.bind_eq_bind,
    Option.bind_some]
  rfl

theorem member_pair {fuel : Nat} {key : List Char} {v : Json}
    (hv : value fuel (v.text ++ r) = some (v, r)) :
    member (fuel + 1) (memberText (key, v) ++ r) = some ((key, v), r) := by
  rw [memberText, List.append_assoc, member, string_quoted]
  simp only [List.cons_append, Option.bind_eq_bind, Option.bind_some,
    skipSpace_cons (show isSpace ':' = false from rfl), token_cons_self, skipSpace_text, hv]
  rfl

/-- The object that starts with `m`. -/
theorem value_obj {fuel : Nat} {m : List Char × Json} {ms : List (List Char × Json)}
    (hm : member fuel (memberText m ++ (membersText ms ++ r)) = some (m, membersText ms ++ r))
    (hms : members fuel (membersText ms ++ r) = some (ms, r)) :
    value (fuel + 1) ((obj (m :: ms)).text ++ r) = some (.obj (m :: ms), r) := by
  obtain ⟨cs, hcs⟩ := memberText_head m
  have hend : token ['\x7d'] (memberText m ++ (membersText ms ++ r)) = none := by
    rw [hcs, List.cons_append]
    exact token_cons_ne (by decide)
  rw [text, List.cons_append, List.append_assoc, value.eq_def]
  simp only [skipSpace_memberText, hend, hm, (closed_membersText ms r).skipSpace, hms,
    Option.bind_eq_bind, Option.bind_some]
  rfl

theorem members_cons {fuel : Nat} {m : List Char × Json} {ms : List (List Char × Json)}
    (hm : member fuel (memberText m ++ (membersText ms ++ r)) = some (m, membersText ms ++ r))
    (hms : members fuel (membersText ms ++ r) = some (ms, r)) :
    members (fuel + 1) (membersText (m :: ms) ++ r) = some (m :: ms, r) := by
  rw [membersText, List.cons_append, List.append_assoc, members, token_cons_ne (by decide),
    token_cons_self]
  simp only [skipSpace_memberText, hm, (closed_membersText ms r).skipSpace, hms,
    Option.bind_eq_bind, Option.bind_some]
  rfl

/-- Fuel for the length of the text is enough for all four readers. -/
theorem read_text (fuel : Nat) :
    (∀ v r, v.text.length < fuel → Closed r → value fuel (v.text ++ r) = some (v, r)) ∧
      (∀ vs r, (itemsText vs).length < fuel → items fuel (itemsText vs ++ r) = some (vs, r)) ∧
      (∀ m r, (memberText m).length < fuel → Closed r →
        member fuel (memberText m ++ r) = some (m, r)) ∧
      ∀ ms r, (membersText ms).length < fuel →
        members fuel (membersText ms ++ r) = some (ms, r) := by
  induction fuel with
  | zero =>
    exact ⟨fun _ _ h => absurd h (Nat.not_lt_zero _), fun _ _ h => absurd h (Nat.not_lt_zero _),
      fun _ _ h => absurd h (Nat.not_lt_zero _), fun _ _ h => absurd h (Nat.not_lt_zero _)⟩
  | succ fuel ih =>
    obtain ⟨hvalue, hitems, hmember, hmembers⟩ := ih
    refine ⟨fun v r h hr => ?_, fun vs r h => ?_, fun m r h hr => ?_, fun ms r h => ?_⟩
    · cases v with
      | null => rfl
      | bool b => cases b <;> rfl
      | num x =>
        obtain ⟨c, cs, hcs, hc⟩ := decimalText_head x
        have hnumber := number_text x hr
        rw [text]
        rw [hcs, List.cons_append] at hnumber ⊢
        rw [value_number hc, hnumber]
        rfl
      | str s =>
        have hstring := string_quoted s r
        rw [text, value.eq_def]
        rw [quoted, List.cons_append] at hstring ⊢
        simp only [hstring]
        rfl
      | arr vs =>
        cases vs with
        | nil => rfl
        | cons v vs =>
          rw [text, List.length_cons, List.length_append] at h
          exact value_arr (hvalue v _ (by omega) (closed_itemsText vs r)) (hitems vs r (by omega))
      | obj ms =>
        cases ms with
        | nil => rfl
        | cons m ms =>
          rw [text, List.length_cons, List.length_append] at h
          exact value_obj (hmember m _ (by omega) (closed_membersText ms r))
            (hmembers ms r (by omega))
    · cases vs with
      | nil => rfl
      | cons v vs =>
        rw [itemsText, List.length_cons, List.length_append] at h
        exact items_cons (hvalue v _ (by omega) (closed_itemsText vs r)) (hitems vs r (by omega))
    · obtain ⟨key, v⟩ := m
      rw [memberText, List.length_append, List.length_cons] at h
      exact member_pair (hvalue v r (by omega) hr)
    · cases ms with
      | nil => rfl
      | cons m ms =>
        rw [membersText, List.length_cons, List.length_append] at h
        exact members_cons (hmember m _ (by omega) (closed_membersText ms r))
          (hmembers ms r (by omega))

/-- **The round trip.** -/
theorem parse_text (v : Json) : parse v.text = some v := by
  have hread := (read_text (v.text.length + 1)).1 v [] (Nat.lt_succ_self _) closed_nil
  have hskip := skipSpace_text v []
  rw [List.append_nil] at hread hskip
  rw [parse, hskip, hread]
  rfl

end
end Json
end Lib
