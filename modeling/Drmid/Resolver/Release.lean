import Drmid.Kernel.Bytes

/-!
# Kernel release strings

`is_supported_linux_6_1_or_newer`, the gate on the release that `uname` reports, and
`valid_kernel_release_text`, the check of the release in a stored record. The scanner's `cursor` is
the list of the bytes from it on; a byte of 128 or more is no digit and no letter, whether `char` is
signed or not.
-/

namespace Drmid

/-- The characters of a vendor suffix: digits, letters, `.`, `_`, `-` and `+`. -/
def isReleaseChar (ch : UInt8) : Bool :=
  isDigit ch || (decide (65 ≤ ch) && decide (ch ≤ 90)) || (decide (97 ≤ ch) && decide (ch ≤ 122)) ||
    ch == 46 || ch == 95 || ch == 45 || ch == 43

/-- The loop of `parse_component`, after `digits` digits. -/
def componentDigits : Bytes → Nat → UInt32 → Option (UInt32 × Bytes)
  | [], _, value => some (value, [])
  | ch :: rest, digits, value =>
    if isDigit ch then
      if 3 < digits + 1 then none
      else componentDigits rest (digits + 1) (value * 10 + (ch - 48).toUInt32)
    else some (value, ch :: rest)

/-- `parse_component`: the value, and the cursor behind the digits. -/
def parseComponent : Bytes → Option (UInt32 × Bytes)
  | [] => none
  | ch :: rest => if isDigit ch then componentDigits (ch :: rest) 0 0 else none

/-- The loop over the further components, for at most `passes` passes: the cursor behind them. -/
def extraComponents : Nat → Bytes → Option Bytes
  | 0, cursor => some cursor
  | _ + 1, [] => some []
  | passes + 1, ch :: rest =>
    if ch = 46 then
      match parseComponent rest with
      | none => none
      | some (_, cursor) => extraComponents passes cursor
    else some (ch :: rest)

/-- What may follow the components. -/
def releaseSuffix : Bytes → Bool
  | [] => true
  | ch :: rest => (ch == 45 || ch == 43) && !rest.isEmpty && rest.all isReleaseChar

/-- `is_supported_linux_6_1_or_newer`. -/
def isSupportedLinux61OrNewer (release : Bytes) : Bool :=
  match parseComponent release with
  | some (major, separator :: cursor) =>
    if separator = 46 then
      match parseComponent cursor with
      | some (minor, cursor) =>
        if major ≠ 6 ∨ minor < 1 then false
        else match extraComponents cursor.length cursor with
          | none => false
          | some cursor => releaseSuffix cursor
      | none => false
    else false
  | _ => false

/-- The loop of `valid_kernel_release_text`: whether it reaches a NUL. -/
def releaseTerminated : Bytes → Bool
  | [] => false
  | ch :: rest => ch == 0 || (isReleaseChar ch && releaseTerminated rest)

/-- `valid_kernel_release_text`, of all bytes of the field. -/
def validKernelReleaseText (text : Bytes) : Bool :=
  releaseTerminated text && text.getD 0 0 != 0

/-! ## The grammar -/

/-- One to three decimal digits. -/
def ReleaseComponent (digits : Bytes) : Prop :=
  1 ≤ digits.length ∧ digits.length ≤ 3 ∧ ∀ ch ∈ digits, isDigit ch = true

/-- Nothing, or `-` or `+` and at least one character. -/
def ReleaseSuffix (suffix : Bytes) : Prop :=
  suffix = [] ∨ ∃ sign text, suffix = sign :: text ∧ (sign = 45 ∨ sign = 43) ∧ text ≠ [] ∧
    ∀ ch ∈ text, isReleaseChar ch = true

/-- The releases that the gate is for: `6.N`, further components and a suffix. -/
def SupportedRelease (release : Bytes) : Prop :=
  ∃ (major minor : Bytes) (extras : List Bytes) (suffix : Bytes),
    release = major ++ 46 :: (minor ++ (extras.flatMap (fun digits => 46 :: digits) ++ suffix)) ∧
      ReleaseComponent major ∧ ReleaseComponent minor ∧
      (∀ digits ∈ extras, ReleaseComponent digits) ∧
      decimalValue major = 6 ∧ 1 ≤ decimalValue minor ∧ ReleaseSuffix suffix

end Drmid
