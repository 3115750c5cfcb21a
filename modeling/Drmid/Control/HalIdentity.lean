import Drmid.Kernel.Bytes
import Drmid.Control.Monitor

/-!
# Which processes are Widevine HALs

`inspect_candidate` of `hal_identity.cpp` and its checks, and the scan of `/proc` by
`discover_widevine_hal_identities`. A directory entry comes with what the files of its process read
as: the answers of `read_link`, of `read_bounded_file` and of `opendir` are inputs, `none` being a
failure. Left out are the details that the function can list besides the TGIDs.
-/

namespace Drmid

/-! ## Texts -/

def decimalName (text : Bytes) : Bool := !text.isEmpty && text.all isDigit

def containsText (text : Bytes) (pattern : String) : Bool := (findText (ascii pattern) text).isSome

/-- `basename_of`: what stands behind the last `/`. -/
def basenameOf (path : Bytes) : Bytes := (path.reverse.takeWhile (· ≠ 47)).reverse

def looksLikeWidevineExe (exe : Bytes) : Bool :=
  containsText (basenameOf exe) "drm" &&
    (containsText (basenameOf exe) "widevine" || containsText exe "/widevine/")

def cmdlineMatchesExe (cmdline exe : Bytes) : Bool :=
  let argv0 := cmdline.takeWhile (· ≠ 0)
  !argv0.isEmpty && basenameOf argv0 == basenameOf exe

def widevineDomain (domain : Bytes) : Bool :=
  containsText domain "hal_drm_widevine" ||
    (containsText domain "drm" && containsText domain "widevine")

/-- The value that `strtoul` returns for a number: the largest word with `ERANGE`. -/
def strtoulValue (text : Bytes) : Option UInt64 :=
  (strtoul text).map fun (value, _) => value.getD 0xffffffffffffffff

/-! ## The UID -/

/-- `"Uid:"`. -/
def uidKey : Bytes := [85, 105, 100, 58]

/-- The UIDs that `parse_uid` accepts. -/
def halUids : List UInt32 := [1013, 1019, 1031]

/-- `sscanf(status.c_str() + offset, "Uid:\t%u", &parsed)`, `text` being the text from `offset` on.
The tab stands for any white space, and the number is cut to its low 32 bits. -/
def scanUid (text : Bytes) : Option UInt32 :=
  (strtoulValue ((text.drop uidKey.length).takeWhile (· ≠ 0))).map UInt64.toUInt32

/-- The end of `parse_uid`, with what it leaves in `uid`. -/
def acceptUid (scanned : Option UInt32) (uid : UInt32) : Bool × UInt32 :=
  match scanned with
  | none => (false, uid)
  | some parsed => (decide (parsed ∈ halUids), parsed)

def parseUid (status : Bytes) (uid : UInt32) : Bool × UInt32 :=
  acceptUid ((findText uidKey status).bind scanUid) uid

/-! ## One process -/

/-- A directory entry, and what the files behind it read as. -/
structure ProcEntry where
  name : Bytes
  exe : Option Bytes
  cmdline : Option Bytes
  status : Option Bytes
  domain : Option Bytes
  /-- The entries of `fd`, with the links' targets. -/
  fds : Option (List (Bytes × Option Bytes))

structure HalProcessInfo where
  tgid : UInt32
  uid : UInt32
  exe : Bytes
  domain : Bytes
  binderPath : Bytes

def binderNames : List Bytes := [ascii "binder", ascii "hwbinder", ascii "vndbinder"]

/-- `find_binder_fd`: the target of the first descriptor that is a Binder device. -/
def findBinderFd (fds : Option (List (Bytes × Option Bytes))) : Option Bytes :=
  fds.bind fun entries => entries.findSome? fun (name, target) =>
    if decimalName name then target.filter fun path => basenameOf path ∈ binderNames else none

/-- The checks of `inspect_candidate` on the files of a process, in their order. -/
def ProcEntry.checks (entry : ProcEntry) : Option HalProcessInfo := do
  let exe ← entry.exe
  guard (looksLikeWidevineExe exe)
  let cmdline ← entry.cmdline
  guard (cmdlineMatchesExe cmdline exe)
  let status ← entry.status
  let (accepted, uid) := parseUid status 0
  guard accepted
  let domain ← entry.domain
  guard (widevineDomain domain)
  let binderPath ← findBinderFd entry.fds
  pure ⟨0, uid, exe, domain, binderPath⟩

def inspectCandidate (entry : ProcEntry) : Option HalProcessInfo :=
  if !decimalName entry.name then none
  else
    let parsed := (strtoulValue entry.name).getD 0
    if parsed = 0 ∨ 0xffffffff < parsed then none
    else entry.checks.map fun info => { info with tgid := parsed.toUInt32 }

/-! ## The scan -/

/-- `discover_widevine_hal_identities` on the entries of `/proc` in the order of the directory,
with what it leaves in `identities`. -/
def discoverIn (generation : UInt64) (entries : List ProcEntry) : KModErr × HalIdentityConfig :=
  let found := (entries.filterMap inspectCandidate).map HalProcessInfo.tgid
  match discoverWidevineHalIdentities generation (some found) with
  | .error err => (err, .zero)
  | .ok identities => (.ok, identities)

/-- A TGID of the listing that passes: its decimal name stands for it, whatever the number of
leading zeros, and the files of the process pass the checks. -/
def Passes (entries : List ProcEntry) (tgid : UInt32) : Prop :=
  ∃ entry ∈ entries, entry.name ≠ [] ∧ (∀ ch ∈ entry.name, isDigit ch = true) ∧
    decimalValue entry.name = tgid.toNat ∧ tgid ≠ 0 ∧
    entry.checks.isSome = true

/-! ## Status texts -/

/-- A number as decimal text. -/
def decimalText (n : Nat) : Bytes := (Nat.toDigits 10 n).map fun c => c.toNat.toUInt8

/-- The status text of a process: its name, further lines, and the line with its real UID. -/
structure ProcStatus where
  comm : Bytes
  lines : List Bytes
  uid : UInt32
  /-- What follows the real UID. -/
  rest : Bytes
  comm_short : comm.length ≤ 15
  comm_line : 10 ∉ comm
  keys : ∀ line ∈ lines, 10 ∉ line ∧ line.takeWhile (· ≠ 58) ≠ ascii "Uid"

namespace ProcStatus

/-- The lines before the one with the UID. -/
def head (P : ProcStatus) : Bytes :=
  ascii "Name:\t" ++ P.comm ++ 10 :: P.lines.flatMap fun line => line ++ [10]

/-- The text from the line with the UID on. -/
def uidLine (P : ProcStatus) : Bytes := uidKey ++ 9 :: (decimalText P.uid.toNat ++ 9 :: P.rest)

def text (P : ProcStatus) : Bytes := P.head ++ P.uidLine

/-- If `Uid:` stands before its line already, then what is read behind it is the real UID where that
is a HAL's, and is no HAL's where that is not. -/
def Unshadowed (P : ProcStatus) : Prop :=
  ∀ text, findText uidKey P.head = some text →
    (P.uid ∈ halUids → scanUid (text ++ P.uidLine) = some P.uid) ∧
      (P.uid ∉ halUids → ∀ uid, scanUid (text ++ P.uidLine) = some uid → uid ∉ halUids)

end ProcStatus
end Drmid
