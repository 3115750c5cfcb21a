import Mathlib.Data.List.Infix
import Mathlib.Logic.Function.Basic
import Drmid.Lib.Prog

/-!
# Programs on files

Programs that make file-system calls on files named by `F`, each of which is absent or holds bytes.
A call fails or succeeds; a failed call has changed nothing, and `notFound` is the answer for absent
files only. A read or write that succeeds moves at least one byte if it can and is asked to, and may
move fewer than asked for. `makeDirectory` succeeds also where the directory is there already.

`readLoop` and `writeLoop` are the usual loops over partial reads and writes. A file that is
replaced is written beside its place and renamed into it; `Replaced` says what is left when that is
done.
-/

namespace Lib.Files

variable {F : Type}

/-- What the files hold. -/
abbrev Store (F : Type) := F → Option (List UInt8)

inductive Call (F : Type)
  | openRead (f : F)
  | openTrunc (f : F)
  | openExcl (f : F)
  | fstat (f : F)
  | read (f : F) (off n : Nat)
  | write (f : F) (data : List UInt8)
  | fchmod (f : F)
  | fsync (f : F)
  | close (f : F)
  | rename (src dst : F)
  | unlink (f : F)
  | makeDirectory
  | openDirectory
  | fsyncDirectory
  | closeDirectory
  | getRandom (n : Nat)
  | openRandom
  | readRandom (n : Nat)
  | closeRandom

/-- `notFound` is a failure with `ENOENT`. -/
inductive Reply
  | done
  | bytes (b : List UInt8)
  | count (n : Nat)
  | notFound
  | failed
  deriving DecidableEq

/-- What the environment picks for a call: whether it succeeds, how many bytes it moves, and what a
random source gives. -/
inductive Outcome
  | fails
  | succeeds (moved : Nat) (entropy : Nat → UInt8)

/-- The number of bytes that a call on `n` of them moves. -/
def moving (moved n : Nat) : Nat := min n (max 1 moved)

/-- A call that succeeds. -/
def perform [DecidableEq F] (fs : Store F) (moved : Nat) (entropy : Nat → UInt8) :
    Call F → Reply × Store F
  | .openRead f | .fstat f => (if (fs f).isSome then .done else .notFound, fs)
  | .openTrunc f => (.done, Function.update fs f (some []))
  | .openExcl f =>
    if (fs f).isSome then (.failed, fs) else (.done, Function.update fs f (some []))
  | .read f off n => (.bytes ((((fs f).getD []).drop off).take (moving moved n)), fs)
  | .write f data =>
    let n := moving moved data.length
    (.count n, Function.update fs f (some ((fs f).getD [] ++ data.take n)))
  | .rename src dst =>
    if (fs src).isSome then (.done, Function.update (Function.update fs dst (fs src)) src none)
    else (.notFound, fs)
  | .unlink f => if (fs f).isSome then (.done, Function.update fs f none) else (.notFound, fs)
  | .getRandom n | .readRandom n => (.bytes ((List.range (moving moved n)).map entropy), fs)
  | .fchmod _ | .fsync _ | .close _ | .makeDirectory | .openDirectory | .fsyncDirectory
  | .closeDirectory | .openRandom | .closeRandom => (.done, fs)

/-- A call with its outcome. -/
def exec [DecidableEq F] (c : Call F) (o : Outcome) (fs : Store F) : Reply × Store F :=
  match o with
  | .fails => (.failed, fs)
  | .succeeds moved entropy => perform fs moved entropy c

/-- The calls that the loops below make again when they are interrupted. -/
def Call.retried : Call F → Bool
  | .read _ _ _ | .write _ _ | .getRandom _ | .readRandom _ => true
  | _ => false

abbrev Program (F : Type) := Prog (Call F) Reply

/-- The call succeeded. -/
def succeeded (c : Call F) : Program F Bool := do
  return (← Prog.perform c) == .done

/-! ## Loops -/

/-- Reads up to `size` bytes, in at most `passes` passes, until one gives nothing or fails. -/
def readLoop (f : F) (size : Nat) : Nat → List UInt8 → Program F (List UInt8)
  | 0, used => return used
  | passes + 1, used => do
    if used.length < size then
      match ← Prog.perform (.read f used.length (size - used.length)) with
      | .bytes b => if b.isEmpty then return used else readLoop f size passes (used ++ b)
      | _ => return used
    else return used

/-- Collects up to `size` bytes from a source, in at most `passes` passes, until one gives nothing
or fails. -/
def drawLoop (source : Nat → Call F) (size : Nat) : Nat → List UInt8 → Program F (List UInt8)
  | 0, used => return used
  | passes + 1, used => do
    if used.length < size then
      match ← Prog.perform (source (size - used.length)) with
      | .bytes b => if b.isEmpty then return used else drawLoop source size passes (used ++ b)
      | _ => return used
    else return used

/-- Writes the bytes, in at most `passes` passes: whether everything was written. -/
def writeLoop (f : F) : Nat → List UInt8 → Program F Bool
  | 0, data => return data.isEmpty
  | passes + 1, data => do
    if data.isEmpty then return true
    else match ← Prog.perform (.write f data) with
      | .count n => if n = 0 then return false else writeLoop f passes (data.drop n)
      | _ => return false

/-- Reads the bytes of the file, if there are `size` of them and no more. -/
def readExact (f : F) (size : Nat) : Program F (Option (List UInt8)) := do
  let data ← readLoop f size size []
  if data.length < size then return none
  else
    let extra ← Prog.perform (.read f data.length 1)
    if extra = .bytes [] then return some data else return none

/-- The directory is synced, if it can be opened. -/
def syncDirectory : Program F Unit := do
  if ← succeeded .openDirectory then
    let _ ← Prog.perform .fsyncDirectory
    let _ ← Prog.perform .closeDirectory
    return ()
  else return ()

/-- The end of a replacement: a `complete` file is renamed into its place, and the file is given up
if it is not or cannot be. -/
def renameInto {α : Type} (tmp dst : F) (complete : Bool) (good bad : α) : Program F α := do
  let renamed ← if complete then succeeded (.rename tmp dst) else pure false
  if renamed then
    syncDirectory
    return good
  else
    let _ ← Prog.perform (.unlink tmp)
    return bad

/-! ## Quiet calls -/

/-- The calls that change no file. -/
def Call.Quiet : Call F → Prop
  | .openTrunc _ | .openExcl _ | .write _ _ | .rename _ _ | .unlink _ => False
  | _ => True

section
variable [DecidableEq F] {ok : Outcome → Prop} {I : Store F → Prop} {fs : Store F} {f : F}
  {size : Nat}

theorem Call.Quiet.exec {c : Call F} (hc : c.Quiet) (fs : Store F) (o : Outcome) :
    (Files.exec c o fs).2 = fs := by
  cases o with
  | fails => rfl
  | succeeds moved entropy => cases c <;> first | rfl | exact hc.elim

theorem safe_quiet {α : Type} {Q : α → Store F → Prop} {c : Call F} {k : Reply → Program F α}
    (hc : c.Quiet) (hI : I fs) (hk : ∀ o, ok o → (k (exec c o fs).1).Safe exec ok I Q fs) :
    (Prog.perform c >>= k).Safe exec ok I Q fs :=
  Prog.safe_quiet_bind (hc.exec fs) hI hk

theorem safe_succeeded_bind {α : Type} {Q : α → Store F → Prop} {c : Call F}
    {k : Bool → Program F α} :
    (succeeded c >>= k).Safe exec ok I Q fs ↔
      ∀ o, ok o → I (exec c o fs).2 ∧
        (k ((exec c o fs).1 == .done)).Safe exec ok I Q (exec c o fs).2 :=
  Iff.rfl

/-- A call that changes nothing and is refused only if calls may fail. -/
theorem safe_plain {α : Type} {Q : α → Store F → Prop} {c : Call F} {k : Bool → Program F α}
    (hc : ∀ moved entropy, perform fs moved entropy c = (.done, fs)) (hI : I fs)
    (hk : ∀ b, (b = false → ok .fails) → (k b).Safe exec ok I Q fs) :
    (succeeded c >>= k).Safe exec ok I Q fs := by
  rw [safe_succeeded_bind]
  intro o ho
  cases o with
  | fails => exact ⟨hI, hk false fun _ => ho⟩
  | succeeds moved entropy =>
    simp only [exec, hc]
    exact ⟨hI, hk true fun h => (by cases h)⟩

/-! ## Reading -/

theorem moving_pos (moved : Nat) {n : Nat} (h : 0 < n) : 0 < moving moved n := by
  simp only [moving]
  omega

/-- The bytes that a read moves continue what has been read. -/
theorem append_read_isPrefix {content used : List UInt8} (h : used <+: content) (n : Nat) :
    used ++ (content.drop used.length).take n <+: content := by
  obtain ⟨rest, rfl⟩ := h
  rw [List.drop_left, List.prefix_append_right_inj]
  exact List.take_prefix n rest

/-- The loop reads a part of the file from its start, and stops early only at the end of the file
or at a failure. -/
theorem safe_readLoop {content : List UInt8} (hI : I fs) (hf : fs f = some content) (passes : Nat)
    {used : List UInt8} (hused : used <+: content) (hle : used.length ≤ size)
    (hpasses : size ≤ used.length + passes) :
    (readLoop f size passes used).Safe exec ok I
      (fun r s => s = fs ∧ r <+: content ∧ r.length ≤ size ∧
        (r.length = size ∨ r = content ∨ ok .fails)) fs := by
  induction passes generalizing used with
  | zero => exact ⟨rfl, hused, hle, .inl (Nat.le_antisymm hle hpasses)⟩
  | succ passes ih =>
    by_cases hlt : used.length < size
    · simp only [readLoop, hlt, if_true]
      refine safe_quiet trivial hI fun o ho => ?_
      cases o with
      | fails => exact ⟨rfl, hused, hle, .inr (.inr ho)⟩
      | succeeds moved entropy =>
        obtain ⟨n, hn⟩ : ∃ n, moving moved (size - used.length) = n := ⟨_, rfl⟩
        have hpos : 0 < n := hn ▸ moving_pos moved (Nat.sub_pos_of_lt hlt)
        have hn' : n ≤ size - used.length := hn ▸ Nat.min_le_left _ _
        simp only [exec, perform, hf, Option.getD_some, hn]
        cases hb : (content.drop used.length).take n with
        | nil =>
          -- at least one byte was asked for, so nothing is left
          have hdrop : content.drop used.length = [] :=
            (List.take_eq_nil_iff.1 hb).resolve_left (by omega)
          have heq : used = content := by
            obtain ⟨rest, rfl⟩ := hused
            rw [List.drop_left] at hdrop
            rw [hdrop, List.append_nil]
          exact ⟨rfl, hused, hle, .inr (.inl heq)⟩
        | cons x xs =>
          have hnext := append_read_isPrefix hused n
          have hlen : (x :: xs).length ≤ n := hb ▸ List.length_take_le n _
          simp only [List.length_cons] at hlen
          rw [hb] at hnext
          refine ih hnext ?_ ?_
          · simp only [List.length_append, List.length_cons]
            omega
          · simp only [List.length_append, List.length_cons]
            omega
    · simp only [readLoop, hlt, if_false]
      exact ⟨rfl, hused, hle, .inl (by omega)⟩

/-- The loop can read any first part of the file: the read behind it fails. -/
theorem canReturn_readLoop {content : List UInt8} (hf : fs f = some content) {n : Nat}
    (hpos : 0 < n) (hn : n ≤ content.length) (hsize : n < size) (passes : Nat) :
    (readLoop f size (passes + 2) []).CanReturn exec (fun r s => s = fs ∧ r = content.take n)
      fs := by
  have htaken : (content.take n).length = n := List.length_take_of_le hn
  have hne : (content.take n).isEmpty = false := by
    rw [List.isEmpty_eq_false_iff, ← List.length_pos_iff, htaken]
    exact hpos
  have hmoving : moving n size = n := by
    simp only [moving]
    omega
  have hstart : 0 < size := Nat.lt_trans hpos hsize
  simp only [readLoop, List.length_nil, hstart, if_true, Nat.sub_zero]
  rw [Prog.canReturn_perform_bind]
  refine ⟨.succeeds n fun _ => 0, ?_⟩
  simp only [exec, perform, hf, Option.getD_some, List.drop_zero, hmoving, hne,
    Bool.false_eq_true, if_false, List.nil_append, htaken, hsize, if_true]
  rw [Prog.canReturn_perform_bind]
  exact ⟨.fails, rfl, rfl⟩

/-- Nothing follows what has been read. -/
theorem read_eq_nil {content data : List UInt8} (hf : fs f = some content)
    (hpart : data <+: content) (moved : Nat) (entropy : Nat → UInt8) :
    (exec (.read f data.length 1) (.succeeds moved entropy) fs).1 = .bytes [] ↔ data = content := by
  obtain ⟨rest, rfl⟩ := hpart
  simp only [exec, perform, hf, Option.getD_some, List.drop_left, Reply.bytes.injEq]
  constructor
  · intro h
    have hrest : rest = [] :=
      (List.take_eq_nil_iff.1 h).resolve_left (Nat.ne_of_gt (moving_pos moved Nat.one_pos))
    rw [hrest, List.append_nil]
  · intro h
    rw [List.self_eq_append_right.1 h, List.take_nil]

/-- The bytes are read if they are as many as asked for, unless a call fails. -/
theorem safe_readExact {content : List UInt8} (hI : I fs) (hf : fs f = some content) :
    (readExact f size).Safe exec ok I
      (fun r s => s = fs ∧ (r = (if content.length = size then some content else none) ∨
        (ok .fails ∧ r = none))) fs := by
  unfold readExact
  rw [Prog.safe_bind]
  refine (safe_readLoop hI hf size List.nil_prefix (Nat.zero_le _) (by simp)).mono ?_
  rintro data s ⟨rfl, hpart, hle, hread⟩
  by_cases hshort : data.length < size
  · simp only [hshort, if_true]
    refine ⟨rfl, ?_⟩
    rcases hread with hread | rfl | hfails
    · omega
    · exact .inl (if_neg (by omega)).symm
    · exact .inr ⟨hfails, rfl⟩
  · simp only [hshort, if_false]
    have hsize : data.length = size := by omega
    refine safe_quiet trivial hI fun o ho => ?_
    cases o with
    | fails => exact ⟨rfl, .inr ⟨ho, rfl⟩⟩
    | succeeds moved entropy =>
      have htail := read_eq_nil hf hpart moved entropy
      by_cases hcontent : data = content
      · rw [if_pos (htail.2 hcontent), if_pos (hcontent ▸ hsize), hcontent]
        exact ⟨rfl, .inl rfl⟩
      · -- the file is longer
        have hlen : content.length ≠ size := fun h =>
          hcontent (hpart.eq_of_length (hsize.trans h.symm))
        rw [if_neg fun h => hcontent (htail.1 h), if_neg hlen]
        exact ⟨rfl, .inl rfl⟩

/-- The loop over a source changes nothing; a part of the bytes is missing only after a failure. -/
theorem safe_drawLoop {source : Nat → Call F} (hI : I fs)
    (hsource : ∀ n moved entropy, perform fs moved entropy (source n) =
      (.bytes ((List.range (moving moved n)).map entropy), fs))
    (passes : Nat) {used : List UInt8} (hpasses : size ≤ used.length + passes)
    (hused : used.length ≤ size) :
    (drawLoop source size passes used).Safe exec ok I
      (fun r s => s = fs ∧ r.length ≤ size ∧ (r.length = size ∨ ok .fails)) fs := by
  induction passes generalizing used with
  | zero => exact ⟨rfl, hused, .inl (by omega)⟩
  | succ passes ih =>
    by_cases hlt : used.length < size
    · simp only [drawLoop, hlt, if_true]
      refine Prog.safe_perform_bind.2 fun o ho => ?_
      cases o with
      | fails => exact ⟨hI, rfl, hused, .inr ho⟩
      | succeeds moved entropy =>
        have hpos := moving_pos moved (Nat.sub_pos_of_lt hlt)
        have hle : moving moved (size - used.length) ≤ size - used.length := Nat.min_le_left _ _
        simp only [exec, hsource]
        refine ⟨hI, ?_⟩
        have hne :
            ((List.range (moving moved (size - used.length))).map entropy).isEmpty = false := by
          rw [List.isEmpty_eq_false_iff, ← List.length_pos_iff]
          simpa using hpos
        simp only [hne, Bool.false_eq_true, if_false]
        refine ih ?_ ?_
        · simp only [List.length_append, List.length_map, List.length_range]
          omega
        · simp only [List.length_append, List.length_map, List.length_range]
          omega
    · simp only [drawLoop, hlt, if_false]
      exact ⟨rfl, hused, .inl (by omega)⟩

/-! ## Replacing a file -/

/-- The files with other contents of `tmp`. -/
def Store.withTmp (fs : Store F) (tmp : F) (x : Option (List UInt8)) : Store F :=
  Function.update fs tmp x

/-- The files after `tmp` was renamed to `dst`. -/
def Store.written (fs : Store F) (tmp dst : F) (record : List UInt8) : Store F :=
  Store.withTmp (Function.update fs dst (some record)) tmp none

section
variable {tmp dst : F}

theorem withTmp_self (fs : Store F) (tmp : F) : fs.withTmp tmp (fs tmp) = fs :=
  Function.update_eq_self _ _

theorem withTmp_apply_of_ne {g : F} (h : g ≠ tmp) (x : Option (List UInt8)) :
    fs.withTmp tmp x g = fs g :=
  Function.update_of_ne h _ _

theorem written_dst (h : tmp ≠ dst) (record : List UInt8) :
    fs.written tmp dst record dst = some record := by
  rw [Store.written, withTmp_apply_of_ne h.symm, Function.update_self]

/-- The loop appends to the file; it stops early only at a failure. -/
theorem safe_writeLoop (hI : ∀ x, I (fs.withTmp tmp x)) (passes : Nat) (pre : List UInt8)
    {data : List UInt8} (hpasses : data.length ≤ passes) :
    (writeLoop tmp passes data).Safe exec ok I
      (fun complete s => ∃ x, s = fs.withTmp tmp (some x) ∧
        (if complete then x = pre ++ data else ok .fails)) (fs.withTmp tmp (some pre)) := by
  induction passes generalizing pre data with
  | zero =>
    obtain rfl := List.length_eq_zero_iff.1 (Nat.le_zero.1 hpasses)
    exact ⟨pre, rfl, (List.append_nil pre).symm⟩
  | succ passes ih =>
    cases data with
    | nil => exact ⟨pre, rfl, (List.append_nil pre).symm⟩
    | cons b data =>
      simp only [writeLoop, List.isEmpty_cons, Bool.false_eq_true, if_false]
      rw [Prog.safe_perform_bind]
      intro o ho
      cases o with
      | fails => exact ⟨hI _, pre, rfl, ho⟩
      | succeeds moved entropy =>
        have hpos := moving_pos moved (List.length_pos_of_ne_nil (List.cons_ne_nil b data))
        obtain ⟨n, hn⟩ : ∃ n, moving moved (b :: data).length = n := ⟨_, rfl⟩
        have hstate : exec (.write tmp (b :: data)) (.succeeds moved entropy)
            (fs.withTmp tmp (some pre)) =
              (.count n, fs.withTmp tmp (some (pre ++ (b :: data).take n))) := by
          simp only [exec, perform, hn, Store.withTmp, Function.update_self, Option.getD_some,
            Function.update_idem]
        rw [hn] at hpos
        rw [hstate]
        refine ⟨hI _, ?_⟩
        simp only [Nat.ne_of_gt hpos, if_false]
        refine (ih (pre ++ (b :: data).take n) ?_).mono ?_
        · simp only [List.length_drop]
          omega
        · rintro complete s ⟨x, rfl, hx⟩
          refine ⟨x, rfl, ?_⟩
          rwa [List.append_assoc, List.take_append_drop] at hx

theorem exec_unlink_withTmp (fs : Store F) (o : Outcome) (x : Option (List UInt8)) :
    ∃ y, (exec (.unlink tmp) o (fs.withTmp tmp x)).2 = fs.withTmp tmp y := by
  cases o with
  | fails => exact ⟨x, rfl⟩
  | succeeds moved entropy =>
    cases x with
    | none => exact ⟨none, by simp [exec, perform, Store.withTmp]⟩
    | some b => exact ⟨none, by simp [exec, perform, Store.withTmp]⟩

theorem exec_rename_withTmp (h : tmp ≠ dst) (moved : Nat) (entropy : Nat → UInt8)
    (record : List UInt8) :
    exec (.rename tmp dst) (.succeeds moved entropy) (fs.withTmp tmp (some record)) =
      (.done, fs.written tmp dst record) := by
  simp only [exec, perform, Store.withTmp, Store.written, Function.update_self, Option.isSome_some,
    if_true]
  rw [Function.update_comm h, Function.update_idem]

/-- What the replacement of `dst` leaves: the record in its place, or after a failure the files but
for `tmp` as they were. -/
def Replaced {α : Type} (ok : Outcome → Prop) (fs : Store F) (tmp dst : F) (record : List UInt8)
    (good bad r : α) (s : Store F) : Prop :=
  (r = good ∧ s = fs.written tmp dst record) ∨
    (r = bad ∧ ok .fails ∧ ∃ x, s = fs.withTmp tmp x)

variable {α : Type} {good bad : α} {record : List UInt8}

theorem safe_unlink_withTmp (hI : ∀ x, I (fs.withTmp tmp x)) (hfails : ok .fails)
    (x : Option (List UInt8)) :
    (Prog.perform (.unlink tmp) >>= fun _ => (pure bad : Program F α)).Safe exec ok I
      (Replaced ok fs tmp dst record good bad) (fs.withTmp tmp x) := by
  rw [Prog.safe_perform_bind]
  intro o _
  obtain ⟨y, hy⟩ := exec_unlink_withTmp fs o x
  rw [hy]
  exact ⟨hI y, .inr ⟨rfl, hfails, y, rfl⟩⟩

theorem safe_syncDirectory {Q : α → Store F → Prop} {a : α} (hI : I fs) (hQ : Q a fs) :
    (syncDirectory >>= fun _ => (pure a : Program F α)).Safe exec ok I Q fs := by
  rw [Prog.safe_bind]
  refine safe_plain (fun _ _ => rfl) hI fun opened _ => ?_
  cases opened with
  | false => exact hQ
  | true => exact safe_quiet trivial hI fun _ _ => safe_quiet trivial hI fun _ _ => hQ

/-- **The end of a replacement.** A complete file is the record; an incomplete one comes of a
failure. -/
theorem safe_renameInto (h : tmp ≠ dst) (hI : ∀ x, I (fs.withTmp tmp x))
    (hwritten : I (fs.written tmp dst record)) {complete : Bool} {x : List UInt8}
    (hx : if complete then x = record else ok .fails) :
    (renameInto tmp dst complete good bad).Safe exec ok I
      (Replaced ok fs tmp dst record good bad) (fs.withTmp tmp (some x)) := by
  unfold renameInto
  cases complete with
  | false => exact safe_unlink_withTmp hI hx _
  | true =>
    obtain rfl : x = record := hx
    show (succeeded (.rename tmp dst) >>= _).Safe exec ok I _ _
    rw [safe_succeeded_bind]
    intro o ho
    cases o with
    | fails => exact ⟨hI _, safe_unlink_withTmp hI ho _⟩
    | succeeds moved entropy =>
      rw [exec_rename_withTmp h]
      exact ⟨hwritten, safe_syncDirectory hwritten (.inl ⟨rfl, rfl⟩)⟩

end
end
end Lib.Files
