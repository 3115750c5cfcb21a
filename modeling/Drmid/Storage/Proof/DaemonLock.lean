import Drmid.Storage.DaemonLock

/-!
# One daemon at a time

`step_moves` says what a system call can do to the lock: it moves one process, and it keeps, takes
or drops one lock. `LockOwners` follows for every run: an inode's owner is the process that has
locked it. If moreover every `acquire_daemon_lock` locks the inode that the name refers to, the
name stays with whoever holds the lock (`LockNamed`), and `single_daemon` follows. Without that,
three processes end up with two daemons (`unlinked_lock_admits_two_daemons`).

`acquire_returns_true` is about one daemon and any number of probes.
-/

namespace Drmid

open Lib

namespace LockSys

variable {Proc : Type}

section
variable {S S' : LockSys Proc} {p q : Proc} {ino : Ino}

/-! ## What a step does -/

/-- What the moving process did to the locks. -/
inductive OwnerChange (S : LockSys Proc) (p : Proc) (S' : LockSys Proc) : Prop
  | keeps (howner : S'.owner = S.owner) (hlocks : (S'.pc p).locks = (S.pc p).locks)
  | takes {ino : Ino} (hfree : S.owner ino = none) (hbefore : (S.pc p).locks = none)
      (hafter : (S'.pc p).locks = some ino)
      (howner : S'.owner = Function.update S.owner ino (some p))
  | drops {ino : Ino} (hbefore : (S.pc p).locks = some ino) (hafter : (S'.pc p).locks = none)
      (howner : S'.owner = Function.update S.owner ino none)

/-- A step moves one process, which keeps, takes or drops a lock. -/
structure Moves (S : LockSys Proc) (p : Proc) (S' : LockSys Proc) : Prop where
  others : ∀ q, q ≠ p → S'.pc q = S.pc q
  change : OwnerChange S p S'

theorem Moves.refl : Moves S p S := ⟨fun _ _ => rfl, .keeps rfl rfl⟩

theorem openCreate_frame (S : LockSys Proc) :
    S.openCreate.2.pc = S.pc ∧ S.openCreate.2.owner = S.owner := by
  unfold openCreate
  split <;> exact ⟨rfl, rfl⟩

/-- An inode's owner is the process that has locked it. -/
def LockOwners (S : LockSys Proc) : Prop :=
  ∀ p ino, S.owner ino = some p ↔ (S.pc p).locks = some ino

theorem LockOwners.init (name : Option Ino) (fresh : Ino) (content : Ino → List UInt8) :
    (init name fresh content : LockSys Proc).LockOwners := by
  intro p ino
  constructor <;> intro h <;> cases h

/-- Two processes do not lock one inode. -/
theorem LockOwners.unique (hS : S.LockOwners) (hp : (S.pc p).locks = some ino)
    (hq : (S.pc q).locks = some ino) : p = q := by
  have h := (hS p ino).2 hp
  rw [(hS q ino).2 hq] at h
  exact (Option.some.inj h).symm

end

variable [DecidableEq Proc] {S S' : LockSys Proc} {p q d : Proc} {ino : Ino}

@[simp] theorem setPc_pc (pc : LockPc) : (S.setPc p pc).pc p = pc := by simp [setPc]
@[simp] theorem setPc_name (pc : LockPc) : (S.setPc p pc).name = S.name := rfl

theorem setPc_other (pc : LockPc) (h : q ≠ p) : (S.setPc p pc).pc q = S.pc q := by
  simp [setPc, h]

/-- A process moves on with its lock as it is; the name and the contents may change. -/
theorem Moves.quiet {T : LockSys Proc} {pc : LockPc} (hpc : T.pc = S.pc) (howner : T.owner = S.owner)
    (h : pc.locks = (S.pc p).locks) : Moves S p (T.setPc p pc) := by
  refine ⟨fun q hq => ?_, .keeps howner ?_⟩
  · rw [setPc_other pc hq, hpc]
  · rw [setPc_pc, h]

theorem Moves.drop {pc : LockPc} (hbefore : (S.pc p).locks = some ino) (hafter : pc.locks = none) :
    Moves S p ((S.setOwner ino none).setPc p pc) :=
  ⟨fun _ hq => setPc_other pc hq, .drops hbefore (by rw [setPc_pc, hafter]) rfl⟩

theorem Moves.take {pc : LockPc} (hfree : ¬(S.owner ino).isSome = true)
    (hbefore : (S.pc p).locks = none) (hafter : pc.locks = some ino) :
    Moves S p ((S.setOwner ino (some p)).setPc p pc) :=
  ⟨fun _ hq => setPc_other pc hq,
    .takes (by simpa using hfree) hbefore (by rw [setPc_pc, hafter]) rfl⟩

theorem advanceAcquire_moves (S : LockSys Proc) (p : Proc) (fault : Bool) :
    Moves S p (S.advanceAcquire p fault) := by
  unfold advanceAcquire
  split
  · rename_i hpc
    split
    · exact .quiet rfl rfl (by rw [hpc]; rfl)
    · exact .quiet S.openCreate_frame.1 S.openCreate_frame.2 (by rw [hpc]; rfl)
  · rename_i ino hpc
    split
    · exact .quiet rfl rfl (by rw [hpc]; rfl)
    · rename_i hguard
      simp only [Bool.or_eq_true, not_or] at hguard
      exact .take hguard.2 (by rw [hpc]; rfl) rfl
  · rename_i ino hpc
    refine .quiet rfl rfl ?_
    rw [hpc]
    cases fault <;> rfl
  · rename_i ino hpc
    exact .drop (by rw [hpc]; rfl) rfl
  · exact .refl

theorem advanceRelease_moves (S : LockSys Proc) (p : Proc) (fault : Bool) :
    Moves S p (S.advanceRelease p fault) := by
  unfold advanceRelease
  split
  · rename_i ino hpc
    refine .quiet rfl rfl ?_
    rw [hpc]
    split <;> rfl
  · rename_i ino hpc
    exact .quiet rfl rfl (by rw [hpc]; rfl)
  · rename_i ino hpc
    exact .drop (by rw [hpc]; rfl) rfl
  · exact .refl

theorem advanceProbe_moves (S : LockSys Proc) (p : Proc) (fault alive : Bool) :
    Moves S p (S.advanceProbe p fault alive) := by
  unfold advanceProbe
  split
  · rename_i hpc
    split
    · exact .quiet rfl rfl (by rw [hpc]; rfl)
    · refine .quiet rfl rfl ?_
      rw [hpc]
      cases fault <;> rfl
  · rename_i ino hpc
    refine .quiet rfl rfl ?_
    rw [hpc]
    split <;> rfl
  · rename_i ino hpc
    split
    · exact .quiet rfl rfl (by rw [hpc]; rfl)
    · split
      · exact .quiet rfl rfl (by rw [hpc]; rfl)
      · rename_i hfree
        exact .take hfree (by rw [hpc]; rfl) rfl
  · rename_i ino hpc
    exact .drop (by rw [hpc]; rfl) rfl
  · rename_i ino hpc
    exact .quiet rfl rfl (by rw [hpc]; rfl)
  · exact .refl

theorem locks_of_atRest {pc : LockPc} (h : pc.atRest = true) : pc.locks = none := by
  cases pc <;> first | rfl | cases h

theorem step_moves (S : LockSys Proc) (l : LockLabel Proc) : Moves S l.actor (S.step l) := by
  cases l with
  | acquire p =>
    simp only [step]
    split
    · rename_i hrest
      exact .quiet rfl rfl (locks_of_atRest hrest).symm
    · exact .refl
  | release p =>
    simp only [step]
    split
    · rename_i ino hpc
      exact .quiet rfl rfl (by show _ = (S.pc p).locks; rw [hpc]; rfl)
    · exact .refl
  | probe p =>
    simp only [step]
    split
    · rename_i hrest
      exact .quiet rfl rfl (locks_of_atRest hrest).symm
    · exact .refl
  | advance p fault alive =>
    simp only [step]
    split
    all_goals first
      | exact S.advanceAcquire_moves p fault
      | exact S.advanceRelease_moves p fault
      | exact S.advanceProbe_moves p fault alive
      | exact .refl
  | write p content =>
    simp only [step]
    split
    · exact ⟨fun _ _ => rfl, .keeps rfl rfl⟩
    · exact .refl
  | die p =>
    simp only [step, die]
    split
    · rename_i hlocks
      exact .quiet rfl rfl hlocks.symm
    · rename_i ino hlocks
      exact .drop hlocks rfl

/-! ## Owners -/

theorem LockOwners.move (hS : S.LockOwners) (h : Moves S p S') : S'.LockOwners := by
  intro q ino
  rcases h.change with ⟨howner, hlocks⟩ | ⟨hfree, hbefore, hafter, howner⟩ |
    ⟨hbefore, hafter, howner⟩
  · rw [howner, hS q ino]
    by_cases hq : q = p
    · rw [hq, hlocks]
    · rw [h.others q hq]
  · rename_i taken
    rw [howner]
    by_cases hq : q = p
    · subst hq
      rw [hafter]
      by_cases hi : ino = taken
      · simp [hi]
      · rw [Function.update_of_ne hi, hS q ino, hbefore]
        simp [Ne.symm hi]
    · rw [h.others q hq, ← hS q ino]
      by_cases hi : ino = taken
      · simp [hi, hfree, Ne.symm hq]
      · rw [Function.update_of_ne hi]
  · rename_i dropped
    rw [howner]
    by_cases hq : q = p
    · subst hq
      rw [hafter]
      by_cases hi : ino = dropped
      · simp [hi]
      · rw [Function.update_of_ne hi, hS q ino, hbefore]
        simp [Ne.symm hi]
    · rw [h.others q hq, ← hS q ino]
      by_cases hi : ino = dropped
      · have hp := (hS p dropped).2 hbefore
        simp [hi, hp, Ne.symm hq]
      · rw [Function.update_of_ne hi]

theorem LockOwners.step (hS : S.LockOwners) (l : LockLabel Proc) : (S.step l).LockOwners :=
  hS.move (S.step_moves l)

/-! ## The name -/

/-- The inode a process counts on the name referring to: from its `flock` to its `unlinkat`. -/
def relies : LockPc → Option Ino
  | .acquireFstat ino | .held ino | .releaseFstat ino | .releaseUnlink ino => some ino
  | _ => none

theorem locks_of_relies {pc : LockPc} (h : relies pc = some ino) : pc.locks = some ino := by
  cases pc <;> first | exact h | cases h

/-- The name refers to the inode that an acquiring, holding or releasing process has locked. -/
def LockNamed (S : LockSys Proc) : Prop :=
  ∀ p ino, relies (S.pc p) = some ino → S.name = some ino

/-- One process moves and the name stays. -/
theorem LockNamed.keep (hS : S.LockNamed) (hothers : ∀ q, q ≠ p → S'.pc q = S.pc q)
    (hname : S'.name = S.name)
    (hself : ∀ ino, relies (S'.pc p) = some ino → S.name = some ino) : S'.LockNamed := by
  intro q ino hq
  rw [hname]
  by_cases h : q = p
  · exact hself ino (h ▸ hq)
  · rw [hothers q h] at hq
    exact hS q ino hq

theorem LockNamed.advanceAcquire (hS : S.LockNamed) {fault : Bool}
    (hnamed : ∀ ino, S.pc p = .acquireFlock ino → S.name = some ino) :
    (S.advanceAcquire p fault).LockNamed := by
  unfold LockSys.advanceAcquire
  split
  · split
    · exact hS.keep (fun q hq => setPc_other _ hq) rfl fun ino h => by simp [relies] at h
    · -- a fresh name is made only when nobody counts on one
      intro q ino hq
      by_cases h : q = p
      · subst h
        simp [relies] at hq
      · rw [setPc_other _ h, S.openCreate_frame.1] at hq
        have hn := hS q ino hq
        rw [setPc_name, LockSys.openCreate, hn]
        exact hn
  · rename_i ino hpc
    split
    · exact hS.keep (fun q hq => setPc_other _ hq) rfl fun ino h => by simp [relies] at h
    · refine hS.keep (fun q hq => setPc_other _ hq) rfl fun i h => ?_
      rw [setPc_pc] at h
      cases h
      exact hnamed ino hpc
  · rename_i ino hpc
    refine hS.keep (fun q hq => setPc_other _ hq) rfl fun i h => hS p i ?_
    rw [setPc_pc] at h
    rw [hpc]
    cases fault with
    | false => exact h
    | true => cases h
  · exact hS.keep (fun q hq => setPc_other _ hq) rfl fun ino h => by simp [relies] at h
  · exact hS

theorem LockNamed.advanceRelease (hS : S.LockNamed) (hown : S.LockOwners) {fault : Bool} :
    (S.advanceRelease p fault).LockNamed := by
  unfold LockSys.advanceRelease
  split
  · rename_i ino hpc
    refine hS.keep (fun q hq => setPc_other _ hq) rfl fun i h => hS p i ?_
    rw [setPc_pc] at h
    rw [hpc]
    split at h
    · exact h
    · cases h
  · rename_i ino hpc
    -- nobody else counts on the name that is taken away
    intro q i hq
    by_cases h : q = p
    · subst h
      simp [relies] at hq
    · rw [setPc_other _ h] at hq
      have hp : relies (S.pc p) = some ino := by rw [hpc]; rfl
      have hi : i = ino := by
        have h1 := hS q i hq
        rw [hS p ino hp] at h1
        exact (Option.some.inj h1).symm
      subst hi
      exact absurd (hown.unique (locks_of_relies hq) (locks_of_relies hp)) h
  · exact hS.keep (fun q hq => setPc_other _ hq) rfl fun ino h => by simp [relies] at h
  · exact hS

/-- A probe leaves the name alone and never counts on it. -/
theorem advanceProbe_name (S : LockSys Proc) (p : Proc) (fault alive : Bool) :
    (S.advanceProbe p fault alive).name = S.name ∧
      ∀ ino, relies ((S.advanceProbe p fault alive).pc p) = some ino →
        relies (S.pc p) = some ino := by
  unfold advanceProbe
  split
  · split
    · exact ⟨rfl, fun ino h => by simp [relies] at h⟩
    · refine ⟨rfl, fun ino h => ?_⟩
      cases fault <;> simp [relies] at h
  · refine ⟨rfl, fun ino h => ?_⟩
    rw [setPc_pc] at h
    split at h <;> cases h
  · split
    · exact ⟨rfl, fun ino h => by simp [relies] at h⟩
    · split <;> exact ⟨rfl, fun ino h => by simp [relies] at h⟩
  · exact ⟨rfl, fun ino h => by simp [relies] at h⟩
  · exact ⟨rfl, fun ino h => by simp [relies] at h⟩
  · exact ⟨rfl, fun ino h => h⟩

theorem LockNamed.step (hS : S.LockNamed) (hown : S.LockOwners) {l : LockLabel Proc}
    (hnamed : S.LocksNamed l) : (S.step l).LockNamed := by
  cases l with
  | acquire p =>
    simp only [LockSys.step]
    split
    · exact hS.keep (fun q hq => setPc_other _ hq) rfl fun ino h => by simp [relies] at h
    · exact hS
  | release p =>
    simp only [LockSys.step]
    split
    · rename_i ino hpc
      refine hS.keep (fun q hq => setPc_other _ hq) rfl fun i h => hS p i ?_
      rw [setPc_pc] at h
      rw [hpc]
      exact h
    · exact hS
  | probe p =>
    simp only [LockSys.step]
    split
    · exact hS.keep (fun q hq => setPc_other _ hq) rfl fun ino h => by simp [relies] at h
    · exact hS
  | advance p fault alive =>
    have hprobe : (S.advanceProbe p fault alive).LockNamed :=
      hS.keep (S.advanceProbe_moves p fault alive).others (S.advanceProbe_name p fault alive).1
        fun ino h => hS p ino ((S.advanceProbe_name p fault alive).2 ino h)
    have hflock : ∀ ino, S.pc p = .acquireFlock ino → S.name = some ino := by
      intro ino hpc
      simp only [LocksNamed, hpc] at hnamed
      rcases hnamed with h | h
      · cases h
      · exact h.symm
    simp only [LockSys.step]
    split
    all_goals first
      | exact hS.advanceAcquire hflock
      | exact hS.advanceRelease hown
      | exact hprobe
      | exact hS
  | write p content =>
    simp only [LockSys.step]
    split
    · exact hS
    · exact hS
  | die p =>
    simp only [LockSys.step, LockSys.die]
    split
    · exact hS.keep (fun q hq => setPc_other _ hq) rfl fun ino h => by simp [relies] at h
    · exact hS.keep (fun q hq => setPc_other _ hq) rfl fun ino h => by simp [relies] at h

end LockSys

open LockSys

/-- **Main result.** In every run in which each `acquire_daemon_lock` locks the inode that the name
still refers to, at most one process holds the daemon lock. -/
theorem single_daemon {Proc : Type} [DecidableEq Proc] (name : Option Ino) (fresh : Ino)
    (content : Ino → List UInt8) (ls : List (LockLabel Proc))
    (hnamed : Along LockSys.step LocksNamed (.init name fresh content) ls) (p q : Proc)
    (hp : (LockSys.run (.init name fresh content) ls).Holds p)
    (hq : (LockSys.run (.init name fresh content) ls).Holds q) : p = q := by
  have hinv : (LockSys.run (.init name fresh content) ls).LockOwners ∧
      (LockSys.run (.init name fresh content) ls).LockNamed := by
    refine hnamed.induct (P := fun _ S => S.LockOwners ∧ S.LockNamed) ⟨.init _ _ _, ?_⟩ ?_
    · intro r ino h
      cases h
    · intro _ S l hS hl
      exact ⟨hS.1.step l, hS.2.step hS.1 hl⟩
  obtain ⟨hown, hname⟩ := hinv
  obtain ⟨i, hi⟩ := hp
  obtain ⟨j, hj⟩ := hq
  have hni := hname p i (by rw [hi]; rfl)
  have hnj := hname q j (by rw [hj]; rfl)
  have hij : i = j := by
    rw [hni] at hnj
    exact Option.some.inj hnj
  refine hown.unique (by rw [hi]; rfl) ?_
  rw [hj, hij]
  rfl

/-- The system calls of a whole `acquire_daemon_lock` of `p`. -/
def acquireCalls (p : Nat) : List (LockLabel Nat) :=
  .acquire p :: List.replicate 3 (.advance p false false)

/-- The system calls of a whole `release_daemon_lock` of `p`. -/
def releaseCalls (p : Nat) : List (LockLabel Nat) :=
  .release p :: List.replicate 3 (.advance p false false)

/-- One daemon stops and the next one starts. -/
theorem single_daemon_handover :
    let S := LockSys.run (.init none 0 fun _ => [])
      (acquireCalls 1 ++ releaseCalls 1 ++ acquireCalls 2)
    S.Holds 2 ∧ ¬S.Holds 1 := by
  intro S
  have hS : S.Holds 2 := ⟨1, by decide +kernel⟩
  refine ⟨hS, fun h => ?_⟩
  have heq : 2 = 1 := single_daemon none 0 (fun _ => [])
    (acquireCalls 1 ++ releaseCalls 1 ++ acquireCalls 2) (by decide +kernel) 2 1 hS h
  cases heq

/-- Process 2 opens the lock file before process 1 unlinks it and locks it after process 1 has
unlocked it; process 3 makes a new one. -/
theorem unlinked_lock_admits_two_daemons :
    let S := LockSys.run (.init none 0 fun _ => [])
      (acquireCalls 1 ++ [.acquire 2, .advance 2 false false] ++ releaseCalls 1 ++
        List.replicate 2 (.advance 2 false false) ++ acquireCalls 3)
    S.Holds 2 ∧ S.Holds 3 ∧ 2 ≠ 3 := by
  intro S
  exact ⟨⟨0, by decide +kernel⟩, ⟨1, by decide +kernel⟩, by decide⟩

/-! ## One daemon and its probes -/

namespace LockSys

variable {Proc : Type} [DecidableEq Proc] {S : LockSys Proc} {p d : Proc} {ino : Ino}

/-- A process that is in no call but a probe's. -/
def probing : LockPc → Bool
  | .idle | .probeOpen | .probeFstat _ | .probeFlock _ | .probeUnlock _ | .probeRead _
  | .probed _ => true
  | _ => false

theorem advanceProbe_probing (fault alive : Bool) (h : probing (S.pc p) = true) :
    probing ((S.advanceProbe p fault alive).pc p) = true := by
  unfold advanceProbe
  split
  · split
    · rw [setPc_pc]; rfl
    · rw [setPc_pc]; cases fault <;> rfl
  · rw [setPc_pc]; split <;> rfl
  · split
    · rw [setPc_pc]; rfl
    · split
      · rw [setPc_pc]; rfl
      · rw [setPc_pc]; rfl
  · rw [setPc_pc]; rfl
  · rw [setPc_pc]; rfl
  · exact h

/-- A probing process goes on probing. -/
theorem step_probing {l : LockLabel Proc} (hl : OnlyProbes d S l) (hp : l.actor ≠ d)
    (h : probing (S.pc l.actor) = true) : probing ((S.step l).pc l.actor) = true := by
  cases l with
  | acquire p => cases hl
  | release p => cases hl
  | write p content => cases hl
  | probe p =>
    simp only [LockSys.step, LockLabel.actor] at h ⊢
    split
    · rw [setPc_pc]; rfl
    · exact h
  | advance p fault alive =>
    have hstep : S.step (.advance p fault alive) = S.advanceProbe p fault alive ∨
        S.step (.advance p fault alive) = S := by
      simp only [LockLabel.actor] at h
      simp only [LockSys.step]
      split
      all_goals first
        | exact .inl rfl
        | exact .inr rfl
        | (rename_i hpc; rw [hpc] at h; cases h)
    rcases hstep with heq | heq
    · rw [heq]; exact advanceProbe_probing fault alive h
    · rw [heq]; exact h
  | die p =>
    simp only [LockSys.step, LockSys.die, LockLabel.actor]
    split <;> (rw [setPc_pc]; rfl)

theorem probeUnlock_of_probing {pc : LockPc} (h : probing pc = true)
    (hlocks : pc.locks = some ino) : pc = .probeUnlock ino := by
  cases pc <;> first | (cases h; done) | (cases hlocks; done) | (cases hlocks; rfl)

/-- Where `d` is after the labels `ls`, by the number of its calls: until its `flock` no probe can
be in its way, after it `d` has the lock exactly if none was. -/
def Progress (d : Proc) (S₀ : LockSys Proc) (ls : List (LockLabel Proc)) (S : LockSys Proc) : Prop :=
  let free := Along LockSys.step (ProbeFree d) S₀ ls
  match S.pc d with
  | .acquireOpen => ls.countP (callOf d) = 0 ∧ free
  | .acquireFlock _ => ls.countP (callOf d) = 1 ∧ free
  | .acquireFstat _ => ls.countP (callOf d) = 2 ∧ free
  | .held _ => 3 ≤ ls.countP (callOf d) ∧ free
  | .refused => ¬free
  | _ => False

/-- The invariant of a start among probes. -/
structure StartInv (d : Proc) (S₀ : LockSys Proc) (ls : List (LockLabel Proc)) (S : LockSys Proc) :
    Prop where
  owners : S.LockOwners
  probing : ∀ p, p ≠ d → probing (S.pc p) = true
  progress : Progress d S₀ ls S

section
variable {S₀ : LockSys Proc} {ls : List (LockLabel Proc)} {l : LockLabel Proc}

theorem StartInv.init (name : Option Ino) (fresh : Ino) (content : Ino → List UInt8) :
    StartInv d (starting d name fresh content) [] (starting d name fresh content) where
  owners := (LockOwners.init name fresh content).move (.quiet rfl rfl rfl)
  probing := fun p hp => by rw [starting, setPc_other _ hp]; rfl
  progress := by
    have hpc : (starting d name fresh content).pc d = .acquireOpen := setPc_pc _
    rw [Progress, hpc]
    exact ⟨rfl, .nil⟩

/-- A step of another process is no call of `d` and meets `ProbeFree`. -/
theorem callOf_other (h : l.actor ≠ d) : callOf d l = false ∧ ProbeFree d S l := by
  cases l with
  | advance p fault alive => exact ⟨decide_eq_false h, fun hp => absurd hp h⟩
  | acquire | release | probe | write | die => exact ⟨rfl, trivial⟩

theorem Progress.other (h : Progress d S₀ ls (run S₀ ls)) (hl : l.actor ≠ d)
    (hpc : ((run S₀ ls).step l).pc d = (run S₀ ls).pc d) :
    Progress d S₀ (ls ++ [l]) ((run S₀ ls).step l) := by
  obtain ⟨hcall, hfree⟩ := callOf_other (S := Lib.run LockSys.step S₀ ls) hl
  rw [Progress] at h ⊢
  rw [hpc, List.countP_append, List.countP_singleton, hcall, along_concat]
  simpa only [hfree, and_true, Bool.false_eq_true, if_false, Nat.add_zero] using h

/-- The inode `d` is about to lock is free exactly if no probe has locked it. -/
theorem StartInv.free_iff (h : StartInv d S₀ ls S) (hpc : S.pc d = .acquireFlock ino) :
    S.owner ino = none ↔ ∀ q, S.pc q ≠ .probeUnlock ino := by
  constructor
  · intro hnone q hq
    have hown := (h.owners q ino).2 (by rw [hq]; rfl)
    rw [hnone] at hown
    cases hown
  · intro hq
    cases howner : S.owner ino with
    | none => rfl
    | some q =>
      have hlocks := (h.owners q ino).1 howner
      have hqd : q ≠ d := by
        rintro rfl
        rw [hpc] at hlocks
        cases hlocks
      exact absurd (probeUnlock_of_probing (h.probing q hqd) hlocks) (hq q)

/-- A call of `d`. -/
theorem StartInv.call (h : StartInv d S₀ ls (run S₀ ls)) (alive : Bool) :
    Progress d S₀ (ls ++ [.advance d false alive])
      ((run S₀ ls).step (.advance d false alive)) := by
  have hprog := h.progress
  have hcount : (ls ++ [LockLabel.advance d false alive]).countP (callOf d) =
      ls.countP (callOf d) + 1 := by
    simp [List.countP_append, callOf]
  rw [Progress] at hprog ⊢
  rw [hcount, along_concat]
  generalize hS : run S₀ ls = S at *
  rw [show Lib.run LockSys.step S₀ ls = S from hS]
  cases hpc : S.pc d with
  | acquireOpen =>
    rw [hpc] at hprog
    have hnext : (S.step (.advance d false alive)).pc d = .acquireFlock S.openCreate.1 := by
      simp only [LockSys.step, hpc, LockSys.advanceAcquire, Bool.false_eq_true, if_false]
      exact setPc_pc _
    rw [hnext]
    refine ⟨by omega, hprog.2, fun _ ino hino => ?_⟩
    rw [hpc] at hino
    cases hino
  | acquireFlock ino =>
    rw [hpc] at hprog
    have hfree := h.free_iff hpc
    by_cases howner : S.owner ino = none
    · have hnext : (S.step (.advance d false alive)).pc d = .acquireFstat ino := by
        simp only [LockSys.step, hpc, LockSys.advanceAcquire, howner, Option.isSome_none,
          Bool.or_self, Bool.false_eq_true, if_false]
        exact setPc_pc _
      rw [hnext]
      refine ⟨by omega, hprog.2, fun _ i hi => ?_⟩
      rw [hpc] at hi
      cases hi
      exact hfree.1 howner
    · have hsome : (S.owner ino).isSome = true := Option.isSome_iff_ne_none.2 howner
      have hnext : (S.step (.advance d false alive)).pc d = .refused := by
        simp only [LockSys.step, hpc, LockSys.advanceAcquire, hsome, Bool.or_true, if_true]
        exact setPc_pc _
      rw [hnext]
      exact fun hall => howner (hfree.2 (hall.2 rfl ino hpc))
  | acquireFstat ino =>
    rw [hpc] at hprog
    have hnext : (S.step (.advance d false alive)).pc d = .held ino := by
      simp only [LockSys.step, hpc, LockSys.advanceAcquire, Bool.false_eq_true, if_false]
      exact setPc_pc _
    rw [hnext]
    refine ⟨by omega, hprog.2, fun _ i hi => ?_⟩
    rw [hpc] at hi
    cases hi
  | held ino =>
    rw [hpc] at hprog
    have hnext : (S.step (.advance d false alive)).pc d = .held ino := by
      simp only [LockSys.step, hpc]
    rw [hnext]
    refine ⟨by omega, hprog.2, fun _ i hi => ?_⟩
    rw [hpc] at hi
    cases hi
  | refused =>
    rw [hpc] at hprog
    have hnext : (S.step (.advance d false alive)).pc d = .refused := by
      simp only [LockSys.step, hpc]
    rw [hnext]
    exact fun hall => hprog hall.1
  | idle | acquireUnlock | releaseFstat | releaseUnlink | releaseUnlock | probeOpen | probeFstat
  | probeFlock | probeUnlock | probeRead | probed =>
    rw [hpc] at hprog
    exact hprog.elim

theorem StartInv.step (h : StartInv d S₀ ls (run S₀ ls)) (hl : OnlyProbes d (run S₀ ls) l) :
    StartInv d S₀ (ls ++ [l]) ((run S₀ ls).step l) := by
  have hothers := ((run S₀ ls).step_moves l).others
  refine ⟨h.owners.step l, fun p hp => ?_, ?_⟩
  · by_cases hactor : p = l.actor
    · subst hactor
      exact step_probing hl hp (h.probing _ hp)
    · rw [hothers p hactor]
      exact h.probing p hp
  · by_cases hactor : l.actor = d
    · cases l with
      | advance p fault alive =>
        cases hactor
        cases hl
        exact h.call alive
      | probe p => exact absurd hactor hl
      | die p => exact absurd hactor hl
      | acquire | release | write => cases hl
    · exact h.progress.other hactor (hothers d (Ne.symm hactor))

end
end LockSys

/-- **Main result.** A daemon that starts among any number of probes has its `acquire_daemon_lock`
return true exactly if no probe has the lock file locked when the daemon makes its `flock`; it
returns false otherwise. -/
theorem acquire_returns_true {Proc : Type} [DecidableEq Proc] (d : Proc) (name : Option Ino)
    (fresh : Ino) (content : Ino → List UInt8) (ls : List (LockLabel Proc))
    (honly : Along LockSys.step (OnlyProbes d) (starting d name fresh content) ls)
    (hcalls : 3 ≤ ls.countP (callOf d)) :
    let S := (starting d name fresh content).run ls
    let free := Along LockSys.step (ProbeFree d) (starting d name fresh content) ls
    (S.Holds d ↔ free) ∧ (S.pc d = .refused ↔ ¬free) := by
  intro S free
  have hinv : StartInv d (starting d name fresh content) ls S := by
    refine honly.induct (P := fun pre T => T = (starting d name fresh content).run pre ∧
      StartInv d (starting d name fresh content) pre T) ⟨rfl, .init _ _ _⟩ ?_ |>.2
    rintro pre T l ⟨rfl, hT⟩ hl
    exact ⟨(run_concat).symm, hT.step hl⟩
  have hprog := hinv.progress
  rw [Progress] at hprog
  cases hpc : S.pc d with
  | held ino =>
    rw [hpc] at hprog
    exact ⟨⟨fun _ => hprog.2, fun _ => ⟨ino, hpc⟩⟩, ⟨fun h => (by cases h), fun h => absurd hprog.2 h⟩⟩
  | refused =>
    rw [hpc] at hprog
    refine ⟨⟨fun ⟨i, hi⟩ => ?_, fun h => absurd h hprog⟩, ⟨fun _ => hprog, fun _ => rfl⟩⟩
    rw [hpc] at hi
    cases hi
  | acquireOpen | acquireFlock | acquireFstat =>
    rw [hpc] at hprog
    omega
  | idle | acquireUnlock | releaseFstat | releaseUnlink | releaseUnlock | probeOpen | probeFstat
  | probeFlock | probeUnlock | probeRead | probed =>
    rw [hpc] at hprog
    exact hprog.elim

/-- The lock file of a dead daemon with pid 12, and process 0 about to take it. -/
def staleStart : LockSys Nat := starting 0 (some 0) 1 fun _ => [49, 50, 10]

/-- A probe of process 1 up to and with its `flock`. -/
def probeLocks : List (LockLabel Nat) := .probe 1 :: List.replicate 3 (.advance 1 false true)

/-- The probe is over when the daemon starts. -/
theorem acquire_returns_true_afterProbe :
    let ls := probeLocks ++ .advance 1 false true :: List.replicate 3 (.advance 0 false false)
    (staleStart.run ls).Holds 0 ∧ Along LockSys.step (ProbeFree 0) staleStart ls := by
  intro ls
  have hholds : (staleStart.run ls).Holds 0 := ⟨0, by decide +kernel⟩
  have h := acquire_returns_true 0 (some 0) 1 (fun _ => [49, 50, 10]) ls (by decide +kernel)
    (by decide +kernel)
  exact ⟨hholds, h.1.1 hholds⟩

/-- The daemon makes its `flock` while the probe has the stale file locked, and gives up. -/
theorem probe_keeps_daemon_from_starting :
    let ls := probeLocks ++ List.replicate 3 (.advance 0 false false)
    Along LockSys.step (OnlyProbes 0) staleStart ls ∧ 3 ≤ ls.countP (callOf 0) ∧
      (staleStart.run ls).pc 0 = .refused := by
  decide +kernel

end Drmid
