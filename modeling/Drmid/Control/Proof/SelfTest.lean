import Drmid.Control.SelfTest
import Drmid.Hook.Proof.Transparent

/-!
# The self-test passes on an installed hook

A call of the installer's raises each counter of the self-test once on its way (`HookCall.due`), and
nothing lowers one. So eight of them have raised each by eight at least when they have returned,
whoever else is in the handler: `self_test_passes`.
-/

namespace Drmid

open Lib KernelCounterContext

/-! ## One call -/

/-- How far an empty call has got. -/
def CallStage.progress : CallStage → Nat
  | .gate | .bypass | .walk _ _ => 0
  | .hit => 1
  | .enter => 2
  | .pre => 3
  | .header => 4
  | .original => 5
  | .postHeader => 6
  | .post => 7
  | .exit => 8
  | .returned => 9

/-- Where an empty call has raised the counter. -/
def Counter.dueAt : Counter → Nat
  | .preCalls => 4
  | .bwrCalls | .preHeaderOk => 5
  | .postHeaderOk => 7
  | .postCalls => 8
  | _ => 10

namespace HookCall

/-- What an empty call has added to the counter. -/
def paid (k : Counter) (c : HookCall) : Nat := if k.dueAt ≤ c.stage.progress then 1 else 0

/-- An empty call takes no walk, and has its header where it is needed. -/
def Empty (c : HookCall) : Prop :=
  match c.stage with
  | .gate | .hit | .enter | .pre | .returned | .post | .exit => True
  | .header => c.frame.args = c.io
  | .original | .postHeader => c.frame.args = c.io ∧ c.header = some ⟨0, 0, 0, 0, 0, 0⟩
  | .bypass | .walk _ _ => False

variable {installerTgid : UInt32} {c : HookCall} {e : CallEvent} {ctx : KernelCounterContext}

/-- The counters that an empty call raises at a stage, but for those that others watch. -/
def raises : CallStage → List Counter
  | .pre => [.preCalls]
  | .header => [.bwrCalls, .preHeaderOk]
  | .postHeader => [.postHeaderOk]
  | .post => [.postCalls]
  | .gate | .bypass | .hit | .enter | .walk _ _ | .original | .exit | .returned => []

/-- A step of an empty call leaves it empty, and further on. -/
theorem step_empty (hprobes : c.probes installerTgid = true) (h : c.Empty)
    (hshows : copyHeader e.user c.io.arg = some ⟨0, 0, 0, 0, 0, 0⟩) :
    let s := c.step installerTgid ctx e
    s.call.Empty ∧ s.call.stage.progress = min 9 (c.stage.progress + 1) ∧
      ∀ k ∈ selfTestCounters, s.ctx.counter k =
        ctx.counter k + UInt64.ofNat ((raises c.stage).count k) := by
  simp only [probes, Bool.and_eq_true, bne_iff_ne, beq_iff_eq] at hprobes
  obtain ⟨⟨hkaddr, htgid⟩, hcmd⟩ := hprobes
  unfold HookCall.step
  unfold Empty at h
  cases hs : c.stage with
  | gate =>
    have hgate : emitHalIdentityGate installerTgid c.task ctx = true := by
      simp [emitHalIdentityGate, hkaddr, htgid]
    simp [hgate, Empty, raises, CallStage.progress]
  | bypass | walk => simp [hs] at h
  | hit => simp [Empty, raises, CallStage.progress, selfTestCounters, emitCounterIncrement]
  | enter => simp [Empty, raises, CallStage.progress, selfTestCounters, emitCounterIncrement]
  | pre => simp [Empty, raises, CallStage.progress, selfTestCounters, emitCounterIncrement]
  | header =>
    rw [hs] at h
    simp [stepHeader, hcmd, hshows, WalkStage.start, CallStage.ofWalk, StreamType.done, Empty,
      raises, CallStage.progress, selfTestCounters, emitCounterIncrement, h]
  | original =>
    rw [hs] at h
    simp [callOriginal, Empty, raises, CallStage.progress, h]
  | postHeader =>
    rw [hs] at h
    simp [stepPostHeader, h, hshows, postHeaderValid, WalkStage.start, CallStage.ofWalk,
      StreamType.done, Empty, raises, CallStage.progress, selfTestCounters, emitCounterIncrement]
  | post => simp [Empty, raises, CallStage.progress, selfTestCounters, emitCounterIncrement]
  | exit => simp [Empty, raises, CallStage.progress, selfTestCounters, emitAtomicDecrement]
  | returned => simp [Empty, raises, CallStage.progress, hs]

/-- What it pays goes up with what it raises. -/
theorem paid_raises (stage : CallStage) {k : Counter} (hk : k ∈ selfTestCounters) :
    (if k.dueAt ≤ min 9 (stage.progress + 1) then 1 else 0) =
      (if k.dueAt ≤ stage.progress then 1 else 0) + (raises stage).count k := by
  simp only [selfTestCounters, List.mem_cons, List.not_mem_nil, or_false] at hk
  rcases hk with rfl | rfl | rfl | rfl | rfl <;> cases stage <;> rfl

theorem raises_le (stage : CallStage) (k : Counter) : (raises stage).count k ≤ 1 := by
  cases stage with
  | header => cases k <;> decide
  | _ => exact List.count_le_length.trans (by simp [raises])

theorem step_probes : (c.step installerTgid ctx e).call.probes installerTgid =
    c.probes installerTgid := by
  obtain ⟨htask, hio⟩ := c.step_key installerTgid e ctx
  rw [probes, htask, hio, probes]

/-- What a call has added to the counter for the self-test. -/
def share (installerTgid : UInt32) (k : Counter) (c : HookCall) : Nat :=
  if c.probes installerTgid then c.paid k else 0

end HookCall

/-! ## Runs -/

/-- A word that is raised without wrapping. -/
theorem toNat_raised {x y : UInt64} {n : Nat} (hn : n ≤ 1) (h : y = x + UInt64.ofNat n)
    (hle : x ≤ y) : y.toNat = x.toNat + n := by
  subst h
  rw [UInt64.le_iff_toNat_le] at hle
  rw [UInt64.toNat_add, UInt64.toNat_ofNat'] at hle ⊢
  have := x.toNat_lt
  omega

namespace Hook

variable {installerTgid : UInt32} {S : Hook} {l : HookLabel} {base : Counter → Nat}

/-- The calls of the installer's are empty, and the counters have gone up by what they have paid. -/
structure Ledger (installerTgid : UInt32) (base : Counter → Nat) (S : Hook) : Prop where
  empty : ∀ c ∈ S.procs, c.probes installerTgid = true → c.Empty
  raised : ∀ k ∈ selfTestCounters,
    base k + S.total (HookCall.share installerTgid k) ≤ (S.shared.counter k).toNat

theorem Ledger.step (h : S.Ledger installerTgid base) (hshows : S.ShowsEmpty installerTgid l)
    (hwrap : S.SelfTestUnwrapped installerTgid l) :
    (S.step installerTgid l).Ledger installerTgid base := by
  refine ⟨?_, fun k hk => ?_⟩
  · have hholds : S.Holds (fun _ => True) fun c => c.probes installerTgid = true → c.Empty :=
      ⟨trivial, h.empty⟩
    refine (hholds.step (M := hookMachine installerTgid) l (fun _ _ => trivial)
      (fun i e c hl hc hempty => ⟨trivial, fun hprobes => ?_⟩) fun _ => trivial).procs
    have hprobes : c.probes installerTgid = true := HookCall.step_probes.symm.trans hprobes
    subst hl
    exact (HookCall.step_empty hprobes (hempty hprobes) (hshows c hc hprobes)).1
  · refine Pool.total_step (M := hookMachine installerTgid)
      (L := fun ctx n => base k + n ≤ (ctx.counter k).toNat) l (h.raised k hk) (fun x => ?_)
      (fun i e c n hl hc hle => ?_) fun d n hle => ?_
    · -- a call that enters has raised nothing
      have hgate : (HookCall.paid k x.call) = 0 := by
        simp only [selfTestCounters, List.mem_cons, List.not_mem_nil, or_false] at hk
        rcases hk with rfl | rfl | rfl | rfl | rfl <;> rfl
      change HookCall.share installerTgid k x.call = 0
      simp only [HookCall.share, hgate, ite_self]
    · have hcounter : S.shared.counter k ≤ (c.step installerTgid S.shared e).ctx.counter k := by
        have := hwrap k hk
        rwa [hl, Hook.step, Pool.step_step hc] at this
      subst hl
      change base k + (n + (c.step installerTgid S.shared e).call.share installerTgid k) ≤ _
      unfold HookCall.share at hle ⊢
      rw [HookCall.step_probes]
      by_cases hprobes : c.probes installerTgid = true
      · obtain ⟨-, hprogress, hraised⟩ := @HookCall.step_empty _ _ _ S.shared hprobes
          (h.empty c (List.mem_of_getElem? hc) hprobes) (hshows c hc hprobes)
        have hnat := toNat_raised (HookCall.raises_le _ k) (hraised k hk) hcounter
        have hpaid := HookCall.paid_raises c.stage hk
        rw [← hprogress] at hpaid
        simp only [hprobes, if_true, HookCall.paid] at hle ⊢
        change _ ≤ ((c.step installerTgid S.shared e).ctx.counter k).toNat
        omega
      · simp only [hprobes] at hle ⊢
        exact hle.trans (UInt64.le_iff_toNat_le.1 hcounter)
    · have hkept : (d.exec S.shared).counter k = S.shared.counter k := by
        refine (d.exec_frame S.shared).2.2 k ?_
        simp only [selfTestCounters, List.mem_cons, List.not_mem_nil, or_false] at hk
        rcases hk with rfl | rfl | rfl | rfl | rfl <;> decide
      change base k + n ≤ ((d.exec S.shared).counter k).toNat
      rw [hkept]
      exact hle

/-- The probes that have returned have paid everything. -/
theorem probesReturned_le {k : Counter} (hk : k ∈ selfTestCounters) :
    S.probesReturned installerTgid ≤ S.total (HookCall.share installerTgid k) := by
  unfold probesReturned Pool.total
  generalize S.procs = calls
  induction calls with
  | nil => exact Nat.le_refl 0
  | cons c calls ih =>
    rw [List.countP_cons, List.map_cons, List.sum_cons]
    by_cases h : (c.probes installerTgid && c.returned) = true
    · have hshare : c.share installerTgid k = 1 := by
        rw [Bool.and_eq_true] at h
        unfold HookCall.share HookCall.paid
        rw [if_pos h.1]
        cases hs : c.stage with
        | returned =>
          simp only [selfTestCounters, List.mem_cons, List.not_mem_nil, or_false] at hk
          rcases hk with rfl | rfl | rfl | rfl | rfl <;> rfl
        | _ => simp [HookCall.returned, hs] at h
      rw [if_pos h, hshare]
      omega
    · rw [if_neg h]
      omega

end Hook

/-- **Main result: the self-test passes on an installed hook.** Whoever else is in the handler, and
whatever the daemon publishes meanwhile: once eight calls of the installer's with an empty header
have gone through the handler, the five counters have gone up by eight, unless one wraps. -/
theorem self_test_passes (installerTgid : UInt32) {S : Hook} {ls : List HookLabel}
    (hnew : ∀ c ∈ S.procs, c.probes installerTgid = false)
    (hshows : Along (Hook.step installerTgid) (fun S l => S.ShowsEmpty installerTgid l) S ls)
    (hwrap : Along (Hook.step installerTgid) (fun S l => S.SelfTestUnwrapped installerTgid l) S ls)
    (hcalls : kSelfTestIoctlCount ≤ (S.run installerTgid ls).probesReturned installerTgid) :
    selfTestPassed kSelfTestIoctlCount S.shared (S.run installerTgid ls).shared = true := by
  have hstart : S.Ledger installerTgid fun k => (S.shared.counter k).toNat := by
    refine ⟨fun c hc h => ?_, fun k _ => ?_⟩
    · rw [hnew c hc] at h
      cases h
    · rw [Pool.total_eq_zero fun c hc => by simp [HookCall.share, hnew c hc], Nat.add_zero]
  have hend : (S.run installerTgid ls).Ledger installerTgid fun k => (S.shared.counter k).toNat :=
    (hshows.and hwrap).induct (P := fun _ S => Hook.Ledger installerTgid _ S) hstart
      fun _ _ _ h hok => h.step hok.1 hok.2
  simp only [selfTestPassed, decide_true, Bool.true_and, List.all_eq_true, decide_eq_true_eq]
  intro k hk
  have hraised := hend.raised k hk
  have hle : (S.run installerTgid ls).probesReturned installerTgid ≤ _ :=
    Hook.probesReturned_le hk
  have hlt := ((S.run installerTgid ls).shared.counter k).toNat_lt
  have hcount : (UInt64.ofNat kSelfTestIoctlCount).toNat = 8 := rfl
  have height : kSelfTestIoctlCount = 8 := rfl
  rw [UInt64.le_iff_toNat_le, hcount, UInt64.toNat_sub]
  omega

/-- The eight calls, one after the other, with nobody else in the handler. -/
def eightProbes : List HookLabel :=
  (List.range 8).flatMap fun i =>
    .start ⟨⟨0x80, 7, 7⟩, ⟨3, binderWriteRead.toUInt64, 0x1070⟩, ⟨⟨0, 0, 0⟩, 0⟩⟩ ::
      List.replicate 9 (.step i ⟨.ofBytes 0x1070 (List.replicate 48 0), true, 0,
        .ofBytes 0x1070 (List.replicate 48 0), .zero, 0⟩)

theorem self_test_passes_alone :
    let S := Hook.init .zero
    selfTestPassed kSelfTestIoctlCount S.shared (S.run 7 eightProbes).shared = true :=
  self_test_passes 7 (fun c hc => absurd hc List.not_mem_nil) (by decide +kernel)
    (by decide +kernel) (by decide +kernel)

end Drmid
