import Drmid.Control.Readiness
import Drmid.Lib.Streak

/-!
# The readiness window

`WaitAt` is the invariant of the loop of `wait_for_adaptive_startup_readiness`: its two counters are
the number of samples taken and the streak of quiet ones, capped. From it `adaptive_readiness`, what
the result says of the samples, and `readiness_satisfiable_iff`, which policies a quiet system can
satisfy.
-/

namespace Drmid

open Lib

/-- `ceil(stable_ms / poll_ms)`. -/
def StartupReadinessPolicy.windowPairs (policy : StartupReadinessPolicy) : Nat :=
  policy.stableMs.toNat ⌈/⌉ policy.pollMs.toNat

/-- `ceil(deadline_ms / poll_ms)`. -/
def StartupReadinessPolicy.deadlinePolls (policy : StartupReadinessPolicy) : Nat :=
  policy.deadlineMs.toNat ⌈/⌉ policy.pollMs.toNat

/-! ## Policies -/

theorem boundedEnvironmentU32_bounds (getenv : String → Option Bytes) (name : String)
    {fallback minimum maximum : UInt32} (hmin : minimum ≤ fallback) (hmax : fallback ≤ maximum) :
    minimum ≤ boundedEnvironmentU32 getenv name fallback minimum maximum ∧
      boundedEnvironmentU32 getenv name fallback minimum maximum ≤ maximum := by
  unfold boundedEnvironmentU32
  split
  · exact ⟨hmin, hmax⟩
  · exact ⟨hmin, hmax⟩
  · split
    · split
      · exact ⟨hmin, hmax⟩
      · next value _ hvalue =>
        rw [not_or, UInt64.not_lt, UInt64.not_lt, UInt64.le_iff_toNat_le, UInt64.le_iff_toNat_le,
          UInt32.toNat_toUInt64, UInt32.toNat_toUInt64] at hvalue
        have hlt := maximum.toNat_lt
        rw [UInt32.le_iff_toNat_le, UInt32.le_iff_toNat_le, UInt64.toNat_toUInt32,
          Nat.mod_eq_of_lt (by omega)]
        exact hvalue
    · exact ⟨hmin, hmax⟩

/-- What the loop needs of a policy: it makes progress, and its counter does not wrap. -/
structure PolicyOk (policy : StartupReadinessPolicy) : Prop where
  poll_pos : 0 < policy.pollMs.toNat
  stable_pos : 0 < policy.stableMs.toNat
  stable_add_lt : policy.stableMs.toNat + policy.pollMs.toNat < 0x100000000

theorem policyOk_fromEnvironment (getenv : String → Option Bytes) :
    PolicyOk (startupReadinessPolicyFromEnvironment getenv) := by
  obtain ⟨hpoll, hpoll'⟩ := boundedEnvironmentU32_bounds getenv "DRMID_READY_POLL_MS"
    (show (100 : UInt32) ≤ 250 by decide) (show (250 : UInt32) ≤ 1000 by decide)
  obtain ⟨hstable, hstable'⟩ := boundedEnvironmentU32_bounds getenv "DRMID_READY_STABLE_MS"
    (show (1000 : UInt32) ≤ 3000 by decide) (show (3000 : UInt32) ≤ 15000 by decide)
  rw [UInt32.le_iff_toNat_le] at hpoll hpoll' hstable hstable'
  have h100 : (100 : UInt32).toNat = 100 := rfl
  have h1000 : (1000 : UInt32).toNat = 1000 := rfl
  have h15000 : (15000 : UInt32).toNat = 15000 := rfl
  unfold startupReadinessPolicyFromEnvironment
  dsimp only
  split
  · exact ⟨by dsimp only; omega, by dsimp only; omega, by dsimp only; omega⟩
  · exact ⟨by dsimp only; omega, by dsimp only; omega, by dsimp only; omega⟩

theorem PolicyOk.windowPairs_pos {policy : StartupReadinessPolicy} (hp : PolicyOk policy) :
    0 < policy.windowPairs := by
  refine Nat.lt_of_not_le fun h => Nat.not_le_of_gt hp.stable_pos ?_
  exact (ceilDiv_le_iff_le_mul hp.poll_pos).1 h

/-! ## The loop -/

/-- The sample before sample `n`. -/
def previousSample (samples : Nat → StartupReadinessObservation) :
    Nat → Option StartupReadinessObservation
  | 0 => none
  | n + 1 => some (samples n)

/-- Sample `n` is quiet after the one before it. -/
def quietAt (policy : StartupReadinessPolicy) (ticks : UInt64)
    (samples : Nat → StartupReadinessObservation) (n : Nat) : Bool :=
  quietAfter policy ticks (previousSample samples n) (samples n)

/-- **The invariant of the loop**, at the start of the pass for sample `taken`. -/
structure WaitAt (policy : StartupReadinessPolicy) (ticks : UInt64)
    (samples : Nat → StartupReadinessObservation) (taken : Nat) (w : ReadinessWait) : Prop where
  elapsed : w.result.elapsedMs.toNat = min policy.deadlineMs.toNat (policy.pollMs.toNat * taken)
  stable : w.result.stableMs.toNat =
    min policy.stableMs.toNat (policy.pollMs.toNat * streak (quietAt policy ticks samples) taken)
  previous : w.previous = previousSample samples taken
  fallback : w.result.deadlineFallback = false
  unsatisfied : ∀ m ≤ taken, streak (quietAt policy ticks samples) m < policy.windowPairs
  within : taken ≤ policy.deadlinePolls

/-- What the loop ends with after `n` samples. -/
structure WaitEnd (policy : StartupReadinessPolicy) (ticks : UInt64)
    (samples : Nat → StartupReadinessObservation) (n : Nat) (r : StartupReadinessResult) :
    Prop where
  elapsed : r.elapsedMs ≤ policy.deadlineMs
  within : n ≤ policy.deadlinePolls
  satisfied : r.deadlineFallback = false →
    policy.windowPairs ≤ streak (quietAt policy ticks samples) n
  unsatisfied : r.deadlineFallback = true →
    n = policy.deadlinePolls ∧
      ∀ m ≤ n, streak (quietAt policy ticks samples) m < policy.windowPairs

theorem toNat_min (a b : UInt32) : (min a b).toNat = min a.toNat b.toNat := by
  show (if a ≤ b then a else b).toNat = _
  split
  · next h => exact (Nat.min_eq_left h).symm
  · next h => exact (Nat.min_eq_right (Nat.le_of_not_le h)).symm

section
variable {policy : StartupReadinessPolicy} {ticks : UInt64}
  {samples : Nat → StartupReadinessObservation} {taken : Nat} {w : ReadinessWait}

theorem WaitAt.start (hp : PolicyOk policy) : WaitAt policy ticks samples 0 {} where
  elapsed := (Nat.min_zero _).symm
  stable := (Nat.min_zero _).symm
  previous := rfl
  fallback := rfl
  unsatisfied m hm := by
    obtain rfl := Nat.le_zero.1 hm
    exact hp.windowPairs_pos
  within := Nat.zero_le _

/-- The condition of the loop. -/
theorem WaitAt.elapsed_lt_iff (h : WaitAt policy ticks samples taken w) (hp : PolicyOk policy) :
    w.result.elapsedMs < policy.deadlineMs ↔ taken < policy.deadlinePolls := by
  rw [UInt32.lt_iff_toNat_lt, h.elapsed, ← Nat.not_le, ← Nat.not_le,
    cap_le_iff hp.poll_pos]
  rfl

theorem WaitAt.stable_takeSample (h : WaitAt policy ticks samples taken w) (hp : PolicyOk policy) :
    (takeSample policy ticks (samples taken) w).stableMs.toNat =
      min policy.stableMs.toNat
        (policy.pollMs.toNat * streak (quietAt policy ticks samples) (taken + 1)) := by
  have hquiet : quietAfter policy ticks w.previous (samples taken) =
      quietAt policy ticks samples taken := by rw [h.previous, quietAt]
  unfold takeSample
  dsimp only
  rw [hquiet]
  cases hq : quietAt policy ticks samples taken with
  | false =>
    rw [streak_succ_of_false hq, Nat.mul_zero, Nat.min_zero]
    rfl
  | true =>
    have hsum : (w.result.stableMs + policy.pollMs).toNat =
        w.result.stableMs.toNat + policy.pollMs.toNat := by
      have hadd := hp.stable_add_lt
      have hstable := h.stable
      rw [UInt32.toNat_add, Nat.mod_eq_of_lt (by omega)]
    rw [if_pos rfl, toNat_min, hsum, h.stable, capped_succ, streak_succ_of_true hq]

/-- The sample that is taken ends the loop when its streak is long enough. -/
theorem WaitAt.satisfied_iff (h : WaitAt policy ticks samples taken w) (hp : PolicyOk policy) :
    policy.stableMs ≤ (takeSample policy ticks (samples taken) w).stableMs ↔
      policy.windowPairs ≤ streak (quietAt policy ticks samples) (taken + 1) := by
  rw [UInt32.le_iff_toNat_le, h.stable_takeSample hp, cap_le_iff hp.poll_pos]
  rfl

theorem WaitAt.elapsePoll (h : WaitAt policy ticks samples taken w)
    (hlt : w.result.elapsedMs < policy.deadlineMs) :
    (elapsePoll policy w.result.elapsedMs).toNat =
      min policy.deadlineMs.toNat (policy.pollMs.toNat * (taken + 1)) := by
  have helapsed := h.elapsed
  have hdeadline := policy.deadlineMs.toNat_lt
  rw [UInt32.lt_iff_toNat_lt] at hlt
  have hsub : (policy.deadlineMs - w.result.elapsedMs).toNat =
      policy.deadlineMs.toNat - w.result.elapsedMs.toNat :=
    UInt32.toNat_sub_of_le _ _ (UInt32.le_iff_toNat_le.2 (Nat.le_of_lt hlt))
  rw [Nat.mul_succ]
  unfold Drmid.elapsePoll
  split
  · next hlast =>
    rw [UInt32.lt_iff_toNat_lt, hsub] at hlast
    omega
  · next hlast =>
    rw [UInt32.lt_iff_toNat_lt, hsub] at hlast
    rw [UInt32.toNat_add, Nat.mod_eq_of_lt (by omega)]
    omega

/-- A pass that does not end the loop keeps the invariant. -/
theorem WaitAt.next (h : WaitAt policy ticks samples taken w) (hp : PolicyOk policy)
    (hlt : w.result.elapsedMs < policy.deadlineMs)
    (hunsatisfied : ¬policy.stableMs ≤ (takeSample policy ticks (samples taken) w).stableMs) :
    WaitAt policy ticks samples (taken + 1)
      { result := { takeSample policy ticks (samples taken) w with
          elapsedMs :=
            Drmid.elapsePoll policy (takeSample policy ticks (samples taken) w).elapsedMs }
        previous := some (takeSample policy ticks (samples taken) w).observation } where
  elapsed := h.elapsePoll hlt
  stable := h.stable_takeSample hp
  previous := rfl
  fallback := h.fallback
  unsatisfied m hm := by
    rcases Nat.lt_or_eq_of_le hm with hm | rfl
    · exact h.unsatisfied m (Nat.le_of_lt_succ hm)
    · rw [h.satisfied_iff hp, Nat.not_le] at hunsatisfied
      exact hunsatisfied
  within := (h.elapsed_lt_iff hp).1 hlt

/-- **The loop returns** once it has had enough passes. -/
theorem waitLoop_returns (hp : PolicyOk policy) (fuel : Nat)
    (h : WaitAt policy ticks samples taken w) (hfuel : policy.deadlinePolls < taken + fuel) :
    ∃ n r, waitLoop policy ticks samples fuel taken w = some (n, r) ∧
      WaitEnd policy ticks samples n r := by
  induction fuel generalizing taken w with
  | zero => exact absurd h.within (by omega)
  | succ fuel ih =>
    unfold waitLoop
    by_cases hlt : w.result.elapsedMs < policy.deadlineMs
    · rw [if_pos hlt]
      dsimp only
      by_cases hdone : policy.stableMs ≤ (takeSample policy ticks (samples taken) w).stableMs
      · rw [if_pos hdone]
        refine ⟨_, _, rfl, UInt32.le_of_lt hlt, (h.elapsed_lt_iff hp).1 hlt,
          fun _ => (h.satisfied_iff hp).1 hdone, fun hfallback => ?_⟩
        have hnone : (takeSample policy ticks (samples taken) w).deadlineFallback = false :=
          h.fallback
        rw [hnone] at hfallback
        cases hfallback
      · rw [if_neg hdone]
        exact ih (h.next hp hlt hdone) (by omega)
    · rw [if_neg hlt]
      have hlast : taken = policy.deadlinePolls := by
        rw [h.elapsed_lt_iff hp] at hlt
        exact Nat.le_antisymm h.within (Nat.le_of_not_lt hlt)
      refine ⟨_, _, rfl, ?_, h.within, fun hfallback => (by cases hfallback),
        fun _ => ⟨hlast, h.unsatisfied⟩⟩
      rw [UInt32.le_iff_toNat_le]
      show w.result.elapsedMs.toNat ≤ _
      rw [h.elapsed]
      exact Nat.min_le_left _ _

/-- More fuel changes nothing. -/
theorem waitLoop_mono {fuel fuel' : Nat} {x : Nat × StartupReadinessResult} (hle : fuel ≤ fuel')
    (h : waitLoop policy ticks samples fuel taken w = some x) :
    waitLoop policy ticks samples fuel' taken w = some x := by
  induction fuel generalizing fuel' taken w with
  | zero => cases h
  | succ fuel ih =>
    obtain ⟨fuel', rfl⟩ : ∃ k, fuel' = k + 1 := ⟨fuel' - 1, by omega⟩
    unfold waitLoop at h ⊢
    split at h
    · next hlt =>
      rw [if_pos hlt]
      dsimp only at h ⊢
      split at h
      · next hdone => rwa [if_pos hdone]
      · next hdone =>
        rw [if_neg hdone]
        exact ih (Nat.le_of_succ_le_succ hle) h
    · next hlt => rwa [if_neg hlt]

theorem wait_returns (hp : PolicyOk policy) (configured : Int64)
    (samples : Nat → StartupReadinessObservation) :
    ∃ n r, (∀ fuel, policy.deadlinePolls < fuel →
        waitForAdaptiveStartupReadiness policy configured samples fuel = some (n, r)) ∧
      WaitEnd policy (clockTicksPerSecond configured) samples n r := by
  have hstart : WaitAt policy (clockTicksPerSecond configured) samples 0 {} := .start hp
  obtain ⟨n, r, hreturns, hend⟩ :=
    waitLoop_returns hp (policy.deadlinePolls + 1) hstart (by omega)
  exact ⟨n, r, fun fuel hfuel => waitLoop_mono hfuel hreturns, hend⟩

theorem waitEnd_of_returns (hp : PolicyOk policy) {configured : Int64} {fuel n : Nat}
    {r : StartupReadinessResult}
    (h : waitForAdaptiveStartupReadiness policy configured samples fuel = some (n, r)) :
    WaitEnd policy (clockTicksPerSecond configured) samples n r := by
  obtain ⟨n', r', hreturns, hend⟩ := wait_returns hp configured samples
  have hlong := hreturns (max fuel (policy.deadlinePolls + 1)) (by omega)
  have hsame := waitLoop_mono (Nat.le_max_left fuel (policy.deadlinePolls + 1)) h
  obtain ⟨rfl, rfl⟩ := Prod.mk.inj (Option.some.inj (hsame.symm.trans hlong))
  exact hend

end

/-! ## Quiet pairs -/

def SameProcess (previous current : StartupProcessObservation) : Prop :=
  current.pid = previous.pid ∧ current.startTimeTicks = previous.startTimeTicks

/-- The CPU time between two samples, within the bound as numbers have it. -/
def CpuWithin (policy : StartupReadinessPolicy) (ticks : UInt64)
    (previous current : StartupProcessObservation) : Prop :=
  previous.cpuTicks ≤ current.cpuTicks ∧
    current.cpuTicks.toNat - previous.cpuTicks.toNat ≤
      policy.maxCpuPermille.toNat * policy.pollMs.toNat * ticks.toNat / 1000000 + 1

/-- What a quiet pair of samples has. -/
structure QuietPair (policy : StartupReadinessPolicy) (ticks : UInt64)
    (previous current : StartupReadinessObservation) : Prop where
  ready : startupBaseServicesReady current = true
  systemServer : SameProcess previous.systemServer current.systemServer
  surfaceFlinger : SameProcess previous.surfaceFlinger current.surfaceFlinger
  processCount : current.processCount = previous.processCount
  systemCpu : CpuWithin policy ticks previous.systemServer current.systemServer
  surfaceCpu : CpuWithin policy ticks previous.surfaceFlinger current.surfaceFlinger

/-- A product that wraps only makes the bound smaller. -/
theorem toNat_allowedTicks_le (cpu poll : UInt32) (ticks : UInt64) :
    (cpu.toUInt64 * poll.toUInt64 * ticks / 1000000 + 1).toNat ≤
      cpu.toNat * poll.toNat * ticks.toNat / 1000000 + 1 := by
  have hmul (a b : UInt64) : (a * b).toNat ≤ a.toNat * b.toNat := by
    rw [UInt64.toNat_mul]
    exact Nat.mod_le _ _
  have hproduct : (cpu.toUInt64 * poll.toUInt64 * ticks).toNat ≤
      cpu.toNat * poll.toNat * ticks.toNat :=
    Nat.le_trans (hmul _ _) (Nat.mul_le_mul_right _ (hmul _ _))
  have hmillion : (1000000 : UInt64).toNat = 1000000 := rfl
  rw [UInt64.toNat_add, UInt64.toNat_div, hmillion]
  exact Nat.le_trans (Nat.mod_le _ _)
    (Nat.add_le_add_right (Nat.div_le_div_right hproduct) 1)

theorem cpuWithin_of_le {policy : StartupReadinessPolicy} {ticks : UInt64}
    {previous current : StartupProcessObservation} (hle : previous.cpuTicks ≤ current.cpuTicks)
    (h : current.cpuTicks - previous.cpuTicks ≤
      policy.maxCpuPermille.toUInt64 * policy.pollMs.toUInt64 * ticks / 1000000 + 1) :
    CpuWithin policy ticks previous current := by
  refine ⟨hle, ?_⟩
  rw [← UInt64.toNat_sub_of_le _ _ hle]
  exact Nat.le_trans (UInt64.le_iff_toNat_le.1 h) (toNat_allowedTicks_le _ _ _)

theorem quietPair_of_quiet {policy : StartupReadinessPolicy} {ticks : UInt64}
    {previous current : StartupReadinessObservation}
    (h : startupObservationsQuiet previous current policy ticks = true) :
    QuietPair policy ticks previous current := by
  unfold startupObservationsQuiet at h
  split at h
  · cases h
  · next hguard =>
    simp only [Bool.or_eq_true, not_or, bne_iff_ne, ne_eq, not_not, decide_eq_true_eq,
      Bool.not_eq_true', Bool.not_eq_false, UInt64.not_lt] at hguard
    obtain ⟨⟨⟨⟨⟨⟨⟨⟨⟨⟨⟨hready, -⟩, -⟩, hpid⟩, hstart⟩, hpid'⟩, hstart'⟩, hcount⟩, hcpu⟩, hcpu'⟩,
      -⟩, -⟩ := hguard
    simp only [Bool.and_eq_true, decide_eq_true_eq] at h
    exact ⟨hready, ⟨hpid.symm, hstart.symm⟩, ⟨hpid'.symm, hstart'.symm⟩, hcount.symm,
      cpuWithin_of_le hcpu h.1, cpuWithin_of_le hcpu' h.2⟩

/-! ## Windows -/

/-- The window of the samples from `first` to `last`, quiet pair after quiet pair. -/
structure QuietWindow (policy : StartupReadinessPolicy) (ticks : UInt64)
    (samples : Nat → StartupReadinessObservation) (first last : Nat) : Prop where
  quiet : ∀ i, first ≤ i → i < last →
    startupObservationsQuiet (samples i) (samples (i + 1)) policy ticks = true
  ready : ∀ i, first < i → i ≤ last → startupBaseServicesReady (samples i) = true
  systemServer : ∀ i, first ≤ i → i ≤ last →
    SameProcess (samples first).systemServer (samples i).systemServer
  surfaceFlinger : ∀ i, first ≤ i → i ≤ last →
    SameProcess (samples first).surfaceFlinger (samples i).surfaceFlinger
  processCount : ∀ i, first ≤ i → i ≤ last →
    (samples i).processCount = (samples first).processCount
  cpu : ∀ i, first ≤ i → i < last →
    CpuWithin policy ticks (samples i).systemServer (samples (i + 1)).systemServer ∧
      CpuWithin policy ticks (samples i).surfaceFlinger (samples (i + 1)).surfaceFlinger

/-- What no step of a stretch changes is the same all over it. -/
theorem eq_first_of_eq_succ {α : Type} {f : Nat → α} {first last : Nat}
    (h : ∀ i, first ≤ i → i < last → f (i + 1) = f i) {i : Nat} (hfirst : first ≤ i)
    (hlast : i ≤ last) : f i = f first := by
  induction i, hfirst using Nat.le_induction with
  | base => rfl
  | succ i hi ih => rw [h i hi hlast, ih (Nat.le_of_succ_le hlast)]

section
variable {policy : StartupReadinessPolicy} {ticks : UInt64}
  {samples : Nat → StartupReadinessObservation} {first last : Nat}

theorem quietWindow_of_quiet (h : ∀ i, first ≤ i → i < last →
      startupObservationsQuiet (samples i) (samples (i + 1)) policy ticks = true) :
    QuietWindow policy ticks samples first last := by
  have hpair (i : Nat) (hi : first ≤ i) (hlt : i < last) := quietPair_of_quiet (h i hi hlt)
  have hsystem (i : Nat) (hi : first ≤ i) (hle : i ≤ last) :
      SameProcess (samples first).systemServer (samples i).systemServer :=
    ⟨eq_first_of_eq_succ (f := fun i => (samples i).systemServer.pid)
        (fun i hi hlt => (hpair i hi hlt).systemServer.1) hi hle,
      eq_first_of_eq_succ (f := fun i => (samples i).systemServer.startTimeTicks)
        (fun i hi hlt => (hpair i hi hlt).systemServer.2) hi hle⟩
  have hsurface (i : Nat) (hi : first ≤ i) (hle : i ≤ last) :
      SameProcess (samples first).surfaceFlinger (samples i).surfaceFlinger :=
    ⟨eq_first_of_eq_succ (f := fun i => (samples i).surfaceFlinger.pid)
        (fun i hi hlt => (hpair i hi hlt).surfaceFlinger.1) hi hle,
      eq_first_of_eq_succ (f := fun i => (samples i).surfaceFlinger.startTimeTicks)
        (fun i hi hlt => (hpair i hi hlt).surfaceFlinger.2) hi hle⟩
  refine ⟨h, fun i hi hle => ?_, hsystem, hsurface, fun i hi hle => ?_, fun i hi hlt => ?_⟩
  · obtain ⟨i, rfl⟩ : ∃ j, i = j + 1 := ⟨i - 1, by omega⟩
    exact (hpair i (Nat.le_of_lt_succ hi) hle).ready
  · exact eq_first_of_eq_succ (f := fun i => (samples i).processCount)
      (fun i hi hlt => (hpair i hi hlt).processCount) hi hle
  · exact ⟨(hpair i hi hlt).systemCpu, (hpair i hi hlt).surfaceCpu⟩

/-- A streak is a window: the first sample has no pair. -/
theorem le_streak_quietAt_iff {k n : Nat} (hk : 0 < k) :
    k ≤ streak (quietAt policy ticks samples) n ↔
      ∃ first, n = first + k + 1 ∧ ∀ i, first ≤ i → i < first + k →
        startupObservationsQuiet (samples i) (samples (i + 1)) policy ticks = true := by
  rw [le_streak_iff]
  constructor
  · rintro ⟨hle, hquiet⟩
    have hpos : n ≠ k := by
      rintro rfl
      have hzero := hquiet 0 (by omega) hk
      cases hzero
    refine ⟨n - k - 1, by omega, fun i hi hlt => hquiet (i + 1) (by omega) (by omega)⟩
  · rintro ⟨first, rfl, hquiet⟩
    refine ⟨by omega, fun i hi hlt => ?_⟩
    obtain ⟨i, rfl⟩ : ∃ j, i = j + 1 := ⟨i - 1, by omega⟩
    exact hquiet i (by omega) (by omega)

/-- What a result after `n` samples says of them. -/
structure ReadinessOutcome (policy : StartupReadinessPolicy) (ticks : UInt64)
    (samples : Nat → StartupReadinessObservation) (n : Nat) (r : StartupReadinessResult) :
    Prop where
  elapsed : r.elapsedMs ≤ policy.deadlineMs
  within : n ≤ policy.deadlinePolls
  satisfied : r.deadlineFallback = false →
    ∃ first, n = first + policy.windowPairs + 1 ∧
      QuietWindow policy ticks samples first (first + policy.windowPairs)
  exhausted : r.deadlineFallback = true → n = policy.deadlinePolls
  fallback : r.deadlineFallback = true → ∀ first, first + policy.windowPairs < n →
    ¬∀ i, first ≤ i → i < first + policy.windowPairs →
      startupObservationsQuiet (samples i) (samples (i + 1)) policy ticks = true

theorem WaitEnd.outcome {n : Nat} {r : StartupReadinessResult} (hp : PolicyOk policy)
    (h : WaitEnd policy ticks samples n r) : ReadinessOutcome policy ticks samples n r where
  elapsed := h.elapsed
  within := h.within
  satisfied hfallback := by
    obtain ⟨first, rfl, hquiet⟩ :=
      (le_streak_quietAt_iff hp.windowPairs_pos).1 (h.satisfied hfallback)
    exact ⟨first, rfl, quietWindow_of_quiet hquiet⟩
  exhausted hfallback := (h.unsatisfied hfallback).1
  fallback hfallback first hlt hquiet := by
    refine Nat.not_le_of_gt ((h.unsatisfied hfallback).2 (first + policy.windowPairs + 1) hlt) ?_
    exact (le_streak_quietAt_iff hp.windowPairs_pos).2 ⟨first, rfl, hquiet⟩

/-- Where all its pairs are quiet, a run ends without a fallback exactly if the window fits. -/
theorem WaitEnd.fallback_iff {n : Nat} {r : StartupReadinessResult} (hp : PolicyOk policy)
    (h : WaitEnd policy ticks samples n r)
    (hquiet : ∀ i, i + 1 < n →
      startupObservationsQuiet (samples i) (samples (i + 1)) policy ticks = true) :
    r.deadlineFallback = false ↔ policy.windowPairs < policy.deadlinePolls := by
  constructor
  · intro hfallback
    obtain ⟨first, hn, -⟩ := (le_streak_quietAt_iff hp.windowPairs_pos).1 (h.satisfied hfallback)
    have hwithin := h.within
    omega
  · intro hfits
    rw [← Bool.not_eq_true]
    intro hfallback
    obtain ⟨hn, hshort⟩ := h.unsatisfied hfallback
    -- all samples were taken, and they are a window
    refine Nat.not_le_of_gt (hshort n (Nat.le_refl n)) ?_
    refine (le_streak_quietAt_iff hp.windowPairs_pos).2
      ⟨n - policy.windowPairs - 1, by omega, fun i _ hlt => hquiet i (by omega)⟩

end

/-- **Main result: adaptive readiness means what it says.** For every policy that the environment
can set, the wait returns in time; without a fallback the last samples are a window as long as the
policy asks for, and with one all polls before the deadline were taken and there was no such
window. -/
theorem adaptive_readiness (getenv : String → Option Bytes) (configuredTicks : Int64)
    (samples : Nat → StartupReadinessObservation) :
    ∃ n r,
      (∀ fuel, (startupReadinessPolicyFromEnvironment getenv).deadlinePolls < fuel →
        waitForAdaptiveStartupReadiness (startupReadinessPolicyFromEnvironment getenv)
          configuredTicks samples fuel = some (n, r)) ∧
      ReadinessOutcome (startupReadinessPolicyFromEnvironment getenv)
        (clockTicksPerSecond configuredTicks) samples n r := by
  have hp := policyOk_fromEnvironment getenv
  obtain ⟨n, r, hreturns, hend⟩ := wait_returns hp configuredTicks samples
  exact ⟨n, r, hreturns, hend.outcome hp⟩

/-! ## Policies that can be satisfied -/

/-- A system that is up and at rest. -/
def restingObservation : StartupReadinessObservation where
  bootAnimationStopped := true
  deviceBootComplete := true
  userStorageReady := true
  serviceManagerRunning := true
  mediaDrmRunning := true
  drmServiceRunning := true
  systemServer := ⟨4100, 83, 1000, 500⟩
  surfaceFlinger := ⟨2200, 83, 500, 200⟩
  processCount := 900

theorem quiet_resting {policy : StartupReadinessPolicy} (hp : PolicyOk policy) :
    startupObservationsQuiet restingObservation restingObservation policy
      (clockTicksPerSecond 100) = true := by
  have hpoll : (policy.pollMs == 0) = false :=
    beq_false_of_ne fun h => Nat.ne_of_gt hp.poll_pos (congrArg UInt32.toNat h)
  have hzero (x : UInt64) : decide (500 - 500 ≤ x) = true ∧ decide (200 - 200 ≤ x) = true :=
    ⟨decide_eq_true (UInt64.le_iff_toNat_le.2 (Nat.zero_le _)),
      decide_eq_true (UInt64.le_iff_toNat_le.2 (Nat.zero_le _))⟩
  unfold startupObservationsQuiet
  rw [hpoll, Bool.or_false, if_neg (by decide)]
  exact Bool.and_eq_true_iff.2 ⟨(hzero _).1, (hzero _).2⟩

/-- The run on a system at rest. -/
theorem resting_fallback {policy : StartupReadinessPolicy} (hp : PolicyOk policy)
    {fuel n : Nat} {r : StartupReadinessResult}
    (h : waitForAdaptiveStartupReadiness policy 100 (fun _ => restingObservation) fuel =
      some (n, r)) :
    r.deadlineFallback = false ↔ policy.windowPairs < policy.deadlinePolls :=
  (waitEnd_of_returns hp h).fallback_iff hp fun _ _ => quiet_resting hp

/-- **Main result: which policies can be satisfied.** A run of quiet samples ends without a fallback
exactly if the window takes fewer polls than there are before the deadline. -/
theorem readiness_satisfiable_iff (getenv : String → Option Bytes) :
    (∀ (configuredTicks : Int64) (samples : Nat → StartupReadinessObservation), ∃ n r,
      (∃ fuel, waitForAdaptiveStartupReadiness (startupReadinessPolicyFromEnvironment getenv)
        configuredTicks samples fuel = some (n, r)) ∧
      ((∀ i, i + 1 < n → startupObservationsQuiet (samples i) (samples (i + 1))
          (startupReadinessPolicyFromEnvironment getenv) (clockTicksPerSecond configuredTicks) =
            true) →
        r.deadlineFallback = false)) ↔
      (startupReadinessPolicyFromEnvironment getenv).windowPairs <
        (startupReadinessPolicyFromEnvironment getenv).deadlinePolls := by
  have hp := policyOk_fromEnvironment getenv
  constructor
  · intro h
    obtain ⟨n, r, ⟨fuel, hreturns⟩, hquiet⟩ := h 100 fun _ => restingObservation
    exact (resting_fallback hp hreturns).1 (hquiet fun _ _ => quiet_resting hp)
  · intro hfits configuredTicks samples
    obtain ⟨n, r, hreturns, hend⟩ := wait_returns hp configuredTicks samples
    exact ⟨n, r, ⟨_, hreturns _ (Nat.lt_succ_self _)⟩, fun hquiet =>
      (hend.fallback_iff hp hquiet).2 hfits⟩

/-- A window of 15 s and a deadline of 5 s, which is raised to the window. -/
def tightEnvironment (name : String) : Option Bytes :=
  if name = "DRMID_READY_STABLE_MS" then some [49, 53, 48, 48, 48]
  else if name = "DRMID_READY_DEADLINE_MS" then some [53, 48, 48, 48]
  else none

theorem tight_readiness_falls_back :
    ¬∀ (getenv : String → Option Bytes) (configuredTicks : Int64)
      (samples : Nat → StartupReadinessObservation), ∃ n r,
      (∃ fuel, waitForAdaptiveStartupReadiness (startupReadinessPolicyFromEnvironment getenv)
        configuredTicks samples fuel = some (n, r)) ∧
      ((∀ i, i + 1 < n → startupObservationsQuiet (samples i) (samples (i + 1))
          (startupReadinessPolicyFromEnvironment getenv) (clockTicksPerSecond configuredTicks) =
            true) →
        r.deadlineFallback = false) := by
  intro h
  have hp := policyOk_fromEnvironment tightEnvironment
  obtain ⟨n, r, ⟨fuel, hreturns⟩, hquiet⟩ := h tightEnvironment 100 fun _ => restingObservation
  have hfits := (resting_fallback hp hreturns).1 (hquiet fun _ _ => quiet_resting hp)
  have hpolicy : startupReadinessPolicyFromEnvironment tightEnvironment =
      ⟨250, 15000, 15000, 500⟩ := by decide +kernel
  rw [hpolicy] at hfits
  exact Nat.lt_irrefl _ hfits

end Drmid
