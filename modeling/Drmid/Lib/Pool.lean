import Mathlib.Algebra.Ring.Nat
import Drmid.Lib.Run

/-!
# Processes over a shared state

A pool is a shared state and the processes that work on it, in the order they started. A label
starts a process, lets one process take a step, or lets the environment change the shared state; a
run may interleave them as it likes.

Four rules carry over from a step of one process to a run of the pool. `Holds` is an invariant of
the shared state together with one that each process keeps. `related_step` is the rule for what each
process knows of the shared state. `total_step` is the rule of the ledger: a relation between the
shared state and the sum of what the processes owe. `run_countdown` bounds how often a process can
move.
-/

namespace Lib

/-- A shared state and its processes. -/
structure Pool (γ π : Type*) where
  shared : γ
  procs : List π

/-- How processes start and move, and what the environment may do. -/
structure PoolMachine (γ π α ε δ : Type*) where
  spawn : α → π
  act : γ → π → ε → γ × π
  env : γ → δ → γ

inductive PoolLabel (α ε δ : Type*)
  | start (a : α)
  | step (i : Nat) (e : ε)
  | env (d : δ)

namespace PoolLabel

variable {α ε δ : Type*}

/-- The label moves process `i`. -/
def moves (i : Nat) : PoolLabel α ε δ → Bool
  | .step j _ => i == j
  | .start _ | .env _ => false

/-- The process that the label starts. -/
def started : PoolLabel α ε δ → Option α
  | .start a => some a
  | .step _ _ | .env _ => none

end PoolLabel

namespace Pool

variable {γ π α ε δ : Type*}

/-- The next pool; a step of a process that does not exist leaves it. -/
def step (M : PoolMachine γ π α ε δ) (P : Pool γ π) : PoolLabel α ε δ → Pool γ π
  | .start a => { P with procs := P.procs ++ [M.spawn a] }
  | .step i e =>
    match P.procs[i]? with
    | none => P
    | some p => ⟨(M.act P.shared p e).1, P.procs.set i (M.act P.shared p e).2⟩
  | .env d => { P with shared := M.env P.shared d }

/-- The pool after the labels `ls`. -/
def run (M : PoolMachine γ π α ε δ) (P : Pool γ π) (ls : List (PoolLabel α ε δ)) : Pool γ π :=
  Lib.run (step M) P ls

/-- What the processes owe together. -/
def total (f : π → Nat) (P : Pool γ π) : Nat := (P.procs.map f).sum

/-- An invariant of the shared state and one of every process. -/
structure Holds (G : γ → Prop) (Q : π → Prop) (P : Pool γ π) : Prop where
  shared : G P.shared
  procs : ∀ p ∈ P.procs, Q p

section
variable {M : PoolMachine γ π α ε δ} {P : Pool γ π} {i : Nat} {p : π} {e : ε}

theorem step_step (h : P.procs[i]? = some p) : P.step M (.step i e) =
    ⟨(M.act P.shared p e).1, P.procs.set i (M.act P.shared p e).2⟩ := by
  simp only [step, h]

theorem step_absent (h : P.procs[i]? = none) : P.step M (.step i e) = P := by
  simp only [step, h]

/-- **The invariant rule.** A step has to keep both parts, given both. -/
theorem Holds.step {G : γ → Prop} {Q : π → Prop} (h : P.Holds G Q) (l : PoolLabel α ε δ)
    (hspawn : ∀ a, Q (M.spawn a))
    (hact : ∀ i e p, l = .step i e → P.procs[i]? = some p → Q p →
      G (M.act P.shared p e).1 ∧ Q (M.act P.shared p e).2)
    (henv : ∀ d, G (M.env P.shared d)) : (P.step M l).Holds G Q := by
  cases l with
  | start a =>
    refine ⟨h.shared, fun p hp => ?_⟩
    rcases List.mem_append.1 hp with hp | hp
    · exact h.procs p hp
    · rw [List.mem_singleton.1 hp]
      exact hspawn a
  | step i e =>
    cases hi : P.procs[i]? with
    | none =>
      rw [step_absent hi]
      exact h
    | some p =>
      obtain ⟨hG, hQ⟩ := hact i e p rfl hi (h.procs p (List.mem_of_getElem? hi))
      rw [step_step hi]
      refine ⟨hG, fun q hq => ?_⟩
      rcases List.mem_or_eq_of_mem_set hq with hq | rfl
      · exact h.procs q hq
      · exact hQ
  | env d => exact ⟨henv d, h.procs⟩

/-- **The rule for what processes know.** A step has to leave it true of the process that moves and
of each other one. -/
theorem related_step {Q : γ → π → Prop} (h : ∀ p ∈ P.procs, Q P.shared p)
    (l : PoolLabel α ε δ) (hspawn : ∀ a, Q P.shared (M.spawn a))
    (hact : ∀ e p, Q P.shared p → Q (M.act P.shared p e).1 (M.act P.shared p e).2)
    (hrely : ∀ e p q, Q P.shared p → Q P.shared q → Q (M.act P.shared p e).1 q)
    (henv : ∀ d p, Q P.shared p → Q (M.env P.shared d) p) :
    ∀ p ∈ (P.step M l).procs, Q (P.step M l).shared p := by
  cases l with
  | start a =>
    intro p hp
    rcases List.mem_append.1 hp with hp | hp
    · exact h p hp
    · rw [List.mem_singleton.1 hp]
      exact hspawn a
  | step i e =>
    cases hi : P.procs[i]? with
    | none =>
      rw [step_absent hi]
      exact h
    | some p =>
      have hp := h p (List.mem_of_getElem? hi)
      rw [step_step hi]
      intro q hq
      rcases List.mem_or_eq_of_mem_set hq with hq | rfl
      · exact hrely e p q hp (h q hq)
      · exact hact e p hp
  | env d => exact fun p hp => henv d p (h p hp)

/-! ## Ledgers -/

/-- The sum is one process's part and the rest, which replacing the process leaves. -/
theorem sum_map_set (f : π → Nat) {ps : List π} (h : ps[i]? = some p) :
    ∃ n, (ps.map f).sum = n + f p ∧ ∀ q, ((ps.set i q).map f).sum = n + f q := by
  induction ps generalizing i with
  | nil => simp at h
  | cons a ps ih =>
    cases i with
    | zero =>
      simp only [List.getElem?_cons_zero, Option.some.injEq] at h
      subst h
      refine ⟨(ps.map f).sum, ?_, fun q => ?_⟩
      · simp only [List.map_cons, List.sum_cons]
        omega
      · simp only [List.set_cons_zero, List.map_cons, List.sum_cons]
        omega
    | succ i =>
      simp only [List.getElem?_cons_succ] at h
      obtain ⟨n, hn, hset⟩ := ih h
      refine ⟨f a + n, ?_, fun q => ?_⟩
      · simp only [List.map_cons, List.sum_cons, hn]
        omega
      · simp only [List.set_cons_succ, List.map_cons, List.sum_cons, hset]
        omega

/-- **The rule of the ledger.** Processes start without debts; a step may move what the process
owes and the shared state together, whatever the others owe. -/
theorem total_step {f : π → Nat} {L : γ → Nat → Prop} (l : PoolLabel α ε δ)
    (h : L P.shared (P.total f)) (hspawn : ∀ a, f (M.spawn a) = 0)
    (hact : ∀ i e p n, l = .step i e → P.procs[i]? = some p → L P.shared (n + f p) →
      L (M.act P.shared p e).1 (n + f (M.act P.shared p e).2))
    (henv : ∀ d n, L P.shared n → L (M.env P.shared d) n) :
    L (P.step M l).shared ((P.step M l).total f) := by
  cases l with
  | start a =>
    have : (P.step M (.start a)).total f = P.total f := by
      simp [step, total, hspawn]
    rw [this]
    exact h
  | step i e =>
    cases hi : P.procs[i]? with
    | none =>
      rw [step_absent hi]
      exact h
    | some p =>
      obtain ⟨n, hn, hset⟩ := sum_map_set f hi
      rw [step_step hi]
      simp only [total, hset]
      simp only [total, hn] at h
      exact hact i e p n rfl hi h
  | env d => exact henv d _ h

/-- A sum of zeros and ones counts. -/
theorem total_toNat (b : π → Bool) : P.total (fun p => (b p).toNat) = P.procs.countP b := by
  obtain ⟨g, ps⟩ := P
  induction ps with
  | nil => rfl
  | cons p ps ih =>
    simp only [total, List.map_cons, List.sum_cons, List.countP_cons] at ih ⊢
    rw [ih]
    cases b p with
    | true => exact Nat.add_comm 1 _
    | false => exact Nat.zero_add _

theorem total_eq_zero {f : π → Nat} (h : ∀ p ∈ P.procs, f p = 0) : P.total f = 0 := by
  rw [total, List.sum_eq_zero_iff_forall_eq_nat]
  intro n hn
  obtain ⟨p, hp, rfl⟩ := List.mem_map.1 hn
  exact h p hp

/-! ## Processes over a run -/

/-- What a step leaves of every process is there for the whole run, the started ones behind. -/
theorem run_key {κ : Type*} {key : π → κ} (hact : ∀ g p e, key (M.act g p e).2 = key p)
    (ls : List (PoolLabel α ε δ)) : (P.run M ls).procs.map key =
      P.procs.map key ++ (ls.filterMap PoolLabel.started).map (key ∘ M.spawn) := by
  induction ls generalizing P with
  | nil => simp [run]
  | cons l ls ih =>
    have hstep : (P.step M l).procs.map key =
        P.procs.map key ++ (l.started.toList).map (key ∘ M.spawn) := by
      cases l with
      | start a => simp [step, PoolLabel.started]
      | step i e =>
        cases hi : P.procs[i]? with
        | none => simp [step_absent hi, PoolLabel.started]
        | some p =>
          obtain ⟨hlt, hget⟩ := List.getElem?_eq_some_iff.1 hi
          rw [step_step hi]
          simp only [List.map_set, hact, PoolLabel.started, Option.toList_none, List.map_nil,
            List.append_nil]
          rw [← hget, ← List.getElem_map key (h := by simpa using hlt), List.set_getElem_self]
      | env d => simp [step, PoolLabel.started]
    have hrun : P.run M (l :: ls) = (P.step M l).run M ls := run_cons
    rw [hrun, ih, hstep, List.append_assoc, ← List.map_append]
    cases hl : l.started with
    | none => simp [hl]
    | some a => simp [hl]

/-- **The rule of the countdown.** When a step of a process with `n` left leaves it with one less, a
run that moves it so often uses them up. -/
theorem run_countdown {Q : Nat → π → Prop} {n : Nat}
    (hact : ∀ n g p e, Q n p → Q (n - 1) (M.act g p e).2) (h : P.procs[i]? = some p) (hp : Q n p)
    (ls : List (PoolLabel α ε δ)) :
    ∃ q, (P.run M ls).procs[i]? = some q ∧ Q (n - ls.countP (PoolLabel.moves i)) q := by
  induction ls generalizing P p n with
  | nil => exact ⟨p, h, hp⟩
  | cons l ls ih =>
    obtain ⟨hlt, -⟩ := List.getElem?_eq_some_iff.1 h
    have hstep : ∃ p', (P.step M l).procs[i]? = some p' ∧
        Q (n - if l.moves i then 1 else 0) p' := by
      cases l with
      | start a =>
        exact ⟨p, by simp [step, List.getElem?_append_left hlt, h], hp⟩
      | env d => exact ⟨p, h, hp⟩
      | step j e =>
        cases hj : P.procs[j]? with
        | none =>
          have hne : i ≠ j := by
            rintro rfl
            rw [h] at hj
            cases hj
          exact ⟨p, by rw [step_absent hj, h], by simpa [PoolLabel.moves, hne] using hp⟩
        | some q =>
          rw [step_step hj]
          by_cases hij : i = j
          · subst hij
            rw [h] at hj
            cases hj
            exact ⟨(M.act P.shared p e).2, by simp [List.getElem?_set_self hlt],
              by simpa [PoolLabel.moves] using hact n P.shared p e hp⟩
          · exact ⟨p, by simp [List.getElem?_set_ne (Ne.symm hij), h],
              by simpa [PoolLabel.moves, hij] using hp⟩
    obtain ⟨p', hp', hQ⟩ := hstep
    obtain ⟨q, hq, hlast⟩ := ih hp' hQ
    rw [Nat.sub_sub, Nat.add_comm, ← List.countP_cons] at hlast
    exact ⟨q, hq, hlast⟩

/-- **Progress.** When every step of a process lowers `μ`, a run that moves it `n` times has
lowered `μ` by `n`. -/
theorem run_rank (μ : π → Nat) (hact : ∀ g p e, μ (M.act g p e).2 ≤ μ p - 1)
    (h : P.procs[i]? = some p) (ls : List (PoolLabel α ε δ)) :
    ∃ q, (P.run M ls).procs[i]? = some q ∧ μ q ≤ μ p - ls.countP (PoolLabel.moves i) :=
  run_countdown (Q := fun n p => μ p ≤ n)
    (fun _ g p e hp => Nat.le_trans (hact g p e) (Nat.sub_le_sub_right hp 1)) h (Nat.le_refl _) ls

end
end Pool
end Lib
