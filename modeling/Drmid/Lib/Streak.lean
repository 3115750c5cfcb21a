import Mathlib.Algebra.Order.Floor.Div

/-!
# Streaks

How many of the latest trials in a row have succeeded. A counter that adds a fixed amount for a
success, up to a cap, and falls back to 0 with a failure is a streak in disguise (`capped_succ`).
-/

namespace Lib

/-- The number of successes in a row up to trial `n`, itself not included. -/
def streak (p : Nat → Bool) : Nat → Nat
  | 0 => 0
  | n + 1 => if p n then streak p n + 1 else 0

variable {p : Nat → Bool}

theorem streak_succ_of_true {n : Nat} (h : p n = true) : streak p (n + 1) = streak p n + 1 :=
  if_pos h

theorem streak_succ_of_false {n : Nat} (h : p n = false) : streak p (n + 1) = 0 :=
  if_neg (by rw [h]; decide)

/-- A streak of `k` is `k` successes in a row. -/
theorem le_streak_iff {k n : Nat} :
    k ≤ streak p n ↔ k ≤ n ∧ ∀ i, n - k ≤ i → i < n → p i = true := by
  induction n generalizing k with
  | zero =>
    simp only [streak, Nat.le_zero]
    exact ⟨fun h => ⟨h, fun i _ hi => absurd hi (Nat.not_lt_zero i)⟩, And.left⟩
  | succ n ih =>
    cases k with
    | zero =>
      refine ⟨fun _ => ⟨Nat.zero_le _, fun i h hi => ?_⟩, fun _ => Nat.zero_le _⟩
      exact absurd h (Nat.not_le_of_gt hi)
    | succ k =>
      cases hp : p n with
      | false =>
        rw [streak_succ_of_false hp]
        refine ⟨fun h => absurd h (Nat.not_succ_le_zero k), fun h => ?_⟩
        have hlast := h.2 n (by omega) (Nat.lt_succ_self n)
        rw [hp] at hlast
        cases hlast
      | true =>
        rw [streak_succ_of_true hp, Nat.succ_le_succ_iff, ih, Nat.succ_le_succ_iff,
          Nat.succ_sub_succ]
        refine and_congr_right fun _ => ⟨fun h i hi hlt => ?_, fun h i hi hlt => ?_⟩
        · rcases Nat.lt_or_eq_of_le (Nat.le_of_lt_succ hlt) with hlt | rfl
          · exact h i hi hlt
          · exact hp
        · exact h i hi (Nat.lt_succ_of_lt hlt)

/-- One more success of the capped counter. -/
theorem capped_succ (cap step n : Nat) :
    min cap (min cap (step * n) + step) = min cap (step * (n + 1)) := by
  rw [Nat.mul_succ]
  omega

/-- The counter is at its cap when the streak is long enough. -/
theorem cap_le_iff {cap step : Nat} (hstep : 0 < step) (n : Nat) :
    cap ≤ min cap (step * n) ↔ cap ⌈/⌉ step ≤ n := by
  rw [ceilDiv_le_iff_le_mul hstep, Nat.le_min]
  exact and_iff_right (Nat.le_refl cap)

end Lib
