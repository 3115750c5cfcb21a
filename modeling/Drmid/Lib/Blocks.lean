import Mathlib.Data.List.TakeDrop
import Mathlib.Data.List.Range

/-!
# Lists in blocks

`blocks n l` are the whole blocks of `n` elements that a list starts with, and `leftover n l` is
what stands behind them. A program that works block by block and keeps the leftover for the next
call computes the blocks of everything it was given: `blocks_append` and `leftover_append`.
-/

namespace Lib

variable {α : Type*} {n : ℕ} {l l' : List α}

/-- The whole blocks of `n` elements, in order. -/
def blocks (n : ℕ) (l : List α) : List (List α) :=
  (List.range (l.length / n)).map fun i => (l.drop (n * i)).take n

/-- What the whole blocks leave. -/
def leftover (n : ℕ) (l : List α) : List α := l.drop (n * (l.length / n))

theorem blocks_of_lt (h : l.length < n) : blocks n l = [] := by
  rw [blocks, Nat.div_eq_of_lt h]
  rfl

theorem leftover_of_lt (h : l.length < n) : leftover n l = l := by
  rw [leftover, Nat.div_eq_of_lt h]
  rfl

theorem length_of_mem_blocks {block : List α} (h : block ∈ blocks n l) : block.length = n := by
  obtain ⟨i, hi, rfl⟩ := List.mem_map.1 h
  have hlt := List.mem_range.1 hi
  have hle : n * (i + 1) ≤ l.length :=
    (Nat.mul_le_mul_left n hlt).trans (Nat.mul_div_le l.length n)
  rw [Nat.mul_succ] at hle
  rw [List.length_take, List.length_drop]
  omega

@[simp] theorem blocks_nil : blocks n ([] : List α) = [] := by
  simp [blocks]

@[simp] theorem leftover_nil : leftover n ([] : List α) = [] := by
  simp [leftover]

theorem length_leftover : (leftover n l).length = l.length % n := by
  rw [leftover, List.length_drop]
  have := Nat.div_add_mod l.length n
  omega

theorem length_leftover_lt (hn : 0 < n) : (leftover n l).length < n :=
  length_leftover.trans_lt (Nat.mod_lt _ hn)

/-- A list that starts with a block. -/
theorem blocks_cons (hn : 0 < n) (h : l.length = n) : blocks n (l ++ l') = l :: blocks n l' := by
  have hlen : (l ++ l').length / n = l'.length / n + 1 := by
    rw [List.length_append, h, Nat.add_comm, Nat.add_div_right _ hn]
  rw [blocks, hlen, List.range_succ_eq_map, List.map_cons, List.map_map]
  congr 1
  · simp [← h]
  · refine List.map_congr_left fun i _ => ?_
    have hdrop : (l ++ l').drop (n * (i + 1)) = l'.drop (n * i) := by
      rw [Nat.mul_succ, Nat.add_comm, ← List.drop_drop, ← h, List.drop_left]
    exact congrArg (List.take n) hdrop

theorem leftover_cons (hn : 0 < n) (h : l.length = n) :
    leftover n (l ++ l') = leftover n l' := by
  have hlen : (l ++ l').length / n = l'.length / n + 1 := by
    rw [List.length_append, h, Nat.add_comm, Nat.add_div_right _ hn]
  rw [leftover, hlen, Nat.mul_succ, Nat.add_comm, ← List.drop_drop, ← h, List.drop_left]
  rfl

/-- A list of whole blocks. -/
theorem blocks_eq_singleton (hn : 0 < n) (h : l.length = n) : blocks n l = [l] := by
  have hcons : blocks n (l ++ []) = l :: blocks n [] := blocks_cons hn h
  rwa [List.append_nil, blocks_nil] at hcons

/-- The blocks of a list that comes in two parts. -/
theorem blocks_append (hn : 0 < n) (l l' : List α) :
    blocks n (l ++ l') = blocks n l ++ blocks n (leftover n l ++ l') ∧
      leftover n (l ++ l') = leftover n (leftover n l ++ l') := by
  -- by the number of blocks of the first part
  induction hlen : l.length using Nat.strongRecOn generalizing l with
  | _ k ih =>
    by_cases hlt : l.length < n
    · rw [blocks_of_lt hlt, leftover_of_lt hlt]
      exact ⟨rfl, rfl⟩
    · have hle : n ≤ l.length := Nat.not_lt.1 hlt
      have htake : (l.take n).length = n := List.length_take_of_le hle
      have hdrop : (l.drop n).length < k := by
        rw [List.length_drop]
        omega
      obtain ⟨hblocks, hleft⟩ := ih _ hdrop (l.drop n) rfl
      rw [← List.take_append_drop n l, List.append_assoc, blocks_cons hn htake,
        leftover_cons hn htake, blocks_cons hn htake, leftover_cons hn htake, hblocks, hleft]
      exact ⟨rfl, rfl⟩

end Lib
