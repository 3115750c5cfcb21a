import Mathlib.Tactic.TypeStar

/-!
# A word under load-exclusive and store-exclusive

`ExclusiveWord` is a word of memory that several processors access one at a time. A load-exclusive
closes the processor's monitor, a store-exclusive stores only while it is closed, and any store to
the word opens the monitors. So a monitor is the number of stores that the word had seen when it was
closed, and `Coherent` is what a closed one tells: the word still is what was loaded.

`LockMove` says what a step may do to a word that is a lock, and `LockLedger` is what follows for
all who use it: the word is `busy` while one of them is inside and `free` otherwise, and there is
never more than one.
-/

namespace Lib

/-! ## Monitors -/

/-- A word and the number of stores to it. -/
structure ExclusiveWord (V : Type*) where
  word : V
  stores : Nat

namespace ExclusiveWord

variable {V : Type*}

/-- A store, exclusive or not. -/
def store (W : ExclusiveWord V) (v : V) : ExclusiveWord V := ⟨v, W.stores + 1⟩

@[simp] theorem store_word (W : ExclusiveWord V) (v : V) : (W.store v).word = v := rfl

/-- A monitor, and what the load-exclusive found that closed it. While there was no store since, the
word is that. -/
structure Coherent (W : ExclusiveWord V) (monitor : Option Nat) (seen : Option V) : Prop where
  past : ∀ n, monitor = some n → n ≤ W.stores
  current : monitor = some W.stores → seen = some W.word

variable {W : ExclusiveWord V} {monitor : Option Nat} {seen : Option V}

theorem Coherent.load : W.Coherent (some W.stores) (some W.word) :=
  ⟨fun _ h => Nat.le_of_eq (Option.some.inj h).symm, fun _ => rfl⟩

theorem Coherent.clear : W.Coherent none seen :=
  ⟨fun _ h => (by cases h), fun h => (by cases h)⟩

/-- After a store by anyone the monitor is open. -/
theorem Coherent.store (h : W.Coherent monitor seen) (v : V) (seen' : Option V) :
    (W.store v).Coherent monitor seen' := by
  refine ⟨fun n hn => Nat.le_succ_of_le (h.past n hn), fun hn => ?_⟩
  exact absurd (h.past _ hn) (Nat.not_succ_le_self W.stores)

end ExclusiveWord

/-! ## Locks -/

section
variable {V : Type*} {free busy : V}

/-- A step leaves the lock word, takes the lock where it is free, or gives it back. -/
inductive LockMove (free busy : V) : V → Bool → V → Bool → Prop
  | stay {w : V} {inside : Bool} : LockMove free busy w inside w inside
  | acquire : LockMove free busy free false busy true
  | release {w : V} : LockMove free busy w true free false

/-- The word, where `n` are inside. -/
def LockLedger (free busy : V) (w : V) (n : Nat) : Prop := (n = 0 ∧ w = free) ∨ (n = 1 ∧ w = busy)

theorem LockLedger.le_one {w : V} {n : Nat} (h : LockLedger free busy w n) : n ≤ 1 := by
  rcases h with ⟨rfl, -⟩ | ⟨rfl, -⟩
  · exact Nat.zero_le 1
  · exact Nat.le_refl 1

/-- **Mutual exclusion.** Whoever moves, and whatever the others do. -/
theorem LockMove.ledger {w w' : V} {inside inside' : Bool} {n : Nat}
    (hmove : LockMove free busy w inside w' inside') (hne : free ≠ busy)
    (h : LockLedger free busy w (n + inside.toNat)) :
    LockLedger free busy w' (n + inside'.toNat) := by
  cases hmove with
  | stay => exact h
  | acquire =>
    rcases h with ⟨hn, -⟩ | ⟨-, hw⟩
    · exact .inr ⟨congrArg (· + 1) hn, rfl⟩
    · exact absurd hw hne
  | release =>
    refine .inl ⟨?_, rfl⟩
    have hle : n + 1 ≤ 1 := h.le_one
    exact Nat.le_zero.1 (Nat.le_of_succ_le_succ hle)

end

end Lib
