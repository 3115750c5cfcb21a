import Mathlib.Logic.Function.Basic
import Mathlib.Data.List.Basic

/-!
# Double-slot publication

A register of two slots and an index. A writer fills the slot the index does not name and then
flips the index; what readers take, `current`, therefore changes at the flip only. `Attempt` is
what one try of a writer can do to the register, failures included, and `Chain` the history of a
register whose writers only publish values of growing rank: `Chain.attempt` keeps it.
-/

namespace Lib

/-- Two slots and the index of the one that readers take. -/
structure DoubleSlot (α : Type*) where
  active : Fin 2
  slots : Fin 2 → α

namespace DoubleSlot

variable {α : Type*} {d d' : DoubleSlot α} {x : α} {ok : Bool}

/-- What readers take. -/
def current (d : DoubleSlot α) : α := d.slots d.active

/-- The other of two slots. -/
def other (i : Fin 2) : Fin 2 := ⟨1 - i.val, by omega⟩

/-- The slot that the index does not name. -/
def spare (d : DoubleSlot α) : Fin 2 := other d.active

/-- Fill the spare slot. -/
def store (d : DoubleSlot α) (x : α) : DoubleSlot α :=
  { d with slots := Function.update d.slots d.spare x }

/-- Let the index name the spare slot. -/
def flip (d : DoubleSlot α) : DoubleSlot α := { d with active := d.spare }

theorem active_ne_spare (d : DoubleSlot α) : d.active ≠ d.spare := by
  unfold spare
  generalize d.active = i
  revert i
  decide

@[simp] theorem current_store : (d.store x).current = d.current :=
  Function.update_of_ne d.active_ne_spare _ _

@[simp] theorem current_flip_store : ((d.store x).flip).current = x :=
  Function.update_self _ _ _

/-- One try to publish `x`: refused before anything was written, given up after the spare slot
may have been filled with anything, or published. -/
inductive Attempt (x : α) (d : DoubleSlot α) : DoubleSlot α → Bool → Prop
  | refused : Attempt x d d false
  | dirtied (y : α) : Attempt x d (d.store y) false
  | published : Attempt x d (d.store x).flip true

/-- A try that fails is not seen by any reader. -/
theorem Attempt.failed (h : Attempt x d d' false) :
    d'.active = d.active ∧ d'.current = d.current := by
  cases h with
  | refused => exact ⟨rfl, rfl⟩
  | dirtied y => exact ⟨rfl, current_store⟩

/-- What a failed try was for does not matter. -/
theorem Attempt.of_failed {y : α} (h : Attempt x d d' false) : Attempt y d d' false := by
  cases h with
  | refused => exact .refused
  | dirtied z => exact .dirtied z

theorem Attempt.succeeded (h : Attempt x d d' true) : d'.current = x := by
  cases h
  exact current_flip_store

/-- `hist` is what readers have been given, latest first: all of it valid, of growing rank. -/
structure Chain (valid : α → Prop) (rank : α → Nat) (d : DoubleSlot α) (hist : List α) : Prop where
  head : hist.head? = some d.current
  valid : ∀ y ∈ hist, valid y
  growing : hist.Pairwise fun later earlier => rank earlier < rank later

section
variable {valid : α → Prop} {rank : α → Nat} {hist : List α}

theorem Chain.current_mem (h : Chain valid rank d hist) : d.current ∈ hist :=
  List.mem_of_head? h.head

theorem Chain.current_valid (h : Chain valid rank d hist) : valid d.current :=
  h.valid _ h.current_mem

/-- Nothing readers were given ranks above what they are given now. -/
theorem Chain.rank_le (h : Chain valid rank d hist) : ∀ y ∈ hist, rank y ≤ rank d.current := by
  obtain ⟨rest, rfl⟩ : ∃ rest, hist = d.current :: rest := by
    cases hist with
    | nil => cases h.head
    | cons z rest => exact ⟨rest, by rw [Option.some.inj h.head]⟩
  intro y hy
  rcases List.mem_cons.1 hy with rfl | hy
  · exact Nat.le_refl _
  · exact Nat.le_of_lt ((List.pairwise_cons.1 h.growing).1 y hy)

/-- The history after a try whose value, if published, is valid and outranks the current one. -/
theorem Chain.attempt (h : Chain valid rank d hist) (ha : Attempt x d d' ok)
    (hx : ok = true → valid x ∧ rank d.current < rank x) :
    Chain valid rank d' (if ok then x :: hist else hist) := by
  cases ok with
  | false => exact ⟨by rw [ha.failed.2]; exact h.head, h.valid, h.growing⟩
  | true =>
    obtain ⟨hvalid, hrank⟩ := hx rfl
    refine ⟨by rw [ha.succeeded]; rfl, ?_, ?_⟩
    · rintro y (_ | ⟨_, hy⟩)
      · exact hvalid
      · exact h.valid y hy
    · exact List.pairwise_cons.2
        ⟨fun y hy => Nat.lt_of_le_of_lt (h.rank_le y hy) hrank, h.growing⟩

end

end DoubleSlot
end Lib
