import Mathlib.Logic.Function.Basic

/-!
# Set-associative tables

An array of entries indexed by `ι`, each entry free or held by a key, where a key may only live at
its home positions (the ways of its bucket). `lookup` searches the home positions of a key in
order, as an unrolled scan does. On a well-placed table (every held entry at home, no key held
twice) `lookup` is the finite map the table stands for, and overwriting one entry changes that map
at the keys it takes away or brings in and nowhere else (`lookup_set_eq`, `lookup_set_other`,
`lookup_set_lost`).
-/

namespace Lib

/-- What a table needs to know of its entries: who holds one, and where a key may live. -/
structure SetAssoc (ι σ K : Type*) where
  key : σ → Option K
  home : K → List ι

namespace SetAssoc

variable {ι σ K : Type*} (S : SetAssoc ι σ K)

/-- Every held entry is at a home position of its key and no key is held twice. -/
structure WellPlaced (a : ι → σ) : Prop where
  home : ∀ {i k}, S.key (a i) = some k → i ∈ S.home k
  unique : ∀ {i j k}, S.key (a i) = some k → S.key (a j) = some k → i = j

section
variable [DecidableEq K]

/-- The first home position of `k` whose entry `k` holds. -/
def position (a : ι → σ) (k : K) : Option ι := (S.home k).find? fun i => S.key (a i) == some k

/-- The entry `k` holds. -/
def lookup (a : ι → σ) (k : K) : Option σ := (S.position a k).map a

variable {S} {a : ι → σ} {i : ι} {k : K} {x : σ}

theorem position_key (h : S.position a k = some i) : S.key (a i) = some k := by
  have := List.find?_some h
  simpa using this

theorem lookup_key (h : S.lookup a k = some x) : S.key x = some k := by
  simp only [lookup, Option.map_eq_some_iff] at h
  obtain ⟨i, hi, rfl⟩ := h
  exact position_key hi

theorem WellPlaced.position_eq (ha : S.WellPlaced a) (h : S.key (a i) = some k) :
    S.position a k = some i := by
  cases hp : S.position a k with
  | none =>
    have := List.find?_eq_none.1 hp i (ha.home h)
    simp [h] at this
  | some j => rw [ha.unique (position_key hp) h]

theorem WellPlaced.lookup_eq (ha : S.WellPlaced a) (h : S.key (a i) = some k) :
    S.lookup a k = some (a i) := by
  rw [lookup, ha.position_eq h, Option.map_some]

/-- On a well-placed table a lookup finds whatever entry the key holds. -/
theorem WellPlaced.lookup_eq_some (ha : S.WellPlaced a) :
    S.lookup a k = some x ↔ ∃ i, a i = x ∧ S.key x = some k := by
  constructor
  · intro h
    have hk := lookup_key h
    simp only [lookup, Option.map_eq_some_iff] at h
    obtain ⟨i, -, hi⟩ := h
    exact ⟨i, hi, hk⟩
  · rintro ⟨i, rfl, hk⟩
    exact ha.lookup_eq hk

theorem lookup_eq_none (h : ∀ i, S.key (a i) ≠ some k) : S.lookup a k = none := by
  cases hp : S.position a k with
  | none => rw [lookup, hp, Option.map_none]
  | some i => exact absurd (position_key hp) (h i)

theorem WellPlaced.of_lookup_none (ha : S.WellPlaced a) (h : S.lookup a k = none) (i : ι) :
    S.key (a i) ≠ some k := by
  intro hk
  rw [ha.lookup_eq hk] at h
  cases h

end

/-! ## Overwriting an entry -/

section
variable [DecidableEq ι] {S} {a : ι → σ} {i : ι} {k : K} {x : σ}

/-- An entry may be handed to a key at one of its home positions when the key holds no entry
elsewhere. -/
theorem WellPlaced.set (ha : S.WellPlaced a) (hx : S.key x = some k) (hi : i ∈ S.home k)
    (hfree : ∀ j, S.key (a j) = some k → j = i) : S.WellPlaced (Function.update a i x) where
  home := by
    intro j k' hj
    by_cases hji : j = i
    · subst hji
      rw [Function.update_self, hx, Option.some.injEq] at hj
      exact hj ▸ hi
    · rw [Function.update_of_ne hji] at hj
      exact ha.home hj
  unique := by
    intro j j' k' hj hj'
    by_cases hji : j = i <;> by_cases hji' : j' = i
    · rw [hji, hji']
    · subst hji
      rw [Function.update_self, hx, Option.some.injEq] at hj
      rw [Function.update_of_ne hji', ← hj] at hj'
      exact (hfree j' hj').symm
    · subst hji'
      rw [Function.update_self, hx, Option.some.injEq] at hj'
      rw [Function.update_of_ne hji, ← hj'] at hj
      exact hfree j hj
    · rw [Function.update_of_ne hji] at hj
      rw [Function.update_of_ne hji'] at hj'
      exact ha.unique hj hj'

/-- An entry may always be freed. -/
theorem WellPlaced.clear (ha : S.WellPlaced a) (hx : S.key x = none) :
    S.WellPlaced (Function.update a i x) where
  home := by
    intro j k hj
    by_cases hji : j = i
    · subst hji
      rw [Function.update_self, hx] at hj
      cases hj
    · rw [Function.update_of_ne hji] at hj
      exact ha.home hj
  unique := by
    intro j j' k hj hj'
    have hne : ∀ {j}, S.key (Function.update a i x j) = some k → j ≠ i := by
      intro j hj hji
      subst hji
      rw [Function.update_self, hx] at hj
      cases hj
    rw [Function.update_of_ne (hne hj)] at hj
    rw [Function.update_of_ne (hne hj')] at hj'
    exact ha.unique hj hj'

variable [DecidableEq K]

theorem lookup_set_eq (h : S.WellPlaced (Function.update a i x)) (hx : S.key x = some k) :
    S.lookup (Function.update a i x) k = some x := by
  have := h.lookup_eq (i := i) (k := k) (by rw [Function.update_self]; exact hx)
  rwa [Function.update_self] at this

/-- A key that neither the old nor the new entry belongs to keeps its entry. -/
theorem lookup_set_other (ha : S.WellPlaced a) (h : S.WellPlaced (Function.update a i x))
    (hold : S.key (a i) ≠ some k) (hnew : S.key x ≠ some k) :
    S.lookup (Function.update a i x) k = S.lookup a k := by
  cases hl : S.lookup a k with
  | none =>
    refine lookup_eq_none fun j hj => ?_
    by_cases hji : j = i
    · subst hji
      rw [Function.update_self] at hj
      exact hnew hj
    · rw [Function.update_of_ne hji] at hj
      exact ha.of_lookup_none hl j hj
  | some y =>
    obtain ⟨j, rfl, hk⟩ := ha.lookup_eq_some.1 hl
    have hji : j ≠ i := fun he => hold (he ▸ hk)
    refine h.lookup_eq_some.2 ⟨j, ?_, hk⟩
    rw [Function.update_of_ne hji]

/-- A key whose entry went to another key, or was freed, holds none. -/
theorem lookup_set_lost (ha : S.WellPlaced a) (hold : S.key (a i) = some k)
    (hnew : S.key x ≠ some k) : S.lookup (Function.update a i x) k = none := by
  refine lookup_eq_none fun j hj => ?_
  by_cases hji : j = i
  · subst hji
    rw [Function.update_self] at hj
    exact hnew hj
  · rw [Function.update_of_ne hji] at hj
    exact hji (ha.unique hj hold)

end

end SetAssoc
end Lib
