import Mathlib.Data.List.Infix

/-!
# Greedy parsing

`ok as a` says that `a` may follow the elements `as`. A list is admitted when each element may
follow those before it. Where at most one element may follow, the admitted lists of at most `m`
elements are the prefixes of one of them, and a parser that goes on as long as it can finds that
one (`longest_of_stuck`).
-/

namespace Lib

variable {α : Type*}

/-! ## Elements with those before them -/

/-- Each element, with the elements before it. -/
def history : List α → List (List α × α)
  | [] => []
  | a :: as => ([], a) :: (history as).map fun p => (a :: p.1, p.2)

theorem history_concat (as : List α) (a : α) : history (as ++ [a]) = history as ++ [(as, a)] := by
  induction as with
  | nil => rfl
  | cons b as ih =>
    simp only [List.cons_append, history, ih, List.map_append]
    rfl

/-! ## Admitted lists -/

/-- Every element may follow those before it. -/
def Admitted (ok : List α → α → Prop) (as : List α) : Prop :=
  ∀ bs a, bs ++ [a] <+: as → ok bs a

/-- The longest admitted list of at most `m` elements. -/
structure Longest (ok : List α → α → Prop) (m : Nat) (as : List α) : Prop where
  admitted : Admitted ok as
  length_le : as.length ≤ m
  longest : ∀ bs, Admitted ok bs → bs.length ≤ m → bs <+: as

section
variable {ok ok' : List α → α → Prop} {m : Nat} {as bs : List α} {a : α}

theorem admitted_nil : Admitted ok [] := by
  intro bs a h
  simp at h

theorem admitted_concat : Admitted ok (as ++ [a]) ↔ Admitted ok as ∧ ok as a := by
  constructor
  · intro h
    exact ⟨fun bs b hb => h bs b (hb.trans (List.prefix_append as [a])), h as a List.prefix_rfl⟩
  · rintro ⟨has, ha⟩ bs b hb
    rcases List.prefix_concat_iff.1 hb with heq | hb
    · obtain ⟨hbs, hba⟩ := List.append_inj' heq rfl
      rw [hbs, List.singleton_inj.1 hba]
      exact ha
    · exact has bs b hb

/-- A rule that agrees after the prefixes of `as` admits `as` too. -/
theorem Admitted.congr (h : Admitted ok as) (hok : ∀ bs, bs <+: as → ∀ a, ok bs a → ok' bs a) :
    Admitted ok' as :=
  fun bs a hb => hok bs ((List.prefix_append bs [a]).trans hb) a (h bs a hb)

/-- **A list that nothing may follow is the longest**, as is one of `m` elements. -/
theorem longest_of_stuck (hdet : ∀ bs a b, ok bs a → ok bs b → a = b) (has : Admitted ok as)
    (hlen : as.length ≤ m) (hstuck : as.length = m ∨ ∀ a, ¬ok as a) : Longest ok m as := by
  refine ⟨has, hlen, fun bs hbs hbm => ?_⟩
  induction bs using List.reverseRecOn with
  | nil => exact List.nil_prefix
  | append_singleton bs b ih =>
    obtain ⟨hbs, hb⟩ := admitted_concat.1 hbs
    rw [List.length_append, List.length_singleton] at hbm
    obtain ⟨cs, rfl⟩ := ih hbs (by omega)
    cases cs with
    | nil =>
      -- nothing follows the whole of `as`
      rw [List.append_nil] at hstuck
      rcases hstuck with hm | hnone
      · omega
      · exact absurd hb (hnone b)
    | cons c cs =>
      have hc : ok bs c := has bs c ⟨cs, by simp⟩
      rw [hdet bs b c hb hc]
      exact ⟨cs, by simp⟩

end
end Lib
