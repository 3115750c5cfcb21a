import Drmid.Hook.PendingStack

/-!
# Frames of the abstract pending map

Where a frame sits: `M.frameAt u i` is frame `i` of the stack of task `u`. A push brings in its own
frame at one place and moves no other (`Push.frameAt`); a pop takes the top frame away and moves no
other (`Pop.frameAt`). Everything the run-level proofs need of the table goes through these two.
-/

namespace Drmid

namespace PendingMap

/-- Frame `i`, oldest first, of the stack of task `u`. -/
def frameAt (M : PendingMap) (u : UInt64) (i : Nat) : Option BinderPendingFrame :=
  (M u).bind fun st => st.frames[i]?

theorem frameAt_some {M : PendingMap} {u : UInt64} {i : Nat} {g : BinderPendingFrame} :
    M.frameAt u i = some g ↔ ∃ st, M u = some st ∧ st.frames[i]? = some g := by
  simp [frameAt, Option.bind_eq_some_iff]

/-- The top frame sits at the last place of its stack. -/
theorem frameAt_top {M : PendingMap} {u : UInt64} {st : PendingStack} (h : M u = some st) :
    M.frameAt u (st.frames.length - 1) = some st.top := by
  refine frameAt_some.2 ⟨st, h, ?_⟩
  rw [← List.getLast?_eq_getElem?, List.getLast?_eq_some_getLast st.nonempty]
  rfl

/-- The stack of a thread other than the one that pushes or pops, after an update at that
thread. -/
theorem frameAt_update_ne {M : PendingMap} {u k : UInt64} {x : Option PendingStack} {i : Nat}
    (h : u ≠ k) : frameAt (Function.update M k x) u i = M.frameAt u i := by
  simp only [frameAt]
  rw [Function.update_of_ne h]

theorem frameAt_update_self {M : PendingMap} {k : UInt64} {x : Option PendingStack} {i : Nat} :
    frameAt (Function.update M k x) k i = x.bind fun st => st.frames[i]? := by
  simp only [frameAt, Function.update_self]

theorem single_getElem? {t : TaskIdentity} {f g : BinderPendingFrame} {i : Nat}
    (h : (PendingStack.single t f).frames[i]? = some g) : i = 0 ∧ g = f := by
  rw [PendingStack.single, List.getElem?_singleton] at h
  split at h
  · rename_i h0
    exact ⟨h0, (Option.some.inj h).symm⟩
  · cases h

/-- **Frames after a push**: the old ones at their old places, or the pushed one at its place. -/
theorem Push.frameAt {M M' : PendingMap} {t : TaskIdentity} {f : BinderPendingFrame}
    (h : Push M t f M') : ∃ n, ∀ u i g, M'.frameAt u i = some g →
      M.frameAt u i = some g ∨ (u = t.kaddr ∧ i = n ∧ g = f) := by
  -- the three pushes that leave a stack of one frame
  have hsingle : ∀ M₁ : PendingMap, (∀ u i g, M₁.frameAt u i = some g → M.frameAt u i = some g) →
      ∃ n, ∀ u i g, PendingMap.frameAt (Function.update M₁ t.kaddr (some (.single t f))) u i =
        some g → M.frameAt u i = some g ∨ (u = t.kaddr ∧ i = n ∧ g = f) := by
    intro M₁ hM₁
    refine ⟨0, fun u i g hg => ?_⟩
    by_cases hu : u = t.kaddr
    · subst hu
      rw [frameAt_update_self, Option.bind_some] at hg
      exact .inr ⟨rfl, single_getElem? hg⟩
    · rw [frameAt_update_ne hu] at hg
      exact .inl (hM₁ u i g hg)
  cases h with
  | @append st hM ho hlt =>
    refine ⟨st.frames.length, fun u i g hg => ?_⟩
    by_cases hu : u = t.kaddr
    · subst hu
      rw [frameAt_update_self, Option.bind_some, PendingStack.push, List.getElem?_append] at hg
      split at hg
      · exact .inl (frameAt_some.2 ⟨st, hM, hg⟩)
      · rename_i hge
        rw [List.getElem?_singleton] at hg
        split at hg
        · exact .inr ⟨rfl, by omega, (Option.some.inj hg).symm⟩
        · cases hg
    · rw [frameAt_update_ne hu] at hg
      exact .inl hg
  | overflow => exact ⟨0, fun _ _ _ hg => .inl hg⟩
  | reclaim hM ho => exact hsingle M fun _ _ _ hg => hg
  | fresh hM hroom => exact hsingle M fun _ _ _ hg => hg
  | @evict v sv hM hfull hb hv holdest =>
    refine hsingle (Function.update M v none) fun u i g hg => ?_
    by_cases huv : u = v
    · subst huv
      rw [frameAt_update_self, Option.bind_none] at hg
      cases hg
    · rwa [frameAt_update_ne huv] at hg

theorem pop_frames {st st' : PendingStack} (h : st.pop = some st') :
    st'.pid = st.pid ∧ st'.tgid = st.tgid ∧ st'.frames = st.frames.dropLast := by
  unfold PendingStack.pop at h
  split at h
  · cases h
    exact ⟨rfl, rfl, rfl⟩
  · cases h

/-- The pop of a stack of one frame leaves none. -/
theorem pop_single {st : PendingStack} (h : st.frames.length = 1) : st.pop = none := by
  unfold PendingStack.pop
  rw [dif_neg]
  simp [← List.length_eq_zero_iff, h]

theorem pop_getElem? {st : PendingStack} {i : Nat} {g : BinderPendingFrame}
    (h : (st.pop.bind fun st => st.frames[i]?) = some g) :
    st.frames[i]? = some g ∧ i < st.frames.length - 1 := by
  rw [Option.bind_eq_some_iff] at h
  obtain ⟨st', hpop, hg⟩ := h
  rw [(pop_frames hpop).2.2, List.getElem?_dropLast] at hg
  split at hg
  · rename_i hi
    exact ⟨hg, hi⟩
  · cases hg

/-- **Frames after a pop**: all sit where they sat, and the popped place is empty. A non-zero
request id is the top frame's. -/
theorem Pop.frameAt {M M' : PendingMap} {task g : UInt64} {out : UInt64 × UInt32}
    (h : Pop M task g out M') :
    (∀ u i f, M'.frameAt u i = some f → M.frameAt u i = some f) ∧
    (out.1 ≠ 0 → ∃ st, M task = some st ∧ out = (st.top.requestEventId, st.top.parcelFlags) ∧
      st.top.halIdentityGeneration = g ∧ M'.frameAt task (st.frames.length - 1) = none) := by
  have hkeep : ∀ {st : PendingStack}, M task = some st → ∀ u i f,
      PendingMap.frameAt (Function.update M task st.pop) u i = some f → M.frameAt u i = some f := by
    intro st hM u i f hf
    by_cases hu : u = task
    · subst hu
      rw [frameAt_update_self] at hf
      exact frameAt_some.2 ⟨st, hM, (pop_getElem? hf).1⟩
    · rwa [frameAt_update_ne hu] at hf
  cases h with
  | miss hM => exact ⟨fun _ _ _ hf => hf, fun h0 => absurd rfl h0⟩
  | stale hM hg => exact ⟨hkeep hM, fun h0 => absurd rfl h0⟩
  | @fresh st hM hg =>
    refine ⟨hkeep hM, fun _ => ⟨st, hM, rfl, hg, ?_⟩⟩
    rw [frameAt_update_self]
    cases hb : (st.pop.bind fun st' => st'.frames[st.frames.length - 1]?) with
    | none => rfl
    | some f =>
      have := (pop_getElem? hb).2
      omega

/-- Where the thread's stack is its own and not full, and its bucket has room, a push puts one
frame on top of it. -/
theorem Push.appends {M M' : PendingMap} {t : TaskIdentity} {f : BinderPendingFrame}
    (h : Push M t f M') (howner : ∀ st, M t.kaddr = some st → st.Owner t ∧ st.frames.length < 4)
    (hroom : M t.kaddr = none → (M.holders (pendingBucket t.kaddr)).ncard < 8) :
    ∃ st', M' = Function.update M t.kaddr (some st') ∧ st'.Owner t ∧
      st'.frames = (M t.kaddr).elim [] PendingStack.frames ++ [f] := by
  cases h with
  | @append st hM ho hlt =>
    refine ⟨_, rfl, ho, ?_⟩
    rw [hM]
    rfl
  | @overflow st hM ho hlen =>
    have := (howner st hM).2
    omega
  | @reclaim st hM ho => exact absurd (howner st hM).1 ho
  | fresh hM hlt =>
    refine ⟨_, rfl, ⟨rfl, rfl⟩, ?_⟩
    rw [hM]
    rfl
  | @evict v sv hM hfull hb hv holdest =>
    have := hroom hM
    omega

/-- The push of a thread without a stack opens one. -/
theorem Push.of_none {M M' : PendingMap} {t : TaskIdentity} {f : BinderPendingFrame}
    (h : Push M t f M') (hM : M t.kaddr = none) : M' t.kaddr = some (.single t f) := by
  cases h with
  | append hM' | overflow hM' | reclaim hM' => cases hM.symm.trans hM'
  | fresh | evict => exact Function.update_self _ _ _

/-! ## Who opened a stack -/

/-- A frame of a stack opened by `(pid, tgid)`. -/
def HasFrame (M : PendingMap) (u : UInt64) (pid tgid : UInt32) (f : BinderPendingFrame) : Prop :=
  ∃ st, M u = some st ∧ f ∈ st.frames ∧ st.pid = pid ∧ st.tgid = tgid

theorem HasFrame.of_update {M : PendingMap} {u k : UInt64} {x : Option PendingStack}
    {pid tgid : UInt32} {f : BinderPendingFrame}
    (h : HasFrame (Function.update M k x) u pid tgid f) :
    (u ≠ k ∧ M.HasFrame u pid tgid f) ∨
      (u = k ∧ ∃ st, x = some st ∧ f ∈ st.frames ∧ st.pid = pid ∧ st.tgid = tgid) := by
  obtain ⟨st, hst, hrest⟩ := h
  by_cases hu : u = k
  · subst hu
    rw [Function.update_self] at hst
    exact .inr ⟨rfl, st, hst, hrest⟩
  · rw [Function.update_of_ne hu] at hst
    exact .inl ⟨hu, st, hst, hrest⟩

/-- After a push every frame lies in a stack of the thread it lay in before, or is the pushed one
in a stack of the pushing thread. -/
theorem Push.hasFrame {M M' : PendingMap} {t : TaskIdentity} {f g : BinderPendingFrame}
    {u : UInt64} {pid tgid : UInt32} (h : Push M t f M') (hg : M'.HasFrame u pid tgid g) :
    M.HasFrame u pid tgid g ∨ (u = t.kaddr ∧ pid = t.pid ∧ tgid = t.tgid ∧ g = f) := by
  have hsingle : ∀ {M₁ : PendingMap},
      HasFrame (Function.update M₁ t.kaddr (some (.single t f))) u pid tgid g →
      M₁.HasFrame u pid tgid g ∨ (u = t.kaddr ∧ pid = t.pid ∧ tgid = t.tgid ∧ g = f) := by
    intro M₁ h
    rcases h.of_update with ⟨-, h⟩ | ⟨rfl, st, hst, hmem, rfl, rfl⟩
    · exact .inl h
    · cases hst
      exact .inr ⟨rfl, rfl, rfl, List.mem_singleton.1 hmem⟩
  cases h with
  | @append st hM ho hlt =>
    rcases hg.of_update with ⟨-, h⟩ | ⟨rfl, st', hst, hmem, rfl, rfl⟩
    · exact .inl h
    · cases hst
      rcases List.mem_append.1 hmem with h | h
      · exact .inl ⟨st, hM, h, rfl, rfl⟩
      · exact .inr ⟨rfl, ho.1, ho.2, List.mem_singleton.1 h⟩
  | overflow => exact .inl hg
  | reclaim | fresh => exact hsingle hg
  | @evict v sv hM hfull hb hv holdest =>
    rcases hsingle hg with h | h
    · rcases h.of_update with ⟨-, h⟩ | ⟨-, st, hst, -⟩
      · exact .inl h
      · cases hst
    · exact .inr h

/-- After a pop every frame lies in the stack it lay in before. -/
theorem Pop.hasFrame {M M' : PendingMap} {task g u : UInt64} {out : UInt64 × UInt32}
    {pid tgid : UInt32} {f : BinderPendingFrame} (h : Pop M task g out M')
    (hf : M'.HasFrame u pid tgid f) : M.HasFrame u pid tgid f := by
  cases h with
  | miss => exact hf
  | @fresh st hM | @stale st hM =>
    rcases hf.of_update with ⟨-, h⟩ | ⟨rfl, st', hst, hmem, rfl, rfl⟩
    · exact h
    · obtain ⟨hp, ht, hfr⟩ := pop_frames hst
      exact ⟨st, hM, List.dropLast_subset _ (hfr ▸ hmem), hp.symm, ht.symm⟩

/-! ## Distinct request ids -/

/-- No two places hold the same request id. -/
def DistinctIds (M : PendingMap) : Prop := ∀ u i f v j g, M.frameAt u i = some f →
  M.frameAt v j = some g → f.requestEventId = g.requestEventId → u = v ∧ i = j

/-- The request ids in the map. -/
def ids (M : PendingMap) : Set UInt64 := {r | ∃ u i f, M.frameAt u i = some f ∧ f.requestEventId = r}

theorem DistinctIds.push {M M' : PendingMap} {t : TaskIdentity} {f : BinderPendingFrame}
    (hM : M.DistinctIds) (hf : f.requestEventId ∉ M.ids) (h : Push M t f M') : M'.DistinctIds := by
  obtain ⟨n, hn⟩ := h.frameAt
  intro u i a v j b ha hb hab
  rcases hn u i a ha with ha | ⟨rfl, rfl, rfl⟩ <;> rcases hn v j b hb with hb | ⟨rfl, rfl, rfl⟩
  · exact hM u i a v j b ha hb hab
  · exact absurd ⟨u, i, a, ha, hab⟩ hf
  · exact absurd ⟨v, j, b, hb, hab.symm⟩ hf
  · exact ⟨rfl, rfl⟩

theorem DistinctIds.pop {M M' : PendingMap} {task g : UInt64} {out : UInt64 × UInt32}
    (hM : M.DistinctIds) (h : Pop M task g out M') : M'.DistinctIds :=
  fun u i a v j b ha hb hab =>
    hM u i a v j b (h.frameAt.1 u i a ha) (h.frameAt.1 v j b hb) hab

theorem Push.ids_subset {M M' : PendingMap} {t : TaskIdentity} {f : BinderPendingFrame}
    (h : Push M t f M') : M'.ids ⊆ insert f.requestEventId M.ids := by
  obtain ⟨n, hn⟩ := h.frameAt
  rintro r ⟨u, i, a, ha, rfl⟩
  rcases hn u i a ha with ha | ⟨-, -, rfl⟩
  · exact .inr ⟨u, i, a, ha, rfl⟩
  · exact .inl rfl

theorem Pop.ids_subset {M M' : PendingMap} {task g : UInt64} {out : UInt64 × UInt32}
    (h : Pop M task g out M') : M'.ids ⊆ M.ids := by
  rintro r ⟨u, i, a, ha, rfl⟩
  exact ⟨u, i, a, h.frameAt.1 u i a ha, rfl⟩

/-- Stacks of different threads have different top ids. -/
theorem DistinctIds.top_ne {M : PendingMap} {u v : UInt64} {su sv : PendingStack}
    (hM : M.DistinctIds) (hu : M u = some su) (hv : M v = some sv) (hne : u ≠ v) :
    su.top.requestEventId ≠ sv.top.requestEventId :=
  fun h => hne (hM _ _ _ _ _ _ (frameAt_top hu) (frameAt_top hv) h).1

/-! ## Other threads -/

/-- A push leaves every other thread's stack as it is, unless it evicts that thread. -/
theorem Push.other {M M' : PendingMap} {t : TaskIdentity} {f : BinderPendingFrame} {u : UInt64}
    (h : Push M t f M') (hu : u ≠ t.kaddr) : M' u = M u ∨ (M' u = none ∧ M.Evicts t u) := by
  cases h with
  | append | reclaim | fresh => exact .inl (Function.update_of_ne hu _ _)
  | overflow => exact .inl rfl
  | @evict v sv hM hfull hb hv holdest =>
    rw [Function.update_of_ne hu]
    by_cases huv : u = v
    · subst huv
      exact .inr ⟨Function.update_self _ _ _, hM, hfull, hb, sv, hv, holdest⟩
    · exact .inl (Function.update_of_ne huv _ _)

theorem Pop.other {M M' : PendingMap} {task g u : UInt64} {out : UInt64 × UInt32}
    (h : Pop M task g out M') (hu : u ≠ task) : M' u = M u := by
  cases h with
  | miss => rfl
  | fresh | stale => exact Function.update_of_ne hu _ _

end PendingMap
end Drmid
