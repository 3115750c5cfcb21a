import Drmid.Hook.PendingStack

/-!
# The pending table refines bounded per-thread stacks

`pushTable` is what a push does to the slots when the lock was taken (`emitPendingPush_pending`).
The scan of a bucket is described once (`pushTarget_ok`): it finds the thread's slot, or the first
free way, or the way whose top frame is oldest. From that description each operation is one
operation of the abstract map (`pushTable_refines`, `emitPendingPop_refines`) and keeps
`PendingInv`.
-/

namespace Drmid

open Lib

/-! ## Buckets and keys -/

theorem pendingBucket_val (task : UInt64) :
    (pendingBucket task).val = (task >>> 6 &&& 31).toNat := by
  have h : (task >>> 6 &&& 31).toNat < 32 := by
    have : (task >>> 6 &&& 31).toNat ≤ 31 := by
      rw [UInt64.toNat_and]
      exact Nat.and_le_right
    omega
  simp only [pendingBucket, Fin.ofNat]
  exact Nat.mod_eq_of_lt h

theorem slotAt_inj {b b' : Fin 32} {w w' : Fin 8} (h : slotAt b w = slotAt b' w') :
    b = b' ∧ w = w' := by
  simp only [slotAt, Fin.mk.injEq] at h
  constructor <;> apply Fin.ext <;> omega

theorem slotAt_div (b : Fin 32) (w : Fin 8) : (slotAt b w).val / 8 = b.val := by
  simp only [slotAt]
  omega

/-- Every slot is a way of the bucket its index divides to. -/
theorem exists_slotAt (i : Fin 256) {b : Fin 32} (h : i.val / 8 = b.val) :
    ∃ w, i = slotAt b w :=
  ⟨⟨i.val % 8, Nat.mod_lt _ (by decide)⟩, by apply Fin.ext; simp only [slotAt]; omega⟩

theorem key_eq_some {slot : BinderPendingSlot} {task : UInt64} :
    pendingTable.key slot = some task ↔ slot.taskKaddr = task ∧ task ≠ 0 := by
  simp only [pendingTable]
  split
  · rename_i h
    simp only [reduceCtorEq, false_iff, not_and, not_not]
    intro h'
    rw [← h', h]
  · rename_i h
    simp only [Option.some.injEq]
    exact ⟨fun h' => ⟨h', h' ▸ h⟩, fun h' => h'.1⟩

theorem key_eq_none {slot : BinderPendingSlot} :
    pendingTable.key slot = none ↔ slot.taskKaddr = 0 := by
  simp [pendingTable]

theorem mem_home {i : Fin 256} {task : UInt64} :
    i ∈ pendingTable.home task ↔ ∃ w, i = slotAt (pendingBucket task) w := by
  simp only [pendingTable, List.mem_map, List.mem_finRange, true_and]
  exact ⟨fun ⟨w, h⟩ => ⟨w, h.symm⟩, fun ⟨w, h⟩ => ⟨w, h.symm⟩⟩

section
variable {T : Fin 256 → BinderPendingSlot} {task : UInt64}

theorem PendingInv.wellPlaced (h : PendingInv T) : pendingTable.WellPlaced T where
  home := by
    intro i k hk
    obtain ⟨rfl, hne⟩ := key_eq_some.1 hk
    refine mem_home.2 (exists_slotAt i ?_)
    rw [h.bucket i hne, pendingBucket_val]
  unique := by
    intro i j k hi hj
    obtain ⟨rfl, hne⟩ := key_eq_some.1 hi
    exact h.unique i j hne (key_eq_some.1 hj).1.symm

/-- The invariant from its set-associative part and the depth bounds. -/
theorem PendingInv.of_wellPlaced (h : pendingTable.WellPlaced T)
    (hd : ∀ i, (T i).taskKaddr ≠ 0 → 1 ≤ (T i).depth.toNat ∧ (T i).depth.toNat ≤ 4) :
    PendingInv T where
  bucket := by
    intro i hi
    obtain ⟨w, hw⟩ := mem_home.1 (h.home (key_eq_some.2 ⟨rfl, hi⟩))
    rw [hw, slotAt_div, pendingBucket_val, ← hw]
  unique := fun i j hi hij => h.unique (key_eq_some.2 ⟨rfl, hi⟩) (key_eq_some.2 ⟨hij.symm, hi⟩)
  depth_pos := fun i hi => (hd i hi).1
  depth_le := fun i hi => (hd i hi).2

theorem emptyPending_inv : PendingInv emptyPending :=
  ⟨fun _ h => absurd rfl h, fun _ _ h => absurd rfl h, fun _ h => absurd rfl h,
    fun _ h => absurd rfl h⟩

/-- The pop scan is the table lookup. -/
theorem popScan_position (htask : task ≠ 0) :
    (popScan T task).map (slotAt (pendingBucket task)) = pendingTable.position T task := by
  unfold popScan SetAssoc.position
  simp only [pendingTable, List.find?_map]
  congr 1
  congr 1
  funext w
  simp only [Function.comp_apply]
  split
  · rename_i h
    rw [h, beq_false_of_ne (Ne.symm htask)]
    rfl
  · simp

end

/-! ## Frames of a slot -/

namespace BinderPendingSlot

variable {slot : BinderPendingSlot}

theorem frameList_length (h : slot.depth.toNat ≤ 4) :
    slot.frameList.length = slot.depth.toNat := by
  simp [frameList, h]

theorem frameList_ne_nil (h1 : 1 ≤ slot.depth.toNat) : slot.frameList ≠ [] := by
  intro h
  have := congrArg List.length h
  simp [frameList] at this
  omega

theorem toNat_depth_add_one (h : slot.depth.toNat < 4) :
    (slot.depth + 1).toNat = slot.depth.toNat + 1 := by
  rw [UInt32.toNat_add, UInt32.toNat_one]
  omega

theorem toNat_depth_sub_one (h : 1 ≤ slot.depth.toNat) :
    (slot.depth - 1).toNat = slot.depth.toNat - 1 := by
  rw [UInt32.toNat_sub_of_le _ _ (UInt32.le_iff_toNat_le.2 (by simpa using h)), UInt32.toNat_one]

theorem depth_ne_zero (h : 1 ≤ slot.depth.toNat) : slot.depth ≠ 0 := by
  intro h0
  rw [h0] at h
  simp at h

/-- A pushed frame is appended to the live frames. -/
theorem frameList_pushFrame (f : BinderPendingFrame) (h : slot.depth.toNat < 4) :
    (slot.pushFrame f).frameList = slot.frameList ++ [f] := by
  have hlen : slot.depth.toNat < slot.frames.toList.length := by simpa using h
  simp only [frameList, pushFrame, toNat_depth_add_one h, Vector.toList_setIfInBounds]
  rw [List.take_add_one, List.take_set_of_le (Nat.le_refl _), List.getElem?_set_self hlen]
  rfl

/-- The claimed slot has no live frame. -/
theorem frameList_claim (t : TaskIdentity) : (slot.claim t).frameList = [] := by
  simp [frameList, claim]

theorem frameList_popFrame (h1 : 1 ≤ slot.depth.toNat) (h4 : slot.depth.toNat ≤ 4) :
    slot.popFrame.frameList = slot.frameList.dropLast := by
  simp only [frameList, popFrame, toNat_depth_sub_one h1]
  rw [List.dropLast_eq_take, List.take_take, List.length_take, Vector.length_toList]
  congr 1
  omega

/-- The frame a pop reads is the last live one. -/
theorem frame_top (h1 : 1 ≤ slot.depth.toNat) (h4 : slot.depth.toNat ≤ 4) :
    slot.frame (slot.depth - 1) = slot.frameList.getLast (frameList_ne_nil h1) := by
  have hlt : slot.depth.toNat - 1 < 4 := by omega
  have hlen : slot.frameList.length - 1 = slot.depth.toNat - 1 := by rw [frameList_length h4]
  rw [List.getLast_eq_getElem]
  simp only [frame, toNat_depth_sub_one h1, hlen]
  rw [Vector.getElem?_eq_getElem hlt, Option.getD_some]
  simp [frameList]

theorem stack_eq (h : slot.frameList ≠ []) :
    ∃ st, slot.stack = some st ∧ st.pid = slot.pid ∧ st.tgid = slot.tgid ∧
      st.frames = slot.frameList := by
  exact ⟨_, dif_pos h, rfl, rfl, rfl⟩

theorem stack_frames {st : PendingStack} (h : slot.stack = some st) :
    st.pid = slot.pid ∧ st.tgid = slot.tgid ∧ st.frames = slot.frameList := by
  by_cases hne : slot.frameList ≠ []
  · obtain ⟨st', hst, h1, h2, h3⟩ := stack_eq hne
    rw [hst, Option.some.injEq] at h
    exact h ▸ ⟨h1, h2, h3⟩
  · rw [stack, dif_neg hne] at h
    cases h

/-- A slot's stack is determined by its identity and live frames. -/
theorem stack_of_frames {st : PendingStack} (hp : slot.pid = st.pid) (ht : slot.tgid = st.tgid)
    (hf : slot.frameList = st.frames) : slot.stack = some st := by
  obtain ⟨st', hst, h1, h2, h3⟩ := stack_eq (hf ▸ st.nonempty : slot.frameList ≠ [])
  rw [hst]
  congr 1
  exact PendingStack.ext (h1.trans hp) (h2.trans ht) (h3.trans hf)

theorem topEventId_eq (h1 : 1 ≤ slot.depth.toNat) (h4 : slot.depth.toNat ≤ 4) :
    slot.topEventId = (slot.frameList.getLast (frameList_ne_nil h1)).requestEventId := by
  rw [topEventId, if_neg (depth_ne_zero h1), frame_top h1 h4]

end BinderPendingSlot

/-! ## The scan of a bucket -/

section
variable {bucket : Fin 8 → BinderPendingSlot} {t : TaskIdentity}

/-- What the scan's registers say of the ways in `seen`. -/
structure ScanInv (bucket : Fin 8 → BinderPendingSlot) (t : TaskIdentity) (seen : List (Fin 8))
    (acc : PushScan) : Prop where
  notSelf : ∀ w ∈ seen, (bucket w).taskKaddr ≠ t.kaddr
  emptySome : ∀ w, acc.firstEmpty = some w → (bucket w).taskKaddr = 0
  emptyNone : acc.firstEmpty = none → ∀ w ∈ seen, (bucket w).taskKaddr ≠ 0
  oldestSome : ∀ w, acc.oldest = some w → (bucket w).taskKaddr ≠ 0 ∧ w ∈ seen ∧
    acc.oldestId = (bucket w).topEventId ∧
    ∀ w' ∈ seen, (bucket w').taskKaddr ≠ 0 → (bucket w).topEventId ≤ (bucket w').topEventId
  oldestNone : acc.oldest = none → ∀ w ∈ seen, (bucket w).taskKaddr = 0

/-- What a target says of the bucket it was chosen in. -/
def TargetOk (bucket : Fin 8 → BinderPendingSlot) (t : TaskIdentity) (ways : List (Fin 8)) :
    PushTarget → Prop
  | .found w => (bucket w).taskKaddr = t.kaddr ∧ (bucket w).pid = t.pid ∧ (bucket w).tgid = t.tgid
  | .reclaimIdentity w =>
    (bucket w).taskKaddr = t.kaddr ∧ ¬((bucket w).pid = t.pid ∧ (bucket w).tgid = t.tgid)
  | .useEmpty w => (bucket w).taskKaddr = 0 ∧ ∀ w' ∈ ways, (bucket w').taskKaddr ≠ t.kaddr
  | .evict w => ∀ w' ∈ ways, (bucket w').taskKaddr ≠ t.kaddr ∧ (bucket w').taskKaddr ≠ 0 ∧
    (bucket w).topEventId ≤ (bucket w').topEventId

theorem ScanInv.rememberEmpty {seen : List (Fin 8)} {acc : PushScan} {w : Fin 8}
    (h : ScanInv bucket t seen acc) (ht : t.kaddr ≠ 0) (hw : (bucket w).taskKaddr = 0) :
    ScanInv bucket t (seen ++ [w]) (acc.rememberEmpty w) where
  notSelf := by
    intro w' hw'
    rcases List.mem_append.1 hw' with hw' | hw'
    · exact h.notSelf w' hw'
    · rw [List.mem_singleton.1 hw', hw]
      exact ht.symm
  emptySome := by
    intro w' hw'
    cases he : acc.firstEmpty with
    | none =>
      simp only [PushScan.rememberEmpty, he, Option.none_or, Option.some.injEq] at hw'
      exact hw' ▸ hw
    | some v =>
      simp only [PushScan.rememberEmpty, he, Option.some_or, Option.some.injEq] at hw'
      exact hw' ▸ h.emptySome v he
  emptyNone := by
    intro hn
    cases he : acc.firstEmpty <;> simp [PushScan.rememberEmpty, he] at hn
  oldestSome := by
    intro w' hw'
    obtain ⟨h1, h2, h3, h4⟩ := h.oldestSome w' hw'
    refine ⟨h1, List.mem_append_left _ h2, h3, fun v hv hne => ?_⟩
    rcases List.mem_append.1 hv with hv | hv
    · exact h4 v hv hne
    · rw [List.mem_singleton.1 hv] at hne
      exact absurd hw hne
  oldestNone := by
    intro hn w' hw'
    rcases List.mem_append.1 hw' with hw' | hw'
    · exact h.oldestNone hn w' hw'
    · rw [List.mem_singleton.1 hw']
      exact hw

theorem ScanInv.considerOldest {seen : List (Fin 8)} {acc : PushScan} {w : Fin 8}
    (h : ScanInv bucket t seen acc) (hw : (bucket w).taskKaddr ≠ 0)
    (hne : (bucket w).taskKaddr ≠ t.kaddr) :
    ScanInv bucket t (seen ++ [w]) (acc.considerOldest w (bucket w)) := by
  have hempty : (acc.considerOldest w (bucket w)).firstEmpty = acc.firstEmpty := by
    unfold PushScan.considerOldest
    split <;> rfl
  refine ⟨?_, ?_, ?_, ?_, ?_⟩
  · intro w' hw'
    rcases List.mem_append.1 hw' with hw' | hw'
    · exact h.notSelf w' hw'
    · rw [List.mem_singleton.1 hw']
      exact hne
  · intro w' hw'
    exact h.emptySome w' (hempty ▸ hw')
  · intro hn w' hw'
    rcases List.mem_append.1 hw' with hw' | hw'
    · exact h.emptyNone (hempty ▸ hn) w' hw'
    · rw [List.mem_singleton.1 hw']
      exact hw
  · intro w' hw'
    unfold PushScan.considerOldest at hw' ⊢
    split at hw'
    · -- the new way is taken: it has no frame, it is the first, or it is older
      rename_i hc
      simp only [Option.some.injEq] at hw'
      subst hw'
      rw [if_pos hc]
      refine ⟨hw, by simp, rfl, fun v hv hvne => ?_⟩
      rcases List.mem_append.1 hv with hv | hv
      · rcases hc with hd | hn | hlt
        · rw [BinderPendingSlot.topEventId, if_pos hd]
          exact UInt64.zero_le
        · exact absurd (h.oldestNone hn v hv) hvne
        · cases ho : acc.oldest with
          | none => exact absurd (h.oldestNone ho v hv) hvne
          | some o =>
            obtain ⟨-, -, hid, hmin⟩ := h.oldestSome o ho
            rw [hid] at hlt
            exact UInt64.le_trans (UInt64.le_of_lt hlt) (hmin v hv hvne)
      · rw [List.mem_singleton.1 hv]
        exact UInt64.le_refl _
    · rename_i hc
      rw [if_neg hc]
      obtain ⟨h1, h2, h3, h4⟩ := h.oldestSome w' hw'
      refine ⟨h1, List.mem_append_left _ h2, h3, fun v hv hvne => ?_⟩
      rcases List.mem_append.1 hv with hv | hv
      · exact h4 v hv hvne
      · rw [List.mem_singleton.1 hv, ← h3]
        exact UInt64.not_lt.1 fun hlt => hc (.inr (.inr hlt))
  · intro hn
    unfold PushScan.considerOldest at hn
    split at hn
    · cases hn
    · rename_i hc
      exact absurd (.inr (.inl hn)) hc

/-- The scan, by induction on the ways still to visit. -/
theorem pushScan_ok (ht : t.kaddr ≠ 0) : ∀ (ws seen : List (Fin 8)) (acc : PushScan),
    ScanInv bucket t seen acc → seen ++ ws ≠ [] →
    TargetOk bucket t (seen ++ ws) (pushScan bucket t ws acc)
  | [], seen, acc, h, hne => by
    rw [List.append_nil] at hne ⊢
    unfold pushScan
    split
    · rename_i w hw
      exact ⟨h.emptySome w hw, h.notSelf⟩
    · rename_i hn
      -- no free way: some way was seen, so an oldest one is known
      obtain ⟨v, hv⟩ := List.exists_mem_of_ne_nil seen hne
      cases ho : acc.oldest with
      | none => exact absurd (h.oldestNone ho v hv) (h.emptyNone hn v hv)
      | some w =>
        obtain ⟨-, -, -, hmin⟩ := h.oldestSome w ho
        intro w' hw'
        exact ⟨h.notSelf w' hw', h.emptyNone hn w' hw', hmin w' hw' (h.emptyNone hn w' hw')⟩
  | w :: ws, seen, acc, h, _ => by
    have happ : seen ++ w :: ws = (seen ++ [w]) ++ ws := by simp
    unfold pushScan
    split
    · rename_i h0
      rw [happ]
      exact pushScan_ok ht ws _ _ (h.rememberEmpty ht h0) (by simp)
    · rename_i h0
      split
      · rename_i hself
        split
        · rename_i hid
          exact ⟨hself, hid⟩
        · rename_i hid
          exact ⟨hself, hid⟩
      · rename_i hself
        rw [happ]
        exact pushScan_ok ht ws _ _ (h.considerOldest h0 hself) (by simp)

/-- **The push scan**: the thread's own slot when there is one, else the first free way, else a way
whose top frame is oldest. -/
theorem pushTarget_ok {T : Fin 256 → BinderPendingSlot} (ht : t.kaddr ≠ 0) :
    TargetOk (fun w => T (slotAt (pendingBucket t.kaddr) w)) t (List.finRange 8)
      (pushTarget T t) := by
  refine pushScan_ok ht (List.finRange 8) [] _ ⟨?_, ?_, ?_, ?_, ?_⟩ (by simp) <;> simp

end

/-! ## The map under a slot update -/

section
variable {T : Fin 256 → BinderPendingSlot} {i : Fin 256} {x : BinderPendingSlot} {k : UInt64}

theorem pendingMap_of_key (hI : PendingInv T) (h : pendingTable.key (T i) = some k) :
    pendingMap T k = (T i).stack := by
  rw [pendingMap, hI.wellPlaced.lookup_eq h, Option.bind_some]

/-- A stack in the map sits in some slot. -/
theorem pendingMap_eq_some {st : PendingStack} (hI : PendingInv T) (h : pendingMap T k = some st) :
    ∃ i, pendingTable.key (T i) = some k ∧ (T i).stack = some st := by
  simp only [pendingMap, Option.bind_eq_some_iff] at h
  obtain ⟨slot, hl, hst⟩ := h
  obtain ⟨i, rfl, hk⟩ := hI.wellPlaced.lookup_eq_some.1 hl
  exact ⟨i, hk, hst⟩

/-- An occupied slot's stack is never empty. -/
theorem PendingInv.stack (hI : PendingInv T) (h : (T i).taskKaddr ≠ 0) :
    ∃ st, (T i).stack = some st ∧ st.pid = (T i).pid ∧ st.tgid = (T i).tgid ∧
      st.frames = (T i).frameList :=
  BinderPendingSlot.stack_eq (BinderPendingSlot.frameList_ne_nil (hI.depth_pos i h))

theorem pendingMap_eq_none (hI : PendingInv T) :
    pendingMap T k = none ↔ ∀ i, pendingTable.key (T i) ≠ some k := by
  constructor
  · intro h i hk
    obtain ⟨st, hst, -⟩ := hI.stack (key_eq_some.1 hk |>.1 ▸ (key_eq_some.1 hk).2)
    rw [pendingMap_of_key hI hk, hst] at h
    cases h
  · intro h
    rw [pendingMap, SetAssoc.lookup_eq_none h, Option.bind_none]

theorem pendingMap_empty : pendingMap emptyPending = fun _ => none := by
  funext task
  refine (pendingMap_eq_none emptyPending_inv).2 fun i hk => ?_
  exact (key_eq_some.1 hk).2 (key_eq_some.1 hk).1.symm

/-- A slot handed to `k`, which held that slot or none. -/
theorem pendingMap_set (hT : pendingTable.WellPlaced T)
    (hU : pendingTable.WellPlaced (Function.update T i x)) (hx : pendingTable.key x = some k)
    (hold : ∀ v, pendingTable.key (T i) = some v → v = k) :
    pendingMap (Function.update T i x) = Function.update (pendingMap T) k x.stack := by
  funext u
  by_cases hu : u = k
  · subst hu
    rw [Function.update_self, pendingMap, SetAssoc.lookup_set_eq hU hx, Option.bind_some]
  · rw [Function.update_of_ne hu, pendingMap, pendingMap,
      SetAssoc.lookup_set_other hT hU (fun h => hu (hold u h)) ?_]
    rw [hx]
    exact fun h => hu (Option.some.inj h).symm

/-- A slot taken from `v` and handed to `k`. -/
theorem pendingMap_take {v : UInt64} (hT : pendingTable.WellPlaced T)
    (hU : pendingTable.WellPlaced (Function.update T i x)) (hx : pendingTable.key x = some k)
    (hold : pendingTable.key (T i) = some v) (hvk : v ≠ k) :
    pendingMap (Function.update T i x) =
      Function.update (Function.update (pendingMap T) v none) k x.stack := by
  funext u
  by_cases hu : u = k
  · subst hu
    rw [Function.update_self, pendingMap, SetAssoc.lookup_set_eq hU hx, Option.bind_some]
  have hxu : pendingTable.key x ≠ some u := by
    rw [hx]
    exact fun h => hu (Option.some.inj h).symm
  rw [Function.update_of_ne hu]
  by_cases huv : u = v
  · subst huv
    rw [Function.update_self, pendingMap, SetAssoc.lookup_set_lost hT hold hxu, Option.bind_none]
  · rw [Function.update_of_ne huv, pendingMap, pendingMap,
      SetAssoc.lookup_set_other hT hU ?_ hxu]
    rw [hold]
    exact fun h => huv (Option.some.inj h).symm

/-- A slot freed. -/
theorem pendingMap_clear (hT : pendingTable.WellPlaced T) (hx : pendingTable.key x = none)
    (hold : pendingTable.key (T i) = some k) :
    pendingMap (Function.update T i x) = Function.update (pendingMap T) k none := by
  have hxu : ∀ u, pendingTable.key x ≠ some u := by simp [hx]
  funext u
  by_cases hu : u = k
  · subst hu
    rw [Function.update_self, pendingMap, SetAssoc.lookup_set_lost hT hold (hxu u),
      Option.bind_none]
  · rw [Function.update_of_ne hu, pendingMap, pendingMap,
      SetAssoc.lookup_set_other hT (hT.clear hx) ?_ (hxu u)]
    rw [hold]
    exact fun h => hu (Option.some.inj h).symm

/-- The tasks that hold a stack in bucket `b` are the task pointers of its occupied ways. -/
theorem holders_eq (hI : PendingInv T) (b : Fin 32) :
    (pendingMap T).holders b =
      (fun w => (T (slotAt b w)).taskKaddr) '' {w | (T (slotAt b w)).taskKaddr ≠ 0} := by
  ext u
  simp only [PendingMap.holders, Set.mem_ofPred_eq, Set.mem_image]
  constructor
  · rintro ⟨rfl, hM⟩
    obtain ⟨st, hst⟩ := Option.ne_none_iff_exists'.1 hM
    obtain ⟨j, hk, -⟩ := pendingMap_eq_some hI hst
    obtain ⟨w, rfl⟩ := mem_home.1 (hI.wellPlaced.home hk)
    obtain ⟨h1, h2⟩ := key_eq_some.1 hk
    exact ⟨w, by rw [h1]; exact h2, h1⟩
  · rintro ⟨w, hne, rfl⟩
    have hk : pendingTable.key (T (slotAt b w)) = some (T (slotAt b w)).taskKaddr :=
      key_eq_some.2 ⟨rfl, hne⟩
    refine ⟨?_, fun hnone => (pendingMap_eq_none hI).1 hnone _ hk⟩
    obtain ⟨w', hw'⟩ := mem_home.1 (hI.wellPlaced.home hk)
    exact (slotAt_inj hw').1.symm

theorem taskKaddr_injOn (hI : PendingInv T) (b : Fin 32) :
    Set.InjOn (fun w => (T (slotAt b w)).taskKaddr) {w | (T (slotAt b w)).taskKaddr ≠ 0} :=
  fun _ hw _ _ h => (slotAt_inj (hI.unique _ _ hw h)).2

/-- A bucket with a free way has fewer than eight holders. -/
theorem holders_lt {b : Fin 32} {w : Fin 8} (hI : PendingInv T)
    (hw : (T (slotAt b w)).taskKaddr = 0) : ((pendingMap T).holders b).ncard < 8 := by
  rw [holders_eq hI, Set.InjOn.ncard_image (taskKaddr_injOn hI b)]
  have hlt : {w | (T (slotAt b w)).taskKaddr ≠ 0}.ncard < (Set.univ : Set (Fin 8)).ncard := by
    refine Set.ncard_lt_ncard (Set.ssubset_univ_iff.2 fun h => ?_)
    have : w ∈ {w | (T (slotAt b w)).taskKaddr ≠ 0} := h ▸ Set.mem_univ w
    exact this hw
  simpa [Set.ncard_univ] using hlt

/-- A bucket without a free way has eight holders. -/
theorem holders_full {b : Fin 32} (hI : PendingInv T)
    (h : ∀ w, (T (slotAt b w)).taskKaddr ≠ 0) : ((pendingMap T).holders b).ncard = 8 := by
  rw [holders_eq hI, Set.InjOn.ncard_image (taskKaddr_injOn hI b)]
  have : {w | (T (slotAt b w)).taskKaddr ≠ 0} = Set.univ := Set.eq_univ_of_forall h
  rw [this]
  simp [Set.ncard_univ]

end

/-! ## One push, one pop -/

/-- The table after a push that took the lock. -/
def pushTable (T : Fin 256 → BinderPendingSlot) (t : TaskIdentity) (f : BinderPendingFrame) :
    Fin 256 → BinderPendingSlot :=
  let i := slotAt (pendingBucket t.kaddr) (pushTarget T t).way
  let slot := (pushTarget T t).opened (T i) t
  Function.update T i (if kPendingDepth ≤ slot.depth then slot else slot.pushFrame f)

theorem emitPendingPush_pending (t : TaskIdentity) (acquired : Bool) (id : UInt64)
    (s : ParserScratch) (ctx : KernelCounterContext) :
    (emitPendingPush t acquired id s ctx).2.pending =
      if s.transaction.oneWay || !acquired then ctx.pending
      else pushTable ctx.pending t (pendingFrameOf id ctx.activeHalGeneration s) := by
  unfold emitPendingPush pushTable
  cases s.transaction.oneWay <;> cases acquired <;> simp only [Bool.or_true, Bool.or_false,
    Bool.not_true, Bool.not_false, Bool.false_eq_true, if_true, if_false,
    KernelCounterContext.increment_pending]
  cases (pushTarget ctx.pending t).collides <;> simp only [Bool.false_eq_true, if_true,
    if_false] <;> split <;> rfl

section
variable {T : Fin 256 → BinderPendingSlot} {t : TaskIdentity} {f : BinderPendingFrame}

theorem depth_lt_of_not_le {d : UInt32} (h : ¬kPendingDepth ≤ d) : d.toNat < 4 := by
  rw [UInt32.not_le, UInt32.lt_iff_toNat_lt] at h
  exact h

/-- A table stays well formed when slot `i` is handed, with one to four frames, to a thread that
holds no other slot and has `i` in its bucket. -/
theorem PendingInv.set {i : Fin 256} {x : BinderPendingSlot} {k : UInt64} (hI : PendingInv T)
    (hx : pendingTable.key x = some k) (hi : i ∈ pendingTable.home k)
    (hfree : ∀ j, pendingTable.key (T j) = some k → j = i) (h1 : 1 ≤ x.depth.toNat)
    (h4 : x.depth.toNat ≤ 4) : PendingInv (Function.update T i x) := by
  refine .of_wellPlaced (hI.wellPlaced.set hx hi hfree) fun j hj => ?_
  by_cases hji : j = i
  · subst hji
    rw [Function.update_self]
    exact ⟨h1, h4⟩
  · rw [Function.update_of_ne hji] at hj ⊢
    exact ⟨hI.depth_pos j hj, hI.depth_le j hj⟩

/-- The slot a claim and one push leave. -/
theorem claim_pushFrame (slot : BinderPendingSlot) (ht : t.kaddr ≠ 0) :
    pendingTable.key ((slot.claim t).pushFrame f) = some t.kaddr ∧
      ((slot.claim t).pushFrame f).depth.toNat = 1 ∧
      ((slot.claim t).pushFrame f).stack = some (.single t f) := by
  have hd : (slot.claim t).depth.toNat < 4 := by simp [BinderPendingSlot.claim]
  refine ⟨key_eq_some.2 ⟨rfl, ht⟩, ?_, ?_⟩
  · simp [BinderPendingSlot.pushFrame, BinderPendingSlot.claim]
  · apply BinderPendingSlot.stack_of_frames rfl rfl
    rw [BinderPendingSlot.frameList_pushFrame f hd, BinderPendingSlot.frameList_claim]
    rfl

theorem claim_not_full (slot : BinderPendingSlot) : ¬kPendingDepth ≤ (slot.claim t).depth := by
  simp only [BinderPendingSlot.claim]
  decide

theorem pushTable_found {w : Fin 8} (h : pushTarget T t = .found w) :
    pushTable T t f = Function.update T (slotAt (pendingBucket t.kaddr) w)
      (if kPendingDepth ≤ (T (slotAt (pendingBucket t.kaddr) w)).depth then
        T (slotAt (pendingBucket t.kaddr) w)
      else (T (slotAt (pendingBucket t.kaddr) w)).pushFrame f) := by
  unfold pushTable
  rw [h]
  rfl

/-- A slot that is not the thread's own is claimed, so the frame always fits. -/
theorem pushTable_claim {w : Fin 8}
    (h : pushTarget T t = .reclaimIdentity w ∨ pushTarget T t = .useEmpty w ∨
      pushTarget T t = .evict w) :
    pushTable T t f = Function.update T (slotAt (pendingBucket t.kaddr) w)
      (((T (slotAt (pendingBucket t.kaddr) w)).claim t).pushFrame f) := by
  unfold pushTable
  rcases h with h | h | h <;> rw [h] <;>
    exact congrArg (Function.update T (slotAt (pendingBucket t.kaddr) w))
      (if_neg (claim_not_full _))

theorem slotAt_mem_home (task : UInt64) (w : Fin 8) :
    slotAt (pendingBucket task) w ∈ pendingTable.home task := mem_home.2 ⟨w, rfl⟩

/-- A thread whose pointer is in no way of its bucket has no slot at all. -/
theorem PendingInv.no_slot (hI : PendingInv T)
    (h : ∀ w ∈ List.finRange 8, (T (slotAt (pendingBucket t.kaddr) w)).taskKaddr ≠ t.kaddr)
    (j : Fin 256) : pendingTable.key (T j) ≠ some t.kaddr := by
  intro hj
  obtain ⟨w, rfl⟩ := mem_home.1 (hI.wellPlaced.home hj)
  exact h w (List.mem_finRange w) (key_eq_some.1 hj).1

/-- A push into the thread's own slot. -/
theorem pushFound_refines {w : Fin 8} (hI : PendingInv T) (ht : t.kaddr ≠ 0)
    (htgt : pushTarget T t = .found w)
    (hok : TargetOk (fun w => T (slotAt (pendingBucket t.kaddr) w)) t (List.finRange 8) (.found w)) :
    PendingInv (pushTable T t f) ∧
      PendingMap.Push (pendingMap T) t f (pendingMap (pushTable T t f)) := by
  simp only [TargetOk] at hok
  obtain ⟨hself, hpid, htgid⟩ := hok
  rw [pushTable_found htgt]
  have hhome := slotAt_mem_home t.kaddr w
  generalize slotAt (pendingBucket t.kaddr) w = i at hself hpid htgid hhome ⊢
  have hk : pendingTable.key (T i) = some t.kaddr := key_eq_some.2 ⟨hself, ht⟩
  have hocc : (T i).taskKaddr ≠ 0 := by rw [hself]; exact ht
  obtain ⟨st, hst, hsp, hstg, hsf⟩ := hI.stack hocc
  have hM : pendingMap T t.kaddr = some st := by rw [pendingMap_of_key hI hk, hst]
  have ho : st.Owner t := ⟨hsp.trans hpid, hstg.trans htgid⟩
  have hlen : st.frames.length = (T i).depth.toNat := by
    rw [hsf, BinderPendingSlot.frameList_length (hI.depth_le i hocc)]
  split
  · rename_i hfull
    rw [Function.update_eq_self]
    refine ⟨hI, .overflow hM ho ?_⟩
    have h4 := hI.depth_le i hocc
    have : 4 ≤ (T i).depth.toNat := UInt32.le_iff_toNat_le.1 hfull
    omega
  · rename_i hfull
    have hlt := depth_lt_of_not_le hfull
    have hd : ((T i).pushFrame f).depth.toNat = (T i).depth.toNat + 1 :=
      BinderPendingSlot.toNat_depth_add_one hlt
    have hU := hI.set (x := (T i).pushFrame f) hk hhome
      (fun j hj => hI.wellPlaced.unique hj hk) (by omega) (by omega)
    refine ⟨hU, ?_⟩
    rw [pendingMap_set hI.wellPlaced hU.wellPlaced (k := t.kaddr) hk
      (fun v hv => by rw [hk] at hv; exact (Option.some.inj hv).symm)]
    have hstack : ((T i).pushFrame f).stack = some (st.push f (by omega)) := by
      refine BinderPendingSlot.stack_of_frames hsp.symm hstg.symm ?_
      rw [BinderPendingSlot.frameList_pushFrame f hlt, ← hsf]
      rfl
    rw [hstack]
    exact .append hM ho _

/-- A push into a slot taken from another thread, the oldest of a full bucket. -/
theorem pushEvict_refines {w : Fin 8} (hI : PendingInv T) (ht : t.kaddr ≠ 0)
    (htgt : pushTarget T t = .evict w)
    (hok : TargetOk (fun w => T (slotAt (pendingBucket t.kaddr) w)) t (List.finRange 8) (.evict w)) :
    PendingInv (pushTable T t f) ∧
      PendingMap.Push (pendingMap T) t f (pendingMap (pushTable T t f)) := by
  simp only [TargetOk] at hok
  have hnone := hI.no_slot fun w' hw' => (hok w' hw').1
  obtain ⟨hne, hocc, -⟩ := hok w (List.mem_finRange w)
  rw [pushTable_claim (.inr (.inr htgt))]
  have hhome := slotAt_mem_home t.kaddr w
  generalize hi : slotAt (pendingBucket t.kaddr) w = i at hne hocc hhome ⊢
  have hk : pendingTable.key (T i) = some (T i).taskKaddr := key_eq_some.2 ⟨rfl, hocc⟩
  obtain ⟨sv, hsv, -, -, hsf⟩ := hI.stack hocc
  have hMv : pendingMap T (T i).taskKaddr = some sv := by rw [pendingMap_of_key hI hk, hsv]
  obtain ⟨hx, hd, hstack⟩ := claim_pushFrame (f := f) (T i) ht
  have hU := hI.set hx hhome (fun j hj => absurd hj (hnone j)) (by omega) (by omega)
  have hb : pendingBucket (T i).taskKaddr = pendingBucket t.kaddr := by
    obtain ⟨w', hw'⟩ := mem_home.1 (hI.wellPlaced.home hk)
    exact (slotAt_inj (hw'.symm.trans hi.symm)).1
  refine ⟨hU, ?_⟩
  rw [pendingMap_take hI.wellPlaced hU.wellPlaced hx hk hne, hstack]
  refine .evict ((pendingMap_eq_none hI).2 hnone)
    (holders_full hI fun w' => (hok w' (List.mem_finRange w')).2.1) hb hMv ?_
  intro u su hub hMu
  obtain ⟨j, hjk, hjs⟩ := pendingMap_eq_some hI hMu
  obtain ⟨hju, hu0⟩ := key_eq_some.1 hjk
  have hjocc : (T j).taskKaddr ≠ 0 := by rw [hju]; exact hu0
  obtain ⟨w', hw'⟩ := mem_home.1 (hI.wellPlaced.home hjk)
  rw [hub] at hw'
  have hle : (T (slotAt (pendingBucket t.kaddr) w)).topEventId ≤
      (T (slotAt (pendingBucket t.kaddr) w')).topEventId := (hok w' (List.mem_finRange w')).2.2
  rw [← hw', hi, BinderPendingSlot.topEventId_eq (hI.depth_pos i hocc) (hI.depth_le i hocc),
    BinderPendingSlot.topEventId_eq (hI.depth_pos j hjocc) (hI.depth_le j hjocc)] at hle
  simp only [PendingStack.top, hsf, (BinderPendingSlot.stack_frames hjs).2.2]
  exact hle

/-- **A push refines the abstract push.** -/
theorem pushTable_refines (hI : PendingInv T) (ht : t.kaddr ≠ 0) :
    PendingInv (pushTable T t f) ∧
      PendingMap.Push (pendingMap T) t f (pendingMap (pushTable T t f)) := by
  have hok := pushTarget_ok (T := T) ht
  cases htgt : pushTarget T t with
  | found w =>
    rw [htgt] at hok
    exact pushFound_refines hI ht htgt hok
  | evict w =>
    rw [htgt] at hok
    exact pushEvict_refines hI ht htgt hok
  | reclaimIdentity w =>
    simp only [htgt, TargetOk] at hok
    obtain ⟨hself, hid⟩ := hok
    rw [pushTable_claim (.inl htgt)]
    have hhome := slotAt_mem_home t.kaddr w
    generalize slotAt (pendingBucket t.kaddr) w = i at hself hid hhome ⊢
    have hk : pendingTable.key (T i) = some t.kaddr := key_eq_some.2 ⟨hself, ht⟩
    obtain ⟨st, hst, hsp, hstg, -⟩ := hI.stack (i := i) (by rw [hself]; exact ht)
    have hM : pendingMap T t.kaddr = some st := by rw [pendingMap_of_key hI hk, hst]
    obtain ⟨hx, hd, hstack⟩ := claim_pushFrame (f := f) (T i) ht
    have hU := hI.set hx hhome (fun j hj => hI.wellPlaced.unique hj hk) (by omega) (by omega)
    refine ⟨hU, ?_⟩
    rw [pendingMap_set hI.wellPlaced hU.wellPlaced hx
      (fun v hv => by rw [hk] at hv; exact (Option.some.inj hv).symm), hstack]
    refine .reclaim hM fun ho => hid ?_
    rw [← hsp, ← hstg]
    exact ho
  | useEmpty w =>
    simp only [htgt, TargetOk] at hok
    obtain ⟨hempty, hself⟩ := hok
    have hnone := hI.no_slot hself
    have hroom := holders_lt hI hempty
    rw [pushTable_claim (.inr (.inl htgt))]
    have hhome := slotAt_mem_home t.kaddr w
    generalize slotAt (pendingBucket t.kaddr) w = i at hempty hhome ⊢
    have hk : pendingTable.key (T i) = none := key_eq_none.2 hempty
    obtain ⟨hx, hd, hstack⟩ := claim_pushFrame (f := f) (T i) ht
    have hU := hI.set hx hhome (fun j hj => absurd hj (hnone j)) (by omega) (by omega)
    refine ⟨hU, ?_⟩
    rw [pendingMap_set hI.wellPlaced hU.wellPlaced hx (fun v hv => by rw [hk] at hv; cases hv),
      hstack]
    exact .fresh ((pendingMap_eq_none hI).2 hnone) hroom

end

/-- The four ends of a pop: no lock, no slot, a frame of the active generation, a stale frame. -/
theorem emitPendingPop_cases {task : UInt64} (acquired terminal : Bool) (s : ParserScratch)
    {ctx : KernelCounterContext} (hI : PendingInv ctx.pending) (htask : task ≠ 0) :
    let r := emitPendingPop task acquired terminal s ctx
    (acquired = false ∧ r.requestId = 0 ∧ r.flags = 0 ∧ r.ctx.pending = ctx.pending) ∨
    (acquired = true ∧ pendingMap ctx.pending task = none ∧ r.requestId = 0 ∧ r.flags = 0 ∧
      r.ctx.pending = ctx.pending) ∨
    ∃ i, acquired = true ∧ pendingTable.key (ctx.pending i) = some task ∧
      r.ctx.pending = Function.update ctx.pending i (ctx.pending i).popFrame ∧
      r.scratch.halIdentityGeneration = ctx.activeHalGeneration ∧
      (r.requestId, r.flags) =
        if ((ctx.pending i).frame ((ctx.pending i).depth - 1)).halIdentityGeneration =
            ctx.activeHalGeneration then
          (((ctx.pending i).frame ((ctx.pending i).depth - 1)).requestEventId,
            ((ctx.pending i).frame ((ctx.pending i).depth - 1)).parcelFlags)
        else (0, 0) := by
  have hpos := popScan_position (T := ctx.pending) htask
  unfold emitPendingPop
  cases acquired with
  | false => exact .inl ⟨rfl, rfl, rfl, rfl⟩
  | true =>
    refine .inr ?_
    simp only [Bool.not_true, Bool.false_eq_true, if_false, true_and]
    cases hscan : popScan ctx.pending task with
    | none =>
      refine .inl ⟨?_, rfl, rfl, rfl⟩
      rw [hscan, Option.map_none] at hpos
      rw [pendingMap, SetAssoc.lookup, ← hpos]
      rfl
    | some w =>
      rw [hscan, Option.map_some] at hpos
      simp only
      generalize slotAt (pendingBucket task) w = i at hpos ⊢
      have hk := SetAssoc.position_key hpos.symm
      obtain ⟨hself, -⟩ := key_eq_some.1 hk
      have hd := BinderPendingSlot.depth_ne_zero (hI.depth_pos i (by rw [hself]; exact htask))
      rw [if_neg hd]
      refine .inr ⟨i, hk, ?_⟩
      split
      · rename_i hg
        rw [if_pos hg.symm]
        split
        · rename_i h0
          exact ⟨rfl, rfl, by rw [h0]⟩
        · exact ⟨rfl, rfl, rfl⟩
      · rename_i hg
        rw [if_neg (Ne.symm hg)]
        exact ⟨rfl, rfl, rfl⟩

/-- A slot after a pop: freed with its last frame, otherwise the same thread's stack without its
top. -/
theorem popFrame_stack {slot : BinderPendingSlot} {st : PendingStack} (h1 : 1 ≤ slot.depth.toNat)
    (h4 : slot.depth.toNat ≤ 4) (hst : slot.stack = some st) :
    (pendingTable.key slot.popFrame = none ∧ st.pop = none) ∨
    (pendingTable.key slot.popFrame = pendingTable.key slot ∧ slot.popFrame.stack = st.pop ∧
      1 ≤ slot.popFrame.depth.toNat ∧ slot.popFrame.depth.toNat ≤ 4) := by
  obtain ⟨hp, htg, hf⟩ := BinderPendingSlot.stack_frames hst
  have hfl := BinderPendingSlot.frameList_popFrame h1 h4
  have hdep : slot.popFrame.depth.toNat = slot.depth.toNat - 1 :=
    BinderPendingSlot.toNat_depth_sub_one h1
  have hlen := BinderPendingSlot.frameList_length h4
  by_cases hz : slot.depth - 1 = 0
  · refine .inl ⟨?_, ?_⟩
    · rw [key_eq_none]
      simp [BinderPendingSlot.popFrame, hz]
    · have hd1 : slot.depth.toNat - 1 = 0 := by
        rw [← BinderPendingSlot.toNat_depth_sub_one h1, hz]
        rfl
      rw [PendingStack.pop, dif_neg]
      rw [not_not, hf, ← List.length_eq_zero_iff, List.length_dropLast, hlen]
      omega
  · have hd2 : 1 ≤ slot.depth.toNat - 1 := by
      rw [← BinderPendingSlot.toNat_depth_sub_one h1]
      refine Nat.one_le_iff_ne_zero.2 fun h0 => hz ?_
      exact UInt32.toNat_inj.1 h0
    refine .inr ⟨?_, ?_, by omega, by omega⟩
    · simp only [pendingTable, BinderPendingSlot.popFrame, if_neg hz]
    · have hne : st.frames.dropLast ≠ [] := by
        intro h
        have := congrArg List.length h
        rw [List.length_dropLast, hf, hlen] at this
        simp at this
        omega
      rw [PendingStack.pop, dif_pos hne]
      exact BinderPendingSlot.stack_of_frames hp.symm htg.symm
        (hfl.trans (congrArg List.dropLast hf.symm))

/-- **A pop refines the abstract pop.** -/
theorem emitPendingPop_refines {task : UInt64} (terminal : Bool) (s : ParserScratch)
    {ctx : KernelCounterContext} (hI : PendingInv ctx.pending) (htask : task ≠ 0) :
    let r := emitPendingPop task true terminal s ctx
    PendingInv r.ctx.pending ∧
      PendingMap.Pop (pendingMap ctx.pending) task ctx.activeHalGeneration (r.requestId, r.flags)
        (pendingMap r.ctx.pending) := by
  intro r
  obtain ⟨h, -⟩ | ⟨-, hM, hr, hf, hp⟩ | ⟨i, -, hk, hp, -, hout⟩ :=
    emitPendingPop_cases true terminal s hI htask
  · cases h
  · change r.ctx.pending = ctx.pending at hp
    rw [hp, show (r.requestId, r.flags) = (0, 0) from Prod.ext hr hf]
    exact ⟨hI, .miss hM⟩
  · change r.ctx.pending = _ at hp
    change (r.requestId, r.flags) = _ at hout
    have hocc : (ctx.pending i).taskKaddr ≠ 0 := by
      rw [(key_eq_some.1 hk).1]
      exact htask
    have h1 := hI.depth_pos i hocc
    have h4 := hI.depth_le i hocc
    obtain ⟨st, hst, -, -, hsf⟩ := hI.stack hocc
    have hM : pendingMap ctx.pending task = some st := by rw [pendingMap_of_key hI hk, hst]
    have htop : (ctx.pending i).frame ((ctx.pending i).depth - 1) = st.top := by
      rw [BinderPendingSlot.frame_top h1 h4]
      simp only [PendingStack.top, hsf]
    have hmap : PendingInv r.ctx.pending ∧
        pendingMap r.ctx.pending = Function.update (pendingMap ctx.pending) task st.pop := by
      rw [hp]
      rcases popFrame_stack h1 h4 hst with ⟨hkey, hpop⟩ | ⟨hkey, hstack, hd1, hd4⟩
      · rw [hpop]
        refine ⟨.of_wellPlaced (hI.wellPlaced.clear hkey) fun j hj => ?_,
          pendingMap_clear hI.wellPlaced hkey hk⟩
        by_cases hji : j = i
        · subst hji
          rw [Function.update_self] at hj
          exact absurd (key_eq_none.1 hkey) hj
        · rw [Function.update_of_ne hji] at hj ⊢
          exact ⟨hI.depth_pos j hj, hI.depth_le j hj⟩
      · have hU := hI.set (hkey.trans hk) (hI.wellPlaced.home hk)
          (fun j hj => hI.wellPlaced.unique hj hk) hd1 hd4
        refine ⟨hU, ?_⟩
        rw [pendingMap_set hI.wellPlaced hU.wellPlaced (hkey.trans hk)
          (fun v hv => by rw [hk] at hv; exact (Option.some.inj hv).symm), hstack]
    refine ⟨hmap.1, ?_⟩
    rw [hmap.2, hout, htop]
    split
    · rename_i hg
      exact .fresh hM hg
    · rename_i hg
      exact .stale hM hg

/-! ## Frames: what an operation leaves alone -/

/-- A push changes counters and slots only. -/
theorem emitPendingPush_frame (t : TaskIdentity) (acquired : Bool) (id : UInt64)
    (s : ParserScratch) (ctx : KernelCounterContext) :
    ∃ c T, (emitPendingPush t acquired id s ctx).2 = { ctx with counter := c, pending := T } := by
  unfold emitPendingPush
  cases s.transaction.oneWay <;> cases acquired <;> simp only [Bool.not_true, Bool.not_false,
    Bool.false_eq_true, if_true, if_false]
  case false.true =>
    cases (pushTarget ctx.pending t).collides <;> simp only [Bool.false_eq_true, if_true,
      if_false] <;> split <;> exact ⟨_, _, rfl⟩
  all_goals exact ⟨_, _, rfl⟩

/-- A pop changes counters and slots only. -/
theorem emitPendingPop_frame (task : UInt64) (acquired terminal : Bool) (s : ParserScratch)
    (ctx : KernelCounterContext) :
    ∃ c T, (emitPendingPop task acquired terminal s ctx).ctx =
      { ctx with counter := c, pending := T } := by
  unfold emitPendingPop popMiss
  cases acquired with
  | false => exact ⟨_, _, rfl⟩
  | true =>
    simp only [Bool.not_true, Bool.false_eq_true, if_false]
    split
    · exact ⟨_, _, rfl⟩
    · split
      · exact ⟨_, _, rfl⟩
      · split
        · split <;> exact ⟨_, _, rfl⟩
        · exact ⟨_, _, rfl⟩

end Drmid
