import Drmid.Hook.Ring
import Drmid.Lib.Run

/-!
# Coherence of the event ring

`sequence` is odd from the first store of a recording to its publication. As long as every store is
made in time, that is before the slot is taken again, a slot has one writer at a time; so a slot
with an even `sequence` is untouched or holds what one writer stored (`EventRing.Inv.slots`), and
an accepted event is that of one writer (`accepted_coherent`). A store that comes too late goes
into the slot of another writer (`late_store_mixes`).
-/

namespace Drmid

/-! ## Slots and words -/

theorem eventSlot_ofNat (n : Nat) : (eventSlot (UInt64.ofNat n)).val = n % 256 := by
  have hmask : (UInt64.ofNat n &&& 255).toNat = n % 256 := by
    rw [UInt64.toNat_and, UInt64.toNat_ofNat', show (255 : UInt64).toNat = 2 ^ 8 - 1 from rfl,
      Nat.and_two_pow_sub_one_eq_mod]
    omega
  rw [eventSlot, hmask]
  exact Nat.mod_mod n 256

/-- The word of a recording under way is odd, a published one is even. -/
theorem odd_ne_published (x y : UInt64) : (x <<< 1) - 1 ≠ y * 2 := by
  intro h
  have := congrArg UInt64.toNat h
  rw [UInt64.toNat_sub, UInt64.toNat_mul, UInt64.toNat_shiftLeft, Nat.shiftLeft_eq] at this
  simp only [UInt64.toNat_ofNat, Nat.reducePow, Nat.reduceMod, Nat.pow_one] at this
  omega

namespace EventField

variable {src dst : BinderTransactionEvent}

@[simp] theorem store_sequence : (sequence.store src dst).sequence = src.sequence := rfl

@[simp] theorem store_eventId : (eventId.store src dst).eventId = src.eventId := rfl

theorem store_sequence_of_ne {f : EventField} (h : f ≠ sequence) :
    (f.store src dst).sequence = dst.sequence := by
  cases f <;> first | rfl | exact absurd rfl h

theorem store_eventId_of_ne {f : EventField} (h : f ≠ eventId) :
    (f.store src dst).eventId = dst.eventId := by
  cases f <;> first | rfl | exact absurd rfl h

theorem mem_storeOrder (f : EventField) : f ∈ storeOrder := by cases f <;> decide

/-- `sequence` is stored first. -/
theorem rest_of_suffix {f : EventField} {rest : List EventField} (h : f :: rest <:+ storeOrder) :
    sequence ∉ rest ∧ (f ≠ sequence → sequence ∉ f :: rest) := by
  have htail : sequence ∉ storeOrder.tail := by decide
  rw [show storeOrder = sequence :: storeOrder.tail from rfl, List.suffix_cons_iff] at h
  rcases h with h | h
  · obtain ⟨rfl, rfl⟩ := List.cons.inj h
    exact ⟨htail, fun hne => absurd rfl hne⟩
  · have hnot : sequence ∉ f :: rest := fun hmem => htail (h.subset hmem)
    exact ⟨fun hmem => hnot (List.mem_cons_of_mem f hmem), fun _ => hnot⟩

end EventField

namespace EventRing

variable {Thread : Type*} {S : EventRing Thread} {t t' : Thread} {w w' : RingWriter}

/-! ## The invariant -/

/-- The slot of `w` was not taken again. -/
def Holding (S : EventRing Thread) (w : RingWriter) : Prop := S.taken ≤ w.taken + 256

/-- What a writer that still holds its slot has stored there. -/
structure Stored (S : EventRing Thread) (w : RingWriter) : Prop where
  owner : ∀ f ∉ w.rest, S.owner w.slot f = some w.taken
  sequence : .sequence ∉ w.rest → (S.events w.slot).sequence = w.event.sequence
  eventId : .eventId ∉ w.rest → (S.events w.slot).eventId = w.event.eventId

/-- A thread under way stores the event of its ticket. -/
structure WriterInv (S : EventRing Thread) (w : RingWriter) : Prop where
  taken_lt : w.taken < S.taken
  slot : w.slot = eventSlot (UInt64.ofNat w.taken)
  eventId : w.event.eventId = UInt64.ofNat w.taken + 1
  sequence : w.event.sequence = (w.event.eventId <<< 1) - 1
  rest : w.rest <:+ storeOrder
  stored : S.Holding w → S.Stored w

/-- A slot is under way, untouched or the event of one writer. -/
inductive SlotInv (S : EventRing Thread) (slot : Fin 256) : Prop
  | writing (x : UInt64) (h : (S.events slot).sequence = (x <<< 1) - 1)
  | untouched (h : (S.events slot).eventId = 0)
  | complete (n : Nat) (hlt : n < S.taken) (hid : (S.events slot).eventId = UInt64.ofNat n + 1)
      (howner : ∀ f, S.owner slot f = some n)

structure Inv (S : EventRing Thread) : Prop where
  index : S.index = UInt64.ofNat S.taken
  writers : ∀ t w, S.writers t = some w → S.WriterInv w
  /-- Two threads have two tickets. -/
  apart : ∀ t t' w w', S.writers t = some w → S.writers t' = some w' → w.taken = w'.taken → t = t'
  slots : ∀ slot, S.SlotInv slot

theorem inv_initial : (initial : EventRing Thread).Inv where
  index := rfl
  writers _ _ h := by cases h
  apart _ _ _ _ h := by cases h
  slots _ := .untouched rfl

/-- Two writers that hold one slot are the same. -/
theorem Inv.same_writer (hS : S.Inv) (h : S.writers t = some w) (h' : S.writers t' = some w')
    (hold : S.Holding w) (hold' : S.Holding w') (hslot : w.slot = w'.slot) : t = t' := by
  have hw := hS.writers t w h
  have hw' := hS.writers t' w' h'
  have hmod : w.taken % 256 = w'.taken % 256 := by
    rw [← eventSlot_ofNat, ← eventSlot_ofNat, ← hw.slot, ← hw'.slot, hslot]
  have hlt := hw.taken_lt
  have hlt' := hw'.taken_lt
  unfold Holding at hold hold'
  exact hS.apart t t' w w' h h' (by omega)

/-- What a store into another slot leaves alone. -/
theorem WriterInv.frame {S' : EventRing Thread} (hw : S.WriterInv w) (htaken : S'.taken = S.taken)
    (hframe : S.Holding w →
      S'.events w.slot = S.events w.slot ∧ S'.owner w.slot = S.owner w.slot) :
    S'.WriterInv w where
  taken_lt := htaken ▸ hw.taken_lt
  slot := hw.slot
  eventId := hw.eventId
  sequence := hw.sequence
  rest := hw.rest
  stored hold := by
    rw [Holding, htaken] at hold
    obtain ⟨hevents, howner⟩ := hframe hold
    have hstored := hw.stored hold
    exact ⟨howner ▸ hstored.owner, hevents ▸ hstored.sequence, hevents ▸ hstored.eventId⟩

theorem SlotInv.frame {S' : EventRing Thread} {slot : Fin 256} (h : S.SlotInv slot)
    (htaken : S'.taken = S.taken) (hevents : S'.events slot = S.events slot)
    (howner : S'.owner slot = S.owner slot) : S'.SlotInv slot := by
  cases h with
  | writing x hx => exact .writing x (hevents ▸ hx)
  | untouched hid => exact .untouched (hevents ▸ hid)
  | complete n hlt hid ho => exact .complete n (htaken ▸ hlt) (hevents ▸ hid) (howner ▸ ho)

/-! ## Acceptance -/

/-- An accepted event was stored by the writer that took its ticket. -/
theorem Inv.accepted (hS : S.Inv) {ticket : UInt64} (h : S.Accepts ticket) :
    ∃ n < S.taken, UInt64.ofNat n = ticket ∧ ∀ f, S.owner (eventSlot ticket) f = some n := by
  obtain ⟨-, hlt, haccepts⟩ := h
  obtain ⟨hsequence, hid⟩ : (S.events (eventSlot ticket)).sequence = (ticket + 1) * 2 ∧
      (S.events (eventSlot ticket)).eventId = ticket + 1 := by
    simpa [acceptsEvent] using haccepts
  cases hS.slots (eventSlot ticket) with
  | writing x hx => exact absurd (hx.symm.trans hsequence) (odd_ne_published x _)
  | untouched hzero =>
    -- the id after the last ticket is not zero
    have hwrap := congrArg UInt64.toNat (hid.symm.trans hzero)
    rw [UInt64.lt_iff_toNat_lt] at hlt
    have := S.index.toNat_lt
    simp only [UInt64.toNat_add, UInt64.toNat_ofNat] at hwrap
    omega
  | complete n hn hown howner =>
    exact ⟨n, hn, (UInt64.add_left_inj 1).1 (hown.symm.trans hid), howner⟩

/-! ## Steps -/

variable [DecidableEq Thread]

theorem Inv.reserve (hS : S.Inv) (h : S.writers t = none) (event : BinderTransactionEvent) :
    (S.reserve t event).Inv := by
  have hkeep : ∀ w, S.WriterInv w → (S.reserve t event).WriterInv w := fun w hw =>
    { taken_lt := Nat.lt_succ_of_lt hw.taken_lt
      slot := hw.slot
      eventId := hw.eventId
      sequence := hw.sequence
      rest := hw.rest
      stored := fun hold =>
        have hstored := hw.stored (Nat.le_of_succ_le hold)
        ⟨hstored.owner, hstored.sequence, hstored.eventId⟩ }
  refine ⟨?_, fun t' w' h' => ?_, fun t₁ t₂ w₁ w₂ h₁ h₂ heq => ?_, fun slot => ?_⟩
  · show S.index + 1 = UInt64.ofNat (S.taken + 1)
    rw [hS.index, UInt64.ofNat_add]
    rfl
  · by_cases ht : t' = t
    · -- the new writer has stored nothing yet
      rw [ht, reserve_writers, Function.update_self] at h'
      cases h'
      exact
        { taken_lt := Nat.lt_succ_self _
          slot := by rw [hS.index]
          eventId := by rw [hS.index]
          sequence := rfl
          rest := List.suffix_rfl
          stored := fun _ =>
            ⟨fun f hf => absurd (EventField.mem_storeOrder f) hf,
              fun hf => absurd (EventField.mem_storeOrder _) hf,
              fun hf => absurd (EventField.mem_storeOrder _) hf⟩ }
    · rw [reserve_writers, Function.update_of_ne ht] at h'
      exact hkeep w' (hS.writers t' w' h')
  · have hnew : ∀ t' w', (S.reserve t event).writers t' = some w' →
        (t' = t ∧ w'.taken = S.taken) ∨ S.writers t' = some w' := by
      intro t' w' h'
      by_cases ht : t' = t
      · rw [ht, reserve_writers, Function.update_self] at h'
        cases h'
        exact .inl ⟨ht, rfl⟩
      · rw [reserve_writers, Function.update_of_ne ht] at h'
        exact .inr h'
    rcases hnew t₁ w₁ h₁ with ⟨rfl, hn₁⟩ | ho₁ <;> rcases hnew t₂ w₂ h₂ with ⟨rfl, hn₂⟩ | ho₂
    · rfl
    · have := (hS.writers t₂ w₂ ho₂).taken_lt
      omega
    · have := (hS.writers t₁ w₁ ho₁).taken_lt
      omega
    · exact hS.apart t₁ t₂ w₁ w₂ ho₁ ho₂ heq
  · cases hS.slots slot with
    | writing x hx => exact .writing x hx
    | untouched hid => exact .untouched hid
    | complete n hlt hid howner => exact .complete n (Nat.lt_succ_of_lt hlt) hid howner

/-- The writer itself after one more store. -/
theorem WriterInv.storeField {f : EventField} {rest : List EventField} (hw : S.WriterInv w)
    (hrest : w.rest = f :: rest) (hold : S.Holding w) :
    (S.storeField t w f rest).WriterInv { w with rest := rest } := by
  have hstored := hw.stored hold
  have hsuffix : f :: rest <:+ storeOrder := hrest ▸ hw.rest
  have hnotin : ∀ g ∉ rest, g ≠ f → g ∉ w.rest := by
    intro g hg hne
    rw [hrest, List.mem_cons]
    rintro (heq | hmem)
    · exact hne heq
    · exact hg hmem
  refine
    { taken_lt := hw.taken_lt
      slot := hw.slot
      eventId := hw.eventId
      sequence := hw.sequence
      rest := (List.suffix_cons f rest).trans hsuffix
      stored := fun _ => ⟨fun g hg => ?_, fun hg => ?_, fun hg => ?_⟩ }
  · show (S.storeField t w f rest).owner w.slot g = some w.taken
    rw [storeField_owner]
    by_cases hne : g = f
    · rw [hne, Function.update_self]
    · rw [Function.update_of_ne hne]
      exact hstored.owner g (hnotin g hg hne)
  · show ((S.storeField t w f rest).events w.slot).sequence = w.event.sequence
    rw [storeField_events]
    by_cases hne : f = .sequence
    · rw [hne, EventField.store_sequence]
    · rw [EventField.store_sequence_of_ne hne]
      exact hstored.sequence (hnotin _ hg (Ne.symm hne))
  · show ((S.storeField t w f rest).events w.slot).eventId = w.event.eventId
    rw [storeField_events]
    by_cases hne : f = .eventId
    · rw [hne, EventField.store_eventId]
    · rw [EventField.store_eventId_of_ne hne]
      exact hstored.eventId (hnotin _ hg (Ne.symm hne))

theorem Inv.storeField (hS : S.Inv) (h : S.writers t = some w) {f : EventField}
    {rest : List EventField} (hrest : w.rest = f :: rest) (hold : S.Holding w) :
    (S.storeField t w f rest).Inv := by
  have hw := hS.writers t w h
  have hnew := hw.storeField (t := t) hrest hold
  have hsplit : ∀ t' w', (S.storeField t w f rest).writers t' = some w' →
      (t' = t ∧ w' = { w with rest := rest }) ∨ (t' ≠ t ∧ S.writers t' = some w') := by
    intro t' w' h'
    rw [storeField_writers] at h'
    by_cases ht : t' = t
    · rw [ht, Function.update_self] at h'
      exact .inl ⟨ht, (Option.some.inj h').symm⟩
    · rw [Function.update_of_ne ht] at h'
      exact .inr ⟨ht, h'⟩
  refine ⟨hS.index, fun t' w' h' => ?_, fun t₁ t₂ w₁ w₂ h₁ h₂ heq => ?_, fun slot => ?_⟩
  · rcases hsplit t' w' h' with ⟨-, rfl⟩ | ⟨ht, h'⟩
    · exact hnew
    · -- a writer that holds its slot has another one
      refine (hS.writers t' w' h').frame rfl fun hold' => storeField_other fun hslot => ?_
      exact ht (hS.same_writer h' h hold' hold hslot)
  · rcases hsplit t₁ w₁ h₁ with ⟨rfl, rfl⟩ | ⟨-, ho₁⟩ <;>
      rcases hsplit t₂ w₂ h₂ with ⟨rfl, rfl⟩ | ⟨-, ho₂⟩
    · rfl
    · exact hS.apart _ _ w w₂ h ho₂ heq
    · exact hS.apart _ _ w₁ w ho₁ h heq
    · exact hS.apart _ _ w₁ w₂ ho₁ ho₂ heq
  · by_cases hslot : slot = w.slot
    · -- `sequence` is the first store, so it is odd from now on
      have hodd := (hnew.stored hold).sequence
        (EventField.rest_of_suffix (hrest ▸ hw.rest)).1
      rw [hslot]
      exact .writing _ (hodd.trans hw.sequence)
    · obtain ⟨hevents, howner⟩ := storeField_other (t := t) (f := f) hslot
      exact (hS.slots slot).frame rfl hevents howner

theorem Inv.publish (hS : S.Inv) (h : S.writers t = some w) (hrest : w.rest = [])
    (hold : S.Holding w) : (S.publish t w).Inv := by
  have hw := hS.writers t w h
  have hstored := hw.stored hold
  have hnotin : ∀ f, f ∉ w.rest := fun f => hrest ▸ List.not_mem_nil
  have hother : ∀ t' w', (S.publish t w).writers t' = some w' →
      t' ≠ t ∧ S.writers t' = some w' := by
    intro t' w' h'
    rw [publish_writers] at h'
    by_cases ht : t' = t
    · rw [ht, Function.update_self] at h'
      cases h'
    · rw [Function.update_of_ne ht] at h'
      exact ⟨ht, h'⟩
  refine ⟨hS.index, fun t' w' h' => ?_, fun t₁ t₂ w₁ w₂ h₁ h₂ heq => ?_, fun slot => ?_⟩
  · obtain ⟨ht, h'⟩ := hother t' w' h'
    refine (hS.writers t' w' h').frame rfl fun hold' => publish_other fun hslot => ?_
    exact ht (hS.same_writer h' h hold' hold hslot)
  · exact hS.apart _ _ w₁ w₂ (hother t₁ w₁ h₁).2 (hother t₂ w₂ h₂).2 heq
  · by_cases hslot : slot = w.slot
    · rw [hslot]
      refine .complete w.taken hw.taken_lt ?_ fun f => ?_
      · rw [publish_events]
        exact (hstored.eventId (hnotin _)).trans hw.eventId
      · rw [publish_owner]
        by_cases hf : f = .sequence
        · rw [hf, Function.update_self]
        · rw [Function.update_of_ne hf]
          exact hstored.owner f (hnotin f)
    · obtain ⟨hevents, howner⟩ := publish_other (S := S) (t := t) hslot
      exact (hS.slots slot).frame rfl hevents howner

/-! ## Runs -/

theorem Inv.step (hS : S.Inv) {e : RingStep Thread} (hok : S.inTime e) : (S.step e).Inv := by
  cases e with
  | reserve t event =>
    simp only [EventRing.step]
    split
    · exact hS.reserve ‹_› event
    · exact hS
  | store t =>
    simp only [EventRing.step]
    split
    · exact hS
    · rename_i w h
      have hold : S.Holding w := hok w h
      split
      · exact hS.storeField h ‹_› hold
      · exact hS.publish h ‹_› hold

theorem Inv.run {es : List (RingStep Thread)} (h : Lib.Along EventRing.step inTime initial es) :
    (Lib.run EventRing.step initial es).Inv :=
  h.induct (P := fun _ S => S.Inv) inv_initial fun _ _ _ hS hok => hS.step hok

end EventRing

/-- **The ring is coherent as long as no writer is lapped**: in every run whose stores are all made
in time, every event a snapshot is accepted to hold has all its fields stored by the one writer that
took its ticket. -/
theorem event_ring_coherent {Thread : Type*} [DecidableEq Thread] {es : List (RingStep Thread)}
    (h : Lib.Along EventRing.step EventRing.inTime .initial es) {ticket : UInt64}
    (haccepts : (Lib.run EventRing.step .initial es).Accepts ticket) :
    let S := Lib.run EventRing.step .initial es
    ∃ n < S.taken, UInt64.ofNat n = ticket ∧ ∀ f, S.owner (eventSlot ticket) f = some n :=
  (EventRing.Inv.run h).accepted haccepts

/-- Two threads that store in turns. -/
def turns : List (RingStep Bool) :=
  [.reserve true .zero, .reserve false .zero] ++
    (List.replicate 31 [.store true, .store false]).flatten

/-- The second of two recordings that ran in turns. -/
theorem event_ring_coherent_turns :
    let S := Lib.run EventRing.step .initial turns
    ∃ n < S.taken, UInt64.ofNat n = 1 ∧ ∀ f, S.owner (eventSlot 1) f = some n :=
  event_ring_coherent (by decide +kernel) (by decide +kernel)

/-- Thread 0 stores its id, 256 others take tickets and the last of them publishes; then thread 0
goes on. -/
def lapped : List (RingStep Nat) :=
  [.reserve 0 .zero, .store 0, .store 0] ++
    (List.range 256).map (fun i => .reserve (i + 1) .zero) ++
    List.replicate 31 (.store 256) ++ [.store 0]

/-- The event of ticket 256 is accepted with a field of the writer of ticket 0. -/
theorem lapped_writer_mixes :
    let S := Lib.run EventRing.step .initial lapped
    S.Accepts 256 ∧ ¬∃ n, ∀ f, S.owner (eventSlot 256) f = some n := by
  intro S
  obtain ⟨haccepts, hlate, hother⟩ : S.Accepts 256 ∧ S.owner (eventSlot 256) .taskKaddr = some 0 ∧
      S.owner (eventSlot 256) .code = some 256 := by decide +kernel
  refine ⟨haccepts, ?_⟩
  rintro ⟨n, hn⟩
  cases (hn .taskKaddr).symm.trans hlate
  exact absurd ((hn .code).symm.trans hother) (by decide)

/-- What a store that comes too late does: a field stored into the accepted event of another writer
leaves it accepted, with two owners. -/
theorem late_store_mixes {Thread : Type*} [DecidableEq Thread] {S : EventRing Thread} {t : Thread}
    {w : RingWriter} {f : EventField} {rest : List EventField} (h : S.writers t = some w)
    (hrest : w.rest = f :: rest) (hseq : f ≠ .sequence) (hid : f ≠ .eventId) {ticket : UInt64}
    (haccepts : S.Accepts ticket) (hslot : w.slot = eventSlot ticket) {n : Nat}
    (howner : ∀ g, S.owner (eventSlot ticket) g = some n) (hne : w.taken ≠ n) :
    (S.step (.store t)).Accepts ticket ∧
      ¬∃ m, ∀ g, (S.step (.store t)).owner (eventSlot ticket) g = some m := by
  have hstep : S.step (.store t) = S.storeField t w f rest := by
    simp only [EventRing.step, h, hrest]
  have hevents : (S.storeField t w f rest).events w.slot = f.store w.event (S.events w.slot) :=
    EventRing.storeField_events
  have howners : (S.storeField t w f rest).owner w.slot =
      Function.update (S.owner w.slot) f (some w.taken) := EventRing.storeField_owner
  rw [hslot] at hevents howners
  rw [hstep]
  constructor
  · obtain ⟨hbegin, hlt, hmatch⟩ := haccepts
    refine ⟨hbegin, hlt, ?_⟩
    rw [acceptsEvent, hevents, EventField.store_sequence_of_ne hseq,
      EventField.store_eventId_of_ne hid]
    exact hmatch
  · rintro ⟨m, hm⟩
    rw [howners] at hm
    have hfirst := hm f
    have hsecond := hm .sequence
    rw [Function.update_self] at hfirst
    rw [Function.update_of_ne (Ne.symm hseq), howner] at hsecond
    exact hne (Option.some.inj (hfirst.trans hsecond.symm))

/-! ## What is printed -/

section
variable {Thread : Type*} {S : EventRing Thread} {event : BinderTransactionEvent}

theorem retainedBegin_le (stop : UInt64) : retainedBegin stop ≤ stop := by
  unfold retainedBegin
  split
  · rename_i h
    rw [UInt64.lt_iff_toNat_lt] at h
    rw [UInt64.le_iff_toNat_le, UInt64.toNat_sub_of_le _ _ (UInt64.le_iff_toNat_le.2 (by omega))]
    omega
  · exact UInt64.zero_le

theorem printBegin_bounds (stop maxEvents : UInt64) :
    retainedBegin stop ≤ printBegin stop maxEvents ∧ printBegin stop maxEvents ≤ stop := by
  unfold printBegin
  split
  · rename_i h
    refine ⟨UInt64.le_of_lt h.2, ?_⟩
    rw [UInt64.le_iff_toNat_le, UInt64.toNat_sub_of_le _ _ (UInt64.le_of_lt h.1)]
    omega
  · exact ⟨UInt64.le_refl _, retainedBegin_le stop⟩

/-- Every event of a listing is one that is accepted. -/
theorem mem_acceptedEvents {start : UInt64} (hstart : retainedBegin S.index ≤ start)
    (hstop : start ≤ S.index) (h : event ∈ acceptedEvents S.events start S.index) :
    ∃ ticket, S.Accepts ticket ∧ event = S.events (eventSlot ticket) := by
  obtain ⟨ticket, hmem, rfl⟩ := List.mem_map.1 h
  obtain ⟨hticket, haccepts⟩ := List.mem_filter.1 hmem
  obtain ⟨i, hi, rfl⟩ := List.mem_map.1 hticket
  rw [List.mem_range, UInt64.toNat_sub_of_le _ _ hstop] at hi
  have hlt := S.index.toNat_lt
  have hsum : (start + UInt64.ofNat i).toNat = start.toNat + i := by
    rw [UInt64.toNat_add, UInt64.toNat_ofNat', Nat.mod_eq_of_lt (a := i) (by omega),
      Nat.mod_eq_of_lt (by omega)]
  refine ⟨_, ⟨UInt64.le_trans hstart ?_, ?_, haccepts⟩, rfl⟩
  · rw [UInt64.le_iff_toNat_le, hsum]
    omega
  · rw [UInt64.lt_iff_toNat_lt, hsum]
    omega

/-- Every event that is printed, with a token, as a reply or in the listing, is accepted. -/
theorem printed_accepted (maxEvents : UInt64) :
    let recent := printRecentEvents S.index S.events maxEvents
    (event ∈ recent.printed ∨ (∃ reply, (event, reply) ∈ recent.tokens) ∨
        ∃ request, (request, some event) ∈ recent.tokens) →
      ∃ ticket, S.Accepts ticket ∧ event = S.events (eventSlot ticket) := by
  intro recent h
  have hretained {event} (h : event ∈ acceptedEvents S.events (retainedBegin S.index) S.index) :=
    mem_acceptedEvents (UInt64.le_refl _) (retainedBegin_le _) h
  rcases h with h | ⟨reply, h⟩ | ⟨request, h⟩
  · obtain ⟨hstart, hstop⟩ := printBegin_bounds S.index maxEvents
    exact mem_acceptedEvents hstart hstop h
  · obtain ⟨token, hmem, heq⟩ := List.mem_map.1 h
    cases heq
    exact hretained (List.mem_filter.1 (List.mem_of_mem_take hmem)).1
  · obtain ⟨token, -, heq⟩ := List.mem_map.1 h
    exact hretained (List.mem_of_find?_eq_some (Prod.mk.inj heq).2)

end

/-- Without lapping every printed event is that of one writer. -/
theorem printed_one_writer {Thread : Type*} [DecidableEq Thread] {es : List (RingStep Thread)}
    (h : Lib.Along EventRing.step EventRing.inTime .initial es) {event : BinderTransactionEvent}
    {maxEvents : UInt64} :
    let S := Lib.run EventRing.step .initial es
    event ∈ (printRecentEvents S.index S.events maxEvents).printed →
      ∃ n < S.taken, event = S.events (eventSlot (UInt64.ofNat n)) ∧
        ∀ f, S.owner (eventSlot (UInt64.ofNat n)) f = some n := by
  intro S hprinted
  obtain ⟨ticket, haccepts, rfl⟩ := printed_accepted maxEvents (.inl hprinted)
  obtain ⟨n, hn, rfl, howner⟩ := (EventRing.Inv.run h).accepted haccepts
  exact ⟨n, hn, rfl, howner⟩

/-! ## A recording on its own -/

namespace EventRing

variable {Thread : Type*} [DecidableEq Thread] {S : EventRing Thread} {t : Thread}

/-- The stores of one thread in a row. -/
theorem run_stores {w : RingWriter} (h : S.writers t = some w) :
    (Lib.run step S (List.replicate (w.rest.length + 1) (.store t))).events =
      Function.update S.events w.slot
        { w.rest.foldl (fun dst f => f.store w.event dst) (S.events w.slot) with
          sequence := w.event.eventId <<< 1 } ∧
    (Lib.run step S (List.replicate (w.rest.length + 1) (.store t))).index = S.index := by
  generalize hrest : w.rest = rest
  induction rest generalizing S w with
  | nil =>
    rw [List.length_nil, List.replicate_succ, Lib.run_cons, List.replicate_zero, Lib.run_nil]
    simp only [step, h, hrest]
    exact ⟨rfl, rfl⟩
  | cons f rest ih =>
    rw [List.length_cons, List.replicate_succ, Lib.run_cons]
    have hstep : S.step (.store t) = S.storeField t w f rest := by simp only [step, h, hrest]
    obtain ⟨hevents, hindex⟩ := ih (S := S.storeField t w f rest) (w := { w with rest := rest })
      (Function.update_self ..) rfl
    rw [hstep, hevents, hindex, storeField_events, List.foldl_cons]
    refine ⟨?_, rfl⟩
    show Function.update (Function.update S.events _ _) _ _ = _
    rw [Function.update_idem]

/-- Storing every field of an event puts it there as a whole. -/
theorem foldl_storeOrder (event dst : BinderTransactionEvent) :
    storeOrder.foldl (fun dst f => f.store event dst) dst = event := by
  cases event
  cases dst
  simp only [storeOrder, List.foldl_cons, List.foldl_nil, EventField.store]

/-- The slot after the two stages. -/
theorem staged_events (r : Recording) (ctx : KernelCounterContext) :
    (publishRecord (reserveRecord r ctx).1 (reserveRecord r ctx).2).2.events =
      Function.update ctx.events (eventSlot ctx.eventWriteIndex) { r.event with
        sequence := (ctx.eventWriteIndex + 1) <<< 1
        eventId := ctx.eventWriteIndex + 1 } := by
  funext slot
  by_cases h : slot = eventSlot ctx.eventWriteIndex
  · rw [h, Function.update_self]
    simp only [publishRecord, reserveRecord, emitPublishEvent, emitReserveEvent, eventSlot,
      KernelCounterContext.increment_events, Function.update_self, Recording.event]
  · rw [Function.update_of_ne h]
    unfold eventSlot at h
    simp only [publishRecord, reserveRecord, emitPublishEvent, emitReserveEvent,
      KernelCounterContext.increment_events, Function.update_of_ne h]

/-- **Undisturbed, the stores are the stages of `emit_record_transaction`**: they leave the index
and the events that the two stages `reserve` and `publish` leave. -/
theorem record_alone (h : S.writers t = none) (r : Recording) {ctx : KernelCounterContext}
    (hindex : ctx.eventWriteIndex = S.index) (hevents : ctx.events = S.events) :
    let S' := Lib.run step S (.reserve t r.event :: List.replicate 31 (.store t))
    let staged := reserveRecord r ctx
    let ctx' := (publishRecord staged.1 staged.2).2
    S'.events = ctx'.events ∧ S'.index = ctx'.eventWriteIndex := by
  intro S' staged ctx'
  have hstep : S.step (.reserve t r.event) = S.reserve t r.event := by simp only [step, h]
  obtain ⟨hstores, hlast⟩ := run_stores (S := S.reserve t r.event) (t := t)
    (Function.update_self ..)
  have hrun : S' = Lib.run step (S.reserve t r.event)
      (List.replicate (storeOrder.length + 1) (.store t)) := by
    show Lib.run step S (_ :: _) = _
    rw [Lib.run_cons, hstep]
    rfl
  constructor
  · rw [hrun, hstores, foldl_storeOrder, staged_events, hevents, hindex]
    rfl
  · rw [hrun, hlast]
    show S.index + 1 = ctx.eventWriteIndex + 1
    rw [hindex]

end EventRing
end Drmid
