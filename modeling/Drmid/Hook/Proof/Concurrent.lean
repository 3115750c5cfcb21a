import Mathlib
import Drmid.Hook.Proof.Footprint

/-!
# The pending blocks are serializable

Whoever is inside has code before it that, run alone, would leave the context of the history
(`Concurrent.Holds`); nobody else can come between, because what the others still may do until they
take the lock touches none of its words but two counters, which it does not touch (`Holds.count`).
With the lock free, the words of the context are those of the history. Each access keeps this
(`Inv.act`), and `pending_blocks_linearizable` follows for every interleaving.
-/

namespace Drmid

open Lib

/-! ## Blocks -/

namespace Block

variable {K : ContextAddress}

/-- What a block does between label `acquired` and the release, and what it leaves. -/
def guarded : Block K → Asm (Option Asm.Popped)
  | push t r => do
    Asm.pushSection t K.kaddr r.x23 r.x26 r.x27
    return none
  | pop terminalReply r => do
    let popped ← Asm.popSection K.kaddr r.x23 r.x27
    Asm.countPop terminalReply K.kaddr popped.x21
    return some popped

/-- Label `release`. -/
def released (K : ContextAddress) (r : Option Asm.Popped) : Asm (Option Asm.Popped) := do
  Asm.emitPendingLockRelease K.kaddr
  return r

/-- After the loop. -/
def tried (b : Block K) (ok : Bool) : Asm (Option Asm.Popped) :=
  if ok then b.guarded >>= released K
  else do
    Asm.emitCounterIncrement K.kaddr offsetofPendingLockDrops
    return b.nothing

/-- The loop, with `n` tries left, and what follows. -/
def trying (b : Block K) (n : Nat) : Asm (Option Asm.Popped) :=
  Asm.retryAcquire K.lock n >>= b.tried

/-- After a try. -/
def retrying (b : Block K) (n : Nat) (ok : Bool) : Asm (Option Asm.Popped) :=
  if ok then b.tried true
  else do
    Asm.clrex
    b.trying n

theorem trying_succ (b : Block K) (n : Nat) :
    b.trying (n + 1) = Asm.tryAcquire K.lock >>= b.retrying n := by
  rw [trying, Asm.retryAcquire, Prog.bind_assoc]
  refine congrArg _ (funext fun ok => ?_)
  cases ok <;> rfl

theorem code_pop (terminalReply : Bool) (r : Registers K) :
    (pop terminalReply r).code = (pop terminalReply r).trying kMapLockTryCount := by
  rw [code, Asm.emitPendingPop, Asm.emitPendingLockAcquire, Asm.emitBoundedLockAcquire, trying,
    Prog.bind_assoc, Prog.bind_assoc]
  refine congrArg _ (funext fun ok => ?_)
  cases ok with
  | false => rfl
  | true =>
    change (Asm.popSection K.kaddr r.x23 r.x27 >>= _) >>= _ = (_ >>= _) >>= _
    rw [Prog.bind_assoc, Prog.bind_assoc]
    refine congrArg _ (funext fun popped => ?_)
    rw [Prog.bind_assoc, Prog.bind_assoc, Prog.bind_assoc]
    rfl

theorem code_push (t : TaskIdentityOffsets) (r : Registers K) :
    (push t r).code = Asm.ldrW (r.x23 + (kTransactionScratchOffset + 20)) >>= fun w11 =>
      if w11 &&& 1 ≠ 0 then do
        Asm.emitCounterIncrement K.kaddr offsetofPendingOnewayIgnored
        return none
      else (push t r).trying kMapLockTryCount := by
  rw [code, Asm.emitPendingPush, Prog.bind_assoc]
  refine congrArg _ (funext fun w11 => ?_)
  split
  · rfl
  · rw [Asm.emitPendingLockAcquire, Asm.emitBoundedLockAcquire, trying, Prog.bind_assoc,
      Prog.bind_assoc]
    refine congrArg _ (funext fun ok => ?_)
    cases ok with
    | false => rfl
    | true =>
      change (Asm.pushSection t K.kaddr r.x23 r.x26 r.x27 >>= _) >>= _ = (_ >>= _) >>= _
      rw [Prog.bind_assoc, Prog.bind_assoc]
      rfl

end Block

namespace PendingOp

variable {K : ContextAddress} {P : Workspace K} {M : Memory} {ctx : KernelCounterContext}
  {op : PendingOp}

/-- The words that a block finds outside of the context, and what it does with the lock taken. -/
theorem guarded_takes (henters : op.Enters P M) (hway : op.oneWay = false)
    (hI : PendingInv ctx.pending) (htask : op.task ≠ 0) :
    ∃ t s s', OutsideShows (M.view P) t s ∧ (op.block P).guarded.Takes P Cell.guarded
      ⟨t, s, ctx, 1⟩ (op.answer true ctx) ⟨t, s', op.attempt true ctx, 1⟩ := by
  cases op with
  | push t id s =>
    obtain ⟨hx27, rfl, ho⟩ := henters
    exact ⟨t, s, _, ho, (Asm.pushSection_takes (R := ⟨t, s, ctx, 1⟩) hI hx27 hway).bind
      Asm.takes_pure⟩
  | pop task terminal s =>
    obtain ⟨t, hx27, rfl, ho⟩ := henters
    obtain ⟨R₂, hsection, hpop⟩ :=
      Asm.popSection_takes (P := P) (R := ⟨t, s, ctx, 1⟩) hI htask hx27 terminal
    have hcount := Asm.countPop_takes (P := P) (R := R₂) terminal
      (Records.popped ⟨t, s, ctx, 1⟩ true terminal).x21
    rw [← hpop] at hcount
    exact ⟨t, s, _, ho, hsection.bind (hcount.bind Asm.takes_pure)⟩

/-- The counter of an operation that does not take the lock. -/
def givenUp (op : PendingOp) : PendingCounter :=
  if op.oneWay then .onewayIgnored else .lockDrops

theorem attempt_false : op.attempt false ctx = ctx.emitCounterIncrement op.givenUp.counter := by
  cases op with
  | push t id s =>
    cases hway : s.transaction.oneWay with
    | true =>
      simp only [attempt, emitPendingPush, givenUp, oneWay, hway, if_true]
      rfl
    | false =>
      simp only [attempt, emitPendingPush, givenUp, oneWay, hway, Bool.false_eq_true, if_false,
        Bool.not_false, if_true]
      rfl
  | pop task terminal s => rfl

theorem attempt_inv (hI : PendingInv ctx.pending) (htask : op.task ≠ 0) (acquired : Bool) :
    PendingInv (op.attempt acquired ctx).pending := by
  cases acquired with
  | true =>
    have heq : op.attempt true ctx = op.exec ctx := by cases op <;> rfl
    rw [heq]
    exact exec_inv hI htask
  | false =>
    rw [attempt_false]
    exact hI

theorem answer_false : op.answer false ctx = (op.block P).nothing := by
  cases op <;> rfl

end PendingOp

/-! ## The invariant -/

/-- How far a block got that does not count yet, with the code it has before it. -/
inductive PendingOp.Stage {K : ContextAddress} (op : PendingOp) (P : Workspace K)
    (W : ExclusiveWord UInt64) (m : Option Nat) : Asm (Option Asm.Popped) → Prop
  | entered {t : TaskIdentity} {id : UInt64} {s : ParserScratch} (hop : op = .push t id s) :
      op.Stage P W m (op.block P).code
  | ignoring (hway : op.oneWay = true) : op.Stage P W m do
      Asm.emitCounterIncrement K.kaddr offsetofPendingOnewayIgnored
      return (op.block P).nothing
  | trying (hway : op.oneWay = false) (n : Nat) : op.Stage P W m ((op.block P).trying n)
  | storing (hway : op.oneWay = false) (n : Nat) (hW : W.Coherent m (some 0)) :
      op.Stage P W m (.call (.stxr 1 K.lock) fun w13 => (op.block P).retrying n (w13 == 0))
  | clearing (hway : op.oneWay = false) (n : Nat) : op.Stage P W m ((op.block P).retrying n false)

/-- The operation of handler `i` is in the history, and `r` is what it returns there. -/
def Answers (ctx : KernelCounterContext) (history : List Settled) (i : Nat) (op : PendingOp)
    (r : Option Asm.Popped) : Prop :=
  ∃ before after acquired, history = before ++ ⟨i, op, acquired⟩ :: after ∧
    r = op.answer acquired (serial ctx before)

namespace Concurrent

variable {K : ContextAddress}

/-- Handler `i` does not count yet. -/
structure Waits (S : Concurrent K) (i : Nat) (w : Worker K) : Prop where
  fresh : ∀ e ∈ S.history, e.worker ≠ i
  enters : w.op.Enters w.place S.memory
  stage : w.op.Stage w.place (S.lockWord K.lock) w.monitor w.rest

/-- Handler `i` is inside, with `body` before it up to the release. Alone it would leave the context
of the history. -/
structure Holds (ctx : KernelCounterContext) (S : Concurrent K) (i : Nat) (w : Worker K)
    (body : Asm (Option Asm.Popped)) : Prop where
  rest : w.rest = body >>= Block.released K
  on : body.On w.place Cell.guarded S.memory
  shows : ∃ t s, Shows ((body.alone S.memory).2.view w.place) ⟨t, s, serial ctx S.history, 1⟩
  answers : Answers ctx S.history i w.op (body.alone S.memory).1

/-- Handler `i` is through. -/
def Over (ctx : KernelCounterContext) (S : Concurrent K) (i : Nat) (w : Worker K) : Prop :=
  ∃ r, w.rest = .ret r ∧ Answers ctx S.history i w.op r

/-- The invariant, where `holder` is inside. -/
structure Inv (ctx : KernelCounterContext) (S : Concurrent K) (holder : Option Nat) : Prop where
  pending : PendingInv (serial ctx S.history).pending
  once : (S.history.map (·.worker)).Nodup
  known : ∀ e ∈ S.history, ∃ w, S.workers[e.worker]? = some w ∧ w.op = e.op
  tasks : ∀ w ∈ S.workers, w.op.task ≠ 0
  spares : ∀ (i j : Nat) (w w' : Worker K), i ≠ j → S.workers[i]? = some w →
    S.workers[j]? = some w' → w.Running → w'.Running → w.place.Spares w'.place
  free : holder = none → ContextShows K S.memory (serial ctx S.history)
  held : ∀ i, holder = some i → ∃ w body, S.workers[i]? = some w ∧ S.Holds ctx i w body
  others : ∀ i w, S.workers[i]? = some w → holder ≠ some i → S.Waits i w ∨ S.Over ctx i w

end Concurrent

theorem serial_concat {ctx : KernelCounterContext} {history : List Settled} {e : Settled} :
    serial ctx (history ++ [e]) = e.op.attempt e.acquired (serial ctx history) := run_concat

theorem Answers.append {ctx : KernelCounterContext} {history : List Settled} {i : Nat}
    {op : PendingOp} {r : Option Asm.Popped} (h : Answers ctx history i op r)
    (new : List Settled) : Answers ctx (history ++ new) i op r := by
  obtain ⟨before, after, acquired, rfl, hr⟩ := h
  exact ⟨before, after ++ new, acquired, by simp, hr⟩

/-- What a handler finds when it enters its block depends on words outside of the context. -/
theorem PendingOp.Enters.congr {K : ContextAddress} {P : Workspace K} {M M' : Memory}
    {op : PendingOp} (h : op.Enters P M)
    (hview : ∀ d : Cell, d.member = none → M'.view P d = M.view P d) : op.Enters P M' := by
  have hoside {t : TaskIdentity} {s : ParserScratch} (ho : OutsideShows (M.view P) t s) :
      OutsideShows (M'.view P) t s := fun d v hd hv => (hview d hd).trans (ho d v hd hv)
  cases op with
  | push t id s =>
    obtain ⟨hx27, hx26, ho⟩ := h
    exact ⟨hx27, hx26, hoside ho⟩
  | pop task terminal s =>
    obtain ⟨t, hx27, htask, ho⟩ := h
    exact ⟨t, hx27, htask, hoside ho⟩

/-- A stage survives what others do to the lock word. -/
theorem PendingOp.Stage.congr {K : ContextAddress} {P : Workspace K} {op : PendingOp}
    {W W' : ExclusiveWord UInt64} {m : Option Nat} {p : Asm (Option Asm.Popped)}
    (h : op.Stage P W m p) (hW : W' = W ∨ ∃ v, W' = W.store v) : op.Stage P W' m p := by
  cases h with
  | entered hop => exact .entered hop
  | ignoring hway => exact .ignoring hway
  | trying hway n => exact .trying hway n
  | clearing hway n => exact .clearing hway n
  | storing hway n hc =>
    refine .storing hway n ?_
    rcases hW with rfl | ⟨v, rfl⟩
    · exact hc
    · exact hc.store v _

namespace Concurrent

variable {K : ContextAddress} {ctx : KernelCounterContext} {S S' : Concurrent K} {i : Nat}
  {w w' : Worker K}

theorem Waits.congr {new : List Settled} (h : S.Waits i w)
    (hview : ∀ d : Cell, d.member = none →
      S'.memory.view w.place d = S.memory.view w.place d)
    (hW : S'.lockWord K.lock = S.lockWord K.lock ∨
      ∃ v, S'.lockWord K.lock = (S.lockWord K.lock).store v)
    (hhistory : S'.history = S.history ++ new) (hnew : ∀ e ∈ new, e.worker ≠ i) :
    S'.Waits i w where
  fresh e he := by
    rw [hhistory] at he
    rcases List.mem_append.1 he with he | he
    · exact h.fresh e he
    · exact hnew e he
  enters := h.enters.congr hview
  stage := h.stage.congr hW

theorem Over.congr {new : List Settled} (h : S.Over ctx i w)
    (hhistory : S'.history = S.history ++ new) : S'.Over ctx i w := by
  obtain ⟨r, hr, hanswers⟩ := h
  exact ⟨r, hr, hhistory ▸ hanswers.append new⟩

theorem Waits.running (h : S.Waits i w) : w.Running := by
  obtain ⟨op, P, p, m⟩ := w
  have hstage : op.Stage P (S.lockWord K.lock) m p := h.stage
  rintro r rfl
  generalize hp : (Prog.ret r : Asm (Option Asm.Popped)) = p at hstage
  cases hstage with
  | entered hop => cases hop; cases hp
  | ignoring | storing | clearing => cases hp
  | trying hway n => cases n <;> cases hp

theorem Holds.running {body : Asm (Option Asm.Popped)} (h : S.Holds ctx i w body) :
    w.Running := by
  intro r hr
  have hrest := h.rest
  rw [hr] at hrest
  cases body <;> cases hrest

/-- Who is inside finds the lock word busy. -/
theorem Holds.locked {body : Asm (Option Asm.Popped)} (h : S.Holds ctx i w body) :
    S.memory.load K.lock 8 = 1 := by
  obtain ⟨t, s, hshows⟩ := h.shows
  have hlast := h.on.view_of_not (d := .lock) rfl
  rw [hshows .lock 1 rfl] at hlast
  exact hlast.symm

/-- Who is inside goes on as if the words it may access had not changed. -/
theorem Holds.congr {body : Asm (Option Asm.Popped)} (h : S.Holds ctx i w body)
    (hview : S'.memory.view w.place = S.memory.view w.place) (hhistory : S'.history = S.history) :
    S'.Holds ctx i w body := by
  have hsame : ∀ d, Cell.guarded d = true →
      S'.memory.view w.place d = S.memory.view w.place d :=
    fun d _ => congrFun hview d
  obtain ⟨hon, hret, hlast⟩ := h.on.congr hsame
  have hlast' : (body.alone S'.memory).2.view w.place = (body.alone S.memory).2.view w.place := by
    funext d
    rw [hlast d]
    split
    · rfl
    · rename_i hd
      rw [hview, h.on.view_of_not (Bool.eq_false_iff.2 hd)]
  exact ⟨h.rest, hon, by rw [hlast', hhistory]; exact h.shows, by
    rw [hret, hhistory]; exact h.answers⟩

/-- **The rule for a step.** Handler `i` becomes `w'`; it may count, and what the others have is
left. -/
theorem Inv.replace {holder holder' : Option Nat} {new : List Settled} (h : S.Inv ctx holder)
    (hi : S.workers[i]? = some w) (hrunning : w.Running)
    (hworkers : S'.workers = S.workers.set i w') (hop : w'.op = w.op) (hplace : w'.place = w.place)
    (hhistory : S'.history = S.history ++ new)
    (hnew : new = [] ∨
      (∀ e ∈ S.history, e.worker ≠ i) ∧ ∃ acquired, new = [⟨i, w.op, acquired⟩])
    (hview : ∀ P : Workspace K, w.place.Spares P → ∀ d : Cell, d.member = none →
      S'.memory.view P d = S.memory.view P d)
    (hW : S'.lockWord K.lock = S.lockWord K.lock ∨
      ∃ v, S'.lockWord K.lock = (S.lockWord K.lock).store v)
    (hfree : holder' = none → ContextShows K S'.memory (serial ctx S'.history))
    (hheld : ∀ j, holder' = some j → ∃ w body, S'.workers[j]? = some w ∧ S'.Holds ctx j w body)
    (hself : holder' ≠ some i → S'.Waits i w' ∨ S'.Over ctx i w')
    (hothers : ∀ j ≠ i, holder' ≠ some j → holder ≠ some j) : S'.Inv ctx holder' := by
  obtain ⟨hlt, -⟩ := List.getElem?_eq_some_iff.1 hi
  have hself' : S'.workers[i]? = some w' := by rw [hworkers, List.getElem?_set_self hlt]
  have hother {j : Nat} (hj : j ≠ i) : S'.workers[j]? = S.workers[j]? := by
    rw [hworkers, List.getElem?_set_ne hj.symm]
  have hold : ∀ e ∈ new, e.worker = i := by
    rcases hnew with rfl | ⟨-, acquired, rfl⟩
    · exact fun e he => (by cases he)
    · exact fun e he => (by rw [List.mem_singleton.1 he])
  have hwas (j : Nat) (u : Worker K) (hu : S'.workers[j]? = some u) (hur : u.Running) :
      ∃ v, S.workers[j]? = some v ∧ v.Running ∧ v.place = u.place := by
    by_cases hj : j = i
    · subst hj
      rw [hself'] at hu
      cases hu
      exact ⟨w, hi, hrunning, hplace.symm⟩
    · rw [hother hj] at hu
      exact ⟨u, hu, hur, rfl⟩
  refine ⟨?_, ?_, fun e he => ?_, fun u hu => ?_, fun j k u v hjk hu hv hur hvr => ?_, hfree, hheld,
    fun j u hu hj => ?_⟩
  · rcases hnew with rfl | ⟨-, acquired, rfl⟩
    · rw [hhistory, List.append_nil]
      exact h.pending
    · rw [hhistory, serial_concat]
      exact PendingOp.attempt_inv h.pending (h.tasks w (List.mem_of_getElem? hi)) acquired
  · rcases hnew with rfl | ⟨hfresh, acquired, rfl⟩
    · rw [hhistory, List.append_nil]
      exact h.once
    · rw [hhistory, List.map_append, List.nodup_append]
      refine ⟨h.once, List.nodup_singleton _, fun a ha b hb hab => ?_⟩
      obtain ⟨e, he, rfl⟩ := List.mem_map.1 ha
      exact hfresh e he (hab.trans (List.mem_singleton.1 hb))
  · have hmem : ∀ e ∈ S.history, ∃ u, S'.workers[e.worker]? = some u ∧ u.op = e.op := by
      intro e he
      obtain ⟨u, hu, hue⟩ := h.known e he
      by_cases hj : e.worker = i
      · rw [hj, hi] at hu
        cases hu
        exact ⟨w', by rw [hj, hself'], hop.trans hue⟩
      · exact ⟨u, by rw [hother hj, hu], hue⟩
    rw [hhistory] at he
    rcases List.mem_append.1 he with he | he
    · exact hmem e he
    · rcases hnew with rfl | ⟨-, acquired, rfl⟩
      · cases he
      · rw [List.mem_singleton.1 he]
        exact ⟨w', hself', hop⟩
  · rw [hworkers] at hu
    rcases List.mem_or_eq_of_mem_set hu with hu | rfl
    · exact h.tasks u hu
    · rw [hop]
      exact h.tasks w (List.mem_of_getElem? hi)
  · obtain ⟨u', hu', hur', hpu⟩ := hwas j u hu hur
    obtain ⟨v', hv', hvr', hpv⟩ := hwas k v hv hvr
    rw [← hpu, ← hpv]
    exact h.spares j k u' v' hjk hu' hv' hur' hvr'
  · by_cases hji : j = i
    · subst hji
      rw [hself'] at hu
      cases hu
      exact hself hj
    · rw [hother hji] at hu
      rcases h.others j u hu (hothers j hji hj) with hwaits | hover
      · have hur : u.Running := hwaits.running
        refine .inl (hwaits.congr (hview u.place ?_) hW hhistory fun e he => ?_)
        · exact h.spares i j w u (Ne.symm hji) hi hu hrunning hur
        · rw [hold e he]
          exact Ne.symm hji
      · exact .inr (hover.congr hhistory)

/-- The next state, where handler `i` becomes `w` and may count. -/
def stepped (S : Concurrent K) (i : Nat) (w : Worker K) (mem : SharedMemory)
    (settled : Option Bool) : Concurrent K :=
  ⟨mem, S.workers.set i w, S.history ++ settled.toList.map fun acquired => ⟨i, w.op, acquired⟩⟩

section
variable {c : Access} {k : UInt64 → Asm (Option Asm.Popped)} {spurious : Bool} {r : UInt64}
  {mem : SharedMemory} {m : Option Nat}

theorem act_call (hi : S.workers[i]? = some w) (hrest : w.rest = .call c k)
    (hr : c.shared K.lock spurious S.toSharedMemory w.monitor = (r, mem, m)) :
    S.act i spurious = S.stepped i ⟨w.op, w.place, k r, m⟩ mem (c.settles K r) := by
  simp only [act, hi, hrest, hr, stepped]

theorem act_ret {r : Option Asm.Popped} (hi : S.workers[i]? = some w) (hrest : w.rest = .ret r) :
    S.act i spurious = S := by
  simp only [act, hi, hrest]

theorem shared_memory (hr : c.shared K.lock spurious S.toSharedMemory w.monitor = (r, mem, m)) :
    mem = S.toSharedMemory.did K.lock c ∨ mem = S.toSharedMemory := by
  cases c with
  | ldr | str | stlr | ldaddal | ldaxr | clrex =>
    cases hr
    exact .inl rfl
  | stxr v a =>
    simp only [Access.shared] at hr
    split at hr
    · cases hr
      exact .inl rfl
    · cases hr
      exact .inr rfl

/-- The rule for an access. -/
theorem Inv.access {holder holder' : Option Nat} {settled : Option Bool} (h : S.Inv ctx holder)
    (hi : S.workers[i]? = some w) (hrest : w.rest = .call c k) (hon : c.On w.place Cell.all)
    (hr : c.shared K.lock spurious S.toSharedMemory w.monitor = (r, mem, m))
    (hsettles : c.settles K r = settled) (hw' : w' = ⟨w.op, w.place, k r, m⟩)
    (hnew : settled = none ∨ ∀ e ∈ S.history, e.worker ≠ i)
    (hfree : holder' = none →
      ContextShows K mem.memory (serial ctx (S.stepped i w' mem settled).history))
    (hheld : ∀ j, holder' = some j → ∃ w body,
      (S.stepped i w' mem settled).workers[j]? = some w ∧
        (S.stepped i w' mem settled).Holds ctx j w body)
    (hself : holder' ≠ some i →
      (S.stepped i w' mem settled).Waits i w' ∨ (S.stepped i w' mem settled).Over ctx i w')
    (hothers : ∀ j ≠ i, holder' ≠ some j → holder ≠ some j) :
    (S.act i spurious).Inv ctx holder' := by
  rw [act_call hi hrest hr, hsettles, ← hw']
  have hop : w'.op = w.op := hw' ▸ rfl
  refine h.replace hi (fun r hr => ?_) rfl hop (hw' ▸ rfl) rfl ?_ (fun P hP d hd => ?_) ?_ hfree
    hheld hself hothers
  · rw [hrest] at hr
    cases hr
  · cases settled with
    | none => exact .inl rfl
    | some acquired => exact .inr ⟨hnew.resolve_left nofun, acquired, by rw [← hop]; rfl⟩
  · rcases shared_memory hr with rfl | rfl
    · exact hon.outside hP hd
    · rfl
  · rcases shared_memory hr with rfl | rfl
    · exact hon.lockWord
    · exact .inl rfl

end

/-- Another handler gives up or ignores its transaction. -/
theorem Holds.count {body : Asm (Option Asm.Popped)} (h : S.Holds ctx i w body)
    {c : PendingCounter} (hc : Cell.guarded (.counter c) = false) {e : Settled}
    (hmem : S'.memory = ((Access.ldaddal 1 (K.kaddr + c.offset)).alone S.memory).2)
    (he : e.op.attempt e.acquired (serial ctx S.history) =
      (serial ctx S.history).emitCounterIncrement c.counter)
    (hhistory : S'.history = S.history ++ [e]) : S'.Holds ctx i w body := by
  have hview : S'.memory.view w.place = Function.update (S.memory.view w.place) (.counter c)
      (S.memory.view w.place (.counter c) + 1) := by
    rw [hmem]
    exact Memory.view_store (P := w.place) (c := .counter c) Memory.load_store_eight
  have hsame : ∀ d, Cell.guarded d = true →
      S'.memory.view w.place d = S.memory.view w.place d := by
    intro d hd
    rw [hview, Function.update_of_ne]
    rintro rfl
    exact Bool.false_ne_true (hc.symm.trans hd)
  obtain ⟨hon, hret, hlast⟩ := h.on.congr hsame
  have hlast' : (body.alone S'.memory).2.view w.place =
      Function.update ((body.alone S.memory).2.view w.place) (.counter c)
        ((body.alone S.memory).2.view w.place (.counter c) + 1) := by
    funext d
    rw [hlast d, h.on.view_of_not hc, hview]
    by_cases hd : d = .counter c
    · subst hd
      rw [if_neg (Bool.eq_false_iff.1 hc), Function.update_self, Function.update_self]
    · rw [Function.update_of_ne hd, Function.update_of_ne hd]
      split
      · rfl
      · rename_i hout
        exact (h.on.view_of_not (Bool.eq_false_iff.2 hout)).symm
  obtain ⟨t, s, hshows⟩ := h.shows
  refine ⟨h.rest, hon, ⟨t, s, ?_⟩, by rw [hret, hhistory]; exact h.answers.append _⟩
  rw [hlast', hhistory, serial_concat, he]
  exact hshows.count c

/-! ### Handlers that do not count yet -/

section
variable {holder : Option Nat} {c : Access} {k : UInt64 → Asm (Option Asm.Popped)}
  {spurious : Bool} {r : UInt64} {m : Option Nat}

/-- What is inside stays there. -/
theorem Inv.held_of_ne {j : Nat} (h : S.Inv ctx holder) (hne : holder ≠ some i)
    (hj : holder = some j) {mem : SharedMemory} {settled : Option Bool}
    (hholds : ∀ u body, S.Holds ctx j u body →
      (S.stepped i w mem settled).Holds ctx j u body) :
    ∃ u body, (S.stepped i w mem settled).workers[j]? = some u ∧
      (S.stepped i w mem settled).Holds ctx j u body := by
  obtain ⟨u, body, hu, hbody⟩ := h.held j hj
  have hij : i ≠ j := by
    rintro rfl
    exact hne hj
  exact ⟨u, body, (List.getElem?_set_ne hij).trans hu, hholds u body hbody⟩

theorem stepped_none {mem : SharedMemory} :
    (S.stepped i w mem none).history = S.history := List.append_nil _

/-- A step to another stage, with memory as it was. -/
theorem Inv.quiet (h : S.Inv ctx holder) (hi : S.workers[i]? = some w) (hne : holder ≠ some i)
    (hwaits : S.Waits i w) (hrest : w.rest = .call c k) (hon : c.On w.place Cell.all)
    (hr : c.shared K.lock spurious S.toSharedMemory w.monitor = (r, S.toSharedMemory, m))
    (hsettles : c.settles K r = none)
    (hstage : w.op.Stage w.place (S.lockWord K.lock) m (k r)) :
    (S.act i spurious).Inv ctx holder := by
  refine h.access hi hrest hon hr hsettles rfl (.inl rfl) (fun hnone => ?_) (fun j hj => ?_)
    (fun _ => ?_) fun _ _ hj => hj
  · rw [stepped_none]
    exact h.free hnone
  · exact h.held_of_ne hne hj fun u body hbody => hbody.congr rfl stepped_none
  · refine .inl ⟨?_, hwaits.enters, hstage⟩
    rw [stepped_none]
    exact hwaits.fresh

/-- What a handler that does not count yet finds outside of the context. -/
theorem Waits.outside (h : S.Waits i w) : ∃ t s, OutsideShows (S.memory.view w.place) t s := by
  have henters := h.enters
  cases hop : w.op with
  | push t id s =>
    rw [hop] at henters
    exact ⟨t, s, henters.2.2⟩
  | pop task terminal s =>
    rw [hop] at henters
    obtain ⟨t, -, -, ho⟩ := henters
    exact ⟨t, s, ho⟩

/-- A step that counts one that does not take the lock. -/
theorem Inv.giveUp (h : S.Inv ctx holder) (hi : S.workers[i]? = some w) (hne : holder ≠ some i)
    (hwaits : S.Waits i w)
    (hrest : w.rest = .call (.ldaddal 1 (K.kaddr + w.op.givenUp.offset))
      fun _ => .ret (w.op.block w.place).nothing) : (S.act i spurious).Inv ctx holder := by
  have hguarded : Cell.guarded (.counter w.op.givenUp) = false := by
    unfold PendingOp.givenUp
    split <;> rfl
  have hsettles (r : UInt64) :
      (Access.ldaddal 1 (K.kaddr + w.op.givenUp.offset)).settles K r = some false := by
    unfold PendingOp.givenUp
    split
    · exact if_pos (.inr rfl)
    · exact if_pos (.inl rfl)
  have hattempt : w.op.attempt false (serial ctx S.history) = _ := PendingOp.attempt_false
  refine h.access hi hrest ⟨.counter w.op.givenUp, rfl, rfl⟩ rfl (hsettles _) rfl
    (.inr hwaits.fresh) (fun hnone => ?_) (fun j hj => ?_) (fun _ => ?_) fun _ _ hj => hj
  · have hcontext := h.free hnone
    obtain ⟨t, s, ho⟩ := hwaits.outside
    have hshows := (hcontext.shows ho).count w.op.givenUp
    have hstore : Shows (((Access.ldaddal 1 (K.kaddr + w.op.givenUp.offset)).alone
        S.memory).2.view w.place) (Records.count ⟨t, s, serial ctx S.history, 0⟩ w.op.givenUp) := by
      have hview := Memory.view_store (P := w.place) (M := S.memory) (c := .counter w.op.givenUp)
        (v := S.memory.view w.place (.counter w.op.givenUp) + 1) Memory.load_store_eight
      rw [← hview] at hshows
      exact hshows
    rw [stepped, Option.toList_some, List.map_singleton, serial_concat, hattempt]
    exact hstore.context rfl
  · exact h.held_of_ne hne hj fun u body hbody => hbody.count hguarded rfl hattempt rfl
  · exact .inr ⟨_, rfl, S.history, [], false, rfl, PendingOp.answer_false.symm⟩

/-- A store-exclusive that is done takes the lock. -/
theorem Inv.acquire {n : Nat} (h : S.Inv ctx holder) (hi : S.workers[i]? = some w)
    (hwaits : S.Waits i w) (hway : w.op.oneWay = false)
    (hW : (S.lockWord K.lock).Coherent w.monitor (some 0))
    (hrest : w.rest = .call (.stxr 1 K.lock) fun w13 =>
      (w.op.block w.place).retrying n (w13 == 0))
    (hmonitor : w.monitor = some S.lockStores) : (S.act i false).Inv ctx (some i) := by
  have hword : S.memory.load K.lock 8 = 0 := (Option.some.inj (hW.current hmonitor)).symm
  have hnone : holder = none := by
    cases holder with
    | none => rfl
    | some j =>
      obtain ⟨u, body, -, hbody⟩ := h.held j rfl
      have hzero := hbody.locked
      rw [hword] at hzero
      cases hzero
  have hr : (Access.stxr 1 K.lock).shared K.lock false S.toSharedMemory w.monitor =
      (0, S.toSharedMemory.did K.lock (.stxr 1 K.lock), none) := if_pos ⟨rfl, hmonitor, rfl⟩
  obtain ⟨hlt, -⟩ := List.getElem?_eq_some_iff.1 hi
  refine h.access hi hrest ⟨rfl, rfl⟩ hr (if_pos ⟨rfl, rfl⟩) rfl (.inr hwaits.fresh) nofun
    (fun j hj => ?_) (fun hne => absurd rfl hne) fun j _ _ => by rw [hnone]; nofun
  obtain rfl := Option.some.inj hj
  obtain ⟨t, s, s', ho, htakes⟩ := PendingOp.guarded_takes hwaits.enters hway h.pending
    (h.tasks w (List.mem_of_getElem? hi))
  have hview : ((Access.stxr 1 K.lock).alone S.memory).2.view w.place =
      Function.update (S.memory.view w.place) .lock 1 :=
    Memory.view_store (P := w.place) (c := .lock) Memory.load_store_eight
  have hshows := ((h.free hnone).shows ho).setLock 1
  rw [← hview] at hshows
  obtain ⟨⟨hret, hlast⟩, hon⟩ := htakes _ hshows _ rfl
  refine ⟨_, (w.op.block w.place).guarded, List.getElem?_set_self hlt, rfl, hon, ⟨t, s', ?_⟩,
    S.history, [], true, rfl, hret⟩
  rw [stepped, Option.toList_some, List.map_singleton, serial_concat]
  exact hlast

/-- **The step of a handler that does not count yet.** -/
theorem Inv.waiting (h : S.Inv ctx holder) (hi : S.workers[i]? = some w) (hne : holder ≠ some i)
    (hwaits : S.Waits i w) (spurious : Bool) : ∃ holder', (S.act i spurious).Inv ctx holder' := by
  obtain ⟨op, P, p, m⟩ := w
  have hstage : op.Stage P (S.lockWord K.lock) m p := hwaits.stage
  cases hstage with
  | @entered t id s hop =>
    subst hop
    have hflags : S.memory.load ((Cell.scratch .flags).addr P) 4 = s.transaction.flags.toUInt64 :=
      hwaits.enters.2.2 (.scratch .flags) _ rfl rfl
    have hr : (Access.ldr ((Cell.scratch .flags).addr P) 4).shared K.lock spurious
        S.toSharedMemory m = (s.transaction.flags.toUInt64, S.toSharedMemory, m) := by
      rw [← hflags]
      rfl
    refine ⟨holder, h.quiet hi hne hwaits (Block.code_push _ _) ⟨.scratch .flags, rfl, rfl⟩ hr rfl
      ?_⟩
    change PendingOp.Stage _ P _ m (if s.transaction.flags.toUInt64.toUInt32 &&& 1 ≠ 0 then _ else _)
    rw [UInt32.toUInt32_toUInt64]
    by_cases hway : s.transaction.flags &&& 1 ≠ 0
    · rw [if_pos hway]
      exact .ignoring (bne_iff_ne.2 hway)
    · rw [if_neg hway]
      exact .trying (by simpa [PendingOp.oneWay, BinderTransactionData.oneWay] using hway)
        kMapLockTryCount
  | ignoring hway =>
    have hcounter : op.givenUp = .onewayIgnored := if_pos hway
    exact ⟨holder, h.giveUp hi hne hwaits (by rw [hcounter]; rfl)⟩
  | trying hway n =>
    cases n with
    | zero =>
      have hcounter : op.givenUp = .lockDrops := if_neg (Bool.eq_false_iff.1 hway)
      exact ⟨holder, h.giveUp hi hne hwaits (by rw [hcounter]; rfl)⟩
    | succ n =>
      have hr : (Access.ldaxr K.lock).shared K.lock spurious S.toSharedMemory m =
          (S.memory.load K.lock 8, S.toSharedMemory, some S.lockStores) :=
        congrArg (fun m => (_, _, m)) (if_pos rfl)
      refine ⟨holder, h.quiet hi hne hwaits (Block.trying_succ _ n) ⟨rfl, rfl⟩ hr rfl ?_⟩
      change PendingOp.Stage _ P _ _ ((if S.memory.load K.lock 8 = 0 then _ else _) >>= _)
      by_cases hfree : S.memory.load K.lock 8 = 0
      · rw [if_pos hfree]
        refine .storing hway n ?_
        rw [← hfree]
        exact .load
      · rw [if_neg hfree]
        exact .clearing hway n
  | storing hway n hW =>
    by_cases hok : m = some S.lockStores ∧ spurious = false
    · obtain ⟨hmonitor, rfl⟩ := hok
      exact ⟨some i, h.acquire hi hwaits hway hW rfl hmonitor⟩
    · have hr : (Access.stxr 1 K.lock).shared K.lock spurious S.toSharedMemory m =
          (1, S.toSharedMemory, none) := if_neg fun h => hok h.2
      have hsettles : (Access.stxr 1 K.lock).settles K 1 = none := if_neg fun h =>
        absurd h.2 (by decide)
      exact ⟨holder, h.quiet hi hne hwaits rfl ⟨rfl, rfl⟩ hr hsettles (.clearing hway n)⟩
  | clearing hway n =>
    exact ⟨holder, h.quiet hi hne hwaits rfl trivial rfl rfl (.trying hway n)⟩

/-! ### The handler inside -/

/-- An access between label `acquired` and the release is done, and counts nothing. -/
theorem guarded_shared {P : Workspace K} (hc : c.On P Cell.guarded) :
    (∃ m', c.shared K.lock spurious S.toSharedMemory m =
      ((c.alone S.memory).1, S.toSharedMemory.did K.lock c, m')) ∧ c.settles K r = none := by
  cases c with
  | ldr a n | str v a n | stlr v a | clrex => exact ⟨⟨_, rfl⟩, rfl⟩
  | ldaxr a | stxr v a => cases hc.1
  | ldaddal v a =>
    obtain ⟨e, he, rfl⟩ := hc
    have hguarded := Cell.kind_of_stores he
    refine ⟨⟨_, rfl⟩, if_neg ?_⟩
    rintro (hdrops | hignored)
    · have he : e = .counter .lockDrops := Cell.addr_inj hdrops
      rw [he] at hguarded
      cases hguarded
    · have he : e = .counter .onewayIgnored := Cell.addr_inj hignored
      rw [he] at hguarded
      cases hguarded

/-- **The step of the handler inside.** -/
theorem Inv.inside (h : S.Inv ctx (some i)) (spurious : Bool) :
    ∃ holder', (S.act i spurious).Inv ctx holder' := by
  obtain ⟨w, body, hi, hrest, hon, ⟨t, s, hshows⟩, hanswers⟩ := h.held i rfl
  obtain ⟨hlt, -⟩ := List.getElem?_eq_some_iff.1 hi
  cases body with
  | ret a =>
    have hrelease : w.rest = .call (.stlr 0 K.lock) fun _ => .ret a := hrest
    have hr : (Access.stlr 0 K.lock).shared K.lock spurious S.toSharedMemory w.monitor =
      (0, S.toSharedMemory.did K.lock (.stlr 0 K.lock), w.monitor) := rfl
    have hsettles : (Access.stlr 0 K.lock).settles K 0 = none := rfl
    refine ⟨none, h.access hi hrelease ⟨.lock, rfl, rfl⟩ hr hsettles rfl (.inl rfl) (fun _ => ?_)
      nofun (fun _ => .inr ⟨a, rfl, ?_⟩) fun j hj _ => ?_⟩
    · have hview : ((Access.stlr 0 K.lock).alone S.memory).2.view w.place =
          Function.update (S.memory.view w.place) .lock 0 :=
        Memory.view_store (P := w.place) (c := .lock) Memory.load_store_eight
      have hfreed := hshows.setLock 0
      rw [stepped_none]
      change Shows (Function.update (S.memory.view w.place) .lock 0) _ at hfreed
      rw [← hview] at hfreed
      exact hfreed.context rfl
    · rw [stepped_none]
      exact hanswers
    · exact fun h => hj (Option.some.inj h).symm
  | call c k =>
    obtain ⟨hc, hk⟩ := hon
    obtain ⟨⟨m', hr⟩, hsettles⟩ := @guarded_shared K S c spurious
      (c.alone S.memory).1 w.monitor _ hc
    refine ⟨some i, h.access hi hrest hc.all hr hsettles rfl (.inl rfl) nofun (fun j hj => ?_)
      (fun hne => absurd rfl hne) fun _ _ hj => hj⟩
    obtain rfl := Option.some.inj hj
    refine ⟨_, k (c.alone S.memory).1, List.getElem?_set_self hlt, rfl, hk, ⟨t, s, ?_⟩, ?_⟩
    · rw [stepped_none]
      exact hshows
    · rw [stepped_none]
      exact hanswers

end

/-! ### Runs -/

/-- The step lemma. -/
theorem Inv.act {holder : Option Nat} (h : S.Inv ctx holder) (i : Nat) (spurious : Bool) :
    ∃ holder', (S.act i spurious).Inv ctx holder' := by
  by_cases hne : holder = some i
  · subst hne
    exact h.inside spurious
  · cases hi : S.workers[i]? with
    | none =>
      have hsame : S.act i spurious = S := by simp only [Concurrent.act, hi]
      rw [hsame]
      exact ⟨holder, h⟩
    | some w =>
      rcases h.others i w hi hne with hwaits | ⟨r, hr, -⟩
      · exact h.waiting hi hne hwaits spurious
      · rw [act_ret hi hr]
        exact ⟨holder, h⟩

theorem Inv.enter {holder : Option Nat} {op : PendingOp} {P : Workspace K} (h : S.Inv ctx holder)
    (htask : op.task ≠ 0) (henters : op.Enters P S.memory)
    (hspares : ∀ w ∈ S.workers, w.Running → w.place.Spares P ∧ P.Spares w.place) :
    (S.enter op P).Inv ctx holder := by
  have hlt {j : Nat} {u : Worker K} (hu : S.workers[j]? = some u) : j < S.workers.length :=
    (List.getElem?_eq_some_iff.1 hu).1
  have hold {j : Nat} {u : Worker K} (hu : S.workers[j]? = some u) :
      (S.enter op P).workers[j]? = some u := by
    rw [Concurrent.enter, List.getElem?_append_left (hlt hu), hu]
  -- a handler was there before, or is the one that enters
  have hcases {j : Nat} {u : Worker K} (hu : (S.enter op P).workers[j]? = some u) :
      S.workers[j]? = some u ∨ j = S.workers.length ∧ u = ⟨op, P, (op.block P).code, none⟩ := by
    rw [Concurrent.enter, List.getElem?_append] at hu
    split at hu
    · exact .inl hu
    · rename_i hj
      rw [List.getElem?_singleton] at hu
      split at hu
      · rename_i hzero
        exact .inr ⟨by omega, (Option.some.inj hu).symm⟩
      · cases hu
  have hfresh : ∀ e ∈ S.history, e.worker ≠ S.workers.length := fun e he hlen => by
    obtain ⟨u, hu, -⟩ := h.known e he
    have := hlt hu
    omega
  refine ⟨h.pending, h.once, fun e he => ?_, fun u hu => ?_, fun j k u v hjk hu hv hur hvr => ?_,
    h.free, fun j hj => ?_, fun j u hu hj => ?_⟩
  · obtain ⟨u, hu, hop⟩ := h.known e he
    exact ⟨u, hold hu, hop⟩
  · rcases List.mem_append.1 hu with hu | hu
    · exact h.tasks u hu
    · rw [List.mem_singleton.1 hu]
      exact htask
  · rcases hcases hu with hu | ⟨rfl, rfl⟩
    · rcases hcases hv with hv | ⟨rfl, rfl⟩
      · exact h.spares j k u v hjk hu hv hur hvr
      · exact (hspares u (List.mem_of_getElem? hu) hur).1
    · rcases hcases hv with hv | ⟨rfl, rfl⟩
      · exact (hspares v (List.mem_of_getElem? hv) hvr).2
      · exact absurd rfl hjk
  · obtain ⟨u, body, hu, hbody⟩ := h.held j hj
    exact ⟨u, body, hold hu, hbody.rest, hbody.on, hbody.shows, hbody.answers⟩
  · rcases hcases hu with hu | ⟨rfl, rfl⟩
    · exact (h.others j u hu hj).imp (fun hw => ⟨hw.fresh, hw.enters, hw.stage⟩) id
    · refine .inl ⟨hfresh, henters, ?_⟩
      cases op with
      | push t id s => exact .entered rfl
      | pop task terminal s =>
        have hcode : (PendingOp.block P (.pop task terminal s)).code = _ := Block.code_pop _ _
        rw [hcode]
        exact .trying rfl kMapLockTryCount

theorem Inv.other {holder : Option Nat} {M' : Memory} (h : S.Inv ctx holder)
    (hsame : S.Undisturbed M') : Inv ctx { S with memory := M' } holder := by
  have hlock : M'.load K.lock 8 = S.memory.load K.lock 8 := hsame.context .lock 216 rfl
  have hW : (SharedMemory.mk M' S.lockStores).lockWord K.lock = S.lockWord K.lock := by
    rw [SharedMemory.lockWord, SharedMemory.lockWord, hlock]
  have hview {u : Worker K} (hu : u ∈ S.workers) (hur : u.Running) :
      M'.view u.place = S.memory.view u.place := by
    funext d
    cases hd : d.member with
    | none => exact hsame.outside u hu hur d hd
    | some o =>
      rw [Memory.view, Memory.view, Cell.addr_member hd]
      exact hsame.context d o hd
  refine ⟨h.pending, h.once, h.known, h.tasks, h.spares, fun hnone c o v hc hv => ?_,
    fun j hj => ?_, fun j u hu hj => ?_⟩
  · exact (hsame.context c o hc).trans (h.free hnone c o v hc hv)
  · obtain ⟨u, body, hu, hbody⟩ := h.held j hj
    exact ⟨u, body, hu, hbody.congr (hview (List.mem_of_getElem? hu) hbody.running) rfl⟩
  · rcases h.others j u hu hj with hwaits | hover
    · have hsee := hview (List.mem_of_getElem? hu) hwaits.running
      have hhistory : S.history = S.history ++ ([] : List Settled) := (List.append_nil _).symm
      exact .inl (hwaits.congr (fun d _ => congrFun hsee d) (.inl hW) hhistory
        fun _ he => absurd he List.not_mem_nil)
    · exact .inr hover

/-- Whatever the order, some handler or none is inside, and the invariant holds. -/
theorem Reached.inv (h : S.Reached ctx) (hI : PendingInv ctx.pending) :
    ∃ holder, S.Inv ctx holder := by
  obtain ⟨M, hM, hsteps⟩ := h
  induction hsteps with
  | refl =>
    have hnone {i : Nat} {w : Worker K} : ([] : List (Worker K))[i]? ≠ some w := by simp
    refine ⟨none, hI, List.nodup_nil, fun e he => ?_, fun w hw => ?_, fun i j w w' _ hi => ?_,
      fun _ => hM, fun i hi => ?_, fun i w hi => ?_⟩
    · cases he
    · cases hw
    · exact absurd hi hnone
    · cases hi
    · exact absurd hi hnone
  | tail _ hstep ih =>
    obtain ⟨holder, hinv⟩ := ih
    cases hstep with
    | enter htask henters hspares => exact ⟨holder, hinv.enter htask henters hspares⟩
    | act i spurious => exact hinv.act i spurious
    | other hsame => exact ⟨holder, hinv.other hsame⟩

/-- What has counted stays, in its order. -/
theorem Steps.history (h : S.Steps S') : S.history <+: S'.history := by
  induction h with
  | refl => exact List.prefix_refl _
  | @tail T T' _ hstep ih =>
    refine ih.trans ?_
    cases hstep with
    | enter | other => exact List.prefix_refl _
    | act i spurious =>
      unfold Concurrent.act
      split
      · exact List.prefix_refl _
      · split
        · exact List.prefix_refl _
        · exact List.prefix_append _ _

/-- Handlers may take turns in any way. -/
theorem Steps.schedule (is : List Nat) (S : Concurrent K) :
    S.Steps (is.foldl (fun S i => S.act i false) S) := by
  induction is generalizing S with
  | nil => exact .refl
  | cons i is ih => exact .head (.act i false) (ih _)

end Concurrent

/-- **Main result: the pending blocks are linearizable.** In every interleaving of any number of
handlers, access by access on the bytes of memory, whenever the lock word is free the words of the
context are those that the operations of the history leave, one after the other; the table is well
placed in there. Each handler counts at most once. What it returns when its block has ended is what
its operation returns at its place in this order, and everything before this place is from handlers
that had entered by then. -/
theorem pending_blocks_linearizable {K : ContextAddress} {ctx : KernelCounterContext}
    {S : Concurrent K} (h : S.Reached ctx) (hI : PendingInv ctx.pending) :
    (S.memory.load K.lock 8 = 0 → ContextShows K S.memory (serial ctx S.history)) ∧
      PendingInv (serial ctx S.history).pending ∧ (S.history.map (·.worker)).Nodup ∧
      ∀ i w r, S.workers[i]? = some w → w.rest = .ret r → ∀ S', S.Steps S' →
        ∃ before after acquired, S'.history = before ++ ⟨i, w.op, acquired⟩ :: after ∧
          r = w.op.answer acquired (serial ctx before) ∧
          ∀ e ∈ before, e.worker < S.workers.length := by
  obtain ⟨holder, hinv⟩ := h.inv hI
  refine ⟨fun hfree => ?_, hinv.pending, hinv.once, fun i w r hi hr S' hS' => ?_⟩
  · cases holder with
    | none => exact hinv.free rfl
    | some j =>
      obtain ⟨u, body, -, hbody⟩ := hinv.held j rfl
      have hlocked := hbody.locked
      rw [hfree] at hlocked
      cases hlocked
  · have hanswers : Answers ctx S.history i w.op r := by
      by_cases hne : holder = some i
      · obtain ⟨u, body, hu, hbody⟩ := hinv.held i hne
        rw [hi] at hu
        cases hu
        exact absurd hr (hbody.running r)
      · rcases hinv.others i w hi hne with hwaits | ⟨r', hr', hanswers⟩
        · exact absurd hr (hwaits.running r)
        · rw [hr] at hr'
          cases hr'
          exact hanswers
    obtain ⟨before, after, acquired, hhistory, hret⟩ := hanswers
    obtain ⟨new, hnew⟩ := hS'.history
    refine ⟨before, after ++ new, acquired, by rw [← hnew, hhistory]; simp, hret, fun e he => ?_⟩
    obtain ⟨u, hu, -⟩ := hinv.known e (by rw [hhistory]; exact List.mem_append_left _ he)
    exact (List.getElem?_eq_some_iff.1 hu).1

theorem pending_blocks_linearizable_push_pop :
    let K : ContextAddress := ⟨0x1000, by decide⟩
    let P : Workspace K :=
      ⟨⟨0x100000, 7, 0x200000, by decide⟩, ⟨8, 12⟩, by decide, by decide, by decide, by decide,
        by decide⟩
    let P' : Workspace K :=
      ⟨⟨0x300000, 0, 0x400000, by decide⟩, ⟨8, 12⟩, by decide, by decide, by decide, by decide,
        by decide⟩
    let S₀ : Concurrent K := ⟨⟨fun _ => 0, 0⟩, [], []⟩
    let S := [0, 0, 1, 0, 1, 0, 1, 0].foldl (fun S i => S.act i false)
      ((S₀.enter (.push ⟨0x200000, 0, 0⟩ 7 .zero) P).enter (.pop 0x400000 false .zero) P')
    (S.memory.load K.lock 8 = 0 → ContextShows K S.memory (serial .zero S.history)) ∧
      PendingInv (serial .zero S.history).pending ∧ (S.history.map (·.worker)).Nodup ∧
      ∀ i w r, S.workers[i]? = some w → w.rest = .ret r → ∀ S', S.Steps S' →
        ∃ before after acquired, S'.history = before ++ ⟨i, w.op, acquired⟩ :: after ∧
          r = w.op.answer acquired (serial .zero before) ∧
          ∀ e ∈ before, e.worker < S.workers.length := by
  intro K P P' S₀ S
  let push : PendingOp := .push ⟨0x200000, 0, 0⟩ 7 .zero
  let pop : PendingOp := .pop 0x400000 false .zero
  have hpush : S₀.Step (S₀.enter push P) :=
    .enter (by decide) ⟨rfl, rfl, outsideShows_zero P _⟩ fun w hw => by cases hw
  have hpop : (S₀.enter push P).Step ((S₀.enter push P).enter pop P') := by
    refine .enter (by decide) ⟨⟨0x400000, 0, 0⟩, rfl, rfl, outsideShows_zero P' _⟩ fun w hw _ => ?_
    rw [List.mem_singleton.1 hw]
    exact ⟨⟨by decide, by decide, by decide⟩, ⟨by decide, by decide, by decide⟩⟩
  exact pending_blocks_linearizable
    ⟨fun _ => 0, contextShows_zero, .head hpush (.head hpop (Concurrent.Steps.schedule _ _))⟩
    emptyPending_inv

end Drmid
