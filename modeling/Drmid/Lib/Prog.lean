import Mathlib.Tactic.TypeStar

/-!
# Programs that make calls

A program is a tree: it returns, or makes a call and goes on with the reply. What a call does is a
function of the state and of an outcome that the environment picks. `run` follows a finite script of
outcomes and is cut off where the script ends; `eval` follows an endless one and always returns.

`Safe` is the weakest precondition of "the invariant holds after every call, and what is returned
meets the postcondition", for the outcomes that are allowed. `Safe.run` and `Safe.eval` turn it into
statements about every run.

`Obeys` is the same idea for a program whose calls others may come between: whatever is replied,
each call is one that the program may make after the calls and replies before it. `Within` bounds
their number.

`runAttempts` is `run` with interruptions: a loop that makes an interrupted call again is the
program that makes it once, run on a script in which the call is interrupted any number of times
(`runAttempts_eq_run`). `Replaces` is what a program owes that puts a record in a file's place, and
`CanReturn` is the other side of `Safe`: some run ends so.
-/

namespace Lib

universe u

/-- A program with calls `C` and replies `R` that returns an `α`. -/
inductive Prog (C R α : Type u) : Type u
  | ret (a : α)
  | call (c : C) (k : R → Prog C R α)

namespace Prog

variable {C R α β O σ : Type u}

def bind : Prog C R α → (α → Prog C R β) → Prog C R β
  | ret a, f => f a
  | call c k, f => call c fun r => (k r).bind f

instance : Monad (Prog C R) where
  pure := ret
  bind := bind

theorem bind_assoc {γ : Type u} (p : Prog C R α) (f : α → Prog C R β) (g : β → Prog C R γ) :
    (p >>= f) >>= g = p >>= fun a => f a >>= g := by
  induction p with
  | ret a => rfl
  | call c k ih => exact congrArg (call c) (funext ih)

/-- The program that makes one call and returns its reply. -/
def perform (c : C) : Prog C R R := call c ret

section
variable (exec : C → O → σ → R × σ)

/-- A run on a script of outcomes: what was returned, unless the script ended first, and the
state. -/
def run : Prog C R α → List O → σ → Option α × σ
  | ret a, _, s => (some a, s)
  | call _ _, [], s => (none, s)
  | call c k, o :: os, s => (k (exec c o s).1).run os (exec c o s).2

/-- The complete run on an endless script. -/
def eval : Prog C R α → (Nat → O) → σ → α × σ
  | ret a, _, s => (a, s)
  | call c k, os, s => (k (exec c (os 0) s).1).eval (fun n => os (n + 1)) (exec c (os 0) s).2

/-- A run in which calls may be interrupted (`none` in the script). An interrupted call has done
nothing: the program makes it again if it is one of the `retried`, and takes it for a failure with
the outcome `failure` if not. -/
def runAttempts (retried : C → Bool) (failure : O) :
    Prog C R α → List (Option O) → σ → Option α × σ
  | ret a, _, s => (some a, s)
  | call _ _, [], s => (none, s)
  | call c k, some o :: os, s =>
    (k (exec c o s).1).runAttempts retried failure os (exec c o s).2
  | call c k, none :: os, s =>
    if retried c then (call c k).runAttempts retried failure os s
    else (k (exec c failure s).1).runAttempts retried failure os (exec c failure s).2

/-- The program replaces what `content` shows as a whole: in every run, cut off anywhere, that is
what it was or the record; it is the record if `good` was returned, and what it was if anything
else was. -/
def Replaces {γ : Type*} (retried : C → Bool) (failure : O) (content : σ → γ) (record : γ)
    (good : α) (p : Prog C R α) : Prop :=
  ∀ (os : List (Option O)) (s : σ),
    (content (p.runAttempts exec retried failure os s).2 = content s ∨
        content (p.runAttempts exec retried failure os s).2 = record) ∧
      ((p.runAttempts exec retried failure os s).1 = some good →
        content (p.runAttempts exec retried failure os s).2 = record) ∧
      ∀ a, (p.runAttempts exec retried failure os s).1 = some a → a ≠ good →
        content (p.runAttempts exec retried failure os s).2 = content s

/-- From `s`, some outcomes make the program return with `Q`. -/
def CanReturn (Q : α → σ → Prop) : Prog C R α → σ → Prop
  | ret a, s => Q a s
  | call c k, s => ∃ o, (k (exec c o s).1).CanReturn Q (exec c o s).2

/-- From `s` and with outcomes in `ok`, the invariant `I` holds after every call, and a value is
returned with `Q` only. -/
def Safe (ok : O → Prop) (I : σ → Prop) (Q : α → σ → Prop) : Prog C R α → σ → Prop
  | ret a, s => Q a s
  | call c k, s =>
    ∀ o, ok o → I (exec c o s).2 ∧ (k (exec c o s).1).Safe ok I Q (exec c o s).2

end

/-- Whatever is replied, the program makes at most so many calls. -/
def Within : Prog C R α → Nat → Prop
  | ret _, _ => True
  | call _ _, 0 => False
  | call _ k, n + 1 => ∀ r, (k r).Within n

/-- Whatever is replied, each call meets `ok` in the ghost state it is made in, and a value is
returned with `Q` only; `note` adds a call and its reply to the ghost state. -/
def Obeys (note : C → R → σ → σ) (ok : C → σ → Prop) (Q : α → σ → Prop) : Prog C R α → σ → Prop
  | ret a, s => Q a s
  | call c k, s => ok c s ∧ ∀ r, (k r).Obeys note ok Q (note c r s)

section
variable {note : C → R → σ → σ} {ok : C → σ → Prop} {s : σ}

theorem Obeys.mono {Q Q' : α → σ → Prop} {p : Prog C R α} (h : p.Obeys note ok Q s)
    (hq : ∀ a s, Q a s → Q' a s) : p.Obeys note ok Q' s := by
  induction p generalizing s with
  | ret a => exact hq a s h
  | call c k ih => exact ⟨h.1, fun r => ih r (h.2 r)⟩

/-- Two programs one after the other obey iff the first does, up to ghost states from where the
second does. -/
theorem obeys_bind {Q : β → σ → Prop} {p : Prog C R α} {f : α → Prog C R β} :
    (p >>= f).Obeys note ok Q s ↔ p.Obeys note ok (fun a => (f a).Obeys note ok Q) s := by
  induction p generalizing s with
  | ret a => exact Iff.rfl
  | call c k ih => exact and_congr_right fun _ => forall_congr' fun r => ih r

end

theorem within_perform (c : C) : (perform c : Prog C R R).Within 1 := fun _ => trivial

theorem Within.mono {p : Prog C R α} {n m : Nat} (h : p.Within n) (hle : n ≤ m) : p.Within m := by
  induction p generalizing n m with
  | ret a => trivial
  | call c k ih =>
    cases n with
    | zero => exact h.elim
    | succ n =>
      cases m with
      | zero => exact absurd hle (Nat.not_succ_le_zero n)
      | succ m => exact fun r => ih r (h r) (Nat.le_of_succ_le_succ hle)

/-- Calls of one program after those of another. -/
theorem Within.bind {p : Prog C R α} {f : α → Prog C R β} {n m : Nat} (hp : p.Within n)
    (hf : ∀ a, (f a).Within m) : (p >>= f).Within (n + m) := by
  induction p generalizing n with
  | ret a => exact (hf a).mono (Nat.le_add_left m n)
  | call c k ih =>
    cases n with
    | zero => exact hp.elim
    | succ n =>
      rw [Nat.succ_add]
      exact fun r => ih r (hp r)

section
variable {exec : C → O → σ → R × σ} {ok : O → Prop} {I : σ → Prop} {s : σ}

theorem safe_perform_bind {Q : α → σ → Prop} {c : C} {k : R → Prog C R α} :
    (perform c >>= k).Safe exec ok I Q s ↔
      ∀ o, ok o → I (exec c o s).2 ∧ (k (exec c o s).1).Safe exec ok I Q (exec c o s).2 :=
  Iff.rfl

/-- A call that changes nothing. -/
theorem safe_quiet_bind {Q : α → σ → Prop} {c : C} {k : R → Prog C R α}
    (hc : ∀ o, (exec c o s).2 = s) (hI : I s)
    (hk : ∀ o, ok o → (k (exec c o s).1).Safe exec ok I Q s) :
    (perform c >>= k).Safe exec ok I Q s := by
  intro o ho
  rw [hc o]
  exact ⟨hI, hk o ho⟩

theorem Safe.mono {Q Q' : α → σ → Prop} {p : Prog C R α} (h : p.Safe exec ok I Q s)
    (hq : ∀ a s, Q a s → Q' a s) : p.Safe exec ok I Q' s := by
  induction p generalizing s with
  | ret a => exact hq a s h
  | call c k ih => exact fun o ho => ⟨(h o ho).1, ih _ (h o ho).2⟩

theorem Safe.mono_inv {I' : σ → Prop} {Q : α → σ → Prop} {p : Prog C R α}
    (h : p.Safe exec ok I Q s) (hi : ∀ s, I s → I' s) : p.Safe exec ok I' Q s := by
  induction p generalizing s with
  | ret a => exact h
  | call c k ih => exact fun o ho => ⟨hi _ (h o ho).1, ih _ (h o ho).2⟩

/-- Two programs one after the other are safe iff the first is, up to states from where the second
is. -/
theorem safe_bind {Q : β → σ → Prop} {p : Prog C R α} {f : α → Prog C R β} :
    (p >>= f).Safe exec ok I Q s ↔ p.Safe exec ok I (fun a => (f a).Safe exec ok I Q) s := by
  induction p generalizing s with
  | ret a => exact Iff.rfl
  | call c k ih => exact forall₂_congr fun o _ => and_congr_right fun _ => ih _

/-- A program that is safe with its invariant for a postcondition keeps it along every run. -/
theorem Safe.run {p : Prog C R α} (h : p.Safe exec ok I (fun _ => I) s) (hI : I s)
    {os : List O} (hos : ∀ o ∈ os, ok o) : I (p.run exec os s).2 := by
  induction p generalizing s os with
  | ret a => exact h
  | call c k ih =>
    cases os with
    | nil => exact hI
    | cons o os =>
      obtain ⟨ho, hos⟩ := List.forall_mem_cons.1 hos
      exact ih _ (h o ho).2 (h o ho).1 hos

/-- A run of a safe program is cut off where the invariant holds, or returns with the
postcondition. -/
theorem Safe.run_cases {Q : α → σ → Prop} {p : Prog C R α} (h : p.Safe exec ok I Q s) (hI : I s)
    {os : List O} (hos : ∀ o ∈ os, ok o) :
    ((p.run exec os s).1 = none ∧ I (p.run exec os s).2) ∨
      ∃ a, (p.run exec os s).1 = some a ∧ Q a (p.run exec os s).2 := by
  induction p generalizing s os with
  | ret a => exact .inr ⟨a, rfl, h⟩
  | call c k ih =>
    cases os with
    | nil => exact .inl ⟨rfl, hI⟩
    | cons o os =>
      obtain ⟨ho, hos⟩ := List.forall_mem_cons.1 hos
      exact ih _ (h o ho).2 (h o ho).1 hos

/-- Interruptions add nothing: a run with them is one on the outcomes that count. -/
theorem runAttempts_eq_run (exec : C → O → σ → R × σ) (retried : C → Bool) (failure : O)
    (p : Prog C R α) (os : List (Option O)) (s : σ) :
    ∃ os' : List O, p.runAttempts exec retried failure os s = p.run exec os' s ∧
      ∀ o ∈ os', some o ∈ os ∨ (none ∈ os ∧ o = failure) := by
  induction os generalizing p s with
  | nil =>
    refine ⟨[], ?_, by simp⟩
    cases p <;> rfl
  | cons o os ih =>
    cases p with
    | ret a => exact ⟨[], rfl, by simp⟩
    | call c k =>
      -- the run goes on with the outcome `o'`
      have hcons (o' : O) (ho' : some o' ∈ o :: os ∨ (none ∈ o :: os ∧ o' = failure)) :
          ∃ os' : List O, (k (exec c o' s).1).runAttempts exec retried failure os (exec c o' s).2 =
              (call c k).run exec os' s ∧
            ∀ x ∈ os', some x ∈ o :: os ∨ (none ∈ o :: os ∧ x = failure) := by
        obtain ⟨os', heq, hmem⟩ := ih (k (exec c o' s).1) (exec c o' s).2
        refine ⟨o' :: os', heq, List.forall_mem_cons.2 ⟨ho', fun x hx => ?_⟩⟩
        exact (hmem x hx).imp (List.mem_cons_of_mem _) (And.imp_left (List.mem_cons_of_mem _))
      cases o with
      | some o' => exact hcons o' (.inl List.mem_cons_self)
      | none =>
        simp only [runAttempts]
        split
        · obtain ⟨os', heq, hmem⟩ := ih (call c k) s
          refine ⟨os', heq, fun x hx => ?_⟩
          exact (hmem x hx).imp (List.mem_cons_of_mem _) (And.imp_left (List.mem_cons_of_mem _))
        · exact hcons failure (.inr ⟨List.mem_cons_self, rfl⟩)

/-- A run with interruptions of a program that is safe for all outcomes. -/
theorem Safe.runAttempts_cases {Q : α → σ → Prop} {p : Prog C R α}
    (h : p.Safe exec (fun _ => True) I Q s) (hI : I s) (retried : C → Bool) (failure : O)
    (os : List (Option O)) :
    ((p.runAttempts exec retried failure os s).1 = none ∧
        I (p.runAttempts exec retried failure os s).2) ∨
      ∃ a, (p.runAttempts exec retried failure os s).1 = some a ∧
        Q a (p.runAttempts exec retried failure os s).2 := by
  obtain ⟨os', heq, -⟩ := runAttempts_eq_run exec retried failure p os s
  rw [heq]
  exact h.run_cases hI fun _ _ => trivial

theorem replaces_of_safe {γ : Type*} {content : σ → γ} {record : γ} {good : α} {p : Prog C R α}
    (h : ∀ s, p.Safe exec (fun _ => True) (fun s' => content s' = content s ∨ content s' = record)
      (fun a s' => (a = good ∧ content s' = record) ∨ (a ≠ good ∧ content s' = content s)) s)
    (retried : C → Bool) (failure : O) :
    p.Replaces exec retried failure content record good := by
  intro os s
  rcases (h s).runAttempts_cases (.inl rfl) retried failure os with
    ⟨hr, hkept⟩ | ⟨a, hr, ⟨rfl, hnew⟩ | ⟨hne, hold⟩⟩
  · rw [hr]
    exact ⟨hkept, fun h => (by cases h), fun _ h => (by cases h)⟩
  · rw [hr]
    refine ⟨.inr hnew, fun _ => hnew, fun b hb hne => ?_⟩
    exact (hne (Option.some.inj hb).symm).elim
  · rw [hr]
    refine ⟨.inl hold, fun hb => ?_, fun _ _ _ => hold⟩
    exact (hne (Option.some.inj hb)).elim

theorem canReturn_perform_bind {Q : α → σ → Prop} {c : C} {k : R → Prog C R α} :
    (perform c >>= k).CanReturn exec Q s ↔
      ∃ o, (k (exec c o s).1).CanReturn exec Q (exec c o s).2 :=
  Iff.rfl

theorem canReturn_bind {Q : β → σ → Prop} {p : Prog C R α} {f : α → Prog C R β} :
    (p >>= f).CanReturn exec Q s ↔ p.CanReturn exec (fun a => (f a).CanReturn exec Q) s := by
  induction p generalizing s with
  | ret a => exact Iff.rfl
  | call c k ih => exact exists_congr fun o => ih _

theorem CanReturn.mono {Q Q' : α → σ → Prop} {p : Prog C R α} (h : p.CanReturn exec Q s)
    (hq : ∀ a s, Q a s → Q' a s) : p.CanReturn exec Q' s := by
  induction p generalizing s with
  | ret a => exact hq a s h
  | call c k ih => exact h.imp fun o h => ih _ h

/-- A safe program can return where an outcome is allowed. -/
theorem Safe.canReturn {Q : α → σ → Prop} {p : Prog C R α} (h : p.Safe exec ok I Q s) {o : O}
    (ho : ok o) : p.CanReturn exec Q s := by
  induction p generalizing s with
  | ret a => exact h
  | call c k ih => exact ⟨o, ih _ (h o ho).2⟩

/-- The outcomes are a script without interruptions. -/
theorem CanReturn.runAttempts {Q : α → σ → Prop} {p : Prog C R α} (h : p.CanReturn exec Q s)
    (retried : C → Bool) (failure : O) :
    ∃ (os : List (Option O)) (a : α) (s' : σ),
      p.runAttempts exec retried failure os s = (some a, s') ∧ Q a s' := by
  induction p generalizing s with
  | ret a => exact ⟨[], a, s, rfl, h⟩
  | call c k ih =>
    obtain ⟨o, h⟩ := h
    obtain ⟨os, a, s', heq, hQ⟩ := ih _ h
    exact ⟨some o :: os, a, s', heq, hQ⟩

/-- What a complete run of a safe program returns meets the postcondition. -/
theorem Safe.eval {Q : α → σ → Prop} {p : Prog C R α} (h : p.Safe exec ok I Q s)
    (os : Nat → O) (hos : ∀ n, ok (os n)) :
    Q (p.eval exec os s).1 (p.eval exec os s).2 := by
  induction p generalizing s os with
  | ret a => exact h
  | call c k ih => exact ih _ (h _ (hos 0)).2 _ fun n => hos (n + 1)

end
end Prog
end Lib
