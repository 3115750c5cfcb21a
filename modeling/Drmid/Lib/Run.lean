import Mathlib.Data.List.Induction

/-!
# Runs of a deterministic machine

A machine is a step function `σ → ε → σ`: everything a run may choose is in its labels. `run` is
the state after a list of labels, `Along` says that every step of a run meets a condition on the
state it is taken in, and `Along.induct` is the invariant rule: what holds at the start and is kept
by every step that meets the condition holds after the run.
-/

namespace Lib

variable {σ ε : Type*}

/-- The state after the labels `es`. -/
def run (step : σ → ε → σ) (s : σ) (es : List ε) : σ := es.foldl step s

/-- Every step of the run meets `ok` in the state it is taken in. -/
def Along (step : σ → ε → σ) (ok : σ → ε → Prop) (s : σ) (es : List ε) : Prop :=
  ∀ pre e post, es = pre ++ e :: post → ok (run step s pre) e

section
variable {step : σ → ε → σ} {ok : σ → ε → Prop} {s : σ} {es : List ε} {e : ε}

@[simp] theorem run_nil : run step s [] = s := rfl

theorem run_cons : run step s (e :: es) = run step (step s e) es := rfl

@[simp] theorem run_concat : run step s (es ++ [e]) = step (run step s es) e := by
  simp [run]

theorem Along.nil : Along step ok s [] := fun _ _ _ h => by simp at h

/-- A run meets the condition iff it does up to its last step and the last step does. -/
theorem along_concat : Along step ok s (es ++ [e]) ↔
    Along step ok s es ∧ ok (run step s es) e := by
  constructor
  · intro h
    refine ⟨fun pre a post heq => h pre a (post ++ [e]) ?_, h es e [] rfl⟩
    rw [heq, List.append_assoc, List.cons_append]
  · rintro ⟨h, hlast⟩ pre a post heq
    rcases List.eq_nil_or_concat post with rfl | ⟨post', b, rfl⟩
    · obtain ⟨rfl, ha⟩ := List.append_inj' heq rfl
      cases ha
      exact hlast
    · rw [List.concat_eq_append, ← List.cons_append, ← List.append_assoc] at heq
      obtain ⟨rfl, -⟩ := List.append_inj' heq rfl
      exact h pre a post' rfl

/-- A run meets the condition iff its first step does and the rest does from there. -/
theorem along_cons : Along step ok s (e :: es) ↔ ok s e ∧ Along step ok (step s e) es := by
  constructor
  · intro h
    exact ⟨h [] e es rfl, fun pre a post heq => h (e :: pre) a post (by rw [heq]; rfl)⟩
  · rintro ⟨hfirst, h⟩ pre a post heq
    cases pre with
    | nil =>
      cases heq
      exact hfirst
    | cons b pre =>
      cases heq
      exact h pre a post rfl

theorem run_append {es' : List ε} : run step s (es ++ es') = run step (run step s es) es' :=
  List.foldl_append

theorem along_append {es' : List ε} :
    Along step ok s (es ++ es') ↔ Along step ok s es ∧ Along step ok (run step s es) es' := by
  induction es generalizing s with
  | nil => exact ⟨fun h => ⟨.nil, h⟩, And.right⟩
  | cons e es ih => rw [List.cons_append, along_cons, along_cons, ih, run_cons, and_assoc]

theorem Along.mono {ok' : σ → ε → Prop} (h : Along step ok s es)
    (himp : ∀ s e, ok s e → ok' s e) : Along step ok' s es :=
  fun pre e post heq => himp _ _ (h pre e post heq)

theorem Along.and {ok' : σ → ε → Prop} (h : Along step ok s es) (h' : Along step ok' s es) :
    Along step (fun s e => ok s e ∧ ok' s e) s es :=
  fun pre e post heq => ⟨h pre e post heq, h' pre e post heq⟩

/-- The invariant rule. `P` may speak about the labels so far. -/
theorem Along.induct {P : List ε → σ → Prop} (h : Along step ok s es) (h0 : P [] s)
    (hstep : ∀ pre s' e, P pre s' → ok s' e → P (pre ++ [e]) (step s' e)) :
    P es (run step s es) := by
  induction es using List.reverseRecOn with
  | nil => exact h0
  | append_singleton pre e ih =>
    obtain ⟨hpre, hlast⟩ := along_concat.1 h
    rw [run_concat]
    exact hstep pre _ e (ih hpre) hlast

/-- What the invariant gives in every state of a run. -/
theorem Along.of_inv {ok' : σ → ε → Prop} {P : σ → Prop} (h : Along step ok s es) (h0 : P s)
    (hstep : ∀ s' e, P s' → ok s' e → P (step s' e))
    (hok : ∀ s' e, P s' → ok s' e → ok' s' e) : Along step ok' s es := by
  induction es generalizing s with
  | nil => exact .nil
  | cons e es ih =>
    obtain ⟨hfirst, hrest⟩ := along_cons.1 h
    exact along_cons.2 ⟨hok s e h0 hfirst, ih hrest (hstep s e h0 hfirst)⟩

/-- The rule for an invariant that every step keeps. -/
theorem run_induct {P : σ → Prop} (h0 : P s) (hstep : ∀ s' e, P s' → P (step s' e)) :
    P (run step s es) := by
  induction es generalizing s with
  | nil => exact h0
  | cons e es ih => exact ih (hstep s e h0)

end

/-- On a concrete run a decidable condition can be evaluated. -/
instance decidableAlong {step : σ → ε → σ} {ok : σ → ε → Prop} [∀ s e, Decidable (ok s e)] :
    ∀ s es, Decidable (Along step ok s es)
  | _, [] => isTrue .nil
  | s, e :: es =>
    have : Decidable (Along step ok (step s e) es) := decidableAlong (step s e) es
    decidable_of_iff (ok s e ∧ Along step ok (step s e) es) along_cons.symm

end Lib
