import Mathlib.Logic.Basic
import Drmid.Lib.Run

/-!
# Programs and the order of their calls

`Agent` is `Prog` with calls that have replies of different types. What matters of a call here is
not what it does but whether it may be made: a ghost state keeps what the calls and replies so far
have led to, and `Obeys` says that each call is permitted in the ghost state it is made in, whatever
is replied.

`obeys_bind` follows a program part by part. `Obeys.run` is what a proof gives about every run,
which is cut off where its script of replies ends.
-/

namespace Lib

universe u

/-- A program that makes calls and returns an `α`; a call of `C β` is replied to with a `β`. -/
inductive Agent (C : Type u → Type u) (α : Type u) : Type (u + 1)
  | ret (a : α)
  | call {β : Type u} (c : C β) (k : β → Agent C α)

namespace Agent

variable {C : Type u → Type u} {α β : Type u} {σ : Type*}

def bind : Agent C α → (α → Agent C β) → Agent C β
  | ret a, f => f a
  | call c k, f => call c fun r => (k r).bind f

instance : Monad (Agent C) where
  pure := ret
  bind := bind

/-- The program that makes one call and returns its reply. -/
def ask (c : C α) : Agent C α := call c ret

/-- A call with its reply. -/
structure Event (C : Type u → Type u) where
  {type : Type u}
  call : C type
  reply : type

/-- The calls of a run on a script of replies, and what was returned, unless the script ended
first. -/
def run : Agent C α → List (∀ β, C β → β) → List (Event C) × Option α
  | ret a, _ => ([], some a)
  | call _ _, [] => ([], none)
  | call c k, reply :: replies =>
    let r := (k (reply _ c)).run replies
    (⟨c, reply _ c⟩ :: r.1, r.2)

/-- Whatever is replied, each call meets `ok` in the ghost state it is made in, and a value is
returned with `Q` only; `note` is what a call and its reply lead to. -/
def Obeys (note : σ → Event C → σ) (ok : ∀ {β}, C β → σ → Prop) (Q : α → σ → Prop) :
    Agent C α → σ → Prop
  | ret a, s => Q a s
  | call c k, s => ok c s ∧ ∀ r, (k r).Obeys note ok Q (note s ⟨c, r⟩)

section
variable {note : σ → Event C → σ} {ok : ∀ {β}, C β → σ → Prop} {s : σ}

theorem Obeys.mono {Q Q' : α → σ → Prop} {p : Agent C α} (h : p.Obeys note ok Q s)
    (hq : ∀ a s, Q a s → Q' a s) : p.Obeys note ok Q' s := by
  induction p generalizing s with
  | ret a => exact hq a s h
  | call c k ih => exact ⟨h.1, fun r => ih r (h.2 r)⟩

/-- Two programs one after the other obey iff the first does, up to ghost states from where the
second does. -/
theorem obeys_bind {Q : β → σ → Prop} {p : Agent C α} {f : α → Agent C β} :
    (p >>= f).Obeys note ok Q s ↔ p.Obeys note ok (fun a => (f a).Obeys note ok Q) s := by
  induction p generalizing s with
  | ret a => exact Iff.rfl
  | call c k ih => exact and_congr_right fun _ => forall_congr' fun r => ih r

theorem obeys_ask_bind {Q : β → σ → Prop} {c : C α} {k : α → Agent C β} :
    (ask c >>= k).Obeys note ok Q s ↔ ok c s ∧ ∀ r, (k r).Obeys note ok Q (note s ⟨c, r⟩) :=
  Iff.rfl

/-- **Every run of a program that obeys.** Each call is permitted by what the calls before it have
led to, and what is returned meets the postcondition. -/
theorem Obeys.run {Q : α → σ → Prop} {p : Agent C α} (h : p.Obeys note ok Q s)
    (replies : List (∀ β, C β → β)) :
    Along note (fun s e => ok e.call s) s (p.run replies).1 ∧
      ∀ a, (p.run replies).2 = some a → Q a (Lib.run note s (p.run replies).1) := by
  induction p generalizing s replies with
  | ret a =>
    refine ⟨.nil, fun b hb => ?_⟩
    obtain rfl := Option.some.inj hb
    exact h
  | call c k ih =>
    cases replies with
    | nil => exact ⟨.nil, fun _ hb => (by cases hb)⟩
    | cons reply replies =>
      obtain ⟨hrest, hret⟩ := ih (reply _ c) (h.2 (reply _ c)) replies
      exact ⟨along_cons.2 ⟨h.1, hrest⟩, hret⟩

end
end Agent
end Lib
