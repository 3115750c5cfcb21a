import Mathlib.Logic.Basic

/-!
# Tokens at places

`At p r` says that token `r` is at place `p`. `AtMostOnce At`: no token is at two places. A step
keeps it when every token at a place afterwards was there before, or has arrived at one place `b`
and left every place it was at.
-/

namespace Lib

variable {α β : Type*}

/-- No token is at two places. -/
def AtMostOnce (At : α → β → Prop) : Prop := ∀ p q r, At p r → At q r → p = q

section
variable {At At' : α → β → Prop}

/-- Tokens move to `b` only. -/
theorem AtMostOnce.move (hAt : AtMostOnce At) (b : α)
    (h : ∀ p r, At' p r → At p r ∨ (p = b ∧ ∀ q, At q r → ¬At' q r)) : AtMostOnce At' := by
  intro p q r hp hq
  rcases h p r hp with hp' | ⟨rfl, hgone⟩
  · rcases h q r hq with hq' | ⟨rfl, hgone⟩
    · exact hAt p q r hp' hq'
    · exact absurd hp (hgone p hp')
  · rcases h q r hq with hq' | ⟨rfl, -⟩
    · exact absurd hq (hgone q hq')
    · rfl

/-- A token has left every place when it has left the place it was at. -/
theorem AtMostOnce.gone (hAt : AtMostOnce At) {a : α} {r : β} (ha : At a r) (ha' : ¬At' a r) :
    ∀ q, At q r → ¬At' q r := by
  intro q hq
  rw [hAt q a r hq ha]
  exact ha'

/-- Tokens only disappear. -/
theorem AtMostOnce.shrink (hAt : AtMostOnce At) (h : ∀ p r, At' p r → At p r) : AtMostOnce At' :=
  fun p q r hp hq => hAt p q r (h p r hp) (h q r hq)

end
end Lib
