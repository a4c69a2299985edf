import Mathlib

/-!
# Postconditions of fallible functions

What holds of every result of a computation that may fail, with one rule for each
way such computations are put together.
-/
namespace MoonlightVita.Fallible

variable {α β : Type} {P : α → Prop}

def Ensures (P : α → Prop) (x : Option α) : Prop := ∀ r, x = some r → P r

lemma ensures_none : Ensures P none := fun _ h => nomatch h

lemma ensures_some {r : α} (h : P r) : Ensures P (some r) := fun _ hr => Option.some.inj hr ▸ h

lemma ensures_ite {c : Prop} [Decidable c] {x y : Option α} (hx : Ensures P x)
    (hy : Ensures P y) : Ensures P (if c then x else y) := by
  by_cases hc : c
  · rwa [if_pos hc]
  · rwa [if_neg hc]

/-- The continuation may use where its argument comes from. -/
lemma ensures_bind_of {x : Option β} {f : β → Option α} (h : ∀ a, x = some a → Ensures P (f a)) :
    Ensures P (x >>= f) := by
  cases x with
  | none => exact ensures_none
  | some a => exact h a rfl

lemma ensures_bind {x : Option β} {f : β → Option α} (h : ∀ a, Ensures P (f a)) :
    Ensures P (x >>= f) :=
  ensures_bind_of fun a _ => h a

end MoonlightVita.Fallible
