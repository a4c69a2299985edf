import Mathlib

/-!
# Phases with a common exit

A function that leaves for its clean-up with the first result that is not zero. Its phases
read and change a state, and an environment may refuse to go on.
-/
namespace MoonlightVita.Phases

variable {σ : Type*}

abbrev Phase (σ : Type*) : Type _ := σ → Option (ℤ × σ)

def andThen (p q : Phase σ) : Phase σ := fun s =>
  match p s with
  | none => none
  | some (result, t) => if result = 0 then q t else some (result, t)

/-- A state with which the phases go on (`going`) or leave is reached from the state before. -/
def Reaches (R : Bool → σ → σ → Prop) (p : Phase σ) : Prop :=
  ∀ s result t, p s = some (result, t) → R (decide (result = 0)) s t

theorem andThen_cases {p q : Phase σ} {s t : σ} {result : ℤ}
    (h : andThen p q s = some (result, t)) :
    p s = some (result, t) ∧ result ≠ 0 ∨ ∃ u, p s = some (0, u) ∧ q u = some (result, t) := by
  unfold andThen at h
  cases hp : p s with
  | none => simp [hp] at h
  | some r =>
    obtain ⟨first, u⟩ := r
    simp only [hp] at h
    by_cases hfirst : first = 0
    · rw [if_pos hfirst] at h
      exact Or.inr ⟨u, by rw [hfirst], h⟩
    · rw [if_neg hfirst] at h
      cases h
      exact Or.inl ⟨rfl, hfirst⟩

variable {R : Bool → σ → σ → Prop} {p q : Phase σ}

theorem Reaches.andThen (htrans : ∀ going s t u, R true s t → R going t u → R going s u)
    (hp : Reaches R p) (hq : Reaches R q) : Reaches R (andThen p q) := by
  intro s result t h
  rcases andThen_cases h with ⟨hleft, -⟩ | ⟨u, hfirst, hsecond⟩
  · exact hp s result t hleft
  · exact htrans _ s u t (hp s 0 u hfirst) (hq u result t hsecond)

/-- Every result of a phase has a property. -/
def Returns (P : ℤ → Prop) (p : Phase σ) : Prop := ∀ s result t, p s = some (result, t) → P result

theorem Returns.andThen {P : ℤ → Prop} (hp : Returns P p) (hq : Returns P q) :
    Returns P (andThen p q) := by
  intro s result t h
  rcases andThen_cases h with ⟨hleft, -⟩ | ⟨u, -, hsecond⟩
  · exact hp s result t hleft
  · exact hq u result t hsecond

end MoonlightVita.Phases
