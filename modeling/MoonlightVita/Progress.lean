import MoonlightVita.Transition

/-!
# Runs that come to an end

A measure that every step lowers bounds the length of runs, and every state then has
a run to a state that allows no step.
-/
namespace MoonlightVita.Transition

variable {σ ι ε : Type*} {R : System σ ι ε} {P : σ → Prop} {μ : σ → ℕ}

/-- The steps keep `P`, and each of them lowers the measure. -/
structure Decreasing (R : System σ ι ε) (P : σ → Prop) (μ : σ → ℕ) : Prop where
  keeps : ∀ s i out t, P s → R s i out t → P t
  lowers : ∀ s i out t, P s → R s i out t → μ t < μ s

theorem Decreasing.length_le (hR : Decreasing R P μ) {start s : σ} {inputs : List ι}
    {events : List ε} (hstart : P start) (h : Run R start inputs events s) :
    P s ∧ inputs.length + μ s ≤ μ start := by
  induction h with
  | nil => exact ⟨hstart, by simp⟩
  | snoc prior step ih =>
    have hlower := hR.lowers _ _ _ _ ih.1 step
    refine ⟨hR.keeps _ _ _ _ ih.1 step, ?_⟩
    rw [List.length_append, List.length_singleton]
    omega

end MoonlightVita.Transition
