import Mathlib

/-!
# Loops over samples of an environment

Each turn of an endless loop reads one sample. It either goes on with a next state
or returns. A loop that has used up its samples is still waiting.
-/
namespace MoonlightVita.SampledLoop

variable {σ τ ι ρ ρ' : Type*}

def loop (turn : σ → ι → σ ⊕ ρ) : σ → List ι → Option ρ
  | _, [] => none
  | s, x :: xs =>
    match turn s x with
    | .inl t => loop turn t xs
    | .inr r => some r

/-- A loop that returns with its last sample does so in a state that every turn preserves. -/
theorem loop_return {turn : σ → ι → σ ⊕ ρ} {P : σ → Prop} {s : σ} {xs : List ι} {x : ι} {r : ρ}
    (hs : P s) (hstep : ∀ s, P s → ∀ y ∈ xs, ∀ t, turn s y = .inl t → P t)
    (hwaiting : loop turn s xs = none) (hreturn : loop turn s (xs ++ [x]) = some r) :
    ∃ t, P t ∧ turn t x = .inr r := by
  induction xs generalizing s with
  | nil =>
    cases ht : turn s x with
    | inl t => simp [loop, ht] at hreturn
    | inr r' =>
      simp only [List.nil_append, loop, ht, Option.some.injEq] at hreturn
      exact ⟨s, hs, by rw [ht, hreturn]⟩
  | cons y ys ih =>
    cases ht : turn s y with
    | inl t =>
      simp only [loop, ht] at hwaiting
      simp only [List.cons_append, loop, ht] at hreturn
      exact ih (hstep s hs y (by simp) t ht)
        (fun s hs z hz => hstep s hs z (List.mem_cons_of_mem _ hz)) hwaiting hreturn
    | inr r' => simp [loop, ht] at hwaiting

/-- A loop returns at the latest with a sample that no state lets pass. -/
theorem loop_isSome {turn : σ → ι → σ ⊕ ρ} {xs : List ι} {x : ι} (hx : x ∈ xs)
    (h : ∀ s, (turn s x).isRight) (s : σ) : (loop turn s xs).isSome := by
  induction xs generalizing s with
  | nil => cases hx
  | cons y ys ih =>
    cases ht : turn s y with
    | inr r => simp [loop, ht]
    | inl t =>
      rcases List.mem_cons.mp hx with rfl | hx
      · simpa [ht] using h s
      · simpa [loop, ht] using ih hx t

/-- What a loop returns meets a condition that every turn ensures of its result. -/
theorem loop_ensures {turn : σ → ι → σ ⊕ ρ} {P : σ → Prop} {Q : ρ → Prop} {s : σ} {xs : List ι}
    {r : ρ} (hs : P s) (hstep : ∀ s x, P s → Sum.elim P Q (turn s x))
    (h : loop turn s xs = some r) : Q r := by
  induction xs generalizing s with
  | nil => cases h
  | cons x xs ih =>
    have hx := hstep s x hs
    cases ht : turn s x with
    | inl t =>
      rw [ht] at hx
      simp only [loop, ht] at h
      exact ih hx h
    | inr r' =>
      rw [ht] at hx
      simp only [loop, ht, Option.some.injEq] at h
      rwa [h] at hx

/-- Two loops whose turns agree sample by sample return related results. -/
theorem loop_rel {f : σ → ι → σ ⊕ ρ} {g : τ → ι → τ ⊕ ρ'} {R : σ → τ → Prop}
    {S : ρ → ρ' → Prop} {s : σ} {t : τ} {xs : List ι} (h : R s t)
    (hstep : ∀ x ∈ xs, ∀ s t, R s t → Sum.LiftRel R S (f s x) (g t x)) :
    Option.Rel S (loop f s xs) (loop g t xs) := by
  induction xs generalizing s t with
  | nil => exact Option.Rel.none
  | cons x xs ih =>
    have hx := hstep x (by simp) s t h
    cases hf : f s x with
    | inl s' =>
      cases hg : g t x with
      | inl t' =>
        rw [hf, hg, Sum.liftRel_inl_inl] at hx
        simp only [loop, hf, hg]
        exact ih hx fun y hy => hstep y (List.mem_cons_of_mem _ hy)
      | inr r' => simp [hf, hg] at hx
    | inr r =>
      cases hg : g t x with
      | inl t' => simp [hf, hg] at hx
      | inr r' =>
        rw [hf, hg, Sum.liftRel_inr_inr] at hx
        simp only [loop, hf, hg]
        exact Option.Rel.some hx

end MoonlightVita.SampledLoop
