import Mathlib

/-!
# Sliding windows kept in a ring of words

A ring of `W` words with `B` bits each remembers which numbers of a sliding
window have been seen. Number `s` lives in word `s / B`, reduced modulo `W`, at
bit `s % B`. Words are reused when the window advances, so they are cleared
lazily, at most `W` of them per advance.
-/
namespace MoonlightVita.RingWindow

variable {W B : ℕ} {ring ring' : ℕ → ℕ → Prop} {top top' s : ℕ} {seen : Set ℕ}

/-- The words of `s` and `top` are close enough to share one turn of the ring. -/
def InWindow (W B top s : ℕ) : Prop := s / B ≤ top / B ∧ top / B < s / B + W

/-- Every ring bit of the current window says whether its number has been seen. -/
structure Tracks (W B : ℕ) (ring : ℕ → ℕ → Prop) (top : ℕ) (seen : Set ℕ) : Prop where
  bounded : ∀ a ∈ seen, a ≤ top
  exact_bits : ∀ s, InWindow W B top s → (ring (s / B % W) (s % B) ↔ s ∈ seen)

/-- The ring after the `n` words that follow the word of `top` have been cleared. -/
def Cleared (W B top n : ℕ) (ring ring' : ℕ → ℕ → Prop) : Prop :=
  ∀ w b, ring' w b ↔ ring w b ∧ ∀ k, 1 ≤ k → k ≤ n → w ≠ (k + top / B) % W

theorem inWindow_of_le (hB : 0 < B) (hs : s ≤ top) (hw : top ≤ s + (W-1)*B) (hW : 0 < W) :
    InWindow W B top s := by
  refine ⟨Nat.div_le_div_right hs, ?_⟩
  have hh : top / B ≤ (s + (W-1)*B) / B := Nat.div_le_div_right hw
  rw [Nat.add_mul_div_right _ _ hB] at hh
  omega

theorem tracks_empty (h : ∀ w b, ¬ ring w b) (top : ℕ) : Tracks W B ring top ∅ :=
  ⟨fun _ ha => absurd ha (Set.notMem_empty _), fun _ _ => by simp [h]⟩

/-- Two words of one turn of the ring occupy different places. -/
theorem mod_ne_of_lt {a b W : ℕ} (hab : a < b) (hb : b < a + W) : a % W ≠ b % W := by
  intro he
  have hd : W ∣ b - a := (Nat.modEq_iff_dvd' hab.le).mp he
  have := Nat.le_of_dvd (by omega) hd
  omega

/-- Clearing the skipped words, or the whole ring after a long jump, moves the window up. -/
theorem Tracks.advance (h : Tracks W B ring top seen) (ht : top ≤ top')
    (hc : Cleared W B top (min (top' / B - top / B) W) ring ring') :
    Tracks W B ring' top' seen := by
  refine ⟨fun a ha => (h.bounded a ha).trans ht, ?_⟩
  rintro s ⟨hs, hw⟩
  rw [hc]
  by_cases hnew : top / B < s / B
  · have hout : s ∉ seen := by
      intro hm
      have := Nat.div_le_div_right (c := B) (h.bounded s hm)
      omega
    have hkey : (s / B - top / B) + top / B = s / B := by omega
    simp only [hout, iff_false, not_and, not_forall]
    intro _
    by_cases hfar : s / B - top / B ≤ W
    · exact ⟨s / B - top / B, by omega, by omega, by simp [hkey]⟩
    · have hmod : (s / B - top / B) % W < W := Nat.mod_lt _ (by omega)
      have hpos : 0 < W := by omega
      refine ⟨if (s / B - top / B) % W = 0 then W else (s / B - top / B) % W, ?_, ?_, ?_⟩
      · split_ifs <;> omega
      · split_ifs <;> omega
      · rw [not_not]
        conv_lhs => rw [← hkey]
        split_ifs with hz
        · simp [Nat.add_mod, hz]
        · simp [Nat.add_mod]
  · have hold : InWindow W B top s := by
      have := Nat.div_le_div_right (c := B) ht
      exact ⟨by omega, by omega⟩
    rw [← h.exact_bits s hold]
    refine and_iff_left ?_
    intro k hk hn
    exact mod_ne_of_lt (by omega) (by omega)

/-- Setting the bit of a number of the window records that number and no other. -/
theorem Tracks.mark (hB : 0 < B) (h : Tracks W B ring top seen) (hs : s ≤ top)
    (hin : InWindow W B top s)
    (hr : ∀ w b, w < W → b < B → (ring' w b ↔ ring w b ∨ (w = s / B % W ∧ b = s % B))) :
    Tracks W B ring' top (insert s seen) := by
  have hW : 0 < W := by
    obtain ⟨_, _⟩ := hin
    omega
  refine ⟨?_, ?_⟩
  · rintro a (rfl | ha)
    · exact hs
    · exact h.bounded a ha
  · intro t ht
    rw [hr _ _ (Nat.mod_lt _ hW) (Nat.mod_lt _ hB), h.exact_bits t ht, Set.mem_insert_iff,
      or_comm]
    refine or_congr_left ⟨?_, by rintro rfl; exact ⟨rfl, rfl⟩⟩
    rintro ⟨hword, hbit⟩
    have hdiv : t / B = s / B := by
      obtain ⟨h1, h2⟩ := ht
      obtain ⟨h3, h4⟩ := hin
      rcases lt_trichotomy (t / B) (s / B) with hlt | heq | hgt
      · exact absurd hword (mod_ne_of_lt hlt (by omega))
      · exact heq
      · exact absurd hword.symm (mod_ne_of_lt hgt (by omega))
    rw [← Nat.div_add_mod t B, ← Nat.div_add_mod s B, hdiv, hbit]

end MoonlightVita.RingWindow
