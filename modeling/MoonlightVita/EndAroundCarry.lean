import Mathlib

/-!
# Sums with end-around carry

Folding the carries of a sum back into its low digit, in base `b`, keeps the sum
modulo `b - 1` and keeps it different from zero. A folded sum is therefore the
all-ones digit exactly when the sum is a nonzero multiple of `b - 1`.
-/
namespace MoonlightVita.EndAroundCarry

variable {b s r : ℕ}

/-- One folding round. -/
def fold (b s : ℕ) : ℕ := s % b + s / b

theorem fold_lt (hb : 2 ≤ b) (hs : b ≤ s) : fold b s < s := by
  have hdiv := Nat.div_add_mod s b
  have hq : 1 ≤ s / b := (Nat.one_le_div_iff (by omega)).mpr hs
  have hmul : 2 * (s / b) ≤ b * (s / b) := Nat.mul_le_mul_right _ hb
  unfold fold
  omega

theorem fold_modEq (hb : 1 ≤ b) : fold b s ≡ s [MOD b-1] := by
  obtain ⟨c, rfl⟩ : ∃ c, b = c+1 := ⟨b-1, by omega⟩
  have hdiv := Nat.div_add_mod s (c+1)
  have he : s = fold (c+1) s + c * (s / (c+1)) := by
    unfold fold
    rw [Nat.add_mul] at hdiv
    omega
  conv_rhs => rw [he]
  simp [Nat.ModEq]

theorem fold_eq_zero_iff : fold b s = 0 ↔ s = 0 := by
  have hdiv := Nat.div_add_mod s b
  constructor
  · intro h
    unfold fold at h
    obtain ⟨hm, hq⟩ := Nat.add_eq_zero_iff.mp h
    rw [hq, hm, Nat.mul_zero] at hdiv
    exact hdiv.symm
  · rintro rfl
    simp [fold]

/-- What folding to one digit preserves. -/
structure Folded (b s r : ℕ) : Prop where
  digit : r < b
  modEq : r ≡ s [MOD b-1]
  zero_iff : r = 0 ↔ s = 0

theorem Folded.refl (h : s < b) : Folded b s s := ⟨h, Nat.ModEq.refl s, Iff.rfl⟩

theorem Folded.step (hb : 1 ≤ b) (h : Folded b (fold b s) r) : Folded b s r :=
  ⟨h.digit, h.modEq.trans (fold_modEq hb), h.zero_iff.trans fold_eq_zero_iff⟩

theorem Folded.eq_ones_iff (hb : 2 ≤ b) (h : Folded b s r) :
    r = b-1 ↔ s ≠ 0 ∧ (b-1) ∣ s := by
  have hdvd : (b-1) ∣ s ↔ (b-1) ∣ r := h.modEq.symm.dvd_iff (dvd_refl _)
  have hzero := h.zero_iff
  have hdigit := h.digit
  rw [hdvd]
  constructor
  · intro he
    exact ⟨fun hs => by have := hzero.mpr hs; omega, he ▸ dvd_refl _⟩
  · rintro ⟨hs, hd⟩
    have := Nat.le_of_dvd (Nat.pos_of_ne_zero fun hr => hs (hzero.mp hr)) hd
    omega

/-- The complement of a folded sum completes the sum to a multiple of `b - 1`. -/
theorem Folded.dvd_add_complement (h : Folded b s r) : (b-1) ∣ s + (b-1-r) := by
  have hdigit := h.digit
  have hsum : s + (b-1-r) ≡ r + (b-1-r) [MOD b-1] := h.modEq.symm.add_right _
  rw [show r + (b-1-r) = b-1 by omega] at hsum
  exact (hsum.dvd_iff (dvd_refl _)).mpr (dvd_refl _)

end MoonlightVita.EndAroundCarry
