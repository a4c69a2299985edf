import Mathlib

/-!
# Big-endian numbers and their order

Strings of equal length compare like the numbers they are the big-endian form of.
-/
namespace MoonlightVita.BigEndian

def toBytes : ℕ → ℕ → List UInt8
  | 0, _ => []
  | width + 1, n => UInt8.ofNat (n / 256 ^ width) :: toBytes width (n % 256 ^ width)

@[simp] lemma length_toBytes (width n : ℕ) : (toBytes width n).length = width := by
  induction width generalizing n with
  | zero => rfl
  | succ width ih => simp [toBytes, ih]

/-- Strings of equal length decide before what follows them. -/
lemma append_lt_append_iff {l l' r r' : List UInt8} (h : l.length = l'.length) :
    l ++ r < l' ++ r' ↔ l < l' ∨ l = l' ∧ r < r' := by
  induction l generalizing l' with
  | nil =>
    obtain rfl : l' = [] := List.length_eq_zero_iff.mp h.symm
    simp
  | cons a l ih =>
    cases l' with
    | nil => simp at h
    | cons b l' =>
      rw [List.cons_append, List.cons_append, List.cons_lt_cons_iff, List.cons_lt_cons_iff,
        ih (by simpa using h), List.cons.injEq]
      tauto

/-- The leading digits decide, unless they agree. -/
lemma lt_iff_div_mod {m n k : ℕ} (hk : 0 < k) :
    m < n ↔ m / k < n / k ∨ m / k = n / k ∧ m % k < n % k := by
  have hm := Nat.div_add_mod m k
  have hn := Nat.div_add_mod n k
  have hmk := Nat.mod_lt m hk
  have hnk := Nat.mod_lt n hk
  constructor
  · intro h
    rcases (Nat.div_le_div_right (c := k) h.le).lt_or_eq with hlt | heq
    · exact Or.inl hlt
    · rw [heq] at hm
      exact Or.inr ⟨heq, by omega⟩
  · rintro (hlt | ⟨heq, hlt⟩)
    · exact Nat.lt_of_div_lt_div hlt
    · rw [heq] at hm
      omega

lemma ofNat_lt_iff {a b : ℕ} (ha : a < 256) (hb : b < 256) :
    UInt8.ofNat a < UInt8.ofNat b ↔ a < b := by
  rw [UInt8.lt_iff_toNat_lt, UInt8.toNat_ofNat_of_lt' ha, UInt8.toNat_ofNat_of_lt' hb]

lemma ofNat_eq_iff {a b : ℕ} (ha : a < 256) (hb : b < 256) :
    UInt8.ofNat a = UInt8.ofNat b ↔ a = b := by
  rw [← UInt8.toNat_inj, UInt8.toNat_ofNat_of_lt' ha, UInt8.toNat_ofNat_of_lt' hb]

theorem toBytes_lt_iff {width m n : ℕ} (hm : m < 256 ^ width) (hn : n < 256 ^ width) :
    toBytes width m < toBytes width n ↔ m < n := by
  induction width generalizing m n with
  | zero =>
    simp only [pow_zero, Nat.lt_one_iff] at hm hn
    simp [hm, hn]
  | succ width ih =>
    have hk : 0 < 256 ^ width := by positivity
    have hma : m / 256 ^ width < 256 := Nat.div_lt_of_lt_mul (by rwa [pow_succ] at hm)
    have hna : n / 256 ^ width < 256 := Nat.div_lt_of_lt_mul (by rwa [pow_succ] at hn)
    rw [toBytes, toBytes, List.cons_lt_cons_iff, ofNat_lt_iff hma hna, ofNat_eq_iff hma hna,
      ih (Nat.mod_lt _ hk) (Nat.mod_lt _ hk)]
    exact (lt_iff_div_mod hk).symm

theorem toBytes_inj {width m n : ℕ} (hm : m < 256 ^ width) (hn : n < 256 ^ width) :
    toBytes width m = toBytes width n ↔ m = n := by
  constructor
  · intro h
    by_contra hne
    rcases Nat.lt_or_gt_of_ne hne with hlt | hlt
    · have hbytes := (toBytes_lt_iff hm hn).mpr hlt
      rw [h] at hbytes
      exact absurd hbytes (List.lt_irrefl _)
    · have hbytes := (toBytes_lt_iff hn hm).mpr hlt
      rw [h] at hbytes
      exact absurd hbytes (List.lt_irrefl _)
  · rintro rfl
    rfl

end MoonlightVita.BigEndian
