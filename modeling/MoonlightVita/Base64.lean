import Mathlib

/-!
# Base64 of byte strings

The standard alphabet, with padding. Three bytes are four characters.
-/
namespace MoonlightVita.Base64

def pad : UInt8 := 61

/-- The character of a number below 64. -/
def char (n : ℕ) : UInt8 :=
  UInt8.ofNat (if n < 26 then n + 65 else if n < 52 then n + 71 else if n < 62 then n - 4
    else if n = 62 then 43 else 47)

/-- The number of a character of the alphabet. -/
def sextet (c : UInt8) : Option ℕ :=
  if 65 ≤ c ∧ c ≤ 90 then some (c.toNat - 65)
  else if 97 ≤ c ∧ c ≤ 122 then some (c.toNat - 71)
  else if 48 ≤ c ∧ c ≤ 57 then some (c.toNat + 4)
  else if c = 43 then some 62
  else if c = 47 then some 63
  else none

/-- The four characters of three bytes. -/
def group (a b c : UInt8) : List UInt8 :=
  [char (a.toNat / 4), char (a.toNat % 4 * 16 + b.toNat / 16),
    char (b.toNat % 16 * 4 + c.toNat / 64), char (c.toNat % 64)]

def encode : List UInt8 → List UInt8
  | a :: b :: c :: bytes => group a b c ++ encode bytes
  | [a, b] => (group a b 0).take 3 ++ [pad]
  | [a] => (group a 0 0).take 2 ++ [pad, pad]
  | [] => []

/-- The three bytes of four characters. -/
def ungroup (w x y z : UInt8) : Option (UInt8 × UInt8 × UInt8) := do
  let w ← sextet w
  let x ← sextet x
  let y ← sextet y
  let z ← sextet z
  some (UInt8.ofNat (w * 4 + x / 16), UInt8.ofNat (x % 16 * 16 + y / 4),
    UInt8.ofNat (y % 4 * 64 + z))

def decode : List UInt8 → Option (List UInt8)
  | [] => some []
  | w :: x :: y :: z :: text =>
    if text = [] ∧ y = pad ∧ z = pad then (ungroup w x 65 65).map fun bytes => [bytes.1]
    else if text = [] ∧ z = pad then (ungroup w x y 65).map fun bytes => [bytes.1, bytes.2.1]
    else do
      let bytes ← ungroup w x y z
      let rest ← decode text
      some (bytes.1 :: bytes.2.1 :: bytes.2.2 :: rest)
  | _ => none

lemma length_encode (bytes : List UInt8) : (encode bytes).length = (bytes.length + 2) / 3 * 4 := by
  induction bytes using encode.induct with
  | case1 a b c bytes ih =>
    simp only [encode, group, List.length_append, List.length_cons, List.length_nil, ih]
    omega
  | case2 a b => simp [encode, group]
  | case3 a => simp [encode, group]
  | case4 => simp [encode]

/-- No text is longer than the encoding of what it decodes to. -/
lemma length_of_decode {text bytes : List UInt8} (h : decode text = some bytes) :
    text.length ≤ (bytes.length + 2) / 3 * 4 := by
  induction text using decode.induct generalizing bytes with
  | case1 => simp
  | case2 w x y z text hpad =>
    rw [decode, if_pos hpad, Option.map_eq_some_iff] at h
    obtain ⟨_, -, rfl⟩ := h
    simp [hpad.1]
  | case3 w x y z text hpad hpad' =>
    rw [decode, if_neg hpad, if_pos hpad', Option.map_eq_some_iff] at h
    obtain ⟨_, -, rfl⟩ := h
    simp [hpad'.1]
  | case4 w x y z text hpad hpad' ih =>
    rw [decode, if_neg hpad, if_neg hpad'] at h
    simp only [Option.bind_eq_bind, Option.bind_eq_some_iff, Option.some.injEq] at h
    obtain ⟨_, -, rest, hrest, rfl⟩ := h
    have hle := ih hrest
    simp only [List.length_cons]
    omega
  | case5 text h₁ h₂ => simp [decode] at h

lemma sextet_char {n : ℕ} (h : n < 64) : sextet (char n) = some n := by
  revert n
  decide

lemma char_ne_pad {n : ℕ} (h : n < 64) : char n ≠ pad := by
  revert n
  decide

lemma ungroup_group (a b c : UInt8) :
    ungroup (char (a.toNat / 4)) (char (a.toNat % 4 * 16 + b.toNat / 16))
      (char (b.toNat % 16 * 4 + c.toNat / 64)) (char (c.toNat % 64)) = some (a, b, c) := by
  have ha := a.toNat_lt
  have hb := b.toNat_lt
  have hc := c.toNat_lt
  have h₁ : a.toNat / 4 * 4 + (a.toNat % 4 * 16 + b.toNat / 16) / 16 = a.toNat := by omega
  have h₂ : (a.toNat % 4 * 16 + b.toNat / 16) % 16 * 16 + (b.toNat % 16 * 4 + c.toNat / 64) / 4 =
      b.toNat := by omega
  have h₃ : (b.toNat % 16 * 4 + c.toNat / 64) % 4 * 64 + c.toNat % 64 = c.toNat := by omega
  rw [ungroup, sextet_char (by omega), sextet_char (by omega), sextet_char (by omega),
    sextet_char (by omega)]
  simp only [Option.bind_eq_bind, Option.bind_some, h₁, h₂, h₃, UInt8.ofNat_toNat]

theorem decode_encode (bytes : List UInt8) : decode (encode bytes) = some bytes := by
  induction bytes using encode.induct with
  | case1 a b c bytes ih =>
    have hlast : char (c.toNat % 64) ≠ pad := char_ne_pad (by omega)
    simp only [encode, group, List.cons_append, List.nil_append, decode]
    rw [if_neg fun h => hlast h.2.2, if_neg fun h => hlast h.2, ungroup_group, ih]
    rfl
  | case2 a b =>
    have hb := b.toNat_lt
    have hmiddle : char (b.toNat % 16 * 4 + (0 : UInt8).toNat / 64) ≠ pad :=
      char_ne_pad (by simp; omega)
    have hgroup := ungroup_group a b 0
    rw [show char ((0 : UInt8).toNat % 64) = 65 by decide] at hgroup
    simp only [encode, group, List.take_succ_cons, List.take_zero, List.cons_append,
      List.nil_append, decode]
    rw [if_neg fun h => hmiddle h.2.1, if_pos ⟨trivial, trivial⟩, hgroup]
    rfl
  | case3 a =>
    have hgroup := ungroup_group a 0 0
    rw [show char ((0 : UInt8).toNat % 64) = 65 by decide,
      show char ((0 : UInt8).toNat % 16 * 4 + (0 : UInt8).toNat / 64) = 65 by decide] at hgroup
    simp only [encode, group, List.take_succ_cons, List.take_zero, List.cons_append,
      List.nil_append, decode]
    rw [if_pos ⟨trivial, trivial, trivial⟩, hgroup]
    rfl
  | case4 => rfl

end MoonlightVita.Base64
