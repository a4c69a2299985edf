import Mathlib

/-!
# Little-endian numbers in byte buffers

Numbers are written and read with a fixed width. A read that would leave the
buffer fails.
-/
namespace MoonlightVita.LittleEndian

def toBytes : ℕ → ℕ → List UInt8
  | 0, _ => []
  | width + 1, n => UInt8.ofNat n :: toBytes width (n / 256)

def ofBytes (bytes : List UInt8) : ℕ := bytes.foldr (fun b n => b.toNat + 256 * n) 0

/-- The bytes at an offset, if the buffer has all of them. -/
def bytesAt (buffer : List UInt8) (offset width : ℕ) : Option (List UInt8) :=
  if offset + width ≤ buffer.length then some ((buffer.drop offset).take width) else none

@[simp] lemma length_toBytes (width n : ℕ) : (toBytes width n).length = width := by
  induction width generalizing n with
  | zero => rfl
  | succ width ih => simp [toBytes, ih]

lemma ofBytes_toBytes {width n : ℕ} (h : n < 256 ^ width) : ofBytes (toBytes width n) = n := by
  induction width generalizing n with
  | zero =>
    have hn : n = 0 := by simpa using h
    rw [hn]
    rfl
  | succ width ih =>
    have hdiv : n / 256 < 256 ^ width := by
      rw [pow_succ] at h
      exact Nat.div_lt_of_lt_mul (by omega)
    have hrest : ofBytes (toBytes width (n / 256)) = n / 256 := ih hdiv
    have hbyte : (UInt8.ofNat n).toNat = n % 256 := UInt8.toNat_ofNat'
    change (UInt8.ofNat n).toNat + 256 * ofBytes (toBytes width (n / 256)) = n
    rw [hrest, hbyte]
    omega

lemma bytesAt_append {before bytes after : List UInt8} {offset width : ℕ}
    (hoffset : before.length = offset) (hwidth : bytes.length = width) :
    bytesAt (before ++ bytes ++ after) offset width = some bytes := by
  subst hoffset hwidth
  have hle : before.length + bytes.length ≤ (before ++ bytes ++ after).length := by
    simp only [List.length_append]
    omega
  rw [bytesAt, if_pos hle]
  simp

end MoonlightVita.LittleEndian
