import Mathlib

/-!
# Decimal numerals in byte strings

The value of a string of ASCII digits, read from the left.
-/
namespace MoonlightVita.Decimal

def isDigit (c : UInt8) : Bool := 48 ≤ c && c ≤ 57

def digit (c : UInt8) : ℕ := c.toNat - 48

/-- Read more digits behind a value. -/
def accumulate (start : ℕ) (text : List UInt8) : ℕ :=
  text.foldl (fun n c => n * 10 + digit c) start

def value (text : List UInt8) : ℕ := accumulate 0 text

@[simp] lemma accumulate_nil (n : ℕ) : accumulate n [] = n := rfl

@[simp] lemma accumulate_cons (n : ℕ) (c : UInt8) (text : List UInt8) :
    accumulate n (c :: text) = accumulate (n * 10 + digit c) text := by
  simp only [accumulate, List.foldl_cons]

/-- Reading on never makes a value smaller. -/
lemma le_accumulate (n : ℕ) (text : List UInt8) : n ≤ accumulate n text := by
  induction text generalizing n with
  | nil => exact le_refl n
  | cons c text ih =>
    have hnext := ih (n * 10 + digit c)
    rw [accumulate_cons]
    omega

end MoonlightVita.Decimal
