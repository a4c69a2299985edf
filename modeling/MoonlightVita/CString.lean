import MoonlightVita.Decimal
import MoonlightVita.Scanning

/-!
# C strings in a buffer

Strings are read from a position of a buffer up to the next zero byte. The functions
of `string.h` that write do so in place. Each has a rule for a buffer in which the
string stands between what comes before and after it.
-/
namespace MoonlightVita.CString
open Decimal Scanning

/-- The string at a position. -/
def cstr (buffer : List UInt8) (position : ℕ) : List UInt8 :=
  (buffer.drop position).takeWhile (· ≠ 0)

def strchr (buffer : List UInt8) (position : ℕ) (c : UInt8) : Option ℕ :=
  let text := cstr buffer position
  if c ∈ text then some (position + (text.takeWhile (· ≠ c)).length) else none

/-- `strtok` with one delimiter: the token, where the next call goes on, and the buffer. -/
def strtok (delimiter : UInt8) (buffer : List UInt8) (start : Option ℕ) :
    Option ℕ × Option ℕ × List UInt8 :=
  match start with
  | none => (none, none, buffer)
  | some position =>
    let token := position + ((cstr buffer position).takeWhile (· = delimiter)).length
    let stop := token + ((cstr buffer token).takeWhile (· ≠ delimiter)).length
    if cstr buffer token = [] then (none, none, buffer)
    else if cstr buffer stop = [] then (some token, none, buffer)
    else (some token, some (stop + 1), buffer.set stop 0)

def isSpace (c : UInt8) : Bool := c = 32 || 9 ≤ c && c ≤ 13

def longMax : ℤ := 2 ^ 31 - 1
def longMin : ℤ := -2 ^ 31

/-- `strtol` in base ten, with a `long` of 32 bits: the value and what follows the digits, or
`none` if there are no digits. -/
def strtol (text : List UInt8) : Option (ℤ × List UInt8) :=
  let text := text.dropWhile isSpace
  let negative := text.head? = some 45
  let text := if negative ∨ text.head? = some 43 then text.tail else text
  if text.takeWhile isDigit = [] then none
  else
    let value : ℤ := value (text.takeWhile isDigit)
    let value := if negative then max longMin (-value) else min longMax value
    some (value, text.dropWhile isDigit)

section Rules
variable {front text rest : List UInt8}

lemma cstr_append (h : 0 ∉ text) : cstr (front ++ (text ++ 0 :: rest)) front.length = text := by
  rw [cstr, List.drop_left]
  exact takeWhile_separator h rest

/-- A position inside of the string. -/
lemma cstr_append_at {k : ℕ} (h : 0 ∉ text) (hk : k ≤ text.length) :
    cstr (front ++ (text ++ 0 :: rest)) (front.length + k) = text.drop k := by
  have hsplit : front ++ (text ++ 0 :: rest) = (front ++ text.take k) ++ (text.drop k ++ 0 :: rest) := by
    rw [List.append_assoc, ← List.append_assoc (text.take k), List.take_append_drop]
  have hlength : front.length + k = (front ++ text.take k).length := by
    rw [List.length_append, List.length_take, min_eq_left hk]
  rw [hsplit, hlength]
  exact cstr_append fun h0 => h (List.mem_of_mem_drop h0)

lemma set_append (c c' : UInt8) : (front ++ c :: rest).set front.length c' = front ++ c' :: rest := by
  rw [List.set_append_right _ _ (le_refl _), Nat.sub_self, List.set_cons_zero]

lemma strchr_append (c : UInt8) (h : 0 ∉ text) :
    strchr (front ++ (text ++ 0 :: rest)) front.length c =
      if c ∈ text then some (front.length + (text.takeWhile (· ≠ c)).length) else none := by
  rw [strchr, cstr_append h]

section Tokens
variable {d : UInt8} {blank token : List UInt8}

lemma strtok_append (front rest : List UInt8) (h : 0 ∉ text) :
    strtok d (front ++ (text ++ 0 :: rest)) (some front.length) =
      let buffer := front ++ (text ++ 0 :: rest)
      let token := front.length + (text.takeWhile (· = d)).length
      let remaining := text.dropWhile (· = d)
      let stop := token + (remaining.takeWhile (· ≠ d)).length
      if remaining = [] then (none, none, buffer)
      else if remaining.dropWhile (· ≠ d) = [] then (some token, none, buffer)
      else (some token, some (stop + 1), buffer.set stop 0) := by
  have htoken : cstr (front ++ (text ++ 0 :: rest))
      (front.length + (text.takeWhile (· = d)).length) = text.dropWhile (· = d) := by
    rw [cstr_append_at h (List.takeWhile_prefix _).length_le, drop_length_takeWhile]
  have hstop : cstr (front ++ (text ++ 0 :: rest)) (front.length +
      (text.takeWhile (· = d)).length + ((text.dropWhile (· = d)).takeWhile (· ≠ d)).length) =
        (text.dropWhile (· = d)).dropWhile (· ≠ d) := by
    have hsplit := congrArg List.length (List.takeWhile_append_dropWhile (p := (· = d)) (l := text))
    have hle := (List.takeWhile_prefix (l := text.dropWhile (· = d)) (· ≠ d)).length_le
    rw [List.length_append] at hsplit
    rw [Nat.add_assoc, cstr_append_at h (by omega), ← List.drop_drop, drop_length_takeWhile,
      drop_length_takeWhile]
  simp only [strtok]
  rw [cstr_append h, htoken, hstop]

lemma strtok_none (front rest : List UInt8) (hblank : ∀ c ∈ blank, c = d) (h : 0 ∉ blank) :
    strtok d (front ++ (blank ++ 0 :: rest)) (some front.length) =
      (none, none, front ++ (blank ++ 0 :: rest)) := by
  have hempty : blank.dropWhile (· = d) = [] := by
    rw [List.dropWhile_eq_nil_iff]
    simpa using hblank
  rw [strtok_append front rest h]
  exact if_pos hempty

lemma strtok_last (front rest : List UInt8) (hblank : ∀ c ∈ blank, c = d)
    (h : 0 ∉ blank ++ token) (htoken : d ∉ token) (hne : token ≠ []) :
    strtok d (front ++ ((blank ++ token) ++ 0 :: rest)) (some front.length) =
      (some (front.length + blank.length), none, front ++ ((blank ++ token) ++ 0 :: rest)) := by
  have hhead : ∀ c ∈ token.head?, decide (c = d) = false := by
    intro c hc
    simpa using fun hd : c = d => htoken (hd ▸ List.mem_of_mem_head? hc)
  have hscan : token.dropWhile (· ≠ d) = [] :=
    List.dropWhile_eq_nil_iff.mpr (ne_separator htoken)
  rw [strtok_append front rest h]
  simp only [takeWhile_stop (p := (· = d)) (by simpa using hblank) hhead,
    dropWhile_stop (p := (· = d)) (by simpa using hblank) hhead, hscan]
  rw [if_neg hne, if_pos trivial]

lemma strtok_next (front rest : List UInt8) {after : List UInt8} (hblank : ∀ c ∈ blank, c = d)
    (h : 0 ∉ blank ++ (token ++ d :: after)) (htoken : d ∉ token) (hne : token ≠ []) :
    strtok d (front ++ ((blank ++ (token ++ d :: after)) ++ 0 :: rest)) (some front.length) =
      (some (front.length + blank.length), some (front.length + blank.length + token.length + 1),
        (front ++ blank) ++ (token ++ 0 :: (after ++ 0 :: rest))) := by
  have hhead : ∀ c ∈ (token ++ d :: after).head?, decide (c = d) = false := by
    intro c hc
    have hmem : c ∈ token := by
      cases token with
      | nil => exact absurd rfl hne
      | cons c' token =>
        simp only [List.cons_append, List.head?_cons, Option.mem_def, Option.some.injEq] at hc
        simp [hc]
    simpa using fun hd : c = d => htoken (hd ▸ hmem)
  have hset : (front ++ ((blank ++ (token ++ d :: after)) ++ 0 :: rest)).set
      (front.length + blank.length + token.length) 0 =
        (front ++ blank) ++ (token ++ 0 :: (after ++ 0 :: rest)) := by
    have hshape : front ++ ((blank ++ (token ++ d :: after)) ++ 0 :: rest) =
        (front ++ blank ++ token) ++ d :: (after ++ 0 :: rest) := by simp
    have hlength : front.length + blank.length + token.length = (front ++ blank ++ token).length := by
      simp [Nat.add_assoc]
    rw [hshape, hlength, set_append]
    simp
  rw [strtok_append front rest h]
  simp only [takeWhile_stop (p := (· = d)) (by simpa using hblank) hhead,
    dropWhile_stop (p := (· = d)) (by simpa using hblank) hhead, takeWhile_separator htoken,
    dropWhile_separator htoken]
  rw [if_neg (by simp), if_neg (by simp), hset]

end Tokens

end Rules

lemma isSpace_of_isDigit : ∀ c : UInt8, isDigit c → isSpace c = false := by decide +kernel

/-- A text of digits is read to its end. -/
lemma strtol_digits {text : List UInt8} (hne : text ≠ []) (h : ∀ c ∈ text, isDigit c) :
    strtol text = some (min longMax (value text), []) := by
  have hhead : ∀ c ∈ text.head?, isDigit c := fun c hc => h c (List.mem_of_mem_head? hc)
  have hspace : ([] ++ text).dropWhile isSpace = text :=
    dropWhile_stop (List.forall_mem_nil _) fun c hc => isSpace_of_isDigit c (hhead c hc)
  rw [List.nil_append] at hspace
  have hminus : text.head? ≠ some 45 := fun hc => absurd (hhead 45 hc) (by decide)
  have hplus : text.head? ≠ some 43 := fun hc => absurd (hhead 43 hc) (by decide)
  have htake : text.takeWhile isDigit = text := List.takeWhile_eq_self_iff.mpr h
  have hdrop : text.dropWhile isDigit = [] := List.dropWhile_eq_nil_iff.mpr h
  simp [strtol, hspace, hminus, hplus, htake, hdrop, hne]

end MoonlightVita.CString
