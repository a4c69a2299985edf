import Mathlib

/-!
# Scanning lists

Where a scan for the first element of some kind stops, what remains of a list when
such elements are taken off both of its ends, and what a list joined from parts holds.
-/
namespace MoonlightVita.Scanning

variable {α : Type*} {p : α → Bool} {front rest : List α}

lemma takeWhile_stop (hfront : ∀ c ∈ front, p c) (hrest : ∀ c ∈ rest.head?, p c = false) :
    (front ++ rest).takeWhile p = front := by
  rw [List.takeWhile_append_of_pos hfront]
  cases rest with
  | nil => simp
  | cons c rest => simp [hrest c rfl]

lemma dropWhile_stop (hfront : ∀ c ∈ front, p c) (hrest : ∀ c ∈ rest.head?, p c = false) :
    (front ++ rest).dropWhile p = rest := by
  rw [List.dropWhile_append_of_pos hfront]
  cases rest with
  | nil => rfl
  | cons c rest => simp [hrest c rfl]

lemma drop_length_takeWhile (l : List α) : l.drop (l.takeWhile p).length = l.dropWhile p := by
  induction l with
  | nil => rfl
  | cons c l ih => by_cases hc : p c <;> simp [hc, ih]

lemma head?_dropWhile (l : List α) : ∀ c ∈ (l.dropWhile p).head?, p c = false := by
  intro c hc
  have h := List.head?_dropWhile_not p l
  rw [Option.mem_def.mp hc] at h
  simpa using h

lemma dropWhile_append_cons {c : α} (hc : p c = false) (front rest : List α) :
    (front ++ c :: rest).dropWhile p = front.dropWhile p ++ c :: rest := by
  induction front with
  | nil => simp [hc]
  | cons c' front ih => by_cases hc' : p c' <;> simp [hc', ih]

lemma rdropWhile_append_cons {c : α} (hc : p c = false) (front rest : List α) :
    (front ++ c :: rest).rdropWhile p = front ++ c :: rest.rdropWhile p := by
  have hreverse : (front ++ c :: rest).reverse = rest.reverse ++ c :: front.reverse := by simp
  rw [List.rdropWhile, hreverse, dropWhile_append_cons hc, List.rdropWhile]
  simp

lemma rdropWhile_stop (hfront : ∀ c ∈ front.getLast?, p c = false) (hrest : ∀ c ∈ rest, p c) :
    (front ++ rest).rdropWhile p = front := by
  rw [List.rdropWhile, List.reverse_append, dropWhile_stop, List.reverse_reverse]
  · simpa using hrest
  · simpa using hfront

section Separator
variable [DecidableEq α] {d : α}

lemma ne_separator (h : d ∉ front) : ∀ c ∈ front, decide (c ≠ d) = true := by
  intro c hc
  simpa using fun hd : c = d => h (hd ▸ hc)

/-- A scan for a separator stops at the first one. -/
lemma takeWhile_separator (h : d ∉ front) (rest : List α) :
    (front ++ d :: rest).takeWhile (· ≠ d) = front :=
  takeWhile_stop (ne_separator h) (by simp)

lemma dropWhile_separator (h : d ∉ front) (rest : List α) :
    (front ++ d :: rest).dropWhile (· ≠ d) = d :: rest :=
  dropWhile_stop (ne_separator h) (by simp)

end Separator

section Joined
variable {c d : α} {ls : List (List α)}

/-- What is in a joined list comes from a part or separates two. -/
lemma mem_of_mem_intercalate (h : c ∈ [d].intercalate ls) : c = d ∨ ∃ l ∈ ls, c ∈ l := by
  induction ls with
  | nil => simp at h
  | cons l ls ih =>
    cases ls with
    | nil => exact Or.inr ⟨l, by simp, by simpa using h⟩
    | cons l' ls =>
      rw [List.intercalate_cons_cons, List.mem_append, List.mem_append, List.mem_singleton] at h
      rcases h with (h | h) | h
      · exact Or.inr ⟨l, by simp, h⟩
      · exact Or.inl h
      · rcases ih h with h | ⟨l'', hl'', h⟩
        · exact Or.inl h
        · exact Or.inr ⟨l'', List.mem_cons_of_mem _ hl'', h⟩

lemma mem_intercalate {l : List α} (hl : l ∈ ls) (h : c ∈ l) : c ∈ [d].intercalate ls := by
  induction ls with
  | nil => cases hl
  | cons l' ls ih =>
    cases ls with
    | nil =>
      obtain rfl := List.mem_singleton.mp hl
      simpa using h
    | cons l'' ls =>
      rw [List.intercalate_cons_cons, List.mem_append, List.mem_append]
      rcases List.mem_cons.mp hl with rfl | hl
      · exact Or.inl (Or.inl h)
      · exact Or.inr (ih hl)

lemma length_intercalate (h : ls ≠ []) :
    ([d].intercalate ls).length + 1 = (ls.map List.length).sum + ls.length := by
  induction ls with
  | nil => exact absurd rfl h
  | cons l ls ih =>
    cases ls with
    | nil => simp
    | cons l' ls =>
      have hrest := ih (by simp)
      rw [List.intercalate_cons_cons]
      simp only [List.length_append, List.map_cons, List.sum_cons, List.length_cons,
        List.length_nil] at hrest ⊢
      omega

end Joined

end MoonlightVita.Scanning
