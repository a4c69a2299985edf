import Mathlib

/-!
# Logs of tagged lines

A line holds a tag between brackets and a text behind it. A log of whole lines is read back as
the entries that it was written from, and nothing else is a log.
-/
namespace MoonlightVita.LogLines

/-- The characters around the parts of a line. -/
structure Marks (α : Type*) where
  opening : α
  closing : α
  blank : α
  newline : α
  distinct : newline ∉ [opening, closing, blank]

abbrev Entry (α : Type*) : Type _ := List α × List α

variable {α : Type*} [DecidableEq α]

namespace Marks
variable (m : Marks α)

def body (entry : Entry α) : List α :=
  m.opening :: (entry.1 ++ m.closing :: m.blank :: entry.2)

def line (entry : Entry α) : List α := m.body entry ++ [m.newline]

def readBody : List α → Option (Entry α)
  | [] => none
  | c :: rest =>
    match rest.dropWhile (· ≠ m.closing) with
    | _ :: b :: text =>
      if c = m.opening ∧ b = m.blank then some (rest.takeWhile (· ≠ m.closing), text) else none
    | _ => none

/-- A log ends with its last line. -/
def readLog (log : List α) : Option (List (Entry α)) :=
  let lines := log.splitOn m.newline
  if lines.getLast? = some [] then lines.dropLast.mapM m.readBody else none

structure Fits (entry : Entry α) : Prop where
  tag : m.closing ∉ entry.1 ∧ m.newline ∉ entry.1
  text : m.newline ∉ entry.2

instance (entry : Entry α) : Decidable (m.Fits entry) :=
  decidable_of_iff ((m.closing ∉ entry.1 ∧ m.newline ∉ entry.1) ∧ m.newline ∉ entry.2)
    ⟨fun h => ⟨h.1, h.2⟩, fun h => ⟨h.tag, h.text⟩⟩

variable {m}

omit [DecidableEq α] in
lemma newline_not_mem_body {entry : Entry α} (h : m.Fits entry) : m.newline ∉ m.body entry := by
  have hdistinct := m.distinct
  simp only [List.mem_cons, List.not_mem_nil, or_false, not_or] at hdistinct
  simp [body, h.tag.2, h.text, hdistinct]

omit [DecidableEq α] in
lemma fits_of_body {entry : Entry α} (h : m.newline ∉ m.body entry)
    (hclosing : m.closing ∉ entry.1) : m.Fits entry := by
  simp only [body, List.mem_cons, List.mem_append, not_or] at h
  exact ⟨⟨hclosing, h.2.1⟩, h.2.2.2.2⟩

lemma readBody_body {entry : Entry α} (h : m.closing ∉ entry.1) :
    m.readBody (m.body entry) = some entry := by
  have hpos : ∀ c ∈ entry.1, decide (c ≠ m.closing) = true := by
    intro c hc
    simpa using fun heq : c = m.closing => h (heq ▸ hc)
  simp only [readBody, body]
  rw [List.dropWhile_append_of_pos hpos, List.takeWhile_append_of_pos hpos]
  simp

lemma body_of_readBody {bytes : List α} {entry : Entry α} (h : m.readBody bytes = some entry) :
    bytes = m.body entry ∧ m.closing ∉ entry.1 := by
  cases bytes with
  | nil => cases h
  | cons c rest =>
    simp only [readBody] at h
    split at h
    · rename_i d b text hrest
      split_ifs at h with hmarks
      cases h
      have hclosing : d = m.closing := by
        have hhead := List.head?_dropWhile_not (fun x => decide (x ≠ m.closing)) rest
        rw [hrest] at hhead
        simpa using hhead
      refine ⟨?_, fun hmem => by simpa using List.mem_takeWhile_imp hmem⟩
      have hsplit := List.takeWhile_append_dropWhile (p := fun x => decide (x ≠ m.closing))
        (l := rest)
      rw [hrest, hclosing, hmarks.2] at hsplit
      rw [body, hmarks.1, hsplit]
    · cases h

/-- The first line of a log, and the log behind it. -/
lemma readLog_cons {bytes : List α} (h : m.newline ∉ bytes) (log : List α) :
    m.readLog (bytes ++ m.newline :: log) =
      (m.readBody bytes).bind fun entry => (m.readLog log).map (entry :: ·) := by
  have hsplit : (bytes ++ m.newline :: log).splitOn m.newline = bytes :: log.splitOn m.newline :=
    List.splitOn_append_cons_self_of_not_mem h _
  obtain ⟨first, rest, hlines⟩ :=
    List.exists_cons_of_ne_nil (List.splitOnP_ne_nil (· == m.newline) log)
  have hlog : log.splitOn m.newline = first :: rest := hlines
  simp only [readLog, hsplit, hlog, List.getLast?_cons_cons, List.dropLast_cons_cons,
    List.mapM_cons]
  cases m.readBody bytes with
  | none => split_ifs <;> rfl
  | some entry =>
    split_ifs
    · cases (first :: rest).dropLast.mapM m.readBody <;> rfl
    · rfl

/-- A log is what its entries are written as, and nothing else. -/
theorem readLog_eq_some_iff {log : List α} {entries : List (Entry α)} :
    m.readLog log = some entries ↔ log = entries.flatMap m.line ∧ ∀ e ∈ entries, m.Fits e := by
  constructor
  · induction hlength : log.length using Nat.strong_induction_on generalizing log entries with
    | _ n ih =>
      intro h
      by_cases hmem : m.newline ∈ log
      · obtain ⟨bytes, rest, rfl, hbytes⟩ := List.eq_append_cons_of_mem hmem
        rw [readLog_cons hbytes, Option.bind_eq_some_iff] at h
        obtain ⟨entry, hentry, h⟩ := h
        obtain ⟨entries', hrest, rfl⟩ := Option.map_eq_some_iff.mp h
        obtain ⟨rfl, hclosing⟩ := body_of_readBody hentry
        obtain ⟨hlog, hfits⟩ := ih rest.length (by simp at hlength; omega) rfl hrest
        refine ⟨?_, List.forall_mem_cons.mpr ⟨fits_of_body hbytes hclosing, hfits⟩⟩
        rw [hlog, List.flatMap_cons, line, List.append_assoc]
        rfl
      · rw [readLog, List.splitOn_eq_singleton hmem] at h
        split_ifs at h with hlast
        cases h
        exact ⟨by simpa using hlast, by simp⟩
  · rintro ⟨rfl, hfits⟩
    induction entries with
    | nil => rfl
    | cons entry entries ih =>
      rw [List.forall_mem_cons] at hfits
      rw [List.flatMap_cons, line, List.append_assoc, List.singleton_append,
        readLog_cons (newline_not_mem_body hfits.1), readBody_body hfits.1.tag.1, ih hfits.2]
      rfl

lemma readLog_append {log log' : List α} {entries entries' : List (Entry α)}
    (h : m.readLog log = some entries) (h' : m.readLog log' = some entries') :
    m.readLog (log ++ log') = some (entries ++ entries') := by
  rw [readLog_eq_some_iff] at h h' ⊢
  obtain ⟨rfl, hfits⟩ := h
  obtain ⟨rfl, hfits'⟩ := h'
  exact ⟨(List.flatMap_append).symm, List.forall_mem_append.mpr ⟨hfits, hfits'⟩⟩

end Marks

end MoonlightVita.LogLines
