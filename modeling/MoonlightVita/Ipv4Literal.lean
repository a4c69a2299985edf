import MoonlightVita.Decimal
import MoonlightVita.Scanning

/-!
# IPv4 literals: `tsvita_parse_ipv4_literal`

A string is the list of its characters; the end of the list stands for the
terminator. The parser accepts four groups of one to three digits, each at most
255, with single dots between them, and nothing else.
-/
namespace MoonlightVita.Ipv4Literal
open Decimal Scanning

def dot : UInt8 := 46

/-- The character under the cursor. -/
def peek : List UInt8 → UInt8
  | [] => 0
  | c :: _ => c

@[simp] lemma peek_nil : peek [] = 0 := rfl

@[simp] lemma peek_cons (c : UInt8) (text : List UInt8) : peek (c :: text) = c := rfl

/-- The digit loop of an octet, with the value, the digits so far and the cursor. -/
def scanOctet (value digits : ℕ) : List UInt8 → Option (ℕ × List UInt8)
  | [] => some (value, [])
  | c :: cursor =>
    if isDigit c then
      let value := value * 10 + digit c
      let digits := digits + 1
      if 3 < digits ∨ 255 < value then none else scanOctet value digits cursor
    else some (value, c :: cursor)

/-- The loop over the octets, with the number of octets that are left. -/
def parseOctets : ℕ → List UInt8 → Option (List UInt8)
  | 0, _ => some []
  | left + 1, cursor =>
    if !isDigit (peek cursor) then none
    else
      match scanOctet 0 0 cursor with
      | none => none
      | some (value, cursor) =>
        if 0 < left then
          if peek cursor ≠ dot then none
          else (parseOctets left cursor.tail).map (UInt8.ofNat value :: ·)
        else if peek cursor ≠ 0 then none
        else some [UInt8.ofNat value]

/-- The result and the array of the caller afterwards. -/
def tsvitaParseIpv4Literal (text output : Option (List UInt8)) : Bool × Option (List UInt8) :=
  match text, output with
  | some text, some output =>
    if peek text = 0 then (false, some output)
    else
      match parseOctets 4 text with
      | none => (false, some output)
      | some parsed => (true, some (parsed ++ output.drop 4))
  | _, _ => (false, output)

/-- One to three digits of value at most 255. -/
structure Group (text : List UInt8) : Prop where
  digits : ∀ c ∈ text, isDigit c
  nonempty : 1 ≤ text.length
  short : text.length ≤ 3
  small : value text ≤ 255

/-- Groups with single dots between them and nothing else. -/
structure Dotted (n : ℕ) (text : List UInt8) (groups : List (List UInt8)) : Prop where
  count : groups.length = n
  group : ∀ g ∈ groups, Group g
  text_eq : text = [dot].intercalate groups

def octets (groups : List (List UInt8)) : List UInt8 :=
  groups.map fun g => UInt8.ofNat (value g)

lemma scanOctet_eq (n digits : ℕ) (text : List UInt8) :
    scanOctet n digits text =
      if text.takeWhile isDigit = [] ∨ digits + (text.takeWhile isDigit).length ≤ 3 ∧
          accumulate n (text.takeWhile isDigit) ≤ 255 then
        some (accumulate n (text.takeWhile isDigit), text.dropWhile isDigit)
      else none := by
  induction text generalizing n digits with
  | nil => simp [scanOctet]
  | cons c text ih =>
    by_cases hc : isDigit c
    · have hmono := le_accumulate (n * 10 + digit c) (text.takeWhile isDigit)
      simp only [scanOctet, hc, if_true, ih, List.takeWhile_cons_of_pos, List.dropWhile_cons_of_pos,
        accumulate_cons, List.length_cons, reduceCtorEq, false_or]
      by_cases hstop : 3 < digits + 1 ∨ 255 < n * 10 + digit c
      · rw [if_pos hstop, if_neg (by omega)]
      · rw [if_neg hstop]
        refine if_congr ?_ rfl rfl
        constructor
        · rintro (hnil | hfits)
          · rw [hnil, accumulate_nil, List.length_nil]
            omega
          · omega
        · intro hfits
          exact Or.inr (by omega)
    · have hnot : isDigit c = false := by simpa using hc
      simp [scanOctet, hnot]

/-- The loop reads one group, up to the first character that is not a digit. -/
lemma scanOctet_group {text cursor : List UInt8} {n : ℕ} (hdigit : isDigit (peek text)) :
    scanOctet 0 0 text = some (n, cursor) ↔ ∃ g, Group g ∧ n = value g ∧ text = g ++ cursor ∧
      ∀ c ∈ cursor.head?, isDigit c = false := by
  have hne : text.takeWhile isDigit ≠ [] := by
    cases text with
    | nil => cases hdigit
    | cons c text =>
      have hc : isDigit c = true := hdigit
      simp [hc]
  rw [scanOctet_eq]
  constructor
  · intro h
    split_ifs at h with hfits
    rw [Option.some.injEq, Prod.mk.injEq] at h
    obtain ⟨rfl, rfl⟩ := h
    have hbounds := hfits.resolve_left hne
    have hpos := List.length_pos_iff.mpr hne
    refine ⟨text.takeWhile isDigit, ⟨fun c hc => List.mem_takeWhile_imp hc, hpos, by omega,
      hbounds.2⟩, rfl, ?_, head?_dropWhile text⟩
    exact List.takeWhile_append_dropWhile.symm
  · rintro ⟨g, hg, rfl, rfl, hstop⟩
    rw [takeWhile_stop hg.digits hstop, dropWhile_stop hg.digits hstop]
    have hshort := hg.short
    exact if_pos (Or.inr ⟨by omega, hg.small⟩)

lemma isDigit_dot : isDigit dot = false := by decide

lemma Group.peek {g : List UInt8} (h : Group g) (rest : List UInt8) :
    isDigit (peek (g ++ rest)) := by
  have hpos := h.nonempty
  cases g with
  | nil => simp at hpos
  | cons c g => exact h.digits c (by simp)

lemma Dotted.cons {n : ℕ} {g text : List UInt8} {groups : List (List UInt8)} (hg : Group g)
    (h : Dotted (n + 1) text groups) : Dotted (n + 2) (g ++ dot :: text) (g :: groups) where
  count := by rw [List.length_cons, h.count]
  group := by
    intro g' hg'
    rcases List.mem_cons.mp hg' with rfl | hg'
    · exact hg
    · exact h.group g' hg'
  text_eq := by
    have hcount := h.count
    rw [h.text_eq]
    cases groups with
    | nil => simp at hcount
    | cons g' groups => simp [List.intercalate, List.intersperse]

lemma Dotted.single {g : List UInt8} (hg : Group g) : Dotted 1 g [g] :=
  ⟨rfl, by simpa using hg, by simp [List.intercalate]⟩

/-- A dotted text is one group, or a group, a dot and a dotted text. -/
lemma Dotted.inv {n : ℕ} {text : List UInt8} {groups : List (List UInt8)}
    (h : Dotted (n + 1) text groups) :
    (n = 0 ∧ ∃ g, Group g ∧ groups = [g] ∧ text = g) ∨
    ∃ k g tail rest, n = k + 1 ∧ Group g ∧ groups = g :: rest ∧ text = g ++ dot :: tail ∧
      Dotted (k + 1) tail rest := by
  obtain ⟨hcount, hgroup, rfl⟩ := h
  cases groups with
  | nil => simp at hcount
  | cons g groups =>
    have hg := hgroup g (by simp)
    cases groups with
    | nil =>
      refine Or.inl ⟨by simpa using hcount.symm, g, hg, rfl, ?_⟩
      simp [List.intercalate]
    | cons g' groups =>
      refine Or.inr ⟨groups.length, g, [dot].intercalate (g' :: groups), g' :: groups, ?_, hg, rfl,
        ?_, ⟨rfl, fun c hc => hgroup c (List.mem_cons_of_mem _ hc), rfl⟩⟩
      · simpa using hcount.symm
      · simp [List.intercalate, List.intersperse]

/-- The last turn of the loop reads one group up to the end of the string. -/
lemma parseOctets_one_iff {text parsed : List UInt8} (hnul : 0 ∉ text) :
    parseOctets 1 text = some parsed ↔ Group text ∧ parsed = [UInt8.ofNat (value text)] := by
  constructor
  · intro h
    simp only [parseOctets, lt_irrefl, if_false, Bool.not_eq_true'] at h
    split_ifs at h with hdigit
    simp only [Bool.not_eq_false] at hdigit
    cases hscan : scanOctet 0 0 text with
    | none => simp [hscan] at h
    | some r =>
      simp only [hscan] at h
      split_ifs at h with hend
      obtain ⟨g, hg, hn, rfl, -⟩ := (scanOctet_group hdigit).mp hscan
      have hrest : r.2 = [] := by
        cases hr : r.2 with
        | nil => rfl
        | cons c cursor =>
          rw [hr] at hend hnul
          simp only [peek_cons, not_not] at hend
          simp [hend] at hnul
      rw [hrest, List.append_nil, ← hn]
      exact ⟨hg, (Option.some.inj h).symm⟩
  · rintro ⟨hg, rfl⟩
    have hdigit : isDigit (peek text) = true := by simpa using hg.peek []
    have hscan : scanOctet 0 0 text = some (value text, []) :=
      (scanOctet_group hdigit).mpr ⟨text, hg, rfl, by simp, by simp⟩
    simp [parseOctets, hdigit, hscan]

/-- A turn before it reads one group and the dot behind it. -/
lemma parseOctets_succ_iff {n : ℕ} {text parsed : List UInt8} :
    parseOctets (n + 2) text = some parsed ↔ ∃ g tail rest, Group g ∧ text = g ++ dot :: tail ∧
      parseOctets (n + 1) tail = some rest ∧ parsed = UInt8.ofNat (value g) :: rest := by
  constructor
  · intro h
    rw [parseOctets] at h
    simp only [Nat.zero_lt_succ, if_true, Bool.not_eq_true'] at h
    split_ifs at h with hdigit
    simp only [Bool.not_eq_false] at hdigit
    cases hscan : scanOctet 0 0 text with
    | none => simp [hscan] at h
    | some r =>
      simp only [hscan] at h
      split_ifs at h with hdot
      obtain ⟨g, hg, hn, rfl, -⟩ := (scanOctet_group hdigit).mp hscan
      obtain ⟨rest, hrest, rfl⟩ := Option.map_eq_some_iff.mp h
      cases hr : r.2 with
      | nil => simp [hr, dot] at hdot
      | cons c tail =>
        rw [hr] at hdot hrest
        simp only [peek_cons, not_not] at hdot
        exact ⟨g, tail, rest, hg, by rw [hdot], hrest, by rw [hn]⟩
  · rintro ⟨g, tail, rest, hg, rfl, hrest, rfl⟩
    have hdigit := hg.peek (dot :: tail)
    have hscan : scanOctet 0 0 (g ++ dot :: tail) = some (value g, dot :: tail) :=
      (scanOctet_group hdigit).mpr ⟨g, hg, rfl, rfl, by simp [isDigit_dot]⟩
    rw [parseOctets]
    simp [hdigit, hscan, hrest]

theorem parseOctets_iff {n : ℕ} {text parsed : List UInt8} (hnul : 0 ∉ text) :
    parseOctets (n + 1) text = some parsed ↔
      ∃ groups, Dotted (n + 1) text groups ∧ parsed = octets groups := by
  induction n generalizing text parsed with
  | zero =>
    rw [parseOctets_one_iff hnul]
    constructor
    · rintro ⟨hg, rfl⟩
      exact ⟨[text], Dotted.single hg, rfl⟩
    · rintro ⟨groups, hdotted, rfl⟩
      rcases hdotted.inv with ⟨-, g, hg, rfl, rfl⟩ | ⟨k, -, -, -, hk, -⟩
      · exact ⟨hg, rfl⟩
      · omega
  | succ n ih =>
    rw [parseOctets_succ_iff]
    constructor
    · rintro ⟨g, tail, rest, hg, rfl, hrest, rfl⟩
      have hnul' : 0 ∉ tail := fun hc => hnul (by simp [hc])
      obtain ⟨groups, hdotted, rfl⟩ := (ih hnul').mp hrest
      exact ⟨g :: groups, hdotted.cons hg, rfl⟩
    · rintro ⟨groups, hdotted, rfl⟩
      rcases hdotted.inv with ⟨hzero, -⟩ | ⟨k, g, tail, rest, hk, hg, rfl, rfl, hrest⟩
      · omega
      · obtain rfl : n = k := by omega
        have hnul' : 0 ∉ tail := fun hc => hnul (by simp [hc])
        exact ⟨g, tail, octets rest, hg, rfl, (ih hnul').mpr ⟨rest, hrest, rfl⟩, rfl⟩

lemma Dotted.length_le {n : ℕ} {text : List UInt8} {groups : List (List UInt8)}
    (h : Dotted (n + 1) text groups) : text.length ≤ 4 * n + 3 := by
  induction n generalizing text groups with
  | zero =>
    rcases h.inv with ⟨-, g, hg, -, rfl⟩ | ⟨k, -, -, -, hk, -⟩
    · exact hg.short
    · omega
  | succ n ih =>
    rcases h.inv with ⟨hzero, -⟩ | ⟨k, g, tail, rest, hk, hg, -, rfl, hrest⟩
    · omega
    · obtain rfl : n = k := by omega
      have hle := ih hrest
      have hshort := hg.short
      rw [List.length_append, List.length_cons]
      omega

/-- No text that the parser accepts is longer than `255.255.255.255`. -/
lemma length_le_of_accepted {text : List UInt8} (hnul : 0 ∉ text) {output : List UInt8}
    (h : (tsvitaParseIpv4Literal (some text) (some output)).1 = true) : text.length ≤ 15 := by
  simp only [tsvitaParseIpv4Literal] at h
  split_ifs at h
  cases hparse : parseOctets 4 text with
  | none => simp [hparse] at h
  | some parsed =>
    obtain ⟨groups, hdotted, -⟩ := (parseOctets_iff hnul).mp hparse
    exact hdotted.length_le

section Literal
variable {text : List UInt8} {groups : List (List UInt8)}

lemma tsvitaParseIpv4Literal_dotted (hnul : 0 ∉ text) (h : Dotted 4 text groups)
    (output : List UInt8) : tsvitaParseIpv4Literal (some text) (some output) =
      (true, some (octets groups ++ output.drop 4)) := by
  have hparse := (parseOctets_iff hnul).mpr ⟨groups, h, rfl⟩
  have hpeek : peek text ≠ 0 := by
    intro hzero
    rw [parseOctets, hzero] at hparse
    cases hparse
  simp only [tsvitaParseIpv4Literal, if_neg hpeek, hparse]

lemma tsvitaParseIpv4Literal_not_dotted (hnul : 0 ∉ text) (h : ¬ ∃ groups, Dotted 4 text groups)
    (output : List UInt8) :
    tsvitaParseIpv4Literal (some text) (some output) = (false, some output) := by
  cases hp : parseOctets 4 text with
  | none =>
    simp only [tsvitaParseIpv4Literal, hp]
    split_ifs <;> rfl
  | some parsed =>
    obtain ⟨groups, hdotted, -⟩ := (parseOctets_iff hnul).mp hp
    exact absurd ⟨groups, hdotted⟩ h

end Literal

/-- The parser accepts exactly four groups with dots between them, writes their values,
and leaves the output alone otherwise. -/
theorem tsvitaParseIpv4Literal_iff {text : List UInt8} (hnul : 0 ∉ text) (output : List UInt8) :
    ((tsvitaParseIpv4Literal (some text) (some output)).1 = true ↔
      ∃ groups, Dotted 4 text groups) ∧
    (∀ groups, Dotted 4 text groups → (tsvitaParseIpv4Literal (some text) (some output)).2 =
      some (octets groups ++ output.drop 4)) ∧
    ((tsvitaParseIpv4Literal (some text) (some output)).1 = false →
      (tsvitaParseIpv4Literal (some text) (some output)).2 = some output) := by
  refine ⟨⟨?_, ?_⟩, ?_, ?_⟩
  · intro h
    by_contra hno
    rw [tsvitaParseIpv4Literal_not_dotted hnul hno] at h
    cases h
  · rintro ⟨groups, hdotted⟩
    rw [tsvitaParseIpv4Literal_dotted hnul hdotted]
  · intro groups hdotted
    rw [tsvitaParseIpv4Literal_dotted hnul hdotted]
  · intro h
    by_cases hex : ∃ groups, Dotted 4 text groups
    · obtain ⟨groups, hdotted⟩ := hex
      rw [tsvitaParseIpv4Literal_dotted hnul hdotted] at h
      cases h
    · rw [tsvitaParseIpv4Literal_not_dotted hnul hex]

/-- The text `10.077.0.2`. -/
theorem tsvitaParseIpv4Literal_iff_tunnel :
    (tsvitaParseIpv4Literal (some [49, 48, 46, 48, 55, 55, 46, 48, 46, 50]) (some [1, 2, 3, 4])) =
      (true, some [10, 77, 0, 2]) := by
  have hdotted : Dotted 4 [49, 48, 46, 48, 55, 55, 46, 48, 46, 50]
      [[49, 48], [48, 55, 55], [48], [50]] := by
    refine ⟨rfl, ?_, rfl⟩
    intro g hg
    simp only [List.mem_cons, List.not_mem_nil, or_false] at hg
    rcases hg with rfl | rfl | rfl | rfl
    all_goals exact ⟨by decide +kernel, by decide, by decide, by decide +kernel⟩
  have hnul : 0 ∉ ([49, 48, 46, 48, 55, 55, 46, 48, 46, 50] : List UInt8) := by decide
  have h := tsvitaParseIpv4Literal_iff hnul [1, 2, 3, 4]
  exact Prod.ext (h.1.mpr ⟨_, hdotted⟩) (h.2.1 _ hdotted)

end MoonlightVita.Ipv4Literal
