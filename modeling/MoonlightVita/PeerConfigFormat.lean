import MoonlightVita.PeerConfigSettings

/-!
# How a peer configuration may be written

Blank lines, comments and assignments, with blanks around names and values and with either
line end. The loader finds what such a text says in every layout and order of its lines.
-/
namespace MoonlightVita.PeerConfig
open CString Decimal Ipv4Literal Scanning

/-- The name and the value that a line assigns, if any. -/
abbrev Item : Type := Option (List UInt8 × List UInt8)

/-- No blank in front, and neither blank nor line end behind. -/
structure Trimmed (text : List UInt8) : Prop where
  front : ∀ c ∈ text.head?, isBlank c = false
  behind : ∀ c ∈ text.getLast?, isTrailing c = false

instance (text : List UInt8) : Decidable (Trimmed text) :=
  decidable_of_iff ((∀ c ∈ text.head?, isBlank c = false) ∧
    ∀ c ∈ text.getLast?, isTrailing c = false) ⟨fun h => ⟨h.1, h.2⟩, fun h => ⟨h.1, h.2⟩⟩

/-- The lines of a configuration and what they say. -/
inductive Reads : List UInt8 → Item → Prop
  | blank {line : List UInt8} (hline : ∀ c ∈ line, isTrailing c) : Reads line none
  | comment {lead : List UInt8} (text : List UInt8) (hlead : ∀ c ∈ lead, isBlank c) :
      Reads (lead ++ hash :: text) none
  | assignment {lead name gap gap' value trail : List UInt8} (hlead : ∀ c ∈ lead, isBlank c)
      (hname : Trimmed name) (hequals : equals ∉ name) (hhash : name.head? ≠ some hash)
      (hgap : ∀ c ∈ gap, isTrailing c) (hgap' : ∀ c ∈ gap', isBlank c) (hvalue : Trimmed value)
      (htrail : ∀ c ∈ trail, isTrailing c) :
      Reads (lead ++ (name ++ gap) ++ equals :: (gap' ++ (value ++ trail))) (some (name, value))

/-- The values that items assign to a name, in their order. -/
def assigned (name : List UInt8) (items : List Item) : List (List UInt8) :=
  items.filterMap fun item => item.bind fun pair => if pair.1 = name then some pair.2 else none

/-- Digits of a value between 1 and 65535. -/
structure Port (text : List UInt8) : Prop where
  digits : ∀ c ∈ text, isDigit c
  positive : 1 ≤ value text
  small : value text ≤ 65535

/-- A text that fits the buffer, and what its lines say. -/
structure Written (text : List UInt8) (items : List Item) : Prop where
  short : text.length ≤ contentsSize - 1
  nul : 0 ∉ text
  lines : List.Forall₂ Reads (text.splitOn newline) items

/-- The last assignments give a key, an address and a port, and no port is bad. -/
structure Gives (items : List Item) (c : Config) : Prop where
  keyLength : c.publicKey.length = wireguardPublicKeyLen
  key : (assigned peerPublicKey items).getLast? = some (Base64.encode c.publicKey)
  address : (assigned endpointIp items).getLast? = some c.endpointIp
  dotted : ∃ groups, Dotted 4 c.endpointIp groups
  port : (assigned endpointPort items).getLast?.map value = some c.endpointPort.toNat
  ports : ∀ text ∈ assigned endpointPort items, Port text

/-- A decoder that inverts the encoding of keys. -/
def Inverts (decode : Decode) : Prop :=
  ∀ key, key.length = wireguardPublicKeyLen →
    decode (Base64.encode key) wireguardPublicKeyLen = some key

section Trimming
variable {lead core trail text : List UInt8}

lemma isTrailing_of_isBlank {c : UInt8} (h : isBlank c) : isTrailing c := by
  simp [isTrailing, h]

lemma isTrailing_of_mem_append (hlead : ∀ c ∈ lead, isBlank c) (htrail : ∀ c ∈ trail, isTrailing c) :
    ∀ c ∈ lead ++ ([] ++ trail), isTrailing c := by
  intro c hc
  rw [List.nil_append, List.mem_append] at hc
  rcases hc with hc | hc
  · exact isTrailing_of_isBlank (hlead c hc)
  · exact htrail c hc

lemma rdropWhile_eq_nil (h : ∀ c ∈ text, isTrailing c) : text.rdropWhile isTrailing = [] :=
  List.rdropWhile_eq_nil_iff.mpr h

lemma trimText_eq_nil (h : ∀ c ∈ text, isTrailing c) : trimText text = [] :=
  rdropWhile_eq_nil fun c hc => h c ((List.dropWhile_suffix _).subset hc)

/-- Trimming finds the text between blanks. -/
lemma trimText_around (hlead : ∀ c ∈ lead, isBlank c) (hcore : Trimmed core)
    (htrail : ∀ c ∈ trail, isTrailing c) : trimText (lead ++ (core ++ trail)) = core := by
  cases core with
  | nil => exact trimText_eq_nil (isTrailing_of_mem_append hlead htrail)
  | cons c core =>
    have hfront : ∀ c' ∈ (c :: core ++ trail).head?, isBlank c' = false := hcore.front
    rw [trimText, dropWhile_stop hlead hfront, rdropWhile_stop hcore.behind htrail]

/-- A separator that is not trimmed parts the trimming of both ends. -/
lemma trimText_append_cons {c : UInt8} (hc : isTrailing c = false) (text text' : List UInt8) :
    trimText (text ++ c :: text') =
      text.dropWhile isBlank ++ c :: text'.rdropWhile isTrailing := by
  have hblank : isBlank c = false := by
    by_contra hblank
    rw [isTrailing_of_isBlank (by simpa using hblank)] at hc
    cases hc
  rw [trimText, dropWhile_append_cons hblank, rdropWhile_append_cons hc]

lemma trimText_dropWhile (text : List UInt8) : trimText (text.dropWhile isBlank) = trimText text := by
  rw [trimText, List.dropWhile_idempotent, trimText]

/-- The value is the same after the whole line has been trimmed. -/
lemma trimText_rdropWhile (hlead : ∀ c ∈ lead, isBlank c) (hcore : Trimmed core)
    (htrail : ∀ c ∈ trail, isTrailing c) :
    trimText ((lead ++ (core ++ trail)).rdropWhile isTrailing) = core := by
  cases core with
  | nil =>
    rw [rdropWhile_eq_nil (isTrailing_of_mem_append hlead htrail)]
    rfl
  | cons c core =>
    have hbehind : ∀ c' ∈ (lead ++ c :: core).getLast?, isTrailing c' = false := by
      rw [List.getLast?_append_of_ne_nil _ (List.cons_ne_nil c core)]
      exact hcore.behind
    have htrimmed := trimText_around hlead hcore (List.forall_mem_nil fun c => isTrailing c = true)
    rw [List.append_nil] at htrimmed
    rw [← List.append_assoc, rdropWhile_stop hbehind htrail, htrimmed]

end Trimming

lemma readLine_comment {lead : List UInt8} (text : List UInt8) (hlead : ∀ c ∈ lead, isBlank c) :
    readLine (lead ++ hash :: text) = .ignored := by
  have hentry := trimText_append_cons (c := hash) (by decide) lead text
  rw [List.dropWhile_eq_nil_iff.mpr hlead, List.nil_append] at hentry
  simp [readLine, hentry]

section Assignment
variable {lead name gap gap' value trail : List UInt8}

/-- The entry of an assignment does not look like a comment. -/
lemma head?_entry_ne (hlead : ∀ c ∈ lead, isBlank c) (hname : Trimmed name)
    (hhash : name.head? ≠ some hash) (hgap : ∀ c ∈ gap, isTrailing c) (rest : List UInt8) :
    ((lead ++ (name ++ gap)).dropWhile isBlank ++ equals :: rest).head? ≠ some hash := by
  cases name with
  | nil =>
    have hnot : hash ∉ (lead ++ ([] ++ gap)).dropWhile isBlank := by
      intro h
      have htrailing := isTrailing_of_mem_append hlead hgap hash ((List.dropWhile_suffix _).subset h)
      exact absurd htrailing (by decide)
    generalize (lead ++ ([] ++ gap)).dropWhile isBlank = front at hnot
    cases front with
    | nil => exact fun h => absurd (Option.some.inj h) (by decide)
    | cons c front =>
      intro h
      obtain rfl : c = hash := by simpa using h
      simp at hnot
  | cons c name =>
    have hfront : ∀ c' ∈ (c :: name ++ gap).head?, isBlank c' = false := hname.front
    rw [dropWhile_stop hlead hfront]
    exact hhash

lemma readLine_assignment (hlead : ∀ c ∈ lead, isBlank c) (hname : Trimmed name)
    (hequals : equals ∉ name) (hhash : name.head? ≠ some hash) (hgap : ∀ c ∈ gap, isTrailing c)
    (hgap' : ∀ c ∈ gap', isBlank c) (hvalue : Trimmed value) (htrail : ∀ c ∈ trail, isTrailing c) :
    readLine (lead ++ (name ++ gap) ++ equals :: (gap' ++ (value ++ trail))) =
      .assignment name value := by
  have hentry := trimText_append_cons (c := equals) (by decide) (lead ++ (name ++ gap))
    (gap' ++ (value ++ trail))
  have hcomment := head?_entry_ne hlead hname hhash hgap
    ((gap' ++ (value ++ trail)).rdropWhile isTrailing)
  have hnot : equals ∉ (lead ++ (name ++ gap)).dropWhile isBlank := by
    intro h
    have hmem := (List.dropWhile_suffix _).subset h
    rw [List.mem_append, List.mem_append] at hmem
    rcases hmem with hmem | hmem | hmem
    · exact absurd (hlead _ hmem) (by decide)
    · exact hequals hmem
    · exact absurd (hgap _ hmem) (by decide)
  unfold readLine
  rw [hentry]
  dsimp only
  rw [if_neg (not_or.mpr ⟨by simp, hcomment⟩), if_pos (by simp), takeWhile_separator hnot,
    dropWhile_separator hnot, trimText_dropWhile, trimText_around hlead hname hgap,
    List.tail_cons, trimText_rdropWhile hgap' hvalue htrail]

end Assignment

/-- The loader reads what a line says. -/
lemma readLine_of_reads {line : List UInt8} {item : Item} (h : Reads line item) :
    readLine line = match item with
      | none => .ignored
      | some (name, value) => .assignment name value := by
  cases h with
  | blank hline => simp [readLine, trimText_eq_nil hline]
  | comment text hlead => exact readLine_comment text hlead
  | assignment hlead hname hequals hhash hgap hgap' hvalue htrail =>
    exact readLine_assignment hlead hname hequals hhash hgap hgap' hvalue htrail

lemma portOf_of_port {text : List UInt8} (h : Port text) :
    portOf text = some (UInt16.ofNat (value text)) := by
  have hpositive := h.positive
  have hsmall := h.small
  have hne : text ≠ [] := by
    rintro rfl
    simp [value] at hpositive
  have hvalue : min longMax (value text : ℤ) = value text := by
    unfold longMax
    omega
  have hrange : ¬ (([] : List UInt8) ≠ [] ∨ (value text : ℤ) < 1 ∨ 65535 < (value text : ℤ)) := by
    simp
    omega
  simp only [portOf, strtol_digits hne h.digits, hvalue, if_neg hrange, Int.toNat_natCast]

section Read
variable {lines : List (List UInt8)} {items : List Item}

lemma values_eq_assigned (h : List.Forall₂ Reads lines items) (name : List UInt8) :
    values name lines = assigned name items := by
  induction h with
  | nil => rfl
  | @cons line item lines items hline _ ih =>
    have hread := readLine_of_reads hline
    unfold values assigned at ih ⊢
    rw [List.filterMap_cons, List.filterMap_cons, ih, assignedValue, hread]
    cases item with
    | none => rfl
    | some pair => rfl

/-- A line is accepted, in whatever state, if it does not give a bad port. -/
lemma applyLine_ok {line : List UInt8} {item : Item} (h : Reads line item)
    (hport : ∀ v ∈ assigned endpointPort [item], (portOf v).isSome) (s : Settings) :
    ∃ s', applyLine s line = .ok s' := by
  have hread := readLine_of_reads h
  unfold applyLine
  rw [hread]
  cases item with
  | none => exact ⟨s, rfl⟩
  | some pair =>
    obtain ⟨name, v⟩ := pair
    dsimp only
    by_cases hname : name = endpointPort
    · subst hname
      obtain ⟨port, hvalid⟩ := Option.isSome_iff_exists.mp (hport v (by simp [assigned]))
      exact ⟨_, by rw [assign_port, hvalid]⟩
    · unfold assign
      split_ifs
      · exact ⟨_, rfl⟩
      · exact ⟨_, rfl⟩
      · exact ⟨_, rfl⟩

/-- The loop reaches the end of the text. -/
lemma foldlM_ok (h : List.Forall₂ Reads lines items)
    (hport : ∀ v ∈ assigned endpointPort items, (portOf v).isSome) (s : Settings) :
    ∃ s', lines.foldlM applyLine s = .ok s' := by
  induction h generalizing s with
  | nil => exact ⟨s, rfl⟩
  | @cons line item lines items hline _ ih =>
    have hsplit : assigned endpointPort (item :: items) =
        assigned endpointPort [item] ++ assigned endpointPort items := by
      rw [assigned, assigned, assigned, ← List.filterMap_append, List.singleton_append]
    rw [hsplit] at hport
    obtain ⟨s', hs'⟩ := applyLine_ok hline (fun v hv => hport v (List.mem_append_left _ hv)) s
    rw [List.foldlM_cons, hs']
    exact ih (fun v hv => hport v (List.mem_append_right _ hv)) s'

end Read

/-- The checks after the loop accept a complete configuration. -/
lemma finish_of_values (codes : Codes) {decode : Decode} (hdecode : Inverts decode) {c : Config}
    (hkey : c.publicKey.length = wireguardPublicKeyLen) (hnul : 0 ∉ c.endpointIp)
    {groups : List (List UInt8)} (hdotted : Dotted 4 c.endpointIp groups) (hport : c.endpointPort ≠ 0) :
    finish codes decode ⟨snprintf encodedKeySize (Base64.encode c.publicKey),
      snprintf endpointIpSize c.endpointIp, c.endpointPort⟩ = .ok c := by
  have haccepted : (tsvitaParseIpv4Literal (some c.endpointIp) (some [0, 0, 0, 0])).1 = true := by
    rw [tsvitaParseIpv4Literal_dotted hnul hdotted]
  have hkeyLength := Base64.length_encode c.publicKey
  rw [hkey] at hkeyLength
  have hkeyFits : snprintf encodedKeySize (Base64.encode c.publicKey) = Base64.encode c.publicKey :=
    List.take_of_length_le (by rw [hkeyLength]; decide)
  have haddressFits : snprintf endpointIpSize c.endpointIp = c.endpointIp :=
    List.take_of_length_le (hdotted.length_le.trans (by decide))
  have hkeyNe : Base64.encode c.publicKey ≠ [] := by
    rw [← List.length_pos_iff, hkeyLength]
    decide
  have haddressNe : c.endpointIp ≠ [] := by
    intro h
    rw [h] at haccepted
    exact absurd haccepted (by decide)
  rw [hkeyFits, haddressFits, finish]
  simp only [hkeyNe, haddressNe, hport, or_self, if_false, hdecode c.publicKey hkey, hkey,
    haccepted, ne_eq, not_true_eq_false, Bool.not_true, Bool.false_eq_true]

section Load
variable {text text' : List UInt8} {items items' : List Item} {c : Config}

lemma Written.seen_eq (h : Written text items) : seen text = text :=
  seen_eq_self (Nat.lt_of_le_sub_one (by decide) h.short) h.nul

/-- The loader finds the last assignments of the text. -/
lemma Written.load (h : Written text items) (hgives : Gives items c) (codes : Codes)
    {decode : Decode} (hdecode : Inverts decode) (uninitialised : List UInt8) :
    loadPeerConfig codes decode uninitialised (.contents text) = some (.ok c) := by
  have hvalid : ∀ v ∈ assigned endpointPort items, (portOf v).isSome := fun v hv => by
    rw [portOf_of_port (hgives.ports v hv), Option.isSome_some]
  obtain ⟨s, hs⟩ := foldlM_ok h.lines hvalid .none
  obtain ⟨hkey, haddress, hport⟩ := holds_of_foldlM hs
  rw [values_eq_assigned h.lines, hgives.key, Option.map_some, Option.getD_some] at hkey
  rw [values_eq_assigned h.lines, hgives.address, Option.map_some, Option.getD_some] at haddress
  obtain ⟨v, hv, hvalue⟩ := Option.map_eq_some_iff.mp hgives.port
  have hvPort := hgives.ports v (List.mem_of_getLast? hv)
  rw [values_eq_assigned h.lines, hv, Option.bind_some, portOf_of_port hvPort, Option.getD_some,
    hvalue, UInt16.ofNat_toNat] at hport
  have hnonzero : c.endpointPort ≠ 0 := by
    intro hzero
    have hpositive := hvPort.positive
    rw [hvalue, hzero] at hpositive
    exact absurd hpositive (by decide)
  have hnul : 0 ∉ c.endpointIp := by
    have hmem := List.mem_of_getLast? hgives.address
    rw [← values_eq_assigned h.lines] at hmem
    exact fun h0 => h.nul (mem_of_mem_values hmem h0)
  obtain ⟨groups, hdotted⟩ := hgives.dotted
  have hfinish := finish_of_values codes hdecode hgives.keyLength hnul hdotted hnonzero
  rw [← hkey, ← haddress, ← hport] at hfinish
  rw [loadPeerConfig_contents, h.seen_eq, parseText, hs]
  exact congrArg some hfinish

/-- Another order of the lines fits as well. -/
lemma Written.perm (h : Written text items)
    (hperm : (text'.splitOn newline).Perm (text.splitOn newline))
    (hlines : List.Forall₂ Reads (text'.splitOn newline) items') : Written text' items' := by
  have hjoin : ∀ text : List UInt8, [newline].intercalate (text.splitOn newline) = text :=
    fun _ => List.intercalate_splitOn newline
  have hlength := length_intercalate (d := newline) (List.splitOn_ne_nil newline text)
  have hlength' := length_intercalate (d := newline) (List.splitOn_ne_nil newline text')
  rw [hjoin] at hlength hlength'
  have hsum := (hperm.map List.length).sum_eq
  have hcount := hperm.length_eq
  refine ⟨?_, ?_, hlines⟩
  · have hshort := h.short
    omega
  · intro h0
    rw [← hjoin text'] at h0
    rcases mem_of_mem_intercalate h0 with h0 | ⟨line, hline, h0⟩
    · exact absurd h0 (by decide)
    · refine h.nul ?_
      rw [← hjoin text]
      exact mem_intercalate (hperm.mem_iff.mp hline) h0

/-- The names that the loader knows. -/
def knownNames : List (List UInt8) := [peerPublicKey, endpointIp, endpointPort]

lemma Gives.congr (h : Gives items c)
    (horder : ∀ name ∈ knownNames, assigned name items' = assigned name items) : Gives items' c := by
  have hkey := horder peerPublicKey (by simp [knownNames])
  have haddress := horder endpointIp (by simp [knownNames])
  have hport := horder endpointPort (by simp [knownNames])
  exact ⟨h.keyLength, hkey ▸ h.key, haddress ▸ h.address, h.dotted, hport ▸ h.port, hport ▸ h.ports⟩

/-- In every layout and order of its lines, a configuration that gives a key, an address and a
port is loaded as these. The order matters only between assignments to the same name. -/
theorem loadPeerConfig_of_written (h : Written text items) (hgives : Gives items c) (codes : Codes)
    {decode : Decode} (hdecode : Inverts decode) (uninitialised : List UInt8) :
    loadPeerConfig codes decode uninitialised (.contents text) = some (.ok c) ∧
      ∀ text' items', (text'.splitOn newline).Perm (text.splitOn newline) →
        List.Forall₂ Reads (text'.splitOn newline) items' →
        (∀ name ∈ knownNames, assigned name items' = assigned name items) →
        loadPeerConfig codes decode uninitialised (.contents text') =
          loadPeerConfig codes decode uninitialised (.contents text) := by
  have hload := h.load hgives codes hdecode uninitialised
  refine ⟨hload, fun text' items' hperm hlines horder => ?_⟩
  have hload' := (h.perm hperm hlines).load (hgives.congr horder) codes hdecode uninitialised
  rw [hload, hload']

end Load

/-- An assignment with blanks around the name and in front of the value, and a carriage return. -/
def spacedLine (name value : List UInt8) : List UInt8 :=
  [space] ++ (name ++ [tab]) ++ equals :: ([space, tab] ++ (value ++ [carriageReturn]))

lemma reads_spacedLine {name value : List UInt8} (h : Trimmed name ∧ equals ∉ name ∧
    name.head? ≠ some hash ∧ Trimmed value) : Reads (spacedLine name value) (some (name, value)) :=
  .assignment (by decide +kernel) h.1 h.2.1 h.2.2.1 (by decide +kernel) (by decide +kernel) h.2.2.2
    (by decide +kernel)

/-- A port that is assigned twice, a comment, a blank line and a name that is not known. -/
def layoutLines : List (List UInt8 × Item) :=
  let entry (name value : List UInt8) := (spacedLine name value, some (name, value))
  [entry endpointPort (ascii ['5', '1', '8', '2', '1']),
    (hash :: spacedLine endpointPort (ascii ['2', '2']), none), ([carriageReturn], none),
    entry (ascii ['m', 't', 'u']) (ascii ['1', '4', '2', '0']),
    entry peerPublicKey (Base64.encode (List.replicate wireguardPublicKeyLen 7)),
    entry endpointIp (ascii ['1', '0', '.', '7', '7', '.', '0', '.', '1']),
    entry endpointPort (ascii ['5', '1', '8', '2', '0'])]

lemma reads_layoutLines : ∀ pair ∈ layoutLines, Reads pair.1 pair.2 := by
  simp only [layoutLines, List.forall_mem_cons, List.not_mem_nil, false_imp_iff, implies_true, and_true]
  refine ⟨?_, ?_, ?_, ?_, ?_, ?_, ?_⟩
  · exact reads_spacedLine (by decide +kernel)
  · exact .comment _ (List.forall_mem_nil _)
  · exact .blank (by decide +kernel)
  · exact reads_spacedLine (by decide +kernel)
  · exact reads_spacedLine (by decide +kernel)
  · exact reads_spacedLine (by decide +kernel)
  · exact reads_spacedLine (by decide +kernel)

/-- The lines in an order in which the assignments to the port have kept theirs. -/
def layoutOrder : List (List UInt8 × Item) :=
  [4, 0, 6, 1, 5, 3, 2].filterMap fun i : ℕ => layoutLines[i]?

def layoutText (lines : List (List UInt8 × Item)) : List UInt8 :=
  [newline].intercalate (lines.map Prod.fst)

lemma forall₂_layoutLines {lines : List (List UInt8 × Item)} (h : lines ⊆ layoutLines) :
    List.Forall₂ Reads (lines.map Prod.fst) (lines.map Prod.snd) := by
  rw [List.forall₂_map_left_iff, List.forall₂_map_right_iff, List.forall₂_same]
  exact fun pair hpair => reads_layoutLines pair (h hpair)

lemma inverts_decodeBase64 : Inverts decodeBase64 := by
  intro key hkey
  simp [decodeBase64, Base64.decode_encode, hkey]

theorem loadPeerConfig_of_written_layout :
    loadPeerConfig tunnelCodes decodeBase64 [] (.contents (layoutText layoutLines)) =
        some (.ok (commentedConfig 51820)) ∧
      loadPeerConfig tunnelCodes decodeBase64 [] (.contents (layoutText layoutOrder)) =
        loadPeerConfig tunnelCodes decodeBase64 [] (.contents (layoutText layoutLines)) := by
  have hsplit : (layoutText layoutLines).splitOn newline = layoutLines.map Prod.fst := by
    decide +kernel
  have hsplit' : (layoutText layoutOrder).splitOn newline = layoutOrder.map Prod.fst := by
    decide +kernel
  have hwritten : Written (layoutText layoutLines) (layoutLines.map Prod.snd) :=
    ⟨by decide +kernel, by decide +kernel, hsplit ▸ forall₂_layoutLines (List.Subset.refl _)⟩
  have hdotted : Dotted 4 (commentedConfig 51820).endpointIp
      [ascii ['1', '0'], ascii ['7', '7'], ascii ['0'], ascii ['1']] := by
    refine ⟨rfl, fun g hg => ?_, by decide +kernel⟩
    simp only [List.mem_cons, List.not_mem_nil, or_false] at hg
    rcases hg with rfl | rfl | rfl | rfl <;>
      exact ⟨by decide +kernel, by decide +kernel, by decide +kernel, by decide +kernel⟩
  have hgives : Gives (layoutLines.map Prod.snd) (commentedConfig 51820) := by
    refine ⟨by decide +kernel, by decide +kernel, by decide +kernel, ⟨_, hdotted⟩,
      by decide +kernel, fun text htext => ?_⟩
    have hports : assigned endpointPort (layoutLines.map Prod.snd) =
        [ascii ['5', '1', '8', '2', '1'], ascii ['5', '1', '8', '2', '0']] := by decide +kernel
    rw [hports] at htext
    simp only [List.mem_cons, List.not_mem_nil, or_false] at htext
    rcases htext with rfl | rfl <;>
      exact ⟨by decide +kernel, by decide +kernel, by decide +kernel⟩
  obtain ⟨hload, hreorder⟩ :=
    loadPeerConfig_of_written hwritten hgives tunnelCodes inverts_decodeBase64 []
  refine ⟨hload, hreorder _ (layoutOrder.map Prod.snd) ?_ ?_ (by decide +kernel)⟩
  · rw [hsplit, hsplit']
    decide +kernel
  · rw [hsplit']
    exact forall₂_layoutLines (by decide +kernel)

end MoonlightVita.PeerConfig
