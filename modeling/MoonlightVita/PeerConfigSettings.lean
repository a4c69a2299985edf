import MoonlightVita.Base64
import MoonlightVita.PeerConfig

/-!
# What a peer configuration says

The settings that the last assignments of a text give, and when the loader finds them: it
sees a file only up to its first zero byte and as far as the buffer goes.
-/
namespace MoonlightVita.PeerConfig
open CString Decimal Ipv4Literal Scanning

/-- The value that a line assigns to a name. -/
def assignedValue (name line : List UInt8) : Option (List UInt8) :=
  match readLine line with
  | .assignment name' value => if name' = name then some value else none
  | _ => none

/-- All values that lines assign to a name, in their order. -/
def values (name : List UInt8) (lines : List (List UInt8)) : List (List UInt8) :=
  lines.filterMap (assignedValue name)

/-- The port that a value stands for. -/
def portOf (value : List UInt8) : Option UInt16 :=
  match strtol value with
  | none => none
  | some (port, rest) =>
    if rest ≠ [] ∨ port < 1 ∨ 65535 < port then none else some (UInt16.ofNat port.toNat)

def lastValue (name text : List UInt8) : Option (List UInt8) :=
  (values name (text.splitOn newline)).getLast?

def lastKey (decode : Decode) (text : List UInt8) : Option (List UInt8) :=
  (lastValue peerPublicKey text).bind (decode · wireguardPublicKeyLen)

def lastPort (text : List UInt8) : Option UInt16 := (lastValue endpointPort text).bind portOf

/-- The configuration that the last assignments of a text give. -/
def settings (decode : Decode) (text : List UInt8) : Option Config := do
  let publicKey ← lastKey decode text
  let address ← lastValue endpointIp text
  let port ← lastPort text
  some ⟨publicKey, address, port⟩

/-- The settings hold the last values of the lines so far, cut to the size of their buffers. -/
structure Holds (lines : List (List UInt8)) (s : Settings) : Prop where
  key : s.encodedKey =
    ((values peerPublicKey lines).getLast?.map (snprintf encodedKeySize)).getD []
  address : s.endpointIp =
    ((values endpointIp lines).getLast?.map (snprintf endpointIpSize)).getD []
  port : s.endpointPort = ((values endpointPort lines).getLast?.bind portOf).getD 0

lemma values_append (name : List UInt8) (lines lines' : List (List UInt8)) :
    values name (lines ++ lines') = values name lines ++ values name lines' :=
  List.filterMap_append

lemma getLast?_values_concat (name : List UInt8) (lines : List (List UInt8)) (line : List UInt8) :
    (values name (lines ++ [line])).getLast? =
      (assignedValue name line).or (values name lines).getLast? := by
  rw [values_append]
  cases h : assignedValue name line with
  | none => simp [values, h]
  | some value => simp [values, h]

lemma endpointIp_ne_key : endpointIp ≠ peerPublicKey := by decide

lemma endpointPort_ne_key : endpointPort ≠ peerPublicKey := by decide

lemma endpointPort_ne_ip : endpointPort ≠ endpointIp := by decide

/-- An assignment to the port as one check. -/
lemma assign_port (s : Settings) (value : List UInt8) :
    assign s endpointPort value =
      match portOf value with
      | none => .error (-4)
      | some port => .ok { s with endpointPort := port } := by
  rw [assign, if_neg endpointPort_ne_key, if_neg endpointPort_ne_ip, if_pos rfl, portOf]
  cases strtol value with
  | none => rfl
  | some r =>
    dsimp only
    split_ifs <;> rfl

section Lines
variable {lines : List (List UInt8)} {line : List UInt8} {s s' : Settings}

/-- A line that assigns to none of the three names changes nothing. -/
lemma Holds.skip (h : Holds lines s) (hkey : assignedValue peerPublicKey line = none)
    (haddress : assignedValue endpointIp line = none)
    (hport : assignedValue endpointPort line = none) : Holds (lines ++ [line]) s := by
  constructor
  · rw [getLast?_values_concat, hkey, Option.none_or, h.key]
  · rw [getLast?_values_concat, haddress, Option.none_or, h.address]
  · rw [getLast?_values_concat, hport, Option.none_or, h.port]

lemma Holds.concat (h : Holds lines s) (hline : applyLine s line = .ok s') :
    Holds (lines ++ [line]) s' := by
  have hvalue : ∀ name, assignedValue name line = match readLine line with
    | .assignment name' value => if name' = name then some value else none
    | _ => none := fun _ => rfl
  unfold applyLine at hline
  cases hread : readLine line with
  | ignored =>
    simp only [hread] at hline hvalue
    cases hline
    exact h.skip (hvalue _) (hvalue _) (hvalue _)
  | malformed =>
    simp only [hread] at hline
    cases hline
  | assignment name value =>
    simp only [hread] at hline hvalue
    by_cases hkey : name = peerPublicKey
    · subst hkey
      rw [assign, if_pos rfl] at hline
      cases hline
      constructor
      · simp [getLast?_values_concat, hvalue]
      · simp [getLast?_values_concat, hvalue, endpointIp_ne_key.symm, h.address]
      · simp [getLast?_values_concat, hvalue, endpointPort_ne_key.symm, h.port]
    by_cases haddress : name = endpointIp
    · subst haddress
      rw [assign, if_neg hkey, if_pos rfl] at hline
      cases hline
      constructor
      · simp [getLast?_values_concat, hvalue, endpointIp_ne_key, h.key]
      · simp [getLast?_values_concat, hvalue]
      · simp [getLast?_values_concat, hvalue, endpointPort_ne_ip.symm, h.port]
    by_cases hport : name = endpointPort
    · subst hport
      rw [assign_port] at hline
      cases hvalid : portOf value with
      | none =>
        rw [hvalid] at hline
        cases hline
      | some port =>
        rw [hvalid] at hline
        cases hline
        constructor
        · simp [getLast?_values_concat, hvalue, endpointPort_ne_key, h.key]
        · simp [getLast?_values_concat, hvalue, endpointPort_ne_ip, h.address]
        · simp [getLast?_values_concat, hvalue, hvalid]
    · rw [assign, if_neg hkey, if_neg haddress, if_neg hport] at hline
      cases hline
      refine h.skip ?_ ?_ ?_
      · rw [hvalue, if_neg hkey]
      · rw [hvalue, if_neg haddress]
      · rw [hvalue, if_neg hport]

/-- After the loop the settings hold the last values of the file. -/
theorem holds_of_foldlM (h : lines.foldlM applyLine .none = .ok s) : Holds lines s := by
  induction lines using List.reverseRecOn generalizing s with
  | nil =>
    cases h
    exact ⟨rfl, rfl, rfl⟩
  | append_singleton lines line ih =>
    rw [List.foldlM_append] at h
    cases hs : lines.foldlM applyLine Settings.none with
    | error code =>
      rw [hs] at h
      cases h
    | ok s' =>
      rw [hs] at h
      have hline : [line].foldlM applyLine s' = .ok s := h
      rw [List.foldlM_cons] at hline
      cases happly : applyLine s' line with
      | error code =>
        rw [happly] at hline
        cases hline
      | ok s'' =>
        rw [happly] at hline
        cases hline
        exact (ih hs).concat happly

end Lines

lemma mem_of_readLine {line name value : List UInt8} {c : UInt8}
    (h : readLine line = .assignment name value) (hc : c ∈ value) : c ∈ line := by
  unfold readLine at h
  dsimp only at h
  split_ifs at h
  cases h
  refine mem_of_mem_trimText ?_
  exact (List.dropWhile_suffix _).subset (List.mem_of_mem_tail (mem_of_mem_trimText hc))

lemma mem_of_assignedValue {name line value : List UInt8} {c : UInt8}
    (h : assignedValue name line = some value) (hc : c ∈ value) : c ∈ line := by
  unfold assignedValue at h
  cases hread : readLine line with
  | ignored => simp [hread] at h
  | malformed => simp [hread] at h
  | assignment name' value' =>
    simp only [hread] at h
    split_ifs at h
    cases h
    exact mem_of_readLine hread hc

lemma mem_of_mem_values {name text value : List UInt8} {c : UInt8}
    (h : value ∈ values name (text.splitOn newline)) (hc : c ∈ value) : c ∈ text := by
  obtain ⟨line, hline, hvalue⟩ := List.mem_filterMap.mp h
  rw [← show [newline].intercalate (text.splitOn newline) = text from
    List.intercalate_splitOn newline]
  exact mem_intercalate hline (mem_of_assignedValue hvalue hc)

/-- What the checks after the loop have made sure of. -/
lemma finish_ok {codes : Codes} {decode : Decode} {s : Settings} {c : Config}
    (h : finish codes decode s = .ok c) :
    s.encodedKey ≠ [] ∧ s.endpointIp ≠ [] ∧ s.endpointPort ≠ 0 ∧
      decode s.encodedKey wireguardPublicKeyLen = some c.publicKey ∧
      (tsvitaParseIpv4Literal (some s.endpointIp) (some [0, 0, 0, 0])).1 = true ∧
      c = ⟨c.publicKey, s.endpointIp, s.endpointPort⟩ := by
  unfold finish at h
  by_cases hmissing : s.encodedKey = [] ∨ s.endpointIp = [] ∨ s.endpointPort = 0
  · rw [if_pos hmissing] at h
    cases h
  rw [if_neg hmissing] at h
  push Not at hmissing
  cases hkey : decode s.encodedKey wireguardPublicKeyLen with
  | none =>
    rw [hkey] at h
    cases h
  | some publicKey =>
    simp only [hkey] at h
    split_ifs at h with hlength hrejected
    cases h
    exact ⟨hmissing.1, hmissing.2.1, hmissing.2.2, rfl, by simpa using hrejected, rfl⟩

lemma take_eq_self {n k : ℕ} {text : List UInt8} (h : (text.take n).length ≤ k) (hk : k < n) :
    text.take n = text := by
  rw [List.length_take] at h
  exact List.take_of_length_le (by omega)

/-- A decoder that fails on texts for more bytes than a key has. -/
def Bounded (decode : Decode) : Prop :=
  ∀ text bytes, decode text wireguardPublicKeyLen = some bytes →
    text.length ≤ (wireguardPublicKeyLen + 2) / 3 * 4

lemma eq_some_of_getD_ne {α : Type*} {o : Option α} {a : α} (h : o.getD a ≠ a) :
    o = some (o.getD a) := by
  cases o with
  | none => exact absurd rfl h
  | some b => rfl

/-- A text that is parsed without error has given the settings of its last assignments: the
values that were accepted are too short to have been cut. -/
theorem settings_of_parseText {codes : Codes} {decode : Decode} (hdecode : Bounded decode)
    {text : List UInt8} (hnul : 0 ∉ text) {c : Config} (h : parseText codes decode text = .ok c) :
    settings decode text = some c := by
  unfold parseText at h
  cases hs : (text.splitOn newline).foldlM applyLine Settings.none with
  | error code =>
    rw [hs] at h
    cases h
  | ok s =>
    rw [hs] at h
    obtain ⟨hkey, haddress, hport, hpublic, hliteral, hc⟩ := finish_ok h
    have hholds := holds_of_foldlM hs
    rw [hholds.key] at hkey
    rw [hholds.address] at haddress
    rw [hholds.port] at hport
    obtain ⟨key, hlastKey, hkeyCut⟩ := Option.map_eq_some_iff.mp (eq_some_of_getD_ne hkey)
    obtain ⟨address, hlast, hcut⟩ := Option.map_eq_some_iff.mp (eq_some_of_getD_ne haddress)
    have hlastPort := eq_some_of_getD_ne hport
    rw [← hholds.key] at hkeyCut
    rw [← hholds.address] at hcut
    rw [← hholds.port] at hlastPort
    rw [← hkeyCut] at hpublic
    rw [← hcut] at hliteral
    have hkeyFits : snprintf encodedKeySize key = key :=
      take_eq_self (hdecode _ _ hpublic) (by decide)
    have haddressNul : 0 ∉ snprintf endpointIpSize address := fun h0 =>
      hnul (mem_of_mem_values (List.mem_of_getLast? hlast) (List.mem_of_mem_take h0))
    have haddressFits : snprintf endpointIpSize address = address :=
      take_eq_self (length_le_of_accepted haddressNul hliteral) (by decide)
    rw [hkeyFits] at hpublic
    rw [haddressFits] at hcut
    rw [hc, ← hcut]
    simp [settings, lastKey, lastPort, lastValue, hlastKey, hlast, hlastPort, hpublic]

/-- The last assignments of two texts give the same key, address and port. -/
structure SameAssignments (decode : Decode) (text text' : List UInt8) : Prop where
  key : lastKey decode text = lastKey decode text'
  address : lastValue endpointIp text = lastValue endpointIp text'
  port : lastPort text = lastPort text'

lemma settings_eq_some {decode : Decode} {text : List UInt8} {c : Config} :
    settings decode text = some c ↔ lastKey decode text = some c.publicKey ∧
      lastValue endpointIp text = some c.endpointIp ∧ lastPort text = some c.endpointPort := by
  constructor
  · intro h
    simp only [settings, Option.bind_eq_bind, Option.bind_eq_some_iff, Option.some.injEq] at h
    obtain ⟨publicKey, hkey, address, haddress, port, hport, rfl⟩ := h
    exact ⟨hkey, haddress, hport⟩
  · rintro ⟨hkey, haddress, hport⟩
    simp [settings, hkey, haddress, hport]

/-- A text that gives settings gives those of another exactly if their assignments agree. -/
lemma settings_iff_sameAssignments {decode : Decode} {text text' : List UInt8} {c : Config}
    (h : settings decode text' = some c) :
    settings decode text = some c ↔ SameAssignments decode text text' := by
  obtain ⟨hkey, haddress, hport⟩ := settings_eq_some.mp h
  rw [settings_eq_some]
  constructor
  · rintro ⟨hkey', haddress', hport'⟩
    exact ⟨hkey'.trans hkey.symm, haddress'.trans haddress.symm, hport'.trans hport.symm⟩
  · intro hsame
    exact ⟨hsame.key.trans hkey, hsame.address.trans haddress, hsame.port.trans hport⟩

lemma seen_eq_self {bytes : List UInt8} (hlength : bytes.length < contentsSize) (hnul : 0 ∉ bytes) :
    seen bytes = bytes := by
  rw [seen, List.take_of_length_le (Nat.le_sub_one_of_lt hlength), List.takeWhile_eq_self_iff]
  exact ne_separator hnul

section Loaded
variable {codes : Codes} {decode : Decode} {uninitialised bytes : List UInt8} {c : Config}

/-- A configuration that was loaded is the one of the whole file exactly if the last assignments
of the file and of its visible part agree. A file that fits the buffer and has no zero byte is
visible as a whole. -/
theorem loadPeerConfig_settings_iff (hdecode : Bounded decode)
    (h : loadPeerConfig codes decode uninitialised (.contents bytes) = some (.ok c)) :
    (settings decode bytes = some c ↔ SameAssignments decode bytes (seen bytes)) ∧
      (bytes.length < contentsSize → 0 ∉ bytes → settings decode bytes = some c) := by
  rw [loadPeerConfig_contents, Option.some.injEq] at h
  have hseen := settings_of_parseText hdecode (zero_not_mem_seen bytes) h
  refine ⟨settings_iff_sameAssignments hseen, fun hlength hnul => ?_⟩
  rwa [seen_eq_self hlength hnul] at hseen

end Loaded

/-- Decoding to a size, as the decoder outside does it. -/
def decodeBase64 : Decode := fun text size => (Base64.decode text).filter (·.length ≤ size)

lemma bounded_decodeBase64 : Bounded decodeBase64 := by
  intro text bytes h
  obtain ⟨hdecode, hlength⟩ := Option.filter_eq_some_iff.mp h
  have hle := Base64.length_of_decode hdecode
  have hsize : bytes.length ≤ wireguardPublicKeyLen := by simpa using hlength
  unfold wireguardPublicKeyLen at *
  omega

def assignmentLine (name value : List UInt8) : List UInt8 := name ++ equals :: (value ++ [newline])

/-- A configuration, with a comment of so many bytes in the middle. -/
def commentedFile (length : ℕ) : List UInt8 :=
  assignmentLine peerPublicKey (Base64.encode (List.replicate wireguardPublicKeyLen 7)) ++
    (assignmentLine endpointIp (ascii ['1', '0', '.', '7', '7', '.', '0', '.', '1']) ++
      (List.replicate length hash ++ newline ::
        assignmentLine endpointPort (ascii ['5', '1', '8', '2', '0'])))

def commentedConfig (port : UInt16) : Config :=
  ⟨List.replicate wireguardPublicKeyLen 7, ascii ['1', '0', '.', '7', '7', '.', '0', '.', '1'], port⟩

theorem loadPeerConfig_settings_iff_short :
    loadPeerConfig tunnelCodes decodeBase64 [] (.contents (commentedFile 1)) =
        some (.ok (commentedConfig 51820)) ∧
      settings decodeBase64 (commentedFile 1) = some (commentedConfig 51820) := by
  have hload : loadPeerConfig tunnelCodes decodeBase64 [] (.contents (commentedFile 1)) =
      some (.ok (commentedConfig 51820)) := by
    rw [loadPeerConfig_contents]
    decide +kernel
  exact ⟨hload, (loadPeerConfig_settings_iff bounded_decodeBase64 hload).2 (by decide) (by decide)⟩

/-- The last digit of the port is the first byte that does not fit the buffer. -/
theorem loadPeerConfig_cuts_port :
    loadPeerConfig tunnelCodes decodeBase64 [] (.contents (commentedFile 409)) =
        some (.ok (commentedConfig 5182)) ∧
      settings decodeBase64 (commentedFile 409) = some (commentedConfig 51820) ∧
      settings decodeBase64 (commentedFile 409) ≠ some (commentedConfig 5182) := by
  refine ⟨?_, ?_, ?_⟩
  · rw [loadPeerConfig_contents]
    decide +kernel
  · decide +kernel
  · decide +kernel

end MoonlightVita.PeerConfig
