import MoonlightVita.CString
import MoonlightVita.Ipv4Literal

/-!
# The peer configuration: `load_peer_config`

The loaders of `tunnel.c` and `wg_handshake_probe.c` parse `wg-peer.conf` in place.
They differ in their results for a missing file and for the checks after parsing.
The parser of lines at the end of the module is what they compute.
-/
namespace MoonlightVita.PeerConfig
open CString Ipv4Literal Scanning

def ascii (text : List Char) : List UInt8 := text.map fun c => UInt8.ofNat c.toNat

def space : UInt8 := 32
def tab : UInt8 := 9
def newline : UInt8 := 10
def carriageReturn : UInt8 := 13
def hash : UInt8 := 35
def equals : UInt8 := 61

def peerPublicKey : List UInt8 :=
  ascii ['p', 'e', 'e', 'r', '_', 'p', 'u', 'b', 'l', 'i', 'c', '_', 'k', 'e', 'y']

def endpointIp : List UInt8 := ascii ['e', 'n', 'd', 'p', 'o', 'i', 'n', 't', '_', 'i', 'p']

def endpointPort : List UInt8 :=
  ascii ['e', 'n', 'd', 'p', 'o', 'i', 'n', 't', '_', 'p', 'o', 'r', 't']

def wireguardPublicKeyLen : ℕ := 32
def contentsSize : ℕ := 512
def encodedKeySize : ℕ := 80
def endpointIpSize : ℕ := 48

structure Config where
  publicKey : List UInt8
  endpointIp : List UInt8
  endpointPort : UInt16
  deriving DecidableEq, Repr

/-- The key text and the settings, while the file is parsed. -/
structure Settings where
  encodedKey : List UInt8
  endpointIp : List UInt8
  endpointPort : UInt16
  deriving DecidableEq, Repr

def Settings.none : Settings := ⟨[], [], 0⟩

def isBlank (c : UInt8) : Bool := c = space || c = tab

def isTrailing (c : UInt8) : Bool := isBlank c || c = carriageReturn || c = newline

/-- The buffer and the start of the trimmed string. -/
def trim (buffer : List UInt8) (value : ℕ) : List UInt8 × ℕ :=
  let value := value + ((cstr buffer value).takeWhile isBlank).length
  let stop := value + ((cstr buffer value).rdropWhile isTrailing).length
  (buffer.set stop 0, value)

/-- `snprintf` of one string into a buffer of a given size. -/
def snprintf (size : ℕ) (value : List UInt8) : List UInt8 := value.take (size - 1)

/-- What an assignment does to the settings. Unknown names are ignored. -/
def assign (s : Settings) (name value : List UInt8) : Except ℤ Settings :=
  if name = peerPublicKey then .ok { s with encodedKey := snprintf encodedKeySize value }
  else if name = endpointIp then .ok { s with endpointIp := snprintf endpointIpSize value }
  else if name = endpointPort then
    match strtol value with
    | none => .error (-4)
    | some (port, rest) =>
      if rest ≠ [] ∨ port < 1 ∨ 65535 < port then .error (-4)
      else .ok { s with endpointPort := UInt16.ofNat port.toNat }
  else .ok s

/-- The body of the loop over the lines, and the buffer afterwards. -/
def processLine (buffer : List UInt8) (line : ℕ) (s : Settings) :
    Except ℤ Settings × List UInt8 :=
  let (buffer, entry) := trim buffer line
  if cstr buffer entry = [] ∨ (cstr buffer entry).head? = some hash then (.ok s, buffer)
  else
    match strchr buffer entry equals with
    | none => (.error (-3), buffer)
    | some separator =>
      let buffer := buffer.set separator 0
      let (buffer, name) := trim buffer entry
      let (buffer, value) := trim buffer (separator + 1)
      (assign s (cstr buffer name) (cstr buffer value), buffer)

/-- The loop over the lines; `none` when it has not ended after so many of them. -/
def lineLoop : ℕ → List UInt8 → Option ℕ → Settings → Option (Except ℤ Settings)
  | 0, _, _, _ => none
  | turns + 1, buffer, start, s =>
    match strtok newline buffer start with
    | (none, _, _) => some (.ok s)
    | (some line, start, buffer) =>
      match processLine buffer line s with
      | (.error code, _) => some (.error code)
      | (.ok s, buffer) => lineLoop turns buffer start s

/-- The results in which the two loaders differ: for a file that cannot be opened, and after
the file has been parsed. -/
structure Codes where
  unopened : ℤ → ℤ
  incomplete : ℤ
  badKey : ℤ
  badAddress : ℤ

def tunnelCodes : Codes := ⟨id, -5, -6, -7⟩

/-- The probe writes a template if there is no file. -/
def probeCodes (createResult : ℤ) : Codes :=
  ⟨fun _ => if createResult < 0 then createResult else 1, 1, -5, -6⟩

/-- `wireguard_base64_decode` of a text into at most so many bytes. -/
abbrev Decode : Type := List UInt8 → ℕ → Option (List UInt8)

/-- The checks after the loop. -/
def finish (codes : Codes) (decode : Decode) (s : Settings) : Except ℤ Config :=
  if s.encodedKey = [] ∨ s.endpointIp = [] ∨ s.endpointPort = 0 then .error codes.incomplete
  else
    match decode s.encodedKey wireguardPublicKeyLen with
    | none => .error codes.badKey
    | some publicKey =>
      if publicKey.length ≠ wireguardPublicKeyLen then .error codes.badKey
      else if !(tsvitaParseIpv4Literal (some s.endpointIp) (some [0, 0, 0, 0])).1 then
        .error codes.badAddress
      else .ok ⟨publicKey, s.endpointIp, s.endpointPort⟩

/-- The file as `sceIoOpen` and `sceIoRead` find it. -/
inductive File
  | openFailed (code : ℤ)
  | readFailed (code : ℤ)
  | contents (bytes : List UInt8)

/-- A result other than zero is an error. What the stack held behind the terminator is
`uninitialised`. -/
def loadPeerConfig (codes : Codes) (decode : Decode) (uninitialised : List UInt8) :
    File → Option (Except ℤ Config)
  | .openFailed code => some (.error (codes.unopened code))
  | .readFailed code => some (.error code)
  | .contents bytes =>
    let read := bytes.take (contentsSize - 1)
    let buffer := (read ++ 0 :: uninitialised).take contentsSize
    (lineLoop contentsSize buffer (some 0) .none).map fun parsed =>
      parsed.bind (finish codes decode)

/-- The text without blanks in front and behind, and without line ends behind. -/
def trimText (text : List UInt8) : List UInt8 := (text.dropWhile isBlank).rdropWhile isTrailing

inductive Line
  | ignored
  | malformed
  | assignment (name value : List UInt8)
  deriving DecidableEq, Repr

def readLine (line : List UInt8) : Line :=
  let entry := trimText line
  if entry = [] ∨ entry.head? = some hash then .ignored
  else if equals ∈ entry then
    .assignment (trimText (entry.takeWhile (· ≠ equals)))
      (trimText (entry.dropWhile (· ≠ equals)).tail)
  else .malformed

def applyLine (s : Settings) (line : List UInt8) : Except ℤ Settings :=
  match readLine line with
  | .ignored => .ok s
  | .malformed => .error (-3)
  | .assignment name value => assign s name value

/-- The loader, line by line. -/
def parseText (codes : Codes) (decode : Decode) (text : List UInt8) : Except ℤ Config :=
  ((text.splitOn newline).foldlM applyLine .none).bind (finish codes decode)

section Trim
variable {front text rest : List UInt8}

/-- What trimming leaves, between what it takes off in front and behind. -/
lemma trimText_split (text : List UInt8) :
    text.takeWhile isBlank ++ (trimText text ++ (text.dropWhile isBlank).rtakeWhile isTrailing) =
      text := by
  rw [trimText, List.rdropWhile_append_rtakeWhile, List.takeWhile_append_dropWhile]

lemma trim_append (front rest : List UInt8) (h : 0 ∉ text) :
    ∃ lead junk, lead.length + (trimText text).length + junk.length = text.length ∧
      trim (front ++ (text ++ 0 :: rest)) front.length =
        ((front ++ lead) ++ (trimText text ++ 0 :: (junk ++ rest)), (front ++ lead).length) := by
  have htext := trimText_split text
  have hstart : cstr (front ++ (text ++ 0 :: rest))
      (front.length + (text.takeWhile isBlank).length) = text.dropWhile isBlank := by
    rw [cstr_append_at h (List.takeWhile_prefix _).length_le, drop_length_takeWhile]
  simp only [trim]
  rw [cstr_append h, hstart, ← trimText]
  generalize text.takeWhile isBlank = lead at htext ⊢
  generalize (text.dropWhile isBlank).rtakeWhile isTrailing = trail at htext
  generalize trimText text = core at htext ⊢
  have hshape : front ++ (text ++ 0 :: rest) = (front ++ lead ++ core) ++ (trail ++ 0 :: rest) := by
    rw [← htext]
    simp
  have hstop : front.length + lead.length + core.length = (front ++ lead ++ core).length := by
    simp [Nat.add_assoc]
  refine ⟨lead, (trail ++ [0]).tail, ?_, ?_⟩
  · rw [← htext]
    simp
    omega
  · rw [hshape, hstop, Prod.mk.injEq]
    refine ⟨?_, List.length_append.symm⟩
    cases trail with
    | nil =>
      rw [List.nil_append, set_append]
      simp
    | cons c trail =>
      rw [List.cons_append, set_append]
      simp

lemma mem_of_mem_trimText {c : UInt8} (h : c ∈ trimText text) : c ∈ text := by
  rw [← trimText_split text]
  simp [h]

end Trim

section Lines
variable {line text : List UInt8}

/-- Trimming the name leaves the value alone, and the other way round. -/
lemma trim_both (front rest : List UInt8) {name value : List UInt8} (hname : 0 ∉ name)
    (hvalue : 0 ∉ value) :
    ∃ front' buffer buffer' at₁ at₂, front'.length = front.length + name.length + value.length + 2 ∧
      trim (front ++ (name ++ 0 :: (value ++ 0 :: rest))) front.length = (buffer, at₁) ∧
      trim buffer (front.length + name.length + 1) = (buffer', at₂) ∧ buffer' = front' ++ rest ∧
      cstr buffer' at₁ = trimText name ∧ cstr buffer' at₂ = trimText value := by
  obtain ⟨lead, junk, hlength, htrim⟩ := trim_append front (value ++ 0 :: rest) hname
  have hshape : (front ++ lead) ++ (trimText name ++ 0 :: (junk ++ (value ++ 0 :: rest))) =
      (front ++ lead ++ (trimText name ++ 0 :: junk)) ++ (value ++ 0 :: rest) := by simp
  have hstart : front.length + name.length + 1 =
      (front ++ lead ++ (trimText name ++ 0 :: junk)).length := by
    simp
    omega
  obtain ⟨lead', junk', hlength', htrim'⟩ :=
    trim_append (front ++ lead ++ (trimText name ++ 0 :: junk)) rest hvalue
  rw [← hshape, ← hstart] at htrim'
  refine ⟨front ++ lead ++ (trimText name ++ 0 :: junk) ++ lead' ++ (trimText value ++ 0 :: junk'),
    _, _, _, _, ?_, htrim, htrim', by simp, ?_, ?_⟩
  · simp
    omega
  · have hbuffer : (front ++ lead ++ (trimText name ++ 0 :: junk) ++ lead') ++
        (trimText value ++ 0 :: (junk' ++ rest)) = (front ++ lead) ++
          (trimText name ++ 0 :: (junk ++ (lead' ++ (trimText value ++ 0 :: (junk' ++ rest))))) := by
      simp
    rw [hbuffer]
    exact cstr_append fun h0 => hname (mem_of_mem_trimText h0)
  · exact cstr_append fun h0 => hvalue (mem_of_mem_trimText h0)

/-- The body of the loop leaves everything behind the line as it was. -/
lemma processLine_append (front rest : List UInt8) (s : Settings) (h : 0 ∉ line) :
    ∃ front', front'.length = front.length + line.length + 1 ∧
      processLine (front ++ (line ++ 0 :: rest)) front.length s =
        (applyLine s line, front' ++ rest) := by
  obtain ⟨lead, junk, hlength, htrim⟩ := trim_append front rest h
  have hentry : 0 ∉ trimText line := fun h0 => h (mem_of_mem_trimText h0)
  have hcstr : cstr ((front ++ lead) ++ (trimText line ++ 0 :: (junk ++ rest)))
      (front ++ lead).length = trimText line := cstr_append hentry
  simp only [processLine, htrim]
  rw [hcstr, strchr_append equals hentry]
  unfold applyLine readLine
  by_cases hignored : trimText line = [] ∨ (trimText line).head? = some hash
  · refine ⟨front ++ lead ++ (trimText line ++ 0 :: junk), ?_, ?_⟩
    · simp
      omega
    · simp [hignored]
  simp only [if_neg hignored]
  by_cases hassigns : equals ∈ trimText line
  · obtain ⟨name, value, hsplit, hfirst⟩ := List.eq_append_cons_of_mem hassigns
    have hname : (trimText line).takeWhile (· ≠ equals) = name := by
      rw [hsplit]
      exact takeWhile_separator hfirst value
    have hvalue : (trimText line).dropWhile (· ≠ equals) = equals :: value := by
      rw [hsplit]
      exact dropWhile_separator hfirst value
    rw [hsplit] at hentry hlength
    have hname₀ : 0 ∉ name := fun h0 => hentry (by simp [h0])
    have hvalue₀ : 0 ∉ value := fun h0 => hentry (by simp [h0])
    have hset : ((front ++ lead) ++ (trimText line ++ 0 :: (junk ++ rest))).set
        ((front ++ lead).length + name.length) 0 =
          (front ++ lead) ++ (name ++ 0 :: (value ++ 0 :: (junk ++ rest))) := by
      have hshape : (front ++ lead) ++ (trimText line ++ 0 :: (junk ++ rest)) =
          (front ++ lead ++ name) ++ equals :: (value ++ 0 :: (junk ++ rest)) := by
        rw [hsplit]
        simp
      rw [hshape, ← List.length_append, set_append]
      simp
    obtain ⟨front', buffer, buffer', at₁, at₂, hfront', htrim₁, htrim₂, hbuffer, hcstr₁, hcstr₂⟩ :=
      trim_both (front ++ lead) (junk ++ rest) hname₀ hvalue₀
    refine ⟨front' ++ junk, ?_, ?_⟩
    · simp at hlength hfront' ⊢
      omega
    · simp only [if_pos hassigns, hname, hvalue, List.tail_cons, hset, htrim₁, htrim₂, hcstr₁, hcstr₂]
      rw [hbuffer, List.append_assoc]
  · refine ⟨front ++ lead ++ (trimText line ++ 0 :: junk), ?_, ?_⟩
    · simp
      omega
    · simp [hassigns]

lemma applyLine_nil (s : Settings) : applyLine s [] = .ok s := rfl

/-- The delimiters in front of the next token, the token and what follows it. -/
lemma token_cases (text : List UInt8) :
    ∃ blank, (∀ c ∈ blank, c = newline) ∧ (text = blank ∨ ∃ token, token ≠ [] ∧
      newline ∉ token ∧ (text = blank ++ token ∨
        ∃ after, text = blank ++ (token ++ newline :: after))) := by
  have htext := List.takeWhile_append_dropWhile (p := (· = newline)) (l := text)
  refine ⟨text.takeWhile (· = newline), fun c hc => by simpa using List.mem_takeWhile_imp hc, ?_⟩
  have hhead := head?_dropWhile (p := (· = newline)) text
  generalize text.takeWhile (· = newline) = blank at htext ⊢
  generalize text.dropWhile (· = newline) = body at htext hhead
  subst htext
  rcases body with _ | ⟨c, body⟩
  · exact Or.inl (List.append_nil blank)
  have hbody := List.takeWhile_append_dropWhile (p := (· ≠ newline)) (l := c :: body)
  have hstop := head?_dropWhile (p := (· ≠ newline)) (c :: body)
  refine Or.inr ⟨(c :: body).takeWhile (· ≠ newline), ?_, fun hc => ?_, ?_⟩
  · have hc : c ≠ newline := by simpa using hhead c rfl
    simp [hc]
  · simpa using List.mem_takeWhile_imp hc
  · generalize (c :: body).takeWhile (· ≠ newline) = token at hbody ⊢
    generalize (c :: body).dropWhile (· ≠ newline) = after at hbody hstop
    rw [← hbody]
    rcases after with _ | ⟨c', after⟩
    · exact Or.inl (by rw [List.append_nil])
    · obtain rfl : c' = newline := by simpa using hstop c' rfl
      exact Or.inr ⟨after, rfl⟩

/-- Empty lines in front, which `strtok` skips, change nothing. -/
lemma foldlM_newlines {blank : List UInt8} (hblank : ∀ c ∈ blank, c = newline)
    (text : List UInt8) (s : Settings) :
    ((blank ++ text).splitOn newline).foldlM applyLine s =
      (text.splitOn newline).foldlM applyLine s := by
  induction blank with
  | nil => rfl
  | cons c blank ih =>
    obtain rfl : c = newline := hblank c (by simp)
    have hsplit : (newline :: (blank ++ text)).splitOn newline =
        [] :: (blank ++ text).splitOn newline :=
      List.splitOn_append_cons_self_of_not_mem (List.not_mem_nil : newline ∉ []) _
    rw [List.cons_append, hsplit, List.foldlM_cons, applyLine_nil]
    exact ih fun c hc => hblank c (by simp [hc])

lemma lineLoop_none {turns : ℕ} (h : 0 < turns) (buffer : List UInt8) (s : Settings) :
    lineLoop turns buffer none s = some (.ok s) := by
  cases turns with
  | zero => omega
  | succ turns => rfl

/-- The loop in the buffer reads the text line by line. -/
theorem lineLoop_append (front rest : List UInt8) (s : Settings) (h : 0 ∉ text) {turns : ℕ}
    (hturns : text.length < turns) :
    lineLoop turns (front ++ (text ++ 0 :: rest)) (some front.length) s =
      some ((text.splitOn newline).foldlM applyLine s) := by
  induction turns generalizing front text s with
  | zero => omega
  | succ turns ih =>
    obtain ⟨blank, hblank, rfl | ⟨token, hne, htoken, rfl | ⟨after, rfl⟩⟩⟩ := token_cases text
    · have hempty := foldlM_newlines hblank [] s
      rw [List.append_nil] at hempty
      rw [lineLoop, strtok_none front rest hblank h, hempty]
      rfl
    · have htoken₀ : 0 ∉ token := fun h0 => h (by simp [h0])
      have hpos := List.length_pos_iff.mpr hne
      obtain ⟨front', -, hline⟩ := processLine_append (front ++ blank) rest s htoken₀
      rw [List.append_assoc, ← List.append_assoc blank, List.length_append] at hline
      rw [List.length_append] at hturns
      rw [foldlM_newlines hblank, List.splitOn_eq_singleton htoken, lineLoop,
        strtok_last front rest hblank h htoken hne]
      simp only [hline, List.foldlM_cons, List.foldlM_nil]
      cases applyLine s token with
      | error code => rfl
      | ok s' => exact lineLoop_none (by omega) _ s'
    · have htoken₀ : 0 ∉ token := fun h0 => h (by simp [h0])
      have hafter₀ : 0 ∉ after := fun h0 => h (by simp [h0])
      obtain ⟨front', hfront', hline⟩ :=
        processLine_append (front ++ blank) (after ++ 0 :: rest) s htoken₀
      rw [List.length_append] at hfront' hline
      rw [foldlM_newlines hblank, List.splitOn_append_cons_self_of_not_mem htoken, lineLoop,
        strtok_next front rest hblank h htoken hne]
      simp only [hline, List.foldlM_cons]
      cases applyLine s token with
      | error code => rfl
      | ok s' =>
        rw [← hfront']
        refine ih front' s' hafter₀ ?_
        simp at hturns
        omega

end Lines

/-- What the string functions see of a file: what fits the buffer, up to the first zero byte. -/
def seen (bytes : List UInt8) : List UInt8 :=
  (bytes.take (contentsSize - 1)).takeWhile (· ≠ 0)

lemma zero_not_mem_seen (bytes : List UInt8) : 0 ∉ seen bytes := fun h => by
  simpa using List.mem_takeWhile_imp h

lemma length_seen_lt (bytes : List UInt8) : (seen bytes).length < contentsSize := by
  have hprefix := (List.takeWhile_prefix (l := bytes.take (contentsSize - 1)) (· ≠ 0)).length_le
  have htake := List.length_take_le (contentsSize - 1) bytes
  unfold seen
  unfold contentsSize at *
  omega

/-- Parsing in place is parsing the visible text line by line. -/
theorem loadPeerConfig_contents (codes : Codes) (decode : Decode) (uninitialised bytes : List UInt8) :
    loadPeerConfig codes decode uninitialised (.contents bytes) =
      some (parseText codes decode (seen bytes)) := by
  have hlength := length_seen_lt bytes
  have hread : ∃ rest, bytes.take (contentsSize - 1) ++ 0 :: uninitialised =
      seen bytes ++ 0 :: rest := by
    have hsplit : seen bytes ++ _ = _ :=
      List.takeWhile_append_dropWhile (p := (· ≠ 0)) (l := bytes.take (contentsSize - 1))
    have hhead := head?_dropWhile (p := (· ≠ 0)) (bytes.take (contentsSize - 1))
    generalize (bytes.take (contentsSize - 1)).dropWhile (· ≠ 0) = hidden at hsplit hhead
    rw [← hsplit, List.append_assoc]
    rcases hidden with _ | ⟨c, hidden⟩
    · exact ⟨uninitialised, rfl⟩
    · obtain rfl : c = 0 := by simpa using hhead c rfl
      exact ⟨hidden ++ 0 :: uninitialised, rfl⟩
  obtain ⟨rest, hrest⟩ := hread
  have hbuffer : (bytes.take (contentsSize - 1) ++ 0 :: uninitialised).take contentsSize =
      [] ++ (seen bytes ++ 0 :: rest.take (contentsSize - 1 - (seen bytes).length)) := by
    obtain ⟨k, hk⟩ : ∃ k, contentsSize = (seen bytes).length + (k + 1) :=
      ⟨contentsSize - (seen bytes).length - 1, by omega⟩
    rw [hrest, hk, List.take_length_add_append, List.take_succ_cons, List.nil_append]
    congr 3
    omega
  have hloop := lineLoop_append [] (rest.take (contentsSize - 1 - (seen bytes).length)) .none
    (zero_not_mem_seen bytes) hlength
  simp only [loadPeerConfig]
  rw [hbuffer]
  simp only [List.length_nil] at hloop
  rw [hloop]
  rfl

end MoonlightVita.PeerConfig
