import MoonlightVita.FlowProbeRuns

/-!
# The files of the flow probe

From run to run the identity and the configuration stay what they are, and the loaders of the
tunnel read from the files what the runs have loaded.
-/
namespace MoonlightVita.FlowProbe
open Files KeyFile ProbeProgram Tunnel
open PeerConfig (Codes Config Decode File Settings applyLine contentsSize loadPeerConfig
  loadPeerConfig_contents parseText probeCodes seen tunnelCodes)

variable {K H R I : Type}

section Files
variable {lib : Library K H R I} {s : Program} {fs : FileSystem Path}

/-- A key file that is there is found, and files are read up to their end or as far as the buffer
goes. -/
structure Honest (o : RunOutcomes R) : Prop where
  found : o.key.opens = true ∨ o.key.stats = true
  key : ∀ n, o.key.read = .ok n → storedSize ≤ n
  config : ∀ n, o.config.read = .ok n → contentsSize - 1 ≤ n

/-- The identity that is loaded is the stored one, and a new one replaces no other. -/
structure Identified (fs : FileSystem Path) (r : Returned) : Prop where
  others : ∀ name, r.files (.other name) = fs (.other name)
  unchanged : ∀ contents, fs .privateKey = some contents → r.files .privateKey = some contents
  stored : 0 ≤ r.result → r.files .privateKey = some r.privateKey.toList
  created : r.created = true → fs .privateKey = none

lemma identified_of_failed {code : ℤ} (hcode : code < 0) (buffer : Key) :
    Identified fs ⟨code, buffer, false, fs, none⟩ :=
  ⟨fun _ => rfl, fun _ hsame => hsame, fun h => absurd hcode (not_lt.mpr h), by simp⟩

theorem loadOrCreatePrivateKey_identified (fs : FileSystem Path) {o : KeyFile.Outcomes}
    (hfound : o.opens = true ∨ o.stats = true) (hread : ∀ n, o.read = .ok n → storedSize ≤ n)
    (buffer : Key) : Identified fs (loadOrCreatePrivateKey fs buffer o) := by
  have hwhole : 0 ≤ (loadOrCreatePrivateKey fs buffer o).result →
      (loadOrCreatePrivateKey fs buffer o).files .privateKey =
        some (loadOrCreatePrivateKey fs buffer o).privateKey.toList := by
    intro hresult
    obtain ⟨contents, hcontents, -, hsame⟩ := loadOrCreatePrivateKey_stored fs o buffer hresult
    rw [hcontents, hsame hread]
  unfold loadOrCreatePrivateKey at hwhole ⊢
  cases hopened : (if o.opens then fs .privateKey else none) with
  | some contents =>
    simp only [hopened] at hwhole ⊢
    cases hcount : o.read with
    | error code => exact identified_of_failed (by norm_num) buffer
    | ok n =>
      simp only [hcount] at hwhole ⊢
      split_ifs at hwhole ⊢ with hlength
      · exact ⟨fun _ => rfl, fun _ hsame => hsame, hwhole, by simp⟩
      · exact identified_of_failed (by norm_num) buffer
  | none =>
    simp only [hopened] at hwhole ⊢
    split_ifs with hstats
    · exact identified_of_failed o.openCode.2 buffer
    have hmissing : fs .privateKey = none := by
      rcases hfound with hopens | hstat
      · rwa [if_pos hopens] at hopened
      · exact Option.not_isSome_iff_eq_none.mp fun hsome => hstats ⟨hstat, hsome⟩
    cases o.random with
    | error code => exact identified_of_failed code.2 buffer
    | ok key =>
      obtain ⟨hothers, hstored⟩ := createPrivateKey_stored fs (clamp key) o
      exact ⟨hothers, fun contents hcontents => by simp [hmissing] at hcontents, hstored,
        fun _ => hmissing⟩

/-- The template never replaces a configuration, and no other file is changed. -/
lemma loadConfig_files {o : ConfigOutcomes} {r : Except ℤ Config × FileSystem Path}
    (h : loadConfig lib fs o = some r) : r.2 .privateKey = fs .privateKey ∧
      ∀ contents, fs configPath = some contents → r.2 configPath = some contents := by
  have hcreated : (createConfigTemplate fs o.template).2 .privateKey = fs .privateKey ∧
      ∀ contents, fs configPath = some contents →
        (createConfigTemplate fs o.template).2 configPath = some contents := by
    unfold createConfigTemplate
    split_ifs with hthere
    · exact ⟨rfl, fun _ hsame => hsame⟩
    · exact ⟨writeExactFile_elsewhere (by simp [configPath]),
        fun contents hcontents => by simp [hcontents] at hthere⟩
  obtain ⟨loaded, -, rfl⟩ := Option.map_eq_some_iff.mp h
  dsimp only
  cases configFile fs o with
  | openFailed code => exact hcreated
  | readFailed code => exact ⟨rfl, fun _ hsame => hsame⟩
  | contents bytes => exact ⟨rfl, fun _ hsame => hsame⟩

lemma finish_agree {codes : Codes} (codes' : Codes) {decode : Decode} {settings : Settings}
    {config : Config} (h : PeerConfig.finish codes decode settings = .ok config) :
    PeerConfig.finish codes' decode settings = .ok config := by
  unfold PeerConfig.finish at h ⊢
  by_cases hmissing : settings.encodedKey = [] ∨ settings.endpointIp = [] ∨
      settings.endpointPort = 0
  · rw [if_pos hmissing] at h
    cases h
  rw [if_neg hmissing] at h ⊢
  cases hkey : decode settings.encodedKey PeerConfig.wireguardPublicKeyLen with
  | none => simp [hkey] at h
  | some publicKey =>
    simp only [hkey] at h ⊢
    by_cases hlength : publicKey.length ≠ PeerConfig.wireguardPublicKeyLen
    · rw [if_pos hlength] at h
      cases h
    rw [if_neg hlength] at h ⊢
    by_cases haddress : (!(Ipv4Literal.tsvitaParseIpv4Literal (some settings.endpointIp)
        (some [0, 0, 0, 0])).1) = true
    · rw [if_pos haddress] at h
      cases h
    · rwa [if_neg haddress] at h ⊢

/-- Two programs that read a whole configuration agree on it, whatever they call its errors. -/
lemma loadPeerConfig_agree {codes : Codes} (codes' : Codes) {decode : Decode}
    {uninitialised bytes : List UInt8} (uninitialised' : List UInt8) {config : Config} {n : ℕ}
    (hn : contentsSize - 1 ≤ n)
    (h : loadPeerConfig codes decode uninitialised (.contents (bytes.take n)) = some (.ok config)) :
    loadPeerConfig codes' decode uninitialised' (.contents bytes) = some (.ok config) := by
  have hseen : seen (bytes.take n) = seen bytes := by
    rw [seen, List.take_take, min_eq_left hn, seen]
  rw [loadPeerConfig_contents, Option.some.injEq, parseText, hseen] at h
  rw [loadPeerConfig_contents, Option.some.injEq, parseText]
  cases hparsed : ((seen bytes).splitOn PeerConfig.newline).foldlM applyLine .none with
  | error code =>
    rw [hparsed] at h
    cases h
  | ok settings =>
    rw [hparsed] at h
    exact finish_agree codes' h

/-- What the tunnel of the game loads afterwards is what the runs have loaded; what is stored
before is never changed, and an identity is created at most once. -/
structure Paired (lib : Library K H R I) (fs : FileSystem Path) (runs : List (Ran K H I))
    (fs' : FileSystem Path) : Prop where
  identity : ∀ contents, fs .privateKey = some contents → fs' .privateKey = some contents
  config : ∀ contents, fs configPath = some contents → fs' configPath = some contents
  created : (runs.filter fun ran => ran.created).length ≤
    if (fs .privateKey).isSome then 0 else 1
  loaded : ∀ ran ∈ runs, ∀ key, ran.identity = some key → ∃ contents,
    fs' .privateKey = some contents ∧
      ∀ buffer, TunnelLaunch.loadPrivateKey buffer (.contents contents) = (0, key)
  configured : ∀ ran ∈ runs, ∀ config, ran.config = some config → ∃ contents,
    fs' configPath = some contents ∧ ∀ uninitialised,
      loadPeerConfig tunnelCodes lib.decode uninitialised (.contents contents) = some (.ok config)

lemma loadPrivateKey_stored (buffer key : Key) :
    TunnelLaunch.loadPrivateKey buffer (.contents key.toList) = (0, key) := by
  have hwhole : key.toList.take TunnelLaunch.storedSize = key.toList :=
    List.take_of_length_le (by simp [TunnelLaunch.storedSize])
  simp only [TunnelLaunch.loadPrivateKey, hwhole]
  rw [dif_pos (by simp)]
  rfl

lemma Runs.paired_cons {ran : Ran K H I} {runs : List (Ran K H I)} {fs₁ fs' : FileSystem Path}
    (hran : Paired lib fs [ran] fs₁) (hkey : ran.created = true → ran.identity ≠ none)
    (h : Paired lib fs₁ runs fs') : Paired lib fs (ran :: runs) fs' where
  identity := fun contents hcontents => h.identity contents (hran.identity contents hcontents)
  config := fun contents hcontents => h.config contents (hran.config contents hcontents)
  loaded := by
    intro ran' hmem key hidentity
    rcases List.mem_cons.mp hmem with rfl | hmem
    · obtain ⟨contents, hcontents, hloaded⟩ := hran.loaded ran' (by simp) key hidentity
      exact ⟨contents, h.identity contents hcontents, hloaded⟩
    · exact h.loaded ran' hmem key hidentity
  configured := by
    intro ran' hmem config hconfig
    rcases List.mem_cons.mp hmem with rfl | hmem
    · obtain ⟨contents, hcontents, hloaded⟩ := hran.configured ran' (by simp) config hconfig
      exact ⟨contents, h.config contents hcontents, hloaded⟩
    · exact h.configured ran' hmem config hconfig
  created := by
    have hfirst := hran.created
    have hrest := h.created
    by_cases hcreated : ran.created = true
    · obtain ⟨key, hidentity⟩ := Option.ne_none_iff_exists'.mp (hkey hcreated)
      obtain ⟨contents, hcontents, -⟩ := hran.loaded ran (by simp) key hidentity
      simp only [List.filter_cons, hcreated, if_true, hcontents, Option.isSome_some,
        List.length_cons, List.filter_nil, List.length_nil] at hfirst hrest ⊢
      omega
    · rw [List.filter_cons_of_neg hcreated]
      cases hstored : fs .privateKey with
      | none =>
        have hone : (if (fs₁ .privateKey).isSome then 0 else 1) ≤ 1 := by split_ifs <;> norm_num
        simpa using hrest.trans hone
      | some contents => simpa [hran.identity contents hstored] using hrest

/-- A configuration that a run has read is the stored one. -/
lemma configFile_contents {o : ConfigOutcomes} {bytes : List UInt8}
    (h : configFile fs o = .contents bytes) :
    ∃ contents n, fs configPath = some contents ∧ o.read = .ok n ∧ bytes = contents.take n := by
  unfold configFile at h
  split at h
  · cases h
  · rename_i contents hopened
    have hcontents : fs configPath = some contents := by
      split_ifs at hopened
      exact hopened
    cases hread : o.read with
    | error code =>
      rw [hread] at h
      cases h
    | ok n =>
      rw [hread] at h
      cases h
      exact ⟨contents, n, hcontents, rfl, rfl⟩

lemma loadConfig_stored {o : ConfigOutcomes} {config : Config} {files : FileSystem Path}
    (hread : ∀ n, o.read = .ok n → contentsSize - 1 ≤ n)
    (h : loadConfig lib fs o = some (.ok config, files)) :
    ∃ contents, files configPath = some contents ∧ ∀ uninitialised,
      loadPeerConfig tunnelCodes lib.decode uninitialised (.contents contents) =
        some (.ok config) := by
  obtain ⟨rfl, createResult, hload⟩ := loadConfig_ok h
  cases hfile : configFile files o with
  | openFailed code =>
    rw [hfile] at hload
    cases hload
  | readFailed code =>
    rw [hfile] at hload
    cases hload
  | contents bytes =>
    obtain ⟨contents, n, hcontents, hcount, rfl⟩ := configFile_contents hfile
    rw [hfile] at hload
    exact ⟨contents, hcontents,
      fun uninitialised => loadPeerConfig_agree tunnelCodes uninitialised (hread n hcount) hload⟩

/-- After the identity a run changes only its public key and a configuration that is missing. -/
lemma runProbe_files {o : RunOutcomes R} {ran : Ran K H I} {loaded : Returned}
    (hloaded : loadOrCreatePrivateKey fs (.replicate 32 0) o.key = loaded)
    (hread : ∀ n, o.config.read = .ok n → contentsSize - 1 ≤ n)
    (h : runProbe lib s fs o = some ran) : ran.files .privateKey = loaded.files .privateKey ∧
      (∀ contents, loaded.files configPath = some contents →
        ran.files configPath = some contents) ∧
      ∀ config, ran.config = some config → ∃ contents, ran.files configPath = some contents ∧
        ∀ uninitialised, loadPeerConfig tunnelCodes lib.decode uninitialised (.contents contents) =
          some (.ok config) := by
  have hexport : ∀ publicKey path, path ≠ publicKeyPath →
      (exportPublicKey lib loaded.files publicKey o.exported).2 path = loaded.files path :=
    fun publicKey path hne => exportPublicKey_elsewhere hne
  have hpublic : configPath ≠ publicKeyPath := by decide
  rcases runProbe_cases hloaded h with ⟨-, -, hnone, -, hfiles⟩ | ⟨-, -, -,
    ⟨hnone, -, hfiles | ⟨publicKey, hfiles⟩⟩ |
    ⟨s', publicKey, r, -, -, hconfigured, -, hconfig, -, hfiles⟩⟩
  · simp [hnone, hfiles]
  · simp [hnone, hfiles]
  · rw [hfiles, hexport _ _ (by simp [publicKeyPath]), hexport _ _ hpublic]
    simp [hnone]
  · have hfiles' : ∀ result, loadConfig lib (exportPublicKey lib loaded.files publicKey
        o.exported).2 o.config = some (result, r.files) →
        ran.files .privateKey = loaded.files .privateKey ∧ ∀ contents,
          loaded.files configPath = some contents → ran.files configPath = some contents := by
      intro result hresult
      obtain ⟨hkey, hkept⟩ := loadConfig_files hresult
      rw [hexport _ _ (by simp [publicKeyPath])] at hkey
      rw [hexport _ _ hpublic] at hkept
      rw [hfiles]
      exact ⟨hkey, hkept⟩
    rcases runConfigured_cases hconfigured with ⟨hnone, -, code, hload⟩ |
      ⟨config, hsome, hload, -⟩
    · obtain ⟨hkey, hkept⟩ := hfiles' _ hload
      exact ⟨hkey, hkept, by simp [hconfig, hnone]⟩
    · obtain ⟨hkey, hkept⟩ := hfiles' _ hload
      refine ⟨hkey, hkept, fun config' hconfig' => ?_⟩
      rw [hconfig, hsome, Option.some.injEq] at hconfig'
      rw [hfiles, ← hconfig']
      exact loadConfig_stored hread hload

lemma runProbe_paired {o : RunOutcomes R} (ho : Honest o) {ran : Ran K H I}
    (h : runProbe lib s fs o = some ran) : Paired lib fs [ran] ran.files ∧
      (ran.created = true → ran.identity ≠ none) := by
  obtain ⟨hothers, hunchanged, hstored, hcreated⟩ :=
    loadOrCreatePrivateKey_identified fs ho.found ho.key (.replicate 32 0)
  generalize hloaded : loadOrCreatePrivateKey fs (.replicate 32 0) o.key = loaded at *
  obtain ⟨hkey, hconfig, hread⟩ := runProbe_files hloaded ho.config h
  have hidentity : ran.created = false ∧ ran.identity = none ∨ 0 ≤ loaded.result ∧
      ran.created = loaded.created ∧ ran.identity = some loaded.privateKey := by
    rcases runProbe_cases hloaded h with ⟨hnone, hold, -⟩ | ⟨hresult, hsome, hcreates, -⟩
    · exact Or.inl ⟨hold, hnone⟩
    · exact Or.inr ⟨hresult, hcreates, hsome⟩
  refine ⟨⟨?_, ?_, ?_, ?_, ?_⟩, ?_⟩
  · intro contents hcontents
    rw [hkey, hunchanged contents hcontents]
  · intro contents hcontents
    exact hconfig contents ((hothers _).trans hcontents)
  · rcases hidentity with ⟨hold, -⟩ | ⟨-, hcreates, -⟩
    · simp [hold]
    · cases hnew : loaded.created with
      | false => simp [hcreates, hnew]
      | true => simp [hcreates, hnew, hcreated hnew]
  · intro ran' hmem key hsome
    obtain rfl := List.mem_singleton.mp hmem
    rcases hidentity with ⟨-, hnone⟩ | ⟨hresult, -, hloadedKey⟩
    · simp [hnone] at hsome
    · rw [hloadedKey, Option.some.injEq] at hsome
      refine ⟨key.toList, ?_, fun buffer => loadPrivateKey_stored buffer key⟩
      rw [hkey, hstored hresult, hsome]
  · intro ran' hmem
    obtain rfl := List.mem_singleton.mp hmem
    exact hread
  · intro hnew
    rcases hidentity with ⟨hold, -⟩ | ⟨-, -, hsome⟩
    · simp [hold] at hnew
    · simp [hsome]

lemma Runs.paired {os : List (RunOutcomes R)} {runs : List (Ran K H I)} {s' : Program}
    {fs' : FileSystem Path} (h : Runs lib s fs os runs s' fs') (ho : ∀ o ∈ os, Honest o) :
    Paired lib fs runs fs' := by
  induction h with
  | nil => exact ⟨fun _ hsame => hsame, fun _ hsame => hsame, by simp, by simp, by simp⟩
  | cons hrun _ ih =>
    obtain ⟨hran, hcreates⟩ := runProbe_paired (ho _ List.mem_cons_self) hrun
    exact Runs.paired_cons hran hcreates (ih fun o hmem => ho o (List.mem_cons_of_mem _ hmem))

/-- However often the probe runs and however its sessions end, the tunnel of the game afterwards
loads the identity and the configuration of every run that has come so far. -/
theorem files_paired {o : MainOutcomes R} {samples : List (UInt32 × RunOutcomes R)}
    {p : Main K H I} (ho : ∀ o' ∈ o.run :: samples.map Prod.snd, Honest o')
    (h : main lib fs o samples = some p) : Paired lib fs p.runs p.files := by
  rcases main_runs h with ⟨hnone, hfiles, -⟩ | ⟨os, loop, hos, hruns, -, rfl⟩
  · rw [hnone, hfiles]
    exact ⟨fun _ hsame => hsame, fun _ hsame => hsame, by simp, by simp, by simp⟩
  · have hpaired := hruns.paired fun o' hmem => ho o' ((hos.cons_cons o.run).subset hmem)
    rwa [← finish_runs loop, ← finish_files loop] at hpaired

lemma sampleRun_honest (socket : ℤ) : Honest (sampleRun socket) := by
  refine ⟨Or.inl rfl, fun n hn => ?_, fun n hn => ?_⟩
  · cases hn
    decide
  · cases hn
    decide

theorem files_paired_sample : ∃ p, main sampleLibrary sampleFiles
    ⟨0, true, sampleRun 3⟩ samplePresses = some p ∧
      (p.runs.filter fun ran => ran.created).length = 1 ∧
      Paired sampleLibrary sampleFiles p.runs p.files := by
  obtain ⟨p, hp, -, hcreated, -⟩ := main_sample
  refine ⟨p, hp, hcreated, files_paired (fun o ho => ?_) hp⟩
  simp only [samplePresses, List.map_cons, List.map_nil, List.mem_cons, List.not_mem_nil,
    or_false] at ho
  rcases ho with rfl | rfl | rfl <;> exact sampleRun_honest _

end Files

end MoonlightVita.FlowProbe
