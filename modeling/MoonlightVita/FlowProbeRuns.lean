import MoonlightVita.FlowProbe

/-!
# The runs of the flow probe

Each run that gets as far as its flow is a session of WireGuard over the identity that it has
loaded. An approved run has left every trace that approval should mean, and every run is secure.
-/
namespace MoonlightVita.FlowProbe
open Files KeyFile Probe ProbeProgram Tunnel
open CString (cstr)
open PeerConfig (Codes Config Decode applyLine loadPeerConfig loadPeerConfig_contents parseText
  probeCodes seen)

variable {K H R I : Type}

section Written
variable {lib : Library K H R I} {fs : FileSystem Path}

lemma writeExactFile_elsewhere {path path' : Path} {data : List UInt8} {o : KeyFile.Outcomes}
    (hne : path' ≠ path) : (writeExactFile fs path data o).2 path' = fs path' := by
  cases hopen : o.openTemporary with
  | some code => simp only [writeExactFile, hopen]
  | none =>
    rw [(writeExactFile_opened fs path data hopen).1, put, Function.update_of_ne hne]

lemma writeExactFile_done {path : Path} {data : List UInt8} {o : KeyFile.Outcomes}
    (h : 0 ≤ (writeExactFile fs path data o).1) :
    (writeExactFile fs path data o).2 path = some data := by
  cases hopen : o.openTemporary with
  | some code =>
    simp only [writeExactFile, hopen] at h
    exact absurd code.2 (not_lt.mpr h)
  | none =>
    obtain ⟨hfiles, hresult⟩ := writeExactFile_opened fs path data hopen
    have hcomplete := (hresult.resolve_right fun hfailed => not_lt.mpr h hfailed.2).1
    rw [hfiles, put_self, hcomplete.take_eq]

lemma rename_elsewhere {old new path : Path} (hold : path ≠ old) (hnew : path ≠ new) :
    rename fs old new path = fs path := by
  rw [rename, remove, Function.update_of_ne hold, Function.update_of_ne hnew]

/-- A new key is stored if the call succeeds, and only its temporary file and the key file change. -/
lemma createPrivateKey_stored (fs : FileSystem Path) (key : Key) (o : KeyFile.Outcomes) :
    (∀ name, (createPrivateKey fs key o).files (.other name) = fs (.other name)) ∧
      (0 ≤ (createPrivateKey fs key o).result →
        (createPrivateKey fs key o).files .privateKey =
          some (createPrivateKey fs key o).privateKey.toList) := by
  have helsewhere : ∀ name, (writeExactFile fs (.temporary o.processTime) key.toList o).2
      (.other name) = fs (.other name) := fun name => writeExactFile_elsewhere (by simp)
  unfold createPrivateKey
  dsimp only
  by_cases hfailed : (writeExactFile fs (.temporary o.processTime) key.toList o).1 < 0
  · rw [if_pos hfailed]
    exact ⟨helsewhere, fun h => absurd hfailed (not_lt.mpr h)⟩
  rw [if_neg hfailed]
  cases hrename : o.rename with
  | none =>
    refine ⟨fun name => ?_, fun _ => ?_⟩
    · dsimp only
      rw [rename_elsewhere (by simp) (by simp), helsewhere]
    · dsimp only
      rw [rename_new (by simp), writeExactFile_done (not_lt.mp hfailed)]
  | some code =>
    refine ⟨fun name => ?_, fun h => absurd code.2 (not_lt.mpr h)⟩
    dsimp only
    split_ifs
    · rw [remove, Function.update_of_ne (by simp), helsewhere]
    · exact helsewhere name

/-- The identity is in its file, and nothing else is, unless the read has stopped before the end of
the file. -/
def IdentityStored (key : Key) (o : KeyFile.Outcomes) (files : FileSystem Path) : Prop :=
  ∃ contents, files .privateKey = some contents ∧ key.toList <+: contents ∧
    ((∀ n, o.read = .ok n → storedSize ≤ n) → contents = key.toList)

lemma loadOrCreatePrivateKey_stored (fs : FileSystem Path) (o : KeyFile.Outcomes) (buffer : Key)
    (h : 0 ≤ (loadOrCreatePrivateKey fs buffer o).result) :
    IdentityStored (loadOrCreatePrivateKey fs buffer o).privateKey o
      (loadOrCreatePrivateKey fs buffer o).files := by
  unfold loadOrCreatePrivateKey at h ⊢
  cases hopened : (if o.opens then fs .privateKey else none) with
  | some contents =>
    have hcontents : fs .privateKey = some contents := by
      split_ifs at hopened
      exact hopened
    simp only [hopened] at h ⊢
    cases hcount : o.read with
    | error code =>
      simp only [hcount] at h
      norm_num at h
    | ok n =>
      simp only [hcount] at h ⊢
      split_ifs at h ⊢ with hlength
      · refine ⟨contents, hcontents, ?_, fun hread => ?_⟩
        · simpa [readFront] using List.take_prefix (min n storedSize) contents
        · have hsize : readFront contents storedSize n = contents.take storedSize := by
            rw [readFront, min_eq_right (hread n hcount)]
          have hwhole : contents.take storedSize = contents := by
            rw [hsize, List.length_take] at hlength
            exact List.take_of_length_le (by simp [storedSize] at hlength ⊢; omega)
          simp [hsize, hwhole]
      · norm_num at h
  | none =>
    simp only [hopened] at h ⊢
    split_ifs at h ⊢ with hstats
    · exact absurd o.openCode.2 (not_lt.mpr h)
    cases hrandom : o.random with
    | error code =>
      simp only [hrandom] at h
      exact absurd code.2 (not_lt.mpr h)
    | ok key =>
      simp only [hrandom] at h ⊢
      exact ⟨_, (createPrivateKey_stored fs (clamp key) o).2 h, List.prefix_rfl, fun _ => rfl⟩

/-- The export changes no file but the one with the public key. -/
lemma exportPublicKey_elsewhere {publicKey : Key} {o : KeyFile.Outcomes} {path : Path}
    (hne : path ≠ publicKeyPath) : (exportPublicKey lib fs publicKey o).2 path = fs path := by
  unfold exportPublicKey
  cases lib.encode publicKey with
  | none => rfl
  | some encoded =>
    dsimp only
    split_ifs
    · rfl
    · exact writeExactFile_elsewhere hne

lemma exportPublicKey_done {publicKey : Key} {o : KeyFile.Outcomes}
    (h : 0 ≤ (exportPublicKey lib fs publicKey o).1) : ∃ encoded, lib.encode publicKey = some encoded ∧
      (exportPublicKey lib fs publicKey o).2 publicKeyPath = some (cstr encoded 0 ++ [newline]) := by
  unfold exportPublicKey at h ⊢
  cases hencoded : lib.encode publicKey with
  | none =>
    rw [hencoded] at h
    exact absurd h (by norm_num)
  | some encoded =>
    rw [hencoded] at h
    dsimp only at h ⊢
    split_ifs at h ⊢
    · exact absurd h (by norm_num)
    · exact ⟨encoded, rfl, writeExactFile_done h⟩

/-- A template that nobody has filled in is no configuration for either program. -/
lemma loadPeerConfig_template (codes : Codes) (decode : Decode) (uninitialised : List UInt8) :
    loadPeerConfig codes decode uninitialised (.contents templateText) =
      some (.error codes.incomplete) := by
  have hsettings : ((seen templateText).splitOn PeerConfig.newline).foldlM applyLine .none =
      .ok ⟨[], [], 51820⟩ := by
    decide +kernel
  rw [loadPeerConfig_contents, parseText, hsettings]
  rfl

end Written

section Runs
variable {lib : Library K H R I} {m : Meaning K H I} {s : Program} {fs : FileSystem Path}

/-- Without a session a run has neither notes nor the verdict of a flow. -/
def Configured.Quiet (r : Configured K H I) : Prop :=
  r.notes = [] ∧ ∀ result, r.verdict ≠ .flow result

/-- What a run does once it has its configuration. -/
lemma runConfigured_cases {key : Key} {o : RunOutcomes R} {r : Configured K H I}
    (h : runConfigured lib s fs key o = some r) :
    (r.config = none ∧ r.Quiet ∧ ∃ code, loadConfig lib fs o.config = some (.error code, r.files)) ∨
    ∃ config, r.config = some config ∧ loadConfig lib fs o.config = some (.ok config, r.files) ∧
      (r.Quiet ∨ ∃ peer session, lib.peerInit key config.publicKey = some peer ∧
        sendHandshakeAndIpProbe lib.wireguard config peer o.session = some session ∧
        r.notes = session.notes ∧ r.verdict = .flow session.result) := by
  unfold runConfigured at h
  dsimp only at h
  split at h
  · cases h
  · rename_i code files hconfig
    cases h
    refine Or.inl ⟨rfl, ⟨rfl, fun result => ?_⟩, code, hconfig⟩
    dsimp only
    split_ifs <;> simp
  · rename_i config files hconfig
    split at h
    · cases h
      exact Or.inr ⟨config, rfl, hconfig, Or.inl ⟨rfl, by simp⟩⟩
    · rename_i peer hpeer
      obtain ⟨⟨verdict, notes⟩, hsession, rfl⟩ := Option.map_eq_some_iff.mp h
      refine Or.inr ⟨config, rfl, hconfig, ?_⟩
      unfold runSession at hsession
      split_ifs at hsession
      · cases hsession
        exact Or.inl ⟨rfl, by simp⟩
      · obtain ⟨session, hconduct, heq⟩ := Option.map_eq_some_iff.mp hsession
        cases heq
        exact Or.inr ⟨peer, session, hpeer, hconduct, rfl, rfl⟩

/-- Where a run ends, with the files that it has left by then. -/
lemma runProbe_cases {o : RunOutcomes R} {ran : Ran K H I} {loaded : Returned}
    (hloaded : loadOrCreatePrivateKey fs (.replicate 32 0) o.key = loaded)
    (h : runProbe lib s fs o = some ran) :
    (ran.identity = none ∧ ran.created = false ∧ ran.config = none ∧ ran.Quiet ∧
      ran.files = loaded.files) ∨
    (0 ≤ loaded.result ∧ ran.identity = some loaded.privateKey ∧ ran.created = loaded.created ∧
      ((ran.config = none ∧ ran.Quiet ∧ (ran.files = loaded.files ∨ ∃ publicKey,
          ran.files = (exportPublicKey lib loaded.files publicKey o.exported).2)) ∨
        ∃ s' publicKey r, lib.deviceInit loaded.privateKey = some publicKey ∧
          0 ≤ (exportPublicKey lib loaded.files publicKey o.exported).1 ∧
          runConfigured lib s' (exportPublicKey lib loaded.files publicKey o.exported).2
            loaded.privateKey o = some r ∧ ran.verdict = r.verdict ∧ ran.config = r.config ∧
          ran.notes = r.notes ∧ ran.files = r.files)) := by
  unfold runProbe at h
  rw [hloaded] at h
  dsimp only at h
  by_cases hfailed : loaded.result < 0
  · rw [if_pos hfailed] at h
    cases h
    exact Or.inl ⟨rfl, rfl, rfl, ⟨rfl, by simp⟩, rfl⟩
  rw [if_neg hfailed] at h
  right
  split at h
  · cases h
    exact ⟨not_lt.mp hfailed, rfl, rfl, Or.inl ⟨rfl, ⟨rfl, by simp⟩, Or.inl rfl⟩⟩
  · rename_i publicKey hdevice
    by_cases hexported : (exportPublicKey lib loaded.files publicKey o.exported).1 < 0
    · rw [if_pos hexported] at h
      cases h
      exact ⟨not_lt.mp hfailed, rfl, rfl, Or.inl ⟨rfl, ⟨rfl, by simp⟩, Or.inr ⟨publicKey, rfl⟩⟩⟩
    · rw [if_neg hexported] at h
      obtain ⟨r, hconfigured, rfl⟩ := Option.map_eq_some_iff.mp h
      exact ⟨not_lt.mp hfailed, rfl, rfl, Or.inr ⟨_, publicKey, r, hdevice, not_lt.mp hexported,
        hconfigured, rfl, rfl, rfl, rfl⟩⟩

/-- A configuration that is read leaves the files alone, and is read from them. -/
lemma loadConfig_ok {o : ConfigOutcomes} {config : Config} {files : FileSystem Path}
    (h : loadConfig lib fs o = some (.ok config, files)) : files = fs ∧
      ∃ createResult, loadPeerConfig (probeCodes createResult) lib.decode o.uninitialised
        (configFile fs o) = some (.ok config) := by
  obtain ⟨loaded, hload, heq⟩ := Option.map_eq_some_iff.mp h
  rw [Prod.mk.injEq] at heq
  obtain ⟨rfl, rfl⟩ := heq
  refine ⟨?_, _, hload⟩
  cases hfile : configFile fs o with
  | openFailed code =>
    rw [hfile] at hload
    cases hload
  | readFailed code => rfl
  | contents bytes => rfl

/-- The public key of an identity is there for its peer. -/
def Exported (lib : Library K H R I) (key : Key) (files : FileSystem Path) : Prop :=
  ∃ publicKey encoded, lib.deviceInit key = some publicKey ∧ lib.encode publicKey = some encoded ∧
    files publicKeyPath = some (cstr encoded 0 ++ [newline])

/-- A run has no session, or the session of a peer for its identity and its configuration. -/
lemma runProbe_session {o : RunOutcomes R} {ran : Ran K H I} (h : runProbe lib s fs o = some ran) :
    ran.Quiet ∨ ∃ key config peer session, ran.identity = some key ∧
      IdentityStored key o.key ran.files ∧ ran.config = some config ∧
      loadConfig lib ran.files o.config = some (.ok config, ran.files) ∧
      Exported lib key ran.files ∧ lib.peerInit key config.publicKey = some peer ∧
      sendHandshakeAndIpProbe lib.wireguard config peer o.session = some session ∧
      ran.notes = session.notes ∧ ran.verdict = .flow session.result := by
  rcases runProbe_cases rfl h with ⟨-, -, -, hquiet, -⟩ | ⟨hresult, hkey, -, ⟨-, hquiet, -⟩ |
    ⟨s', publicKey, r, hdevice, hexport, hconfigured, hverdict, hconfig, hnotes, hfiles⟩⟩
  · exact Or.inl hquiet
  · exact Or.inl hquiet
  rcases runConfigured_cases hconfigured with ⟨-, ⟨hquiet, hflow⟩, -⟩ |
    ⟨config, hsome, hload, ⟨hquiet, hflow⟩ | ⟨peer, session, hpeer, hconduct, hnotes', hflow⟩⟩
  · exact Or.inl ⟨hnotes.trans hquiet, hverdict ▸ hflow⟩
  · exact Or.inl ⟨hnotes.trans hquiet, hverdict ▸ hflow⟩
  · have hsame := (loadConfig_ok hload).1
    obtain ⟨encoded, hencoded, hwritten⟩ := exportPublicKey_done hexport
    refine Or.inr ⟨_, config, peer, session, hkey, ?_, hconfig.trans hsome, ?_, ?_, hpeer,
      hconduct, hnotes.trans hnotes', hverdict.trans hflow⟩
    · obtain ⟨contents, hcontents, hstored⟩ := loadOrCreatePrivateKey_stored fs o.key _ hresult
      refine ⟨contents, ?_, hstored⟩
      rw [hfiles, hsame, exportPublicKey_elsewhere (by simp [publicKeyPath]), hcontents]
    · rw [hfiles]
      rwa [← hsame] at hload
    · exact ⟨publicKey, encoded, hdevice, hencoded, hfiles ▸ hsame ▸ hwritten⟩

/-- What an approval is worth: the identity is stored, the endpoint of the configuration has
answered the one initiation of this identity, and both payloads came back through the session. -/
structure ApprovedRun (lib : Library K H R I) (m : Meaning K H I) (o : RunOutcomes R)
    (ran : Ran K H I) : Prop where
  peer : ∃ key config peer destination, ran.identity = some key ∧
    IdentityStored key o.key ran.files ∧ ran.config = some config ∧
    loadConfig lib ran.files o.config = some (.ok config, ran.files) ∧
    Exported lib key ran.files ∧ lib.peerInit key config.publicKey = some peer ∧
    TunnelLaunch.endpointOf config = some destination ∧ ∃ i response,
      created (eventsOf ran.notes) = [i] ∧ o.session.sent = sizeofHandshakeInitiation ∧
      o.session.received = .ok (destination, response) ∧ m.answers i response
  taken : AllTaken ran.notes
  approved : ∃ before after, ran.notes = before ++ after ∧ Approved before

/-- A run is approved only if it was worth it, and no verdict of a flow is positive. -/
theorem runs_approved (hl : Lawful lib.wireguard m) {o : MainOutcomes R}
    {samples : List (UInt32 × RunOutcomes R)} {p : Main K H I}
    (h : main lib fs o samples = some p) {ran : Ran K H I} (hran : ran ∈ p.runs) :
    ∃ o' ∈ o.run :: samples.map Prod.snd, (ran.verdict = .flow 0 → ApprovedRun lib m o' ran) ∧
      ∀ result, ran.verdict = .flow result → result ≤ 0 := by
  obtain ⟨s', fs', o', ho', hrun⟩ := main_mem h hran
  refine ⟨o', ho', ?_⟩
  rcases runProbe_session hrun with ⟨-, hverdict⟩ |
    ⟨key, config, peer, session, hkey, hstored, hsome, hconfig, hexported, hpeer, hsession, hnotes,
      hverdict⟩
  · exact ⟨fun hzero => absurd hzero (hverdict 0), fun result hresult =>
      absurd hresult (hverdict result)⟩
  obtain ⟨hresult, happroved⟩ := sendHandshakeAndIpProbe_approved hl hsession
  constructor
  · intro hzero
    rw [hverdict, Verdict.flow.injEq] at hzero
    obtain ⟨destination, i, response, hendpoint, hcreated, hsent, hreceived, hanswers, htaken,
      hflow⟩ := happroved hzero
    exact ⟨⟨key, config, peer, destination, hkey, hstored, hsome, hconfig, hexported, hpeer,
      hendpoint, i, response, hnotes ▸ hcreated, hsent, hreceived, hanswers⟩, hnotes ▸ htaken,
      hnotes ▸ hflow⟩
  · intro result hflow
    rw [hverdict, Verdict.flow.injEq] at hflow
    exact hflow ▸ hresult

theorem runs_approved_sample : ∃ p, main sampleLibrary sampleFiles
    ⟨0, true, sampleRun 3⟩ samplePresses = some p ∧
      ∃ ran ∈ p.runs, ∃ o, ApprovedRun sampleLibrary symbolicMeaning o ran := by
  obtain ⟨p, hp, -, -, ran, hran, hverdict⟩ := main_sample
  obtain ⟨o, -, happroved, -⟩ := runs_approved symbolic_lawful hp hran
  exact ⟨p, hp, ran, hran, o, happroved hverdict⟩

/-- Peers begin without sessions, and without a handshake in progress. -/
def Initial (lib : Library K H R I) (m : Meaning K H I) : Prop :=
  ∀ key publicKey peer, lib.peerInit key publicKey = some peer →
    ∃ handshake zero, m.initiation handshake = none ∧ peer = initialPeer handshake zero

/-- In every run of the program the session keeps the promises of the tunnel. -/
theorem runs_secure [DecidableEq K] (hl : Lawful lib.wireguard m) (hinitial : Initial lib m)
    {o : MainOutcomes R} {samples : List (UInt32 × RunOutcomes R)} {p : Main K H I}
    (h : main lib fs o samples = some p) {ran : Ran K H I} (hran : ran ∈ p.runs) :
    Secure m (eventsOf ran.notes) := by
  obtain ⟨s', fs', o', -, hrun⟩ := main_mem h hran
  rcases runProbe_session hrun with ⟨hnotes, -⟩ |
    ⟨key, config, peer, session, -, -, -, -, -, hpeer, hsession, hnotes, -⟩
  · rw [hnotes]
    exact secure_nil m
  · obtain ⟨handshake, zero, hidle, rfl⟩ := hinitial key config.publicKey peer hpeer
    rw [hnotes]
    exact sendHandshakeAndIpProbe_secure hl hidle hsession

lemma sampleLibrary_initial : Initial sampleLibrary symbolicMeaning := by
  intro key publicKey peer h
  cases h
  exact ⟨none, (0, true), rfl, rfl⟩

theorem runs_secure_sample : ∃ p, main sampleLibrary sampleFiles
    ⟨0, true, sampleRun 3⟩ samplePresses = some p ∧
      ∃ ran ∈ p.runs, ran.verdict = .flow 0 ∧ Secure symbolicMeaning (eventsOf ran.notes) := by
  obtain ⟨p, hp, -, -, ran, hran, hverdict⟩ := main_sample
  exact ⟨p, hp, ran, hran, hverdict, runs_secure symbolic_lawful sampleLibrary_initial hp hran⟩

end Runs

end MoonlightVita.FlowProbe
