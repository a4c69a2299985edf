import MoonlightVita.Base64
import MoonlightVita.KeyFile
import MoonlightVita.ProbeSession

/-!
# The flow probe

`run_probe` of `wg_handshake_probe.c` with the files that it reads and writes, and the loop over
the buttons. An execution of the program is a list of runs, each of which begins with the files
and the handles that the run before has left.
-/
namespace MoonlightVita.FlowProbe
open Files KeyFile Probe ProbeProgram Resources Tunnel
open CString (cstr)
open PeerConfig (Config Decode File ascii contentsSize loadPeerConfig probeCodes)

variable {K H R I : Type}

/-- The calls of WireGuard. `deviceInit` gives the public key of a device and `peerInit` its peer
with this public key. -/
structure Library (K H R I : Type) where
  wireguard : Wireguard K H R I
  encode : Key → Option (List UInt8)
  decode : Decode
  deviceInit : Key → Option Key
  peerInit : Key → List UInt8 → Option (Peer K H)

/-- The calls for the configuration, and what the stack holds behind what is read. -/
structure ConfigOutcomes where
  opens : Bool
  openCode : ErrorCode
  read : Except ErrorCode ℕ
  template : KeyFile.Outcomes
  uninitialised : List UInt8

structure RunOutcomes (R : Type) where
  log : ℤ
  key : KeyFile.Outcomes
  exported : KeyFile.Outcomes
  config : ConfigOutcomes
  network : NetworkOutcomes
  session : SessionOutcomes R

/-- How a run ends; it is approved if its flow ends with 0. -/
inductive Verdict
  | identity (code : ℤ)
  | device
  | exported (code : ℤ)
  | pending
  | invalid (code : ℤ)
  | peer
  | network (code : ℤ)
  | flow (result : ℤ)
  deriving DecidableEq, Repr

/-- The part of a run after the identity, with the configuration that it has loaded, if it has. -/
structure Configured (K H I : Type) where
  verdict : Verdict
  program : Program
  files : FileSystem Path
  config : Option Config
  notes : List (Note K H I)
  ops : Ops

/-- A run with the identity that it has loaded, if it has. -/
structure Ran (K H I : Type) extends Configured K H I where
  identity : Option Key
  created : Bool

def publicKeyPath : Path := .other "wg-public.key"
def configPath : Path := .other "wg-peer.conf"

def newline : UInt8 := 10
def encodedSize : ℕ := 44

def exportPublicKey (lib : Library K H R I) (fs : FileSystem Path) (publicKey : Key)
    (o : KeyFile.Outcomes) : ℤ × FileSystem Path :=
  match lib.encode publicKey with
  | none => (-1, fs)
  | some encoded =>
    if encoded.length ≠ encodedSize then (-1, fs)
    else writeExactFile fs publicKeyPath (cstr encoded 0 ++ [newline]) o

def templateText : List UInt8 :=
  ascii ("# Tailscale Vita WG Flow Probe 0.4.0\n" ++
    "# Preencha com a chave publica e o IPv4 LAN da VM.\n" ++
    "peer_public_key=\n" ++
    "endpoint_ip=\n" ++
    "endpoint_port=51820\n").toList

/-- Only a file that is not there is created. -/
def createConfigTemplate (fs : FileSystem Path) (o : KeyFile.Outcomes) : ℤ × FileSystem Path :=
  if (fs configPath).isSome then (o.openCode, fs) else writeExactFile fs configPath templateText o

def configFile (fs : FileSystem Path) (o : ConfigOutcomes) : File :=
  match if o.opens then fs configPath else none with
  | none => .openFailed o.openCode
  | some contents =>
    match o.read with
    | .error code => .readFailed code
    | .ok n => .contents (contents.take n)

/-- The configuration, and the files with the template, if there was none. -/
def loadConfig (lib : Library K H R I) (fs : FileSystem Path) (o : ConfigOutcomes) :
    Option (Except ℤ Config × FileSystem Path) :=
  let created := createConfigTemplate fs o.template
  let files :=
    match configFile fs o with
    | .openFailed _ => created.2
    | _ => fs
  (loadPeerConfig (probeCodes created.1) lib.decode o.uninitialised (configFile fs o)).map
    fun loaded => (loaded, files)

/-- The session, if the network is up. -/
def runSession (lib : Library K H R I) (config : Config) (peer : Peer K H) (result : ℤ)
    (o : RunOutcomes R) : Option (Verdict × List (Note K H I)) :=
  if result < 0 then some (.network result, [])
  else (sendHandshakeAndIpProbe lib.wireguard config peer o.session).map fun session =>
    (.flow session.result, session.notes)

/-- The part of `run_probe` with the network. -/
def runNetwork (lib : Library K H R I) (s : Program) (fs : FileSystem Path) (config : Config)
    (peer : Peer K H) (o : RunOutcomes R) : Option (Configured K H I) :=
  let network := initializeNetwork s o.network
  (runSession lib config peer network.1 o).map fun session =>
    let cleaned := cleanupNetwork network.2.1
    let closed := closeLog cleaned.1
    ⟨session.1, closed.1, fs, some config, session.2,
      network.2.2 ++ (opsOf session.2 ++ (cleaned.2 ++ closed.2))⟩

/-- The part of `run_probe` after the identity and its public key. -/
def runConfigured (lib : Library K H R I) (s : Program) (fs : FileSystem Path) (key : Key)
    (o : RunOutcomes R) : Option (Configured K H I) :=
  let closed := closeLog s
  match loadConfig lib fs o.config with
  | none => none
  | some (.error code, files) =>
    some ⟨if code = 1 then .pending else .invalid code, closed.1, files, none, [], closed.2⟩
  | some (.ok config, files) =>
    match lib.peerInit key config.publicKey with
    | none => some ⟨.peer, closed.1, files, some config, [], closed.2⟩
    | some peer => runNetwork lib s files config peer o

def runProbe (lib : Library K H R I) (s : Program) (fs : FileSystem Path) (o : RunOutcomes R) :
    Option (Ran K H I) :=
  let reset := openLog s o.log
  let loaded := loadOrCreatePrivateKey fs (.replicate 32 0) o.key
  if loaded.result < 0 then
    some ⟨⟨.identity loaded.result, reset.1, loaded.files, none, [], reset.2⟩, none, false⟩
  else
    let key := loaded.privateKey
    match lib.deviceInit key with
    | none => some ⟨⟨.device, reset.1, loaded.files, none, [], reset.2⟩, some key, loaded.created⟩
    | some publicKey =>
      let exported := exportPublicKey lib loaded.files publicKey o.exported
      if exported.1 < 0 then
        some ⟨⟨.exported exported.1, reset.1, exported.2, none, [], reset.2⟩, some key,
          loaded.created⟩
      else (runConfigured lib reset.1 exported.2 key o).map fun r =>
        ⟨{ r with ops := reset.2 ++ r.ops }, some key, loaded.created⟩

def sceCtrlStart : UInt32 := 0x8
def sceCtrlCross : UInt32 := 0x4000

/-- The program with its runs, and whether it has ended. -/
structure Main (K H I : Type) where
  ended : Bool
  program : Program
  files : FileSystem Path
  runs : List (Ran K H I)
  ops : Ops

def Main.after (ran : Ran K H I) (rest : Main K H I) : Main K H I :=
  { rest with runs := ran :: rest.runs, ops := ran.ops ++ rest.ops }

def mainLoop (lib : Library K H R I) (s : Program) (fs : FileSystem Path) (previous : UInt32) :
    List (UInt32 × RunOutcomes R) → Option (Main K H I)
  | [] => some ⟨false, s, fs, [], []⟩
  | (buttons, o) :: samples =>
    let pressed := buttons &&& ~~~previous
    let start := pressed &&& sceCtrlStart ≠ 0
    if pressed &&& sceCtrlCross ≠ 0 then
      match runProbe lib s fs o with
      | none => none
      | some ran =>
        if start then some (Main.after ran ⟨true, ran.program, ran.files, [], []⟩)
        else (mainLoop lib ran.program ran.files buttons samples).map (Main.after ran)
    else if start then some ⟨true, s, fs, [], []⟩
    else mainLoop lib s fs buttons samples

structure MainOutcomes (R : Type) where
  vita2dInit : ℤ
  font : Bool
  run : RunOutcomes R

/-- The program once the screen is up. -/
def shown : Program := { Program.start with vita2d := true, font := true }

def finish (m : Main K H I) : Main K H I :=
  if !m.ended then m
  else
    let closed := closeLog m.program
    let cleaned := cleanupNetwork closed.1
    { m with
      program := { cleaned.1 with vita2d := false, font := false }
      ops := m.ops ++ (closed.2 ++ (cleaned.2 ++ [.release .font, .release .vita2d])) }

def main (lib : Library K H R I) (fs : FileSystem Path) (o : MainOutcomes R)
    (samples : List (UInt32 × RunOutcomes R)) : Option (Main K H I) :=
  if o.vita2dInit < 0 then some ⟨true, .start, fs, [], []⟩
  else if !o.font then some ⟨true, .start, fs, [], [.acquire .vita2d, .release .vita2d]⟩
  else
    match runProbe lib shown fs o.run with
    | none => none
    | some ran => (mainLoop lib ran.program ran.files 0 samples).map fun loop =>
      let m := finish (Main.after ran loop)
      { m with ops := [.acquire .vita2d, .acquire .font] ++ m.ops }

/-- Runs one after another, each with the program and the files that the one before has left. -/
inductive Runs (lib : Library K H R I) : Program → FileSystem Path → List (RunOutcomes R) →
    List (Ran K H I) → Program → FileSystem Path → Prop
  | nil {s : Program} {fs : FileSystem Path} : Runs lib s fs [] [] s fs
  | cons {s s' : Program} {fs fs' : FileSystem Path} {o : RunOutcomes R} {ran : Ran K H I}
      {os : List (RunOutcomes R)} {runs : List (Ran K H I)} :
    runProbe lib s fs o = some ran → Runs lib ran.program ran.files os runs s' fs' →
      Runs lib s fs (o :: os) (ran :: runs) s' fs'

section Loop
variable {lib : Library K H R I} {s : Program} {fs : FileSystem Path}

lemma Runs.mem {os : List (RunOutcomes R)} {runs : List (Ran K H I)} {s' : Program}
    {fs' : FileSystem Path} (h : Runs lib s fs os runs s' fs') {ran : Ran K H I}
    (hran : ran ∈ runs) : ∃ s₀ fs₀, ∃ o ∈ os, runProbe lib s₀ fs₀ o = some ran := by
  induction h with
  | nil => cases hran
  | @cons s s' fs fs' o first os runs hrun _ ih =>
    rcases List.mem_cons.mp hran with rfl | hmem
    · exact ⟨s, fs, o, List.mem_cons_self, hrun⟩
    · obtain ⟨s₀, fs₀, o₀, ho₀, hrun₀⟩ := ih hmem
      exact ⟨s₀, fs₀, o₀, List.mem_cons_of_mem _ ho₀, hrun₀⟩

/-- The loop runs the probe for some of the samples. -/
theorem mainLoop_runs {previous : UInt32} {samples : List (UInt32 × RunOutcomes R)}
    {m : Main K H I} (h : mainLoop lib s fs previous samples = some m) :
    ∃ os, os.Sublist (samples.map Prod.snd) ∧ Runs lib s fs os m.runs m.program m.files ∧
      m.ops = m.runs.flatMap fun ran => ran.ops := by
  induction samples generalizing s fs previous m with
  | nil =>
    cases h
    exact ⟨[], List.nil_sublist _, .nil, rfl⟩
  | cons sample samples ih =>
    obtain ⟨buttons, o⟩ := sample
    simp only [mainLoop] at h
    by_cases hcross : (buttons &&& ~~~previous) &&& sceCtrlCross ≠ 0
    · rw [if_pos hcross] at h
      cases hrun : runProbe lib s fs o with
      | none => simp [hrun] at h
      | some ran =>
        simp only [hrun] at h
        by_cases hstart : (buttons &&& ~~~previous) &&& sceCtrlStart ≠ 0
        · rw [if_pos hstart] at h
          cases h
          exact ⟨[o], by simp, .cons hrun .nil, by simp [Main.after]⟩
        · rw [if_neg hstart] at h
          obtain ⟨rest, hrest, rfl⟩ := Option.map_eq_some_iff.mp h
          obtain ⟨os, hos, hruns, hops⟩ := ih hrest
          exact ⟨o :: os, hos.cons_cons o, .cons hrun hruns, by simp [Main.after, hops]⟩
    · rw [if_neg hcross] at h
      by_cases hstart : (buttons &&& ~~~previous) &&& sceCtrlStart ≠ 0
      · rw [if_pos hstart] at h
        cases h
        exact ⟨[], List.nil_sublist _, .nil, rfl⟩
      · rw [if_neg hstart] at h
        obtain ⟨os, hos, hruns⟩ := ih h
        exact ⟨os, hos.cons o, hruns⟩

/-- The program ends before its screen is up, or it runs the probe for the start and for some of
the samples. -/
theorem main_runs {o : MainOutcomes R} {samples : List (UInt32 × RunOutcomes R)} {m : Main K H I}
    (h : main lib fs o samples = some m) :
    (m.runs = [] ∧ m.files = fs ∧ m.program = .start ∧
      (m.ops = [] ∨ m.ops = [.acquire .vita2d, .release .vita2d])) ∨
    ∃ os loop, os.Sublist (samples.map Prod.snd) ∧
      Runs lib shown fs (o.run :: os) loop.runs loop.program loop.files ∧
      loop.ops = (loop.runs.flatMap fun ran => ran.ops) ∧ m = { finish loop with
        ops := [.acquire .vita2d, .acquire .font] ++ (finish loop).ops } := by
  unfold main at h
  split_ifs at h
  · cases h
    exact Or.inl ⟨rfl, rfl, rfl, Or.inl rfl⟩
  · cases h
    exact Or.inl ⟨rfl, rfl, rfl, Or.inr rfl⟩
  cases hrun : runProbe lib shown fs o.run with
  | none => simp [hrun] at h
  | some ran =>
    simp only [hrun] at h
    obtain ⟨loop, hloop, rfl⟩ := Option.map_eq_some_iff.mp h
    obtain ⟨os, hos, hruns, hops⟩ := mainLoop_runs hloop
    exact Or.inr ⟨os, Main.after ran loop, hos, .cons hrun hruns, by simp [Main.after, hops], rfl⟩

lemma finish_runs (m : Main K H I) : (finish m).runs = m.runs := by
  unfold finish
  split_ifs <;> rfl

lemma finish_files (m : Main K H I) : (finish m).files = m.files := by
  unfold finish
  split_ifs <;> rfl

/-- Every run of the program is one of `run_probe`. -/
lemma main_mem {o : MainOutcomes R} {samples : List (UInt32 × RunOutcomes R)} {p : Main K H I}
    (h : main lib fs o samples = some p) {ran : Ran K H I} (hran : ran ∈ p.runs) :
    ∃ s' fs', ∃ o' ∈ o.run :: samples.map Prod.snd, runProbe lib s' fs' o' = some ran := by
  rcases main_runs h with ⟨hnone, -⟩ | ⟨os, loop, hos, hruns, -, rfl⟩
  · rw [hnone] at hran
    cases hran
  · obtain ⟨s', fs', o', ho', hrun⟩ := hruns.mem (finish_runs loop ▸ hran)
    exact ⟨s', fs', o', (hos.cons_cons o.run).subset ho', hrun⟩

end Loop

section Sample
open PeerConfig (assignmentLine decodeBase64 endpointIp endpointPort peerPublicKey)

def sampleLibrary : Library SymbolicKey SymbolicHandshake (Option UInt32) UInt32 where
  wireguard := symbolic
  encode := fun key => some (Base64.encode key.toList)
  decode := decodeBase64
  deviceInit := some
  peerInit := fun _ _ => some (initialPeer none (0, true))

/-- Every call succeeds, and a file that is there is read as a whole. -/
def sampleFileOutcomes : KeyFile.Outcomes where
  opens := true
  openCode := ⟨-2, by decide⟩
  read := .ok 512
  stats := true
  random := .ok (.replicate 32 7)
  processTime := 5
  openTemporary := none
  write := .wrote 512
  sync := none
  rename := none
  remove := none

def sampleConfig : List UInt8 :=
  assignmentLine peerPublicKey (Base64.encode (List.replicate 32 9)) ++
    (assignmentLine endpointIp (ascii ['1', '.', '0', '.', '0', '.', '0']) ++
      assignmentLine endpointPort (ascii ['5', '1', '2']))

def sampleSession (socket : ℤ) : SessionOutcomes (Option UInt32) where
  stateResult := 0
  state := TunnelLaunch.sceNetctlStateConnected
  socket := socket
  draw := some 7
  sent := 148
  received := .ok (⟨1, 2⟩, symbolicResponse 7)
  echo := sampleOutcomes

def sampleRun (socket : ℤ) : RunOutcomes (Option UInt32) where
  log := 4
  key := sampleFileOutcomes
  exported := sampleFileOutcomes
  config := ⟨true, ⟨-2, by decide⟩, .ok 511, sampleFileOutcomes, []⟩
  network := ⟨0, true, 0, 0⟩
  session := sampleSession socket

/-- The cross is pressed, and after it the start button. -/
def samplePresses : List (UInt32 × RunOutcomes (Option UInt32)) :=
  [(sceCtrlCross, sampleRun (-1)), (sceCtrlStart, sampleRun 3)]

def sampleFiles : FileSystem Path := fun path => if path = configPath then some sampleConfig else none

/-- A run that creates the identity and is approved, and one that gets no socket. -/
lemma main_sample : ∃ p, main sampleLibrary sampleFiles ⟨0, true, sampleRun 3⟩ samplePresses =
    some p ∧ p.ended = true ∧ (p.runs.filter fun ran => ran.created).length = 1 ∧
      ∃ ran ∈ p.runs, ran.verdict = .flow 0 := by
  have hview : (main sampleLibrary sampleFiles ⟨0, true, sampleRun 3⟩ samplePresses).map
      (fun p => (p.ended, (p.runs.filter fun ran => ran.created).length,
        p.runs.map fun ran => ran.verdict)) = some (true, 1, [.flow 0, .flow (-1)]) := by
    decide +kernel
  obtain ⟨p, hp, hview⟩ := Option.map_eq_some_iff.mp hview
  simp only [Prod.mk.injEq] at hview
  obtain ⟨hended, hcreated, hverdicts⟩ := hview
  have hmem : Verdict.flow 0 ∈ p.runs.map fun ran => ran.verdict := by simp [hverdicts]
  exact ⟨p, hp, hended, hcreated, List.mem_map.mp hmem⟩

end Sample

end MoonlightVita.FlowProbe
