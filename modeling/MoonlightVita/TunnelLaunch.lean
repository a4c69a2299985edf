import MoonlightVita.Fallible
import MoonlightVita.Files
import MoonlightVita.PeerConfigSettings
import MoonlightVita.SampledLoop
import MoonlightVita.TunnelMachine

/-!
# Starting the tunnel: `start_tunnel`

The outcomes of the calls are arguments: the network state, the two files, the library,
the socket, the datagrams of the first handshake, lwIP and the thread. The exits report
which sockets were opened and closed and what is left in the buffer of the private key.
-/
namespace MoonlightVita.TunnelLaunch
open Files LittleEndian SampledLoop Tunnel
open PeerConfig (Config Decode loadPeerConfig tunnelCodes)
open Ipv4Literal (tsvitaParseIpv4Literal)

abbrev PrivateKey : Type := Vector UInt8 32

def cryptoZero (_ : PrivateKey) : PrivateKey := .replicate 32 0

/-- A file as `sceIoOpen` and `sceIoRead` find it. -/
inductive Stored
  | openFailed (code : ErrorCode)
  | readFailed (code : ErrorCode)
  | contents (bytes : List UInt8)

def Stored.file : Stored → PeerConfig.File
  | .openFailed code => .openFailed code
  | .readFailed code => .readFailed code
  | .contents bytes => .contents bytes

def storedSize : ℕ := 33

/-- The result and the buffer of the caller. -/
def loadPrivateKey (key : PrivateKey) : Stored → ℤ × PrivateKey
  | .openFailed code => (code, key)
  | .readFailed _ => (-2, key)
  | .contents bytes =>
    if h : (bytes.take storedSize).length = 32 then
      (0, ⟨(bytes.take storedSize).toArray, by simpa using h⟩)
    else (-2, key)

/-- A turn of the wait for the answer: the clock, what is received and the clock behind it. -/
structure Sample where
  now : UInt64
  received : Received
  processTime : UInt64

structure Outcomes (K H R : Type) where
  inetGetState : ℤ
  networkState : ℤ
  privateKey : Stored
  config : Stored
  deviceInit : Bool
  peerAlloc : Bool
  peerInit : Bool
  peer : Peer K H
  socket : ℤ
  draw : R
  sent : ℤ
  processTime : UInt64
  samples : List Sample
  netifAdd : ℤ
  netifSetDefault : ℤ
  netifSetUp : ℤ
  netifSetLinkUp : ℤ
  pthreadCreate : ℤ

/-- The fields of `g_tunnel` that the start sets, with those of the running tunnel. -/
structure OuterTunnel (K H : Type) where
  context : TunnelContext K H
  outerSocket : ℤ
  running : Bool
  receiveThreadStarted : Bool

/-- `privateKey` is the local buffer, if the function has come to it, and `loaded` says whether a
key has been read into it. -/
structure Returned (K H : Type) where
  result : ℤ
  g : OuterTunnel K H
  opened : List ℤ
  closed : List ℤ
  privateKey : Option PrivateKey
  loaded : Bool
  lastError : String

variable {K H R I : Type}

def sceNetctlStateConnected : ℤ := 3

def sceNetHtons (port : UInt16) : UInt16 := port <<< 8 ||| port >>> 8

/-- `netifapi_netif_add` and the calls behind it, each of which is made if none failed. -/
def initializeLwip (o : Outcomes K H R) : ℤ :=
  if o.netifAdd ≠ 0 ∨ o.netifSetDefault ≠ 0 ∨ o.netifSetUp ≠ 0 ∨ o.netifSetLinkUp ≠ 0 then -50
  else 0

def handshakeTurn (lib : Wireguard K H R I) (deadline : UInt64) (g : TunnelContext K H)
    (sample : Sample) : TunnelContext K H ⊕ Option (ℤ × TunnelContext K H) :=
  if sample.now < deadline then
    match sample.received with
    | none => .inl g
    | some (source, datagram) =>
      let incoming := datagram.take awaitCapacity
      if 0 < incoming.length ∧ sourceIsPeer g source then
        match processHandshakeResponseLocked lib g incoming sample.processTime with
        | none => .inr none
        | some r => if r.result = 0 then .inr (some (0, r.g)) else .inl r.g
      else .inl g
  else .inr (some (-51, g))

/-- No result while the samples do not reach the end of the wait. -/
def performInitialHandshake (lib : Wireguard K H R I) (g : TunnelContext K H)
    (o : Outcomes K H R) : Option (ℤ × TunnelContext K H) :=
  match sendHandshakeLocked lib g o.draw o.sent with
  | none => none
  | some r =>
    if r.result < 0 then some (r.result, r.g)
    else
      (loop (handshakeTurn lib (o.processTime + tsvitaHandshakeTimeoutUs)) r.g o.samples).join

/-- `start_tunnel` from `sceNetSocket` on. -/
def startTunnelSocket (lib : Wireguard K H R I) (g : OuterTunnel K H) (privateKey : PrivateKey)
    (o : Outcomes K H R) : Option (Returned K H) :=
  let outerSocket := o.socket
  let g := { g with outerSocket := outerSocket }
  if outerSocket < 0 then
    some ⟨outerSocket, g, [], [], some privateKey, true,
      s!"socket WireGuard falhou: {outerSocket}"⟩
  else
    match performInitialHandshake lib g.context o with
    | none => none
    | some (result, context) =>
      let g := { g with context := context }
      if result < 0 then
        some ⟨result, { g with outerSocket := -1 }, [o.socket], [g.outerSocket], some privateKey,
          true, s!"handshake WireGuard falhou: {result}"⟩
      else
        let result := initializeLwip o
        if result < 0 then
          some ⟨result, { g with outerSocket := -1 }, [o.socket], [g.outerSocket], some privateKey,
            true, s!"lwIP socket mode falhou: {result}"⟩
        else
          let g := { g with running := true }
          let result := o.pthreadCreate
          if result ≠ 0 then
            some ⟨-64, { g with running := false }, [o.socket], [], some privateKey, true,
              s!"thread WireGuard falhou: {result}"⟩
          else
            some ⟨0, { g with receiveThreadStarted := true }, [o.socket], [], some privateKey, true,
              "online"⟩

/-- The address that packets go to, as the socket calls have it. -/
def endpointOf (config : Config) : Option Endpoint :=
  match tsvitaParseIpv4Literal (some config.endpointIp) (some [0, 0, 0, 0]) with
  | (true, some octets) =>
    some ⟨UInt32.ofNat (ofBytes octets), sceNetHtons config.endpointPort⟩
  | _ => none

/-- `g_tunnel` after `memset`. -/
def OuterTunnel.zero : OuterTunnel K H := ⟨⟨⟨0, 0⟩, none, 0, 0, 0, 0, 0, 0, 0, 0⟩, 0, false, false⟩

/-- `start_tunnel` once both files are loaded. -/
def startTunnelPeer (lib : Wireguard K H R I) (config : Config) (privateKey : PrivateKey)
    (o : Outcomes K H R) : Option (Returned K H) :=
  let g : OuterTunnel K H := { OuterTunnel.zero with outerSocket := -1 }
  if !o.deviceInit then
    some ⟨-61, g, [], [], some (cryptoZero privateKey), true, "identidade WireGuard rejeitada"⟩
  else
    let privateKey := cryptoZero privateKey
    if !o.peerAlloc then
      some ⟨-62, g, [], [], some privateKey, true, "peer WireGuard rejeitado"⟩
    else
      let g := { g with context := { g.context with peer := some o.peer } }
      if !o.peerInit then
        some ⟨-62, g, [], [], some privateKey, true, "peer WireGuard rejeitado"⟩
      else
        match endpointOf config with
        | none => some ⟨-63, g, [], [], some privateKey, true, "endpoint WireGuard invalido"⟩
        | some endpoint =>
          startTunnelSocket lib { g with context := { g.context with endpoint := endpoint } }
            privateKey o

def startTunnel (lib : Wireguard K H R I) (decode : Decode) (uninitialised : List UInt8)
    (g : OuterTunnel K H) (o : Outcomes K H R) : Option (Returned K H) :=
  let networkState := o.networkState
  let result := o.inetGetState
  if result < 0 ∨ networkState ≠ sceNetctlStateConnected then
    some ⟨-60, g, [], [], none, false,
      s!"Wi-Fi indisponivel: state={networkState} result={result}"⟩
  else
    match loadPrivateKey (.replicate 32 0) o.privateKey with
    | (result, privateKey) =>
      if result < 0 then
        some ⟨result, g, [], [], some privateKey, false,
          s!"wg-private.key ausente/invalida: {result}"⟩
      else
        match loadPeerConfig tunnelCodes decode uninitialised o.config.file with
        | none => none
        | some (.error result) =>
          some ⟨result, g, [], [], some (cryptoZero privateKey), true,
            s!"wg-peer.conf invalido: {result}"⟩
        | some (.ok config) => startTunnelPeer lib config privateKey o

/-- A start that fails leaves no socket behind, and no start leaves the key in its buffer. -/
structure Released (r : Returned K H) : Prop where
  closed : r.result ≠ 0 → ∀ socket ∈ r.opened, socket ∈ r.closed
  negative : r.result ≠ 0 → r.g.outerSocket < 0
  zeroed : r.loaded → r.privateKey = some (.replicate 32 0)

/-- `g_tunnel` as the handshake finds it. -/
def peerContext (peer : Peer K H) (endpoint : Endpoint) : TunnelContext K H :=
  ⟨endpoint, some peer, 0, 0, 0, 0, 0, 0, 0, 0⟩

/-- The start comes from the socket to `pthread_create`. -/
structure Connects (lib : Wireguard K H R I) (context : TunnelContext K H) (o : Outcomes K H R) :
    Prop where
  socket : 0 ≤ o.socket
  handshake : ∃ result context', performInitialHandshake lib context o = some (result, context') ∧
    0 ≤ result
  lwip : initializeLwip o = 0

/-- The start comes from a configuration to `pthread_create`. -/
structure Launches (lib : Wireguard K H R I) (config : Config) (o : Outcomes K H R) : Prop where
  device : o.deviceInit
  alloc : o.peerAlloc
  init : o.peerInit
  connects : ∃ endpoint, endpointOf config = some endpoint ∧
    Connects lib (peerContext o.peer endpoint) o

/-- The network is there, and both files are loaded. -/
structure Loads (decode : Decode) (uninitialised : List UInt8) (o : Outcomes K H R)
    (config : Config) : Prop where
  connected : 0 ≤ o.inetGetState ∧ o.networkState = sceNetctlStateConnected
  key : 0 ≤ (loadPrivateKey (.replicate 32 0) o.privateKey).1
  config : loadPeerConfig tunnelCodes decode uninitialised o.config.file = some (.ok config)

/-- The thread can be created once the start has come to it, and a start that fails before it
resets the socket finds it negative. -/
structure Clean (lib : Wireguard K H R I) (decode : Decode) (uninitialised : List UInt8)
    (g : OuterTunnel K H) (o : Outcomes K H R) : Prop where
  early : (∀ config, ¬ Loads decode uninitialised o config) → g.outerSocket < 0
  thread : ∀ config, Loads decode uninitialised o config → Launches lib config o →
    o.pthreadCreate = 0

/-- How the start ends behind the reset of `g_tunnel`: before `pthread_create` is reached, because
no thread can be created, or with the tunnel online. -/
inductive Ended (o : Outcomes K H R) (reaches : Prop) (online : TunnelContext K H → Prop)
    (r : Returned K H) : Prop
  | stopped (unreached : ¬ reaches) (result : r.result ≠ 0) (closed : r.opened ⊆ r.closed)
      (socket : r.g.outerSocket < 0)
  | threadless (reached : reaches) (thread : o.pthreadCreate ≠ 0) (result : r.result ≠ 0)
      (socket : 0 ≤ r.g.outerSocket)
  | online (thread : o.pthreadCreate = 0) (result : r.result = 0) (context : online r.g.context)

section Stages
variable {lib : Wireguard K H R I} {g : OuterTunnel K H} {o : Outcomes K H R} {r : Returned K H}

lemma startTunnelSocket_privateKey {privateKey : PrivateKey}
    (h : startTunnelSocket lib g privateKey o = some r) : r.privateKey = some privateKey := by
  simp only [startTunnelSocket] at h
  split at h
  · cases h
    rfl
  split at h
  · cases h
  · split_ifs at h <;> cases h <;> rfl

lemma startTunnelSocket_ended {privateKey : PrivateKey}
    (h : startTunnelSocket lib g privateKey o = some r) :
    Ended o (Connects lib g.context o) (fun context => ∃ result,
      performInitialHandshake lib g.context o = some (result, context) ∧ 0 ≤ result) r := by
  simp only [startTunnelSocket] at h
  by_cases hsocket : o.socket < 0
  · rw [if_pos hsocket, Option.some.injEq] at h
    subst h
    exact .stopped (fun hc => absurd hc.socket (not_le.mpr hsocket)) hsocket.ne
      (List.Subset.refl _) hsocket
  rw [if_neg hsocket] at h
  cases hhandshake : performInitialHandshake lib g.context o with
  | none => simp [hhandshake] at h
  | some q =>
    obtain ⟨result, context⟩ := q
    simp only [hhandshake] at h
    by_cases hresult : result < 0
    · rw [if_pos hresult, Option.some.injEq] at h
      subst h
      refine .stopped (fun hc => ?_) hresult.ne (List.Subset.refl _) (by norm_num)
      obtain ⟨result', context', hreturn, hle⟩ := hc.handshake
      rw [hhandshake, Option.some.injEq, Prod.mk.injEq] at hreturn
      omega
    rw [if_neg hresult] at h
    by_cases hlwip : initializeLwip o < 0
    · rw [if_pos hlwip, Option.some.injEq] at h
      subst h
      exact .stopped (fun hc => absurd hc.lwip hlwip.ne) hlwip.ne (List.Subset.refl _)
        (by norm_num)
    rw [if_neg hlwip] at h
    have hreturned : ∃ result', some (result, context) = some (result', context) ∧ 0 ≤ result' :=
      ⟨result, rfl, not_lt.mp hresult⟩
    by_cases hthread : o.pthreadCreate ≠ 0
    · rw [if_pos hthread, Option.some.injEq] at h
      subst h
      refine .threadless ⟨not_lt.mp hsocket, ⟨result, context, hhandshake, not_lt.mp hresult⟩, ?_⟩
        hthread (by norm_num) (not_lt.mp hsocket)
      unfold initializeLwip at hlwip ⊢
      split_ifs at hlwip ⊢
      · exact absurd (by norm_num) hlwip
      · rfl
    · rw [if_neg hthread, Option.some.injEq] at h
      subst h
      exact .online (not_not.mp hthread) rfl hreturned

/-- Behind the initialisation of the device the buffer of the key holds zeros. -/
lemma startTunnelPeer_privateKey {config : Config} {privateKey : PrivateKey}
    (h : startTunnelPeer lib config privateKey o = some r) :
    r.privateKey = some (.replicate 32 0) := by
  simp only [startTunnelPeer] at h
  split_ifs at h
  · cases h
    rfl
  · cases h
    rfl
  · cases h
    rfl
  · split at h
    · cases h
      rfl
    · exact startTunnelSocket_privateKey h

lemma startTunnelPeer_ended {config : Config} {privateKey : PrivateKey}
    (h : startTunnelPeer lib config privateKey o = some r) :
    Ended o (Launches lib config o) (fun context => ∃ endpoint, endpointOf config = some endpoint ∧
      ∃ result, performInitialHandshake lib (peerContext o.peer endpoint) o =
        some (result, context) ∧ 0 ≤ result) r := by
  simp only [startTunnelPeer] at h
  by_cases hdevice : o.deviceInit
  swap
  · rw [if_pos (by simpa using hdevice), Option.some.injEq] at h
    subst h
    exact .stopped (fun hl => hdevice hl.device) (by norm_num) (List.Subset.refl _) (by norm_num)
  rw [if_neg (by simpa using hdevice)] at h
  by_cases halloc : o.peerAlloc
  swap
  · rw [if_pos (by simpa using halloc), Option.some.injEq] at h
    subst h
    exact .stopped (fun hl => halloc hl.alloc) (by norm_num) (List.Subset.refl _) (by norm_num)
  rw [if_neg (by simpa using halloc)] at h
  by_cases hinit : o.peerInit
  swap
  · rw [if_pos (by simpa using hinit), Option.some.injEq] at h
    subst h
    exact .stopped (fun hl => hinit hl.init) (by norm_num) (List.Subset.refl _) (by norm_num)
  rw [if_neg (by simpa using hinit)] at h
  cases hendpoint : endpointOf config with
  | none =>
    simp only [hendpoint, Option.some.injEq] at h
    subst h
    refine .stopped (fun hl => ?_) (by norm_num) (List.Subset.refl _) (by norm_num)
    obtain ⟨endpoint, hsome, -⟩ := hl.connects
    rw [hendpoint] at hsome
    cases hsome
  | some endpoint =>
    simp only [hendpoint] at h
    cases startTunnelSocket_ended h with
    | stopped hunreached hresult hclosed hsocket =>
      refine .stopped (fun hl => ?_) hresult hclosed hsocket
      obtain ⟨endpoint', hsome, hconnects⟩ := hl.connects
      rw [hendpoint, Option.some.injEq] at hsome
      subst hsome
      exact hunreached hconnects
    | threadless hreached hthread hresult hsocket =>
      exact .threadless ⟨hdevice, halloc, hinit, endpoint, hendpoint, hreached⟩ hthread hresult
        hsocket
    | online hthread hresult hcontext => exact .online hthread hresult ⟨endpoint, rfl, hcontext⟩

end Stages

section Handshake
open Fallible
variable {lib : Wireguard K H R I} {g : TunnelContext K H} {o : Outcomes K H R}

lemma sendHandshakeLocked_peer (g : TunnelContext K H) (draw : R) (sent : ℤ) :
    Ensures (fun r => r.g.peer.isSome) (sendHandshakeLocked lib g draw sent) := by
  unfold sendHandshakeLocked
  cases g.peer with
  | none => exact ensures_none
  | some peer =>
    dsimp only
    split
    · exact ensures_some rfl
    · exact ensures_ite (ensures_some rfl) (ensures_some rfl)

lemma processHandshakeResponseLocked_peer (hpeer : g.peer.isSome) (packet : Bytes)
    (processTime : UInt64) : Ensures (fun r => r.g.peer.isSome)
      (processHandshakeResponseLocked lib g packet processTime) := by
  unfold processHandshakeResponseLocked
  refine ensures_ite (ensures_some hpeer) (ensures_bind fun receiver => ?_)
  refine ensures_ite (ensures_some hpeer) ?_
  refine ensures_bind fun covered => ensures_bind fun mac1 => ?_
  refine ensures_ite (ensures_some hpeer) (ensures_bind fun peer => ?_)
  split
  · exact ensures_some rfl
  · exact ensures_some rfl

/-- A turn of the wait keeps the peer, and does not leave a buffer. -/
lemma handshakeTurn_peer (deadline : UInt64) (g : TunnelContext K H) (sample : Sample)
    (hpeer : g.peer.isSome) :
    Sum.elim (fun g => g.peer.isSome = true) (fun r => r.isSome = true)
      (handshakeTurn lib deadline g sample) := by
  unfold handshakeTurn
  split
  · split
    · exact hpeer
    · dsimp only
      split
      · rename_i source datagram _ _
        obtain ⟨r, hr⟩ : ∃ r, processHandshakeResponseLocked lib g (datagram.take awaitCapacity)
            sample.processTime = some r :=
          Option.isSome_iff_exists.mp (processHandshakeResponseLocked_isSome hpeer _ _)
        simp only [hr]
        split
        · rfl
        · exact processHandshakeResponseLocked_peer hpeer _ _ r hr
      · exact hpeer
  · rfl

/-- The handshake returns once the clock has passed the deadline. -/
lemma performInitialHandshake_isSome (hpeer : g.peer.isSome)
    (hpast : ∃ sample ∈ o.samples, o.processTime + tsvitaHandshakeTimeoutUs ≤ sample.now) :
    (performInitialHandshake lib g o).isSome := by
  obtain ⟨r, hr⟩ : ∃ r, sendHandshakeLocked lib g o.draw o.sent = some r :=
    Option.isSome_iff_exists.mp (sendHandshakeLocked_isSome hpeer _ _)
  simp only [performInitialHandshake, hr]
  by_cases hresult : r.result < 0
  · rw [if_pos hresult]
    rfl
  rw [if_neg hresult]
  obtain ⟨sample, hsample, hdeadline⟩ := hpast
  have hreturns : ∀ g, (handshakeTurn lib (o.processTime + tsvitaHandshakeTimeoutUs) g
      sample).isRight := by
    intro g
    rw [handshakeTurn, if_neg (UInt64.not_lt.mpr hdeadline)]
    rfl
  obtain ⟨q, hq⟩ := Option.isSome_iff_exists.mp (loop_isSome hsample hreturns r.g)
  have hsome := loop_ensures (P := fun g => g.peer.isSome = true) (Q := fun r => r.isSome = true)
    (sendHandshakeLocked_peer g _ _ r hr) (handshakeTurn_peer _) hq
  rw [hq]
  simpa using hsome

end Handshake

section Config
open PeerConfig

lemma assign_error_neg {s : Settings} {name value : List UInt8} {code : ℤ}
    (h : assign s name value = .error code) : code < 0 := by
  unfold assign at h
  split_ifs at h
  split at h
  · cases h
    norm_num
  · split_ifs at h
    cases h
    norm_num

lemma foldlM_applyLine_error_neg {lines : List (List UInt8)} {s : Settings} {code : ℤ}
    (h : lines.foldlM applyLine s = .error code) : code < 0 := by
  induction lines generalizing s with
  | nil => cases h
  | cons line lines ih =>
    rw [List.foldlM_cons] at h
    cases hline : applyLine s line with
    | ok t =>
      rw [hline] at h
      exact ih h
    | error code' =>
      rw [hline] at h
      cases h
      unfold applyLine at hline
      split at hline
      · cases hline
      · cases hline
        norm_num
      · exact assign_error_neg hline

lemma finish_error_neg {decode : Decode} {s : Settings} {code : ℤ}
    (h : finish tunnelCodes decode s = .error code) : code < 0 := by
  unfold finish tunnelCodes at h
  split at h
  · cases h
    norm_num
  split at h
  · cases h
    norm_num
  split at h
  · cases h
    norm_num
  · split at h <;> cases h
    norm_num

lemma loadPeerConfig_isSome (decode : Decode) (uninitialised : List UInt8) (stored : Stored) :
    (loadPeerConfig tunnelCodes decode uninitialised stored.file).isSome := by
  cases stored with
  | openFailed code => rfl
  | readFailed code => rfl
  | contents bytes =>
    rw [Stored.file, loadPeerConfig_contents]
    rfl

/-- The loader of the tunnel fails with negative results only. -/
lemma loadPeerConfig_error_neg {decode : Decode} {uninitialised : List UInt8} {stored : Stored}
    {code : ℤ}
    (h : loadPeerConfig tunnelCodes decode uninitialised stored.file = some (.error code)) :
    code < 0 := by
  cases stored with
  | openFailed code' =>
    cases h
    exact code'.2
  | readFailed code' =>
    cases h
    exact code'.2
  | contents bytes =>
    rw [Stored.file, loadPeerConfig_contents, Option.some.injEq] at h
    unfold parseText at h
    cases hparsed : ((seen bytes).splitOn newline).foldlM applyLine .none with
    | error code' =>
      rw [hparsed] at h
      cases h
      exact foldlM_applyLine_error_neg hparsed
    | ok s =>
      rw [hparsed] at h
      exact finish_error_neg h

end Config

section Start
variable {lib : Wireguard K H R I} {decode : Decode} {uninitialised : List UInt8}
  {g : OuterTunnel K H} {o : Outcomes K H R} {r : Returned K H}

/-- A start ends before it resets `g_tunnel`, or goes on with both files loaded. -/
lemma startTunnel_cases (h : startTunnel lib decode uninitialised g o = some r) :
    (∀ config, ¬ Loads decode uninitialised o config) ∧ r.result ≠ 0 ∧ r.g = g ∧ r.opened = [] ∧
        (r.loaded → r.privateKey = some (.replicate 32 0)) ∨
      ∃ config privateKey, Loads decode uninitialised o config ∧
        startTunnelPeer lib config privateKey o = some r := by
  simp only [startTunnel] at h
  by_cases hnetwork : o.inetGetState < 0 ∨ o.networkState ≠ sceNetctlStateConnected
  · rw [if_pos hnetwork, Option.some.injEq] at h
    subst h
    refine Or.inl ⟨?_, by norm_num, rfl, rfl, by simp⟩
    rintro config ⟨⟨hstate, hconnected⟩, -, -⟩
    rcases hnetwork with hstate' | hconnected'
    · exact absurd hstate (not_le.mpr hstate')
    · exact hconnected' hconnected
  rw [if_neg hnetwork] at h
  push Not at hnetwork
  by_cases hkey : (loadPrivateKey (.replicate 32 0) o.privateKey).1 < 0
  · rw [if_pos hkey, Option.some.injEq] at h
    subst h
    exact Or.inl ⟨fun config hloads => absurd hloads.key (not_le.mpr hkey), hkey.ne, rfl, rfl,
      by simp⟩
  rw [if_neg hkey] at h
  cases hconfig : loadPeerConfig tunnelCodes decode uninitialised o.config.file with
  | none => simp [hconfig] at h
  | some loaded =>
    cases loaded with
    | error code =>
      simp only [hconfig, Option.some.injEq] at h
      subst h
      refine Or.inl ⟨fun config hloads => ?_, (loadPeerConfig_error_neg hconfig).ne, rfl, rfl,
        fun _ => rfl⟩
      have hsame := hconfig.symm.trans hloads.config
      cases hsame
    | ok config =>
      simp only [hconfig] at h
      exact Or.inr ⟨config, _, ⟨hnetwork, not_lt.mp hkey, hconfig⟩, h⟩

/-- However the start ends, a key that was loaded is gone from the buffer. -/
theorem startTunnel_zeroed (h : startTunnel lib decode uninitialised g o = some r)
    (hloaded : r.loaded) : r.privateKey = some (.replicate 32 0) := by
  rcases startTunnel_cases h with ⟨-, -, -, -, hzeroed⟩ | ⟨config, privateKey, -, hpeer⟩
  · exact hzeroed hloaded
  · exact startTunnelPeer_privateKey hpeer

lemma clean_iff_of_loads {config : Config} (h : Loads decode uninitialised o config) :
    Clean lib decode uninitialised g o ↔ (Launches lib config o → o.pthreadCreate = 0) := by
  constructor
  · intro hclean
    exact hclean.thread config h
  · intro hthread
    refine ⟨fun hnone => absurd h (hnone config), fun config' h' => ?_⟩
    have hsame := h.config.symm.trans h'.config
    rw [Option.some.injEq, Except.ok.injEq] at hsame
    rwa [← hsame]

/-- A start that returns has given up what it took exactly if the thread could be created where
the start came to it, and `outer_socket` was negative where the start failed before it. -/
theorem startTunnel_released_iff (h : startTunnel lib decode uninitialised g o = some r) :
    Released r ↔ Clean lib decode uninitialised g o := by
  have hzeroed : r.loaded → r.privateKey = some (.replicate 32 0) := startTunnel_zeroed h
  rcases startTunnel_cases h with ⟨hnone, hresult, hg, hopened, -⟩ |
    ⟨config, privateKey, hloads, hpeer⟩
  · constructor
    · intro hr
      exact ⟨fun _ => hg ▸ hr.negative hresult, fun config hloads => absurd hloads (hnone config)⟩
    · intro hclean
      refine ⟨fun _ socket hmem => ?_, fun _ => ?_, hzeroed⟩
      · rw [hopened] at hmem
        cases hmem
      · rw [hg]
        exact hclean.early hnone
  · rw [clean_iff_of_loads hloads]
    cases startTunnelPeer_ended hpeer with
    | stopped hunreached hresult hclosed hsocket =>
      exact iff_of_true ⟨fun _ _ hmem => hclosed hmem, fun _ => hsocket, hzeroed⟩
        fun hl => absurd hl hunreached
    | threadless hreached hthread hresult hsocket =>
      refine iff_of_false (fun hr => ?_) fun hl => hthread (hl hreached)
      exact absurd (hr.negative hresult) (not_lt.mpr hsocket)
    | online hthread hresult =>
      exact iff_of_true ⟨fun hne => absurd hresult hne, fun hne => absurd hresult hne, hzeroed⟩
        fun _ => hthread

lemma startTunnelSocket_isSome (hpeer : g.context.peer.isSome) (privateKey : PrivateKey)
    (hpast : ∃ sample ∈ o.samples, o.processTime + tsvitaHandshakeTimeoutUs ≤ sample.now) :
    (startTunnelSocket lib g privateKey o).isSome := by
  obtain ⟨q, hq⟩ : ∃ q, performInitialHandshake lib g.context o = some q :=
    Option.isSome_iff_exists.mp (performInitialHandshake_isSome hpeer hpast)
  simp only [startTunnelSocket, hq]
  split_ifs <;> rfl

lemma startTunnelPeer_isSome (config : Config) (privateKey : PrivateKey)
    (hpast : ∃ sample ∈ o.samples, o.processTime + tsvitaHandshakeTimeoutUs ≤ sample.now) :
    (startTunnelPeer lib config privateKey o).isSome := by
  simp only [startTunnelPeer]
  split_ifs
  · rfl
  · rfl
  · rfl
  · cases endpointOf config with
    | none => rfl
    | some endpoint => exact startTunnelSocket_isSome rfl _ hpast

/-- The start returns, whatever the calls do, once the clock has passed the deadline. -/
theorem startTunnel_isSome (lib : Wireguard K H R I) (decode : Decode)
    (uninitialised : List UInt8) (g : OuterTunnel K H)
    (hpast : ∃ sample ∈ o.samples, o.processTime + tsvitaHandshakeTimeoutUs ≤ sample.now) :
    (startTunnel lib decode uninitialised g o).isSome := by
  obtain ⟨loaded, hloaded⟩ := Option.isSome_iff_exists.mp
    (loadPeerConfig_isSome decode uninitialised o.config)
  simp only [startTunnel, hloaded]
  split_ifs
  · rfl
  · rfl
  · cases loaded with
    | error code => rfl
    | ok config => exact startTunnelPeer_isSome config _ hpast

end Start

section Samples
open PeerConfig

/-- The network is up, both files are there and all calls before `pthread_create` succeed. -/
def sampleOutcomes (samples : List Sample) (pthreadCreate : ℤ) :
    Outcomes SymbolicKey SymbolicHandshake (Option UInt32) where
  inetGetState := 0
  networkState := sceNetctlStateConnected
  privateKey := .contents (List.replicate 32 9)
  config := .contents (commentedFile 1)
  deviceInit := true
  peerAlloc := true
  peerInit := true
  peer := ⟨none, fun _ => Keypair.zero (0, true)⟩
  socket := 5
  draw := some 7
  sent := 148
  processTime := 10
  samples := samples
  netifAdd := 0
  netifSetDefault := 0
  netifSetUp := 0
  netifSetLinkUp := 0
  pthreadCreate := pthreadCreate

/-- The peer does not answer, and the socket is closed. -/
theorem startTunnel_released_iff_timeout :
    ∃ r, startTunnel symbolic decodeBase64 [] OuterTunnel.zero
        (sampleOutcomes [⟨20, none, 30⟩, ⟨5000010, none, 5000020⟩] 0) = some r ∧
      r.result = -51 ∧ Clean symbolic decodeBase64 [] OuterTunnel.zero
        (sampleOutcomes [⟨20, none, 30⟩, ⟨5000010, none, 5000020⟩] 0) := by
  have hview : (startTunnel symbolic decodeBase64 [] OuterTunnel.zero
      (sampleOutcomes [⟨20, none, 30⟩, ⟨5000010, none, 5000020⟩] 0)).map
      (fun r => (r.result, r.g.outerSocket, r.opened, r.closed,
        decide (r.privateKey = some (.replicate 32 0)))) = some (-51, -1, [5], [5], true) := by
    decide +kernel
  obtain ⟨r, hr, hview⟩ := Option.map_eq_some_iff.mp hview
  simp only [Prod.mk.injEq] at hview
  obtain ⟨hresult, hsocket, hopened, hclosed, hkey⟩ := hview
  refine ⟨r, hr, hresult, (startTunnel_released_iff hr).mp ⟨?_, ?_, fun _ => of_decide_eq_true hkey⟩⟩
  · intro _
    rw [hopened, hclosed]
    exact fun _ h => h
  · intro _
    rw [hsocket]
    norm_num

/-- The peer answers, but no thread can be created. -/
theorem startTunnel_leaves_socket :
    ∃ r, startTunnel symbolic decodeBase64 [] OuterTunnel.zero
        (sampleOutcomes [⟨20, some (⟨16796938, 27850⟩, symbolicResponse 7), 30⟩] 11) = some r ∧
      r.result = -64 ∧ ¬ Released r := by
  have hview : (startTunnel symbolic decodeBase64 [] OuterTunnel.zero
      (sampleOutcomes [⟨20, some (⟨16796938, 27850⟩, symbolicResponse 7), 30⟩] 11)).map
      (fun r => (r.result, r.g.outerSocket, r.opened, r.closed)) = some (-64, 5, [5], []) := by
    decide +kernel
  obtain ⟨r, hr, hview⟩ := Option.map_eq_some_iff.mp hview
  simp only [Prod.mk.injEq] at hview
  obtain ⟨hresult, hsocket, hopened, hclosed⟩ := hview
  refine ⟨r, hr, hresult, fun h => ?_⟩
  have hleft := h.closed (by rw [hresult]; norm_num) 5 (by rw [hopened]; simp)
  rw [hclosed] at hleft
  cases hleft

end Samples

end MoonlightVita.TunnelLaunch
