import MoonlightVita.TunnelMoves

/-!
# Transport packets in the probe

`lwip_tunnel_output` and `lwip_process_transport` of `wg_handshake_probe.c`, beside the
functions of `tunnel.c` that they became. Both programs send the same datagrams, and
what the probe hands to lwIP the tunnel hands to it as well, unless it exceeds the MTU.
-/
namespace MoonlightVita.Probe
open LittleEndian ReplayWindow Tunnel

/-- `udp` and `tcp` say whether the control blocks exist. -/
structure LwipTunnelContext (K H : Type) where
  socketId : ℤ
  destination : Endpoint
  expectedOuterAddress : UInt32
  peer : Option (Peer K H)
  udp : Bool
  tcp : Bool
  echoReceived : Bool
  tcpConnected : Bool
  tcpReceived : Bool
  tcpClosed : Bool
  tcpFailed : Bool
  outputError : ℤ
  innerTxSize : UInt32
  innerRxSize : UInt32
  txPackets : UInt32
  rxPackets : UInt32

/-- Results of lwIP. -/
inductive Err
  | ok | buf | val | if
  | other (code : ℤ)
  deriving DecidableEq, Repr

variable {K H R I : Type}

structure Outcome (K H I ρ : Type) where
  result : ρ
  context : LwipTunnelContext K H
  events : List (Event K H I)

def lwipTunnelOutput (lib : Wireguard K H R I) (context : LwipTunnelContext K H) (packet : Pbuf)
    (sent : ℤ) : Outcome K H I Err :=
  match context.peer with
  | none => ⟨.if, context, []⟩
  | some peer =>
    let keypair := peer.keypair .curr
    if !keypair.sendingValid ∨ packet.totLen = 0 ∨ tsvitaInnerMtu < packet.totLen then
      ⟨.if, context, []⟩
    else
      let inner := packet.payload.take packet.totLen
      let header := transportHeader keypair.remoteIndex keypair.sendingCounter
      if inner.length ≠ packet.totLen then ⟨.buf, context, []⟩
      else
        let padded := pad inner
        let encrypted := lib.encryptPacket padded keypair
        let outgoing := header ++ encrypted.1
        let outgoingSize := sizeofTransportData + padded.length + authtagLen
        let context := { context with peer := some (peer.set .curr encrypted.2) }
        let call := Event.transport keypair.sendingKey keypair.sendingCounter padded outgoing sent
        if sent ≠ outgoingSize then
          ⟨.if, { context with outputError := if sent < 0 then sent else -30 }, [call]⟩
        else
          ⟨.ok, { context with
            innerTxSize := UInt32.ofNat inner.length
            txPackets := context.txPackets + 1 }, [call]⟩

def expectedSourceIp : Bytes := [10, 77, 0, 1]
def expectedDestinationIp : Bytes := [10, 77, 0, 2]

/-- The rest of `lwip_process_transport`, once the replay window has taken the counter. -/
def lwipInput (context : LwipTunnelContext K H) (key : K) (counter : UInt64) (plaintext : Bytes)
    (plaintextSize : ℕ) (delivery : Delivery) : Option (Outcome K H I ℤ) := do
  let version : UInt8 ← plaintext[0]?
  let source ← bytesAt plaintext 12 4
  let destination ← bytesAt plaintext 16 4
  if plaintextSize < 20 ∨ version >>> 4 ≠ 4 ∨ source ≠ expectedSourceIp ∨
      destination ≠ expectedDestinationIp then
    some ⟨-34, context, [.accepted key counter]⟩
  else
    let high : UInt8 ← plaintext[2]?
    let low : UInt8 ← plaintext[3]?
    let ipSize := high.toNat * 256 + low.toNat
    if ipSize < 20 ∨ plaintextSize < ipSize then some ⟨-35, context, [.accepted key counter]⟩
    else
      let packet ← bytesAt plaintext 0 ipSize
      if !delivery.pbufTaken then some ⟨-36, context, [.accepted key counter]⟩
      else
        let calls := [.accepted key counter, .tcpipInput key counter packet]
        if !delivery.tcpipOk then some ⟨-37, context, calls⟩
        else some ⟨0, { context with rxPackets := context.rxPackets + 1 }, calls⟩

def lwipProcessTransport (lib : Wireguard K H R I) (context : LwipTunnelContext K H)
    (incoming : Bytes) (source : Endpoint) (delivery : Delivery) : Option (Outcome K H I ℤ) :=
  if source.address ≠ context.expectedOuterAddress ∨ source.port ≠ context.destination.port ∨
      lib.getMessageType incoming ≠ messageTransportData then some ⟨-31, context, []⟩
  else do
    let peer ← context.peer
    let receiver ← bytesAt incoming 4 4
    let encryptedSize := incoming.length - sizeofTransportData
    match lib.getPeerKeypairForIdx peer (UInt32.ofNat (ofBytes receiver)) with
    | none => some ⟨-32, context, []⟩
    | some slot =>
      let keypair := peer.keypair slot
      if !keypair.receivingValid ∨ encryptedSize < authtagLen ∨
          tsvitaInnerMtu + 15 + authtagLen < encryptedSize then some ⟨-32, context, []⟩
      else
        let plaintextSize := encryptedSize - authtagLen
        let counterBytes ← bytesAt incoming 8 8
        let counter := UInt64.ofNat (ofBytes counterBytes)
        let encrypted ← bytesAt incoming sizeofTransportData encryptedSize
        match lib.decryptPacket encrypted counter keypair with
        | none => some ⟨-33, context, []⟩
        | some plaintext =>
          let checked := wireguardCheckReplay lib.rejectAfterMessages keypair.replay counter
          let context :=
            { context with peer := some (peer.set slot { keypair with replay := checked.2 }) }
          if !checked.1 then some ⟨-33, context, []⟩
          else
            lwipInput context keypair.receivingKey counter (plaintextBuffer plaintext)
              plaintextSize delivery

/-- The packets that were handed to lwIP. -/
def inputs (events : List (Event K H I)) : List Bytes :=
  events.filterMap fun
    | .tcpipInput _ _ packet => some packet
    | _ => none

/-- The counters that the replay window has taken. -/
def acceptances (events : List (Event K H I)) : List (K × UInt64) :=
  events.filterMap fun
    | .accepted key counter => some (key, counter)
    | _ => none

def fromServer (packet : Bytes) : Prop := bytesAt packet 12 4 = some expectedSourceIp

section Output
variable {lib : Wireguard K H R I} {context : LwipTunnelContext K H} {g : TunnelContext K H}

/-- Without a session nothing is sent. -/
lemma tunnelNetifOutput_idle (lib : Wireguard K H R I) (packet : Pbuf) (sent : ℤ) (processTime : UInt64)
    (h : ∀ peer, g.peer = some peer → (peer.keypair .curr).sendingValid = false) :
    let r := tunnelNetifOutput lib g (some packet) sent processTime
    r.2.2 = [] ∧ r.2.1.peer = g.peer ∧ r.1 ≠ .errOk := by
  have hsend : ∀ inner, sendTransportLocked lib g inner sent processTime = ⟨-20, g, []⟩ := by
    intro inner
    unfold sendTransportLocked
    cases hp : g.peer with
    | none => rfl
    | some peer => simp [h peer hp]
  simp only [tunnelNetifOutput, hsend]
  split_ifs <;> simp_all

/-- For the same peer both programs send the same datagram and are left with the same peer. -/
theorem lwipTunnelOutput_eq (lib : Wireguard K H R I) (hpeer : g.peer = context.peer)
    (packet : Pbuf) (sent : ℤ) (processTime : UInt64) :
    let probe := lwipTunnelOutput lib context packet sent
    let tunnel := tunnelNetifOutput lib g (some packet) sent processTime
    probe.events = tunnel.2.2 ∧ probe.context.peer = tunnel.2.1.peer ∧
      (probe.result = .ok ↔ tunnel.1 = .errOk) := by
  by_cases hidle : ∀ peer, g.peer = some peer → (peer.keypair .curr).sendingValid = false
  · obtain ⟨hevents, hpeer', hresult⟩ :=
      tunnelNetifOutput_idle lib packet sent processTime hidle
    have hprobe : lwipTunnelOutput lib context packet sent = ⟨.if, context, []⟩ := by
      unfold lwipTunnelOutput
      cases hp : context.peer with
      | none => rfl
      | some peer => simp [hidle peer (hpeer.trans hp)]
    simp only [hprobe, hevents, hpeer', hpeer, true_and]
    simpa using hresult
  · push Not at hidle
    obtain ⟨peer, hg, hvalid⟩ := hidle
    have hvalid : (peer.keypair .curr).sendingValid = true := by simpa using hvalid
    have hp : context.peer = some peer := hpeer.symm.trans hg
    unfold lwipTunnelOutput tunnelNetifOutput
    by_cases hlen : packet.totLen = 0 ∨ tsvitaInnerMtu < packet.totLen
    · simp [hlen, hg, hp]
    by_cases hcopy : (packet.payload.take packet.totLen).length ≠ packet.totLen
    · simp only [hp, hvalid, hlen, if_pos hcopy, Bool.not_true, Bool.false_eq_true, or_self,
        if_false]
      simp [hg]
    · have hmtu : ¬ tsvitaInnerMtu < (packet.payload.take packet.totLen).length := by
        push Not at hlen hcopy
        omega
      simp only [sendTransportLocked, hg, hp, hvalid, hlen, hmtu, if_neg hcopy, Bool.not_true,
        Bool.false_eq_true, or_self, if_false]
      by_cases hsent : sent ≠ ((sizeofTransportData + (pad (packet.payload.take
          packet.totLen)).length + authtagLen : ℕ) : ℤ)
      · simp only [if_pos hsent, true_and]
        split_ifs <;> simp_all
      · simp only [if_neg hsent, true_and]
        simp

end Output

section Input
variable {lib : Wireguard K H R I} {m : Meaning K H I} {context : LwipTunnelContext K H}
  {g : TunnelContext K H} {incoming : Bytes} {delivery : Delivery}

/-- What the two programs do with the same datagram: the same counter is taken, the peer is
left the same, and the packets for lwIP differ by the checks that only one of them makes. -/
structure Matches (probe : Outcome K H I ℤ) (tunnel : Result K H I) : Prop where
  peer : probe.context.peer = tunnel.g.peer
  acceptances : acceptances probe.events = acceptances tunnel.events
  kept : ∀ packet ∈ inputs probe.events, packet.length ≤ tsvitaInnerMtu →
    packet ∈ inputs tunnel.events
  sound : ∀ packet ∈ inputs probe.events, fromServer packet
  complete : ∀ packet ∈ inputs tunnel.events, fromServer packet → packet ∈ inputs probe.events

lemma matches_rejected {result result' : ℤ} (hpeer : context.peer = g.peer) :
    Matches (I := I) ⟨result, context, []⟩ ⟨result', g, []⟩ :=
  ⟨hpeer, rfl, by simp [inputs], by simp [inputs], by simp [inputs]⟩

lemma bytesAt_packet {buffer packet : Bytes} {size offset width : ℕ}
    (h : bytesAt buffer 0 size = some packet) (hle : offset + width ≤ size) :
    bytesAt packet offset width = bytesAt buffer offset width := by
  unfold bytesAt at h
  split_ifs at h with hsize
  rw [List.drop_zero, Option.some.injEq] at h
  subst h
  have hlength : (buffer.take size).length = size := by
    rw [List.length_take]
    omega
  rw [bytesAt, bytesAt, if_pos (by omega), if_pos (by omega), List.drop_take, List.take_take]
  congr 2
  omega

lemma bytesAt_length {buffer packet : Bytes} {offset width : ℕ}
    (h : bytesAt buffer offset width = some packet) : packet.length = width := by
  unfold bytesAt at h
  split_ifs at h with hsize
  rw [← Option.some.inj h, List.length_take, List.length_drop]
  omega

/-- A packet at the front of the plaintext that is meant for this host. -/
structure Addressed (plaintext packet : Bytes) : Prop where
  version : ∃ first : UInt8, (plaintextBuffer plaintext)[0]? = some first ∧ first >>> 4 = 4
  destination : bytesAt (plaintextBuffer plaintext) 16 4 = some expectedDestinationIp
  front : ∃ high low : UInt8, (plaintextBuffer plaintext)[2]? = some high ∧
    (plaintextBuffer plaintext)[3]? = some low ∧
    bytesAt (plaintextBuffer plaintext) 0 (high.toNat * 256 + low.toNat) = some packet
  atLeast : 20 ≤ packet.length
  atMost : packet.length ≤ plaintext.length

/-- What a program does with a plaintext: it takes the counter, keeps the peer, and hands over
the packets that meet its condition. -/
structure Hands (key : K) (counter : UInt64) (events : List (Event K H I)) (P : Bytes → Prop) :
    Prop where
  acceptances : acceptances events = [(key, counter)]
  inputs : ∀ packet, packet ∈ inputs events ↔ P packet

lemma hands_nothing {key : K} {counter : UInt64} {P : Bytes → Prop} (h : ∀ packet, ¬ P packet) :
    Hands (H := H) (I := I) key counter [.accepted key counter] P :=
  ⟨rfl, fun packet => iff_of_false (by simp [Probe.inputs]) (h packet)⟩

lemma hands_packet {key : K} {counter : UInt64} {P : Bytes → Prop} {packet : Bytes}
    (h : ∀ other, P other ↔ other = packet) :
    Hands (H := H) (I := I) key counter [.accepted key counter, .tcpipInput key counter packet]
      P :=
  ⟨rfl, fun other => by simp [Probe.inputs, h]⟩

section Plaintext
variable {plaintext : Bytes} {key : K} {counter : UInt64}

lemma addressed_unique {packet other : Bytes} (h : Addressed plaintext packet)
    (h' : Addressed plaintext other) : other = packet := by
  obtain ⟨high, low, hhigh, hlow, hpacket⟩ := h.front
  obtain ⟨high', low', hhigh', hlow', hother⟩ := h'.front
  rw [hhigh, Option.some.injEq] at hhigh'
  rw [hlow, Option.some.injEq] at hlow'
  subst hhigh' hlow'
  exact Option.some.inj (hother.symm.trans hpacket)

/-- There is only one packet to hand over, if it meets what else is asked for. -/
lemma addressed_iff {packet : Bytes} {P : Bytes → Prop} (haddressed : Addressed plaintext packet)
    (hP : P packet) (other : Bytes) : (Addressed plaintext other ∧ P other) ↔ other = packet := by
  constructor
  · exact fun h => addressed_unique haddressed h.1
  · rintro rfl
    exact ⟨haddressed, hP⟩

lemma Addressed.reads {packet destination : Bytes} {version : UInt8} (h : Addressed plaintext packet)
    (hversion : (plaintextBuffer plaintext)[0]? = some version)
    (hdestination : bytesAt (plaintextBuffer plaintext) 16 4 = some destination) :
    version >>> 4 = 4 ∧ destination = expectedDestinationIp := by
  obtain ⟨first, hfirst, hfour⟩ := h.version
  have hdest := h.destination
  rw [hversion, Option.some.injEq] at hfirst
  rw [hdestination, Option.some.injEq] at hdest
  exact ⟨hfirst ▸ hfour, hdest⟩

lemma Addressed.size {packet : Bytes} {high low : UInt8} (h : Addressed plaintext packet)
    (hhigh : (plaintextBuffer plaintext)[2]? = some high)
    (hlow : (plaintextBuffer plaintext)[3]? = some low) :
    packet.length = high.toNat * 256 + low.toNat := by
  obtain ⟨high', low', hhigh', hlow', hpacket⟩ := h.front
  rw [hhigh, Option.some.injEq] at hhigh'
  rw [hlow, Option.some.injEq] at hlow'
  subst hhigh' hlow'
  exact bytesAt_length hpacket

lemma deliverPlaintext_hands {r : Result K H I}
    (h : deliverPlaintext g key counter (plaintextBuffer plaintext) plaintext.length delivery =
      some r) :
    r.g.peer = g.peer ∧ Hands key counter r.events fun packet => Addressed plaintext packet ∧
      delivery.pbufTaken ∧ packet.length ≤ tsvitaInnerMtu := by
  unfold deliverPlaintext at h
  by_cases hempty : plaintext.length = 0
  · rw [if_pos hempty] at h
    cases h
    refine ⟨rfl, hands_nothing fun packet hp => ?_⟩
    have := hp.1.atLeast.trans hp.1.atMost
    omega
  by_cases hshort : plaintext.length < 20
  · rw [if_neg hempty, if_pos hshort] at h
    cases h
    refine ⟨rfl, hands_nothing fun packet hp => ?_⟩
    have := hp.1.atLeast.trans hp.1.atMost
    omega
  rw [if_neg hempty, if_neg hshort] at h
  simp only [Option.bind_eq_bind, Option.bind_eq_some_iff] at h
  obtain ⟨version, hversion, destination, hdestination, h⟩ := h
  by_cases hheader : version >>> 4 ≠ 4 ∨ destination ≠ [10, 77, 0, 2]
  · rw [if_pos hheader] at h
    cases h
    refine ⟨rfl, hands_nothing fun packet hp => ?_⟩
    obtain ⟨hfour, hdest⟩ := hp.1.reads hversion hdestination
    exact hheader.elim (· hfour) (· hdest)
  rw [if_neg hheader] at h
  push Not at hheader
  simp only [Option.bind_eq_some_iff] at h
  obtain ⟨high, hhigh, low, hlow, h⟩ := h
  by_cases hrange : high.toNat * 256 + low.toNat < 20 ∨
      plaintext.length < high.toNat * 256 + low.toNat ∨
      tsvitaInnerMtu < high.toNat * 256 + low.toNat
  · rw [if_pos hrange] at h
    cases h
    refine ⟨rfl, hands_nothing fun packet hp => ?_⟩
    have hlength := hp.1.size hhigh hlow
    have hleast := hp.1.atLeast
    have hmost := hp.1.atMost
    have hmtu := hp.2.2
    omega
  rw [if_neg hrange] at h
  push Not at hrange
  simp only [Option.bind_eq_some_iff] at h
  obtain ⟨packet, hpacket, h⟩ := h
  have hlength := bytesAt_length hpacket
  have haddressed : Addressed plaintext packet :=
    ⟨⟨version, hversion, hheader.1⟩, by rw [hdestination, hheader.2]; rfl,
      ⟨high, low, hhigh, hlow, hpacket⟩, by omega, by omega⟩
  by_cases htaken : delivery.pbufTaken = true
  · have hunique : ∀ other, (Addressed plaintext other ∧ delivery.pbufTaken ∧
        other.length ≤ tsvitaInnerMtu) ↔ other = packet :=
      addressed_iff haddressed ⟨htaken, by omega⟩
    simp only [htaken, Bool.not_true, Bool.false_eq_true, if_false] at h
    split_ifs at h
    · cases h
      exact ⟨rfl, hands_packet hunique⟩
    · cases h
      exact ⟨rfl, hands_packet hunique⟩
  · rw [if_pos (by simpa using htaken)] at h
    cases h
    exact ⟨rfl, hands_nothing fun packet hp => htaken hp.2.1⟩

lemma lwipInput_hands {r : Outcome K H I ℤ}
    (h : lwipInput context key counter (plaintextBuffer plaintext) plaintext.length delivery =
      some r) :
    r.context.peer = context.peer ∧ Hands key counter r.events fun packet =>
      Addressed plaintext packet ∧ delivery.pbufTaken ∧ fromServer packet := by
  simp only [lwipInput, Option.bind_eq_bind, Option.bind_eq_some_iff] at h
  obtain ⟨version, hversion, source, hsource, destination, hdestination, h⟩ := h
  by_cases hheader : plaintext.length < 20 ∨ version >>> 4 ≠ 4 ∨ source ≠ expectedSourceIp ∨
      destination ≠ expectedDestinationIp
  · rw [if_pos hheader] at h
    cases h
    refine ⟨rfl, hands_nothing fun packet hp => ?_⟩
    obtain ⟨hfour, hdest⟩ := hp.1.reads hversion hdestination
    obtain ⟨_, _, _, _, hpacket⟩ := hp.1.front
    have hleast := hp.1.atLeast
    have hmost := hp.1.atMost
    have hserver : bytesAt packet 12 4 = some expectedSourceIp := hp.2.2
    rw [bytesAt_packet hpacket (by rw [← bytesAt_length hpacket]; omega), hsource,
      Option.some.injEq] at hserver
    rcases hheader with hshort | hv | hs | hd
    · omega
    · exact hv hfour
    · exact hs hserver
    · exact hd hdest
  rw [if_neg hheader] at h
  push Not at hheader
  simp only [Option.bind_eq_some_iff] at h
  obtain ⟨high, hhigh, low, hlow, h⟩ := h
  by_cases hrange : high.toNat * 256 + low.toNat < 20 ∨
      plaintext.length < high.toNat * 256 + low.toNat
  · rw [if_pos hrange] at h
    cases h
    refine ⟨rfl, hands_nothing fun packet hp => ?_⟩
    have hlength := hp.1.size hhigh hlow
    have hleast := hp.1.atLeast
    have hmost := hp.1.atMost
    omega
  rw [if_neg hrange] at h
  push Not at hrange
  simp only [Option.bind_eq_some_iff] at h
  obtain ⟨packet, hpacket, h⟩ := h
  have hlength := bytesAt_length hpacket
  have hserver : fromServer packet := by
    rw [fromServer, bytesAt_packet hpacket (by omega), hsource, hheader.2.2.1]
  have haddressed : Addressed plaintext packet :=
    ⟨⟨version, hversion, hheader.2.1⟩, by rw [hdestination, hheader.2.2.2],
      ⟨high, low, hhigh, hlow, hpacket⟩, by omega, by omega⟩
  by_cases htaken : delivery.pbufTaken = true
  · have hunique : ∀ other, (Addressed plaintext other ∧ delivery.pbufTaken ∧
        fromServer other) ↔ other = packet :=
      addressed_iff haddressed ⟨htaken, hserver⟩
    simp only [htaken, Bool.not_true, Bool.false_eq_true, if_false] at h
    split_ifs at h
    · cases h
      exact ⟨rfl, hands_packet hunique⟩
    · cases h
      exact ⟨rfl, hands_packet hunique⟩
  · rw [if_pos (by simpa using htaken)] at h
    cases h
    exact ⟨rfl, hands_nothing fun packet hp => htaken hp.2.1⟩

/-- The checks of the two programs on the plaintext of the same packet. -/
lemma lwipInput_matches {probe : Outcome K H I ℤ} {tunnel : Result K H I}
    (hpeer : context.peer = g.peer)
    (hprobe : lwipInput context key counter (plaintextBuffer plaintext) plaintext.length delivery =
      some probe)
    (htunnel : deliverPlaintext g key counter (plaintextBuffer plaintext) plaintext.length
      delivery = some tunnel) : Matches probe tunnel := by
  obtain ⟨hp, hhands⟩ := lwipInput_hands hprobe
  obtain ⟨ht, hhands'⟩ := deliverPlaintext_hands htunnel
  refine ⟨by rw [hp, ht, hpeer], by rw [hhands.acceptances, hhands'.acceptances], ?_, ?_, ?_⟩
  · intro packet hmem hmtu
    obtain ⟨haddressed, htaken, -⟩ := (hhands.inputs packet).mp hmem
    exact (hhands'.inputs packet).mpr ⟨haddressed, htaken, hmtu⟩
  · exact fun packet hmem => ((hhands.inputs packet).mp hmem).2.2
  · intro packet hmem hserver
    obtain ⟨haddressed, htaken, -⟩ := (hhands'.inputs packet).mp hmem
    exact (hhands.inputs packet).mpr ⟨haddressed, htaken, hserver⟩

end Plaintext

/-- Given the same transport packet and the same peer, the probe and the tunnel take the same
counter and are left with the same peer, up to the hand-over to lwIP: `tcpip_input` of the tunnel
leaves the packet to another thread, `ip4_input` of the probe calls back, and may send, before it
returns. What the probe hands to lwIP is from the server, and the tunnel hands it over as well if
it fits the MTU; what the tunnel hands over from the server the probe hands over. -/
theorem lwipProcessTransport_matches (hl : Lawful lib m) (hpeer : context.peer = g.peer)
    {source : Endpoint} (haddress : source.address = context.expectedOuterAddress)
    (hport : source.port = context.destination.port)
    (htype : lib.getMessageType incoming = messageTransportData)
    (hsize : sizeofTransportData + authtagLen ≤ incoming.length) {probe : Outcome K H I ℤ}
    {tunnel : Result K H I}
    (hprobe : lwipProcessTransport lib context incoming source delivery = some probe)
    (htunnel : processTransportLocked lib g incoming delivery = some tunnel) :
    Matches probe tunnel := by
  have hsource : ¬ (source.address ≠ context.expectedOuterAddress ∨
      source.port ≠ context.destination.port ∨
      lib.getMessageType incoming ≠ messageTransportData) := by tauto
  unfold lwipProcessTransport at hprobe
  unfold processTransportLocked at htunnel
  rw [if_neg hsource] at hprobe
  cases hp : g.peer with
  | none => simp [hpeer, hp] at hprobe
  | some peer =>
    simp only [hpeer, hp, Option.bind_eq_bind, Option.bind_some, Option.bind_eq_some_iff]
      at hprobe htunnel
    obtain ⟨receiver, hreceiver, hprobe⟩ := hprobe
    have hlower : ¬ incoming.length < sizeofTransportData + authtagLen := not_lt.mpr hsize
    have hbody : ¬ incoming.length - sizeofTransportData < authtagLen := by omega
    by_cases hlarge : sizeofTransportData + tsvitaInnerMtu + 15 + authtagLen < incoming.length
    · rw [if_pos (Or.inr hlarge)] at htunnel
      cases htunnel
      have hbig : tsvitaInnerMtu + 15 + authtagLen < incoming.length - sizeofTransportData := by
        omega
      split at hprobe
      · cases hprobe
        exact matches_rejected hpeer
      · rw [if_pos (Or.inr (Or.inr hbig))] at hprobe
        cases hprobe
        exact matches_rejected hpeer
    · have hfits : ¬ tsvitaInnerMtu + 15 + authtagLen < incoming.length - sizeofTransportData := by
        omega
      rw [if_neg (not_or.mpr ⟨hlower, hlarge⟩)] at htunnel
      simp only [hreceiver, Option.bind_some] at htunnel
      cases hslot : lib.getPeerKeypairForIdx peer (UInt32.ofNat (ofBytes receiver)) with
      | none =>
        simp only [hslot] at hprobe htunnel
        cases hprobe
        cases htunnel
        exact matches_rejected hpeer
      | some slot =>
        simp only [hslot] at hprobe htunnel
        by_cases hvalid : (peer.keypair slot).receivingValid = true
        · simp only [hvalid, hbody, hfits, Bool.not_true, Bool.false_eq_true, or_self, if_false,
            Option.bind_eq_some_iff] at hprobe htunnel
          obtain ⟨counterBytes, hcounter, encrypted, hencrypted, hprobe⟩ := hprobe
          simp only [hcounter, hencrypted, Option.some.injEq, exists_eq_left'] at htunnel
          have hcap : ¬ plaintextCapacity < incoming.length - sizeofTransportData - authtagLen := by
            unfold plaintextCapacity
            omega
          rw [if_neg hcap] at htunnel
          cases hdecrypt : lib.decryptPacket encrypted (UInt64.ofNat (ofBytes counterBytes))
              (peer.keypair slot) with
          | none =>
            simp only [hdecrypt] at hprobe htunnel
            cases hprobe
            cases htunnel
            exact matches_rejected hpeer
          | some plaintext =>
            have hlength : plaintext.length =
                incoming.length - sizeofTransportData - authtagLen := by
              have haead := congrArg List.length (hl.decrypt _ _ _ _ hdecrypt)
              rw [hl.aead_length, bytesAt_length hencrypted] at haead
              omega
            simp only [hdecrypt, ← hlength] at hprobe htunnel
            split_ifs at hprobe htunnel
            · cases hprobe
              cases htunnel
              exact matches_rejected rfl
            · exact lwipInput_matches rfl hprobe htunnel
        · simp only [hvalid, Bool.not_false, true_or, if_true] at hprobe htunnel
          cases hprobe
          cases htunnel
          exact matches_rejected hpeer

end Input

section Sample

def samplePeer : Peer SymbolicKey SymbolicHandshake :=
  symbolicStart ⟨some (7, some (symbolicResponse 7)), fun _ =>
    ⟨false, false, false, (0, true), (0, true), 0, 0, 0, Replay.zero⟩⟩

def sampleContext : LwipTunnelContext SymbolicKey SymbolicHandshake :=
  ⟨3, ⟨1, 2⟩, 1, some samplePeer, true, false, false, false, false, false, false, 0, 0, 0, 0, 0⟩

def sampleTunnel : TunnelContext SymbolicKey SymbolicHandshake :=
  ⟨⟨1, 2⟩, some samplePeer, 0, 0, 0, 0, 0, 0, 0, 0⟩

/-- An IPv4 header of the server. -/
def samplePacket : Bytes :=
  [0x45, 0, 0, 20] ++ List.replicate 8 0 ++ expectedSourceIp ++ expectedDestinationIp

def sampleDatagram : Bytes :=
  transportHeader 7 0 ++ symbolicAead (7, false) 0 (pad samplePacket)

theorem lwipProcessTransport_matches_server :
    ∃ probe tunnel, lwipProcessTransport symbolic sampleContext sampleDatagram ⟨1, 2⟩
        ⟨true, true⟩ = some probe ∧
      processTransportLocked symbolic sampleTunnel sampleDatagram ⟨true, true⟩ = some tunnel ∧
      inputs probe.events = [samplePacket] ∧ Matches probe tunnel := by
  have hprobeView : (lwipProcessTransport symbolic sampleContext sampleDatagram ⟨1, 2⟩
      ⟨true, true⟩).map (fun r => inputs r.events) = some [samplePacket] := by decide +kernel
  have htunnelView : (processTransportLocked symbolic sampleTunnel sampleDatagram
      ⟨true, true⟩).map (fun r => inputs r.events) = some [samplePacket] := by decide +kernel
  obtain ⟨probe, hprobe, hinputs⟩ := Option.map_eq_some_iff.mp hprobeView
  obtain ⟨tunnel, htunnel, -⟩ := Option.map_eq_some_iff.mp htunnelView
  exact ⟨probe, tunnel, hprobe, htunnel, hinputs, lwipProcessTransport_matches symbolic_lawful rfl
    rfl rfl (by decide +kernel) (by decide +kernel) hprobe htunnel⟩

end Sample

end MoonlightVita.Probe
