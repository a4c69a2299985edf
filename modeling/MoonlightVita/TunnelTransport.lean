import MoonlightVita.TunnelPeer

/-!
# Sending and receiving through the tunnel

The functions of `tunnel.c` that run under `g_peer_mutex`, and the accounting of
rejected packets. The outcomes of system calls are arguments. A function returns
its result, the context that it leaves and the calls that it made; `none` stands
for an access outside a buffer or through a null pointer.
-/
namespace MoonlightVita.Tunnel
open ReplayWindow LittleEndian

abbrev Bytes : Type := List UInt8

def tsvitaInnerMtu : ℕ := 1280
def tsvitaRekeyIntervalUs : UInt64 := 100000000
def tsvitaKeepaliveIntervalUs : UInt64 := 25000000
def tsvitaHandshakeTimeoutUs : UInt64 := 5000000

def messageHandshakeResponse : UInt8 := 2
def messageTransportData : UInt8 := 4

def sizeofTransportData : ℕ := 16
def sizeofHandshakeInitiation : ℕ := 148
def sizeofHandshakeResponse : ℕ := 92
def cookieLen : ℕ := 16
def plaintextCapacity : ℕ := tsvitaInnerMtu + 15

structure Endpoint where
  address : UInt32
  port : UInt16
  deriving DecidableEq, Repr

structure TunnelContext (K H : Type) where
  endpoint : Endpoint
  peer : Option (Peer K H)
  pendingHandshakeSender : UInt32
  lastHandshakeUs : UInt64
  lastTransportTxUs : UInt64
  txPackets : UInt64
  rxPackets : UInt64
  decryptRejects : UInt64
  replayRejects : UInt64
  otherRejects : UInt64

inductive Reason
  | autenticacao | replayJanela | outro
  deriving DecidableEq, Repr

/-- The calls of the tunnel that its results are about. -/
inductive Event (K H I : Type)
  | transport (key : K) (counter : UInt64) (plaintext datagram : Bytes) (sent : ℤ)
  | initiation (message : Option I)
  | initiationSent (message : I) (sent : ℤ)
  | startSession (handshake : H)
  | accepted (key : K) (counter : UInt64)
  | tcpipInput (key : K) (counter : UInt64) (packet : Bytes)
  | rejection (result : ℤ) (reason : Reason) (total : UInt64)
  | rekey (result : ℤ)
  | keepalive (result : ℤ)
  | fault
  deriving DecidableEq, Repr

structure Result (K H I : Type) where
  result : ℤ
  g : TunnelContext K H
  events : List (Event K H I)

variable {K H R I : Type}

def Peer.set (peer : Peer K H) (slot : Slot) (keypair : Keypair K) : Peer K H :=
  { peer with keypair := Function.update peer.keypair slot keypair }

/-- Zeros up to a multiple of sixteen bytes. -/
def pad (inner : Bytes) : Bytes :=
  inner ++ List.replicate ((inner.length + 15) / 16 * 16 - inner.length) 0

def transportHeader (receiver : UInt32) (counter : UInt64) : Bytes :=
  [messageTransportData, 0, 0, 0] ++ toBytes 4 receiver.toNat ++ toBytes 8 counter.toNat

lemma length_transportHeader (receiver : UInt32) (counter : UInt64) :
    (transportHeader receiver counter).length = sizeofTransportData := by
  simp [transportHeader, sizeofTransportData]

def sendTransportLocked (lib : Wireguard K H R I) (g : TunnelContext K H) (inner : Bytes)
    (sent : ℤ) (processTime : UInt64) : Result K H I :=
  match g.peer with
  | none => ⟨-20, g, []⟩
  | some peer =>
    let keypair := peer.keypair .curr
    if !keypair.sendingValid ∨ tsvitaInnerMtu < inner.length then ⟨-20, g, []⟩
    else
      let padded := pad inner
      let header := transportHeader keypair.remoteIndex keypair.sendingCounter
      let encrypted := lib.encryptPacket padded keypair
      let datagram := header ++ encrypted.1
      let outgoingSize := sizeofTransportData + padded.length + authtagLen
      let g := { g with peer := some (peer.set .curr encrypted.2) }
      let call := Event.transport keypair.sendingKey keypair.sendingCounter padded datagram sent
      if sent ≠ outgoingSize then ⟨if sent < 0 then sent else -21, g, [call]⟩
      else ⟨0, { g with lastTransportTxUs := processTime, txPackets := g.txPackets + 1 }, [call]⟩

/-- A packet of lwIP: its total length and the bytes of its chain. -/
structure Pbuf where
  totLen : ℕ
  payload : Bytes
  deriving DecidableEq, Repr

inductive NetifResult
  | errOk | errBuf | errIf
  deriving DecidableEq, Repr

/-- `pbuf_copy_partial` copies as much as the chain holds. -/
def tunnelNetifOutput (lib : Wireguard K H R I) (g : TunnelContext K H) (packet : Option Pbuf)
    (sent : ℤ) (processTime : UInt64) : NetifResult × TunnelContext K H × List (Event K H I) :=
  match packet with
  | none => (.errBuf, g, [])
  | some packet =>
    if packet.totLen = 0 ∨ tsvitaInnerMtu < packet.totLen then (.errBuf, g, [])
    else
      let inner := packet.payload.take packet.totLen
      if inner.length ≠ packet.totLen then (.errBuf, g, [])
      else
        let r := sendTransportLocked lib g inner sent processTime
        (if r.result < 0 then .errIf else .errOk, r.g, r.events)

def sendHandshakeLocked (lib : Wireguard K H R I) (g : TunnelContext K H) (draw : R) (sent : ℤ) :
    Option (Result K H I) :=
  match g.peer with
  | none => none
  | some peer =>
    match lib.createHandshakeInitiation draw peer with
    | (none, handshake) =>
      some ⟨-30, { g with peer := some { peer with handshake := handshake } }, [.initiation none]⟩
    | (some initiation, handshake) =>
      let g := { g with peer := some { peer with handshake := handshake } }
      let calls := [.initiation (some initiation), .initiationSent initiation sent]
      if sent ≠ sizeofHandshakeInitiation then some ⟨if sent < 0 then sent else -31, g, calls⟩
      else some ⟨0, { g with pendingHandshakeSender := lib.sender initiation }, calls⟩

def processHandshakeResponseLocked (lib : Wireguard K H R I) (g : TunnelContext K H)
    (packet : Bytes) (processTime : UInt64) : Option (Result K H I) :=
  if packet.length ≠ sizeofHandshakeResponse ∨
      lib.getMessageType packet ≠ messageHandshakeResponse then some ⟨-32, g, []⟩
  else do
    let receiver ← bytesAt packet 8 4
    if ofBytes receiver ≠ g.pendingHandshakeSender.toNat then some ⟨-33, g, []⟩
    else
      let covered ← bytesAt packet 0 (sizeofHandshakeResponse - 2 * cookieLen)
      let mac1 ← bytesAt packet 60 cookieLen
      if !lib.checkMac1 covered mac1 then some ⟨-33, g, []⟩
      else
        let peer ← g.peer
        match lib.processHandshakeResponse peer.handshake packet with
        | (false, handshake) =>
          some ⟨-33, { g with peer := some { peer with handshake := handshake } }, []⟩
        | (true, handshake) =>
          some ⟨0, { g with
            peer := some (lib.startSession { peer with handshake := handshake })
            lastHandshakeUs := processTime
            pendingHandshakeSender := 0 }, [.startSession handshake]⟩

/-- The outcomes of `pbuf_alloc` and `pbuf_take`, and whether `tcpip_input` took the packet. -/
structure Delivery where
  pbufTaken : Bool
  tcpipOk : Bool
  deriving DecidableEq, Repr

/-- The rest of `process_transport_locked`, once the replay window has taken the counter. -/
def deliverPlaintext (g : TunnelContext K H) (key : K) (counter : UInt64) (plaintext : Bytes)
    (plaintextSize : ℕ) (delivery : Delivery) : Option (Result K H I) :=
  if plaintextSize = 0 then some ⟨0, g, [.accepted key counter]⟩
  else if plaintextSize < 20 then some ⟨-43, g, [.accepted key counter]⟩
  else do
    let version : UInt8 ← plaintext[0]?
    let destination ← bytesAt plaintext 16 4
    if version >>> 4 ≠ 4 ∨ destination ≠ [10, 77, 0, 2] then
      some ⟨-43, g, [.accepted key counter]⟩
    else
      let high : UInt8 ← plaintext[2]?
      let low : UInt8 ← plaintext[3]?
      let ipSize := high.toNat * 256 + low.toNat
      if ipSize < 20 ∨ plaintextSize < ipSize ∨ tsvitaInnerMtu < ipSize then
        some ⟨-44, g, [.accepted key counter]⟩
      else
        let packet ← bytesAt plaintext 0 ipSize
        if !delivery.pbufTaken then some ⟨-45, g, [.accepted key counter]⟩
        else
          let calls := [.accepted key counter, .tcpipInput key counter packet]
          if !delivery.tcpipOk then some ⟨-46, g, calls⟩
          else some ⟨0, { g with rxPackets := g.rxPackets + 1 }, calls⟩

/-- The local buffer after decryption into it. -/
def plaintextBuffer (plaintext : Bytes) : Bytes :=
  plaintext ++ List.replicate (plaintextCapacity - plaintext.length) 0

def processTransportLocked (lib : Wireguard K H R I) (g : TunnelContext K H) (incoming : Bytes)
    (delivery : Delivery) : Option (Result K H I) :=
  if incoming.length < sizeofTransportData + authtagLen ∨
      sizeofTransportData + tsvitaInnerMtu + 15 + authtagLen < incoming.length then
    some ⟨-40, g, []⟩
  else do
    let peer ← g.peer
    let receiver ← bytesAt incoming 4 4
    let encryptedSize := incoming.length - sizeofTransportData
    match lib.getPeerKeypairForIdx peer (UInt32.ofNat (ofBytes receiver)) with
    | none => some ⟨-41, g, []⟩
    | some slot =>
      let keypair := peer.keypair slot
      if !keypair.receivingValid ∨ encryptedSize < authtagLen then some ⟨-41, g, []⟩
      else
        let plaintextSize := encryptedSize - authtagLen
        let counterBytes ← bytesAt incoming 8 8
        let counter := UInt64.ofNat (ofBytes counterBytes)
        let encrypted ← bytesAt incoming sizeofTransportData encryptedSize
        if plaintextCapacity < plaintextSize then none
        else
          match lib.decryptPacket encrypted counter keypair with
          | none => some ⟨-42, g, []⟩
          | some plaintext =>
            let checked := wireguardCheckReplay lib.rejectAfterMessages keypair.replay counter
            let g := { g with peer := some (peer.set slot { keypair with replay := checked.2 }) }
            if !checked.1 then some ⟨-47, g, []⟩
            else
              deliverPlaintext g keypair.receivingKey counter (plaintextBuffer plaintext)
                plaintextSize delivery

def sourceIsPeer (g : TunnelContext K H) (source : Endpoint) : Bool := source = g.endpoint

def shouldLogRejection (count : UInt64) : Bool := count ≤ 4 ∨ count &&& (count - 1) = 0

/-- The log line of a rejection, if one is due. -/
def rejectionLog (result : ℤ) (reason : Reason) (total : UInt64) : List (Event K H I) :=
  if shouldLogRejection total then [.rejection result reason total] else []

def recordTransportRejection (g : TunnelContext K H) (result : ℤ) :
    TunnelContext K H × List (Event K H I) :=
  if result = -42 then
    ({ g with decryptRejects := g.decryptRejects + 1 },
      rejectionLog result .autenticacao (g.decryptRejects + 1))
  else if result = -47 then
    ({ g with replayRejects := g.replayRejects + 1 },
      rejectionLog result .replayJanela (g.replayRejects + 1))
  else
    ({ g with otherRejects := g.otherRejects + 1 },
      rejectionLog result .outro (g.otherRejects + 1))

/-- What `recvfrom` returned: nothing, or a sender and its datagram. -/
abbrev Received : Type := Option (Endpoint × Bytes)

/-- The section of `receive_thread_main` that a datagram of the peer is processed in. -/
def processLocked (lib : Wireguard K H R I) (g : TunnelContext K H) (incoming : Bytes)
    (delivery : Delivery) (processTime : UInt64) : Option (Result K H I) :=
  if lib.getMessageType incoming = messageHandshakeResponse then
    processHandshakeResponseLocked lib g incoming processTime
  else if lib.getMessageType incoming = messageTransportData then
    processTransportLocked lib g incoming delivery
  else some ⟨0, g, []⟩

/-- The first half of an iteration of `receive_thread_main`. -/
def receiveDatagram (lib : Wireguard K H R I) (g : TunnelContext K H) (received : Received)
    (delivery : Delivery) (processTime : UInt64) :
    Option (TunnelContext K H × List (Event K H I)) :=
  match received with
  | none => some (g, [])
  | some (source, incoming) =>
    if 0 < incoming.length ∧ sourceIsPeer g source then do
      let r ← processLocked lib g incoming delivery processTime
      if r.result < 0 then
        let rejected := recordTransportRejection r.g r.result
        some (rejected.1, r.events ++ rejected.2)
      else some (r.g, r.events)
    else some (g, [])

/-- The rekey check of an iteration. -/
def maintainRekey (lib : Wireguard K H R I) (g : TunnelContext K H) (now : UInt64) (draw : R)
    (sent : ℤ) : Option (TunnelContext K H × List (Event K H I)) :=
  if g.pendingHandshakeSender = 0 ∧ tsvitaRekeyIntervalUs ≤ now - g.lastHandshakeUs then do
    let r ← sendHandshakeLocked lib g draw sent
    some (r.g, r.events ++ [.rekey r.result])
  else some (g, [])

/-- The keepalive check of an iteration. -/
def maintainKeepalive (lib : Wireguard K H R I) (g : TunnelContext K H) (now : UInt64)
    (sent : ℤ) (processTime : UInt64) : TunnelContext K H × List (Event K H I) :=
  match g.peer with
  | none => (g, [])
  | some peer =>
    if (peer.keypair .curr).sendingValid ∧
        tsvitaKeepaliveIntervalUs ≤ now - g.lastTransportTxUs then
      let r := sendTransportLocked lib g [] sent processTime
      (r.g, r.events ++ [.keepalive r.result])
    else (g, [])

end MoonlightVita.Tunnel
