import MoonlightVita.TunnelMachine

/-!
# A packet through the tunnel and back

What one side of the tunnel seals, the side with the mirrored keypair opens: the
padding is cut off by the length field of the packet, and an empty packet is a
keepalive.
-/
namespace MoonlightVita.Tunnel
open LittleEndian ReplayWindow

variable {K H R I : Type} {lib : Wireguard K H R I} {m : Meaning K H I}

/-- Opening with the receiving key and the counter of a packet undoes sealing it. -/
def Inverts (lib : Wireguard K H R I) (m : Meaning K H I) : Prop :=
  ∀ plaintext counter keypair,
    lib.decryptPacket (m.aead keypair.receivingKey counter plaintext) counter keypair =
      some plaintext

/-- The receiver finds its half of the sender's keypair under the sender's remote index. -/
structure Mirrored (lib : Wireguard K H R I) (sending : Keypair K) (receiver : Peer K H)
    (slot : Slot) : Prop where
  found : lib.getPeerKeypairForIdx receiver sending.remoteIndex = some slot
  receivingValid : (receiver.keypair slot).receivingValid = true
  key : (receiver.keypair slot).receivingKey = sending.sendingKey

/-- An IPv4 packet for this end of the tunnel, of the length that its header gives. -/
structure Routable (packet : Bytes) : Prop where
  atLeast : 20 ≤ packet.length
  atMost : packet.length ≤ tsvitaInnerMtu
  version : ∃ first : UInt8, packet[0]? = some first ∧ first >>> 4 = 4
  totalLength : ∃ high low : UInt8, packet[2]? = some high ∧ packet[3]? = some low ∧
    packet.length = high.toNat * 256 + low.toNat
  destination : bytesAt packet 16 4 = some [10, 77, 0, 2]

lemma length_pad (inner : Bytes) : (pad inner).length = (inner.length + 15) / 16 * 16 := by
  simp only [pad, List.length_append, List.length_replicate]
  omega

lemma pad_getElem? {inner : Bytes} {i : ℕ} (h : i < inner.length) : (pad inner)[i]? = inner[i]? :=
  List.getElem?_append_left h

lemma Routable.deliverable_pad {packet : Bytes} (h : Routable packet) :
    Deliverable (pad packet) packet := by
  have hlong := h.atLeast
  have hlength := length_pad packet
  refine ⟨by simp [pad], ?_, h.atLeast, le_min (by omega) h.atMost, ?_, ?_⟩
  · obtain ⟨high, low, hhigh, hlow, htotal⟩ := h.totalLength
    refine ⟨high, low, ?_, ?_, htotal⟩
    · rwa [pad_getElem? (by omega)]
    · rwa [pad_getElem? (by omega)]
  · rw [pad_getElem? (by omega)]
    exact h.version
  · rw [← h.destination, bytesAt, bytesAt, if_pos (by omega), if_pos (by omega), pad,
      List.drop_append_of_le_length (by omega), List.take_append_of_le_length]
    rw [List.length_drop]
    omega

/-- A packet at the front of the plaintext is handed to lwIP without what follows it. -/
lemma deliverPlaintext_deliverable {plaintext packet : Bytes} (h : Deliverable plaintext packet)
    (g : TunnelContext K H) (key : K) (counter : UInt64) :
    deliverPlaintext (I := I) g key counter (plaintextBuffer plaintext) plaintext.length
        ⟨true, true⟩ =
      some ⟨0, { g with rxPackets := g.rxPackets + 1 },
        [.accepted key counter, .tcpipInput key counter packet]⟩ := by
  obtain ⟨hfront, ⟨high, low, hhigh, hlow, htotal⟩, hleast, hmost, ⟨first, hfirst, hversion⟩,
    hdestination⟩ := h
  obtain ⟨hfits, hmtu⟩ := le_min_iff.mp hmost
  have hpacket : bytesAt plaintext 0 packet.length = some packet := by
    rw [bytesAt, if_pos (by omega), List.drop_zero, ← hfront]
  unfold deliverPlaintext
  rw [if_neg (by omega), if_neg (by omega), plaintextBuffer_getElem? (by omega),
    plaintextBuffer_getElem? (by omega), plaintextBuffer_getElem? (by omega),
    plaintextBuffer_bytesAt (by omega), hfirst, hdestination, hhigh, hlow]
  simp only [Option.bind_eq_bind, Option.bind_some, hversion, ← htotal]
  rw [if_neg (by simp), if_neg (by omega), plaintextBuffer_bytesAt (by omega), hpacket]
  rfl

lemma deliverPlaintext_empty (g : TunnelContext K H) (key : K) (counter : UInt64)
    (delivery : Delivery) :
    deliverPlaintext (I := I) g key counter (plaintextBuffer []) 0 delivery =
      some ⟨0, g, [.accepted key counter]⟩ := by
  rw [deliverPlaintext, if_pos rfl]

/-- The datagram of a plaintext under a keypair. -/
def sealedDatagram (m : Meaning K H I) (sending : Keypair K) (plaintext : Bytes) : Bytes :=
  transportHeader sending.remoteIndex sending.sendingCounter ++
    m.aead sending.sendingKey sending.sendingCounter plaintext

lemma sendTransportLocked_events (hl : Lawful lib m) {g : TunnelContext K H} {sender : Peer K H}
    (hg : g.peer = some sender) (hvalid : (sender.keypair .curr).sendingValid = true)
    {inner : Bytes} (hinner : inner.length ≤ tsvitaInnerMtu) (sent : ℤ) (processTime : UInt64) :
    (sendTransportLocked lib g inner sent processTime).events =
      [.transport (sender.keypair .curr).sendingKey (sender.keypair .curr).sendingCounter
        (pad inner) (sealedDatagram m (sender.keypair .curr) (pad inner)) sent] := by
  unfold sendTransportLocked sealedDatagram
  simp only [hg, hl.encrypt]
  rw [if_neg (by simp [hvalid, hinner])]
  split_ifs <;> rfl

section Opening
variable {g : TunnelContext K H} {receiver : Peer K H} {sending : Keypair K} {slot : Slot}

/-- A sealed plaintext reaches the delivery, and the window takes its counter. -/
lemma processTransportLocked_sealed (hl : Lawful lib m) (hinv : Inverts lib m)
    (hg : g.peer = some receiver) (hm : Mirrored lib sending receiver slot)
    (hreplay : (wireguardCheckReplay lib.rejectAfterMessages (receiver.keypair slot).replay
      sending.sendingCounter).1 = true)
    {plaintext : Bytes} (hsize : plaintext.length ≤ plaintextCapacity) (delivery : Delivery) :
    processTransportLocked lib g (sealedDatagram m sending plaintext) delivery =
      deliverPlaintext { g with peer := some (receiver.set slot { receiver.keypair slot with
          replay := (wireguardCheckReplay lib.rejectAfterMessages (receiver.keypair slot).replay
            sending.sendingCounter).2 }) } sending.sendingKey sending.sendingCounter
        (plaintextBuffer plaintext) plaintext.length delivery := by
  have hheader := length_transportHeader sending.remoteIndex sending.sendingCounter
  have haead := hl.aead_length sending.sendingKey sending.sendingCounter plaintext
  have hlength : (sealedDatagram m sending plaintext).length =
      sizeofTransportData + (plaintext.length + authtagLen) := by
    rw [sealedDatagram, List.length_append, hheader, haead]
  have hreceiver : bytesAt (sealedDatagram m sending plaintext) 4 4 =
      some (toBytes 4 sending.remoteIndex.toNat) := by
    simp only [sealedDatagram, transportHeader, List.append_assoc]
    rw [← List.append_assoc]
    exact bytesAt_append rfl (length_toBytes _ _)
  have hcounter : bytesAt (sealedDatagram m sending plaintext) 8 8 =
      some (toBytes 8 sending.sendingCounter.toNat) := by
    rw [sealedDatagram, transportHeader]
    exact bytesAt_append (by simp) (length_toBytes _ _)
  have hencrypted : bytesAt (sealedDatagram m sending plaintext) sizeofTransportData
      (plaintext.length + authtagLen) =
        some (m.aead sending.sendingKey sending.sendingCounter plaintext) := by
    rw [sealedDatagram, ← List.append_nil (_ ++ _)]
    exact bytesAt_append hheader haead
  have hindex : UInt32.ofNat (ofBytes (toBytes 4 sending.remoteIndex.toNat)) =
      sending.remoteIndex := by
    rw [ofBytes_toBytes sending.remoteIndex.toNat_lt, UInt32.ofNat_toNat]
  have hnonce : UInt64.ofNat (ofBytes (toBytes 8 sending.sendingCounter.toNat)) =
      sending.sendingCounter := by
    rw [ofBytes_toBytes sending.sendingCounter.toNat_lt, UInt64.ofNat_toNat]
  have hdecrypt := hinv plaintext sending.sendingCounter (receiver.keypair slot)
  rw [hm.key] at hdecrypt
  unfold plaintextCapacity at hsize
  unfold processTransportLocked
  rw [if_neg (by omega), hlength, Nat.add_sub_cancel_left]
  simp only [Option.bind_eq_bind, hg, Option.bind_some, hreceiver, hindex, hm.found]
  rw [if_neg (by simp [hm.receivingValid]), hcounter, hencrypted]
  simp only [Option.bind_some, hnonce, Nat.add_sub_cancel, hdecrypt, hreplay]
  rw [if_neg (by unfold plaintextCapacity; omega), if_neg (by simp), hm.key]

end Opening

/-- Every packet for this end of the tunnel arrives as it was sent, and an empty one arrives as
a keepalive, under every counter that the receiver's window admits. -/
theorem transport_roundtrip (hl : Lawful lib m) (hinv : Inverts lib m)
    {g g' : TunnelContext K H} {sender receiver : Peer K H} {slot : Slot}
    (hg : g.peer = some sender) (hvalid : (sender.keypair .curr).sendingValid = true)
    (hg' : g'.peer = some receiver) (hm : Mirrored lib (sender.keypair .curr) receiver slot)
    (hreplay : (wireguardCheckReplay lib.rejectAfterMessages (receiver.keypair slot).replay
      (sender.keypair .curr).sendingCounter).1 = true) (sent : ℤ) (processTime : UInt64) :
    (∀ packet, Routable packet → ∃ key counter plaintext datagram r,
      (sendTransportLocked lib g packet sent processTime).events =
          [.transport key counter plaintext datagram sent] ∧
        processTransportLocked lib g' datagram ⟨true, true⟩ = some r ∧ r.result = 0 ∧
        r.events = [.accepted key counter, .tcpipInput key counter packet]) ∧
    ∃ key counter plaintext datagram,
      (sendTransportLocked lib g [] sent processTime).events =
          [.transport key counter plaintext datagram sent] ∧
        ∀ delivery, ∃ r, processTransportLocked lib g' datagram delivery = some r ∧
          r.result = 0 ∧ r.events = [.accepted key counter] := by
  constructor
  · intro packet hpacket
    have hsize : (pad packet).length ≤ plaintextCapacity := by
      have hmost := hpacket.atMost
      rw [length_pad, plaintextCapacity]
      unfold tsvitaInnerMtu at hmost ⊢
      omega
    have hopened := processTransportLocked_sealed hl hinv hg' hm hreplay hsize ⟨true, true⟩
    rw [deliverPlaintext_deliverable hpacket.deliverable_pad] at hopened
    exact ⟨_, _, _, _, _, sendTransportLocked_events hl hg hvalid hpacket.atMost sent processTime,
      hopened, rfl, rfl⟩
  · refine ⟨_, _, _, _, sendTransportLocked_events hl hg hvalid (Nat.zero_le _) sent processTime,
      fun delivery => ?_⟩
    have hsize : (pad []).length ≤ plaintextCapacity := Nat.zero_le _
    have hopened := processTransportLocked_sealed hl hinv hg' hm hreplay hsize delivery
    exact ⟨_, hopened.trans (deliverPlaintext_empty _ _ _ delivery), rfl, rfl⟩

lemma symbolic_inverts : Inverts symbolic symbolicMeaning := by
  intro plaintext counter keypair
  simp [symbolic, symbolicMeaning, symbolicAead, authtagLen]

/-- The tunnel of a peer whose session is `keypair`. -/
def sessionContext (keypair : Keypair SymbolicKey) : TunnelContext SymbolicKey SymbolicHandshake :=
  ⟨⟨1, 2⟩, some ⟨none, fun _ => keypair⟩, 0, 0, 0, 0, 0, 0, 0, 0⟩

/-- The halves of the session of initiation 7, whose responder has index 9. -/
def initiatorKeypair : Keypair SymbolicKey :=
  ⟨true, true, true, (7, true), (7, false), 5, 7, 9, Replay.zero⟩

def responderKeypair : Keypair SymbolicKey :=
  ⟨true, true, true, (7, false), (7, true), 0, 9, 7, Replay.zero⟩

/-- An IPv4 header and one byte, padded to 32 bytes on the way. -/
def smallPacket : Bytes :=
  [69, 0, 0, 21, 0, 0, 0, 0, 64, 17, 0, 0, 10, 77, 0, 1, 10, 77, 0, 2, 33]

theorem transport_roundtrip_small :
    ∃ key counter plaintext datagram r,
      (sendTransportLocked symbolic (sessionContext initiatorKeypair) smallPacket 64 100).events =
          [.transport key counter plaintext datagram 64] ∧
        processTransportLocked symbolic (sessionContext responderKeypair) datagram ⟨true, true⟩ =
          some r ∧ r.result = 0 ∧
        r.events = [.accepted key counter, .tcpipInput key counter smallPacket] := by
  have hroutable : Routable smallPacket :=
    ⟨by decide, by decide, ⟨69, rfl, by decide⟩, ⟨0, 21, rfl, rfl, rfl⟩, by decide⟩
  have hm : Mirrored symbolic initiatorKeypair
      (⟨none, fun _ => responderKeypair⟩ : Peer SymbolicKey SymbolicHandshake) .curr :=
    ⟨by decide, rfl, rfl⟩
  exact (transport_roundtrip symbolic_lawful symbolic_inverts rfl rfl rfl hm (by decide +kernel)
    64 100).1 smallPacket hroutable

end MoonlightVita.Tunnel
