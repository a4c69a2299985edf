import MoonlightVita.PacketChecksum

/-!
# IPv4/UDP packets: `tsvita_build_ipv4_udp_packet` and `tsvita_validate_ipv4_udp_packet`

Pointers are optional byte strings, with their sizes passed separately as in the
source. Building writes into the caller's buffer and returns it.
-/
namespace MoonlightVita.Packet

def ipv4VersionAndIhl : UInt8 := 0x45
def ipv4DontFragment : UInt16 := 0x4000
def ipv4HeaderSize : ℕ := 20
def udpHeaderSize : ℕ := 8

abbrev Ipv4 : Type := Vector UInt8 4

def writeAt (buffer : List UInt8) (offset : ℕ) (bytes : List UInt8) : List UInt8 :=
  buffer.take offset ++ bytes ++ buffer.drop (offset + bytes.length)

def writeIpv4Header (output : List UInt8) (packetSize : ℕ) (sourceIp destinationIp : Ipv4)
    (identification : UInt16) : List UInt8 :=
  let output := writeAt output 0 [ipv4VersionAndIhl]
  let output := writeAt output 1 [0]
  let output := writeAt output 2 (be16Bytes (UInt16.ofNat packetSize))
  let output := writeAt output 4 (be16Bytes identification)
  let output := writeAt output 6 (be16Bytes ipv4DontFragment)
  let output := writeAt output 8 [64]
  let output := writeAt output 9 [ipv4ProtocolUdp]
  let output := writeAt output 12 sourceIp.toList
  let output := writeAt output 16 destinationIp.toList
  writeAt output 10 (be16Bytes (ipv4Checksum output))

def writeUdp (udp : List UInt8) (udpSize : ℕ) (sourceIp destinationIp : Ipv4)
    (sourcePort destinationPort : UInt16) (payload : List UInt8) : List UInt8 :=
  let udp := writeAt udp 0 (be16Bytes sourcePort)
  let udp := writeAt udp 2 (be16Bytes destinationPort)
  let udp := writeAt udp 4 (be16Bytes (UInt16.ofNat udpSize))
  let udp := writeAt udp udpHeaderSize payload
  let checksum := udpChecksum sourceIp.toList destinationIp.toList udp udpSize
  writeAt udp 6 (be16Bytes (if checksum = 0 then 0xFFFF else checksum))

/-- The packet size, or 0 on failure, and the buffer afterwards. -/
def tsvitaBuildIpv4UdpPacket (output : Option (List UInt8)) (outputCapacity : ℕ)
    (sourceIp destinationIp : Option Ipv4) (sourcePort destinationPort identification : UInt16)
    (payload : Option (List UInt8)) (payloadSize : ℕ) : ℕ × Option (List UInt8) :=
  match output, sourceIp, destinationIp with
  | some output, some sourceIp, some destinationIp =>
    if (payload = none ∧ payloadSize ≠ 0) ∨ 65507 < payloadSize then (0, some output)
    else
      let udpSize := udpHeaderSize + payloadSize
      let packetSize := ipv4HeaderSize + udpSize
      if 65535 < packetSize ∨ outputCapacity < packetSize then (0, some output)
      else
        let output := writeAt output 0 (List.replicate packetSize 0)
        let output := writeIpv4Header output packetSize sourceIp destinationIp identification
        let udp := writeUdp (output.drop ipv4HeaderSize) udpSize sourceIp destinationIp
          sourcePort destinationPort ((payload.getD []).take payloadSize)
        (packetSize, some (output.take ipv4HeaderSize ++ udp))
  | _, _, _ => (0, output)

def tsvitaValidateIpv4UdpPacket (packet : Option (List UInt8)) (packetSize : ℕ)
    (expectedSourceIp expectedDestinationIp : Option Ipv4)
    (expectedSourcePort expectedDestinationPort : UInt16)
    (expectedPayload : Option (List UInt8)) (expectedPayloadSize : ℕ) : Bool :=
  match packet, expectedSourceIp, expectedDestinationIp with
  | some packet, some expectedSourceIp, some expectedDestinationIp =>
    if (expectedPayload = none ∧ expectedPayloadSize ≠ 0) ∨
        packetSize < ipv4HeaderSize + udpHeaderSize ∨
        packet.getD 0 0 ≠ ipv4VersionAndIhl ∨ packet.getD 9 0 ≠ ipv4ProtocolUdp then false
    else
      let totalSize := readBe16 packet 2
      let fragment := readBe16 packet 6
      if totalSize.toNat < ipv4HeaderSize + udpHeaderSize ∨ packetSize < totalSize.toNat ∨
          fragment &&& 0x3FFF ≠ 0 ∨ ipv4Checksum packet ≠ 0 ∨
          (packet.drop 12).take 4 ≠ expectedSourceIp.toList ∨
          (packet.drop 16).take 4 ≠ expectedDestinationIp.toList then false
      else
        let udp := packet.drop ipv4HeaderSize
        let udpSize := readBe16 udp 4
        if readBe16 udp 0 ≠ expectedSourcePort ∨ readBe16 udp 2 ≠ expectedDestinationPort ∨
            udpSize.toNat ≠ totalSize.toNat - ipv4HeaderSize ∨
            udpSize.toNat ≠ udpHeaderSize + expectedPayloadSize then false
        else
          let receivedChecksum := readBe16 udp 6
          if receivedChecksum ≠ 0 ∧
              udpChecksum (packet.drop 12) (packet.drop 16) udp udpSize.toNat ≠ 0 then false
          else decide ((udp.drop udpHeaderSize).take expectedPayloadSize =
            (expectedPayload.getD []).take expectedPayloadSize)
  | _, _, _ => false

/-- What validation checks, field by field. -/
structure Valid (packet : List UInt8) (packetSize : ℕ) (sourceIp destinationIp : Ipv4)
    (sourcePort destinationPort : UInt16) (payload : List UInt8) : Prop where
  room : 28 ≤ packetSize
  version : packet.getD 0 0 = 0x45
  protocol : packet.getD 9 0 = 17
  total_ge : 28 ≤ (readBe16 packet 2).toNat
  total_le : (readBe16 packet 2).toNat ≤ packetSize
  unfragmented : readBe16 packet 6 &&& 0x3FFF = 0
  header_sum : ipv4Checksum packet = 0
  source : (packet.drop 12).take 4 = sourceIp.toList
  destination : (packet.drop 16).take 4 = destinationIp.toList
  source_port : readBe16 (packet.drop 20) 0 = sourcePort
  destination_port : readBe16 (packet.drop 20) 2 = destinationPort
  udp_total : (readBe16 (packet.drop 20) 4).toNat = (readBe16 packet 2).toNat - 20
  udp_payload : (readBe16 (packet.drop 20) 4).toNat = 8 + payload.length
  udp_sum : readBe16 (packet.drop 20) 6 = 0 ∨ udpChecksum (packet.drop 12) (packet.drop 16)
    (packet.drop 20) (readBe16 (packet.drop 20) 4).toNat = 0
  payload_eq : (packet.drop 28).take payload.length = payload

lemma guard_iff {c : Prop} [Decidable c] {x : Bool} :
    (if c then false else x) = true ↔ ¬ c ∧ x = true := by
  by_cases h : c <;> simp [h]

theorem validate_iff_valid (packet : List UInt8) (packetSize : ℕ) (sourceIp destinationIp : Ipv4)
    (sourcePort destinationPort : UInt16) (payload : List UInt8) :
    tsvitaValidateIpv4UdpPacket (some packet) packetSize (some sourceIp) (some destinationIp)
      sourcePort destinationPort (some payload) payload.length = true ↔
    Valid packet packetSize sourceIp destinationIp sourcePort destinationPort payload := by
  simp only [tsvitaValidateIpv4UdpPacket, ipv4HeaderSize, udpHeaderSize, ipv4VersionAndIhl,
    ipv4ProtocolUdp, Option.getD_some, List.take_length, List.drop_drop, guard_iff, not_or,
    not_and, not_not, not_lt, decide_eq_true_eq, ne_eq]
  constructor
  · rintro ⟨⟨_, h1, h2, h3⟩, ⟨h4, h5, h6, h7, h8, h9⟩, ⟨h10, h11, h12, h13⟩, h14, h15⟩
    exact ⟨h1, h2, h3, h4, h5, h6, h7, h8, h9, h10, h11, h12, h13, or_iff_not_imp_left.mpr h14, h15⟩
  · intro h
    exact ⟨⟨fun hn => absurd hn (by simp), h.room, h.version, h.protocol⟩,
      ⟨h.total_ge, h.total_le, h.unfragmented, h.header_sum, h.source, h.destination⟩,
      ⟨h.source_port, h.destination_port, h.udp_total, h.udp_payload⟩,
      or_iff_not_imp_left.mp h.udp_sum, h.payload_eq⟩

end MoonlightVita.Packet
