import MoonlightVita.PacketRoundtrip

/-!
# What validation accepts

Unfragmented IPv4/UDP datagrams without options, defined by sums over unbounded
numbers, and that validation accepts exactly these.
-/
namespace MoonlightVita.Packet
open Finset

/-- The word at an offset, in network order; beyond the end all bytes are zero. -/
def wordAt (bytes : List UInt8) (offset : ℕ) : ℕ :=
  (bytes.getD offset 0).toNat * 256 + (bytes.getD (offset + 1) 0).toNat

/-- The words of a byte string; an odd last byte is padded with zero. -/
def sumOfWords (bytes : List UInt8) : ℕ := ∑ i ∈ range ((bytes.length + 1) / 2), wordAt bytes (2 * i)

def NonzeroMultiple (sum : ℕ) : Prop := sum ≠ 0 ∧ 65535 ∣ sum

/-- The addresses, the protocol and the length of the pseudo header, and the UDP words. -/
def udpTotal (datagram : List UInt8) : ℕ :=
  sumOfWords ((datagram.drop 12).take 8) + 17 + (datagram.length - 20) +
    sumOfWords (datagram.drop 20)

/-- An IPv4/UDP datagram with these addresses, ports and payload. -/
structure Datagram (datagram : List UInt8) (sourceIp destinationIp : Ipv4)
    (sourcePort destinationPort : UInt16) (payload : List UInt8) : Prop where
  long : 28 ≤ datagram.length
  version : datagram.getD 0 0 = 0x45
  protocol : datagram.getD 9 0 = 17
  totalLength : wordAt datagram 2 = datagram.length
  unfragmented : wordAt datagram 6 % 2 ^ 14 = 0
  headerSum : NonzeroMultiple (sumOfWords (datagram.take 20))
  source : (datagram.drop 12).take 4 = sourceIp.toList
  destination : (datagram.drop 16).take 4 = destinationIp.toList
  sourcePort : wordAt datagram 20 = sourcePort.toNat
  destinationPort : wordAt datagram 22 = destinationPort.toNat
  udpLength : wordAt datagram 24 = datagram.length - 20
  payloadLength : datagram.length - 20 = 8 + payload.length
  udpSum : wordAt datagram 26 = 0 ∨ NonzeroMultiple (udpTotal datagram)
  payload : datagram.drop 28 = payload

section Words
variable {bytes : List UInt8}

lemma readBe16_toNat (offset : ℕ) : (readBe16 bytes offset).toNat = wordAt bytes offset :=
  be16_toNat _ _

lemma wordAt_le (offset : ℕ) : wordAt bytes offset ≤ 65535 := by
  rw [← readBe16_toNat]
  exact Nat.le_of_lt_succ (UInt16.toNat_lt _)

lemma wordAt_drop (offset k : ℕ) : wordAt (bytes.drop offset) k = wordAt bytes (offset + k) := by
  simp only [wordAt, List.getD_eq_getElem?_getD, List.getElem?_drop, Nat.add_assoc]

lemma wordAt_take {n offset : ℕ} (h : offset + 1 < n) :
    wordAt (bytes.take n) offset = wordAt bytes offset := by
  simp only [wordAt, List.getD_eq_getElem?_getD]
  rw [List.getElem?_take_of_lt (by omega), List.getElem?_take_of_lt h]

lemma wordSum_eq : wordSum bytes = sumOfWords bytes := by
  induction bytes using wordSum.induct with
  | case1 high low bytes ih =>
    have hhalf : (bytes.length + 1 + 1 + 1) / 2 = (bytes.length + 1) / 2 + 1 := by omega
    simp only [wordSum, sumOfWords, List.length_cons, hhalf]
    rw [sum_range_succ', ih, be16_toNat, Nat.add_comm]
    congr 1
  | case2 last => simp [wordSum, sumOfWords, wordAt]
  | case3 => simp [wordSum, sumOfWords]

end Words

section Sums
variable {packet : List UInt8} {n : ℕ}

lemma ipv4Checksum_eq_zero_iff :
    ipv4Checksum packet = 0 ↔ NonzeroMultiple (sumOfWords (packet.take 20)) := by
  have hlength : (packet.take 20).length ≤ 65535 := (List.length_take_le 20 packet).trans (by norm_num)
  rw [ipv4Checksum, checksumFinish_eq_zero_iff, checksumAdd_zero_toNat _ hlength, wordSum_eq,
    NonzeroMultiple]

/-- Byte strings of even length add up word by word. -/
lemma wordSum_append {front : List UInt8} (h : front.length % 2 = 0) (back : List UInt8) :
    wordSum (front ++ back) = wordSum front + wordSum back := by
  induction front using wordSum.induct with
  | case1 high low front ih =>
    simp only [List.length_cons] at h
    simp only [List.cons_append, wordSum]
    rw [ih (by omega), Nat.add_assoc]
  | case2 last => simp at h
  | case3 => simp [wordSum]

lemma take_four_append : packet.take 4 ++ (packet.drop 4).take 4 = packet.take 8 :=
  List.take_add.symm

lemma pseudoSum_eq (hlong : 28 ≤ n) (hn : n ≤ packet.length) :
    pseudoSum (packet.drop 12) (packet.drop 16) (packet.drop 20) (n - 20) =
      udpTotal (packet.take n) := by
  have haddresses : wordSum ((packet.drop 12).take 4) + wordSum ((packet.drop 16).take 4) =
      sumOfWords (((packet.take n).drop 12).take 8) := by
    have heven : ((packet.drop 12).take 4).length % 2 = 0 := by
      rw [List.length_take, List.length_drop]
      omega
    rw [← wordSum_append heven, ← wordSum_eq, List.drop_take, List.take_take,
      min_eq_left (by omega), ← take_four_append, List.drop_drop]
  have hudp : wordSum ((packet.drop 20).take (n - 20)) = sumOfWords ((packet.take n).drop 20) := by
    rw [← wordSum_eq, List.drop_take]
  rw [pseudoSum, udpTotal, ← haddresses, ← hudp, List.length_take, min_eq_left hn]

lemma udpChecksum_eq_zero_iff (hlong : 28 ≤ n) (hn : n ≤ packet.length) (hmax : n ≤ 65535) :
    udpChecksum (packet.drop 12) (packet.drop 16) (packet.drop 20) (n - 20) = 0 ↔
      NonzeroMultiple (udpTotal (packet.take n)) := by
  rw [udpChecksum_eq, checksumFinish_eq_zero_iff, udpAccumulator_toNat _ _ _ (by omega),
    pseudoSum_eq hlong hn, NonzeroMultiple]

end Sums

lemma and_eq_zero_iff (value : UInt16) : value &&& 0x3FFF = 0 ↔ value.toNat % 2 ^ 14 = 0 := by
  rw [← UInt16.toNat_inj, UInt16.toNat_and, ← Nat.and_two_pow_sub_one_eq_mod]
  rfl

lemma take_drop_take {packet : List UInt8} {n offset width : ℕ} (h : offset + width ≤ n) :
    ((packet.take n).drop offset).take width = (packet.drop offset).take width := by
  rw [List.drop_take, List.take_take, min_eq_left (by omega)]

lemma getD_take {packet : List UInt8} {n i : ℕ} (h : i < n) :
    (packet.take n).getD i 0 = packet.getD i 0 := by
  simp only [List.getD_eq_getElem?_getD, List.getElem?_take_of_lt h]

section Fields
variable {packet : List UInt8} {packetSize : ℕ} {sourceIp destinationIp : Ipv4}
  {sourcePort destinationPort : UInt16} {payload : List UInt8}

/-- The first bytes of a valid buffer, as many as the header says, are a datagram. -/
lemma Valid.datagram (hsize : packetSize ≤ packet.length)
    (h : Valid packet packetSize sourceIp destinationIp sourcePort destinationPort payload) :
    wordAt packet 2 ≤ packetSize ∧
      Datagram (packet.take (wordAt packet 2)) sourceIp destinationIp sourcePort destinationPort
        payload := by
  set n := wordAt packet 2 with hn
  have hlong : 28 ≤ n := by
    rw [hn, ← readBe16_toNat]
    exact h.total_ge
  have hroom : n ≤ packetSize := by
    rw [hn, ← readBe16_toNat]
    exact h.total_le
  have hlength : (packet.take n).length = n := by
    rw [List.length_take]
    omega
  have hudp : wordAt packet 24 = n - 20 := by
    have hudp := h.udp_total
    rwa [readBe16_toNat, readBe16_toNat, wordAt_drop] at hudp
  have hpayload : n - 20 = 8 + payload.length := by
    have hpayload := h.udp_payload
    rwa [readBe16_toNat, wordAt_drop, hudp] at hpayload
  refine ⟨hroom, ?_⟩
  exact
    { long := by omega
      version := by rw [getD_take (by omega), h.version]
      protocol := by rw [getD_take (by omega), h.protocol]
      totalLength := by rw [hlength, wordAt_take (by omega)]
      unfragmented := by
        rw [wordAt_take (by omega), ← readBe16_toNat]
        exact (and_eq_zero_iff _).mp h.unfragmented
      headerSum := by
        rw [List.take_take, min_eq_left (by omega)]
        exact ipv4Checksum_eq_zero_iff.mp h.header_sum
      source := by rw [take_drop_take (by omega), h.source]
      destination := by rw [take_drop_take (by omega), h.destination]
      sourcePort := by
        rw [wordAt_take (by omega), ← h.source_port, readBe16_toNat, wordAt_drop]
      destinationPort := by
        rw [wordAt_take (by omega), ← h.destination_port, readBe16_toNat, wordAt_drop]
      udpLength := by rw [wordAt_take (by omega), hlength, hudp]
      payloadLength := by rw [hlength, hpayload]
      udpSum := by
        rw [wordAt_take (by omega), ← udpChecksum_eq_zero_iff hlong (by omega) (wordAt_le 2)]
        have hsum := h.udp_sum
        rwa [← UInt16.toNat_inj, readBe16_toNat, wordAt_drop, readBe16_toNat, wordAt_drop,
          hudp] at hsum
      payload := by
        rw [List.drop_take, show n - 28 = payload.length by omega]
        exact h.payload_eq }

lemma Datagram.valid (hsize : packetSize ≤ packet.length) (hroom : wordAt packet 2 ≤ packetSize)
    (h : Datagram (packet.take (wordAt packet 2)) sourceIp destinationIp sourcePort destinationPort
      payload) :
    Valid packet packetSize sourceIp destinationIp sourcePort destinationPort payload := by
  set n := wordAt packet 2 with hn
  have hlength : (packet.take n).length = n := by
    rw [List.length_take]
    omega
  have hlong : 28 ≤ n := hlength ▸ h.long
  have hudp : wordAt packet 24 = n - 20 := by
    have hudp := h.udpLength
    rwa [wordAt_take (by omega), hlength] at hudp
  have hpayload : n - 20 = 8 + payload.length := hlength ▸ h.payloadLength
  exact
    { room := by omega
      version := by
        have hversion := h.version
        rwa [getD_take (by omega)] at hversion
      protocol := by
        have hprotocol := h.protocol
        rwa [getD_take (by omega)] at hprotocol
      total_ge := by rwa [readBe16_toNat, ← hn]
      total_le := by rwa [readBe16_toNat, ← hn]
      unfragmented := by
        have hfragment := h.unfragmented
        rwa [wordAt_take (by omega), ← readBe16_toNat, ← and_eq_zero_iff] at hfragment
      header_sum := by
        have hsum := h.headerSum
        rw [List.take_take, min_eq_left (by omega)] at hsum
        exact ipv4Checksum_eq_zero_iff.mpr hsum
      source := by
        have hsource := h.source
        rwa [take_drop_take (by omega)] at hsource
      destination := by
        have hdestination := h.destination
        rwa [take_drop_take (by omega)] at hdestination
      source_port := by
        rw [← UInt16.toNat_inj, readBe16_toNat, wordAt_drop, ← h.sourcePort,
          wordAt_take (by omega)]
      destination_port := by
        rw [← UInt16.toNat_inj, readBe16_toNat, wordAt_drop, ← h.destinationPort,
          wordAt_take (by omega)]
      udp_total := by rw [readBe16_toNat, wordAt_drop, hudp, readBe16_toNat, ← hn]
      udp_payload := by rw [readBe16_toNat, wordAt_drop, hudp, hpayload]
      udp_sum := by
        have hsum := h.udpSum
        rw [wordAt_take (by omega), ← udpChecksum_eq_zero_iff hlong (by omega) (wordAt_le 2)] at hsum
        rwa [← UInt16.toNat_inj, readBe16_toNat, wordAt_drop, readBe16_toNat, wordAt_drop, hudp]
      payload_eq := by
        have hfront := h.payload
        rwa [List.drop_take, show n - 28 = payload.length by omega] at hfront }

/-- Validation looks at the first bytes of the buffer, as many as the header says. -/
theorem valid_iff_datagram (hsize : packetSize ≤ packet.length) :
    Valid packet packetSize sourceIp destinationIp sourcePort destinationPort payload ↔
      wordAt packet 2 ≤ packetSize ∧
        Datagram (packet.take (wordAt packet 2)) sourceIp destinationIp sourcePort destinationPort
          payload :=
  ⟨fun h => h.datagram hsize, fun h => h.2.valid hsize h.1⟩

/-- The payload that a pointer and a size stand for. -/
lemma validate_payload {expected : Option (List UInt8)} {expectedSize : ℕ}
    (hnull : expected = none → expectedSize = 0)
    (hexpected : ∀ bytes, expected = some bytes → expectedSize ≤ bytes.length) :
    tsvitaValidateIpv4UdpPacket (some packet) packetSize (some sourceIp) (some destinationIp)
        sourcePort destinationPort expected expectedSize =
      tsvitaValidateIpv4UdpPacket (some packet) packetSize (some sourceIp) (some destinationIp)
        sourcePort destinationPort (some ((expected.getD []).take expectedSize))
        ((expected.getD []).take expectedSize).length := by
  cases expected with
  | none =>
    rw [hnull rfl]
    simp [tsvitaValidateIpv4UdpPacket]
  | some bytes =>
    have hlength : (bytes.take expectedSize).length = expectedSize := by
      rw [List.length_take]
      exact min_eq_left (hexpected bytes rfl)
    simp only [tsvitaValidateIpv4UdpPacket, Option.getD_some, hlength, List.take_take, min_self,
      reduceCtorEq]

end Fields

/-- An IPv4/UDP datagram for the expected values at the front of the received bytes. Null
pointers are for no packet and no address, and for an empty payload only. -/
def Accepted (packet : Option (List UInt8)) (packetSize : ℕ)
    (expectedSourceIp expectedDestinationIp : Option Ipv4)
    (expectedSourcePort expectedDestinationPort : UInt16)
    (expectedPayload : Option (List UInt8)) (expectedPayloadSize : ℕ) : Prop :=
  ∃ bytes sourceIp destinationIp, packet = some bytes ∧ expectedSourceIp = some sourceIp ∧
    expectedDestinationIp = some destinationIp ∧
    (expectedPayload = none → expectedPayloadSize = 0) ∧ wordAt bytes 2 ≤ packetSize ∧
    Datagram (bytes.take (wordAt bytes 2)) sourceIp destinationIp expectedSourcePort
      expectedDestinationPort ((expectedPayload.getD []).take expectedPayloadSize)

/-- The pointer is null, or to at least as many bytes. -/
def Points (buffer : Option (List UInt8)) (size : ℕ) : Prop :=
  ∀ bytes, buffer = some bytes → size ≤ bytes.length

lemma validate_iff_accepted {packet : Option (List UInt8)} {packetSize : ℕ}
    {expectedSourceIp expectedDestinationIp : Option Ipv4}
    {expectedSourcePort expectedDestinationPort : UInt16}
    {expectedPayload : Option (List UInt8)} {expectedPayloadSize : ℕ}
    (hpacket : Points packet packetSize) (hpayload : Points expectedPayload expectedPayloadSize) :
    tsvitaValidateIpv4UdpPacket packet packetSize expectedSourceIp expectedDestinationIp
        expectedSourcePort expectedDestinationPort expectedPayload expectedPayloadSize = true ↔
      Accepted packet packetSize expectedSourceIp expectedDestinationIp expectedSourcePort
        expectedDestinationPort expectedPayload expectedPayloadSize := by
  rcases packet with _ | bytes
  · exact iff_of_false (by simp [tsvitaValidateIpv4UdpPacket]) (by simp [Accepted])
  rcases expectedSourceIp with _ | sourceIp
  · exact iff_of_false (by simp [tsvitaValidateIpv4UdpPacket]) (by simp [Accepted])
  rcases expectedDestinationIp with _ | destinationIp
  · exact iff_of_false (by simp [tsvitaValidateIpv4UdpPacket]) (by simp [Accepted])
  by_cases hnull : expectedPayload = none → expectedPayloadSize = 0
  · rw [validate_payload hnull hpayload, validate_iff_valid, valid_iff_datagram (hpacket bytes rfl)]
    constructor
    · rintro ⟨hroom, hdatagram⟩
      exact ⟨bytes, sourceIp, destinationIp, rfl, rfl, rfl, hnull, hroom, hdatagram⟩
    · rintro ⟨_, _, _, ⟨⟩, ⟨⟩, ⟨⟩, -, hroom, hdatagram⟩
      exact ⟨hroom, hdatagram⟩
  · refine iff_of_false ?_ ?_
    · push Not at hnull
      simp [tsvitaValidateIpv4UdpPacket, hnull]
    · rintro ⟨-, -, -, -, -, -, hnull', -⟩
      exact hnull hnull'

/-- Validation accepts exactly the datagrams for the expected values, no sum of it overflows,
and what follows the datagram in the buffer is of no concern. -/
theorem validate_iff_reference {packet : Option (List UInt8)} {packetSize : ℕ}
    {expectedSourceIp expectedDestinationIp : Option Ipv4}
    {expectedSourcePort expectedDestinationPort : UInt16}
    {expectedPayload : Option (List UInt8)} {expectedPayloadSize : ℕ}
    (hpacket : Points packet packetSize) (hpayload : Points expectedPayload expectedPayloadSize) :
    (tsvitaValidateIpv4UdpPacket packet packetSize expectedSourceIp expectedDestinationIp
        expectedSourcePort expectedDestinationPort expectedPayload expectedPayloadSize = true ↔
      Accepted packet packetSize expectedSourceIp expectedDestinationIp expectedSourcePort
        expectedDestinationPort expectedPayload expectedPayloadSize) ∧
    (∀ bytes, packet = some bytes →
      (checksumAdd 0 (bytes.take 20)).toNat = sumOfWords (bytes.take 20) ∧
      (28 ≤ wordAt bytes 2 → wordAt bytes 2 ≤ packetSize →
        (udpAccumulator (bytes.drop 12) (bytes.drop 16) (bytes.drop 20)
          (wordAt bytes 2 - 20)).toNat = udpTotal (bytes.take (wordAt bytes 2)))) ∧
    (∀ bytes bytes', packet = some bytes → packetSize ≤ bytes'.length →
      wordAt bytes' 2 = wordAt bytes 2 →
      bytes'.take (wordAt bytes 2) = bytes.take (wordAt bytes 2) →
      tsvitaValidateIpv4UdpPacket (some bytes') packetSize expectedSourceIp
          expectedDestinationIp expectedSourcePort expectedDestinationPort expectedPayload
          expectedPayloadSize =
        tsvitaValidateIpv4UdpPacket packet packetSize expectedSourceIp expectedDestinationIp
          expectedSourcePort expectedDestinationPort expectedPayload expectedPayloadSize) := by
  refine ⟨validate_iff_accepted hpacket hpayload, fun bytes hbytes => ⟨?_, fun hlong hroom => ?_⟩,
    fun bytes bytes' hbytes hbytes' hlength hfront => ?_⟩
  · have hlength : (bytes.take 20).length ≤ 65535 :=
      (List.length_take_le 20 bytes).trans (by norm_num)
    rw [checksumAdd_zero_toNat _ hlength, wordSum_eq]
  · have hmax : wordAt bytes 2 ≤ 65535 := wordAt_le 2
    rw [udpAccumulator_toNat _ _ _ (by omega), pseudoSum_eq hlong (hroom.trans (hpacket bytes hbytes))]
  · have hpoints : Points (some bytes') packetSize := by
      intro bytes'' he
      cases he
      exact hbytes'
    rw [Bool.eq_iff_iff, validate_iff_accepted hpoints hpayload,
      validate_iff_accepted hpacket hpayload, hbytes]
    simp [Accepted, hlength, hfront]

/-- A packet of 31 bytes with the payload `TSV`, and one byte behind it. -/
def echoPacket : List UInt8 :=
  [69, 0, 0, 31, 84, 66, 64, 0, 64, 17, 209, 239, 10, 77, 0, 2, 10, 77, 0, 1, 156, 64, 30, 97, 0, 11,
    134, 70, 84, 83, 86, 0]

theorem validate_iff_reference_echo :
    Accepted (some echoPacket) 32 (some #v[10, 77, 0, 2]) (some #v[10, 77, 0, 1]) 40000 7777
      (some [84, 83, 86]) 3 := by
  have hpacket : Points (some echoPacket) 32 := by simp [Points, echoPacket]
  have hpayload : Points (some [84, 83, 86]) 3 := by simp [Points]
  exact (validate_iff_reference hpacket hpayload).1.mp (by decide +kernel)

end MoonlightVita.Packet
