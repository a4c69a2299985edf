import MoonlightVita.PacketFormat

/-! Built packets validate against the values they were built from, and against
no others, whatever follows them in the receive buffer. -/
namespace MoonlightVita.Packet

/-- The twenty header bytes with a given checksum field. -/
def headerBytes (packetSize : ℕ) (sourceIp destinationIp : Ipv4)
    (identification checksum : UInt16) : List UInt8 :=
  [ipv4VersionAndIhl, 0] ++ be16Bytes (UInt16.ofNat packetSize) ++ be16Bytes identification ++
    be16Bytes ipv4DontFragment ++ [64, ipv4ProtocolUdp] ++ be16Bytes checksum ++
    sourceIp.toList ++ destinationIp.toList

/-- A UDP header with a given checksum field, and its payload. -/
def udpBytes (sourcePort destinationPort checksum : UInt16) (payload : List UInt8) : List UInt8 :=
  be16Bytes sourcePort ++ be16Bytes destinationPort ++
    be16Bytes (UInt16.ofNat (8 + payload.length)) ++ be16Bytes checksum ++ payload

lemma ipv4_toList (ip : Ipv4) : ip.toList = [ip[0], ip[1], ip[2], ip[3]] := by
  apply List.ext_getElem
  · simp
  · intro i hi _
    simp only [Vector.length_toList] at hi
    rcases i with _ | _ | _ | _ | i
    · rfl
    · rfl
    · rfl
    · rfl
    · omega

@[simp] lemma headerBytes_length (packetSize : ℕ) (sourceIp destinationIp : Ipv4)
    (identification checksum : UInt16) :
    (headerBytes packetSize sourceIp destinationIp identification checksum).length = 20 := by
  simp [headerBytes, be16Bytes]

@[simp] lemma udpBytes_length (sourcePort destinationPort checksum : UInt16) (payload : List UInt8) :
    (udpBytes sourcePort destinationPort checksum payload).length = 8 + payload.length := by
  simp [udpBytes, be16Bytes]
  omega

lemma writeAt_memset (output : List UInt8) (n : ℕ) :
    writeAt output 0 (List.replicate n 0) = List.replicate n 0 ++ output.drop n := by
  simp [writeAt]

/-- The header writes, in the order of the source, on a zeroed header. -/
lemma writeIpv4Header_zero (packetSize : ℕ) (sourceIp destinationIp : Ipv4)
    (identification : UInt16) (rest : List UInt8) :
    writeIpv4Header (List.replicate 20 0 ++ rest) packetSize sourceIp destinationIp identification =
      headerBytes packetSize sourceIp destinationIp identification
        (ipv4Checksum (headerBytes packetSize sourceIp destinationIp identification 0)) ++ rest := by
  simp [writeIpv4Header, headerBytes, ipv4_toList, be16Bytes, writeAt, List.replicate, ipv4Checksum]

lemma writeAt_append (front old bytes back : List UInt8) (offset : ℕ)
    (hf : front.length = offset) (h : bytes.length = old.length) :
    writeAt (front ++ (old ++ back)) offset bytes = front ++ (bytes ++ back) := by
  simp [writeAt, h, ← hf]

lemma writeAt_checksum (sourcePort destinationPort checksum : UInt16) (payload rest : List UInt8) :
    writeAt (udpBytes sourcePort destinationPort 0 payload ++ rest) 6 (be16Bytes checksum) =
      udpBytes sourcePort destinationPort checksum payload ++ rest := by
  simp [udpBytes, be16Bytes, writeAt]

lemma udpChecksum_append (sourceIp destinationIp udp rest : List UInt8) {n : ℕ}
    (h : udp.length = n) :
    udpChecksum sourceIp destinationIp (udp ++ rest) n =
      udpChecksum sourceIp destinationIp udp n := by
  rw [udpChecksum, udpChecksum, List.take_append_of_le_length h.ge]

/-- The checksum field that building stores: zero is sent as all ones. -/
def storedChecksum (checksum : UInt16) : UInt16 := if checksum = 0 then 0xFFFF else checksum

lemma writeUdp_zero (sourceIp destinationIp : Ipv4) (sourcePort destinationPort : UInt16)
    (payload rest : List UInt8) :
    writeUdp (List.replicate (8 + payload.length) 0 ++ rest) (8 + payload.length) sourceIp
        destinationIp sourcePort destinationPort payload =
      udpBytes sourcePort destinationPort (storedChecksum (udpChecksum sourceIp.toList
        destinationIp.toList (udpBytes sourcePort destinationPort 0 payload)
        (8 + payload.length))) payload ++ rest := by
  have hports : writeAt (writeAt (writeAt (List.replicate (8 + payload.length) 0 ++ rest) 0
      (be16Bytes sourcePort)) 2 (be16Bytes destinationPort)) 4
      (be16Bytes (UInt16.ofNat (8 + payload.length))) =
      (be16Bytes sourcePort ++ be16Bytes destinationPort ++
        be16Bytes (UInt16.ofNat (8 + payload.length)) ++ be16Bytes 0) ++
        (List.replicate payload.length 0 ++ rest) := by
    rw [List.replicate_add]
    simp [be16Bytes, writeAt, List.replicate]
  have hpayload := writeAt_append (be16Bytes sourcePort ++ be16Bytes destinationPort ++
    be16Bytes (UInt16.ofNat (8 + payload.length)) ++ be16Bytes 0)
    (List.replicate payload.length 0) payload rest 8 rfl (by simp)
  simp only [writeUdp, hports, udpHeaderSize, hpayload]
  rw [← List.append_assoc]
  change writeAt (udpBytes sourcePort destinationPort 0 payload ++ rest) 6 (be16Bytes
    (storedChecksum (udpChecksum sourceIp.toList destinationIp.toList
      (udpBytes sourcePort destinationPort 0 payload ++ rest) (8 + payload.length)))) = _
  rw [udpChecksum_append _ _ _ _ (udpBytes_length _ _ _ _), writeAt_checksum]

/-- A whole packet with given checksum fields. -/
def packetBytes (sourceIp destinationIp : Ipv4) (sourcePort destinationPort identification : UInt16)
    (payload : List UInt8) (headerSum udpSum : UInt16) : List UInt8 :=
  headerBytes (28 + payload.length) sourceIp destinationIp identification headerSum ++
    udpBytes sourcePort destinationPort udpSum payload

lemma length_packetBytes (sourceIp destinationIp : Ipv4)
    (sourcePort destinationPort identification : UInt16) (payload : List UInt8)
    (headerSum udpSum : UInt16) :
    (packetBytes sourceIp destinationIp sourcePort destinationPort identification payload headerSum
      udpSum).length = 28 + payload.length := by
  simp only [packetBytes, List.length_append, headerBytes_length, udpBytes_length]
  omega

/-- The checksum of the header before its own field is filled in. -/
def headerSum (sourceIp destinationIp : Ipv4) (identification : UInt16) (payload : List UInt8) :
    UInt16 :=
  ipv4Checksum (headerBytes (28 + payload.length) sourceIp destinationIp identification 0)

def udpSum (sourceIp destinationIp : Ipv4) (sourcePort destinationPort : UInt16)
    (payload : List UInt8) : UInt16 :=
  storedChecksum (udpChecksum sourceIp.toList destinationIp.toList
    (udpBytes sourcePort destinationPort 0 payload) (8 + payload.length))

/-- What building leaves in the buffer: the packet, and the old bytes behind it. -/
theorem build_eq (output : List UInt8) (sourceIp destinationIp : Ipv4)
    (sourcePort destinationPort identification : UInt16) (payload : List UInt8)
    (hsize : payload.length ≤ 65507) {capacity : ℕ} (hcap : 28 + payload.length ≤ capacity) :
    tsvitaBuildIpv4UdpPacket (some output) capacity (some sourceIp) (some destinationIp)
      sourcePort destinationPort identification (some payload) payload.length =
    (28 + payload.length,
      some (packetBytes sourceIp destinationIp sourcePort destinationPort identification payload
        (headerSum sourceIp destinationIp identification payload)
        (udpSum sourceIp destinationIp sourcePort destinationPort payload) ++
        output.drop (28 + payload.length))) := by
  have hn : 20 + (8 + payload.length) = 28 + payload.length := by omega
  simp only [tsvitaBuildIpv4UdpPacket, ipv4HeaderSize, udpHeaderSize, hn, Option.getD_some,
    List.take_length]
  rw [if_neg (by simp; omega), if_neg (by omega), writeAt_memset, ← hn, List.replicate_add,
    List.append_assoc, writeIpv4Header_zero, List.drop_left' (headerBytes_length _ _ _ _ _),
    List.take_left' (headerBytes_length _ _ _ _ _), writeUdp_zero, hn]
  simp only [packetBytes, List.append_assoc, headerSum, udpSum]

lemma checksumAdd_zero_toNat (data : List UInt8) (h : data.length ≤ 65535) :
    (checksumAdd 0 data).toNat = wordSum data := by
  have hle := wordSum_le data
  rw [checksumAdd_toNat, UInt32.toNat_zero, Nat.mod_eq_of_lt (by omega), Nat.zero_add]

/-- The pseudo header and the UDP words, summed without overflow. -/
def pseudoSum (sourceIp destinationIp udp : List UInt8) (udpSize : ℕ) : ℕ :=
  wordSum (sourceIp.take 4) + wordSum (destinationIp.take 4) + 17 + udpSize +
    wordSum (udp.take udpSize)

/-- What `udp_checksum` has added up before it folds the carries. -/
def udpAccumulator (sourceIp destinationIp udp : List UInt8) (udpSize : ℕ) : UInt32 :=
  checksumAdd (checksumAdd (checksumAdd 0 (sourceIp.take 4)) (destinationIp.take 4) +
    ipv4ProtocolUdp.toUInt32 + (UInt16.ofNat udpSize).toUInt32) (udp.take udpSize)

lemma udpChecksum_eq (sourceIp destinationIp udp : List UInt8) (udpSize : ℕ) :
    udpChecksum sourceIp destinationIp udp udpSize =
      checksumFinish (udpAccumulator sourceIp destinationIp udp udpSize) := rfl

/-- The 32-bit accumulator has room for the largest datagram. -/
theorem udpAccumulator_toNat (sourceIp destinationIp udp : List UInt8) {udpSize : ℕ}
    (h : udpSize ≤ 65535) : (udpAccumulator sourceIp destinationIp udp udpSize).toNat =
      pseudoSum sourceIp destinationIp udp udpSize := by
  have hs := wordSum_le (sourceIp.take 4)
  have hd := wordSum_le (destinationIp.take 4)
  have hu := wordSum_le (udp.take udpSize)
  have h1 := List.length_take_le 4 sourceIp
  have h2 := List.length_take_le 4 destinationIp
  have h3 := List.length_take_le udpSize udp
  have hsize : (UInt16.ofNat udpSize).toUInt32.toNat = udpSize := by
    rw [UInt16.toNat_toUInt32, UInt16.toNat_ofNat', Nat.mod_eq_of_lt (by omega)]
  have hproto : ipv4ProtocolUdp.toUInt32.toNat = 17 := rfl
  simp only [udpAccumulator, checksumAdd_toNat, UInt32.toNat_add, UInt32.toNat_zero, hsize, hproto,
    pseudoSum]
  omega

lemma headerBytes_wordSum (packetSize : ℕ) (sourceIp destinationIp : Ipv4)
    (identification checksum : UInt16) :
    wordSum (headerBytes packetSize sourceIp destinationIp identification checksum) =
      wordSum (headerBytes packetSize sourceIp destinationIp identification 0) +
        checksum.toNat := by
  simp only [headerBytes, ipv4_toList, be16Bytes, List.cons_append, List.nil_append, wordSum,
    be16_bytes, UInt16.toNat_zero]
  omega

lemma headerBytes_wordSum_pos (packetSize : ℕ) (sourceIp destinationIp : Ipv4)
    (identification : UInt16) :
    0 < wordSum (headerBytes packetSize sourceIp destinationIp identification 0) := by
  have hversion : (be16 ipv4VersionAndIhl 0).toNat = 0x4500 := rfl
  simp only [headerBytes, ipv4_toList, be16Bytes, List.cons_append, List.nil_append, wordSum,
    hversion]
  omega

lemma udpBytes_wordSum (sourcePort destinationPort checksum : UInt16) (payload : List UInt8) :
    wordSum (udpBytes sourcePort destinationPort checksum payload) =
      wordSum (udpBytes sourcePort destinationPort 0 payload) + checksum.toNat := by
  simp only [udpBytes, be16Bytes, List.cons_append, List.nil_append, wordSum, be16_bytes,
    UInt16.toNat_zero]
  omega

theorem header_checksum_valid (packetSize : ℕ) (sourceIp destinationIp : Ipv4)
    (identification : UInt16) (rest : List UInt8) :
    ipv4Checksum (headerBytes packetSize sourceIp destinationIp identification (ipv4Checksum
      (headerBytes packetSize sourceIp destinationIp identification 0)) ++ rest) = 0 := by
  have hlen := headerBytes_length packetSize sourceIp destinationIp identification
  have hpos := headerBytes_wordSum_pos packetSize sourceIp destinationIp identification
  have hzero : ipv4Checksum (headerBytes packetSize sourceIp destinationIp identification 0) =
      checksumFinish (checksumAdd 0
        (headerBytes packetSize sourceIp destinationIp identification 0)) := by
    rw [ipv4Checksum, List.take_of_length_le (hlen 0).le]
  have hdvd := dvd_add_checksumFinish (checksumAdd 0
    (headerBytes packetSize sourceIp destinationIp identification 0))
  rw [checksumAdd_zero_toNat _ (by rw [hlen]; norm_num)] at hdvd
  rw [ipv4Checksum, List.take_left' (hlen _), checksumFinish_eq_zero_iff,
    checksumAdd_zero_toNat _ (by rw [hlen]; norm_num), headerBytes_wordSum, hzero]
  exact ⟨by omega, hdvd⟩

/-- Sending zero as all ones does not change the sum modulo 65535. -/
lemma dvd_add_storedChecksum (sum : UInt32) :
    65535 ∣ sum.toNat + (storedChecksum (checksumFinish sum)).toNat := by
  unfold storedChecksum
  split_ifs with h
  · exact Nat.dvd_add ((checksumFinish_eq_zero_iff sum).mp h).2 (dvd_refl 65535)
  · exact dvd_add_checksumFinish sum

theorem udp_checksum_valid (sourceIp destinationIp : Ipv4) (sourcePort destinationPort : UInt16)
    (payload front back rest : List UInt8) (hsize : payload.length ≤ 65507)
    (hf : front.take 4 = sourceIp.toList) (hb : back.take 4 = destinationIp.toList) :
    udpChecksum front back (udpBytes sourcePort destinationPort
      (udpSum sourceIp destinationIp sourcePort destinationPort payload) payload ++ rest)
      (8 + payload.length) = 0 := by
  have hlen := fun c => udpBytes_length sourcePort destinationPort c payload
  have hroom : 8 + payload.length ≤ 65535 := by omega
  have hs := udpAccumulator_toNat sourceIp.toList destinationIp.toList
    (udpBytes sourcePort destinationPort 0 payload) hroom
  have ht := udpAccumulator_toNat front back (udpBytes sourcePort destinationPort
    (udpSum sourceIp destinationIp sourcePort destinationPort payload) payload) hroom
  set sum := udpAccumulator sourceIp.toList destinationIp.toList
    (udpBytes sourcePort destinationPort 0 payload) (8 + payload.length) with hsum
  have htotal : (udpAccumulator front back (udpBytes sourcePort destinationPort
      (udpSum sourceIp destinationIp sourcePort destinationPort payload) payload)
      (8 + payload.length)).toNat = sum.toNat +
      (udpSum sourceIp destinationIp sourcePort destinationPort payload).toNat := by
    rw [hs, ht, pseudoSum, pseudoSum, List.take_of_length_le (hlen _).le,
      List.take_of_length_le (hlen _).le, udpBytes_wordSum, hf, hb,
      List.take_of_length_le (by simp), List.take_of_length_le (by simp)]
    omega
  have hpos : sum.toNat ≠ 0 := by
    rw [hs, pseudoSum]
    omega
  rw [udpChecksum_append _ _ _ _ (hlen _), udpChecksum_eq, checksumFinish_eq_zero_iff, htotal,
    udpSum, udpChecksum_eq, ← hsum]
  exact ⟨by omega, dvd_add_storedChecksum sum⟩

section Fields
variable (sourceIp destinationIp : Ipv4) (sourcePort destinationPort identification : UInt16)
  (payload : List UInt8) (headerSum udpSum : UInt16) (extra : List UInt8)

lemma packetBytes_drop_header :
    (packetBytes sourceIp destinationIp sourcePort destinationPort identification payload
      headerSum udpSum ++ extra).drop 20 =
      udpBytes sourcePort destinationPort udpSum payload ++ extra := by
  rw [packetBytes, List.append_assoc, List.drop_left' (headerBytes_length _ _ _ _ _)]

lemma packetBytes_source :
    ((packetBytes sourceIp destinationIp sourcePort destinationPort identification payload
      headerSum udpSum ++ extra).drop 12).take 4 = sourceIp.toList := by
  simp [packetBytes, headerBytes, ipv4_toList, be16Bytes]

lemma packetBytes_destination :
    ((packetBytes sourceIp destinationIp sourcePort destinationPort identification payload
      headerSum udpSum ++ extra).drop 16).take 4 = destinationIp.toList := by
  simp [packetBytes, headerBytes, ipv4_toList, be16Bytes]

lemma readBe16_total :
    readBe16 (packetBytes sourceIp destinationIp sourcePort destinationPort identification payload
      headerSum udpSum ++ extra) 2 = UInt16.ofNat (28 + payload.length) := by
  simp only [packetBytes, headerBytes]
  generalize UInt16.ofNat (28 + payload.length) = size
  simp [be16Bytes, readBe16]

lemma packetBytes_total (hsize : payload.length ≤ 65507) :
    (readBe16 (packetBytes sourceIp destinationIp sourcePort destinationPort identification payload
      headerSum udpSum ++ extra) 2).toNat = 28 + payload.length := by
  rw [readBe16_total, UInt16.toNat_ofNat', Nat.mod_eq_of_lt (by omega)]

lemma packetBytes_unfragmented :
    readBe16 (packetBytes sourceIp destinationIp sourcePort destinationPort identification payload
      headerSum udpSum ++ extra) 6 &&& 0x3FFF = 0 := by
  have : readBe16 (packetBytes sourceIp destinationIp sourcePort destinationPort identification
      payload headerSum udpSum ++ extra) 6 = ipv4DontFragment := by
    simp [packetBytes, headerBytes, be16Bytes, readBe16]
  rw [this]
  decide

lemma udpBytes_sourcePort :
    readBe16 (udpBytes sourcePort destinationPort udpSum payload ++ extra) 0 = sourcePort := by
  simp [udpBytes, be16Bytes, readBe16]

lemma udpBytes_destinationPort :
    readBe16 (udpBytes sourcePort destinationPort udpSum payload ++ extra) 2 =
      destinationPort := by
  simp [udpBytes, be16Bytes, readBe16]

lemma udpBytes_size (hsize : payload.length ≤ 65507) :
    (readBe16 (udpBytes sourcePort destinationPort udpSum payload ++ extra) 4).toNat =
      8 + payload.length := by
  have : readBe16 (udpBytes sourcePort destinationPort udpSum payload ++ extra) 4 =
      UInt16.ofNat (8 + payload.length) := by
    simp only [udpBytes]
    generalize UInt16.ofNat (8 + payload.length) = size
    simp [be16Bytes, readBe16]
  rw [this, UInt16.toNat_ofNat', Nat.mod_eq_of_lt (by omega)]

lemma packetBytes_payload :
    (packetBytes sourceIp destinationIp sourcePort destinationPort identification payload
      headerSum udpSum ++ extra).drop 28 = payload ++ extra := by
  simp [packetBytes, headerBytes, udpBytes, ipv4_toList, be16Bytes]

end Fields

/-- A built packet is valid for its own values. -/
theorem built_valid (sourceIp destinationIp : Ipv4)
    (sourcePort destinationPort identification : UInt16) (payload extra : List UInt8)
    (hsize : payload.length ≤ 65507) {size : ℕ} (hroom : 28 + payload.length ≤ size) :
    Valid (packetBytes sourceIp destinationIp sourcePort destinationPort identification payload
      (headerSum sourceIp destinationIp identification payload)
      (udpSum sourceIp destinationIp sourcePort destinationPort payload) ++ extra) size
      sourceIp destinationIp sourcePort destinationPort payload where
  room := by omega
  version := by simp [packetBytes, headerBytes, ipv4VersionAndIhl]
  protocol := by simp [packetBytes, headerBytes, be16Bytes, ipv4ProtocolUdp]
  total_ge := by rw [packetBytes_total _ _ _ _ _ _ _ _ _ hsize]; omega
  total_le := by rw [packetBytes_total _ _ _ _ _ _ _ _ _ hsize]; exact hroom
  unfragmented := packetBytes_unfragmented _ _ _ _ _ _ _ _ _
  header_sum := by
    rw [packetBytes, List.append_assoc]
    exact header_checksum_valid _ _ _ _ _
  source := packetBytes_source _ _ _ _ _ _ _ _ _
  destination := packetBytes_destination _ _ _ _ _ _ _ _ _
  source_port := by rw [packetBytes_drop_header, udpBytes_sourcePort]
  destination_port := by rw [packetBytes_drop_header, udpBytes_destinationPort]
  udp_total := by
    rw [packetBytes_drop_header, udpBytes_size _ _ _ _ _ hsize,
      packetBytes_total _ _ _ _ _ _ _ _ _ hsize]
    omega
  udp_payload := by rw [packetBytes_drop_header, udpBytes_size _ _ _ _ _ hsize]
  udp_sum := by
    refine Or.inr ?_
    rw [packetBytes_drop_header, udpBytes_size _ _ _ _ _ hsize]
    exact udp_checksum_valid _ _ _ _ _ _ _ _ hsize (packetBytes_source _ _ _ _ _ _ _ _ _)
      (packetBytes_destination _ _ _ _ _ _ _ _ _)
  payload_eq := by rw [packetBytes_payload, List.take_left]

/-- Building succeeds, and validation recognises the packet, with anything behind
it, for exactly the values it was built from. -/
theorem build_validate (output : List UInt8) (sourceIp destinationIp : Ipv4)
    (sourcePort destinationPort identification : UInt16) (payload : List UInt8)
    (hsize : payload.length ≤ 65507) (hcap : 28 + payload.length ≤ output.length) :
    let built := tsvitaBuildIpv4UdpPacket (some output) output.length (some sourceIp)
      (some destinationIp) sourcePort destinationPort identification (some payload) payload.length
    built.1 = 28 + payload.length ∧
    ∃ buffer, built.2 = some buffer ∧ buffer.length = output.length ∧
      ∀ (extra : List UInt8) (expectedSourceIp expectedDestinationIp : Ipv4)
        (expectedSourcePort expectedDestinationPort : UInt16) (expectedPayload : List UInt8),
        tsvitaValidateIpv4UdpPacket (some (buffer.take built.1 ++ extra))
          (buffer.take built.1 ++ extra).length (some expectedSourceIp)
          (some expectedDestinationIp) expectedSourcePort expectedDestinationPort
          (some expectedPayload) expectedPayload.length = true ↔
        expectedSourceIp = sourceIp ∧ expectedDestinationIp = destinationIp ∧
          expectedSourcePort = sourcePort ∧ expectedDestinationPort = destinationPort ∧
          expectedPayload = payload := by
  intro built
  have hbuilt := build_eq output sourceIp destinationIp sourcePort destinationPort identification
    payload hsize hcap
  have hlen := length_packetBytes sourceIp destinationIp sourcePort destinationPort identification
    payload (headerSum sourceIp destinationIp identification payload)
    (udpSum sourceIp destinationIp sourcePort destinationPort payload)
  refine ⟨congrArg Prod.fst hbuilt, _, congrArg Prod.snd hbuilt, ?_, ?_⟩
  · rw [List.length_append, hlen, List.length_drop]
    omega
  · intro extra eSource eDestination eSourcePort eDestinationPort ePayload
    rw [show built.1 = 28 + payload.length from congrArg Prod.fst hbuilt, List.take_left' hlen,
      validate_iff_valid]
    constructor
    · intro h
      have hs := h.source
      have hd := h.destination
      have hsp := h.source_port
      have hdp := h.destination_port
      have hn := h.udp_payload
      have hp := h.payload_eq
      rw [packetBytes_source] at hs
      rw [packetBytes_destination] at hd
      rw [packetBytes_drop_header, udpBytes_sourcePort] at hsp
      rw [packetBytes_drop_header, udpBytes_destinationPort] at hdp
      rw [packetBytes_drop_header, udpBytes_size _ _ _ _ _ hsize] at hn
      rw [packetBytes_payload, List.take_left' (by omega)] at hp
      exact ⟨(Vector.toList_inj.mp hs).symm, (Vector.toList_inj.mp hd).symm, hsp.symm, hdp.symm,
        hp.symm⟩
    · rintro ⟨rfl, rfl, rfl, rfl, rfl⟩
      exact built_valid _ _ _ _ _ _ _ hsize (by rw [List.length_append, hlen]; omega)

/-- An echo request fits a 64-byte buffer, and is not mistaken for its own reply. -/
theorem build_validate_echo :
    let built := tsvitaBuildIpv4UdpPacket (some (List.replicate 64 0)) 64
      (some #v[10, 77, 0, 2]) (some #v[10, 77, 0, 1]) 40000 7777 0x5442
      (some [84, 83, 86]) 3
    built.1 = 31 ∧ ∃ buffer, built.2 = some buffer ∧
      tsvitaValidateIpv4UdpPacket (some (buffer.take built.1 ++ [0]))
        (buffer.take built.1 ++ [0]).length (some #v[10, 77, 0, 2]) (some #v[10, 77, 0, 1])
        40000 7777 (some [84, 83, 86]) 3 = true ∧
      tsvitaValidateIpv4UdpPacket (some (buffer.take built.1 ++ [0]))
        (buffer.take built.1 ++ [0]).length (some #v[10, 77, 0, 1]) (some #v[10, 77, 0, 2])
        7777 40000 (some [84, 83, 86]) 3 ≠ true := by
  have h := build_validate (List.replicate 64 0) #v[10, 77, 0, 2] #v[10, 77, 0, 1] 40000 7777
    0x5442 [84, 83, 86] (by decide) (by decide)
  obtain ⟨hsize, buffer, hbuffer, _, hvalid⟩ := h
  refine ⟨hsize, buffer, hbuffer, ?_, ?_⟩
  · exact (hvalid [0] _ _ _ _ _).mpr ⟨rfl, rfl, rfl, rfl, rfl⟩
  · intro hreply
    exact absurd ((hvalid [0] _ _ _ _ _).mp hreply).2.2.1 (by decide)

end MoonlightVita.Packet
