import MoonlightVita.PacketReference

/-!
# Changes of one word of a packet

A built packet with one of its words changed is not valid any more, unless the
change is one that the checksum cannot see.
-/
namespace MoonlightVita.Packet
open Finset

/-- Byte strings of one length that agree outside of the word at an even offset. -/
structure OneWord (offset : ℕ) (bytes changed : List UInt8) : Prop where
  length : changed.length = bytes.length
  even : offset % 2 = 0
  rest : ∀ i, i ≠ offset → i ≠ offset + 1 → changed.getD i 0 = bytes.getD i 0

section OneWord
variable {offset : ℕ} {bytes changed : List UInt8}

lemma OneWord.wordAt_eq (h : OneWord offset bytes changed) {k : ℕ} (heven : k % 2 = 0)
    (hne : k ≠ offset) : wordAt changed k = wordAt bytes k := by
  have hparity := h.even
  rw [wordAt, wordAt, h.rest k hne (by omega), h.rest (k + 1) (by omega) (by omega)]

lemma OneWord.eq (h : OneWord offset bytes changed)
    (hword : wordAt changed offset = wordAt bytes offset) : changed = bytes := by
  have hbyte : ∀ i, changed.getD i 0 = bytes.getD i 0 := by
    intro i
    have hlow := UInt8.toNat_lt (changed.getD (offset + 1) 0)
    have hlow' := UInt8.toNat_lt (bytes.getD (offset + 1) 0)
    unfold wordAt at hword
    by_cases hhigh : i = offset
    · rw [hhigh, ← UInt8.toNat_inj]
      omega
    by_cases hnext : i = offset + 1
    · rw [hnext, ← UInt8.toNat_inj]
      omega
    · exact h.rest i hhigh hnext
  refine List.ext_getElem h.length fun i hi hi' => ?_
  have hi'' := hbyte i
  rwa [List.getD_eq_getElem _ _ hi, List.getD_eq_getElem _ _ hi'] at hi''

/-- The sums differ by the words. -/
lemma OneWord.sumOfWords (h : OneWord offset bytes changed) (hlt : offset < bytes.length) :
    sumOfWords changed + wordAt bytes offset = sumOfWords bytes + wordAt changed offset := by
  have heven := h.even
  have hmem : offset / 2 ∈ range ((bytes.length + 1) / 2) := mem_range.mpr (by omega)
  have hrest : ∑ i ∈ (range ((bytes.length + 1) / 2)).erase (offset / 2), wordAt changed (2 * i) =
      ∑ i ∈ (range ((bytes.length + 1) / 2)).erase (offset / 2), wordAt bytes (2 * i) := by
    refine sum_congr rfl fun i hi => ?_
    have hne : i ≠ offset / 2 := (mem_erase.mp hi).1
    exact h.wordAt_eq (by omega) (by omega)
  have hchanged := add_sum_erase _ (fun i => wordAt changed (2 * i)) hmem
  have hbytes := add_sum_erase _ (fun i => wordAt bytes (2 * i)) hmem
  simp only [show 2 * (offset / 2) = offset by omega] at hchanged hbytes
  rw [Packet.sumOfWords, Packet.sumOfWords, h.length, ← hchanged, ← hbytes, hrest]
  omega

lemma OneWord.drop {n : ℕ} (h : OneWord offset bytes changed) (hn : n % 2 = 0) (hle : n ≤ offset) :
    OneWord (offset - n) (bytes.drop n) (changed.drop n) where
  length := by rw [List.length_drop, List.length_drop, h.length]
  even := by
    have heven := h.even
    omega
  rest := by
    intro i hne hne'
    simp only [List.getD_eq_getElem?_getD, List.getElem?_drop]
    have hi := h.rest (n + i) (by omega) (by omega)
    simpa only [List.getD_eq_getElem?_getD] using hi

lemma OneWord.take {n : ℕ} (h : OneWord offset bytes changed) :
    OneWord offset (bytes.take n) (changed.take n) where
  length := by rw [List.length_take, List.length_take, h.length]
  even := h.even
  rest := by
    intro i hne hne'
    by_cases hi : i < n
    · rw [getD_take hi, getD_take hi]
      exact h.rest i hne hne'
    · rw [List.getD_eq_default _ _ (by rw [List.length_take]; omega),
        List.getD_eq_default _ _ (by rw [List.length_take]; omega)]

/-- Two words with one sum modulo 65535 are equal, or they are its two zeros. -/
lemma OneWord.wordAt_eq_of_multiples (h : OneWord offset bytes changed)
    (hlt : offset < bytes.length) {rest : ℕ} (hsum : 65535 ∣ rest + Packet.sumOfWords bytes)
    (hsum' : 65535 ∣ rest + Packet.sumOfWords changed)
    (hones : ¬ (wordAt bytes offset = 0 ∧ wordAt changed offset = 0xFFFF))
    (hzero : ¬ (wordAt bytes offset = 0xFFFF ∧ wordAt changed offset = 0)) :
    wordAt changed offset = wordAt bytes offset := by
  have hword : ∀ bytes, wordAt bytes offset < 65536 := by
    intro bytes
    rw [← readBe16_toNat]
    exact UInt16.toNat_lt _
  have hbytes := hword bytes
  have hchanged := hword changed
  have hdiffer := h.sumOfWords hlt
  omega

end OneWord

section Fields
variable {sourceIp destinationIp : Ipv4} {sourcePort destinationPort : UInt16}
  {payload datagram changed : List UInt8}

lemma Datagram.addresses
    (h : Datagram datagram sourceIp destinationIp sourcePort destinationPort payload) :
    (datagram.drop 12).take 8 = sourceIp.toList ++ destinationIp.toList := by
  rw [← take_four_append, List.drop_drop, h.source, h.destination]

/-- Of the datagrams for given values no two differ in one word only, but for the words that
the checksum cannot tell apart and for a missing UDP checksum. -/
lemma Datagram.eq_of_oneWord
    (h : Datagram datagram sourceIp destinationIp sourcePort destinationPort payload)
    (h' : Datagram changed sourceIp destinationIp sourcePort destinationPort payload)
    (hudp : 65535 ∣ udpTotal datagram) {offset : ℕ} (hone : OneWord offset datagram changed)
    (hlt : offset < datagram.length) (hmissing : ¬ (offset = 26 ∧ wordAt changed 26 = 0))
    (hones : ¬ (wordAt datagram offset = 0 ∧ wordAt changed offset = 0xFFFF))
    (hzero : ¬ (wordAt datagram offset = 0xFFFF ∧ wordAt changed offset = 0)) :
    changed = datagram := by
  have heven := hone.even
  have hlong := h.long
  refine hone.eq ?_
  by_cases hheader : offset < 12
  · have hword : ∀ bytes : List UInt8, wordAt (bytes.take 20) offset = wordAt bytes offset :=
      fun bytes => wordAt_take (by omega)
    have hsum : 65535 ∣ 0 + sumOfWords (datagram.take 20) := by simpa using h.headerSum.2
    have hsum' : 65535 ∣ 0 + sumOfWords (changed.take 20) := by simpa using h'.headerSum.2
    have heq := (hone.take (n := 20)).wordAt_eq_of_multiples (by rw [List.length_take]; omega)
      hsum hsum' (by rwa [hword, hword]) (by rwa [hword, hword])
    rwa [hword, hword] at heq
  by_cases haddress : offset < 20
  · have hword : ∀ bytes : List UInt8,
        wordAt ((bytes.drop 12).take 8) (offset - 12) = wordAt bytes offset := by
      intro bytes
      rw [wordAt_take (by omega), wordAt_drop, Nat.add_sub_cancel' (by omega)]
    rw [← hword changed, ← hword datagram, h.addresses, h'.addresses]
  by_cases hpayload : 28 ≤ offset
  · have hword : ∀ bytes : List UInt8,
        wordAt (bytes.drop 28) (offset - 28) = wordAt bytes offset := by
      intro bytes
      rw [wordAt_drop, Nat.add_sub_cancel' hpayload]
    rw [← hword changed, ← hword datagram, h.payload, h'.payload]
  obtain rfl | rfl | rfl | rfl : offset = 20 ∨ offset = 22 ∨ offset = 24 ∨ offset = 26 := by omega
  · rw [h.sourcePort, h'.sourcePort]
  · rw [h.destinationPort, h'.destinationPort]
  · rw [h.udpLength, h'.udpLength, hone.length]
  · have hudp' : 65535 ∣ udpTotal changed :=
      (h'.udpSum.resolve_left fun hnone => hmissing ⟨rfl, hnone⟩).2
    have hword : ∀ bytes : List UInt8, wordAt (bytes.drop 20) (26 - 20) = wordAt bytes 26 :=
      fun bytes => wordAt_drop 20 6
    rw [udpTotal, h.addresses] at hudp
    rw [udpTotal, h'.addresses, hone.length] at hudp'
    have heq := (hone.drop (n := 20) (by norm_num) (by norm_num)).wordAt_eq_of_multiples
      (by rw [List.length_drop]; omega) hudp hudp' (by rwa [hword, hword]) (by rwa [hword, hword])
    rwa [hword, hword] at heq

end Fields

lemma OneWord.lt_length {offset : ℕ} {bytes changed : List UInt8} (h : OneWord offset bytes changed)
    (hne : changed ≠ bytes) : offset < bytes.length := by
  by_contra hge
  have hzero : ∀ list : List UInt8, list.length ≤ offset → wordAt list offset = 0 := by
    intro list hlist
    rw [wordAt, List.getD_eq_default _ _ hlist, List.getD_eq_default _ _ (by omega)]
    rfl
  refine hne (h.eq ?_)
  rw [hzero bytes (by omega), hzero changed (by rw [h.length]; omega)]

section Built
variable {output buffer : List UInt8} {capacity n : ℕ} {sourceIp destinationIp : Ipv4}
  {sourcePort destinationPort identification : UInt16} {payload : Option (List UInt8)}
  {payloadSize : ℕ}

/-- What a successful build was given, and the packet that it leaves. -/
lemma build_cases (hpayload : Points payload payloadSize)
    (h : tsvitaBuildIpv4UdpPacket (some output) capacity (some sourceIp) (some destinationIp)
      sourcePort destinationPort identification payload payloadSize = (n, some buffer))
    (hn : n ≠ 0) :
    (payload = none → payloadSize = 0) ∧ ∃ bytes, bytes = (payload.getD []).take payloadSize ∧
      bytes.length ≤ 65507 ∧ n = 28 + bytes.length ∧
      buffer.take n = packetBytes sourceIp destinationIp sourcePort destinationPort identification
        bytes (headerSum sourceIp destinationIp identification bytes)
        (udpSum sourceIp destinationIp sourcePort destinationPort bytes) := by
  have hgood : ¬ ((payload = none ∧ payloadSize ≠ 0) ∨ 65507 < payloadSize) := by
    intro hbad
    simp only [tsvitaBuildIpv4UdpPacket] at h
    rw [if_pos hbad] at h
    exact hn (congrArg Prod.fst h).symm
  have hroom : ¬ (65535 < ipv4HeaderSize + (udpHeaderSize + payloadSize) ∨
      capacity < ipv4HeaderSize + (udpHeaderSize + payloadSize)) := by
    intro hlarge
    simp only [tsvitaBuildIpv4UdpPacket] at h
    rw [if_neg hgood, if_pos hlarge] at h
    exact hn (congrArg Prod.fst h).symm
  have hgood' : ¬ ((some ((payload.getD []).take payloadSize) = none ∧ payloadSize ≠ 0) ∨
      65507 < payloadSize) := by
    push Not at hgood
    simp [hgood.2]
  push Not at hroom
  unfold ipv4HeaderSize udpHeaderSize at hroom
  have hnull : payload = none → payloadSize = 0 := by
    push Not at hgood
    exact hgood.1
  have hlength : ((payload.getD []).take payloadSize).length = payloadSize := by
    rw [List.length_take]
    cases payload with
    | none => simp [hnull rfl]
    | some bytes => exact min_eq_left (hpayload bytes rfl)
  have hsame : tsvitaBuildIpv4UdpPacket (some output) capacity (some sourceIp)
        (some destinationIp) sourcePort destinationPort identification payload payloadSize =
      tsvitaBuildIpv4UdpPacket (some output) capacity (some sourceIp) (some destinationIp)
        sourcePort destinationPort identification (some ((payload.getD []).take payloadSize))
        ((payload.getD []).take payloadSize).length := by
    rw [hlength]
    simp only [tsvitaBuildIpv4UdpPacket, Option.getD_some, List.take_take, min_self]
    rw [if_neg hgood, if_neg hgood']
  rw [hsame, build_eq _ _ _ _ _ _ _ (by omega) (by omega), Prod.mk.injEq, Option.some.injEq] at h
  obtain ⟨rfl, rfl⟩ := h
  exact ⟨hnull, _, rfl, by omega, rfl, List.take_left' (length_packetBytes _ _ _ _ _ _ _ _)⟩

end Built

/-- A built packet is a datagram for its values, and has a UDP checksum. -/
lemma built_datagram (sourceIp destinationIp : Ipv4)
    (sourcePort destinationPort identification : UInt16) (payload : List UInt8)
    (hsize : payload.length ≤ 65507) :
    let packet := packetBytes sourceIp destinationIp sourcePort destinationPort identification
      payload (headerSum sourceIp destinationIp identification payload)
      (udpSum sourceIp destinationIp sourcePort destinationPort payload)
    Datagram packet sourceIp destinationIp sourcePort destinationPort payload ∧
      65535 ∣ udpTotal packet := by
  intro packet
  have hlength : packet.length = 28 + payload.length := length_packetBytes _ _ _ _ _ _ _ _
  have hvalid := built_valid sourceIp destinationIp sourcePort destinationPort identification
    payload [] hsize (le_refl _)
  rw [List.append_nil] at hvalid
  have htotal : wordAt packet 2 = packet.length := by
    have htotal := packetBytes_total sourceIp destinationIp sourcePort destinationPort
      identification payload (headerSum sourceIp destinationIp identification payload)
      (udpSum sourceIp destinationIp sourcePort destinationPort payload) [] hsize
    rwa [List.append_nil, readBe16_toNat, ← hlength] at htotal
  have hdatagram := ((valid_iff_datagram (by rw [hlength])).mp hvalid).2
  rw [htotal, List.take_length] at hdatagram
  refine ⟨hdatagram, ?_⟩
  have hchecksum := udp_checksum_valid sourceIp destinationIp sourcePort destinationPort payload
    (packet.drop 12) (packet.drop 16) [] hsize hdatagram.source hdatagram.destination
  have hudp := packetBytes_drop_header sourceIp destinationIp sourcePort destinationPort
    identification payload (headerSum sourceIp destinationIp identification payload)
    (udpSum sourceIp destinationIp sourcePort destinationPort payload) []
  rw [List.append_nil] at hudp
  rw [← hudp, show 8 + payload.length = packet.length - 20 by omega,
    udpChecksum_eq_zero_iff (by omega) (le_refl _) (by omega), List.take_length] at hchecksum
  exact hchecksum.2

/-- Changing one word of a built packet makes validation reject it, unless the change removes
the UDP checksum or swaps the two zeros of the checksum. -/
theorem tampered_rejected {output buffer changed : List UInt8} {capacity n : ℕ}
    {sourceIp destinationIp : Ipv4} {sourcePort destinationPort identification : UInt16}
    {payload : Option (List UInt8)} {payloadSize offset : ℕ}
    (hpayload : Points payload payloadSize)
    (hbuild : tsvitaBuildIpv4UdpPacket (some output) capacity (some sourceIp) (some destinationIp)
      sourcePort destinationPort identification payload payloadSize = (n, some buffer))
    (hn : n ≠ 0) (hone : OneWord offset (buffer.take n) changed) (hne : changed ≠ buffer.take n)
    (hmissing : ¬ (offset = 26 ∧ wordAt changed 26 = 0))
    (hones : ¬ (wordAt (buffer.take n) offset = 0 ∧ wordAt changed offset = 0xFFFF))
    (hzero : ¬ (wordAt (buffer.take n) offset = 0xFFFF ∧ wordAt changed offset = 0)) :
    tsvitaValidateIpv4UdpPacket (some changed) n (some sourceIp) (some destinationIp) sourcePort
      destinationPort payload payloadSize = false := by
  obtain ⟨hnull, bytes, hbytes, hsize, hlength, hbuffer⟩ := build_cases hpayload hbuild hn
  rw [hbuffer] at hone hne hones hzero
  obtain ⟨hbuilt, hudp⟩ := built_datagram sourceIp destinationIp sourcePort destinationPort
    identification bytes hsize
  have hchanged : changed.length = n := by rw [hone.length, length_packetBytes, hlength]
  have hpoints : Points (some changed) n := by
    intro list hlist
    cases hlist
    exact hchanged.ge
  rw [← Bool.not_eq_true, validate_iff_accepted hpoints hpayload]
  rintro ⟨_, _, _, ⟨⟩, ⟨⟩, ⟨⟩, -, hroom, hdatagram⟩
  rw [← hbytes] at hdatagram
  have htotal : wordAt changed 2 = n := by
    have hpayloadLength := hdatagram.payloadLength
    have hlong := hdatagram.long
    rw [List.length_take] at hpayloadLength hlong
    omega
  rw [htotal, List.take_of_length_le hchanged.le] at hdatagram
  exact hne (hbuilt.eq_of_oneWord hdatagram hudp hone (hone.lt_length hne) hmissing hones hzero)

lemma oneWord_set {bytes : List UInt8} {offset : ℕ} (heven : offset % 2 = 0) (value : UInt8) :
    OneWord offset bytes (bytes.set offset value) where
  length := List.length_set
  even := heven
  rest := by
    intro i hne _
    simp only [List.getD_eq_getElem?_getD, List.getElem?_set_ne (Ne.symm hne)]

/-- The time to live of an echo request goes down by one, and its checksum stays. -/
theorem tampered_rejected_echo :
    ∃ buffer, tsvitaBuildIpv4UdpPacket (some (List.replicate 64 0)) 64 (some #v[10, 77, 0, 2])
        (some #v[10, 77, 0, 1]) 40000 7777 0x5442 (some [84, 83, 86]) 3 = (31, some buffer) ∧
      tsvitaValidateIpv4UdpPacket (some ((buffer.take 31).set 8 63)) 31 (some #v[10, 77, 0, 2])
        (some #v[10, 77, 0, 1]) 40000 7777 (some [84, 83, 86]) 3 = false := by
  have hpayload : Points (some [84, 83, 86]) 3 := by simp [Points]
  have hbuild : tsvitaBuildIpv4UdpPacket (some (List.replicate 64 0)) 64 (some #v[10, 77, 0, 2])
      (some #v[10, 77, 0, 1]) 40000 7777 0x5442 (some [84, 83, 86]) 3 =
        (31, some (echoPacket.take 31 ++ List.replicate 33 0)) := by
    decide +kernel
  exact ⟨_, hbuild, tampered_rejected hpayload hbuild (by norm_num)
    (oneWord_set (by norm_num) 63) (by decide) (by decide) (by decide) (by decide)⟩

end MoonlightVita.Packet
