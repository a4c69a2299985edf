import MoonlightVita.TunnelFrames

/-!
# Datagrams that are not authenticated

Nothing but the counters of rejected packets changes when a datagram comes from
elsewhere, is malformed or does not authenticate. Every negative result of a datagram
of the peer adds one to one of the counters.
-/
namespace MoonlightVita.Tunnel
open Fallible LittleEndian ReplayWindow Transition

variable {K H R I : Type} {lib : Wireguard K H R I} {m : Meaning K H I}

/-- What a handshake response can fail. -/
inductive BadResponse (lib : Wireguard K H R I) (g : TunnelContext K H) (packet : Bytes) : Prop
  | size (h : packet.length ≠ sizeofHandshakeResponse)
  | receiver {receiver : Bytes} (at8 : bytesAt packet 8 4 = some receiver)
      (h : ofBytes receiver ≠ g.pendingHandshakeSender.toNat)
  | mac1 {covered mac1 : Bytes}
      (at0 : bytesAt packet 0 (sizeofHandshakeResponse - 2 * cookieLen) = some covered)
      (at60 : bytesAt packet 60 cookieLen = some mac1) (h : lib.checkMac1 covered mac1 = false)
  | decryption {peer : Peer K H} (hpeer : g.peer = some peer)
      (h : (lib.processHandshakeResponse peer.handshake packet).1 = false)

/-- What a transport packet can fail before the replay window sees its counter. -/
inductive BadTransport (lib : Wireguard K H R I) (g : TunnelContext K H) (incoming : Bytes) : Prop
  | size (h : incoming.length < sizeofTransportData + authtagLen ∨
      sizeofTransportData + tsvitaInnerMtu + 15 + authtagLen < incoming.length)
  | index {peer : Peer K H} {receiver : Bytes} (hpeer : g.peer = some peer)
      (at4 : bytesAt incoming 4 4 = some receiver)
      (h : lib.getPeerKeypairForIdx peer (UInt32.ofNat (ofBytes receiver)) = none)
  | keypair {peer : Peer K H} {receiver : Bytes} {slot : Slot} (hpeer : g.peer = some peer)
      (at4 : bytesAt incoming 4 4 = some receiver)
      (found : lib.getPeerKeypairForIdx peer (UInt32.ofNat (ofBytes receiver)) = some slot)
      (h : (peer.keypair slot).receivingValid = false)
  | decryption {peer : Peer K H} {receiver counter encrypted : Bytes} {slot : Slot}
      (hpeer : g.peer = some peer) (at4 : bytesAt incoming 4 4 = some receiver)
      (found : lib.getPeerKeypairForIdx peer (UInt32.ofNat (ofBytes receiver)) = some slot)
      (at8 : bytesAt incoming 8 8 = some counter)
      (at16 : bytesAt incoming sizeofTransportData (incoming.length - sizeofTransportData) =
        some encrypted)
      (h : lib.decryptPacket encrypted (UInt64.ofNat (ofBytes counter)) (peer.keypair slot) = none)

inductive Unauthenticated (lib : Wireguard K H R I) (g : TunnelContext K H) (source : Endpoint)
    (incoming : Bytes) : Prop
  | source (h : source ≠ g.endpoint)
  | type (response : lib.getMessageType incoming ≠ messageHandshakeResponse)
      (transport : lib.getMessageType incoming ≠ messageTransportData)
  | response (type : lib.getMessageType incoming = messageHandshakeResponse)
      (h : BadResponse lib g incoming)
  | transport (type : lib.getMessageType incoming = messageTransportData)
      (h : BadTransport lib g incoming)

lemma not_badResponse {g : TunnelContext K H} {packet receiver covered mac1 : Bytes}
    {peer : Peer K H} (size : packet.length = sizeofHandshakeResponse)
    (at8 : bytesAt packet 8 4 = some receiver)
    (pending : ofBytes receiver = g.pendingHandshakeSender.toNat)
    (at0 : bytesAt packet 0 (sizeofHandshakeResponse - 2 * cookieLen) = some covered)
    (at60 : bytesAt packet 60 cookieLen = some mac1) (checked : lib.checkMac1 covered mac1 = true)
    (hpeer : g.peer = some peer)
    (processed : (lib.processHandshakeResponse peer.handshake packet).1 = true) :
    ¬ BadResponse lib g packet := by
  intro hbad
  cases hbad with
  | size hne => exact hne size
  | receiver at8' hne =>
    rw [at8, Option.some.injEq] at at8'
    exact hne (at8' ▸ pending)
  | mac1 at0' at60' hfalse =>
    rw [at0, Option.some.injEq] at at0'
    rw [at60, Option.some.injEq] at at60'
    subst at0' at60'
    simp [checked] at hfalse
  | decryption hpeer' hfalse =>
    rw [hpeer, Option.some.injEq] at hpeer'
    subst hpeer'
    simp [processed] at hfalse

/-- A response that starts a session has failed nothing. -/
lemma processHandshakeResponseLocked_good {g : TunnelContext K H} {packet : Bytes}
    {processTime : UInt64} {r : Result K H I}
    (h : processHandshakeResponseLocked lib g packet processTime = some r)
    (hresult : ¬ r.result < 0) : ¬ BadResponse lib g packet := by
  unfold processHandshakeResponseLocked at h
  split_ifs at h with hsize
  · cases h
    exact absurd (by norm_num) hresult
  simp only [Option.bind_eq_bind, Option.bind_eq_some_iff] at h
  obtain ⟨receiver, hreceiver, h⟩ := h
  split_ifs at h with hpending
  · cases h
    exact absurd (by norm_num) hresult
  simp only [Option.bind_eq_some_iff] at h
  obtain ⟨covered, hcovered, mac1, hmac1, h⟩ := h
  split_ifs at h with hmac
  · cases h
    exact absurd (by norm_num) hresult
  simp only [Option.bind_eq_some_iff] at h
  obtain ⟨peer, hpeer, h⟩ := h
  split at h
  · cases h
    exact absurd (by norm_num) hresult
  rename_i handshake hprocess
  push Not at hsize
  simp only [ne_eq, not_not, Bool.not_eq_true, Bool.not_eq_false'] at hpending hmac
  exact not_badResponse hsize.1 hreceiver hpending hcovered hmac1 hmac hpeer (by rw [hprocess])

lemma processHandshakeResponseLocked_bad (hl : Lawful lib m) {g : TunnelContext K H}
    {packet : Bytes} (hbad : BadResponse lib g packet) (processTime : UInt64) :
    Ensures (fun r => r.result < 0 ∧ r.g = g)
      (processHandshakeResponseLocked lib g packet processTime) := by
  intro r hr
  rcases processHandshakeResponseLocked_cases hl hr with ⟨hresult, hg, -⟩ | hstarted
  · exact ⟨hresult, hg⟩
  · obtain ⟨peer, handshake, i, -, -, -, -, -, rfl⟩ := hstarted
    exact absurd hbad (processHandshakeResponseLocked_good hr (by norm_num))

lemma processTransportLocked_bad {g : TunnelContext K H} {incoming : Bytes}
    (hbad : BadTransport lib g incoming) (delivery : Delivery) :
    Ensures (fun r => r.result < 0 ∧ r.g = g) (processTransportLocked lib g incoming delivery) := by
  intro r hr
  unfold processTransportLocked at hr
  split_ifs at hr with hsize
  · cases hr
    exact ⟨by norm_num, rfl⟩
  simp only [Option.bind_eq_bind, Option.bind_eq_some_iff] at hr
  obtain ⟨peer, hpeer, receiver, hreceiver, hr⟩ := hr
  cases hbad with
  | size hout => exact absurd hout hsize
  | index hpeer' at4 hnone =>
    rw [hpeer, Option.some.injEq] at hpeer'
    rw [hreceiver, Option.some.injEq] at at4
    subst hpeer' at4
    simp only [hnone, Option.some.injEq] at hr
    subst hr
    exact ⟨by norm_num, rfl⟩
  | keypair hpeer' at4 found hinvalid =>
    rw [hpeer, Option.some.injEq] at hpeer'
    rw [hreceiver, Option.some.injEq] at at4
    subst hpeer' at4
    simp only [found] at hr
    rw [if_pos (Or.inl (by simp [hinvalid])), Option.some.injEq] at hr
    subst hr
    exact ⟨by norm_num, rfl⟩
  | decryption hpeer' at4 found at8 at16 hnone =>
    rw [hpeer, Option.some.injEq] at hpeer'
    rw [hreceiver, Option.some.injEq] at at4
    subst hpeer' at4
    simp only [found] at hr
    split_ifs at hr
    · cases hr
      exact ⟨by norm_num, rfl⟩
    · simp [at8, at16] at hr
    · simp only [at8, at16, Option.bind_some, hnone, Option.some.injEq] at hr
      subst hr
      exact ⟨by norm_num, rfl⟩

/-- No check that a datagram of the peer fails has changed anything before. -/
lemma processLocked_unauthenticated (hl : Lawful lib m) {g : TunnelContext K H}
    {source : Endpoint} {incoming : Bytes} (hsource : source = g.endpoint)
    (h : Unauthenticated lib g source incoming) (delivery : Delivery) (processTime : UInt64) :
    Ensures (fun r => r.g = g) (processLocked lib g incoming delivery processTime) := by
  unfold processLocked
  cases h with
  | source hne => exact absurd hsource hne
  | type hresponse htransport =>
    rw [if_neg hresponse, if_neg htransport]
    exact ensures_some rfl
  | response type hbad =>
    rw [if_pos type]
    exact fun r hr => (processHandshakeResponseLocked_bad hl hbad processTime r hr).2
  | transport type hbad =>
    have hne : lib.getMessageType incoming ≠ messageHandshakeResponse := by
      rw [type]
      decide
    rw [if_neg hne, if_pos type]
    exact fun r hr => (processTransportLocked_bad hbad delivery r hr).2

/-- The contexts agree but for the counters of rejected packets. -/
def SameButRejects (g g' : TunnelContext K H) : Prop :=
  ∃ decryptRejects replayRejects otherRejects,
    g' = { g with
      decryptRejects := decryptRejects
      replayRejects := replayRejects
      otherRejects := otherRejects }

/-- Exactly one of the counters of rejected packets is one more. -/
inductive CountsOne (g g' : TunnelContext K H) : Prop
  | decrypt (decrypt : g'.decryptRejects = g.decryptRejects + 1)
      (replay : g'.replayRejects = g.replayRejects) (other : g'.otherRejects = g.otherRejects)
  | replay (decrypt : g'.decryptRejects = g.decryptRejects)
      (replay : g'.replayRejects = g.replayRejects + 1) (other : g'.otherRejects = g.otherRejects)
  | other (decrypt : g'.decryptRejects = g.decryptRejects)
      (replay : g'.replayRejects = g.replayRejects) (other : g'.otherRejects = g.otherRejects + 1)

lemma recordTransportRejection_same (g : TunnelContext K H) (result : ℤ) :
    SameButRejects g (recordTransportRejection (I := I) g result).1 := by
  unfold recordTransportRejection
  split_ifs <;> exact ⟨_, _, _, rfl⟩

lemma recordTransportRejection_countsOne (g : TunnelContext K H) (result : ℤ) :
    CountsOne g (recordTransportRejection (I := I) g result).1 := by
  unfold recordTransportRejection
  split_ifs
  · exact .decrypt rfl rfl rfl
  · exact .replay rfl rfl rfl
  · exact .other rfl rfl rfl

lemma CountsOne.of_frame {g g' g'' : TunnelContext K H} (hframe : Frame g g')
    (h : CountsOne g' g'') : CountsOne g g'' := by
  cases h with
  | decrypt hdecrypt hreplay hother =>
    exact .decrypt (hframe.decryptRejects ▸ hdecrypt) (hframe.replayRejects ▸ hreplay)
      (hframe.otherRejects ▸ hother)
  | replay hdecrypt hreplay hother =>
    exact .replay (hframe.decryptRejects ▸ hdecrypt) (hframe.replayRejects ▸ hreplay)
      (hframe.otherRejects ▸ hother)
  | other hdecrypt hreplay hother =>
    exact .other (hframe.decryptRejects ▸ hdecrypt) (hframe.replayRejects ▸ hreplay)
      (hframe.otherRejects ▸ hother)

lemma receiveDatagram_unauthenticated (hl : Lawful lib m) {g : TunnelContext K H}
    {source : Endpoint} {incoming : Bytes} (h : Unauthenticated lib g source incoming)
    (delivery : Delivery) (processTime : UInt64) :
    Ensures (fun r => SameButRejects g r.1)
      (receiveDatagram lib g (some (source, incoming)) delivery processTime) := by
  have hsame : SameButRejects g g := ⟨_, _, _, rfl⟩
  unfold receiveDatagram
  dsimp only
  by_cases hpeer : 0 < incoming.length ∧ sourceIsPeer g source
  · have hsource : source = g.endpoint := by simpa [sourceIsPeer] using hpeer.2
    rw [if_pos hpeer]
    intro r hr
    simp only [Option.bind_eq_bind, Option.bind_eq_some_iff] at hr
    obtain ⟨q, hq, hr⟩ := hr
    have hg := processLocked_unauthenticated hl hsource h delivery processTime q hq
    rw [hg] at hr
    split_ifs at hr
    · cases hr
      exact recordTransportRejection_same g q.result
    · cases hr
      exact hsame
  · rw [if_neg hpeer]
    exact ensures_some hsame

lemma receiveDatagram_countsOne {g : TunnelContext K H} {source : Endpoint} {incoming : Bytes}
    {delivery : Delivery} {processTime : UInt64} {q : Result K H I}
    (hsource : source = g.endpoint) (hnonempty : 0 < incoming.length)
    (hq : processLocked lib g incoming delivery processTime = some q) (hresult : q.result < 0) :
    Ensures (fun r => CountsOne g r.1)
      (receiveDatagram lib g (some (source, incoming)) delivery processTime) := by
  have hpeer : 0 < incoming.length ∧ sourceIsPeer g source :=
    ⟨hnonempty, by simp [sourceIsPeer, hsource]⟩
  unfold receiveDatagram
  dsimp only
  rw [if_pos hpeer, hq]
  simp only [Option.bind_eq_bind, Option.bind_some, if_pos hresult]
  exact ensures_some ((recordTransportRejection_countsOne q.g q.result).of_frame
    (processLocked_frame g incoming delivery processTime q hq))

/-- In every state that the tunnel reaches, a datagram that is not authenticated changes
nothing but a counter of rejected packets, and every datagram of the peer with a negative
result adds one to exactly one of them. -/
theorem unauthenticated_only_counted (hl : Lawful lib m) {endpoint : Endpoint} {handshake : H}
    {key : K} {clock : UInt64} {inputs : List (Action R)} {events : List (Event K H I)}
    {s : State K H I}
    (h : Run (ofStep (step lib)) (initialState endpoint handshake key clock) inputs events s)
    (source : Endpoint) (incoming : Bytes) (delivery : Delivery) (processTime : UInt64) :
    ∃ r, receiveDatagram lib s.g (some (source, incoming)) delivery processTime = some r ∧
      (Unauthenticated lib s.g source incoming → SameButRejects s.g r.1) ∧
      (∀ q, source = s.g.endpoint → 0 < incoming.length →
        processLocked lib s.g incoming delivery processTime = some q → q.result < 0 →
          CountsOne s.g r.1) := by
  obtain ⟨⟨is, hmoves⟩, -⟩ := run_moves hl h
  have hpeer : s.g.peer.isSome := peer_isSome_of_moves hmoves rfl
  obtain ⟨r, hr⟩ := Option.isSome_iff_exists.mp
    (receiveDatagram_isSome hl hpeer (some (source, incoming)) delivery processTime)
  refine ⟨r, hr, fun hun => ?_, fun q hsource hnonempty hq hresult => ?_⟩
  · exact receiveDatagram_unauthenticated hl hun delivery processTime r hr
  · exact receiveDatagram_countsOne hsource hnonempty hq hresult r hr

/-- A transport packet for the session with index 7 whose tag is all zeros. -/
def forgedTransport : Bytes := transportHeader 7 0 ++ List.replicate 32 0

theorem unauthenticated_only_counted_forged :
    ∃ events s r, Run (ofStep (step symbolic)) (initialState ⟨1, 2⟩ none (0, true) 0)
        [.connect (some 7) 148 10, .await 20 (some (⟨1, 2⟩, symbolicResponse 7)) 30] events s ∧
      receiveDatagram symbolic s.g (some (⟨1, 2⟩, forgedTransport)) ⟨true, true⟩ 40 = some r ∧
      SameButRejects s.g r.1 ∧ CountsOne s.g r.1 := by
  have hview : (exec (step symbolic) (initialState ⟨1, 2⟩ none (0, true) 0)
      [.connect (some 7) 148 10, .await 20 (some (⟨1, 2⟩, symbolicResponse 7)) 30]).map
        (fun r => (r.1.g.endpoint, r.1.g.peer.map fun peer => (symbolicLookup peer 7,
          (symbolic.decryptPacket (List.replicate 32 0) 0 (peer.keypair .curr)).isNone),
          (processLocked symbolic r.1.g forgedTransport ⟨true, true⟩ 40).map Result.result)) =
      some (⟨1, 2⟩, some (some .curr, true), some (-42)) := by
    decide +kernel
  obtain ⟨⟨s, events⟩, hs, hview⟩ := Option.map_eq_some_iff.mp hview
  simp only [Prod.mk.injEq] at hview
  obtain ⟨hendpoint, hpeer, hresult⟩ := hview
  obtain ⟨peer, hpeer, hkeypair⟩ := Option.map_eq_some_iff.mp hpeer
  obtain ⟨q, hq, hresult⟩ := Option.map_eq_some_iff.mp hresult
  simp only [Prod.mk.injEq] at hkeypair
  have hun : Unauthenticated symbolic s.g ⟨1, 2⟩ forgedTransport :=
    .transport rfl (.decryption hpeer rfl hkeypair.1 rfl rfl
      (Option.isNone_iff_eq_none.mp hkeypair.2))
  obtain ⟨r, hr, hsame, hcounts⟩ := unauthenticated_only_counted symbolic_lawful (run_of_exec hs)
    ⟨1, 2⟩ forgedTransport ⟨true, true⟩ 40
  exact ⟨events, s, r, run_of_exec hs, hr, hsame hun,
    hcounts q hendpoint.symm (by decide) hq (by rw [hresult]; norm_num)⟩

end MoonlightVita.Tunnel
