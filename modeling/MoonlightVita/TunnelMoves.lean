import MoonlightVita.Transition
import MoonlightVita.TunnelTransport

/-!
# Moves of the tunnel

What a section under `g_peer_mutex` does to the peer is one of a few moves: a packet
is sealed, a handshake is initiated or completed, a counter is accepted or turned
down. Each function of the source makes at most one move, and none leaves a buffer.
-/
namespace MoonlightVita.Tunnel
open ReplayWindow LittleEndian Transition

variable {K H R I : Type}

/-- Events that leave peer and handshake alone. -/
def Event.Quiet : Event K H I → Prop
  | .rejection _ _ _ | .rekey _ | .keepalive _ => True
  | _ => False

lemma Event.Quiet.induct {P : Event K H I → Prop}
    (hrejection : ∀ result reason total, P (.rejection result reason total))
    (hrekey : ∀ result, P (.rekey result)) (hkeepalive : ∀ result, P (.keepalive result))
    {e : Event K H I} (he : e.Quiet) : P e := by
  cases e with
  | rejection result reason total => exact hrejection result reason total
  | rekey result => exact hrekey result
  | keepalive result => exact hkeepalive result
  | transport | initiation | initiationSent | startSession | accepted | tcpipInput | fault =>
    exact he.elim

/-- What a section under the mutex does to the peer with the datagram that it processes. -/
inductive Move (lib : Wireguard K H R I) (m : Meaning K H I) :
    Option Bytes → TunnelContext K H → List (Event K H I) → TunnelContext K H → Prop
  | quiet {datagram : Option Bytes} {g g' : TunnelContext K H} {out : List (Event K H I)}
      (peer' : g'.peer = g.peer)
      (pending : g'.pendingHandshakeSender = g.pendingHandshakeSender)
      (out_quiet : ∀ e ∈ out, e.Quiet) : Move lib m datagram g out g'
  | encrypt {datagram : Option Bytes} {g g' : TunnelContext K H} {peer : Peer K H}
      (plaintext : Bytes) (sent : ℤ) (hpeer : g.peer = some peer)
      (valid : (peer.keypair .curr).sendingValid)
      (peer' : g'.peer = some (peer.set .curr { peer.keypair .curr with
        sendingCounter := (peer.keypair .curr).sendingCounter + 1 }))
      (pending : g'.pendingHandshakeSender = g.pendingHandshakeSender) :
      Move lib m datagram g [.transport (peer.keypair .curr).sendingKey
        (peer.keypair .curr).sendingCounter plaintext (transportHeader
          (peer.keypair .curr).remoteIndex (peer.keypair .curr).sendingCounter ++
            m.aead (peer.keypair .curr).sendingKey (peer.keypair .curr).sendingCounter plaintext)
        sent] g'
  | initiateFailed {datagram : Option Bytes} {g g' : TunnelContext K H} {peer : Peer K H}
      {handshake : H} (hpeer : g.peer = some peer)
      (peer' : g'.peer = some { peer with handshake := handshake })
      (state : m.initiation handshake = none ∨
        m.initiation handshake = m.initiation peer.handshake)
      (pending : g'.pendingHandshakeSender = g.pendingHandshakeSender) :
      Move lib m datagram g [.initiation none] g'
  | initiate {datagram : Option Bytes} {g g' : TunnelContext K H} {peer : Peer K H}
      {handshake : H} (i : I) (sent : ℤ) (hpeer : g.peer = some peer)
      (peer' : g'.peer = some { peer with handshake := handshake })
      (state : m.initiation handshake = some i) (nonzero : lib.sender i ≠ 0)
      (unused : peer.Unused (lib.sender i))
      (pending : g'.pendingHandshakeSender = if sent = sizeofHandshakeInitiation then
        lib.sender i else g.pendingHandshakeSender) :
      Move lib m datagram g [.initiation (some i), .initiationSent i sent] g'
  | session {g g' : TunnelContext K H} {peer : Peer K H} {handshake : H} (i : I)
      (response : Bytes) (hpeer : g.peer = some peer)
      (before : m.initiation peer.handshake = some i) (state : m.initiation handshake = some i)
      (answer : m.response handshake = some response) (answers : m.answers i response)
      (peer' : g'.peer = some (lib.startSession { peer with handshake := handshake }))
      (pending : g'.pendingHandshakeSender = 0) :
      Move lib m (some response) g [.startSession handshake] g'
  | accept {g g' : TunnelContext K H} {peer : Peer K H} {replay : Replay} {incoming : Bytes}
      (slot : Slot) (counter : UInt64) (packets : List Bytes) (hpeer : g.peer = some peer)
      (valid : (peer.keypair slot).valid)
      (check : wireguardCheckReplay lib.rejectAfterMessages (peer.keypair slot).replay counter =
        (true, replay))
      (peer' : g'.peer = some (peer.set slot { peer.keypair slot with replay := replay }))
      (pending : g'.pendingHandshakeSender = g.pendingHandshakeSender)
      (once : packets.length ≤ 1) :
      Move lib m (some incoming) g (.accepted (peer.keypair slot).receivingKey counter ::
        packets.map (.tcpipInput (peer.keypair slot).receivingKey counter)) g'
  | replayed {g g' : TunnelContext K H} {peer : Peer K H} {replay : Replay} {incoming : Bytes}
      (slot : Slot) (counter : UInt64) (hpeer : g.peer = some peer)
      (valid : (peer.keypair slot).valid)
      (check : wireguardCheckReplay lib.rejectAfterMessages (peer.keypair slot).replay counter =
        (false, replay))
      (peer' : g'.peer = some (peer.set slot { peer.keypair slot with replay := replay }))
      (pending : g'.pendingHandshakeSender = g.pendingHandshakeSender) :
      Move lib m (some incoming) g [] g'

/-- The moves as a transition system of their own. -/
def moves (lib : Wireguard K H R I) (m : Meaning K H I) :
    System (TunnelContext K H) (Option Bytes) (Event K H I) :=
  fun g datagram out g' => Move lib m datagram g out g'

/-- A run of moves over the same datagram. -/
def MoveRun (lib : Wireguard K H R I) (m : Meaning K H I) (datagram : Option Bytes)
    (g : TunnelContext K H) (out : List (Event K H I)) (g' : TunnelContext K H) : Prop :=
  ∃ n, Run (moves lib m) g (List.replicate n datagram) out g'

section Functions
variable {lib : Wireguard K H R I} {m : Meaning K H I}

lemma Move.run {datagram : Option Bytes} {g g' : TunnelContext K H} {out : List (Event K H I)}
    (h : Move lib m datagram g out g') : MoveRun lib m datagram g out g' :=
  ⟨1, Run.single h⟩

lemma MoveRun.append {datagram : Option Bytes} {g g' g'' : TunnelContext K H}
    {out out' : List (Event K H I)} (h : MoveRun lib m datagram g out g')
    (h' : MoveRun lib m datagram g' out' g'') : MoveRun lib m datagram g (out ++ out') g'' := by
  obtain ⟨n, h⟩ := h
  obtain ⟨n', h'⟩ := h'
  refine ⟨n + n', ?_⟩
  rw [List.replicate_add]
  exact Run.append h h'

lemma Move.same (datagram : Option Bytes) (g : TunnelContext K H) : Move lib m datagram g [] g :=
  .quiet rfl rfl (by simp)

lemma Move.quietly (datagram : Option Bytes) (g : TunnelContext K H) {e : Event K H I}
    (he : e.Quiet) : Move lib m datagram g [e] g :=
  .quiet rfl rfl (by simpa using he)

lemma Move.peer_isSome {datagram : Option Bytes} {g g' : TunnelContext K H}
    {out : List (Event K H I)} (h : Move lib m datagram g out g') (hpeer : g.peer.isSome) :
    g'.peer.isSome := by
  cases h with
  | quiet peer' => rwa [peer']
  | encrypt _ _ _ _ peer' | initiateFailed _ peer' | initiate _ _ _ peer'
  | session _ _ _ _ _ _ _ peer' | accept _ _ _ _ _ _ peer' | replayed _ _ _ _ _ peer' =>
    simp [peer']

lemma Move.no_fault {datagram : Option Bytes} {g g' : TunnelContext K H}
    {out : List (Event K H I)} (h : Move lib m datagram g out g') : .fault ∉ out := by
  cases h with
  | quiet _ _ out_quiet => exact fun hm => out_quiet _ hm
  | encrypt | initiateFailed | initiate | session | accept | replayed => simp

lemma sendTransportLocked_move (hl : Lawful lib m) (datagram : Option Bytes)
    (g : TunnelContext K H) (inner : Bytes) (sent : ℤ) (processTime : UInt64) :
    Move lib m datagram g (sendTransportLocked lib g inner sent processTime).events
      (sendTransportLocked lib g inner sent processTime).g := by
  unfold sendTransportLocked
  cases hpeer : g.peer with
  | none => exact .same _ g
  | some peer =>
    by_cases hguard : !(peer.keypair .curr).sendingValid ∨ tsvitaInnerMtu < inner.length
    · simp only [if_pos hguard]
      exact .same _ g
    · have hvalid : (peer.keypair .curr).sendingValid = true := by
        simp only [not_or, Bool.not_eq_true, Bool.not_eq_false'] at hguard
        exact hguard.1
      simp only [if_neg hguard, hl.encrypt]
      split_ifs <;> exact .encrypt (pad inner) sent hpeer hvalid rfl rfl

lemma tunnelNetifOutput_move (hl : Lawful lib m) (datagram : Option Bytes)
    (g : TunnelContext K H) (packet : Option Pbuf) (sent : ℤ) (processTime : UInt64) :
    Move lib m datagram g (tunnelNetifOutput lib g packet sent processTime).2.2
      (tunnelNetifOutput lib g packet sent processTime).2.1 := by
  unfold tunnelNetifOutput
  cases packet with
  | none => exact .same _ g
  | some packet =>
    by_cases hlen : packet.totLen = 0 ∨ tsvitaInnerMtu < packet.totLen
    · simp only [if_pos hlen]
      exact .same _ g
    by_cases hcopy : (packet.payload.take packet.totLen).length ≠ packet.totLen
    · simp only [if_neg hlen, if_pos hcopy]
      exact .same _ g
    · simp only [if_neg hlen, if_neg hcopy]
      exact sendTransportLocked_move hl datagram g _ sent processTime

lemma sendHandshakeLocked_move (hl : Lawful lib m) (datagram : Option Bytes)
    {g : TunnelContext K H} {draw : R} {sent : ℤ} {r : Result K H I}
    (h : sendHandshakeLocked lib g draw sent = some r) : Move lib m datagram g r.events r.g := by
  unfold sendHandshakeLocked at h
  cases hpeer : g.peer with
  | none => simp [hpeer] at h
  | some peer =>
    simp only [hpeer] at h
    split at h
    · rename_i handshake hcreate
      cases h
      exact .initiateFailed hpeer rfl (hl.create_none _ _ _ hcreate) rfl
    · rename_i i handshake hcreate
      obtain ⟨hstate, hnonzero, hunused⟩ := hl.create_some _ _ _ _ hcreate
      split_ifs at h with hsent hneg
      · cases h
        exact .initiate i sent hpeer rfl hstate hnonzero hunused (by rw [if_neg hsent])
      · cases h
        exact .initiate i sent hpeer rfl hstate hnonzero hunused (by rw [if_neg hsent])
      · cases h
        exact .initiate i sent hpeer rfl hstate hnonzero hunused (by rw [if_pos (not_not.mp hsent)])

/-- A response is turned down and nothing changes, or it answers the handshake in
progress and starts a session. -/
lemma processHandshakeResponseLocked_cases (hl : Lawful lib m) {g : TunnelContext K H}
    {packet : Bytes} {processTime : UInt64} {r : Result K H I}
    (h : processHandshakeResponseLocked lib g packet processTime = some r) :
    (r.result < 0 ∧ r.g = g ∧ r.events = []) ∨
    ∃ peer handshake i, g.peer = some peer ∧ m.initiation peer.handshake = some i ∧
      m.initiation handshake = some i ∧ m.response handshake = some packet ∧
      m.answers i packet ∧
      r = ⟨0, { g with
        peer := some (lib.startSession { peer with handshake := handshake })
        lastHandshakeUs := processTime
        pendingHandshakeSender := 0 }, [.startSession handshake]⟩ := by
  unfold processHandshakeResponseLocked at h
  split_ifs at h with hsize
  · cases h
    exact Or.inl ⟨by norm_num, rfl, rfl⟩
  simp only [Option.bind_eq_bind, Option.bind_eq_some_iff] at h
  obtain ⟨receiver, -, h⟩ := h
  split_ifs at h with hpending
  · cases h
    exact Or.inl ⟨by norm_num, rfl, rfl⟩
  simp only [Option.bind_eq_some_iff] at h
  obtain ⟨covered, -, mac1, -, h⟩ := h
  split_ifs at h with hmac
  · cases h
    exact Or.inl ⟨by norm_num, rfl, rfl⟩
  simp only [Option.bind_eq_some_iff] at h
  obtain ⟨peer, hpeer, h⟩ := h
  split at h
  · rename_i handshake hprocess
    cases h
    have hsame : handshake = peer.handshake := hl.process_false _ _ _ hprocess
    subst hsame
    refine Or.inl ⟨by norm_num, ?_, rfl⟩
    rw [← hpeer]
  · rename_i handshake hprocess
    cases h
    obtain ⟨i, hbefore, hstate, hanswer, hanswers⟩ := hl.process_true _ _ _ hprocess
    exact Or.inr ⟨peer, handshake, i, hpeer, hbefore, hstate, hanswer, hanswers, rfl⟩

lemma processHandshakeResponseLocked_move (hl : Lawful lib m) {g : TunnelContext K H}
    {packet : Bytes} {processTime : UInt64} {r : Result K H I}
    (h : processHandshakeResponseLocked lib g packet processTime = some r) :
    Move lib m (some packet) g r.events r.g := by
  rcases processHandshakeResponseLocked_cases hl h with ⟨-, hg, hevents⟩ |
    ⟨peer, handshake, i, hpeer, hbefore, hstate, hanswer, hanswers, rfl⟩
  · rw [hg, hevents]
    exact .same _ g
  · exact .session i packet hpeer hbefore hstate hanswer hanswers rfl rfl

/-- What is handed to lwIP: the first bytes of the plaintext, as many as its header says. -/
structure Deliverable (plaintext : Bytes) (packet : Bytes) : Prop where
  front : packet = plaintext.take packet.length
  totalLength : ∃ high low : UInt8, plaintext[2]? = some high ∧ plaintext[3]? = some low ∧
    packet.length = high.toNat * 256 + low.toNat
  atLeast : 20 ≤ packet.length
  atMost : packet.length ≤ min plaintext.length tsvitaInnerMtu
  version : ∃ first : UInt8, plaintext[0]? = some first ∧ first >>> 4 = 4
  destination : bytesAt plaintext 16 4 = some [10, 77, 0, 2]

section Buffer
variable {plaintext : Bytes}

lemma plaintextBuffer_length (h : plaintext.length ≤ plaintextCapacity) :
    (plaintextBuffer plaintext).length = plaintextCapacity := by
  simp only [plaintextBuffer, List.length_append, List.length_replicate]
  omega

lemma plaintextBuffer_getElem? {i : ℕ} (h : i < plaintext.length) :
    (plaintextBuffer plaintext)[i]? = plaintext[i]? :=
  List.getElem?_append_left h

lemma plaintextBuffer_bytesAt {offset width : ℕ} (h : offset + width ≤ plaintext.length) :
    bytesAt (plaintextBuffer plaintext) offset width = bytesAt plaintext offset width := by
  have hle : offset + width ≤ (plaintextBuffer plaintext).length := by
    simp only [plaintextBuffer, List.length_append]
    omega
  rw [bytesAt, bytesAt, if_pos hle, if_pos h, plaintextBuffer,
    List.drop_append_of_le_length (by omega), List.take_append_of_le_length (by
      rw [List.length_drop]
      omega)]

end Buffer

lemma deliverPlaintext_cases {g : TunnelContext K H} {key : K} {counter : UInt64}
    {plaintext : Bytes} {delivery : Delivery} {r : Result K H I}
    (h : deliverPlaintext g key counter (plaintextBuffer plaintext) plaintext.length delivery =
      some r) :
    r.g.peer = g.peer ∧ r.g.pendingHandshakeSender = g.pendingHandshakeSender ∧
      (r.events = [.accepted key counter] ∨ ∃ packet, Deliverable plaintext packet ∧
        r.events = [.accepted key counter, .tcpipInput key counter packet]) := by
  unfold deliverPlaintext at h
  by_cases hempty : plaintext.length = 0
  · rw [if_pos hempty] at h
    cases h
    exact ⟨rfl, rfl, Or.inl rfl⟩
  by_cases hshort : plaintext.length < 20
  · rw [if_neg hempty, if_pos hshort] at h
    cases h
    exact ⟨rfl, rfl, Or.inl rfl⟩
  rw [if_neg hempty, if_neg hshort] at h
  simp only [Option.bind_eq_bind, Option.bind_eq_some_iff] at h
  obtain ⟨version, hversion, destination, hdestination, h⟩ := h
  by_cases hheader : version >>> 4 ≠ 4 ∨ destination ≠ [10, 77, 0, 2]
  · rw [if_pos hheader] at h
    cases h
    exact ⟨rfl, rfl, Or.inl rfl⟩
  rw [if_neg hheader] at h
  simp only [Option.bind_eq_some_iff] at h
  obtain ⟨high, hhigh, low, hlow, h⟩ := h
  by_cases hrange : high.toNat * 256 + low.toNat < 20 ∨
      plaintext.length < high.toNat * 256 + low.toNat ∨
      tsvitaInnerMtu < high.toNat * 256 + low.toNat
  · rw [if_pos hrange] at h
    cases h
    exact ⟨rfl, rfl, Or.inl rfl⟩
  rw [if_neg hrange] at h
  simp only [Option.bind_eq_some_iff] at h
  obtain ⟨packet, hpacket, h⟩ := h
  push Not at hheader hrange
  rw [plaintextBuffer_getElem? (by omega)] at hversion hhigh hlow
  rw [plaintextBuffer_bytesAt (by omega)] at hdestination hpacket
  have hlength : packet.length = high.toNat * 256 + low.toNat := by
    rw [bytesAt, if_pos (by omega), Option.some.injEq] at hpacket
    rw [← hpacket, List.drop_zero, List.length_take]
    omega
  have hdeliverable : Deliverable plaintext packet := by
    refine ⟨?_, ⟨high, low, hhigh, hlow, hlength⟩, by omega, ?_, ⟨version, hversion, hheader.1⟩,
      by rw [hdestination, hheader.2]⟩
    · rw [bytesAt, if_pos (by omega), Option.some.injEq, List.drop_zero] at hpacket
      rw [hlength, hpacket]
    · rw [hlength]
      exact le_min hrange.2.1 hrange.2.2
  split_ifs at h
  · cases h
    exact ⟨rfl, rfl, Or.inl rfl⟩
  · cases h
    exact ⟨rfl, rfl, Or.inr ⟨packet, hdeliverable, rfl⟩⟩
  · cases h
    exact ⟨rfl, rfl, Or.inr ⟨packet, hdeliverable, rfl⟩⟩

/-- No access leaves the plaintext buffer. -/
lemma deliverPlaintext_isSome {g : TunnelContext K H} {key : K} {counter : UInt64}
    {plaintext : Bytes} {delivery : Delivery} (hcap : plaintext.length ≤ plaintextCapacity) :
    (deliverPlaintext g key counter (plaintextBuffer plaintext) plaintext.length delivery :
      Option (Result K H I)).isSome := by
  have hlength := plaintextBuffer_length hcap
  have hread : ∀ i, i < plaintextCapacity → ∃ b, (plaintextBuffer plaintext)[i]? = some b := by
    intro i hi
    rw [← hlength] at hi
    exact ⟨_, List.getElem?_eq_getElem hi⟩
  have hbytes : ∀ offset width, offset + width ≤ plaintextCapacity →
      ∃ bytes, bytesAt (plaintextBuffer plaintext) offset width = some bytes := by
    intro offset width hle
    rw [← hlength] at hle
    exact ⟨_, if_pos hle⟩
  obtain ⟨version, hversion⟩ := hread 0 (by decide)
  obtain ⟨high, hhigh⟩ := hread 2 (by decide)
  obtain ⟨low, hlow⟩ := hread 3 (by decide)
  obtain ⟨destination, hdestination⟩ := hbytes 16 4 (by decide)
  unfold deliverPlaintext
  simp only [hversion, hhigh, hlow, hdestination, Option.bind_eq_bind, Option.bind_some]
  by_cases hrange : high.toNat * 256 + low.toNat < 20 ∨
      plaintext.length < high.toNat * 256 + low.toNat ∨
      tsvitaInnerMtu < high.toNat * 256 + low.toNat
  · simp only [if_pos hrange]
    split_ifs <;> rfl
  · simp only [if_neg hrange]
    push Not at hrange
    obtain ⟨packet, hpacket⟩ := hbytes 0 (high.toNat * 256 + low.toNat) (by omega)
    simp only [hpacket, Option.bind_some]
    split_ifs <;> rfl

/-- A datagram whose body is sealed under a receiving key of the peer. -/
structure Sealed (m : Meaning K H I) (peer : Peer K H) (incoming : Bytes) (slot : Slot)
    (counter : UInt64) (plaintext : Bytes) : Prop where
  valid : (peer.keypair slot).valid
  receivingValid : (peer.keypair slot).receivingValid
  counterField : ∃ bytes, bytesAt incoming 8 8 = some bytes ∧
    counter = UInt64.ofNat (ofBytes bytes)
  body : incoming.drop sizeofTransportData =
    m.aead (peer.keypair slot).receivingKey counter plaintext

/-- A packet is turned down, or it is authentic and the replay window decides. -/
lemma processTransportLocked_cases (hl : Lawful lib m) {g : TunnelContext K H} {incoming : Bytes}
    {delivery : Delivery} {r : Result K H I}
    (h : processTransportLocked lib g incoming delivery = some r) :
    (r.g = g ∧ r.events = []) ∨
    ∃ peer slot counter plaintext, g.peer = some peer ∧
      Sealed m peer incoming slot counter plaintext ∧
      r.g.peer = some (peer.set slot { peer.keypair slot with replay :=
        (wireguardCheckReplay lib.rejectAfterMessages (peer.keypair slot).replay counter).2 }) ∧
      r.g.pendingHandshakeSender = g.pendingHandshakeSender ∧
      (((wireguardCheckReplay lib.rejectAfterMessages (peer.keypair slot).replay counter).1 = false ∧
          r.events = []) ∨
        (wireguardCheckReplay lib.rejectAfterMessages (peer.keypair slot).replay counter).1 = true ∧
          (r.events = [.accepted (peer.keypair slot).receivingKey counter] ∨
            ∃ packet, Deliverable plaintext packet ∧
              r.events = [.accepted (peer.keypair slot).receivingKey counter,
                .tcpipInput (peer.keypair slot).receivingKey counter packet])) := by
  unfold processTransportLocked at h
  by_cases hsize : incoming.length < sizeofTransportData + authtagLen ∨
      sizeofTransportData + tsvitaInnerMtu + 15 + authtagLen < incoming.length
  · rw [if_pos hsize] at h
    cases h
    exact Or.inl ⟨rfl, rfl⟩
  rw [if_neg hsize] at h
  push Not at hsize
  simp only [Option.bind_eq_bind, Option.bind_eq_some_iff] at h
  obtain ⟨peer, hpeer, receiver, -, h⟩ := h
  cases hslot : lib.getPeerKeypairForIdx peer (UInt32.ofNat (ofBytes receiver)) with
  | none =>
    simp only [hslot] at h
    cases h
    exact Or.inl ⟨rfl, rfl⟩
  | some slot =>
    simp only [hslot] at h
    have hvalid := (hl.lookup _ _ _ hslot).1
    by_cases hreceiving : !(peer.keypair slot).receivingValid ∨
        incoming.length - sizeofTransportData < authtagLen
    · rw [if_pos hreceiving] at h
      cases h
      exact Or.inl ⟨rfl, rfl⟩
    rw [if_neg hreceiving] at h
    simp only [not_or, Bool.not_eq_true, Bool.not_eq_false', not_lt] at hreceiving
    simp only [Option.bind_eq_some_iff] at h
    obtain ⟨counterBytes, hcounter, encrypted, hencrypted, h⟩ := h
    have hbody : incoming.drop sizeofTransportData = encrypted := by
      rw [bytesAt, if_pos (by omega), Option.some.injEq] at hencrypted
      rw [← hencrypted, List.take_of_length_le (by rw [List.length_drop])]
    by_cases hcap : plaintextCapacity < incoming.length - sizeofTransportData - authtagLen
    · rw [if_pos hcap] at h
      cases h
    rw [if_neg hcap] at h
    cases hdecrypt : lib.decryptPacket encrypted (UInt64.ofNat (ofBytes counterBytes))
        (peer.keypair slot) with
    | none =>
      simp only [hdecrypt] at h
      cases h
      exact Or.inl ⟨rfl, rfl⟩
    | some plaintext =>
      simp only [hdecrypt] at h
      have haead := hl.decrypt _ _ _ _ hdecrypt
      have hlength : plaintext.length = incoming.length - sizeofTransportData - authtagLen := by
        have hl' := congrArg List.length (hbody.trans haead)
        rw [List.length_drop, hl.aead_length] at hl'
        omega
      have hsealed : Sealed m peer incoming slot (UInt64.ofNat (ofBytes counterBytes)) plaintext :=
        ⟨hvalid, hreceiving.1, ⟨counterBytes, hcounter, rfl⟩, hbody.trans haead⟩
      refine Or.inr ⟨peer, slot, _, plaintext, hpeer, hsealed, ?_⟩
      cases hcheck : (wireguardCheckReplay lib.rejectAfterMessages (peer.keypair slot).replay
          (UInt64.ofNat (ofBytes counterBytes))).1 with
      | false =>
        simp only [hcheck, Bool.not_false, if_true] at h
        cases h
        exact ⟨rfl, rfl, Or.inl ⟨rfl, rfl⟩⟩
      | true =>
        simp only [hcheck, Bool.not_true, Bool.false_eq_true, if_false, ← hlength] at h
        obtain ⟨hg, hpending, hevents⟩ := deliverPlaintext_cases h
        exact ⟨hg, hpending, Or.inr ⟨rfl, hevents⟩⟩

lemma processTransportLocked_move (hl : Lawful lib m) {g : TunnelContext K H} {incoming : Bytes}
    {delivery : Delivery} {r : Result K H I}
    (h : processTransportLocked lib g incoming delivery = some r) :
    Move lib m (some incoming) g r.events r.g := by
  rcases processTransportLocked_cases hl h with ⟨hg, hevents⟩ |
    ⟨peer, slot, counter, plaintext, hpeer, hsealed, hpeer', hpending, hcheck⟩
  · rw [hg, hevents]
    exact .same _ g
  rcases hcheck with ⟨hfalse, hevents⟩ | ⟨htrue, hevents | ⟨packet, -, hevents⟩⟩
  · rw [hevents]
    exact .replayed slot counter hpeer hsealed.valid (Prod.ext hfalse rfl) hpeer' hpending
  · rw [hevents]
    exact .accept slot counter [] hpeer hsealed.valid (Prod.ext htrue rfl) hpeer' hpending
      (by simp)
  · rw [hevents]
    exact .accept slot counter [packet] hpeer hsealed.valid (Prod.ext htrue rfl) hpeer' hpending
      (by simp)

lemma processTransportLocked_isSome (hl : Lawful lib m) {g : TunnelContext K H}
    (hpeer : g.peer.isSome) (incoming : Bytes) (delivery : Delivery) :
    (processTransportLocked lib g incoming delivery).isSome := by
  obtain ⟨peer, hpeer⟩ := Option.isSome_iff_exists.mp hpeer
  have hheader : sizeofTransportData = 16 := rfl
  have htag : authtagLen = 16 := rfl
  have hmtu : tsvitaInnerMtu = 1280 := rfl
  unfold processTransportLocked
  by_cases hsize : incoming.length < sizeofTransportData + authtagLen ∨
      sizeofTransportData + tsvitaInnerMtu + 15 + authtagLen < incoming.length
  · rw [if_pos hsize]
    rfl
  rw [if_neg hsize]
  push Not at hsize
  have hreceiver : bytesAt incoming 4 4 = some ((incoming.drop 4).take 4) := if_pos (by omega)
  have hcounter : bytesAt incoming 8 8 = some ((incoming.drop 8).take 8) := if_pos (by omega)
  have hencrypted : bytesAt incoming sizeofTransportData (incoming.length - sizeofTransportData) =
      some ((incoming.drop sizeofTransportData).take (incoming.length - sizeofTransportData)) :=
    if_pos (by omega)
  have hcap : ¬ plaintextCapacity < incoming.length - sizeofTransportData - authtagLen := by
    unfold plaintextCapacity
    omega
  simp only [hpeer, hreceiver, hcounter, hencrypted, Option.bind_eq_bind, Option.bind_some]
  cases lib.getPeerKeypairForIdx peer (UInt32.ofNat (ofBytes ((incoming.drop 4).take 4))) with
  | none => rfl
  | some slot =>
    dsimp only
    by_cases hreceiving : !(peer.keypair slot).receivingValid ∨
        incoming.length - sizeofTransportData < authtagLen
    · rw [if_pos hreceiving]
      rfl
    rw [if_neg hreceiving, if_neg hcap]
    cases hdecrypt : lib.decryptPacket
        ((incoming.drop sizeofTransportData).take (incoming.length - sizeofTransportData))
        (UInt64.ofNat (ofBytes ((incoming.drop 8).take 8))) (peer.keypair slot) with
    | none => rfl
    | some plaintext =>
      have hlength : plaintext.length = incoming.length - sizeofTransportData - authtagLen := by
        have haead := congrArg List.length (hl.decrypt _ _ _ _ hdecrypt)
        rw [hl.aead_length, List.length_take, List.length_drop] at haead
        omega
      dsimp only
      rw [← hlength]
      split_ifs
      · rfl
      · exact deliverPlaintext_isSome (hlength ▸ not_lt.mp hcap)

lemma processHandshakeResponseLocked_isSome {g : TunnelContext K H} (hpeer : g.peer.isSome)
    (packet : Bytes) (processTime : UInt64) :
    (processHandshakeResponseLocked lib g packet processTime).isSome := by
  obtain ⟨peer, hpeer⟩ := Option.isSome_iff_exists.mp hpeer
  unfold processHandshakeResponseLocked
  by_cases hsize : packet.length ≠ sizeofHandshakeResponse ∨
      lib.getMessageType packet ≠ messageHandshakeResponse
  · rw [if_pos hsize]
    rfl
  rw [if_neg hsize]
  push Not at hsize
  have hlength : packet.length = 92 := hsize.1
  have hreceiver : bytesAt packet 8 4 = some ((packet.drop 8).take 4) := if_pos (by omega)
  have hcovered : bytesAt packet 0 (sizeofHandshakeResponse - 2 * cookieLen) =
      some ((packet.drop 0).take (sizeofHandshakeResponse - 2 * cookieLen)) := by
    refine if_pos ?_
    unfold sizeofHandshakeResponse cookieLen
    omega
  have hmac : bytesAt packet 60 cookieLen = some ((packet.drop 60).take cookieLen) := by
    refine if_pos ?_
    unfold cookieLen
    omega
  simp only [hpeer, hreceiver, hcovered, hmac, Option.bind_eq_bind, Option.bind_some]
  split_ifs
  · rfl
  · rfl
  · split <;> rfl

lemma sendHandshakeLocked_isSome {g : TunnelContext K H} (hpeer : g.peer.isSome) (draw : R)
    (sent : ℤ) : (sendHandshakeLocked lib g draw sent).isSome := by
  obtain ⟨peer, hpeer⟩ := Option.isSome_iff_exists.mp hpeer
  simp only [sendHandshakeLocked, hpeer]
  split
  · rfl
  · split_ifs <;> rfl

lemma recordTransportRejection_move (datagram : Option Bytes) (g : TunnelContext K H)
    (result : ℤ) : Move lib m datagram g (recordTransportRejection (I := I) g result).2
      (recordTransportRejection (I := I) g result).1 := by
  have hlog : ∀ (reason : Reason) (total : UInt64),
      ∀ e ∈ (rejectionLog result reason total : List (Event K H I)), e.Quiet := by
    intro reason total e he
    unfold rejectionLog at he
    split_ifs at he
    · rw [List.mem_singleton.mp he]
      trivial
    · simp at he
  unfold recordTransportRejection
  split_ifs <;> exact .quiet rfl rfl (hlog _ _)

lemma processLocked_move (hl : Lawful lib m) {g : TunnelContext K H} {incoming : Bytes}
    {delivery : Delivery} {processTime : UInt64} {r : Result K H I}
    (h : processLocked lib g incoming delivery processTime = some r) :
    Move lib m (some incoming) g r.events r.g := by
  unfold processLocked at h
  split_ifs at h
  · exact processHandshakeResponseLocked_move hl h
  · exact processTransportLocked_move hl h
  · cases h
    exact .same _ g

lemma processLocked_isSome (hl : Lawful lib m) {g : TunnelContext K H} (hpeer : g.peer.isSome)
    (incoming : Bytes) (delivery : Delivery) (processTime : UInt64) :
    (processLocked lib g incoming delivery processTime).isSome := by
  unfold processLocked
  split_ifs
  · exact processHandshakeResponseLocked_isSome hpeer incoming processTime
  · exact processTransportLocked_isSome hl hpeer incoming delivery
  · rfl

lemma receiveDatagram_moves (hl : Lawful lib m) {g : TunnelContext K H} {received : Received}
    {delivery : Delivery} {processTime : UInt64}
    {r : TunnelContext K H × List (Event K H I)}
    (h : receiveDatagram lib g received delivery processTime = some r) :
    MoveRun lib m (received.map Prod.snd) g r.2 r.1 := by
  rcases received with _ | ⟨source, incoming⟩
  · cases h
    exact (Move.same _ g).run
  simp only [receiveDatagram] at h
  by_cases hpeer : 0 < incoming.length ∧ sourceIsPeer g source
  · rw [if_pos hpeer] at h
    simp only [Option.bind_eq_bind, Option.bind_eq_some_iff] at h
    obtain ⟨q, hq, h⟩ := h
    have hmove := processLocked_move hl hq
    split_ifs at h
    · cases h
      exact hmove.run.append (recordTransportRejection_move _ q.g q.result).run
    · cases h
      exact hmove.run
  · rw [if_neg hpeer] at h
    cases h
    exact (Move.same _ g).run

lemma receiveDatagram_isSome (hl : Lawful lib m) {g : TunnelContext K H} (hpeer : g.peer.isSome)
    (received : Received) (delivery : Delivery) (processTime : UInt64) :
    (receiveDatagram lib g received delivery processTime).isSome := by
  rcases received with _ | ⟨source, incoming⟩
  · rfl
  simp only [receiveDatagram]
  obtain ⟨q, hq⟩ := Option.isSome_iff_exists.mp
    (processLocked_isSome hl hpeer incoming delivery processTime)
  simp only [hq, Option.bind_eq_bind, Option.bind_some]
  split_ifs <;> rfl

lemma maintainRekey_moves (hl : Lawful lib m) {g : TunnelContext K H} {now : UInt64} {draw : R}
    {sent : ℤ} {r : TunnelContext K H × List (Event K H I)}
    (h : maintainRekey lib g now draw sent = some r) :
    MoveRun lib m none g r.2 r.1 := by
  unfold maintainRekey at h
  split_ifs at h
  · simp only [Option.bind_eq_bind, Option.bind_eq_some_iff] at h
    obtain ⟨q, hq, h⟩ := h
    cases h
    exact (sendHandshakeLocked_move hl none hq).run.append
      (Move.quietly (e := .rekey q.result) none q.g trivial).run
  · cases h
    exact (Move.same _ g).run

lemma maintainRekey_isSome {g : TunnelContext K H} (hpeer : g.peer.isSome) (now : UInt64)
    (draw : R) (sent : ℤ) : (maintainRekey lib g now draw sent).isSome := by
  unfold maintainRekey
  split_ifs
  · obtain ⟨q, hq⟩ : ∃ q, sendHandshakeLocked lib g draw sent = some q :=
      Option.isSome_iff_exists.mp (sendHandshakeLocked_isSome hpeer draw sent)
    simp [hq]
  · rfl

lemma maintainKeepalive_moves (hl : Lawful lib m) (g : TunnelContext K H) (now : UInt64)
    (sent : ℤ) (processTime : UInt64) :
    MoveRun lib m none g (maintainKeepalive lib g now sent processTime).2
      (maintainKeepalive lib g now sent processTime).1 := by
  unfold maintainKeepalive
  cases g.peer with
  | none => exact (Move.same _ g).run
  | some peer =>
    dsimp only
    split_ifs
    · exact (sendTransportLocked_move hl none g [] sent processTime).run.append
        (Move.quietly (e := .keepalive _) none _ trivial).run
    · exact (Move.same _ g).run

end Functions

end MoonlightVita.Tunnel
