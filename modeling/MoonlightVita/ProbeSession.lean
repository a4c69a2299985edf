import MoonlightVita.ProbeApproval
import MoonlightVita.TunnelDelivery
import MoonlightVita.TunnelLaunch
import MoonlightVita.TunnelNonce

/-!
# A session of the probe

`send_handshake_and_ip_probe`: one handshake with the configured endpoint, and the flow over its
session. What it does to the peer is a run of the moves of the tunnel, so the promises that
hold for those hold here.
-/
namespace MoonlightVita.Probe
open Fallible Files LittleEndian ProbeProgram ReplayWindow Resources Transition Tunnel
open PeerConfig (Config)
open TunnelLaunch (endpointOf sceNetctlStateConnected)

variable {K H R I : Type}

def messageCookieReply : UInt8 := 3

structure SessionOutcomes (R : Type) where
  stateResult : ℤ
  state : ℤ
  socket : ℤ
  draw : R
  sent : ℤ
  received : Except ErrorCode (Endpoint × Bytes)
  echo : EchoOutcomes

structure Session (K H I : Type) where
  result : ℤ
  notes : List (Note K H I)

def responseBufferSize : ℕ := 256

/-- The checks of the response, and the peer with the session that it starts. -/
def processResponse (lib : Wireguard K H R I) (peer : Peer K H) (destination : Endpoint)
    (initiation : I) (source : Endpoint) (response : Bytes) :
    Option (ℤ × Peer K H × List (Event K H I)) :=
  let type := lib.getMessageType response
  if source ≠ destination then some (-5, peer, [])
  else if type = messageCookieReply then some (-6, peer, [])
  else if type ≠ messageHandshakeResponse ∨ response.length ≠ sizeofHandshakeResponse then
    some (-7, peer, [])
  else do
    let receiver ← bytesAt response 8 4
    if ofBytes receiver ≠ (lib.sender initiation).toNat then some (-8, peer, [])
    else
      let covered ← bytesAt response 0 (sizeofHandshakeResponse - 2 * cookieLen)
      let mac1 ← bytesAt response 60 cookieLen
      if !lib.checkMac1 covered mac1 then some (-9, peer, [])
      else
        match lib.processHandshakeResponse peer.handshake response with
        | (false, handshake) => some (-9, { peer with handshake := handshake }, [])
        | (true, handshake) =>
          some (0, lib.startSession { peer with handshake := handshake },
            [.startSession handshake])

/-- What is done with the socket: the handshake, and the flow over its session. -/
def handshakeAndFlow (lib : Wireguard K H R I) (peer : Peer K H) (destination : Endpoint)
    (o : SessionOutcomes R) : Option (Session K H I) :=
  match lib.createHandshakeInitiation o.draw peer with
  | (none, _) => some ⟨-3, [.wireguard (.initiation none)]⟩
  | (some initiation, handshake) =>
    let peer := { peer with handshake := handshake }
    let sent : List (Event K H I) := [.initiation (some initiation), .initiationSent initiation o.sent]
    if o.sent ≠ sizeofHandshakeInitiation then
      some ⟨if o.sent < 0 then o.sent else -4, sent.map .wireguard⟩
    else
      match o.received with
      | .error code => some ⟨code, sent.map .wireguard⟩
      | .ok (source, response) =>
        if responseBufferSize < response.length then none
        else do
          let r ← processResponse lib peer destination initiation source response
          let notes := (sent ++ r.2.2).map .wireguard
          if r.1 ≠ 0 then some ⟨r.1, notes⟩
          else
            let flow ← sendLwipEcho lib o.echo o.socket destination destination.address r.2.1
            some ⟨if flow.1 < 0 then flow.1 else 0, notes ++ flow.2.notes⟩

def sendHandshakeAndIpProbe (lib : Wireguard K H R I) (config : Config) (peer : Peer K H)
    (o : SessionOutcomes R) : Option (Session K H I) :=
  if o.stateResult < 0 ∨ o.state ≠ sceNetctlStateConnected then
    some ⟨if o.stateResult < 0 then o.stateResult else -1, []⟩
  else
    match endpointOf config with
    | none => some ⟨-2, []⟩
    | some destination =>
      if o.socket < 0 then some ⟨o.socket, []⟩
      else do
        let r ← handshakeAndFlow lib peer destination o
        some ⟨r.result, .resource (.acquire (.socket o.socket)) :: r.notes ++
          [.resource (.release (.socket o.socket))]⟩

section Moves
variable {lib : Wireguard K H R I} {m : Meaning K H I} {going : Bool} {s t : Flow K H I}
  {g : TunnelContext K H} {context : LwipTunnelContext K H}

lemma lwipTunnelOutput_created (context : LwipTunnelContext K H) (packet : Pbuf) (sent : ℤ) :
    created (lwipTunnelOutput lib context packet sent).events = [] := by
  unfold lwipTunnelOutput
  cases context.peer with
  | none => rfl
  | some peer =>
    dsimp only
    split_ifs <;> rfl

lemma lwipTunnelOutput_move (hl : Lawful lib m) (hpeer : g.peer = context.peer) (packet : Pbuf)
    (sent : ℤ) : ∃ g', Move lib m none g (lwipTunnelOutput lib context packet sent).events g' ∧
      g'.peer = (lwipTunnelOutput lib context packet sent).context.peer := by
  obtain ⟨hevents, hpeer', -⟩ := lwipTunnelOutput_eq lib hpeer packet sent 0
  exact ⟨_, hevents ▸ tunnelNetifOutput_move hl none g (some packet) sent 0, hpeer'.symm⟩

/-- Once a counter is taken, at most one packet is handed to lwIP. -/
lemma lwipInput_events (context : LwipTunnelContext K H) (key : K) (counter : UInt64)
    (plaintext : Bytes) (plaintextSize : ℕ) (delivery : Delivery) :
    Ensures (fun r => r.context.peer = context.peer ∧ ∃ packets : List Bytes, packets.length ≤ 1 ∧
        r.events = .accepted key counter :: packets.map (.tcpipInput key counter))
      (lwipInput (I := I) context key counter plaintext plaintextSize delivery) := by
  unfold lwipInput
  refine ensures_bind fun version => ensures_bind fun source => ensures_bind fun destination => ?_
  refine ensures_ite (ensures_some ⟨rfl, [], by simp, rfl⟩) ?_
  refine ensures_bind fun high => ensures_bind fun low => ?_
  refine ensures_ite (ensures_some ⟨rfl, [], by simp, rfl⟩) (ensures_bind fun packet => ?_)
  refine ensures_ite (ensures_some ⟨rfl, [], by simp, rfl⟩) ?_
  exact ensures_ite (ensures_some ⟨rfl, [packet], by simp, rfl⟩)
    (ensures_some ⟨rfl, [packet], by simp, rfl⟩)

lemma created_accepted (key : K) (counter : UInt64) (packets : List Bytes) :
    created (.accepted key counter :: packets.map (.tcpipInput key counter) :
      List (Event K H I)) = [] := by
  simp [created, Event.created?]

lemma lwipProcessTransport_move (hl : Lawful lib m) (hpeer : g.peer = context.peer)
    {incoming : Bytes} {source : Endpoint} {delivery : Delivery} {r : Outcome K H I ℤ}
    (h : lwipProcessTransport lib context incoming source delivery = some r) :
    (∃ g', Move lib m (some incoming) g r.events g' ∧ g'.peer = r.context.peer) ∧
      created r.events = [] := by
  have hsame : ∀ result : ℤ, r = ⟨result, context, []⟩ →
      (∃ g', Move lib m (some incoming) g r.events g' ∧ g'.peer = r.context.peer) ∧
        created r.events = [] := by
    rintro result rfl
    exact ⟨⟨g, .same _ g, hpeer⟩, rfl⟩
  unfold lwipProcessTransport at h
  split_ifs at h with hsource
  · exact hsame _ (Option.some.inj h).symm
  simp only [Option.bind_eq_bind, Option.bind_eq_some_iff] at h
  obtain ⟨peer, hp, receiver, -, h⟩ := h
  cases hslot : lib.getPeerKeypairForIdx peer (UInt32.ofNat (ofBytes receiver)) with
  | none =>
    simp only [hslot] at h
    exact hsame _ (Option.some.inj h).symm
  | some slot =>
    simp only [hslot] at h
    have hvalid := (hl.lookup _ _ _ hslot).1
    split_ifs at h
    · exact hsame _ (Option.some.inj h).symm
    simp only [Option.bind_eq_some_iff] at h
    obtain ⟨counterBytes, -, encrypted, -, h⟩ := h
    cases hdecrypt : lib.decryptPacket encrypted (UInt64.ofNat (ofBytes counterBytes))
        (peer.keypair slot) with
    | none =>
      simp only [hdecrypt] at h
      exact hsame _ (Option.some.inj h).symm
    | some plaintext =>
      simp only [hdecrypt] at h
      have hg : g.peer = some peer := hpeer.trans hp
      cases hcheck : (wireguardCheckReplay lib.rejectAfterMessages (peer.keypair slot).replay
          (UInt64.ofNat (ofBytes counterBytes))).1 with
      | false =>
        rw [if_pos (by simp [hcheck])] at h
        cases h
        exact ⟨⟨{ g with peer := _ }, .replayed slot _ hg hvalid (Prod.ext hcheck rfl) rfl rfl,
          rfl⟩, rfl⟩
      | true =>
        rw [if_neg (by simp [hcheck])] at h
        obtain ⟨hcontext, packets, honce, hevents⟩ := lwipInput_events _ _ _ _ _ _ r h
        rw [hevents]
        exact ⟨⟨{ g with peer := _ }, .accept slot _ packets hg hvalid (Prod.ext hcheck rfl) rfl
          rfl honce, hcontext.symm⟩, created_accepted _ _ _⟩

/-- The events of a flow are those of a run of moves from the peer with which it began. -/
structure Traced (lib : Wireguard K H R I) (m : Meaning K H I) (g₀ : TunnelContext K H)
    (s : Flow K H I) : Prop where
  moves : ∃ is g, Run (moves lib m) g₀ is (eventsOf s.notes) g ∧ g.peer = s.context.peer
  created : created (eventsOf s.notes) = []

lemma Traced.append {g₀ : TunnelContext K H} (h : Traced lib m g₀ s) {new : List (Note K H I)}
    (datagram : Option Bytes) (hnotes : t.notes = s.notes ++ new)
    (hmove : ∀ g, g.peer = s.context.peer →
      ∃ g', Move lib m datagram g (eventsOf new) g' ∧ g'.peer = t.context.peer)
    (hcreated : Tunnel.created (eventsOf new) = []) : Traced lib m g₀ t where
  moves := by
    obtain ⟨is, g, hrun, hpeer⟩ := h.moves
    obtain ⟨g', hm, hpeer'⟩ := hmove g hpeer
    rw [hnotes, eventsOf_append]
    exact ⟨_, g', .snoc hrun hm, hpeer'⟩
  created := by
    rw [hnotes, eventsOf_append, created_append, h.created, hcreated]
    rfl

lemma Traced.quiet {g₀ : TunnelContext K H} (h : Traced lib m g₀ s) {new : List (Note K H I)}
    (hnotes : t.notes = s.notes ++ new) (hnew : eventsOf new = [])
    (hpeer : t.context.peer = s.context.peer) : Traced lib m g₀ t where
  moves := by
    obtain ⟨is, g, hrun, hg⟩ := h.moves
    rw [hnotes, eventsOf_append, hnew, List.append_nil]
    exact ⟨is, g, hrun, hg.trans hpeer.symm⟩
  created := by rw [hnotes, eventsOf_append, hnew, List.append_nil, h.created]

lemma traced_call (hl : Lawful lib m) {g₀ : TunnelContext K H} (h : Traced lib m g₀ s)
    {c : Callback} (called : call lib s c = some t) : Traced lib m g₀ t := by
  unfold call at called
  by_cases hallows : allows s.context c = true
  · rw [if_neg (by simp [hallows])] at called
    cases c with
    | output packet sent =>
      cases called
      refine h.append none (List.append_assoc _ _ _) (fun g hg => ?_) ?_
      · simpa [Note.event?] using lwipTunnelOutput_move hl hg packet sent
      · simpa [Note.event?] using lwipTunnelOutput_created s.context packet sent
    | echoReceived packet source port =>
      cases called
      refine h.quiet rfl (by simp [Note.event?]) ?_
      cases packet with
      | none => rfl
      | some packet =>
        simp only [lwipEchoReceived]
        split_ifs <;> rfl
    | tcpConnected error write sent =>
      cases called
      refine h.quiet rfl (by simp [Note.event?]) ?_
      simp only [lwipTcpConnected]
      split_ifs <;> rfl
    | tcpReceived packet error close =>
      cases called
      refine h.quiet (List.append_assoc _ _ _) ?_ ?_
      · split_ifs <;> simp [Note.event?]
      · cases packet <;> simp only [lwipTcpReceived] <;> split_ifs <;> rfl
    | tcpError error =>
      cases called
      refine h.quiet (List.append_assoc _ _ _) ?_ rfl
      split_ifs <;> simp [Note.event?]
  · rw [if_pos (by simp [hallows])] at called
    cases called

theorem traced_change (hl : Lawful lib m) {g₀ : TunnelContext K H} (hs : Traced lib m g₀ s)
    (h : Change lib going s t) : Traced lib m g₀ t := by
  cases h with
  | turn turned =>
    cases turned with
    | callback called => exact traced_call hl hs called
    | @datagram r incoming source delivery processed taken =>
      let g : TunnelContext K H := ⟨source, s.context.peer, 0, 0, 0, 0, 0, 0, 0, 0⟩
      have hpeer : g.peer = s.context.peer := rfl
      have hcreated := (lwipProcessTransport_move hl hpeer processed).2
      refine hs.append (some incoming) rfl (fun g hg => ?_) ?_
      · simpa [Note.event?] using (lwipProcessTransport_move hl hg processed).1
      · simpa [Note.event?] using hcreated
  | takeUdp absent => exact hs.quiet rfl (by simp [Note.event?]) rfl
  | takeTcp absent echoed => exact hs.quiet rfl (by simp [Note.event?]) rfl
  | giveTcp present => exact hs.quiet rfl (by simp [Note.event?]) rfl
  | giveUdp present => exact hs.quiet rfl (by simp [Note.event?]) rfl

theorem traced_changes (hl : Lawful lib m) {g₀ : TunnelContext K H} (hs : Traced lib m g₀ s)
    (h : Changes lib going s t) : Traced lib m g₀ t := by
  induction h with
  | refl => exact hs
  | tail _ step ih => exact traced_change hl ih step

theorem sendLwipEcho_traced (hl : Lawful lib m) {o : EchoOutcomes} {socketId : ℤ}
    {destination : Endpoint} {expectedOuterAddress : UInt32} {peer : Peer K H} {result : ℤ}
    (hpeer : g.peer = some peer)
    (h : sendLwipEcho lib o socketId destination expectedOuterAddress peer = some (result, t)) :
    Traced lib m g t := by
  have hstart : Traced lib m g (Flow.start socketId destination expectedOuterAddress peer) :=
    ⟨⟨[], g, .nil, hpeer⟩, rfl⟩
  rcases sendLwipEcho_cases h with ⟨-, rfl⟩ | ⟨u, v, hexchange, hcleanup, rfl⟩
  · exact hstart
  have hbegun : Traced lib m g (begun socketId destination expectedOuterAddress peer) :=
    hstart.quiet rfl (by simp [Note.event?]) rfl
  have hcleaned := traced_changes hl (traced_changes hl hbegun (exchange_changes rfl rfl hexchange))
    (cleanup_changes true hcleanup).1
  exact hcleaned.quiet rfl (by simp [Note.event?]) rfl

/-- A response is turned down, or it comes from the endpoint, answers the initiation in progress
and starts its session. -/
lemma processResponse_cases (hl : Lawful lib m) {peer : Peer K H} {destination source : Endpoint}
    {initiation : I} {response : Bytes} {r : ℤ × Peer K H × List (Event K H I)}
    (h : processResponse lib peer destination initiation source response = some r) :
    (r.1 < 0 ∧ r.2.2 = []) ∨
    r.1 = 0 ∧ source = destination ∧ ∃ handshake i, m.initiation peer.handshake = some i ∧
      m.initiation handshake = some i ∧ m.response handshake = some response ∧
      m.answers i response ∧ r.2.1 = lib.startSession { peer with handshake := handshake } ∧
      r.2.2 = [.startSession handshake] := by
  unfold processResponse at h
  dsimp only at h
  by_cases hsource : source ≠ destination
  · rw [if_pos hsource] at h
    cases h
    exact Or.inl ⟨by simp, rfl⟩
  rw [if_neg hsource] at h
  split_ifs at h
  · cases h
    exact Or.inl ⟨by simp, rfl⟩
  · cases h
    exact Or.inl ⟨by simp, rfl⟩
  simp only [Option.bind_eq_bind, Option.bind_eq_some_iff] at h
  obtain ⟨receiver, -, h⟩ := h
  split_ifs at h
  · cases h
    exact Or.inl ⟨by simp, rfl⟩
  simp only [Option.bind_eq_some_iff] at h
  obtain ⟨covered, -, mac1, -, h⟩ := h
  split_ifs at h
  · cases h
    exact Or.inl ⟨by simp, rfl⟩
  split at h
  · cases h
    exact Or.inl ⟨by simp, rfl⟩
  · rename_i handshake hprocess
    cases h
    obtain ⟨i, hbefore, hstate, hanswer, hanswers⟩ := hl.process_true _ _ _ hprocess
    exact Or.inr ⟨rfl, not_not.mp hsource, handshake, i, hbefore, hstate, hanswer, hanswers,
      rfl, rfl⟩

/-- What is noted once an initiation has been sent. -/
def initiated (i : I) (o : SessionOutcomes R) : List (Event K H I) :=
  [.initiation (some i), .initiationSent i o.sent]

/-- The ways in which a handshake ends: without an initiation, without a response, with a response
that is turned down, and with a flow. -/
lemma handshakeAndFlow_cases {peer : Peer K H} {destination : Endpoint} {o : SessionOutcomes R}
    {r : Session K H I} (h : handshakeAndFlow lib peer destination o = some r) :
    (∃ handshake, lib.createHandshakeInitiation o.draw peer = (none, handshake) ∧
      r = ⟨-3, [.wireguard (.initiation none)]⟩) ∨
    ∃ i handshake, lib.createHandshakeInitiation o.draw peer = (some i, handshake) ∧
      ((r.result < 0 ∧ r.notes = (initiated i o).map .wireguard) ∨
      ∃ source response p, o.sent = sizeofHandshakeInitiation ∧
        o.received = .ok (source, response) ∧
        processResponse lib { peer with handshake := handshake } destination i source response =
          some p ∧
        ((p.1 ≠ 0 ∧ r = ⟨p.1, (initiated i o ++ p.2.2).map .wireguard⟩) ∨
        p.1 = 0 ∧ ∃ flow, sendLwipEcho lib o.echo o.socket destination destination.address p.2.1 =
            some flow ∧
          r = ⟨if flow.1 < 0 then flow.1 else 0,
            (initiated i o ++ p.2.2).map .wireguard ++ flow.2.notes⟩)) := by
  unfold handshakeAndFlow at h
  split at h
  · rename_i handshake hcreate
    cases h
    exact Or.inl ⟨handshake, hcreate, rfl⟩
  rename_i i handshake hcreate
  refine Or.inr ⟨i, handshake, hcreate, ?_⟩
  dsimp only at h
  by_cases hsent : o.sent ≠ sizeofHandshakeInitiation
  · rw [if_pos hsent] at h
    cases h
    refine Or.inl ⟨?_, rfl⟩
    dsimp only
    split_ifs with hneg
    · exact hneg
    · norm_num
  rw [if_neg hsent] at h
  cases hreceived : o.received with
  | error code =>
    simp only [hreceived] at h
    cases h
    exact Or.inl ⟨code.2, rfl⟩
  | ok datagram =>
    obtain ⟨source, response⟩ := datagram
    simp only [hreceived] at h
    split_ifs at h
    simp only [Option.bind_eq_bind, Option.bind_eq_some_iff] at h
    obtain ⟨p, hprocess, h⟩ := h
    refine Or.inr ⟨source, response, p, not_not.mp hsent, rfl, hprocess, ?_⟩
    by_cases hresult : p.1 ≠ 0
    · rw [if_pos hresult] at h
      cases h
      exact Or.inl ⟨hresult, rfl⟩
    · rw [if_neg hresult] at h
      simp only [Option.bind_eq_some_iff, Option.some.injEq] at h
      obtain ⟨flow, hflow, rfl⟩ := h
      exact Or.inr ⟨not_not.mp hresult, flow, hflow, rfl⟩

lemma Approved.prepend {notes before : List (Note K H I)} (h : Approved notes)
    (hbefore : callbacks before = []) : Approved (before ++ notes) := by
  have hcallbacks : callbacks (before ++ notes) = callbacks notes := by
    rw [callbacks_append, hbefore, List.nil_append]
  obtain ⟨hechoed, hconnected, hanswered, hunfailed⟩ := h
  constructor <;> rwa [hcallbacks]

/-- What a session does, up to its end or over its flow. -/
structure Conducted (lib : Wireguard K H R I) (m : Meaning K H I) (g : TunnelContext K H)
    (destination : Endpoint) (o : SessionOutcomes R) (r : Session K H I) : Prop where
  moves : ∃ is g', Run (moves lib m) g is (eventsOf r.notes) g'
  once : (created (eventsOf r.notes)).length ≤ 1
  result : r.result ≤ 0
  approved : r.result = 0 → ∃ i response, created (eventsOf r.notes) = [i] ∧
    o.sent = sizeofHandshakeInitiation ∧ o.received = .ok (destination, response) ∧
    m.answers i response ∧ AllTaken r.notes ∧
    ∃ before after, r.notes = before ++ after ∧ Approved before

lemma conducted_failed {destination : Endpoint} {o : SessionOutcomes R} {result : ℤ}
    {out : List (Event K H I)} (hresult : result < 0)
    (hmoves : ∃ is g', Run (moves lib m) g is out g') (honce : (created out).length ≤ 1) :
    Conducted lib m g destination o ⟨result, out.map .wireguard⟩ :=
  ⟨by simpa using hmoves, by simpa using honce, hresult.le, fun h => absurd h hresult.ne⟩

theorem handshakeAndFlow_conducted (hl : Lawful lib m) {peer : Peer K H} {destination : Endpoint}
    {o : SessionOutcomes R} {r : Session K H I} (hpeer : g.peer = some peer)
    (h : handshakeAndFlow lib peer destination o = some r) :
    Conducted lib m g destination o r := by
  rcases handshakeAndFlow_cases h with ⟨handshake, hcreate, rfl⟩ | ⟨i, handshake, hcreate, h⟩
  · have hfailed : Run (moves lib m) g [none] [.initiation none]
        { g with peer := some { peer with handshake := handshake } } :=
      .single (.initiateFailed hpeer rfl (hl.create_none _ _ _ hcreate) rfl)
    exact conducted_failed (by simp) ⟨_, _, hfailed⟩ (Nat.zero_le 1)
  obtain ⟨hstate, hnonzero, hunused⟩ := hl.create_some _ _ _ _ hcreate
  let g₁ : TunnelContext K H :=
    { g with
      peer := some { peer with handshake := handshake }
      pendingHandshakeSender := if o.sent = sizeofHandshakeInitiation then lib.sender i
        else g.pendingHandshakeSender }
  have hinitiated : Run (moves lib m) g [none] (initiated i o) g₁ :=
    .single (.initiate i o.sent hpeer rfl hstate hnonzero hunused rfl)
  have hcreated : created (initiated (K := K) (H := H) i o) = [i] := rfl
  rcases h with ⟨hneg, hnotes⟩ | ⟨source, response, p, hsent, hreceived, hprocess, h⟩
  · obtain ⟨result, notes⟩ := r
    subst hnotes
    exact conducted_failed hneg ⟨_, _, hinitiated⟩ (hcreated ▸ le_rfl)
  rcases processResponse_cases hl hprocess with ⟨hneg, hevents⟩ |
    ⟨hzero, rfl, handshake', i', hbefore, hstate', hanswer, hanswers, hpeer', hevents⟩
  · obtain ⟨-, rfl⟩ := h.resolve_right fun hflow => hneg.ne hflow.1
    rw [hevents, List.append_nil]
    exact conducted_failed hneg ⟨_, _, hinitiated⟩ (hcreated ▸ le_rfl)
  obtain ⟨-, ⟨result, flow⟩, hflow, rfl⟩ := h.resolve_left fun hfailed => hfailed.1 hzero
  obtain rfl : i = i' := Option.some.inj (hstate.symm.trans hbefore)
  let g₂ : TunnelContext K H := { g₁ with peer := some p.2.1, pendingHandshakeSender := 0 }
  have hg₁ : g₁.peer = some { peer with handshake := handshake } := rfl
  have hg₂ : g₂.peer = some p.2.1 := rfl
  have hsession : Run (moves lib m) g₁ [some response] [.startSession handshake'] g₂ :=
    .single (.session i response hg₁ hbefore hstate' hanswer hanswers (by rw [hg₂, hpeer']) rfl)
  obtain ⟨⟨is, g', hflowMoves, -⟩, hnothing⟩ := sendLwipEcho_traced hl hg₂ hflow
  obtain ⟨hresult, -, happroved⟩ := sendLwipEcho_approved hflow
  have hevents' : eventsOf ((initiated i o ++ p.2.2).map .wireguard ++ flow.notes) =
      initiated i o ++ ([.startSession handshake'] ++ eventsOf flow.notes) := by
    rw [eventsOf_append, eventsOf_wireguard, hevents, List.append_assoc]
  have hcreated' : created (initiated i o ++ ([.startSession handshake'] ++ eventsOf flow.notes)) =
      [i] := by
    rw [created_append, hcreated, created_append, hnothing]
    rfl
  refine ⟨⟨_, _, hevents' ▸ hinitiated.append (hsession.append hflowMoves)⟩, ?_, ?_, ?_⟩
  · rw [hevents', hcreated', List.length_singleton]
  · dsimp only
    split_ifs with hneg
    · exact hneg.le
    · exact le_rfl
  · intro hfinal
    dsimp only at hfinal
    have hzero' : result = 0 := by
      split_ifs at hfinal with hneg
      · omega
      · omega
    obtain ⟨htaken, before, after, hnotes, hbefore⟩ := happroved hzero'
    refine ⟨i, response, hevents' ▸ hcreated', hsent, hreceived, hanswers, ?_, ?_⟩
    · exact AllTaken.append (fun _ _ _ hmem => by simp at hmem) htaken
    · exact ⟨(initiated i o ++ p.2.2).map .wireguard ++ before, after,
        by rw [hnotes, List.append_assoc], hbefore.prepend (callbacks_wireguard _)⟩

end Moves

section Handles
variable {lib : Wireguard K H R I} {peer : Peer K H} {destination : Endpoint}
  {o : SessionOutcomes R} {r : Session K H I} {held : Held Handle}

/-- The handshake takes nothing, and the flow gives back what it takes. -/
lemma handshakeAndFlow_leaves (hsocket : held (.socket o.socket) = true)
    (hnetif : held (.netif o.socket) = false) (hudp : held (.udp o.socket) = false)
    (htcp : held (.tcp o.socket) = false) (h : handshakeAndFlow lib peer destination o = some r) :
    Leaves needs held (opsOf r.notes) held := by
  rcases handshakeAndFlow_cases h with ⟨handshake, -, rfl⟩ | ⟨i, handshake, -, h⟩
  · exact .nil
  rcases h with ⟨-, hnotes⟩ | ⟨source, response, p, -, -, -, h⟩
  · rw [hnotes, opsOf_wireguard]
    exact .nil
  rcases h with ⟨-, rfl⟩ | ⟨-, flow, hflow, rfl⟩
  · rw [opsOf_wireguard]
    exact .nil
  · rw [opsOf_append, opsOf_wireguard, List.nil_append]
    exact sendLwipEcho_leaves hsocket hnetif hudp htcp hflow

end Handles

section Sessions
variable {lib : Wireguard K H R I} {m : Meaning K H I} {config : Config} {handshake : H} {key : K}
  {o : SessionOutcomes R} {r : Session K H I}

/-- The peer of `wireguard_peer_init`. -/
def initialPeer (handshake : H) (key : K) : Peer K H := ⟨handshake, fun _ => Keypair.zero key⟩

lemma eventsOf_socket (notes : List (Note K H I)) (id : ℤ) :
    eventsOf (.resource (.acquire (.socket id)) :: notes ++
      [.resource (.release (.socket id))]) = eventsOf notes := by
  simp [Note.event?]

/-- A session ends before it has its socket, or it conducts its handshake and gives the socket
back. -/
lemma sendHandshakeAndIpProbe_cases {peer : Peer K H}
    (h : sendHandshakeAndIpProbe lib config peer o = some r) :
    (r.result < 0 ∧ r.notes = []) ∨ ∃ destination r', endpointOf config = some destination ∧
      handshakeAndFlow lib peer destination o = some r' ∧
      r = ⟨r'.result, .resource (.acquire (.socket o.socket)) :: r'.notes ++
        [.resource (.release (.socket o.socket))]⟩ := by
  unfold sendHandshakeAndIpProbe at h
  by_cases hstate : o.stateResult < 0 ∨ o.state ≠ sceNetctlStateConnected
  · rw [if_pos hstate] at h
    cases h
    refine Or.inl ⟨?_, rfl⟩
    dsimp only
    split_ifs with hneg
    · exact hneg
    · norm_num
  rw [if_neg hstate] at h
  cases hconfigured : endpointOf config with
  | none =>
    simp only [hconfigured] at h
    cases h
    exact Or.inl ⟨by simp, rfl⟩
  | some destination =>
    simp only [hconfigured] at h
    by_cases hsocket : o.socket < 0
    · rw [if_pos hsocket] at h
      cases h
      exact Or.inl ⟨hsocket, rfl⟩
    · rw [if_neg hsocket] at h
      simp only [Option.bind_eq_bind, Option.bind_eq_some_iff, Option.some.injEq] at h
      obtain ⟨r', hconduct, rfl⟩ := h
      exact Or.inr ⟨destination, r', rfl, hconduct, rfl⟩

/-- The socket of a session is given back after everything that the flow took with it. -/
theorem sendHandshakeAndIpProbe_leaves {held : Held Handle} {peer : Peer K H}
    (hnet : held .net = true) (hsocket : ∀ id, held (.socket id) = false)
    (hnetif : ∀ id, held (.netif id) = false) (hudp : ∀ id, held (.udp id) = false)
    (htcp : ∀ id, held (.tcp id) = false)
    (h : sendHandshakeAndIpProbe lib config peer o = some r) :
    Leaves needs held (opsOf r.notes) held := by
  rcases sendHandshakeAndIpProbe_cases h with ⟨-, hnotes⟩ | ⟨destination, r', -, hconduct, rfl⟩
  · rw [hnotes]
    exact .nil
  have hready : ∀ d, needs (.socket o.socket) d → held d = true := by
    intro d hd
    cases d with
    | net => exact hnet
    | _ => exact hd.elim
  have hunneeded : ∀ u, needs u (.socket o.socket) → held u = false := by
    intro u hu
    cases u with
    | netif id => exact hnetif id
    | _ => exact hu.elim
  have hbody : Leaves needs (held.set (.socket o.socket) true) (opsOf r'.notes)
      (held.set (.socket o.socket) true) := by
    refine handshakeAndFlow_leaves (set_self _ _) ?_ ?_ ?_ hconduct
    · rw [set_of_ne _ _ (by simp), hnetif]
    · rw [set_of_ne _ _ (by simp), hudp]
    · rw [set_of_ne _ _ (by simp), htcp]
  have hbracket := leaves_bracket (hsocket _) hready id hunneeded hbody
  simpa [Note.op?] using hbracket

/-- A session succeeds only after a response from the configured endpoint has answered its
initiation, both payloads have come back through the session, and every datagram of the
session was taken. No result is positive. -/
theorem sendHandshakeAndIpProbe_approved (hl : Lawful lib m) {peer : Peer K H}
    (h : sendHandshakeAndIpProbe lib config peer o = some r) :
    r.result ≤ 0 ∧ (r.result = 0 → ∃ destination i response,
      endpointOf config = some destination ∧ created (eventsOf r.notes) = [i] ∧
      o.sent = sizeofHandshakeInitiation ∧ o.received = .ok (destination, response) ∧
      m.answers i response ∧ AllTaken r.notes ∧
      ∃ before after, r.notes = before ++ after ∧ Approved before) := by
  rcases sendHandshakeAndIpProbe_cases h with ⟨hneg, -⟩ | ⟨destination, r', hconfigured, hconduct, rfl⟩
  · exact ⟨hneg.le, fun h => absurd h hneg.ne⟩
  let g : TunnelContext K H := ⟨destination, some peer, 0, 0, 0, 0, 0, 0, 0, 0⟩
  have hg : g.peer = some peer := rfl
  have hconducted := handshakeAndFlow_conducted hl hg hconduct
  refine ⟨hconducted.result, fun hzero => ?_⟩
  obtain ⟨i, response, hcreated, hsent, hreceived, hanswers, htaken, before, after, hnotes,
    happroved⟩ := hconducted.approved hzero
  refine ⟨destination, i, response, hconfigured, by rwa [eventsOf_socket], hsent, hreceived,
    hanswers, ?_, .resource (.acquire (.socket o.socket)) :: before,
    after ++ [.resource (.release (.socket o.socket))], ?_, ?_⟩
  · have hop : ∀ op, AllTaken ([.resource op] : List (Note K H I)) :=
      fun op _ _ _ hmem => by simp at hmem
    exact ((hop _).append htaken).append (hop _)
  · simp [hnotes]
  · have hcallbacks : callbacks ([.resource (.acquire (.socket o.socket))] :
        List (Note K H I)) = [] := rfl
    exact happroved.prepend hcallbacks

variable [DecidableEq K]

/-- What the packets of one session promise: no nonce is used twice under a key before the counter
wraps, what is sent carries the nonce of its body, and nothing is handed over twice; the
session has one key for each direction. -/
structure Secure (m : Meaning K H I) (events : List (Event K H I)) : Prop where
  session : (sessions m events).length ≤ 1
  nonces : ∀ k, (noncesOf k events).length ≤ 2 ^ 64 → (noncesOf k events).Nodup
  sealed : ∀ k counter plaintext datagram sent,
    .transport k counter plaintext datagram sent ∈ events → headerCounter datagram = some counter ∧
      datagram.drop sizeofTransportData = m.aead k counter plaintext
  sent : ∀ k, noncesOf k events ≠ [] → ∃ i response,
    sessions m events = [some i] ∧ k = m.sendingKey i response
  delivered : ∀ d ∈ deliveries events, ∃ i response,
    sessions m events = [some i] ∧ d.1 = m.receivingKey i response
  once : (deliveries events).Nodup

lemma secure_nil (m : Meaning K H I) : Secure m ([] : List (Event K H I)) where
  session := Nat.zero_le 1
  nonces := fun _ _ => List.nodup_nil
  sealed := fun _ _ _ _ _ he => by cases he
  sent := fun _ hne => absurd rfl hne
  delivered := fun _ hd => by cases hd
  once := List.nodup_nil

theorem secure_of_moves (hl : Lawful lib m) (hidle : m.initiation handshake = none)
    {endpoint : Endpoint} {is : List (Option Bytes)} {events : List (Event K H I)}
    {g : TunnelContext K H} (honce : (created events).length ≤ 1)
    (h : Run (moves lib m) (initialState (I := I) endpoint handshake key 0).g is events g) :
    Secure m events := by
  have hfresh : Fresh events := by
    unfold Fresh
    match created events, honce with
    | [], _ => exact List.nodup_nil
    | [i], _ => exact List.nodup_singleton i
  obtain ⟨hsession, hnonce, -, hdelivery⟩ := moves_invariant hl
    (P := fun events g => NonceInv m events g ∧ IndexInv lib m g ∧ DeliveryInv lib m events g)
    (sessionInv_initial endpoint key 0 hidle)
    ⟨nonceInv_initial m endpoint handshake key 0, indexInv_initial endpoint key 0 hidle,
      deliveryInv_initial endpoint handshake key 0⟩
    (fun _ _ _ _ _ _ hs hp hm => ⟨nonceInv_move hl hs hp.1 hm, indexInv_move hl hp.2.1 hm,
      deliveryInv_move hl hs hp.2.1 hp.2.2 hm⟩) h hfresh
  have hsubset : sessions m events ⊆ (created events).map some := by
    intro o ho
    obtain ⟨i, hi, rfl⟩ := hsession.known o ho
    exact List.mem_map_of_mem hi
  have hlength : (sessions m events).length ≤ 1 := by
    have hle := (hsession.once.subperm hsubset).length_le
    rw [List.length_map] at hle
    omega
  have honly : ∀ i, some i ∈ sessions m events → sessions m events = [some i] := by
    intro i hi
    match hlist : sessions m events, hlength with
    | [o], _ =>
      rw [hlist, List.mem_singleton] at hi
      rw [hi]
    | [], _ => simp [hlist] at hi
  refine ⟨hlength, fun k hk => ?_, ?_, ?_, ?_, hdelivery.once⟩
  · rw [hnonce.counted k]
    exact nodup_map_ofNat hk
  · intro k counter plaintext datagram sent he
    obtain ⟨u, d, out, v, -, hm, hmem⟩ := h.mem_origin he
    obtain ⟨receiver, rfl⟩ := Move.sealed hm hmem
    exact ⟨headerCounter_transportHeader receiver counter _,
      List.drop_left' (by simp [transportHeader, sizeofTransportData])⟩
  · intro k hk
    obtain ⟨i, response, hi, hkey⟩ := hnonce.keyed k hk
    exact ⟨i, response, honly i hi, hkey⟩
  · intro d hd
    have haccepted := hdelivery.accepted d hd
    obtain ⟨i, response, hi, hkey⟩ := hdelivery.keyed d.1 (List.ne_nil_of_mem haccepted)
    exact ⟨i, response, honly i hi, hkey⟩

/-- However lwIP calls back and whatever arrives, a session of the probe keeps the promises of
the tunnel. -/
theorem sendHandshakeAndIpProbe_secure (hl : Lawful lib m) (hidle : m.initiation handshake = none)
    (h : sendHandshakeAndIpProbe lib config (initialPeer handshake key) o = some r) :
    Secure m (eventsOf r.notes) := by
  rcases sendHandshakeAndIpProbe_cases h with ⟨-, hnotes⟩ | ⟨destination, r', -, hconduct, rfl⟩
  · rw [hnotes]
    exact secure_nil m
  · have hpeer : (initialState (I := I) destination handshake key 0).g.peer =
        some (initialPeer handshake key) := rfl
    have hconducted := handshakeAndFlow_conducted hl hpeer hconduct
    obtain ⟨is, g, hmoves⟩ := hconducted.moves
    rw [eventsOf_socket]
    exact secure_of_moves hl hidle hconducted.once hmoves

end Sessions

end MoonlightVita.Probe
