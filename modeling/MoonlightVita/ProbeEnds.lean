import MoonlightVita.EchoServer
import MoonlightVita.FlowProbeRuns

/-!
# Both ends of the probe

The flow probe on the console and the echo server behind the gateway. What lwIP hands over from
the server's address, the server has sent; then an approved run means that the server has
got both payloads.
-/
namespace MoonlightVita.ProbeEnds
open Files FlowProbe KeyFile Probe Transition Tunnel
open EchoServer (Talk expectedUdpClient talk)

variable {K H R I C : Type} [DecidableEq C]

/-- What a packet of lwIP holds. -/
def contents (packet : Pbuf) : List UInt8 := packet.payload.take packet.totLen

/-- A datagram from the server's address is one of its replies, and what a stream hands over is a
part of what the server has said on one connection. -/
structure Carried (notes : List (Note K H I)) (events : List (EchoServer.Event C)) : Prop where
  datagrams : ∀ packet, .echoReceived (some packet) vmIp m2DestinationPort ∈ callbacks notes →
    ∃ client, .replied (contents packet) client ∈ events
  stream : ∃ c, ∀ packet error close, .tcpReceived (some packet) error close ∈ callbacks notes →
    ∃ said ∈ (talk c events).said, contents packet <:+: said

lemma contents_of_holds {packet : Pbuf} {payload : List UInt8}
    (h : Pbuf.holds packet payload = true) : contents packet = payload := by
  simp only [Pbuf.holds, decide_eq_true_eq, Bool.decide_and, Bool.and_eq_true] at h
  rw [contents, h.1]
  exact h.2

/-- The answer in a conversation is whole if a whole payload has come from it. -/
lemma talk_of_said {running : Bool} {buffer : Option EchoServer.Bytes} {t : Talk}
    (h : EchoServer.Polite running buffer t) {said : List UInt8} (hsaid : said ∈ t.said)
    (hpart : tcpPayload <:+: said) : t = ⟨tcpPayload, [tcpPayload]⟩ := by
  have hprefix : said <+: tcpPayload := h.part said hsaid
  have hwhole : tcpPayload = said :=
    hpart.eq_of_length (le_antisymm hpart.length_le hprefix.length_le)
  have hne : t.said ≠ [] := List.ne_nil_of_mem hsaid
  have hheard : t.heard = tcpPayload := h.answers.mp hne
  have honce : t.said = [tcpPayload] := by
    obtain ⟨answer, hanswer⟩ := List.length_eq_one_iff.mp
      (le_antisymm h.once (List.length_pos_of_ne_nil hne))
    rw [hanswer, List.mem_singleton] at hsaid
    rw [hanswer, ← hsaid, ← hwhole]
  rw [← hheard]
  rw [← hheard] at honce
  exact congrArg (Talk.mk t.heard) honce

lemma echoed_of_raises {c : Callback} (h : c.raises .echoReceived = true) : ∃ packet,
    c = .echoReceived (some packet) vmIp m2DestinationPort ∧ Pbuf.holds packet echoPayload := by
  unfold Callback.raises at h
  split at h <;> simp_all

lemma answered_of_raises {c : Callback} (h : c.raises .tcpReceived = true) :
    ∃ packet error close, c = .tcpReceived (some packet) error close ∧
      Pbuf.holds packet tcpPayload := by
  unfold Callback.raises at h
  split at h <;> simp_all

/-- The server replies to nothing but the request of the probe. -/
lemma request_of_replied {inputs : List (EchoServer.Action C)}
    {events : List (EchoServer.Event C)} {server : EchoServer.State C}
    (h : Run (ofStep EchoServer.step) (EchoServer.initial C) inputs events server)
    {payload : List UInt8} {client : EchoServer.Address}
    (hreplied : .replied payload client ∈ events) :
    .udp echoPayload expectedUdpClient true ∈ inputs := by
  have hreply : (payload, client) ∈ events.filterMap EchoServer.Event.reply? :=
    List.mem_filterMap.mpr ⟨_, hreplied, rfl⟩
  rw [EchoServer.replies_run h] at hreply
  obtain ⟨a, ha, hrequest⟩ := List.mem_filterMap.mp hreply
  cases a with
  | udp payload' client' sendto =>
    simp only [EchoServer.Action.served?] at hrequest
    split_ifs at hrequest with hserved
    obtain ⟨his, rfl⟩ := hserved
    simp only [EchoServer.isRequest, decide_eq_true_eq, Bool.decide_and, Bool.and_eq_true] at his
    rw [his.1, his.2] at ha
    exact ha
  | _ => cases hrequest

/-- A run that is approved has been served: the request has come to the server from the address of
the probe, and one connection has sent the whole payload and got it back. -/
theorem approved_served {lib : Library K H R I} {m : Meaning K H I} (hl : Lawful lib.wireguard m)
    {fs : FileSystem Path} {o : MainOutcomes R} {samples : List (UInt32 × RunOutcomes R)}
    {p : Main K H I} (h : main lib fs o samples = some p) {ran : Ran K H I} (hran : ran ∈ p.runs)
    (happroved : ran.verdict = .flow 0) {inputs : List (EchoServer.Action C)}
    {events : List (EchoServer.Event C)} {server : EchoServer.State C}
    (hserver : Run (ofStep EchoServer.step) (EchoServer.initial C) inputs events server)
    (hcarried : Carried ran.notes events) :
    .udp echoPayload expectedUdpClient true ∈ inputs ∧
      ∃ c, talk c events = ⟨tcpPayload, [tcpPayload]⟩ := by
  obtain ⟨s', fs', o', -, hrun⟩ := main_mem h hran
  rcases runProbe_session hrun with ⟨-, hflow⟩ |
    ⟨key, config, peer, session, -, -, -, -, -, -, hsession, hnotes, hverdict⟩
  · exact absurd happroved (hflow 0)
  have hresult : session.result = 0 := Verdict.flow.inj (hverdict.symm.trans happroved)
  obtain ⟨-, -, -, -, -, -, -, -, -, before, after, hsplit, hbefore⟩ :=
    (sendHandshakeAndIpProbe_approved hl hsession).2 hresult
  have hmem : ∀ c ∈ callbacks before, c ∈ callbacks ran.notes := by
    intro c hc
    rw [hnotes, hsplit, callbacks_append]
    exact List.mem_append_left _ hc
  refine ⟨?_, ?_⟩
  · obtain ⟨c, hc, hraised⟩ := hbefore.echoed
    obtain ⟨packet, rfl, hholds⟩ := echoed_of_raises hraised
    obtain ⟨client, hreplied⟩ := hcarried.datagrams packet (hmem _ hc)
    rw [contents_of_holds hholds] at hreplied
    exact request_of_replied hserver hreplied
  · obtain ⟨c, hc, hraised⟩ := hbefore.answered
    obtain ⟨packet, error, close, rfl, hholds⟩ := answered_of_raises hraised
    obtain ⟨connection, hstream⟩ := hcarried.stream
    obtain ⟨said, hsaid, hpart⟩ := hstream packet error close (hmem _ hc)
    rw [contents_of_holds hholds] at hpart
    have hpolite := EchoServer.polite_run hserver connection
    exact ⟨connection, talk_of_said hpolite hsaid hpart⟩

section Sample

/-- The request, and a connection that sends its payload in two pieces. -/
def sampleServed : List (EchoServer.Action (Fin 1)) :=
  [.udp echoPayload expectedUdpClient true, .accept 0 ⟨EchoServer.expectedTcpIp, 40001⟩,
    .ready 0 (tcpPayload.take 6) none, .ready 0 (tcpPayload.drop 6) none]

theorem approved_served_sample : ∃ events server p, ∃ ran ∈ p.runs,
    main sampleLibrary sampleFiles ⟨0, true, sampleRun 3⟩ samplePresses = some p ∧
      ran.verdict = .flow 0 ∧
      Run (ofStep EchoServer.step) (EchoServer.initial (Fin 1)) sampleServed events server ∧
      Carried ran.notes events ∧ ∃ c, talk c events = ⟨tcpPayload, [tcpPayload]⟩ := by
  have hserved : (exec EchoServer.step (EchoServer.initial (Fin 1)) sampleServed).map
      (fun r => (r.2.contains (.replied echoPayload expectedUdpClient), talk 0 r.2)) =
        some (true, ⟨tcpPayload, [tcpPayload]⟩) := by decide +kernel
  obtain ⟨⟨server, events⟩, hexec, hserved⟩ := Option.map_eq_some_iff.mp hserved
  simp only [Prod.mk.injEq, List.contains_iff_mem] at hserved
  obtain ⟨hreplied, htalk⟩ := hserved
  have hview : (main sampleLibrary sampleFiles ⟨0, true, sampleRun 3⟩ samplePresses).map
      (fun p => p.runs.map fun ran => (ran.verdict, callbacks ran.notes)) =
        some [(.flow 0, [.output ⟨3, [1, 2, 3]⟩ 48,
          .echoReceived (some ⟨14, echoPayload⟩) vmIp 7777, .tcpConnected .ok .ok .ok,
          .tcpReceived (some ⟨13, tcpPayload⟩) .ok .ok, .tcpReceived none .ok .ok,
          .tcpError .val]), (.flow (-1), [])] := by decide +kernel
  obtain ⟨p, hp, hview⟩ := Option.map_eq_some_iff.mp hview
  obtain ⟨ran, rest, hruns, hfirst, -⟩ := List.map_eq_cons_iff.mp hview
  rw [Prod.mk.injEq] at hfirst
  obtain ⟨hverdict, hcallbacks⟩ := hfirst
  have hran : ran ∈ p.runs := by rw [hruns]; exact List.mem_cons_self
  have hcarried : Carried ran.notes events := by
    constructor
    · intro packet hpacket
      simp only [hcallbacks, List.mem_cons, List.not_mem_nil, or_false, reduceCtorEq, false_or,
        Callback.echoReceived.injEq, Option.some.injEq] at hpacket
      rw [hpacket.1]
      exact ⟨expectedUdpClient, hreplied⟩
    · refine ⟨0, fun packet error close hpacket => ?_⟩
      simp only [hcallbacks, List.mem_cons, List.not_mem_nil, or_false, reduceCtorEq, false_or,
        Callback.tcpReceived.injEq, Option.some.injEq, false_and] at hpacket
      rw [hpacket.1, htalk]
      exact ⟨tcpPayload, List.mem_singleton_self _, List.infix_refl _⟩
  have hrun := run_of_exec hexec
  exact ⟨events, server, p, ran, hran, hp, hverdict, hrun, hcarried,
    (approved_served symbolic_lawful hp hran hverdict hrun hcarried).2⟩

end Sample

end MoonlightVita.ProbeEnds
