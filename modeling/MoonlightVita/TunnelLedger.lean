import MoonlightVita.TunnelRejection
import MoonlightVita.TunnelTimes

/-!
# The books of the tunnel

Every handshake response and transport packet that the receive thread takes from the
peer ends in one place: a session, a keepalive, a packet for lwIP or one of the three
counters of rejections. The counters of the tunnel are the counts of these verdicts.
-/
namespace MoonlightVita.Tunnel
open Fallible LittleEndian ReplayWindow Transition

variable {K H R I : Type}

/-- What became of a datagram; `refused` carries the result that it was rejected with. -/
inductive Verdict
  | session
  | keepalive
  | delivered
  | refused (result : ℤ)
  deriving DecidableEq, Repr

namespace Verdict

def result : Verdict → ℤ
  | refused result => result
  | _ => 0

/-- The replay window has taken the counter of the packet. -/
def accepted : Verdict → Bool
  | session => false
  | keepalive | delivered => true
  | refused result => result ∈ [-43, -44, -45, -46]

/-- The packet was handed to `tcpip_input`. -/
def passed : Verdict → Bool
  | delivered => true
  | refused result => result = -46
  | _ => false

def other : Verdict → Bool
  | refused result => result ≠ -42 ∧ result ≠ -47
  | _ => false

end Verdict

section Events

def Event.isAccepted : Event K H I → Bool
  | .accepted _ _ => true
  | _ => false

def Event.isTcpipInput : Event K H I → Bool
  | .tcpipInput _ _ _ => true
  | _ => false

end Events

/-- The verdict, by the result and the calls of the section that has processed the datagram. -/
def Verdict.of (r : Result K H I) : Verdict :=
  if r.result < 0 then .refused r.result
  else if r.events.any Event.isSession then .session
  else if r.events.any Event.isTcpipInput then .delivered
  else .keepalive

/-- The receiving keypair that a transport packet is addressed to. -/
def Addressed (lib : Wireguard K H R I) (g : TunnelContext K H) (incoming : Bytes)
    (keypair : Keypair K) : Prop :=
  ∃ peer receiver slot, g.peer = some peer ∧ bytesAt incoming 4 4 = some receiver ∧
    lib.getPeerKeypairForIdx peer (UInt32.ofNat (ofBytes receiver)) = some slot ∧
    peer.keypair slot = keypair ∧ keypair.receivingValid = true

/-- A transport packet of a possible size for one of the keypairs, with its counter and what
decrypts from it. -/
structure Opens (lib : Wireguard K H R I) (g : TunnelContext K H) (incoming : Bytes)
    (keypair : Keypair K) (counter : UInt64) (plaintext : Option Bytes) : Prop where
  lower : sizeofTransportData + authtagLen ≤ incoming.length
  upper : incoming.length ≤ sizeofTransportData + tsvitaInnerMtu + 15 + authtagLen
  addressed : Addressed lib g incoming keypair
  at8 : (bytesAt incoming 8 8).map (fun bytes => UInt64.ofNat (ofBytes bytes)) = some counter
  at16 : ∃ encrypted, bytesAt incoming sizeofTransportData
    (incoming.length - sizeofTransportData) = some encrypted ∧
      lib.decryptPacket encrypted counter keypair = plaintext

/-- A transport packet whose size is not possible or that no keypair receives. -/
def Unassigned (lib : Wireguard K H R I) (g : TunnelContext K H) (incoming : Bytes) : Prop :=
  ∀ keypair counter plaintext, ¬ Opens lib g incoming keypair counter plaintext

/-- A transport packet that is authentic and not a replay. -/
def Taken (lib : Wireguard K H R I) (g : TunnelContext K H) (incoming : Bytes) : Prop :=
  ∃ keypair counter plaintext, Opens lib g incoming keypair counter (some plaintext) ∧
    (wireguardCheckReplay lib.rejectAfterMessages keypair.replay counter).1 = true

/-- What a verdict says about the datagram, in the context in which it was processed. -/
inductive Judged (lib : Wireguard K H R I) (g : TunnelContext K H) (incoming : Bytes) :
    Verdict → Prop
  | session (type : lib.getMessageType incoming = messageHandshakeResponse)
      (good : ¬ BadResponse lib g incoming) : Judged lib g incoming .session
  | refusedResponse {result : ℤ} (type : lib.getMessageType incoming = messageHandshakeResponse)
      (bad : BadResponse lib g incoming) (code : result ∈ [-32, -33]) :
      Judged lib g incoming (.refused result)
  | unassigned {result : ℤ} (type : lib.getMessageType incoming = messageTransportData)
      (unassigned : Unassigned lib g incoming) (code : result ∈ [-40, -41]) :
      Judged lib g incoming (.refused result)
  | forged {keypair : Keypair K} {counter : UInt64}
      (type : lib.getMessageType incoming = messageTransportData)
      (opens : Opens lib g incoming keypair counter none) : Judged lib g incoming (.refused (-42))
  | replayed {keypair : Keypair K} {counter : UInt64} {plaintext : Bytes}
      (type : lib.getMessageType incoming = messageTransportData)
      (opens : Opens lib g incoming keypair counter (some plaintext))
      (seen : (wireguardCheckReplay lib.rejectAfterMessages keypair.replay counter).1 = false) :
      Judged lib g incoming (.refused (-47))
  | keepalive (type : lib.getMessageType incoming = messageTransportData)
      (taken : Taken lib g incoming) (size : incoming.length = sizeofTransportData + authtagLen) :
      Judged lib g incoming .keepalive
  | delivered (type : lib.getMessageType incoming = messageTransportData)
      (taken : Taken lib g incoming)
      (size : sizeofTransportData + 20 + authtagLen ≤ incoming.length) :
      Judged lib g incoming .delivered
  | unusable {result : ℤ} (type : lib.getMessageType incoming = messageTransportData)
      (taken : Taken lib g incoming) (size : sizeofTransportData + authtagLen < incoming.length)
      (code : result ∈ [-43, -44, -45, -46]) : Judged lib g incoming (.refused result)

lemma Judged.refused_neg {lib : Wireguard K H R I} {g : TunnelContext K H} {incoming : Bytes}
    {result : ℤ} (h : Judged lib g incoming (.refused result)) : result < 0 := by
  cases h with
  | forged | replayed => norm_num
  | refusedResponse _ _ code | unassigned _ _ code | unusable _ _ _ code =>
    simp only [List.mem_cons, List.not_mem_nil, or_false] at code
    omega

/-- What a datagram does to the counters before its rejection is recorded. -/
structure Processed (lib : Wireguard K H R I) (incoming : Bytes) (g : TunnelContext K H)
    (v : Verdict) (r : Result K H I) : Prop where
  judged : Judged lib g incoming v
  result : r.result = v.result
  frame : Frame g r.g
  rxPackets : r.g.rxPackets = g.rxPackets + UInt64.ofNat ([v].count .delivered)
  accepted : r.events.countP Event.isAccepted = [v].countP Verdict.accepted
  passed : r.events.countP Event.isTcpipInput = [v].countP Verdict.passed
  sessions : r.events.countP Event.isSession = [v].count .session
  whole : r.events.countP Event.isWhole = 0

variable {lib : Wireguard K H R I} {m : Meaning K H I}

lemma any_eq_of_countP {P : Event K H I → Bool} {out : List (Event K H I)} {n : ℕ}
    (h : out.countP P = n) : out.any P = decide (0 < n) := by
  rw [← h, Bool.eq_iff_iff, List.any_eq_true, decide_eq_true_eq, List.countP_pos_iff]

lemma Processed.verdict {incoming : Bytes} {g : TunnelContext K H} {v : Verdict}
    {r : Result K H I} (h : Processed lib incoming g v r) : Verdict.of r = v := by
  rw [Verdict.of, h.result, any_eq_of_countP h.sessions, any_eq_of_countP h.passed]
  cases v with
  | session | keepalive | delivered => rfl
  | refused result => exact if_pos h.judged.refused_neg

/-- The counters after a section, from the verdicts of the datagrams that it has processed;
`greeted` is a session of the initial handshake. -/
structure Booked (verdicts : List Verdict) (greeted : ℕ) (g : TunnelContext K H)
    (out : List (Event K H I)) (g' : TunnelContext K H) : Prop where
  endpoint : g'.endpoint = g.endpoint
  txPackets : g'.txPackets = g.txPackets + UInt64.ofNat (out.countP Event.isWhole)
  rxPackets : g'.rxPackets = g.rxPackets + UInt64.ofNat (verdicts.count .delivered)
  decryptRejects :
    g'.decryptRejects = g.decryptRejects + UInt64.ofNat (verdicts.count (.refused (-42)))
  replayRejects :
    g'.replayRejects = g.replayRejects + UInt64.ofNat (verdicts.count (.refused (-47)))
  otherRejects : g'.otherRejects = g.otherRejects + UInt64.ofNat (verdicts.countP Verdict.other)
  accepted : out.countP Event.isAccepted = verdicts.countP Verdict.accepted
  passed : out.countP Event.isTcpipInput = verdicts.countP Verdict.passed
  sessions : out.countP Event.isSession = verdicts.count .session + greeted

lemma Booked.append {v w : List Verdict} {a b : ℕ} {g g' g'' : TunnelContext K H}
    {out out' : List (Event K H I)} (h : Booked v a g out g') (h' : Booked w b g' out' g'') :
    Booked (v ++ w) (a + b) g (out ++ out') g'' where
  endpoint := h'.endpoint.trans h.endpoint
  txPackets := by
    rw [h'.txPackets, h.txPackets, List.countP_append, UInt64.ofNat_add, UInt64.add_assoc]
  rxPackets := by
    rw [h'.rxPackets, h.rxPackets, List.count_append, UInt64.ofNat_add, UInt64.add_assoc]
  decryptRejects := by
    rw [h'.decryptRejects, h.decryptRejects, List.count_append, UInt64.ofNat_add, UInt64.add_assoc]
  replayRejects := by
    rw [h'.replayRejects, h.replayRejects, List.count_append, UInt64.ofNat_add, UInt64.add_assoc]
  otherRejects := by
    rw [h'.otherRejects, h.otherRejects, List.countP_append, UInt64.ofNat_add, UInt64.add_assoc]
  accepted := by rw [List.countP_append, List.countP_append, h.accepted, h'.accepted]
  passed := by rw [List.countP_append, List.countP_append, h.passed, h'.passed]
  sessions := by
    rw [List.countP_append, List.count_append, h.sessions, h'.sessions]
    omega

/-- A section that no datagram was processed in, and that sent no transport packet. -/
lemma Booked.of_frame {g g' : TunnelContext K H} {out : List (Event K H I)} {greeted : ℕ}
    (hframe : Frame g g') (hrx : g'.rxPackets = g.rxPackets)
    (hwhole : out.countP Event.isWhole = 0) (haccepted : out.countP Event.isAccepted = 0)
    (hpassed : out.countP Event.isTcpipInput = 0)
    (hsessions : out.countP Event.isSession = greeted) : Booked [] greeted g out g' where
  endpoint := hframe.endpoint
  txPackets := by simp [hframe.txPackets, hwhole]
  rxPackets := by simp [hrx]
  decryptRejects := by simp [hframe.decryptRejects]
  replayRejects := by simp [hframe.replayRejects]
  otherRejects := by simp [hframe.otherRejects]
  accepted := by simp [haccepted]
  passed := by simp [hpassed]
  sessions := by simp [hsessions]

end MoonlightVita.Tunnel
