import MoonlightVita.EchoServer
import MoonlightVita.Fallible
import MoonlightVita.Phases
import MoonlightVita.ProbeProgram
import MoonlightVita.ProbeTransport
import MoonlightVita.SampledLoop

/-!
# The flow of the probe

`send_lwip_echo` and the functions that lwIP calls back. The library itself may call them at
any time that it gets the processor, for a control block that it has not got back.
-/
namespace MoonlightVita.Probe
open Fallible LittleEndian Phases PeerConfig ProbeProgram Relation Resources SampledLoop Tunnel

def m2DestinationPort : UInt16 := 7777
def vmIp : Bytes := [10, 77, 0, 1]

def echoPayload : Bytes :=
  ascii ['T', 'S', 'V', 'I', 'T', 'A', '-', 'M', '2', '-', 'E', 'C', 'H', 'O']

def tcpPayload : Bytes :=
  ascii ['T', 'S', 'V', 'I', 'T', 'A', '-', 'M', '2', '-', 'T', 'C', 'P']

def udpTimeoutUs : UInt64 := 5000000

/-- What lwIP calls, with what its own functions return in there. -/
inductive Callback
  | output (packet : Pbuf) (sent : ℤ)
  | echoReceived (packet : Option Pbuf) (source : Bytes) (port : UInt16)
  | tcpConnected (error write output : Err)
  | tcpReceived (packet : Option Pbuf) (error close : Err)
  | tcpError (error : Err)
  deriving DecidableEq, Repr

/-- What happens in a flow, in its order. -/
inductive Note (K H I : Type)
  | wireguard (event : Event K H I)
  | datagram (incoming : Bytes) (source : Endpoint) (result : ℤ)
  | callback (call : Callback)
  | resource (op : Op Handle)

structure Flow (K H I : Type) where
  context : LwipTunnelContext K H
  notes : List (Note K H I)

variable {K H R I : Type}

/-- A packet holds this payload and nothing else. -/
def Pbuf.holds (packet : Pbuf) (payload : Bytes) : Bool :=
  packet.totLen = payload.length ∧ packet.payload.take payload.length = payload

def lwipEchoReceived (context : LwipTunnelContext K H) (packet : Option Pbuf) (source : Bytes)
    (port : UInt16) : LwipTunnelContext K H :=
  match packet with
  | none => context
  | some packet =>
    if port = m2DestinationPort ∧ source = vmIp ∧ Pbuf.holds packet echoPayload then
      { context with echoReceived := true, innerRxSize := UInt32.ofNat packet.totLen }
    else context

def lwipTcpConnected (context : LwipTunnelContext K H) (error write output : Err) :
    Err × LwipTunnelContext K H :=
  if error ≠ .ok ∨ write ≠ .ok ∨ output ≠ .ok then (.val, { context with tcpFailed := true })
  else (.ok, { context with tcpConnected := true })

def lwipTcpReceived (context : LwipTunnelContext K H) (packet : Option Pbuf) (error close : Err) :
    Err × LwipTunnelContext K H :=
  if error ≠ .ok then (.val, context)
  else
    match packet with
    | none => (close, { context with tcpClosed := true, tcp := false })
    | some packet =>
      if !Pbuf.holds packet tcpPayload then (.val, { context with tcpFailed := true })
      else (.ok, { context with tcpReceived := true })

def lwipTcpError (context : LwipTunnelContext K H) : LwipTunnelContext K H :=
  { context with tcp := false, tcpFailed := true }

/-- lwIP calls back for a control block as long as it is there; that a connection has failed
it may also say later. -/
def allows (context : LwipTunnelContext K H) : Callback → Bool
  | .output _ _ | .tcpError _ => true
  | .echoReceived _ _ _ => context.udp
  | .tcpConnected _ _ _ | .tcpReceived _ _ _ => context.tcp

/-- With `tcp_close` and with an error the control block of the connection is lwIP's again. -/
def call (lib : Wireguard K H R I) (s : Flow K H I) (c : Callback) : Option (Flow K H I) :=
  if !allows s.context c then none
  else
    let notes := s.notes ++ [.callback c]
    let tcp := Note.resource (.release (.tcp s.context.socketId))
    match c with
    | .output packet sent =>
      let r := lwipTunnelOutput lib s.context packet sent
      some ⟨r.context, notes ++ r.events.map .wireguard⟩
    | .echoReceived packet source port =>
      some ⟨lwipEchoReceived s.context packet source port, notes⟩
    | .tcpConnected error write output =>
      some ⟨(lwipTcpConnected s.context error write output).2, notes⟩
    | .tcpReceived packet error close =>
      let context := (lwipTcpReceived s.context packet error close).2
      some ⟨context, notes ++ if context.tcp then [] else [tcp]⟩
    | .tcpError _ =>
      some ⟨lwipTcpError s.context, notes ++ if s.context.tcp then [tcp] else []⟩

def calls (lib : Wireguard K H R I) (s : Flow K H I) (cs : List Callback) : Option (Flow K H I) :=
  cs.foldlM (call lib) s

/-- One turn of a waiting loop: the clock, the datagram that has arrived if one has, and what
lwIP calls while it takes the packet and in `sys_check_timeouts`. -/
structure Poll where
  now : UInt64
  received : Received
  delivery : Delivery
  input : List Callback
  timeouts : List Callback

def incomingSize : ℕ := 1600

/-- The datagram of a turn; lwIP is called only with a packet for it. -/
def processDatagram (lib : Wireguard K H R I) (s : Flow K H I) (incoming : Bytes)
    (source : Endpoint) (delivery : Delivery) (input : List Callback) : Option (ℤ × Flow K H I) :=
  do
    let r ← lwipProcessTransport lib s.context incoming source delivery
    let s : Flow K H I :=
      ⟨r.context, s.notes ++ .datagram incoming source r.result :: r.events.map .wireguard⟩
    let s ← calls lib s (if inputs r.events = [] then [] else input)
    some (r.result, s)

def poll (lib : Wireguard K H R I) (s : Flow K H I) (p : Poll) : Option (ℤ × Flow K H I) :=
  andThen (fun s =>
    match p.received with
    | none => some (0, s)
    | some (source, incoming) =>
      if incomingSize < incoming.length then none
      else if incoming = [] then some (0, s)
      else processDatagram lib s incoming source p.delivery p.input)
    (fun s => (calls lib s p.timeouts).map (0, ·)) s

def pollTurn (lib : Wireguard K H R I) (waiting : LwipTunnelContext K H → Bool) (deadline : UInt64)
    (s : Flow K H I) (p : Poll) : Flow K H I ⊕ Option (ℤ × Flow K H I) :=
  if waiting s.context ∧ p.now < deadline then
    match poll lib s p with
    | none => .inr none
    | some (result, s) => if result = 0 then .inl s else .inr (some (result, s))
  else .inr (some (0, s))

def pollLoop (lib : Wireguard K H R I) (waiting : LwipTunnelContext K H → Bool) (deadline : UInt64)
    (polls : List Poll) (s : Flow K H I) : Option (ℤ × Flow K H I) :=
  (loop (pollTurn lib waiting deadline) s polls).join

structure EchoOutcomes where
  netifAdd : Bool
  udpNew : Bool
  udpBind : Err
  udpConnect : Err
  request : Bool
  sending : List Callback
  udpSend : Err
  udpStart : UInt64
  udpPolls : List Poll
  tcpNew : Bool
  tcpBind : Err
  connecting : List Callback
  tcpConnect : Err
  tcpStart : UInt64
  tcpPolls : List Poll
  aborting : List Callback
  removing : List Callback

def Flow.take (s : Flow K H I) (context : LwipTunnelContext K H) (h : Handle) : Flow K H I :=
  ⟨context, s.notes ++ [.resource (.acquire h)]⟩

def Flow.give (s : Flow K H I) (context : LwipTunnelContext K H) (h : Handle) : Flow K H I :=
  ⟨context, s.notes ++ [.resource (.release h)]⟩

def sendUdp (lib : Wireguard K H R I) (o : EchoOutcomes) (s : Flow K H I) :
    Option (ℤ × Flow K H I) :=
  if !o.udpNew then some (-41, s)
  else
    let s := s.take { s.context with udp := true } (.udp s.context.socketId)
    if o.udpBind ≠ .ok then some (-42, s)
    else if o.udpConnect ≠ .ok then some (-43, s)
    else if !o.request then some (-44, s)
    else do
      let s ← calls lib s o.sending
      if o.udpSend ≠ .ok ∨ s.context.outputError < 0 then
        some (if s.context.outputError < 0 then s.context.outputError else -45, s)
      else some (0, s)

def awaitEcho (lib : Wireguard K H R I) (o : EchoOutcomes) (s : Flow K H I) :
    Option (ℤ × Flow K H I) :=
  andThen (pollLoop lib (fun context => !context.echoReceived) (o.udpStart + udpTimeoutUs)
      o.udpPolls)
    (fun s => if !s.context.echoReceived then some (-46, s) else some (0, s)) s

def connectTcp (lib : Wireguard K H R I) (o : EchoOutcomes) (s : Flow K H I) :
    Option (ℤ × Flow K H I) :=
  if !o.tcpNew then some (-47, s)
  else
    let s := s.take { s.context with tcp := true } (.tcp s.context.socketId)
    if o.tcpBind ≠ .ok then some (-47, s)
    else do
      let s ← calls lib s o.connecting
      if o.tcpConnect ≠ .ok then some (-48, s) else some (0, s)

def awaitTcp (lib : Wireguard K H R I) (o : EchoOutcomes) (s : Flow K H I) :
    Option (ℤ × Flow K H I) :=
  andThen (pollLoop lib (fun context =>
      (!context.tcpReceived || !context.tcpClosed) && !context.tcpFailed)
      (o.tcpStart + udpTimeoutUs) o.tcpPolls)
    (fun s =>
      if !s.context.tcpConnected ∨ !s.context.tcpReceived ∨ s.context.tcpFailed then some (-49, s)
      else some (0, s)) s

/-- Everything up to the label `cleanup`. -/
def exchange (lib : Wireguard K H R I) (o : EchoOutcomes) : Phase (Flow K H I) :=
  andThen (sendUdp lib o) (andThen (awaitEcho lib o) (andThen (connectTcp lib o) (awaitTcp lib o)))

/-- `tcp_abort` reports the error while it still has the control block. -/
def abortTcp (lib : Wireguard K H R I) (o : EchoOutcomes) (s : Flow K H I) :
    Option (Flow K H I) :=
  if s.context.tcp then
    calls lib (s.give { s.context with tcp := false } (.tcp s.context.socketId)) o.aborting
  else some s

def removeUdp (s : Flow K H I) : Flow K H I :=
  if s.context.udp then s.give { s.context with udp := false } (.udp s.context.socketId) else s

def cleanup (lib : Wireguard K H R I) (o : EchoOutcomes) (s : Flow K H I) :
    Option (Flow K H I) := do
  let s ← abortTcp lib o s
  calls lib (removeUdp s) o.removing

/-- The context of a flow, before anything has happened. -/
def Flow.start (socketId : ℤ) (destination : Endpoint) (expectedOuterAddress : UInt32)
    (peer : Peer K H) : Flow K H I :=
  ⟨⟨socketId, destination, expectedOuterAddress, some peer, false, false, false, false, false,
    false, false, 0, 0, 0, 0, 0⟩, []⟩

def sendLwipEcho (lib : Wireguard K H R I) (o : EchoOutcomes) (socketId : ℤ)
    (destination : Endpoint) (expectedOuterAddress : UInt32) (peer : Peer K H) :
    Option (ℤ × Flow K H I) :=
  let s := Flow.start socketId destination expectedOuterAddress peer
  let netif : Handle := .netif socketId
  if !o.netifAdd then some (-40, s)
  else do
    let r ← exchange lib o (s.take s.context netif)
    let s ← cleanup lib o r.2
    some (r.1, s.give s.context netif)

/-- While lwIP works it calls back, and takes the packets of the datagrams. A datagram that is
not taken ends the flow. -/
inductive Turn (lib : Wireguard K H R I) (going : Bool) : Flow K H I → Flow K H I → Prop
  | callback {s s' : Flow K H I} {c : Callback} (called : call lib s c = some s') :
      Turn lib going s s'
  | datagram {s : Flow K H I} {r : Outcome K H I ℤ} {incoming : Bytes} {source : Endpoint}
      {delivery : Delivery}
      (processed : lwipProcessTransport lib s.context incoming source delivery = some r)
      (taken : going → r.result = 0) :
      Turn lib going s
        ⟨r.context, s.notes ++ .datagram incoming source r.result :: r.events.map .wireguard⟩

inductive Change (lib : Wireguard K H R I) (going : Bool) : Flow K H I → Flow K H I → Prop
  | turn {s s' : Flow K H I} (turned : Turn lib going s s') : Change lib going s s'
  | takeUdp {s : Flow K H I} (absent : s.context.udp = false) : Change lib going s
      (s.take { s.context with udp := true } (.udp s.context.socketId))
  | takeTcp {s : Flow K H I} (absent : s.context.tcp = false) (echoed : s.context.echoReceived) :
      Change lib going s (s.take { s.context with tcp := true } (.tcp s.context.socketId))
  | giveTcp {s : Flow K H I} (present : s.context.tcp = true) : Change lib going s
      (s.give { s.context with tcp := false } (.tcp s.context.socketId))
  | giveUdp {s : Flow K H I} (present : s.context.udp = true) : Change lib going s
      (s.give { s.context with udp := false } (.udp s.context.socketId))

abbrev Turns (lib : Wireguard K H R I) (going : Bool) : Flow K H I → Flow K H I → Prop :=
  ReflTransGen (Turn lib going)

abbrev Changes (lib : Wireguard K H R I) (going : Bool) : Flow K H I → Flow K H I → Prop :=
  ReflTransGen (Change lib going)

inductive Flag
  | echoReceived | tcpConnected | tcpReceived | tcpClosed | tcpFailed
  deriving DecidableEq, Repr

def raised (context : LwipTunnelContext K H) : Flag → Bool
  | .echoReceived => context.echoReceived
  | .tcpConnected => context.tcpConnected
  | .tcpReceived => context.tcpReceived
  | .tcpClosed => context.tcpClosed
  | .tcpFailed => context.tcpFailed

/-- The flag that a callback sets, if it is called. -/
def Callback.raises : Callback → Flag → Bool
  | .echoReceived (some packet) source port, .echoReceived =>
    port = m2DestinationPort ∧ source = vmIp ∧ Pbuf.holds packet echoPayload
  | .tcpConnected error write sent, .tcpConnected => error = .ok ∧ write = .ok ∧ sent = .ok
  | .tcpConnected error write sent, .tcpFailed => error ≠ .ok ∨ write ≠ .ok ∨ sent ≠ .ok
  | .tcpReceived (some packet) error _, .tcpReceived =>
    error = .ok ∧ Pbuf.holds packet tcpPayload
  | .tcpReceived (some packet) error _, .tcpFailed =>
    error = .ok ∧ Pbuf.holds packet tcpPayload = false
  | .tcpReceived none error _, .tcpClosed => error = .ok
  | .tcpError _, .tcpFailed => true
  | _, _ => false

/-- Sending and receiving packets leaves control blocks and flags alone. -/
structure SameFlow (context context' : LwipTunnelContext K H) : Prop where
  socketId : context'.socketId = context.socketId
  udp : context'.udp = context.udp
  tcp : context'.tcp = context.tcp
  flags : ∀ flag, raised context' flag = raised context flag

section Steps
variable {lib : Wireguard K H R I} {going : Bool} {s t : Flow K H I} {o : EchoOutcomes}

lemma Turn.weaken (h : Turn lib true s t) : Turn lib going s t := by
  cases h with
  | callback called => exact .callback called
  | datagram processed taken => exact .datagram processed fun _ => taken rfl

lemma Turns.weaken (h : Turns lib true s t) : Turns lib going s t :=
  ReflTransGen.mono (fun _ _ => Turn.weaken) _ _ h

lemma Change.weaken (h : Change lib true s t) : Change lib going s t := by
  cases h with
  | turn turned => exact .turn turned.weaken
  | takeUdp absent => exact .takeUdp absent
  | takeTcp absent echoed => exact .takeTcp absent echoed
  | giveTcp present => exact .giveTcp present
  | giveUdp present => exact .giveUdp present

lemma Changes.weaken (h : Changes lib true s t) : Changes lib going s t :=
  ReflTransGen.mono (fun _ _ => Change.weaken) _ _ h

lemma Turns.changes (h : Turns lib going s t) : Changes lib going s t :=
  ReflTransGen.mono (fun _ _ => .turn) _ _ h

lemma SameFlow.refl (context : LwipTunnelContext K H) : SameFlow context context :=
  ⟨rfl, rfl, rfl, fun _ => rfl⟩

lemma sameFlow_peer (context : LwipTunnelContext K H) (peer : Option (Peer K H))
    (outputError : ℤ) (innerTxSize txPackets rxPackets : UInt32) :
    SameFlow context { context with peer, outputError, innerTxSize, txPackets, rxPackets } :=
  ⟨rfl, rfl, rfl, fun flag => by cases flag <;> rfl⟩

lemma lwipTunnelOutput_same (lib : Wireguard K H R I) (context : LwipTunnelContext K H)
    (packet : Pbuf) (sent : ℤ) :
    SameFlow context (lwipTunnelOutput lib context packet sent).context := by
  unfold lwipTunnelOutput
  cases hpeer : context.peer with
  | none => exact .refl context
  | some peer =>
    dsimp only
    split_ifs
    · exact .refl context
    · exact .refl context
    · exact sameFlow_peer ..
    · exact sameFlow_peer ..
    · exact sameFlow_peer ..

lemma lwipInput_same (context : LwipTunnelContext K H) (key : K) (counter : UInt64)
    (plaintext : Bytes) (plaintextSize : ℕ) (delivery : Delivery) :
    Ensures (fun r => SameFlow context r.context)
      (lwipInput (I := I) context key counter plaintext plaintextSize delivery) := by
  unfold lwipInput
  refine ensures_bind fun version => ensures_bind fun source => ensures_bind fun destination => ?_
  refine ensures_ite (ensures_some (.refl context)) ?_
  refine ensures_bind fun high => ensures_bind fun low => ?_
  refine ensures_ite (ensures_some (.refl context)) (ensures_bind fun packet => ?_)
  refine ensures_ite (ensures_some (.refl context)) ?_
  exact ensures_ite (ensures_some (.refl context)) (ensures_some (sameFlow_peer ..))

lemma lwipProcessTransport_same (context : LwipTunnelContext K H) (incoming : Bytes)
    (source : Endpoint) (delivery : Delivery) :
    Ensures (fun r => SameFlow context r.context)
      (lwipProcessTransport lib context incoming source delivery) := by
  unfold lwipProcessTransport
  refine ensures_ite (ensures_some (.refl context)) ?_
  refine ensures_bind fun peer => ensures_bind fun receiver => ?_
  split
  · exact ensures_some (.refl context)
  refine ensures_ite (ensures_some (.refl context)) ?_
  refine ensures_bind fun counterBytes => ensures_bind fun encrypted => ?_
  split
  · exact ensures_some (.refl context)
  refine ensures_ite (ensures_some (sameFlow_peer ..)) ?_
  intro r hr
  obtain ⟨hid, hudp, htcp, hflags⟩ := lwipInput_same _ _ _ _ _ _ r hr
  exact ⟨hid, hudp, htcp, fun flag => (hflags flag).trans (by cases flag <;> rfl)⟩

/-- What a callback does to the control blocks, the flags and the notes. -/
structure Called (s : Flow K H I) (c : Callback) (t : Flow K H I) : Prop where
  socketId : t.context.socketId = s.context.socketId
  udp : t.context.udp = s.context.udp
  flags : ∀ flag, raised t.context flag = (raised s.context flag || c.raises flag)
  notes : ∃ (events : List (Event K H I)) (tcp : Bool), t.notes = s.notes ++ .callback c :: (events.map .wireguard ++
    if tcp then [.resource (.release (.tcp s.context.socketId))] else []) ∧
      (tcp = true → s.context.tcp = true) ∧ t.context.tcp = (s.context.tcp && !tcp)

lemma call_called {c : Callback} (h : call lib s c = some t) : Called s c t := by
  unfold call at h
  by_cases hallows : allows s.context c = true
  · rw [if_neg (by simp [hallows])] at h
    cases c with
    | output packet sent =>
      cases h
      have hsame := lwipTunnelOutput_same lib s.context packet sent
      refine ⟨hsame.socketId, hsame.udp, fun flag => by simp [hsame.flags, Callback.raises],
        (lwipTunnelOutput lib s.context packet sent).events, false, by simp, by simp, ?_⟩
      simp [hsame.tcp]
    | echoReceived packet source port =>
      cases h
      cases packet with
      | none =>
        exact ⟨rfl, rfl, fun flag => by cases flag <;> simp [lwipEchoReceived, Callback.raises],
          [], false, by simp, by simp, by simp [lwipEchoReceived]⟩
      | some packet =>
        simp only [lwipEchoReceived]
        split_ifs with hvalid
        · exact ⟨rfl, rfl, fun flag => by cases flag <;> simp [raised, Callback.raises, hvalid],
            [], false, by simp, by simp, by simp⟩
        · exact ⟨rfl, rfl, fun flag => by cases flag <;> simp [raised, Callback.raises, hvalid],
            [], false, by simp, by simp, by simp⟩
    | tcpConnected error write sent =>
      cases h
      simp only [lwipTcpConnected]
      split_ifs with hfailed
      · have hnot : ¬ (error = .ok ∧ write = .ok ∧ sent = .ok) := by tauto
        exact ⟨rfl, rfl, fun flag => by cases flag <;> simp [raised, Callback.raises, hfailed, hnot],
          [], false, by simp, by simp, by simp⟩
      · have hok : error = .ok ∧ write = .ok ∧ sent = .ok := by tauto
        exact ⟨rfl, rfl, fun flag => by cases flag <;> simp [raised, Callback.raises, hok],
          [], false, by simp, by simp, by simp⟩
    | tcpReceived packet error close =>
      have htcp : s.context.tcp = true := hallows
      cases h
      by_cases herror : error = .ok
      · subst herror
        cases packet with
        | none =>
          exact ⟨rfl, rfl,
            fun flag => by cases flag <;> simp [lwipTcpReceived, raised, Callback.raises],
            [], true, by simp [lwipTcpReceived], fun _ => htcp, by simp [lwipTcpReceived]⟩
        | some packet =>
          cases hholds : Pbuf.holds packet tcpPayload with
          | false =>
            simp only [lwipTcpReceived, hholds]
            exact ⟨rfl, rfl, fun flag => by cases flag <;> simp [raised, Callback.raises, hholds],
              [], false, by simp [htcp], by simp, by simp⟩
          | true =>
            simp only [lwipTcpReceived, hholds]
            exact ⟨rfl, rfl, fun flag => by cases flag <;> simp [raised, Callback.raises, hholds],
              [], false, by simp [htcp], by simp, by simp⟩
      · simp only [lwipTcpReceived, ne_eq, herror, not_false_eq_true, if_true]
        refine ⟨rfl, rfl, fun flag => ?_, [], false, by simp [htcp], by simp, by simp⟩
        cases packet <;> cases flag <;> simp [raised, Callback.raises, herror]
    | tcpError error =>
      cases h
      exact ⟨rfl, rfl,
        fun flag => by cases flag <;> simp [lwipTcpError, raised, Callback.raises],
        [], s.context.tcp, by simp, id, by simp [lwipTcpError]⟩
  · rw [if_pos (by simp [hallows])] at h
    cases h

/-- A callback creates no control block, and takes none but that of the connection away. -/
lemma Turn.frame (h : Turn lib going s t) : t.context.udp = s.context.udp ∧
    (t.context.tcp = true → s.context.tcp = true) ∧ t.context.socketId = s.context.socketId := by
  cases h with
  | callback called =>
    obtain ⟨hid, hudp, -, _, tcp, -, -, htcp⟩ := call_called called
    refine ⟨hudp, fun h => ?_, hid⟩
    rw [htcp, Bool.and_eq_true] at h
    exact h.1
  | datagram processed taken =>
    have hsame := lwipProcessTransport_same _ _ _ _ _ processed
    exact ⟨hsame.udp, fun h => hsame.tcp ▸ h, hsame.socketId⟩

/-- A flag that has been set stays set. -/
lemma Turn.raised (h : Turn lib going s t) {flag : Flag} (hflag : raised s.context flag = true) :
    raised t.context flag = true := by
  cases h with
  | callback called => rw [(call_called called).flags, hflag, Bool.true_or]
  | datagram processed taken =>
    exact ((lwipProcessTransport_same _ _ _ _ _ processed).flags flag).trans hflag

lemma Turns.raised (h : Turns lib going s t) {flag : Flag} (hflag : raised s.context flag = true) :
    raised t.context flag = true := by
  induction h with
  | refl => exact hflag
  | tail _ step ih => exact step.raised ih

lemma Turns.frame (h : Turns lib going s t) : t.context.udp = s.context.udp ∧
    (t.context.tcp = true → s.context.tcp = true) ∧ t.context.socketId = s.context.socketId := by
  induction h with
  | refl => exact ⟨rfl, id, rfl⟩
  | tail _ step ih =>
    obtain ⟨hudp, htcp, hid⟩ := step.frame
    exact ⟨hudp.trans ih.1, fun h => ih.2.1 (htcp h), hid.trans ih.2.2⟩

lemma calls_turns {cs : List Callback} (h : calls lib s cs = some t) : Turns lib going s t := by
  induction cs generalizing s with
  | nil =>
    cases h
    exact .refl
  | cons c cs ih =>
    simp only [calls, List.foldlM_cons, Option.bind_eq_bind, Option.bind_eq_some_iff] at h
    obtain ⟨u, hcall, hrest⟩ := h
    exact .head (.callback hcall) (ih hrest)

lemma reaches_turns_andThen {p q : Phase (Flow K H I)} (hp : Reaches (Turns lib) p)
    (hq : Reaches (Turns lib) q) : Reaches (Turns lib) (andThen p q) :=
  hp.andThen (fun _ _ _ _ h h' => h.weaken.trans h') hq

lemma processDatagram_turns (incoming : Bytes) (source : Endpoint) (delivery : Delivery)
    (input : List Callback) :
    Reaches (Turns lib) fun s => processDatagram lib s incoming source delivery input := by
  intro s result t h
  simp only [processDatagram, Option.bind_eq_bind, Option.bind_eq_some_iff, Option.some.injEq,
    Prod.mk.injEq] at h
  obtain ⟨r, hprocess, u, hcalls, rfl, rfl⟩ := h
  exact .head (.datagram hprocess (by simp)) (calls_turns hcalls)

lemma poll_turns (p : Poll) : Reaches (Turns lib) fun s => poll lib s p := by
  refine reaches_turns_andThen ?_ ?_
  · intro s result t h
    cases hreceived : p.received with
    | none =>
      simp only [hreceived] at h
      cases h
      exact .refl
    | some received =>
      obtain ⟨source, incoming⟩ := received
      simp only [hreceived] at h
      split_ifs at h
      · cases h
        exact .refl
      · exact processDatagram_turns incoming source p.delivery p.input s result t h
  · intro s result t h
    obtain ⟨u, hcalls, hu⟩ := Option.map_eq_some_iff.mp h
    cases hu
    exact calls_turns hcalls

lemma pollLoop_turns (waiting : LwipTunnelContext K H → Bool) (deadline : UInt64)
    (polls : List Poll) : Reaches (Turns lib) (pollLoop lib waiting deadline polls) := by
  intro s result t h
  unfold pollLoop at h
  have hloop := Option.join_eq_some_iff.mp h
  refine loop_ensures (P := Turns lib true s)
    (Q := fun r => ∀ result t, r = some (result, t) → Turns lib (decide (result = 0)) s t)
    .refl ?_ hloop result t rfl
  intro u p hu
  unfold pollTurn
  split_ifs
  · cases hpoll : poll lib u p with
    | none => simp
    | some r =>
      have hturns := poll_turns p u r.1 r.2 hpoll
      by_cases hresult : r.1 = 0
      · rw [decide_eq_true hresult] at hturns
        simp only [if_pos hresult]
        exact hu.trans hturns
      · simp only [if_neg hresult]
        rintro result t hr
        cases hr
        exact hu.weaken.trans hturns
  · rintro result t hr
    cases hr
    exact hu

lemma awaitEcho_turns (o : EchoOutcomes) : Reaches (Turns lib) (awaitEcho lib o) := by
  refine reaches_turns_andThen (pollLoop_turns _ _ _) ?_
  intro s result t h
  dsimp only at h
  split_ifs at h <;> cases h <;> exact .refl

lemma awaitTcp_turns (o : EchoOutcomes) : Reaches (Turns lib) (awaitTcp lib o) := by
  refine reaches_turns_andThen (pollLoop_turns _ _ _) ?_
  intro s result t h
  dsimp only at h
  split_ifs at h <;> cases h <;> exact .refl

lemma sendUdp_turns (going : Bool) {result : ℤ} (h : sendUdp lib o s = some (result, t)) :
    t = s ∨ Turns lib going (s.take { s.context with udp := true } (.udp s.context.socketId)) t := by
  unfold sendUdp at h
  by_cases hnew : (!o.udpNew) = true
  · rw [if_pos hnew] at h
    cases h
    exact Or.inl rfl
  rw [if_neg hnew] at h
  refine Or.inr ?_
  dsimp only at h
  split_ifs at h
  · cases h
    exact .refl
  · cases h
    exact .refl
  · cases h
    exact .refl
  · simp only [Option.bind_eq_bind, Option.bind_eq_some_iff] at h
    obtain ⟨u, hcalls, h⟩ := h
    split_ifs at h <;> cases h <;> exact calls_turns hcalls

lemma connectTcp_turns (going : Bool) {result : ℤ} (h : connectTcp lib o s = some (result, t)) :
    t = s ∨ Turns lib going (s.take { s.context with tcp := true } (.tcp s.context.socketId)) t := by
  unfold connectTcp at h
  by_cases hnew : (!o.tcpNew) = true
  · rw [if_pos hnew] at h
    cases h
    exact Or.inl rfl
  rw [if_neg hnew] at h
  refine Or.inr ?_
  dsimp only at h
  by_cases hbind : o.tcpBind ≠ .ok
  · rw [if_pos hbind] at h
    cases h
    exact .refl
  · rw [if_neg hbind] at h
    simp only [Option.bind_eq_bind, Option.bind_eq_some_iff] at h
    obtain ⟨u, hcalls, h⟩ := h
    split_ifs at h <;> cases h <;> exact calls_turns hcalls

lemma awaitEcho_echoed (h : awaitEcho lib o s = some (0, t)) : t.context.echoReceived = true := by
  rcases andThen_cases h with ⟨-, hne⟩ | ⟨u, -, hlast⟩
  · exact absurd rfl hne
  · split_ifs at hlast with hecho
    · cases hlast
    · cases hlast
      simpa using hecho

lemma awaitTcp_answered (h : awaitTcp lib o s = some (0, t)) :
    t.context.tcpConnected = true ∧ t.context.tcpReceived = true ∧ t.context.tcpFailed = false := by
  rcases andThen_cases h with ⟨-, hne⟩ | ⟨u, -, hlast⟩
  · exact absurd rfl hne
  · split_ifs at hlast with hanswered
    · cases hlast
    · cases hlast
      simpa using hanswered

/-- The connection is made only after the echo has arrived. -/
theorem exchange_changes {result : ℤ} (hudp : s.context.udp = false) (htcp : s.context.tcp = false)
    (h : exchange lib o s = some (result, t)) : Changes lib (decide (result = 0)) s t := by
  have hsent : ∀ (going : Bool) {result : ℤ} {u : Flow K H I}, sendUdp lib o s = some (result, u) →
      Changes lib going s u ∧ u.context.tcp = false := by
    intro going result u h
    rcases sendUdp_turns going h with rfl | hturns
    · exact ⟨.refl, htcp⟩
    · refine ⟨.head (.takeUdp hudp) hturns.changes, ?_⟩
      by_contra hnot
      have := hturns.frame.2.1 (by simpa using hnot)
      exact absurd htcp (by simpa [Flow.take] using this)
  rcases andThen_cases h with ⟨hleft, -⟩ | ⟨u, hsend, h⟩
  · exact (hsent _ hleft).1
  obtain ⟨hchanges, hu⟩ := hsent true hsend
  rcases andThen_cases h with ⟨hleft, -⟩ | ⟨v, hecho, h⟩
  · exact hchanges.weaken.trans (awaitEcho_turns o _ _ _ hleft).changes
  have hwaited := awaitEcho_turns o _ _ _ hecho
  have hv : v.context.tcp = false := by
    by_contra hnot
    have := hwaited.frame.2.1 (by simpa using hnot)
    simp [hu] at this
  have hbefore : Changes lib true s v := hchanges.trans hwaited.changes
  have hconnect : ∀ {going : Bool} {result : ℤ} {w : Flow K H I},
      connectTcp lib o v = some (result, w) → Changes lib going v w := by
    intro going result w h
    rcases connectTcp_turns going h with rfl | hturns
    · exact .refl
    · exact .head (.takeTcp hv (awaitEcho_echoed hecho)) hturns.changes
  rcases andThen_cases h with ⟨hleft, -⟩ | ⟨w, hconnected, h⟩
  · exact hbefore.weaken.trans (hconnect hleft)
  · exact hbefore.weaken.trans ((hconnect hconnected).trans (awaitTcp_turns o _ _ _ h).changes)

lemma exchange_answered (h : exchange lib o s = some (0, t)) :
    t.context.echoReceived = true ∧ t.context.tcpConnected = true ∧
      t.context.tcpReceived = true ∧ t.context.tcpFailed = false := by
  rcases andThen_cases h with ⟨-, hne⟩ | ⟨u, -, h⟩
  · exact absurd rfl hne
  rcases andThen_cases h with ⟨-, hne⟩ | ⟨v, hecho, h⟩
  · exact absurd rfl hne
  rcases andThen_cases h with ⟨-, hne⟩ | ⟨w, hconnect, h⟩
  · exact absurd rfl hne
  have hv : raised v.context .echoReceived = true := awaitEcho_echoed hecho
  have hw : raised w.context .echoReceived = true := by
    rcases connectTcp_turns true hconnect with rfl | hturns
    · exact hv
    · exact hturns.raised hv
  exact ⟨(awaitTcp_turns o _ _ _ h).raised hw, awaitTcp_answered h⟩

/-- Cleaning up leaves no control block. -/
theorem cleanup_changes (going : Bool) (h : cleanup lib o s = some t) :
    Changes lib going s t ∧ t.context.udp = false ∧ t.context.tcp = false ∧
      t.context.socketId = s.context.socketId := by
  simp only [cleanup, Option.bind_eq_bind, Option.bind_eq_some_iff] at h
  obtain ⟨u, habort, h⟩ := h
  have haborted : Changes lib going s u ∧ u.context.tcp = false ∧
      u.context.socketId = s.context.socketId := by
    unfold abortTcp at habort
    by_cases htcp : s.context.tcp = true
    · rw [if_pos htcp] at habort
      have hturns : Turns lib going _ u := calls_turns habort
      obtain ⟨-, hframe, hid⟩ := hturns.frame
      refine ⟨.head (.giveTcp htcp) hturns.changes, ?_, hid⟩
      by_contra hnot
      have := hframe (by simpa using hnot)
      simp [Flow.give] at this
    · rw [if_neg htcp] at habort
      cases habort
      exact ⟨.refl, by simpa using htcp, rfl⟩
  have hremoved : Changes lib going u (removeUdp u) ∧ (removeUdp u).context.udp = false ∧
      (removeUdp u).context.tcp = u.context.tcp ∧
      (removeUdp u).context.socketId = u.context.socketId := by
    unfold removeUdp
    by_cases hudp : u.context.udp = true
    · rw [if_pos hudp]
      exact ⟨.single (.giveUdp hudp), rfl, rfl, rfl⟩
    · rw [if_neg hudp]
      exact ⟨.refl, by simpa using hudp, rfl, rfl⟩
  have hturns : Turns lib going _ t := calls_turns h
  obtain ⟨hudp, htcp, hid⟩ := hturns.frame
  refine ⟨(haborted.1.trans hremoved.1).trans hturns.changes, hudp.trans hremoved.2.1, ?_,
    hid.trans (hremoved.2.2.2.trans haborted.2.2)⟩
  by_contra hnot
  have := htcp (by simpa using hnot)
  rw [hremoved.2.2.1, haborted.2.1] at this
  cases this

lemma lwipInput_result (context : LwipTunnelContext K H) (key : K) (counter : UInt64)
    (plaintext : Bytes) (plaintextSize : ℕ) (delivery : Delivery) :
    Ensures (fun r => r.result ≤ 0)
      (lwipInput (I := I) context key counter plaintext plaintextSize delivery) := by
  unfold lwipInput
  refine ensures_bind fun version => ensures_bind fun source => ensures_bind fun destination => ?_
  refine ensures_ite (ensures_some (by simp)) ?_
  refine ensures_bind fun high => ensures_bind fun low => ?_
  refine ensures_ite (ensures_some (by simp)) (ensures_bind fun packet => ?_)
  refine ensures_ite (ensures_some (by simp)) ?_
  exact ensures_ite (ensures_some (by simp)) (ensures_some le_rfl)

lemma lwipProcessTransport_result (context : LwipTunnelContext K H) (incoming : Bytes)
    (source : Endpoint) (delivery : Delivery) :
    Ensures (fun r => r.result ≤ 0) (lwipProcessTransport lib context incoming source delivery) := by
  unfold lwipProcessTransport
  refine ensures_ite (ensures_some (by simp)) ?_
  refine ensures_bind fun peer => ensures_bind fun receiver => ?_
  split
  · exact ensures_some (by simp)
  refine ensures_ite (ensures_some (by simp)) ?_
  refine ensures_bind fun counterBytes => ensures_bind fun encrypted => ?_
  split
  · exact ensures_some (by simp)
  · exact ensures_ite (ensures_some (by simp)) (lwipInput_result _ _ _ _ _ _)

lemma pollLoop_result (waiting : LwipTunnelContext K H → Bool) (deadline : UInt64)
    (polls : List Poll) : Returns (· ≤ 0) (pollLoop lib waiting deadline polls) := by
  have hpoll : ∀ p : Poll, Returns (· ≤ 0) fun s : Flow K H I => poll lib s p := by
    intro p
    refine Returns.andThen ?_ ?_
    · intro s result t h
      cases hreceived : p.received with
      | none =>
        simp only [hreceived] at h
        cases h
        exact le_rfl
      | some received =>
        obtain ⟨source, incoming⟩ := received
        simp only [hreceived] at h
        split_ifs at h
        · cases h
          exact le_rfl
        · simp only [processDatagram, Option.bind_eq_bind, Option.bind_eq_some_iff,
            Option.some.injEq, Prod.mk.injEq] at h
          obtain ⟨r, hprocess, u, -, rfl, rfl⟩ := h
          exact lwipProcessTransport_result _ _ _ _ _ hprocess
    · intro s result t h
      obtain ⟨u, -, hu⟩ := Option.map_eq_some_iff.mp h
      cases hu
      exact le_rfl
  intro s result t h
  unfold pollLoop at h
  refine loop_ensures (P := fun _ => True) (Q := fun r => ∀ result t, r = some (result, t) →
    result ≤ 0) trivial ?_ (Option.join_eq_some_iff.mp h) result t rfl
  intro u p _
  unfold pollTurn
  split_ifs
  · cases hp : poll lib u p with
    | none => simp
    | some r =>
      by_cases hresult : r.1 = 0
      · simp only [if_pos hresult]
        exact trivial
      · simp only [if_neg hresult]
        rintro result t hr
        cases hr
        exact hpoll p u r.1 r.2 hp
  · rintro result t hr
    cases hr
    exact le_rfl

/-- No result is positive. -/
theorem exchange_result (o : EchoOutcomes) : Returns (· ≤ 0) (exchange lib o) := by
  refine Returns.andThen ?_ (Returns.andThen ?_ (Returns.andThen ?_ ?_))
  · intro s result t h
    unfold sendUdp at h
    dsimp only at h
    by_cases hnew : (!o.udpNew) = true
    · rw [if_pos hnew] at h
      cases h
      simp
    rw [if_neg hnew] at h
    split_ifs at h
    · cases h
      simp
    · cases h
      simp
    · cases h
      simp
    · simp only [Option.bind_eq_bind, Option.bind_eq_some_iff] at h
      obtain ⟨u, -, h⟩ := h
      split_ifs at h with _ herror
      · cases h
        exact herror.le
      · cases h
        simp
      · cases h
        exact le_rfl
  · refine (pollLoop_result _ _ _).andThen fun s result t h => ?_
    split_ifs at h <;> cases h <;> simp
  · intro s result t h
    unfold connectTcp at h
    dsimp only at h
    by_cases hnew : (!o.tcpNew) = true
    · rw [if_pos hnew] at h
      cases h
      simp
    rw [if_neg hnew] at h
    by_cases hbind : o.tcpBind ≠ .ok
    · rw [if_pos hbind] at h
      cases h
      simp
    rw [if_neg hbind] at h
    simp only [Option.bind_eq_bind, Option.bind_eq_some_iff] at h
    obtain ⟨u, -, h⟩ := h
    split_ifs at h <;> cases h <;> simp
  · refine (pollLoop_result _ _ _).andThen fun s result t h => ?_
    split_ifs at h <;> cases h <;> simp

end Steps

end MoonlightVita.Probe
