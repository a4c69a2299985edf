import MoonlightVita.TunnelMoves

/-!
# Runs of the tunnel

The initial handshake, the receive thread and the output function of the network
interface. Each section under `g_peer_mutex` and each reading of the clock outside
of it is a step, and every step is a run of moves.
-/
namespace MoonlightVita.Tunnel
open ReplayWindow LittleEndian Transition

/-- Where the thread stands that runs the handshake and then the receive loop. -/
inductive Rx
  | connecting
  | awaiting (deadline : UInt64)
  | receiving
  | timing
  | maintaining (now : UInt64)
  | failed
  deriving DecidableEq, Repr

/-- `clock` is the last reading of the clock. The program has no `history`: it is what the steps
have called, each call with the clock at the end of its section. -/
structure State (K H I : Type) where
  g : TunnelContext K H
  rx : Rx
  clock : UInt64
  history : List (Event K H I × UInt64)

/-- A step of the receive thread, or of a thread that sends a packet (`output`). The last
argument is the clock at the end of the section. -/
inductive Action (R : Type)
  | connect (draw : R) (sent : ℤ) (processTime : UInt64)
  | await (now : UInt64) (received : Received) (processTime : UInt64)
  | expire (now : UInt64)
  | receive (received : Received) (delivery : Delivery) (processTime : UInt64)
  | readClock (now : UInt64)
  | maintain (draw : R) (initiationSent transportSent : ℤ) (processTime : UInt64)
  | output (packet : Option Pbuf) (sent : ℤ) (processTime : UInt64)

section Events
variable {K H I : Type}

def Event.sentInitiation? : Event K H I → Option I
  | .initiationSent i sent => if sent = sizeofHandshakeInitiation then some i else none
  | _ => none

/-- The initiations that were sent in full. -/
def sentInitiations (events : List (Event K H I)) : List I :=
  events.filterMap Event.sentInitiation?

def Event.isSession : Event K H I → Bool
  | .startSession _ => true
  | _ => false

/-- A transport packet of which the whole datagram was sent. -/
def Event.isWhole : Event K H I → Bool
  | .transport _ _ _ datagram sent => sent = datagram.length
  | _ => false

/-- The initiations that were sent in full, and when. -/
def State.sent (s : State K H I) : List (I × UInt64) :=
  s.history.filterMap fun p => p.1.sentInitiation?.map fun i => (i, p.2)

/-- When the events of this kind happened. -/
def times (P : Event K H I → Bool) (history : List (Event K H I × UInt64)) : List UInt64 :=
  (history.filter fun p => P p.1).map Prod.snd

def State.handshakes (s : State K H I) : List UInt64 := times Event.isSession s.history

def State.transports (s : State K H I) : List UInt64 := times Event.isWhole s.history

def State.advance (s : State K H I) (g : TunnelContext K H) (rx : Rx) (clock : UInt64)
    (out : List (Event K H I)) : State K H I × List (Event K H I) :=
  (⟨g, rx, clock, s.history ++ out.map fun e => (e, clock)⟩, out)

def State.fault (s : State K H I) : State K H I × List (Event K H I) :=
  ({ s with rx := .failed, history := s.history ++ [(.fault, s.clock)] }, [.fault])

end Events

variable {K H R I : Type}

def stepConnect (lib : Wireguard K H R I) (s : State K H I) (draw : R) (sent : ℤ)
    (processTime : UInt64) : State K H I × List (Event K H I) :=
  match sendHandshakeLocked lib s.g draw sent with
  | none => s.fault
  | some r =>
    s.advance r.g
      (if r.result < 0 then .failed else .awaiting (processTime + tsvitaHandshakeTimeoutUs))
      processTime r.events

def stepAwait (lib : Wireguard K H R I) (s : State K H I) (deadline : UInt64)
    (received : Received) (processTime : UInt64) : State K H I × List (Event K H I) :=
  match received with
  | none => s.advance s.g (.awaiting deadline) processTime []
  | some (source, incoming) =>
    if 0 < incoming.length ∧ sourceIsPeer s.g source then
      match processHandshakeResponseLocked lib s.g incoming processTime with
      | none => s.fault
      | some r =>
        s.advance r.g (if r.result = 0 then .receiving else .awaiting deadline) processTime r.events
    else s.advance s.g (.awaiting deadline) processTime []

def stepReceive (lib : Wireguard K H R I) (s : State K H I) (received : Received)
    (delivery : Delivery) (processTime : UInt64) : State K H I × List (Event K H I) :=
  match receiveDatagram lib s.g received delivery processTime with
  | none => s.fault
  | some r => s.advance r.1 .timing processTime r.2

def stepMaintain (lib : Wireguard K H R I) (s : State K H I) (now : UInt64) (draw : R)
    (initiationSent transportSent : ℤ) (processTime : UInt64) :
    State K H I × List (Event K H I) :=
  match maintainRekey lib s.g now draw initiationSent with
  | none => s.fault
  | some r =>
    let k := maintainKeepalive lib r.1 now transportSent processTime
    s.advance k.1 .receiving processTime (r.2 ++ k.2)

def receiveCapacity : ℕ := 1600
def awaitCapacity : ℕ := 256

def fits (capacity : ℕ) (received : Received) : Bool :=
  received.all fun datagram => datagram.2.length ≤ capacity

/-- The clock never runs backwards, and a datagram never exceeds its buffer. -/
def step (lib : Wireguard K H R I) (s : State K H I) :
    Action R → Option (State K H I × List (Event K H I))
  | .connect draw sent processTime =>
    if s.rx = .connecting ∧ s.clock ≤ processTime then
      some (stepConnect lib s draw sent processTime)
    else none
  | .await now received processTime =>
    match s.rx with
    | .awaiting deadline =>
      if s.clock ≤ now ∧ now < deadline ∧ now ≤ processTime ∧ fits awaitCapacity received then
        some (stepAwait lib s deadline received processTime)
      else none
    | _ => none
  | .expire now =>
    match s.rx with
    | .awaiting deadline =>
      if s.clock ≤ now ∧ deadline ≤ now then some (s.advance s.g .failed now []) else none
    | _ => none
  | .receive received delivery processTime =>
    if s.rx = .receiving ∧ s.clock ≤ processTime ∧ fits receiveCapacity received then
      some (stepReceive lib s received delivery processTime)
    else none
  | .readClock now =>
    if s.rx = .timing ∧ s.clock ≤ now then some (s.advance s.g (.maintaining now) now []) else none
  | .maintain draw initiationSent transportSent processTime =>
    match s.rx with
    | .maintaining now =>
      if s.clock ≤ processTime then
        some (stepMaintain lib s now draw initiationSent transportSent processTime)
      else none
    | _ => none
  | .output packet sent processTime =>
    if s.clock ≤ processTime then
      let r := tunnelNetifOutput lib s.g packet sent processTime
      some (s.advance r.2.1 s.rx processTime r.2.2)
    else none

def Keypair.zero (key : K) : Keypair K :=
  ⟨false, false, false, key, key, 0, 0, 0, Replay.zero⟩

/-- The datagram that a step processes. -/
def Action.datagram? : Action R → Option Bytes
  | .await _ received _ | .receive received _ _ => received.map Prod.snd
  | _ => none

/-- The section that a step has run, with the guards of the step. -/
inductive Fired (lib : Wireguard K H R I) (s : State K H I) :
    Action R → State K H I × List (Event K H I) → Prop
  | connect {draw : R} {sent : ℤ} {processTime : UInt64} (start : s.rx = .connecting)
      (clock : s.clock ≤ processTime) :
      Fired lib s (.connect draw sent processTime) (stepConnect lib s draw sent processTime)
  | await {deadline now processTime : UInt64} {received : Received}
      (waiting : s.rx = .awaiting deadline) (clock : s.clock ≤ now) (early : now < deadline)
      (later : now ≤ processTime) (size : fits awaitCapacity received) :
      Fired lib s (.await now received processTime)
        (stepAwait lib s deadline received processTime)
  | expire {deadline now : UInt64} (waiting : s.rx = .awaiting deadline) (clock : s.clock ≤ now)
      (late : deadline ≤ now) : Fired lib s (.expire now) (s.advance s.g .failed now [])
  | receive {received : Received} {delivery : Delivery} {processTime : UInt64}
      (loop : s.rx = .receiving) (clock : s.clock ≤ processTime)
      (size : fits receiveCapacity received) :
      Fired lib s (.receive received delivery processTime)
        (stepReceive lib s received delivery processTime)
  | readClock {now : UInt64} (loop : s.rx = .timing) (clock : s.clock ≤ now) :
      Fired lib s (.readClock now) (s.advance s.g (.maintaining now) now [])
  | maintain {now processTime : UInt64} {draw : R} {initiationSent transportSent : ℤ}
      (loop : s.rx = .maintaining now) (clock : s.clock ≤ processTime) :
      Fired lib s (.maintain draw initiationSent transportSent processTime)
        (stepMaintain lib s now draw initiationSent transportSent processTime)
  | output {packet : Option Pbuf} {sent : ℤ} {processTime : UInt64}
      (clock : s.clock ≤ processTime) :
      Fired lib s (.output packet sent processTime)
        (s.advance (tunnelNetifOutput lib s.g packet sent processTime).2.1 s.rx processTime
          (tunnelNetifOutput lib s.g packet sent processTime).2.2)

theorem step_fired {lib : Wireguard K H R I} {s : State K H I} {a : Action R}
    {r : State K H I × List (Event K H I)} (h : step lib s a = some r) : Fired lib s a r := by
  cases a with
  | connect draw sent processTime =>
    simp only [step] at h
    split_ifs at h with hguard
    cases h
    exact .connect hguard.1 hguard.2
  | await now received processTime =>
    simp only [step] at h
    cases hrx : s.rx with
    | awaiting deadline =>
      simp only [hrx] at h
      split_ifs at h with hguard
      cases h
      exact .await hrx hguard.1 hguard.2.1 hguard.2.2.1 hguard.2.2.2
    | connecting | receiving | timing | maintaining | failed => simp [hrx] at h
  | expire now =>
    simp only [step] at h
    cases hrx : s.rx with
    | awaiting deadline =>
      simp only [hrx] at h
      split_ifs at h with hguard
      cases h
      exact .expire hrx hguard.1 hguard.2
    | connecting | receiving | timing | maintaining | failed => simp [hrx] at h
  | receive received delivery processTime =>
    simp only [step] at h
    split_ifs at h with hguard
    cases h
    exact .receive hguard.1 hguard.2.1 hguard.2.2
  | readClock now =>
    simp only [step] at h
    split_ifs at h with hguard
    cases h
    exact .readClock hguard.1 hguard.2
  | maintain draw initiationSent transportSent processTime =>
    simp only [step] at h
    cases hrx : s.rx with
    | maintaining now =>
      simp only [hrx] at h
      split_ifs at h with hguard
      cases h
      exact .maintain hrx hguard
    | connecting | awaiting | receiving | timing | failed => simp [hrx] at h
  | output packet sent processTime =>
    simp only [step] at h
    split_ifs at h with hguard
    cases h
    exact .output hguard

/-- What a step has called, once the peer exists. -/
inductive Stepped (lib : Wireguard K H R I) (s : State K H I) :
    Action R → TunnelContext K H → List (Event K H I) → Prop
  | still {a : Action R} : Stepped lib s a s.g []
  | connect {draw : R} {sent : ℤ} {processTime : UInt64} {r : Result K H I}
      (call : sendHandshakeLocked lib s.g draw sent = some r) :
      Stepped lib s (.connect draw sent processTime) r.g r.events
  | await {now processTime : UInt64} {source : Endpoint} {incoming : Bytes} {r : Result K H I}
      (call : processHandshakeResponseLocked lib s.g incoming processTime = some r) :
      Stepped lib s (.await now (some (source, incoming)) processTime) r.g r.events
  | receive {received : Received} {delivery : Delivery} {processTime : UInt64}
      {r : TunnelContext K H × List (Event K H I)}
      (call : receiveDatagram lib s.g received delivery processTime = some r) :
      Stepped lib s (.receive received delivery processTime) r.1 r.2
  | maintain {now : UInt64} {draw : R} {initiationSent transportSent : ℤ} {processTime : UInt64}
      {r : TunnelContext K H × List (Event K H I)} (loop : s.rx = .maintaining now)
      (call : maintainRekey lib s.g now draw initiationSent = some r) :
      Stepped lib s (.maintain draw initiationSent transportSent processTime)
        (maintainKeepalive lib r.1 now transportSent processTime).1
        (r.2 ++ (maintainKeepalive lib r.1 now transportSent processTime).2)
  | output {packet : Option Pbuf} {sent : ℤ} {processTime : UInt64} :
      Stepped lib s (.output packet sent processTime)
        (tunnelNetifOutput lib s.g packet sent processTime).2.1
        (tunnelNetifOutput lib s.g packet sent processTime).2.2

section Steps
variable {lib : Wireguard K H R I} {m : Meaning K H I} {s s' : State K H I} {a : Action R}
  {out : List (Event K H I)}

/-- The context, the events and the history after a step. -/
def Steps (lib : Wireguard K H R I) (s : State K H I) (a : Action R)
    (r : State K H I × List (Event K H I)) : Prop :=
  Stepped lib s a r.1.g r.2 ∧ r.1.history = s.history ++ r.2.map fun e => (e, r.1.clock)

lemma steps_advance {g : TunnelContext K H} {rx : Rx} {clock : UInt64}
    (h : Stepped lib s a g out) : Steps lib s a (s.advance g rx clock out) :=
  ⟨h, rfl⟩

/-- The history grows by the events of the step. -/
lemma Steps.events {r : State K H I × List (Event K H I)} {events : List (Event K H I)}
    (h : Steps lib s a r) (hs : s.history.map Prod.fst = events) :
    r.1.history.map Prod.fst = events ++ r.2 := by
  rw [h.2, List.map_append, hs]
  simp [Function.comp_def]

lemma stepConnect_steps (hpeer : s.g.peer.isSome) (draw : R) (sent : ℤ) (processTime : UInt64) :
    Steps lib s (.connect draw sent processTime) (stepConnect lib s draw sent processTime) := by
  obtain ⟨r, hr⟩ : ∃ r, sendHandshakeLocked lib s.g draw sent = some r :=
    Option.isSome_iff_exists.mp (sendHandshakeLocked_isSome hpeer draw sent)
  simp only [stepConnect, hr]
  exact steps_advance (.connect hr)

lemma stepAwait_steps (hpeer : s.g.peer.isSome) (now deadline : UInt64) (received : Received)
    (processTime : UInt64) :
    Steps lib s (.await now received processTime)
      (stepAwait lib s deadline received processTime) := by
  rcases received with _ | ⟨source, incoming⟩
  · exact steps_advance .still
  simp only [stepAwait]
  split_ifs
  · obtain ⟨r, hr⟩ : ∃ r, processHandshakeResponseLocked lib s.g incoming processTime = some r :=
      Option.isSome_iff_exists.mp (processHandshakeResponseLocked_isSome hpeer _ _)
    simp only [hr]
    exact steps_advance (.await hr)
  · exact steps_advance .still

lemma stepReceive_steps (hl : Lawful lib m) (hpeer : s.g.peer.isSome) (received : Received)
    (delivery : Delivery) (processTime : UInt64) :
    Steps lib s (.receive received delivery processTime)
      (stepReceive lib s received delivery processTime) := by
  obtain ⟨r, hr⟩ := Option.isSome_iff_exists.mp
    (receiveDatagram_isSome hl hpeer received delivery processTime)
  simp only [stepReceive, hr]
  exact steps_advance (.receive hr)

lemma stepMaintain_steps (hpeer : s.g.peer.isSome) {now : UInt64} (hrx : s.rx = .maintaining now)
    (draw : R) (initiationSent transportSent : ℤ) (processTime : UInt64) :
    Steps lib s (.maintain draw initiationSent transportSent processTime)
      (stepMaintain lib s now draw initiationSent transportSent processTime) := by
  obtain ⟨r, hr⟩ : ∃ r, maintainRekey lib s.g now draw initiationSent = some r :=
    Option.isSome_iff_exists.mp (maintainRekey_isSome hpeer _ _ _)
  simp only [stepMaintain, hr]
  exact steps_advance (.maintain hrx hr)

theorem step_steps {r : State K H I × List (Event K H I)} (hl : Lawful lib m)
    (hpeer : s.g.peer.isSome) (h : step lib s a = some r) : Steps lib s a r := by
  cases step_fired h with
  | connect => exact stepConnect_steps hpeer _ _ _
  | await => exact stepAwait_steps hpeer _ _ _ _
  | expire => exact steps_advance .still
  | receive => exact stepReceive_steps hl hpeer _ _ _
  | readClock => exact steps_advance .still
  | maintain hrx => exact stepMaintain_steps hpeer hrx _ _ _ _
  | output => exact steps_advance .output

/-- Every step takes the peer through moves over the datagram that it processes. -/
theorem Stepped.moveRun {g' : TunnelContext K H} (hl : Lawful lib m)
    (h : Stepped lib s a g' out) : MoveRun lib m a.datagram? s.g out g' := by
  cases h with
  | still => exact (Move.same _ s.g).run
  | connect call => exact (sendHandshakeLocked_move hl none call).run
  | await call => exact (processHandshakeResponseLocked_move hl call).run
  | receive call => exact receiveDatagram_moves hl call
  | maintain _ call =>
    exact (maintainRekey_moves hl call).append (maintainKeepalive_moves hl _ _ _ _)
  | output => exact (tunnelNetifOutput_move hl none s.g _ _ _).run

end Steps

lemma peer_isSome_of_moves {lib : Wireguard K H R I} {m : Meaning K H I}
    {g g' : TunnelContext K H} {is : List (Option Bytes)} {out : List (Event K H I)}
    (h : Run (moves lib m) g is out g') (hpeer : g.peer.isSome) : g'.peer.isSome :=
  h.invariant (P := fun _ g => g.peer.isSome) hpeer fun _ _ _ _ _ hp hm => hm.peer_isSome hp

lemma peer_isSome_step {lib : Wireguard K H R I} {m : Meaning K H I} (hl : Lawful lib m)
    {s : State K H I} {a : Action R} {r : State K H I × List (Event K H I)}
    (hpeer : s.g.peer.isSome) (h : step lib s a = some r) : r.1.g.peer.isSome := by
  obtain ⟨n, hmoves⟩ := (step_steps hl hpeer h).1.moveRun hl
  exact peer_isSome_of_moves hmoves hpeer

lemma no_fault_of_moves {lib : Wireguard K H R I} {m : Meaning K H I}
    {g g' : TunnelContext K H} {is : List (Option Bytes)} {out : List (Event K H I)}
    (h : Run (moves lib m) g is out g') : .fault ∉ out := by
  refine h.invariant (P := fun events _ => .fault ∉ events) (by simp) ?_
  intro events g _ out g' hp hm hmem
  rcases List.mem_append.mp hmem with hmem | hmem
  · exact hp hmem
  · exact hm.no_fault hmem

@[simp] lemma sentInitiations_append (es fs : List (Event K H I)) :
    sentInitiations (es ++ fs) = sentInitiations es ++ sentInitiations fs :=
  List.filterMap_append

lemma sent_of_history {s : State K H I} {events : List (Event K H I)}
    (h : s.history.map Prod.fst = events) : s.sent.map Prod.fst = sentInitiations events := by
  subst h
  rw [State.sent, sentInitiations, List.map_filterMap, List.filterMap_map]
  congr 1
  funext p
  cases hp : p.1.sentInitiation? <;> simp [hp]

/-- The tunnel as `start_tunnel` leaves it before the handshake. -/
def initialState (endpoint : Endpoint) (handshake : H) (key : K) (clock : UInt64) : State K H I :=
  ⟨⟨endpoint, some ⟨handshake, fun _ => Keypair.zero key⟩, 0, 0, 0, 0, 0, 0, 0, 0⟩, .connecting,
    clock, []⟩

/-- A run of the tunnel is a run of moves, and its history is what happened in it. -/
theorem run_moves {lib : Wireguard K H R I} {m : Meaning K H I} (hl : Lawful lib m)
    {endpoint : Endpoint} {handshake : H} {key : K} {clock : UInt64} {inputs : List (Action R)}
    {events : List (Event K H I)} {s : State K H I}
    (h : Run (ofStep (step lib)) (initialState endpoint handshake key clock) inputs events s) :
    (∃ is, Run (moves lib m) (initialState (I := I) endpoint handshake key clock).g is events
      s.g) ∧ s.history.map Prod.fst = events := by
  refine h.invariant (P := fun events s => (∃ is, Run (moves lib m)
    (initialState (I := I) endpoint handshake key clock).g is events s.g) ∧
      s.history.map Prod.fst = events) ⟨⟨[], Run.nil⟩, rfl⟩ ?_
  rintro events s i out t ⟨⟨is, hrun⟩, hhistory⟩ hs
  have hstepped := step_steps hl (peer_isSome_of_moves hrun rfl) hs
  obtain ⟨n, hmoves⟩ := hstepped.1.moveRun hl
  exact ⟨⟨_, hrun.append hmoves⟩, hstepped.events hhistory⟩

end MoonlightVita.Tunnel
