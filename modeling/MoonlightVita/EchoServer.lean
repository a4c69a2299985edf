import MoonlightVita.PeerConfig
import MoonlightVita.Transition

/-!
# The echo server of the probe

The loop of `tsvita-wg-echo.py` over its datagram socket, its listening socket and any
number of connections. Which key is ready, and how a stream is cut into pieces, is up
to the network. A call that raises ends the process.
-/
namespace MoonlightVita.EchoServer
open PeerConfig Transition

abbrev Bytes : Type := List UInt8

structure Ip where
  (a b c d : UInt8)
  deriving DecidableEq, Repr

structure Address where
  ip : Ip
  port : UInt16
  deriving DecidableEq, Repr

def expectedUdpClient : Address := ⟨⟨10, 77, 0, 2⟩, 40000⟩
def expectedTcpIp : Ip := ⟨10, 77, 0, 2⟩

def expectedUdpPayload : Bytes :=
  ascii ['T', 'S', 'V', 'I', 'T', 'A', '-', 'M', '2', '-', 'E', 'C', 'H', 'O']

def expectedTcpPayload : Bytes :=
  ascii ['T', 'S', 'V', 'I', 'T', 'A', '-', 'M', '2', '-', 'T', 'C', 'P']

def recvSize : ℕ := 256

/-- `buffers` are the connections of the selector with what was received on them. -/
structure State (C : Type*) where
  running : Bool
  buffers : C → Option Bytes

/-- A ready key of the selector and what its calls return. `sendto` is whether a reply can be sent,
`sendall` where sending fails, if it does; an empty payload of a connection is its end. -/
inductive Action (C : Type*)
  | udp (payload : Bytes) (client : Address) (sendto : Bool)
  | accept (connection : C) (client : Address)
  | ready (connection : C) (payload : Bytes) (sendall : Option ℕ)
  | raised
  deriving DecidableEq, Repr

inductive Event (C : Type*)
  | replied (payload : Bytes) (client : Address)
  | refused (connection : C)
  | registered (connection : C)
  | received (connection : C) (payload : Bytes)
  | answered (connection : C) (payload : Bytes)
  | closed (connection : C)
  deriving DecidableEq, Repr

def initial (C : Type*) : State C := ⟨true, fun _ => none⟩

variable {C : Type*} [DecidableEq C]

def isRequest (payload : Bytes) (client : Address) : Bool :=
  client = expectedUdpClient ∧ payload = expectedUdpPayload

def accept (s : State C) (connection : C) (client : Address) : State C × List (Event C) :=
  if client.ip ≠ expectedTcpIp then (s, [.refused connection])
  else ({ s with buffers := Function.update s.buffers connection (some []) },
    [.registered connection])

/-- The branch of a connection, with what it had received before. -/
def receive (s : State C) (connection : C) (buffer payload : Bytes) (sendall : Option ℕ) :
    State C × List (Event C) :=
  let buffered := buffer ++ payload
  if payload ≠ [] ∧ buffered <+: expectedTcpPayload ∧
      buffered.length < expectedTcpPayload.length then
    ({ s with buffers := Function.update s.buffers connection (some buffered) },
      [.received connection payload])
  else
    let s := { s with buffers := Function.update s.buffers connection none }
    if buffered = expectedTcpPayload then
      match sendall with
      | none => (s, [.received connection payload, .answered connection buffered,
          .closed connection])
      | some sent => ({ s with running := false },
          [.received connection payload, .answered connection (buffered.take sent)])
    else (s, [.received connection payload, .closed connection])

def step (s : State C) : Action C → Option (State C × List (Event C))
  | .udp payload client sendto =>
    if s.running ∧ payload.length ≤ recvSize then
      if !isRequest payload client then some (s, [])
      else if sendto then some (s, [.replied payload client])
      else some ({ s with running := false }, [])
    else none
  | .accept connection client =>
    if s.running ∧ s.buffers connection = none then some (accept s connection client) else none
  | .ready connection payload sendall =>
    match s.buffers connection with
    | none => none
    | some buffer =>
      if s.running ∧ payload.length ≤ recvSize then
        some (receive s connection buffer payload sendall)
      else none
  | .raised => if s.running then some ({ s with running := false }, []) else none

/-- A conversation since its connection was registered: what was heard and what was said. -/
structure Talk where
  heard : Bytes
  said : List Bytes
  deriving DecidableEq, Repr

def Talk.next (c : C) (talk : Talk) : Event C → Talk
  | .registered d => if d = c then ⟨[], []⟩ else talk
  | .received d payload => if d = c then { talk with heard := talk.heard ++ payload } else talk
  | .answered d payload => if d = c then { talk with said := talk.said ++ [payload] } else talk
  | .replied _ _ | .refused _ | .closed _ => talk

def talk (c : C) (events : List (Event C)) : Talk := events.foldl (Talk.next c) ⟨[], []⟩

/-- The requests among the datagrams. -/
def Action.request? : Action C → Option (Bytes × Address)
  | .udp payload client _ => if isRequest payload client then some (payload, client) else none
  | _ => none

/-- The requests whose reply can be sent. -/
def Action.served? : Action C → Option (Bytes × Address)
  | .udp payload client sendto =>
    if isRequest payload client ∧ sendto then some (payload, client) else none
  | _ => none

def Event.reply? : Event C → Option (Bytes × Address)
  | .replied payload client => some (payload, client)
  | _ => none

/-- A conversation of the server: the payload is answered once, nothing else is, and a
connection that is still open has sent a part of it. -/
structure Polite (running : Bool) (buffer : Option Bytes) (talk : Talk) : Prop where
  open_heard : ∀ b, buffer = some b → b = talk.heard ∧ talk.said = []
  open_part : ∀ b, buffer = some b → b <+: expectedTcpPayload ∧ b ≠ expectedTcpPayload
  answers : talk.said ≠ [] ↔ talk.heard = expectedTcpPayload
  once : talk.said.length ≤ 1
  whole : running → ∀ b ∈ talk.said, b = expectedTcpPayload
  part : ∀ b ∈ talk.said, b <+: expectedTcpPayload

lemma talk_append (c : C) (events out : List (Event C)) :
    talk c (events ++ out) = out.foldl (Talk.next c) (talk c events) :=
  List.foldl_append

lemma polite_fresh (running : Bool) : Polite running (some []) ⟨[], []⟩ where
  open_heard := by simp
  open_part := by
    rintro b hb
    cases hb
    exact ⟨List.nil_prefix, by decide⟩
  answers := by decide
  once := by simp
  whole := by simp
  part := by simp

lemma polite_start (running : Bool) : Polite running none ⟨[], []⟩ :=
  { polite_fresh running with open_heard := by simp, open_part := by simp }

lemma Polite.weaken {running running' : Bool} {buffer : Option Bytes} {talk : Talk}
    (h : Polite running buffer talk) (hrunning : running' → running) :
    Polite running' buffer talk :=
  { h with whole := fun hr => h.whole (hrunning hr) }

section Receive
variable {running : Bool} {buffer payload : Bytes} {talk : Talk}

/-- More of the payload has arrived, but not all of it. -/
lemma Polite.more (h : Polite running (some buffer) talk)
    (hbegins : buffer ++ payload <+: expectedTcpPayload)
    (hshort : (buffer ++ payload).length < expectedTcpPayload.length) :
    Polite running (some (buffer ++ payload)) { talk with heard := talk.heard ++ payload } := by
  obtain ⟨hheard, hsaid⟩ := h.open_heard _ rfl
  have hne : buffer ++ payload ≠ expectedTcpPayload := by
    intro he
    rw [he] at hshort
    exact lt_irrefl _ hshort
  refine ⟨?_, ?_, ?_, h.once, h.whole, h.part⟩
  · rintro b hb
    cases hb
    exact ⟨by rw [hheard], hsaid⟩
  · rintro b hb
    cases hb
    exact ⟨hbegins, hne⟩
  · simpa [hsaid, ← hheard] using hne

/-- The payload is complete, and as much of it goes back as can be sent. -/
lemma Polite.answer (h : Polite running (some buffer) talk)
    (hpayload : buffer ++ payload = expectedTcpPayload) {answer : Bytes}
    (hbegins : answer <+: expectedTcpPayload) (hwhole : running → answer = expectedTcpPayload) :
    Polite running none ⟨talk.heard ++ payload, talk.said ++ [answer]⟩ := by
  obtain ⟨hheard, hsaid⟩ := h.open_heard _ rfl
  refine ⟨by simp, by simp, ?_, by simp [hsaid], by simpa [hsaid] using hwhole,
    by simpa [hsaid] using hbegins⟩
  simp [← hheard, hpayload]

/-- The connection has sent something else, or has ended too early. -/
lemma Polite.hangUp (h : Polite running (some buffer) talk)
    (hpayload : buffer ++ payload ≠ expectedTcpPayload) :
    Polite running none { talk with heard := talk.heard ++ payload } := by
  obtain ⟨hheard, hsaid⟩ := h.open_heard _ rfl
  refine ⟨by simp, by simp, ?_, h.once, h.whole, h.part⟩
  simpa [hsaid, ← hheard] using hpayload

end Receive

/-- One connection over one step: another connection's business does not touch it. -/
lemma accept_polite {s : State C} {c : C} {talk : Talk} (d : C) (client : Address)
    (h : Polite s.running (s.buffers c) talk) :
    Polite (accept s d client).1.running ((accept s d client).1.buffers c)
      ((accept s d client).2.foldl (Talk.next c) talk) := by
  unfold accept
  split_ifs
  · exact h
  · by_cases hd : d = c
    · subst hd
      simpa [Talk.next] using polite_fresh s.running
    · simpa [Talk.next, hd, Function.update_of_ne (Ne.symm hd)] using h

lemma receive_elsewhere (s : State C) {c d : C} (hd : d ≠ c) (buffer payload : Bytes)
    (sendall : Option ℕ) (talk : Talk) :
    let r := receive s d buffer payload sendall
    r.1.buffers c = s.buffers c ∧ (r.1.running → s.running) ∧
      r.2.foldl (Talk.next c) talk = talk := by
  have hother : ∀ value, Function.update s.buffers d value c = s.buffers c :=
    fun value => Function.update_of_ne (Ne.symm hd) value s.buffers
  unfold receive
  dsimp only
  split_ifs
  · simp [Talk.next, hd, hother]
  · cases sendall <;> simp [Talk.next, hd, hother]
  · simp [Talk.next, hd, hother]

lemma receive_polite {s : State C} {c d : C} {buffer : Bytes} {talk : Talk}
    (hbuffer : s.buffers d = some buffer) (payload : Bytes) (sendall : Option ℕ)
    (h : Polite s.running (s.buffers c) talk) :
    let r := receive s d buffer payload sendall
    Polite r.1.running (r.1.buffers c) (r.2.foldl (Talk.next c) talk) := by
  by_cases hd : d = c
  · subst hd
    rw [hbuffer] at h
    unfold receive
    by_cases hmore : payload ≠ [] ∧ buffer ++ payload <+: expectedTcpPayload ∧
        (buffer ++ payload).length < expectedTcpPayload.length
    · simp only [if_pos hmore]
      simpa [Talk.next] using h.more hmore.2.1 hmore.2.2
    simp only [if_neg hmore]
    by_cases hpayload : buffer ++ payload = expectedTcpPayload
    · simp only [if_pos hpayload]
      cases sendall with
      | none => simpa [Talk.next, hpayload] using h.answer hpayload List.prefix_rfl fun _ => rfl
      | some sent =>
        have hstop : Polite false (some buffer) talk := h.weaken (by simp)
        simpa [Talk.next, hpayload] using
          hstop.answer hpayload (List.take_prefix sent expectedTcpPayload) (by simp)
    · simp only [if_neg hpayload]
      simpa [Talk.next] using h.hangUp hpayload
  · obtain ⟨hbuffers, hrunning, htalk⟩ := receive_elsewhere s hd buffer payload sendall talk
    dsimp only
    rw [hbuffers, htalk]
    exact h.weaken hrunning

theorem polite_step {s s' : State C} {a : Action C} {out : List (Event C)} {c : C} {talk : Talk}
    (hstep : step s a = some (s', out)) (h : Polite s.running (s.buffers c) talk) :
    Polite s'.running (s'.buffers c) (out.foldl (Talk.next c) talk) := by
  cases a with
  | udp payload client sendto =>
    simp only [step] at hstep
    split_ifs at hstep
    · cases hstep
      exact h
    · cases hstep
      exact h
    · cases hstep
      exact h.weaken (by simp)
  | accept connection client =>
    simp only [step] at hstep
    split_ifs at hstep
    have hpolite := accept_polite connection client h
    rwa [Option.some.inj hstep] at hpolite
  | ready connection payload sendall =>
    cases hbuffer : s.buffers connection with
    | none => simp [step, hbuffer] at hstep
    | some buffer =>
      simp only [step, hbuffer] at hstep
      split_ifs at hstep
      have hpolite := receive_polite hbuffer payload sendall h
      simpa only [Option.some.inj hstep] using hpolite
  | raised =>
    simp only [step] at hstep
    split_ifs at hstep
    cases hstep
    exact h.weaken (by simp)

/-- A step answers the datagram that it reads, if that is a request and the reply can be sent. -/
lemma replies_step {s s' : State C} {a : Action C} {out : List (Event C)}
    (hstep : step s a = some (s', out)) : out.filterMap Event.reply? = a.served?.toList := by
  cases a with
  | udp payload client sendto =>
    simp only [step] at hstep
    split_ifs at hstep with _ hrequest hsendto
    · cases hstep
      have hno : isRequest payload client = false := by simpa using hrequest
      simp [Action.served?, hno]
    · cases hstep
      have hyes : isRequest payload client = true := by simpa using hrequest
      simp [Event.reply?, Action.served?, hyes, hsendto]
    · cases hstep
      simp [Action.served?, hsendto]
  | accept connection client =>
    simp only [step, accept] at hstep
    split_ifs at hstep <;> cases hstep <;> rfl
  | ready connection payload sendall =>
    cases hbuffer : s.buffers connection with
    | none => simp [step, hbuffer] at hstep
    | some buffer =>
      simp only [step, hbuffer, receive] at hstep
      split_ifs at hstep
      · cases hstep
        rfl
      · cases sendall <;> cases hstep <;> rfl
      · cases hstep
        rfl
  | raised =>
    simp only [step] at hstep
    split_ifs at hstep
    cases hstep
    rfl

lemma replies_run {inputs : List (Action C)} {events : List (Event C)} {s : State C}
    (h : Run (ofStep step) (initial C) inputs events s) :
    events.filterMap Event.reply? = inputs.filterMap Action.served? := by
  induction h with
  | nil => rfl
  | @snoc inputs events out s t a prior hstep ih =>
    rw [List.filterMap_append, List.filterMap_append, ih, replies_step hstep]
    cases hserved : a.served? <;> simp [hserved]

/-- A step after which the server still runs has sent the reply, if one was due. -/
lemma served_of_running {s s' : State C} {a : Action C} {out : List (Event C)}
    (hstep : step s a = some (s', out)) (hrunning : s'.running) :
    s.running ∧ a.served? = a.request? := by
  cases a with
  | udp payload client sendto =>
    simp only [step] at hstep
    split_ifs at hstep with hguard hrequest hsendto
    · cases hstep
      have hno : isRequest payload client = false := by simpa using hrequest
      simp [hguard.1, Action.served?, Action.request?, hno]
    · cases hstep
      simp [hguard.1, Action.served?, Action.request?, hsendto]
    · cases hstep
      cases hrunning
  | accept connection client =>
    simp only [step] at hstep
    split_ifs at hstep with hguard
    exact ⟨hguard.1, rfl⟩
  | ready connection payload sendall =>
    cases hbuffer : s.buffers connection with
    | none => simp [step, hbuffer] at hstep
    | some buffer =>
      simp only [step, hbuffer] at hstep
      split_ifs at hstep with hguard
      exact ⟨hguard.1, rfl⟩
  | raised =>
    simp only [step] at hstep
    split_ifs at hstep
    cases hstep
    cases hrunning

/-- As long as the server runs, every request has been replied to. -/
lemma served_run {inputs : List (Action C)} {events : List (Event C)} {s : State C}
    (h : Run (ofStep step) (initial C) inputs events s) (hrunning : s.running) :
    inputs.filterMap Action.served? = inputs.filterMap Action.request? := by
  induction h with
  | nil => rfl
  | @snoc inputs events out s t a prior hstep ih =>
    obtain ⟨hbefore, hserved⟩ := served_of_running hstep hrunning
    rw [List.filterMap_append, List.filterMap_append, ih hbefore]
    simp [List.filterMap_cons, hserved]

lemma polite_run {inputs : List (Action C)} {events : List (Event C)} {s : State C}
    (h : Run (ofStep step) (initial C) inputs events s) (c : C) :
    Polite s.running (s.buffers c) (talk c events) := by
  induction h with
  | nil => exact polite_start true
  | snoc prior hstep ih =>
    rw [talk_append]
    exact polite_step hstep ih

/-- In every run each request whose reply can be sent is replied to once and no other datagram is;
as long as the server runs, that is each request. And in every conversation, however its stream
is cut, the payload and nothing else is sent back once. -/
theorem echo_served {inputs : List (Action C)} {events : List (Event C)} {s : State C}
    (h : Run (ofStep step) (initial C) inputs events s) :
    events.filterMap Event.reply? = inputs.filterMap Action.served? ∧
      (s.running → events.filterMap Event.reply? = inputs.filterMap Action.request?) ∧
      ∀ c, Polite s.running (s.buffers c) (talk c events) :=
  ⟨replies_run h, fun hrunning => (replies_run h).trans (served_run h hrunning), polite_run h⟩

/-- Two connections interleave, one of them in three pieces; the other sends something else. -/
theorem echo_served_two :
    ∃ events s, Run (ofStep step) (initial (Fin 2))
      [.accept 0 ⟨expectedTcpIp, 40001⟩, .accept 1 ⟨expectedTcpIp, 40002⟩,
        .ready 0 (expectedTcpPayload.take 5) none, .udp expectedUdpPayload expectedUdpClient true,
        .ready 1 (expectedTcpPayload ++ [33]) none,
        .ready 0 ((expectedTcpPayload.drop 5).take 3) none,
        .ready 0 (expectedTcpPayload.drop 8) none] events s ∧
      talk 0 events = ⟨expectedTcpPayload, [expectedTcpPayload]⟩ ∧ (talk 1 events).said = [] ∧
      (talk 1 events).heard ≠ expectedTcpPayload ∧
      events.filterMap Event.reply? = [(expectedUdpPayload, expectedUdpClient)] := by
  have hview : (exec step (initial (Fin 2))
      [.accept 0 ⟨expectedTcpIp, 40001⟩, .accept 1 ⟨expectedTcpIp, 40002⟩,
        .ready 0 (expectedTcpPayload.take 5) none, .udp expectedUdpPayload expectedUdpClient true,
        .ready 1 (expectedTcpPayload ++ [33]) none,
        .ready 0 ((expectedTcpPayload.drop 5).take 3) none,
        .ready 0 (expectedTcpPayload.drop 8) none]).map
      (fun r => (talk 0 r.2, (talk 1 r.2).said)) =
        some (⟨expectedTcpPayload, [expectedTcpPayload]⟩, []) := by decide +kernel
  obtain ⟨⟨s, events⟩, hexec, htalks⟩ := Option.map_eq_some_iff.mp hview
  simp only [Prod.mk.injEq] at htalks
  have hrun := run_of_exec hexec
  obtain ⟨hreplies, -, hpolite⟩ := echo_served hrun
  refine ⟨events, s, hrun, htalks.1, htalks.2, ?_, ?_⟩
  · exact fun hheard => (hpolite 1).answers.mpr hheard htalks.2
  · rw [hreplies]
    decide +kernel

end MoonlightVita.EchoServer
