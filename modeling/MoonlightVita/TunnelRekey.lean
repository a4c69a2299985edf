import MoonlightVita.TunnelTimes

/-!
# When the receive loop rekeys

An initiation that was sent and never answered keeps `pending_handshake_sender` set,
and the loop initiates nothing while it is set.
-/
namespace MoonlightVita.Tunnel
open Fallible Transition

variable {K H R I : Type}

def Event.isRekey : Event K H I → Bool
  | .rekey _ => true
  | _ => false

/-- Whether an iteration attempts a handshake. -/
def attempts (out : List (Event K H I)) : Bool := out.any Event.isRekey

def Event.initiates : Event K H I → Bool
  | .initiation _ | .initiationSent _ _ | .rekey _ => true
  | _ => false

/-- Whether an initiation is made, or the loop reports that it tried to. -/
def initiates (out : List (Event K H I)) : Bool := out.any Event.initiates

def Event.awaits (before : Bool) : Event K H I → Bool
  | .initiationSent _ sent => if sent = sizeofHandshakeInitiation then true else before
  | .startSession _ => false
  | _ => before

/-- Whether the last initiation that was sent has got no accepted response yet. -/
def unanswered (events : List (Event K H I)) : Bool := events.foldl Event.awaits false

/-- By the history, the rekey interval has passed since the last completed handshake and since the
last initiation that was sent. -/
structure Due (s : State K H I) (now : UInt64) : Prop where
  handshake : ∃ t, s.handshakes.getLast? = some t ∧
    t.toNat + tsvitaRekeyIntervalUs.toNat ≤ now.toNat
  initiation : ∀ p, s.sent.getLast? = some p →
    p.2.toNat + tsvitaRekeyIntervalUs.toNat ≤ now.toNat

@[simp] lemma attempts_append (es fs : List (Event K H I)) :
    attempts (es ++ fs) = (attempts es || attempts fs) := List.any_append

@[simp] lemma initiates_append (es fs : List (Event K H I)) :
    initiates (es ++ fs) = (initiates es || initiates fs) := List.any_append

lemma attempts_of_initiates {out : List (Event K H I)} (h : initiates out = false) :
    attempts out = false := by
  rw [initiates, List.any_eq_false] at h
  rw [attempts, List.any_eq_false]
  intro e he hrekey
  have hnot := h e he
  cases e with
  | rekey => exact hnot rfl
  | transport | initiation | initiationSent | startSession | accepted | tcpipInput | rejection
  | keepalive | fault => cases hrekey

lemma unanswered_append (es fs : List (Event K H I)) :
    unanswered (es ++ fs) = fs.foldl Event.awaits (unanswered es) := List.foldl_append

lemma foldl_awaits_same {out : List (Event K H I)}
    (h : ∀ e ∈ out, ∀ before, Event.awaits before e = before) (before : Bool) :
    out.foldl Event.awaits before = before := by
  induction out generalizing before with
  | nil => rfl
  | cons e out ih =>
    rw [List.foldl_cons, h e (by simp) before]
    exact ih (fun e he => h e (by simp [he])) before

variable {lib : Wireguard K H R I} {m : Meaning K H I}

/-- The gate of the rekey check is open exactly while no initiation waits for an answer. -/
def GateInv (events : List (Event K H I)) (g : TunnelContext K H) : Prop :=
  g.pendingHandshakeSender = 0 ↔ unanswered events = false

/-- A move that neither sends an initiation nor starts a session. -/
lemma GateInv.keep {events out : List (Event K H I)} {g g' : TunnelContext K H}
    (h : GateInv events g) (hpending : g'.pendingHandshakeSender = g.pendingHandshakeSender)
    (hout : ∀ e ∈ out, ∀ before, Event.awaits before e = before) : GateInv (events ++ out) g' := by
  unfold GateInv
  rw [hpending, unanswered_append, foldl_awaits_same hout]
  exact h

theorem gateInv_move {events out : List (Event K H I)} {g g' : TunnelContext K H}
    {datagram : Option Bytes} (h : GateInv events g) (hm : Move lib m datagram g out g') :
    GateInv (events ++ out) g' := by
  cases hm with
  | quiet _ pending out_quiet =>
    refine h.keep pending fun e he before => ?_
    exact (out_quiet e he).induct (P := fun e => Event.awaits before e = before)
      (fun _ _ _ => rfl) (fun _ => rfl) (fun _ => rfl)
  | encrypt _ _ _ _ _ pending => exact h.keep pending (by simp [Event.awaits])
  | initiateFailed _ _ _ pending => exact h.keep pending (by simp [Event.awaits])
  | initiate i sent _ _ _ nonzero _ pending =>
    unfold GateInv
    rw [pending, unanswered_append]
    by_cases hsent : sent = sizeofHandshakeInitiation
    · simp [hsent, Event.awaits, nonzero]
    · simp only [if_neg hsent, List.foldl_cons, List.foldl_nil, Event.awaits]
      exact h
  | session _ _ _ _ _ _ _ _ pending =>
    unfold GateInv
    rw [pending, unanswered_append]
    simp [Event.awaits]
  | accept _ _ _ _ _ _ _ pending => exact h.keep pending (by simp [Event.awaits])
  | replayed _ _ _ _ _ _ pending => exact h.keep pending (by simp)

lemma sendTransportLocked_initiates (g : TunnelContext K H) (inner : Bytes) (sent : ℤ)
    (processTime : UInt64) :
    initiates (sendTransportLocked lib g inner sent processTime).events = false := by
  unfold sendTransportLocked
  cases g.peer with
  | none => rfl
  | some peer =>
    dsimp only
    split_ifs <;> rfl

lemma maintainKeepalive_initiates (g : TunnelContext K H) (now : UInt64) (sent : ℤ)
    (processTime : UInt64) :
    initiates (maintainKeepalive lib g now sent processTime).2 = false := by
  unfold maintainKeepalive
  cases g.peer with
  | none => rfl
  | some peer =>
    dsimp only
    split_ifs
    · rw [initiates_append, sendTransportLocked_initiates]
      rfl
    · rfl

lemma tunnelNetifOutput_initiates (g : TunnelContext K H) (packet : Option Pbuf) (sent : ℤ)
    (processTime : UInt64) :
    initiates (tunnelNetifOutput lib g packet sent processTime).2.2 = false := by
  unfold tunnelNetifOutput
  cases packet with
  | none => rfl
  | some packet =>
    dsimp only
    split_ifs
    · rfl
    · rfl
    · exact sendTransportLocked_initiates g _ sent processTime
    · exact sendTransportLocked_initiates g _ sent processTime

lemma processHandshakeResponseLocked_initiates (g : TunnelContext K H) (incoming : Bytes)
    (processTime : UInt64) : Ensures (fun r => initiates r.events = false)
      (processHandshakeResponseLocked lib g incoming processTime) := by
  unfold processHandshakeResponseLocked
  refine ensures_ite (ensures_some rfl) (ensures_bind fun receiver => ?_)
  refine ensures_ite (ensures_some rfl) ?_
  refine ensures_bind fun covered => ensures_bind fun mac1 => ?_
  refine ensures_ite (ensures_some rfl) (ensures_bind fun peer => ?_)
  split
  · exact ensures_some rfl
  · exact ensures_some rfl

lemma deliverPlaintext_initiates (g : TunnelContext K H) (key : K) (counter : UInt64)
    (plaintext : Bytes) (plaintextSize : ℕ) (delivery : Delivery) :
    Ensures (fun r => initiates r.events = false)
      (deliverPlaintext (I := I) g key counter plaintext plaintextSize delivery) := by
  unfold deliverPlaintext
  refine ensures_ite (ensures_some rfl) (ensures_ite (ensures_some rfl) ?_)
  refine ensures_bind fun version => ensures_bind fun destination => ?_
  refine ensures_ite (ensures_some rfl) ?_
  refine ensures_bind fun high => ensures_bind fun low => ?_
  refine ensures_ite (ensures_some rfl) (ensures_bind fun packet => ?_)
  exact ensures_ite (ensures_some rfl) (ensures_ite (ensures_some rfl) (ensures_some rfl))

lemma processTransportLocked_initiates (g : TunnelContext K H) (incoming : Bytes)
    (delivery : Delivery) : Ensures (fun r => initiates r.events = false)
      (processTransportLocked lib g incoming delivery) := by
  unfold processTransportLocked
  refine ensures_ite (ensures_some rfl) ?_
  refine ensures_bind fun peer => ensures_bind fun receiver => ?_
  split
  · exact ensures_some rfl
  refine ensures_ite (ensures_some rfl) ?_
  refine ensures_bind fun counterBytes => ensures_bind fun encrypted => ?_
  refine ensures_ite ensures_none ?_
  split
  · exact ensures_some rfl
  · exact ensures_ite (ensures_some rfl) (deliverPlaintext_initiates _ _ _ _ _ _)

lemma processLocked_initiates (g : TunnelContext K H) (incoming : Bytes) (delivery : Delivery)
    (processTime : UInt64) : Ensures (fun r => initiates r.events = false)
      (processLocked lib g incoming delivery processTime) := by
  unfold processLocked
  refine ensures_ite (processHandshakeResponseLocked_initiates g incoming processTime) ?_
  exact ensures_ite (processTransportLocked_initiates g incoming delivery) (ensures_some rfl)

lemma recordTransportRejection_initiates (g : TunnelContext K H) (result : ℤ) :
    initiates (recordTransportRejection (I := I) g result).2 = false := by
  unfold recordTransportRejection rejectionLog
  split_ifs <;> rfl

lemma receiveDatagram_initiates {g : TunnelContext K H} {received : Received}
    {delivery : Delivery} {processTime : UInt64} {r : TunnelContext K H × List (Event K H I)}
    (h : receiveDatagram lib g received delivery processTime = some r) :
    initiates r.2 = false := by
  rcases received with _ | ⟨source, incoming⟩
  · cases h
    rfl
  simp only [receiveDatagram] at h
  by_cases hpeer : 0 < incoming.length ∧ sourceIsPeer g source
  · rw [if_pos hpeer] at h
    simp only [Option.bind_eq_bind, Option.bind_eq_some_iff] at h
    obtain ⟨q, hq, h⟩ := h
    have hprocess := processLocked_initiates g incoming delivery processTime q hq
    split_ifs at h
    · cases h
      rw [initiates_append, hprocess, recordTransportRejection_initiates]
      rfl
    · cases h
      exact hprocess
  · rw [if_neg hpeer] at h
    cases h
    rfl

lemma sendHandshakeLocked_attempts {g : TunnelContext K H} {draw : R} {sent : ℤ}
    {r : Result K H I} (h : sendHandshakeLocked lib g draw sent = some r) :
    attempts r.events = false := by
  unfold sendHandshakeLocked at h
  cases hpeer : g.peer with
  | none => simp [hpeer] at h
  | some peer =>
    simp only [hpeer] at h
    split at h
    · cases h
      rfl
    · split_ifs at h <;> cases h <;> rfl

lemma maintainRekey_attempts {g : TunnelContext K H} {now : UInt64} {draw : R} {sent : ℤ}
    {r : TunnelContext K H × List (Event K H I)}
    (h : maintainRekey lib g now draw sent = some r) :
    attempts r.2 = true ↔
      g.pendingHandshakeSender = 0 ∧ tsvitaRekeyIntervalUs ≤ now - g.lastHandshakeUs := by
  unfold maintainRekey at h
  by_cases hgate : g.pendingHandshakeSender = 0 ∧ tsvitaRekeyIntervalUs ≤ now - g.lastHandshakeUs
  · rw [if_pos hgate] at h
    simp only [Option.bind_eq_bind, Option.bind_eq_some_iff] at h
    obtain ⟨q, -, h⟩ := h
    cases h
    refine iff_of_true ?_ hgate
    rw [attempts_append, Bool.or_eq_true]
    exact Or.inr rfl
  · rw [if_neg hgate] at h
    cases h
    exact iff_of_false (by simp [attempts]) hgate

/-- An iteration attempts a handshake exactly when the gate is open and the time is up. -/
lemma step_maintain_attempts {s s' : State K H I} {now : UInt64} {draw : R}
    {initiationSent transportSent : ℤ} {processTime : UInt64} {out : List (Event K H I)}
    (hpeer : s.g.peer.isSome) (hrx : s.rx = .maintaining now)
    (h : step lib s (.maintain draw initiationSent transportSent processTime) = some (s', out)) :
    attempts out = true ↔
      s.g.pendingHandshakeSender = 0 ∧ tsvitaRekeyIntervalUs ≤ now - s.g.lastHandshakeUs := by
  simp only [step, hrx] at h
  split_ifs at h
  obtain ⟨r, hr⟩ : ∃ r, maintainRekey lib s.g now draw initiationSent = some r :=
    Option.isSome_iff_exists.mp (maintainRekey_isSome hpeer _ _ _)
  simp only [stepMaintain, hr, State.advance, Option.some.injEq, Prod.mk.injEq] at h
  have hkeepalive : attempts (maintainKeepalive lib r.1 now transportSent processTime).2 = false :=
    attempts_of_initiates (maintainKeepalive_initiates _ _ _ _)
  rw [← h.2, attempts_append, hkeepalive, Bool.or_false]
  exact maintainRekey_attempts hr

/-- No step attempts a rekey while the gate is shut. -/
lemma Stepped.attempts_eq_false {s : State K H I} {a : Action R} {g' : TunnelContext K H}
    {out : List (Event K H I)} (h : Stepped lib s a g' out)
    (hgate : s.g.pendingHandshakeSender ≠ 0) : attempts out = false := by
  cases h with
  | still => rfl
  | connect call => exact sendHandshakeLocked_attempts call
  | await call => exact attempts_of_initiates (processHandshakeResponseLocked_initiates _ _ _ _ call)
  | receive call => exact attempts_of_initiates (receiveDatagram_initiates call)
  | maintain _ call =>
    have hrekey := mt (maintainRekey_attempts call).mp fun hopen => hgate hopen.1
    rw [attempts_append, attempts_of_initiates (maintainKeepalive_initiates _ _ _ _), Bool.or_false]
    exact Bool.eq_false_iff.mpr hrekey
  | output => exact attempts_of_initiates (tunnelNetifOutput_initiates s.g _ _ _)

lemma foldl_awaits_true {out : List (Event K H I)}
    (h : ∀ handshake, .startSession handshake ∉ out) : out.foldl Event.awaits true = true := by
  induction out with
  | nil => rfl
  | cons e out ih =>
    have hrest := ih fun handshake he => h handshake (List.mem_cons_of_mem _ he)
    cases e with
    | startSession handshake => exact absurd (by simp) (h handshake)
    | initiationSent i sent =>
      simp only [List.foldl_cons, Event.awaits, ite_self]
      exact hrest
    | transport | initiation | accepted | tcpipInput | rejection | rekey | keepalive | fault =>
      exact hrest

/-- The subtraction of the clock does not wrap once the interval has passed. -/
lemma interval_le_sub {now last : UInt64}
    (h : last.toNat + tsvitaRekeyIntervalUs.toNat ≤ now.toNat) :
    tsvitaRekeyIntervalUs ≤ now - last := by
  have hle : last ≤ now := UInt64.le_iff_toNat_le.mpr (by omega)
  rw [UInt64.le_iff_toNat_le, UInt64.toNat_sub_of_le _ _ hle]
  omega

lemma gateInv_run (hl : Lawful lib m) {endpoint : Endpoint} {handshake : H} {key : K}
    {clock : UInt64} {inputs : List (Action R)} {events : List (Event K H I)} {s : State K H I}
    (h : Run (ofStep (step lib)) (initialState endpoint handshake key clock) inputs events s) :
    s.g.peer.isSome ∧ GateInv events s.g := by
  obtain ⟨⟨is, hmoves⟩, -⟩ := run_moves hl h
  refine ⟨peer_isSome_of_moves hmoves rfl, ?_⟩
  exact hmoves.invariant (P := GateInv) (iff_of_true rfl rfl) fun _ _ _ _ _ hg hm =>
    gateInv_move hg hm

/-- Once an initiation waits for its answer, nothing but the start of a session lets the
loop attempt a handshake again, however long it runs. -/
theorem no_attempt_until_session (hl : Lawful lib m) {endpoint : Endpoint} {handshake : H} {key : K}
    {clock : UInt64} {inputs later : List (Action R)} {events out : List (Event K H I)}
    {s t : State K H I}
    (h : Run (ofStep (step lib)) (initialState endpoint handshake key clock) inputs events s)
    (hwaits : unanswered events = true) (hlater : Run (ofStep (step lib)) s later out t)
    (hnone : ∀ handshake, .startSession handshake ∉ out) : attempts out = false := by
  induction hlater with
  | nil => rfl
  | @snoc later out out' u t a prior hstep ih =>
    have hprior : ∀ handshake, .startSession handshake ∉ out :=
      fun handshake he => hnone handshake (List.mem_append_left _ he)
    obtain ⟨hpeer, hgate⟩ := gateInv_run hl (h.append prior)
    have hshut : u.g.pendingHandshakeSender ≠ 0 := by
      unfold GateInv at hgate
      rw [Ne, hgate, unanswered_append, hwaits, foldl_awaits_true hprior]
      simp
    rw [attempts_append, ih hprior, Bool.false_or]
    exact (step_steps hl hpeer hstep).1.attempts_eq_false hshut

/-- In every run, an iteration that is due attempts a handshake if and only if the last
initiation that was sent has been answered. -/
theorem rekey_attempted_iff (hl : Lawful lib m) {endpoint : Endpoint} {handshake : H} {key : K}
    {clock now : UInt64} {inputs : List (Action R)} {events out : List (Event K H I)}
    {s s' : State K H I} {draw : R} {initiationSent transportSent : ℤ} {processTime : UInt64}
    (h : Run (ofStep (step lib)) (initialState endpoint handshake key clock) inputs events s)
    (hrx : s.rx = .maintaining now) (hdue : Due s now)
    (hstep : step lib s (.maintain draw initiationSent transportSent processTime) =
      some (s', out)) : attempts out = true ↔ unanswered events = false := by
  obtain ⟨hpeer, hgate⟩ := gateInv_run hl h
  unfold GateInv at hgate
  obtain ⟨t, hlast, hpassed⟩ := hdue.handshake
  have hkept : s.g.lastHandshakeUs = t := by
    rw [(timesInv_run hl h).handshake, lastTime, hlast]
    rfl
  rw [step_maintain_attempts hpeer hrx hstep, hgate, hkept]
  exact and_iff_left (interval_le_sub hpassed)

/-- The first rekey is answered, and the loop goes on for another 100 seconds. -/
def answeredRun : List (Action (Option UInt32)) :=
  [.connect (some 7) 148 10, .await 20 (some (⟨1, 2⟩, symbolicResponse 7)) 30,
    .receive none ⟨true, true⟩ 40, .readClock 100000030, .maintain (some 8) 148 48 100000040,
    .receive (some (⟨1, 2⟩, symbolicResponse 8)) ⟨true, true⟩ 100000050, .readClock 100000060,
    .maintain none 0 0 100000070, .receive none ⟨true, true⟩ 200000050, .readClock 200000050]

theorem rekey_attempted_iff_answered :
    ∃ events s s' out, Run (ofStep (step symbolic)) (initialState ⟨1, 2⟩ none (0, true) 0)
        answeredRun events s ∧ Due s 200000050 ∧
      step symbolic s (.maintain (some 9) 148 48 200000060) = some (s', out) ∧
      attempts out = true := by
  have hview : (exec (step symbolic) (initialState ⟨1, 2⟩ none (0, true) 0) answeredRun).map
      (fun r => (r.1.rx, r.1.handshakes.getLast?, r.1.sent.getLast?, unanswered r.2,
        (step symbolic r.1 (.maintain (some 9) 148 48 200000060)).isSome)) =
      some (.maintaining 200000050, some 100000050, some (8, 100000040), false, true) := by
    decide +kernel
  obtain ⟨r, hr, hview⟩ := Option.map_eq_some_iff.mp hview
  simp only [Prod.mk.injEq] at hview
  obtain ⟨hrx, hlast, hsent, hanswered, hsome⟩ := hview
  obtain ⟨q, hq⟩ := Option.isSome_iff_exists.mp hsome
  have hdue : Due r.1 200000050 := by
    refine ⟨⟨100000050, hlast, by decide⟩, fun p hp => ?_⟩
    rw [hsent] at hp
    cases hp
    decide
  refine ⟨r.2, r.1, q.1, q.2, run_of_exec hr, hdue, hq, ?_⟩
  exact (rekey_attempted_iff symbolic_lawful (run_of_exec hr) hrx hdue hq).mpr hanswered

/-- The response to the first rekey is lost. -/
def lostResponseRun : List (Action (Option UInt32)) :=
  [.connect (some 7) 148 10, .await 20 (some (⟨1, 2⟩, symbolicResponse 7)) 30,
    .receive none ⟨true, true⟩ 40, .readClock 100000030, .maintain (some 8) 148 48 100000040,
    .receive none ⟨true, true⟩ 200000040, .readClock 200000040]

theorem rekey_not_attempted_lost :
    ∃ events s s' out, Run (ofStep (step symbolic)) (initialState ⟨1, 2⟩ none (0, true) 0)
        lostResponseRun events s ∧ s.rx = .maintaining 200000040 ∧ Due s 200000040 ∧
      step symbolic s (.maintain (some 9) 148 48 200000050) = some (s', out) ∧
      attempts out = false := by
  have hview : (exec (step symbolic) (initialState ⟨1, 2⟩ none (0, true) 0) lostResponseRun).map
      (fun r => (r.1.rx, r.1.handshakes.getLast?, r.1.sent.getLast?,
        (step symbolic r.1 (.maintain (some 9) 148 48 200000050)).map fun q => attempts q.2)) =
      some (.maintaining 200000040, some 30, some (8, 100000040), some false) := by
    decide +kernel
  obtain ⟨r, hr, hview⟩ := Option.map_eq_some_iff.mp hview
  simp only [Prod.mk.injEq] at hview
  obtain ⟨hrx, hlast, hsent, hstep⟩ := hview
  obtain ⟨q, hq, hattempts⟩ := Option.map_eq_some_iff.mp hstep
  have hdue : Due r.1 200000040 := by
    refine ⟨⟨30, hlast, by decide⟩, fun p hp => ?_⟩
    rw [hsent] at hp
    cases hp
    decide
  exact ⟨r.2, r.1, q.1, q.2, run_of_exec hr, hrx, hdue, hq, hattempts⟩

end MoonlightVita.Tunnel
