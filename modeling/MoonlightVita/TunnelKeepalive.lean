import MoonlightVita.TunnelTimes

/-!
# When the receive loop sends a keepalive

An iteration reads the clock before it takes the mutex. As long as no packet is sent
at a later time in between, a keepalive goes out only after the interval has passed.
-/
namespace MoonlightVita.Tunnel
open Fallible Transition

variable {K H R I : Type} {lib : Wireguard K H R I} {m : Meaning K H I}

/-- Whether `send_transport_locked` gets its datagram out. -/
def transportCompletes (g : TunnelContext K H) (inner : Bytes) (sent : ℤ) : Bool :=
  match g.peer with
  | none => false
  | some peer => (peer.keypair .curr).sendingValid && inner.length ≤ tsvitaInnerMtu &&
      sent = (sizeofTransportData + (pad inner).length + authtagLen : ℕ)

def outputCompletes (g : TunnelContext K H) (packet : Option Pbuf) (sent : ℤ) : Bool :=
  match packet with
  | none => false
  | some packet => 0 < packet.totLen && packet.totLen ≤ packet.payload.length &&
      transportCompletes g (packet.payload.take packet.totLen) sent

/-- No packet gets out at a later time than the clock reading of a waiting iteration. -/
def undisturbed (s : State K H I) (a : Action R) : Bool :=
  match s.rx, a with
  | .maintaining now, .output packet sent processTime =>
    !outputCompletes s.g packet sent || processTime ≤ now
  | _, _ => true

def Event.isKeepalive : Event K H I → Bool
  | .keepalive _ => true
  | _ => false

def sendsKeepalive (out : List (Event K H I)) : Bool := out.any Event.isKeepalive

lemma sendTransportLocked_lastTransportTxUs (g : TunnelContext K H) (inner : Bytes) (sent : ℤ)
    (processTime : UInt64) :
    (sendTransportLocked lib g inner sent processTime).g.lastTransportTxUs =
      if transportCompletes g inner sent then processTime else g.lastTransportTxUs := by
  unfold sendTransportLocked transportCompletes
  cases g.peer with
  | none => rfl
  | some peer =>
    dsimp only
    by_cases hvalid : (peer.keypair .curr).sendingValid = true
    · by_cases hlong : tsvitaInnerMtu < inner.length
      · simp [hvalid, hlong]
      by_cases hsent : sent = (sizeofTransportData + (pad inner).length + authtagLen : ℕ)
      · simp [hvalid, hlong, not_lt.mp hlong, hsent]
      · have hnot : decide (sent = (sizeofTransportData + (pad inner).length + authtagLen : ℕ)) =
            false := decide_eq_false hsent
        rw [if_neg (by simp [hvalid, hlong]), if_pos hsent]
        simp only [hnot, Bool.and_false, Bool.false_eq_true, if_false]
    · simp [hvalid]

lemma tunnelNetifOutput_lastTransportTxUs (g : TunnelContext K H) (packet : Option Pbuf)
    (sent : ℤ) (processTime : UInt64) :
    (tunnelNetifOutput lib g packet sent processTime).2.1.lastTransportTxUs =
      if outputCompletes g packet sent then processTime else g.lastTransportTxUs := by
  unfold tunnelNetifOutput outputCompletes
  cases packet with
  | none => rfl
  | some packet =>
    dsimp only
    by_cases hzero : packet.totLen = 0
    · simp [hzero]
    have hpos : 0 < packet.totLen := Nat.pos_of_ne_zero hzero
    by_cases hcopy : packet.totLen ≤ packet.payload.length
    · have hlength : (packet.payload.take packet.totLen).length = packet.totLen := by
        rw [List.length_take]
        omega
      by_cases hlong : tsvitaInnerMtu < packet.totLen
      · have hnot : transportCompletes g (packet.payload.take packet.totLen) sent = false := by
          unfold transportCompletes
          cases g.peer with
          | none => rfl
          | some peer => simp [hlength, hlong]
        simp [hlong, hnot]
      · rw [if_neg (by omega), if_neg (by omega), sendTransportLocked_lastTransportTxUs]
        simp [hpos, hcopy]
    · have hlength : (packet.payload.take packet.totLen).length ≠ packet.totLen := by
        rw [List.length_take]
        omega
      simp only [hcopy, decide_false, Bool.and_false, Bool.false_and, Bool.false_eq_true, if_false]
      split_ifs <;> rfl

lemma maintainRekey_lastTransportTxUs (g : TunnelContext K H) (now : UInt64) (draw : R)
    (sent : ℤ) : Ensures (fun r => r.1.lastTransportTxUs = g.lastTransportTxUs)
      (maintainRekey lib g now draw sent) := by
  unfold maintainRekey
  refine ensures_ite ?_ (ensures_some rfl)
  intro r hr
  simp only [Option.bind_eq_bind, Option.bind_eq_some_iff] at hr
  obtain ⟨q, hq, hr⟩ := hr
  cases hr
  exact (sendHandshakeLocked_frame g draw sent q hq).lastTransportTxUs

/-- The last transport send is not in the future of the clock, nor of a waiting iteration. -/
structure ClockInv (s : State K H I) : Prop where
  past : s.g.lastTransportTxUs ≤ s.clock
  waiting : ∀ now, s.rx = .maintaining now → s.g.lastTransportTxUs ≤ now

section Steps
variable {s : State K H I} {a : Action R} {r : State K H I × List (Event K H I)}

lemma clock_le_of_step (h : step lib s a = some r) : s.clock ≤ r.1.clock := by
  cases step_fired h with
  | connect _ clock =>
    unfold stepConnect
    split
    · exact UInt64.le_refl _
    · exact clock
  | await _ clock _ later =>
    unfold stepAwait
    split
    · exact UInt64.le_trans clock later
    · split_ifs
      · split
        · exact UInt64.le_refl _
        · exact UInt64.le_trans clock later
      · exact UInt64.le_trans clock later
  | receive _ clock =>
    unfold stepReceive
    split
    · exact UInt64.le_refl _
    · exact clock
  | maintain _ clock =>
    unfold stepMaintain
    split
    · exact UInt64.le_refl _
    · exact clock
  | expire _ clock | readClock _ clock | output clock => exact clock

/-- An iteration waits for the mutex from its reading of the clock on, while other threads send. -/
lemma maintaining_of_step (h : step lib s a = some r) {now : UInt64}
    (hrx : r.1.rx = .maintaining now) : a = .readClock now ∨
      s.rx = .maintaining now ∧ ∃ packet sent processTime, a = .output packet sent processTime := by
  cases step_fired h with
  | connect =>
    unfold stepConnect at hrx
    split at hrx
    · cases hrx
    · simp only [State.advance] at hrx
      split_ifs at hrx
  | await =>
    unfold stepAwait at hrx
    split at hrx
    · cases hrx
    · split_ifs at hrx
      · split at hrx
        · cases hrx
        · simp only [State.advance] at hrx
          split_ifs at hrx
      · cases hrx
  | receive =>
    unfold stepReceive at hrx
    split at hrx <;> cases hrx
  | maintain =>
    unfold stepMaintain at hrx
    split at hrx <;> cases hrx
  | expire => cases hrx
  | readClock =>
    cases hrx
    exact Or.inl rfl
  | output => exact Or.inr ⟨hrx, _, _, _, rfl⟩

theorem clockInv_step (hl : Lawful lib m) (hpeer : s.g.peer.isSome) (h : ClockInv s)
    (ha : undisturbed s a) (hstep : step lib s a = some r) : ClockInv r.1 where
  past := by
    rw [(step_stamped hl hpeer hstep).transport]
    split_ifs
    · exact UInt64.le_refl _
    · exact UInt64.le_trans h.past (clock_le_of_step hstep)
  waiting := by
    intro now hrx
    rcases maintaining_of_step hstep hrx with rfl | ⟨hwaiting, packet, sent, processTime, rfl⟩
    · cases step_fired hstep with
      | readClock _ clock => exact UInt64.le_trans h.past clock
    · cases step_fired hstep with
      | output clock =>
        have hlast : (tunnelNetifOutput lib s.g packet sent processTime).2.1.lastTransportTxUs = _ :=
          tunnelNetifOutput_lastTransportTxUs s.g packet sent processTime
        simp only [State.advance, hlast]
        split_ifs with hcompletes
        · simpa [undisturbed, hwaiting, hcompletes] using ha
        · exact h.waiting now hwaiting

lemma clockInv_run (hl : Lawful lib m) {endpoint : Endpoint} {handshake : H} {key : K}
    {clock : UInt64} {inputs : List (Action R)} {events : List (Event K H I)}
    (h : Run (restrict (ofStep (step lib)) fun s a => undisturbed s a)
      (initialState endpoint handshake key clock) inputs events s) : ClockInv s := by
  refine (h.invariant (P := fun _ s => s.g.peer.isSome ∧ ClockInv s) ⟨rfl, ?_, ?_⟩ ?_).2
  · exact UInt64.le_iff_toNat_le.mpr (Nat.zero_le _)
  · rintro now ⟨⟩
  · rintro events s a out t ⟨hpeer, hs⟩ ⟨ha, hstep⟩
    exact ⟨peer_isSome_step hl hpeer hstep, clockInv_step hl hpeer hs ha hstep⟩

end Steps

lemma maintainRekey_sendsKeepalive {g : TunnelContext K H} {now : UInt64} {draw : R} {sent : ℤ} :
    Ensures (fun r => sendsKeepalive r.2 = false) (maintainRekey lib g now draw sent) := by
  unfold maintainRekey
  refine ensures_ite ?_ (ensures_some rfl)
  intro r hr
  simp only [Option.bind_eq_bind, Option.bind_eq_some_iff] at hr
  obtain ⟨q, hq, hr⟩ := hr
  cases hr
  unfold sendHandshakeLocked at hq
  cases hpeer : g.peer with
  | none => simp [hpeer] at hq
  | some peer =>
    simp only [hpeer] at hq
    split at hq
    · cases hq
      rfl
    · split_ifs at hq
      all_goals
        cases hq
        rfl

lemma maintainKeepalive_due {g : TunnelContext K H} {now : UInt64} {sent : ℤ}
    {processTime : UInt64}
    (h : sendsKeepalive (maintainKeepalive lib g now sent processTime).2 = true) :
    tsvitaKeepaliveIntervalUs ≤ now - g.lastTransportTxUs := by
  unfold maintainKeepalive at h
  cases hpeer : g.peer with
  | none => simp [hpeer, sendsKeepalive] at h
  | some peer =>
    simp only [hpeer] at h
    split_ifs at h with hdue
    · exact hdue.2
    · simp [sendsKeepalive] at h

/-- In every run without a later packet between the clock reading of an iteration and its
critical section, the elapsed time does not wrap, and a keepalive is sent only once the
interval has passed since the last transport packet that was sent as a whole. -/
theorem keepalive_after_interval (hl : Lawful lib m) {endpoint : Endpoint} {handshake : H}
    {key : K} {clock now : UInt64} {inputs : List (Action R)} {events out : List (Event K H I)}
    {s s' : State K H I} {draw : R} {initiationSent transportSent : ℤ} {processTime : UInt64}
    (h : Run (restrict (ofStep (step lib)) fun s a => undisturbed s a)
      (initialState endpoint handshake key clock) inputs events s)
    (hrx : s.rx = .maintaining now)
    (hstep : step lib s (.maintain draw initiationSent transportSent processTime) =
      some (s', out)) :
    s.g.lastTransportTxUs ≤ now ∧ s.g.lastTransportTxUs = lastTime s.transports ∧
      (sendsKeepalive out = true → ∀ t, s.transports.getLast? = some t →
        t.toNat + tsvitaKeepaliveIntervalUs.toNat ≤ now.toNat) := by
  have hpast := (clockInv_run hl h).waiting now hrx
  have hkept := (timesInv_run hl h.of_restrict).transport
  refine ⟨hpast, hkept, fun hkeepalive t hlast => ?_⟩
  have ht : s.g.lastTransportTxUs = t := by
    rw [hkept, lastTime, hlast]
    rfl
  rw [← ht]
  simp only [step, hrx] at hstep
  split_ifs at hstep
  rw [Option.some.injEq] at hstep
  cases hr : maintainRekey lib s.g now draw initiationSent with
  | none =>
    simp only [stepMaintain, hr, State.fault, Prod.mk.injEq] at hstep
    rw [← hstep.2] at hkeepalive
    exact absurd hkeepalive (by simp [sendsKeepalive, Event.isKeepalive])
  | some r =>
    simp only [stepMaintain, hr, State.advance, Prod.mk.injEq] at hstep
    rw [← hstep.2, sendsKeepalive, List.any_append, Bool.or_eq_true] at hkeepalive
    have hrekey : r.2.any Event.isKeepalive = false := maintainRekey_sendsKeepalive r hr
    have hdue := maintainKeepalive_due (hkeepalive.resolve_left (by simp [hrekey]))
    rw [maintainRekey_lastTransportTxUs _ _ _ _ r hr, UInt64.le_iff_toNat_le,
      UInt64.toNat_sub_of_le _ _ hpast] at hdue
    have hle := UInt64.le_iff_toNat_le.mp hpast
    omega

/-- A packet goes out, and the loop is idle for 25 seconds. -/
def idleRun : List (Action (Option UInt32)) :=
  [.connect (some 7) 148 10, .await 20 (some (⟨1, 2⟩, symbolicResponse 7)) 30,
    .receive none ⟨true, true⟩ 31, .output (some ⟨3, [1, 2, 3]⟩) 48 35, .readClock 25000040]

theorem keepalive_after_interval_idle :
    ∃ events s s' out, Run (restrict (ofStep (step symbolic)) fun s a => undisturbed s a)
        (initialState ⟨1, 2⟩ none (0, true) 0) idleRun events s ∧
      step symbolic s (.maintain none 0 48 25000050) = some (s', out) ∧
      sendsKeepalive out = true ∧ s.transports.getLast? = some 35 ∧
      (35 : UInt64).toNat + tsvitaKeepaliveIntervalUs.toNat ≤ (25000040 : UInt64).toNat := by
  have hview : (exec (guarded (step symbolic) fun s a => undisturbed s a)
      (initialState ⟨1, 2⟩ none (0, true) 0) idleRun).map (fun r => (r.1.rx,
        r.1.transports.getLast?,
        (step symbolic r.1 (.maintain none 0 48 25000050)).map fun q => sendsKeepalive q.2)) =
      some (.maintaining 25000040, some 35, some true) := by
    decide +kernel
  obtain ⟨r, hr, hview⟩ := Option.map_eq_some_iff.mp hview
  simp only [Prod.mk.injEq] at hview
  obtain ⟨hrx, hlast, hstep⟩ := hview
  obtain ⟨q, hq, hkeepalive⟩ := Option.map_eq_some_iff.mp hstep
  have hrun := run_of_exec hr
  rw [ofStep_guarded] at hrun
  refine ⟨r.2, r.1, q.1, q.2, hrun, hq, hkeepalive, hlast, ?_⟩
  exact (keepalive_after_interval symbolic_lawful hrun hrx hq).2.2 hkeepalive 35 hlast

/-- A packet goes out between the clock reading of an iteration and its critical section. -/
def overtakenRun : List (Action (Option UInt32)) :=
  [.connect (some 7) 148 10, .await 20 (some (⟨1, 2⟩, symbolicResponse 7)) 30,
    .receive none ⟨true, true⟩ 40, .readClock 60, .output (some ⟨3, [1, 2, 3]⟩) 48 70]

theorem keepalive_too_early :
    ∃ events s s' out, Run (ofStep (step symbolic)) (initialState ⟨1, 2⟩ none (0, true) 0)
        overtakenRun events s ∧ s.rx = .maintaining 60 ∧ s.transports.getLast? = some 70 ∧
      step symbolic s (.maintain none 0 48 80) = some (s', out) ∧ sendsKeepalive out = true := by
  have hview : (exec (step symbolic) (initialState ⟨1, 2⟩ none (0, true) 0) overtakenRun).map
      (fun r => (r.1.rx, r.1.transports.getLast?,
        (step symbolic r.1 (.maintain none 0 48 80)).map fun q => sendsKeepalive q.2)) =
      some (.maintaining 60, some 70, some true) := by
    decide +kernel
  obtain ⟨r, hr, hview⟩ := Option.map_eq_some_iff.mp hview
  simp only [Prod.mk.injEq] at hview
  obtain ⟨hrx, hlast, hstep⟩ := hview
  obtain ⟨q, hq, hkeepalive⟩ := Option.map_eq_some_iff.mp hstep
  exact ⟨r.2, r.1, q.1, q.2, run_of_exec hr, hrx, hlast, hq, hkeepalive⟩

end MoonlightVita.Tunnel
