import MoonlightVita.TunnelLaunch

/-!
# The start of the tunnel as a run of the tunnel

`perform_initial_handshake` takes the same steps as the tunnel does before its receive
loop, so what holds of every run of the tunnel holds from `start_tunnel` on.
-/
namespace MoonlightVita.TunnelLaunch
open SampledLoop Transition Tunnel
open PeerConfig (Decode)

variable {K H R I : Type}

/-- The clock does not run backwards from one reading to the next. -/
def Clocked : UInt64 → List Sample → Prop
  | _, [] => True
  | clock, sample :: samples =>
    clock ≤ sample.now ∧ sample.now ≤ sample.processTime ∧ Clocked sample.processTime samples

/-- A state of the tunnel that stands for what a turn of the wait gives. -/
def Matches (deadline processTime : UInt64) (t : State K H I) :
    TunnelContext K H ⊕ Option (ℤ × TunnelContext K H) → Prop
  | .inl g => t.g = g ∧ t.rx = .awaiting deadline ∧ t.clock = processTime
  | .inr (some (result, g)) => t.g = g ∧ t.rx = if result < 0 then .failed else .receiving
  | .inr none => t.rx = .failed

section Handshake
variable {lib : Wireguard K H R I} {s : State K H I} {deadline : UInt64} {sample : Sample}

/-- The datagram as the buffer takes it. -/
def cut (received : Received) : Received :=
  received.map fun datagram => (datagram.1, datagram.2.take awaitCapacity)

lemma fits_cut (received : Received) : fits awaitCapacity (cut received) = true := by
  cases received with
  | none => rfl
  | some datagram => simp [fits, cut]

lemma stepAwait_matches (hnow : sample.now < deadline) :
    Matches deadline sample.processTime
      (stepAwait lib s deadline (cut sample.received) sample.processTime).1
      (handshakeTurn lib deadline s.g sample) := by
  rw [handshakeTurn, if_pos hnow]
  cases hreceived : sample.received with
  | none => exact ⟨rfl, rfl, rfl⟩
  | some datagram =>
    obtain ⟨source, datagram⟩ := datagram
    simp only [cut, Option.map_some, stepAwait]
    by_cases hpeer : 0 < (datagram.take awaitCapacity).length ∧ sourceIsPeer s.g source
    · rw [if_pos hpeer, if_pos hpeer]
      cases hr : processHandshakeResponseLocked lib s.g (datagram.take awaitCapacity)
          sample.processTime with
      | none => exact rfl
      | some r =>
        dsimp only
        by_cases hresult : r.result = 0
        · rw [if_pos hresult, if_pos hresult]
          exact ⟨rfl, rfl⟩
        · rw [if_neg hresult, if_neg hresult]
          exact ⟨rfl, rfl, rfl⟩
    · rw [if_neg hpeer, if_neg hpeer]
      exact ⟨rfl, rfl, rfl⟩

/-- A turn of the wait is a step of the tunnel. -/
lemma handshakeTurn_step (lib : Wireguard K H R I) (hrx : s.rx = .awaiting deadline)
    (hclock : s.clock ≤ sample.now) (hlater : sample.now ≤ sample.processTime) :
    ∃ a r, step lib s a = some r ∧
      Matches deadline sample.processTime r.1 (handshakeTurn lib deadline s.g sample) := by
  by_cases hnow : sample.now < deadline
  · refine ⟨.await sample.now (cut sample.received) sample.processTime, _, ?_,
      stepAwait_matches hnow⟩
    simp only [step, hrx]
    rw [if_pos ⟨hclock, hnow, hlater, fits_cut _⟩]
  · have hlate : deadline ≤ sample.now := UInt64.not_lt.mp hnow
    refine ⟨.expire sample.now, s.advance s.g .failed sample.now [], ?_, ?_⟩
    · simp only [step, hrx]
      rw [if_pos ⟨hclock, hlate⟩]
    · rw [handshakeTurn, if_neg hnow]
      exact ⟨rfl, rfl⟩

/-- The wait for the answer is a run of the tunnel. -/
lemma handshakeLoop_run {samples : List Sample} {result : ℤ} {g : TunnelContext K H}
    (hrx : s.rx = .awaiting deadline) (hclock : Clocked s.clock samples)
    (h : loop (handshakeTurn lib deadline) s.g samples = some (some (result, g))) :
    ∃ inputs events t, Run (ofStep (step lib)) s inputs events t ∧ t.g = g ∧
      t.rx = if result < 0 then .failed else .receiving := by
  induction samples generalizing s with
  | nil => cases h
  | cons sample samples ih =>
    obtain ⟨hnow, hlater, hclocked⟩ := hclock
    obtain ⟨a, ⟨t, out⟩, hstep, hmatches⟩ := handshakeTurn_step lib hrx hnow hlater
    have hsingle : Run (ofStep (step lib)) s [a] out t := Run.single hstep
    cases hturn : handshakeTurn lib deadline s.g sample with
    | inl g' =>
      rw [hturn] at hmatches
      obtain ⟨hg, hrx', hclock'⟩ := hmatches
      simp only [loop, hturn] at h
      rw [← hg] at h
      rw [← hclock'] at hclocked
      obtain ⟨inputs, events, u, hrun, hend⟩ := ih hrx' hclocked h
      exact ⟨_, _, u, hsingle.append hrun, hend⟩
    | inr returned =>
      simp only [loop, hturn, Option.some.injEq] at h
      rw [hturn, h] at hmatches
      exact ⟨_, _, t, hsingle, hmatches⟩

/-- The handshake of the start is a run of the tunnel, up to its receive loop or its failure. -/
theorem performInitialHandshake_run {g g' : TunnelContext K H} {o : Outcomes K H R}
    {clock : UInt64} {result : ℤ} (hclock : clock ≤ o.processTime)
    (hsamples : Clocked o.processTime o.samples)
    (h : performInitialHandshake lib g o = some (result, g')) :
    ∃ inputs events t, Run (ofStep (step lib)) ⟨g, .connecting, clock, []⟩ inputs events t ∧
      t.g = g' ∧ t.rx = if result < 0 then .failed else .receiving := by
  unfold performInitialHandshake at h
  cases hsend : sendHandshakeLocked lib g o.draw o.sent with
  | none => simp [hsend] at h
  | some r =>
    simp only [hsend] at h
    have hstep : step lib ⟨g, .connecting, clock, []⟩ (.connect o.draw o.sent o.processTime) =
        some (stepConnect lib ⟨g, .connecting, clock, []⟩ o.draw o.sent o.processTime) := by
      simp only [step]
      rw [if_pos ⟨trivial, hclock⟩]
    simp only [stepConnect, hsend] at hstep
    by_cases hresult : r.result < 0
    · rw [if_pos hresult, Option.some.injEq, Prod.mk.injEq] at h
      rw [if_pos hresult] at hstep
      refine ⟨_, _, _, Run.single hstep, h.2, ?_⟩
      rw [← h.1, if_pos hresult]
    · rw [if_neg hresult, Option.join_eq_some_iff] at h
      rw [if_neg hresult] at hstep
      obtain ⟨inputs, events, t, hrun, hend⟩ := handshakeLoop_run
        (s := (State.advance ⟨g, .connecting, clock, []⟩ r.g
          (.awaiting (o.processTime + tsvitaHandshakeTimeoutUs)) o.processTime r.events).1)
        rfl hsamples h
      exact ⟨_, _, t, Run.append (Run.single hstep) hrun, hend⟩

end Handshake

section Online
variable {lib : Wireguard K H R I} {decode : Decode} {uninitialised : List UInt8}
  {g : OuterTunnel K H} {o : Outcomes K H R} {r : Returned K H}

/-- A start that succeeds ends where a run of the tunnel enters its receive loop. -/
theorem startTunnel_run {clock : UInt64} (hclock : clock ≤ o.processTime)
    (hsamples : Clocked o.processTime o.samples)
    (h : startTunnel lib decode uninitialised g o = some r) (hresult : r.result = 0) :
    ∃ config endpoint, Loads decode uninitialised o config ∧ endpointOf config = some endpoint ∧
      ∃ inputs events s, Run (ofStep (step lib))
          ⟨peerContext o.peer endpoint, .connecting, clock, []⟩ inputs events s ∧
        s.rx = .receiving ∧ s.g = r.g.context := by
  rcases startTunnel_cases h with ⟨-, hfailed, -⟩ | ⟨config, privateKey, hloads, hpeer⟩
  · exact absurd hresult hfailed
  cases startTunnelPeer_ended hpeer with
  | stopped _ hfailed => exact absurd hresult hfailed
  | threadless _ _ hfailed => exact absurd hresult hfailed
  | online _ _ hcontext =>
    obtain ⟨endpoint, hendpoint, result, hhandshake, hle⟩ := hcontext
    obtain ⟨inputs, events, s, hrun, hg, hrx⟩ :=
      performInitialHandshake_run hclock hsamples hhandshake
    rw [if_neg (not_lt.mpr hle)] at hrx
    exact ⟨config, endpoint, hloads, hendpoint, inputs, events, s, hrun, hrx, hg⟩

end Online

end MoonlightVita.TunnelLaunch
