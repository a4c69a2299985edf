import MoonlightVita.TunnelFrames

/-!
# The times that the tunnel keeps

`last_handshake_us` and `last_transport_tx_us` are written in one place each. In every run they
are the times of the last session that was started and of the last transport packet that was
sent as a whole.
-/
namespace MoonlightVita.Tunnel
open Fallible Transition

variable {K H R I : Type} {lib : Wireguard K H R I} {m : Meaning K H I}

/-- The last of these times; the program starts from zero. -/
def lastTime (times : List UInt64) : UInt64 := times.getLast?.getD 0

/-- The program keeps the times of the history. -/
structure TimesInv (s : State K H I) : Prop where
  handshake : s.g.lastHandshakeUs = lastTime s.handshakes
  transport : s.g.lastTransportTxUs = lastTime s.transports

/-- What a section that ends at this time does to what is kept. -/
structure Stamped (g g' : TunnelContext K H) (clock : UInt64) (out : List (Event K H I)) :
    Prop where
  handshake : g'.lastHandshakeUs = if out.any Event.isSession then clock else g.lastHandshakeUs
  transport : g'.lastTransportTxUs = if out.any Event.isWhole then clock else g.lastTransportTxUs

section History
variable (P : Event K H I → Bool) (history : List (Event K H I × UInt64)) (clock : UInt64)
  (out : List (Event K H I))

lemma times_append : times P (history ++ out.map fun e => (e, clock)) =
    times P history ++ (out.filter P).map fun _ => clock := by
  rw [times, List.filter_append, List.map_append, List.filter_map, List.map_map]
  rfl

lemma lastTime_append : lastTime (times P (history ++ out.map fun e => (e, clock))) =
    if out.any P then clock else lastTime (times P history) := by
  rw [times_append, lastTime, List.getLast?_append, List.getLast?_map]
  cases hlast : (out.filter P).getLast? with
  | none =>
    have hnone : out.any P = false := by
      rw [List.getLast?_eq_none_iff, List.filter_eq_nil_iff] at hlast
      exact List.any_eq_false.mpr hlast
    rw [if_neg (by simp [hnone])]
    rfl
  | some e =>
    have hmem : e ∈ out.filter P := List.mem_of_getLast? hlast
    have hsome : out.any P = true := List.any_eq_true.mpr ⟨e, List.mem_filter.mp hmem⟩
    rw [if_pos hsome]
    rfl

end History

section Sections
variable {g g' g'' : TunnelContext K H} {clock : UInt64} {out out' : List (Event K H I)}

lemma Stamped.append (h : Stamped g g' clock out) (h' : Stamped g' g'' clock out') :
    Stamped g g'' clock (out ++ out') where
  handshake := by
    rw [h'.handshake, h.handshake, List.any_append]
    cases out.any Event.isSession <;> cases out'.any Event.isSession <;> rfl
  transport := by
    rw [h'.transport, h.transport, List.any_append]
    cases out.any Event.isWhole <;> cases out'.any Event.isWhole <;> rfl

/-- A section that neither starts a session nor sends a packet as a whole. -/
lemma Stamped.keep (hhandshake : g'.lastHandshakeUs = g.lastHandshakeUs)
    (htransport : g'.lastTransportTxUs = g.lastTransportTxUs)
    (hsession : out.any Event.isSession = false) (hwhole : out.any Event.isWhole = false) :
    Stamped g g' clock out :=
  ⟨by rw [hhandshake, hsession]; rfl, by rw [htransport, hwhole]; rfl⟩

lemma stamped_same (g : TunnelContext K H) (clock : UInt64) :
    Stamped g g clock ([] : List (Event K H I)) :=
  .keep rfl rfl rfl rfl

/-- The datagram of a transport packet: its header, the padded packet and the tag. -/
lemma length_sealed (hl : Lawful lib m) (receiver : UInt32) (key : K) (counter : UInt64)
    (padded : Bytes) : (transportHeader receiver counter ++ m.aead key counter padded).length =
      sizeofTransportData + padded.length + authtagLen := by
  rw [List.length_append, length_transportHeader, hl.aead_length, Nat.add_assoc]

lemma sendTransportLocked_stamped (hl : Lawful lib m) (g : TunnelContext K H) (inner : Bytes)
    (sent : ℤ) (processTime : UInt64) :
    Stamped g (sendTransportLocked lib g inner sent processTime).g processTime
      (sendTransportLocked lib g inner sent processTime).events := by
  unfold sendTransportLocked
  cases g.peer with
  | none => exact stamped_same g _
  | some peer =>
    by_cases hguard : !(peer.keypair .curr).sendingValid ∨ tsvitaInnerMtu < inner.length
    · simp only [if_pos hguard]
      exact stamped_same g _
    simp only [if_neg hguard, hl.encrypt]
    have hsize := length_sealed hl (peer.keypair .curr).remoteIndex (peer.keypair .curr).sendingKey
      (peer.keypair .curr).sendingCounter (pad inner)
    by_cases hsent : sent ≠ ((sizeofTransportData + (pad inner).length + authtagLen : ℕ) : ℤ)
    · simp only [if_pos hsent]
      refine .keep rfl rfl rfl ?_
      simpa [Event.isWhole, hsize] using hsent
    · simp only [if_neg hsent]
      push Not at hsent
      refine ⟨rfl, ?_⟩
      simp [Event.isWhole, hsize, hsent]

lemma tunnelNetifOutput_stamped (hl : Lawful lib m) (g : TunnelContext K H)
    (packet : Option Pbuf) (sent : ℤ) (processTime : UInt64) :
    Stamped g (tunnelNetifOutput lib g packet sent processTime).2.1 processTime
      (tunnelNetifOutput lib g packet sent processTime).2.2 := by
  unfold tunnelNetifOutput
  cases packet with
  | none => exact stamped_same g _
  | some packet =>
    dsimp only
    split_ifs
    · exact stamped_same g _
    · exact stamped_same g _
    · exact sendTransportLocked_stamped hl g _ sent processTime
    · exact sendTransportLocked_stamped hl g _ sent processTime

lemma sendHandshakeLocked_stamped (g : TunnelContext K H) (draw : R) (sent : ℤ)
    (clock : UInt64) :
    Ensures (fun r => Stamped g r.g clock r.events) (sendHandshakeLocked lib g draw sent) := by
  unfold sendHandshakeLocked
  cases g.peer with
  | none => exact ensures_none
  | some peer =>
    dsimp only
    split
    · exact ensures_some (.keep rfl rfl rfl rfl)
    · exact ensures_ite (ensures_some (.keep rfl rfl rfl rfl))
        (ensures_some (.keep rfl rfl rfl rfl))

lemma processHandshakeResponseLocked_stamped (g : TunnelContext K H) (packet : Bytes)
    (processTime : UInt64) : Ensures (fun r => Stamped g r.g processTime r.events)
      (processHandshakeResponseLocked lib g packet processTime) := by
  unfold processHandshakeResponseLocked
  refine ensures_ite (ensures_some (stamped_same g _)) (ensures_bind fun receiver => ?_)
  refine ensures_ite (ensures_some (stamped_same g _)) ?_
  refine ensures_bind fun covered => ensures_bind fun mac1 => ?_
  refine ensures_ite (ensures_some (stamped_same g _)) (ensures_bind fun peer => ?_)
  split
  · exact ensures_some (.keep rfl rfl rfl rfl)
  · exact ensures_some ⟨rfl, rfl⟩

lemma deliverPlaintext_stamped (g : TunnelContext K H) (key : K) (counter : UInt64)
    (plaintext : Bytes) (plaintextSize : ℕ) (delivery : Delivery) (clock : UInt64) :
    Ensures (fun r => Stamped g r.g clock r.events)
      (deliverPlaintext (I := I) g key counter plaintext plaintextSize delivery) := by
  have hkeep : Ensures (fun r => Stamped g r.g clock r.events)
      (some ⟨0, g, [.accepted key counter]⟩ : Option (Result K H I)) :=
    ensures_some (.keep rfl rfl rfl rfl)
  unfold deliverPlaintext
  refine ensures_ite hkeep (ensures_ite (ensures_some (.keep rfl rfl rfl rfl)) ?_)
  refine ensures_bind fun version => ensures_bind fun destination => ?_
  refine ensures_ite (ensures_some (.keep rfl rfl rfl rfl)) ?_
  refine ensures_bind fun high => ensures_bind fun low => ?_
  refine ensures_ite (ensures_some (.keep rfl rfl rfl rfl)) (ensures_bind fun packet => ?_)
  refine ensures_ite (ensures_some (.keep rfl rfl rfl rfl)) (ensures_ite ?_ ?_)
  · exact ensures_some (.keep rfl rfl rfl rfl)
  · exact ensures_some (.keep rfl rfl rfl rfl)

lemma processTransportLocked_stamped (g : TunnelContext K H) (incoming : Bytes)
    (delivery : Delivery) (clock : UInt64) : Ensures (fun r => Stamped g r.g clock r.events)
      (processTransportLocked lib g incoming delivery) := by
  unfold processTransportLocked
  refine ensures_ite (ensures_some (stamped_same g _)) ?_
  refine ensures_bind fun peer => ensures_bind fun receiver => ?_
  split
  · exact ensures_some (stamped_same g _)
  refine ensures_ite (ensures_some (stamped_same g _)) ?_
  refine ensures_bind fun counterBytes => ensures_bind fun encrypted => ?_
  refine ensures_ite ensures_none ?_
  split
  · exact ensures_some (stamped_same g _)
  refine ensures_ite (ensures_some (.keep rfl rfl rfl rfl)) ?_
  intro r hr
  obtain ⟨hhandshake, htransport⟩ := deliverPlaintext_stamped _ _ _ _ _ _ clock r hr
  exact ⟨hhandshake, htransport⟩

lemma processLocked_stamped (g : TunnelContext K H) (incoming : Bytes) (delivery : Delivery)
    (processTime : UInt64) : Ensures (fun r => Stamped g r.g processTime r.events)
      (processLocked lib g incoming delivery processTime) := by
  unfold processLocked
  refine ensures_ite (processHandshakeResponseLocked_stamped g incoming processTime) ?_
  refine ensures_ite (processTransportLocked_stamped g incoming delivery processTime) ?_
  exact ensures_some (stamped_same g _)

lemma recordTransportRejection_stamped (g : TunnelContext K H) (result : ℤ) (clock : UInt64) :
    Stamped (I := I) g (recordTransportRejection (I := I) g result).1 clock
      (recordTransportRejection g result).2 := by
  unfold recordTransportRejection rejectionLog
  split_ifs <;> exact .keep rfl rfl rfl rfl

lemma receiveDatagram_stamped (g : TunnelContext K H) (received : Received)
    (delivery : Delivery) (processTime : UInt64) :
    Ensures (fun r => Stamped g r.1 processTime r.2)
      (receiveDatagram lib g received delivery processTime) := by
  unfold receiveDatagram
  rcases received with _ | ⟨source, incoming⟩
  · exact ensures_some (stamped_same g _)
  refine ensures_ite ?_ (ensures_some (stamped_same g _))
  intro r hr
  simp only [Option.bind_eq_bind, Option.bind_eq_some_iff] at hr
  obtain ⟨q, hq, hr⟩ := hr
  have hprocessed := processLocked_stamped g incoming delivery processTime q hq
  split_ifs at hr
  · cases hr
    exact hprocessed.append (recordTransportRejection_stamped q.g q.result processTime)
  · cases hr
    exact hprocessed

lemma maintainRekey_stamped (g : TunnelContext K H) (now : UInt64) (draw : R) (sent : ℤ)
    (clock : UInt64) :
    Ensures (fun r => Stamped g r.1 clock r.2) (maintainRekey lib g now draw sent) := by
  unfold maintainRekey
  refine ensures_ite ?_ (ensures_some (stamped_same g _))
  intro r hr
  simp only [Option.bind_eq_bind, Option.bind_eq_some_iff] at hr
  obtain ⟨q, hq, hr⟩ := hr
  cases hr
  exact (sendHandshakeLocked_stamped g draw sent clock q hq).append (.keep rfl rfl rfl rfl)

lemma maintainKeepalive_stamped (hl : Lawful lib m) (g : TunnelContext K H) (now : UInt64)
    (sent : ℤ) (processTime : UInt64) :
    Stamped g (maintainKeepalive lib g now sent processTime).1 processTime
      (maintainKeepalive lib g now sent processTime).2 := by
  unfold maintainKeepalive
  cases g.peer with
  | none => exact stamped_same g _
  | some peer =>
    dsimp only
    split_ifs
    · exact (sendTransportLocked_stamped hl g [] sent processTime).append (.keep rfl rfl rfl rfl)
    · exact stamped_same g _

end Sections

section Steps
variable {s : State K H I} {a : Action R} {r : State K H I × List (Event K H I)}

lemma step_stamped (hl : Lawful lib m) (hpeer : s.g.peer.isSome) (h : step lib s a = some r) :
    Stamped s.g r.1.g r.1.clock r.2 := by
  cases step_fired h with
  | @connect draw sent processTime =>
    obtain ⟨q, hq⟩ : ∃ q, sendHandshakeLocked lib s.g draw sent = some q :=
      Option.isSome_iff_exists.mp (sendHandshakeLocked_isSome hpeer draw sent)
    simp only [stepConnect, hq, State.advance]
    exact sendHandshakeLocked_stamped s.g draw sent processTime q hq
  | @await deadline now processTime received =>
    rcases received with _ | ⟨source, incoming⟩
    · exact stamped_same s.g _
    simp only [stepAwait]
    split_ifs
    · obtain ⟨q, hq⟩ : ∃ q, processHandshakeResponseLocked lib s.g incoming processTime = some q :=
        Option.isSome_iff_exists.mp (processHandshakeResponseLocked_isSome hpeer _ _)
      simp only [hq, State.advance]
      exact processHandshakeResponseLocked_stamped s.g incoming processTime q hq
    · exact stamped_same s.g _
  | expire => exact stamped_same s.g _
  | @receive received delivery processTime =>
    obtain ⟨q, hq⟩ := Option.isSome_iff_exists.mp
      (receiveDatagram_isSome hl hpeer received delivery processTime)
    simp only [stepReceive, hq, State.advance]
    exact receiveDatagram_stamped s.g received delivery processTime q hq
  | readClock => exact stamped_same s.g _
  | @maintain now processTime draw initiationSent transportSent =>
    obtain ⟨q, hq⟩ : ∃ q, maintainRekey lib s.g now draw initiationSent = some q :=
      Option.isSome_iff_exists.mp (maintainRekey_isSome hpeer _ _ _)
    simp only [stepMaintain, hq, State.advance]
    exact (maintainRekey_stamped s.g now draw initiationSent processTime q hq).append
      (maintainKeepalive_stamped hl q.1 now transportSent processTime)
  | output => exact tunnelNetifOutput_stamped hl s.g _ _ _

lemma timesInv_step (hl : Lawful lib m) (hpeer : s.g.peer.isSome) (hs : TimesInv s)
    (h : step lib s a = some r) : TimesInv r.1 := by
  have hstamped := step_stamped hl hpeer h
  have hhistory := (step_steps hl hpeer h).2
  constructor
  · rw [hstamped.handshake, State.handshakes, hhistory, lastTime_append, hs.handshake]
    rfl
  · rw [hstamped.transport, State.transports, hhistory, lastTime_append, hs.transport]
    rfl

/-- The two times that the program keeps are right in every run. -/
theorem timesInv_run (hl : Lawful lib m) {endpoint : Endpoint} {handshake : H} {key : K}
    {clock : UInt64} {inputs : List (Action R)} {events : List (Event K H I)}
    (h : Run (ofStep (step lib)) (initialState endpoint handshake key clock) inputs events s) :
    TimesInv s := by
  refine (h.invariant (P := fun _ s => s.g.peer.isSome ∧ TimesInv s) ⟨rfl, rfl, rfl⟩ ?_).2
  rintro events s a out t ⟨hpeer, hs⟩ hstep
  exact ⟨peer_isSome_step hl hpeer hstep, timesInv_step hl hpeer hs hstep⟩

end Steps

end MoonlightVita.Tunnel
