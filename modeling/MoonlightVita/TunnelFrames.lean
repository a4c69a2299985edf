import MoonlightVita.Fallible
import MoonlightVita.TunnelMachine

/-!
# What the sections under the mutex leave alone

Handshakes and received packets touch neither the time of the last transport send
nor the counters of sent and rejected packets.
-/
namespace MoonlightVita.Tunnel
open Fallible LittleEndian ReplayWindow

variable {K H R I : Type} {lib : Wireguard K H R I}

structure Frame (g g' : TunnelContext K H) : Prop where
  endpoint : g'.endpoint = g.endpoint
  lastTransportTxUs : g'.lastTransportTxUs = g.lastTransportTxUs
  txPackets : g'.txPackets = g.txPackets
  decryptRejects : g'.decryptRejects = g.decryptRejects
  replayRejects : g'.replayRejects = g.replayRejects
  otherRejects : g'.otherRejects = g.otherRejects

@[simp] lemma Frame.refl (g : TunnelContext K H) : Frame g g := ⟨rfl, rfl, rfl, rfl, rfl, rfl⟩

lemma sendHandshakeLocked_frame (g : TunnelContext K H) (draw : R) (sent : ℤ) :
    Ensures (fun r => Frame g r.g) (sendHandshakeLocked lib g draw sent) := by
  unfold sendHandshakeLocked
  cases g.peer with
  | none => exact ensures_none
  | some peer =>
    dsimp only
    split
    · exact ensures_some ⟨rfl, rfl, rfl, rfl, rfl, rfl⟩
    · refine ensures_ite (ensures_some ?_) (ensures_some ?_)
      · exact ⟨rfl, rfl, rfl, rfl, rfl, rfl⟩
      · exact ⟨rfl, rfl, rfl, rfl, rfl, rfl⟩

lemma processHandshakeResponseLocked_frame (g : TunnelContext K H) (packet : Bytes)
    (processTime : UInt64) :
    Ensures (fun r => Frame g r.g) (processHandshakeResponseLocked lib g packet processTime) := by
  unfold processHandshakeResponseLocked
  refine ensures_ite (ensures_some (Frame.refl g)) (ensures_bind fun receiver => ?_)
  refine ensures_ite (ensures_some (Frame.refl g)) ?_
  refine ensures_bind fun covered => ensures_bind fun mac1 => ?_
  refine ensures_ite (ensures_some (Frame.refl g)) (ensures_bind fun peer => ?_)
  split
  · exact ensures_some ⟨rfl, rfl, rfl, rfl, rfl, rfl⟩
  · exact ensures_some ⟨rfl, rfl, rfl, rfl, rfl, rfl⟩

lemma deliverPlaintext_frame (g : TunnelContext K H) (key : K) (counter : UInt64)
    (plaintext : Bytes) (plaintextSize : ℕ) (delivery : Delivery) :
    Ensures (fun r => Frame g r.g)
      (deliverPlaintext (I := I) g key counter plaintext plaintextSize delivery) := by
  unfold deliverPlaintext
  refine ensures_ite (ensures_some (Frame.refl g)) (ensures_ite (ensures_some (Frame.refl g)) ?_)
  refine ensures_bind fun version => ensures_bind fun destination => ?_
  refine ensures_ite (ensures_some (Frame.refl g)) ?_
  refine ensures_bind fun high => ensures_bind fun low => ?_
  refine ensures_ite (ensures_some (Frame.refl g)) (ensures_bind fun packet => ?_)
  refine ensures_ite (ensures_some (Frame.refl g)) (ensures_ite (ensures_some (Frame.refl g)) ?_)
  exact ensures_some ⟨rfl, rfl, rfl, rfl, rfl, rfl⟩

lemma processTransportLocked_frame (g : TunnelContext K H) (incoming : Bytes)
    (delivery : Delivery) :
    Ensures (fun r => Frame g r.g) (processTransportLocked lib g incoming delivery) := by
  unfold processTransportLocked
  refine ensures_ite (ensures_some (Frame.refl g)) ?_
  refine ensures_bind fun peer => ensures_bind fun receiver => ?_
  split
  · exact ensures_some (Frame.refl g)
  refine ensures_ite (ensures_some (Frame.refl g)) ?_
  refine ensures_bind fun counterBytes => ensures_bind fun encrypted => ?_
  refine ensures_ite ensures_none ?_
  split
  · exact ensures_some (Frame.refl g)
  refine ensures_ite (ensures_some ⟨rfl, rfl, rfl, rfl, rfl, rfl⟩) ?_
  intro r hr
  obtain ⟨h1, h2, h3, h4, h5, h6⟩ := deliverPlaintext_frame _ _ _ _ _ _ r hr
  exact ⟨h1, h2, h3, h4, h5, h6⟩

lemma processLocked_frame (g : TunnelContext K H) (incoming : Bytes) (delivery : Delivery)
    (processTime : UInt64) :
    Ensures (fun r => Frame g r.g) (processLocked lib g incoming delivery processTime) := by
  unfold processLocked
  refine ensures_ite (processHandshakeResponseLocked_frame g incoming processTime) ?_
  refine ensures_ite (processTransportLocked_frame g incoming delivery) ?_
  exact ensures_some (Frame.refl g)

end MoonlightVita.Tunnel
